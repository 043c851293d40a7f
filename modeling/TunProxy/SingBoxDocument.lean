import TunProxy.JsonText
import TunProxy.SingBoxConfig

/-!
# The document that the core configuration is

Whatever bytes the log path, the interface name, the upstream address and the
bypass list are made of, the generated text is one JSON value: always the same
document but for these strings, the port and one truth value.
-/

namespace TunProxy

open ByteText JsonText

/-! ## Strings -/

/-- A hexadecimal digit is read as what it was written for. -/
theorem hexValue_digit {digit : Nat} (small : digit < 16) :
    hexValue ((ascii "0123456789abcdef").getD digit 0) = some digit := by
  have same : ∀ digit < 16, (ascii "0123456789abcdef").getD digit 0 = hexDigit digit := by
    decide +kernel
  rw [same digit small]
  exact hexValue_hexDigit small

/-- A control character is read back from its code. -/
theorem feed_control (text : Bytes) (parsing : Parsing) {character : UInt8}
    (control : character < 0x20) :
    State.feed ⟨.string text, parsing⟩
      (ascii "\\u00" ++ [(ascii "0123456789abcdef").getD (character.toNat / 16) 0,
        (ascii "0123456789abcdef").getD (character.toNat % 16) 0]) =
      some ⟨.string (text ++ [character]), parsing⟩ := by
  have small : character.toNat < 32 := UInt8.lt_iff_toNat_lt.mp control
  have first := @hexValue_digit (character.toNat / 16) (by omega)
  have second := @hexValue_digit (character.toNat % 16) (Nat.mod_lt _ (by omega))
  have code : character.toNat / 16 * 16 + character.toNat % 16 = character.toNat := by omega
  have plain : utf8 character.toNat = [character] := by
    simp [utf8, show character.toNat < 128 by omega]
  generalize (ascii "0123456789abcdef").getD (character.toNat / 16) 0 = high at first ⊢
  generalize (ascii "0123456789abcdef").getD (character.toNat % 16) 0 = low at second ⊢
  refine feed_literal rfl ?_
  simp [State.feed, State.feedByte, Reading.inside, first, second, State.emit, readCode, code,
    plain, show ¬ 0xd800 ≤ character.toNat by omega, show ¬ 0xdc00 ≤ character.toNat by omega]

/-- An escaped character is read back. -/
theorem feed_jsonEscapeByte (text : Bytes) (parsing : Parsing) (character : UInt8) :
    State.feed ⟨.string text, parsing⟩ (jsonEscapeByte character) =
      some ⟨.string (text ++ [character]), parsing⟩ := by
  by_cases named : character ∈ [34, 92, 8, 12, 10, 13, 9]
  · simp only [List.mem_cons, List.not_mem_nil, or_false] at named
    rcases named with rfl | rfl | rfl | rfl | rfl | rfl | rfl <;> rfl
  · simp only [List.mem_cons, List.not_mem_nil, or_false, not_or] at named
    obtain ⟨quote, backslash, backspace, feed, line, carriage, tab⟩ := named
    simp only [jsonEscapeByte, quote, backslash, backspace, feed, line, carriage, tab, if_false]
    split
    next control => exact feed_control text parsing control
    next printable =>
      simp [State.feed, State.feedByte, Reading.inside, quote, backslash, State.emit,
        show ¬ character < 32 from printable]

theorem feed_jsonEscape (text : Bytes) (parsing : Parsing) (value : Bytes) :
    State.feed ⟨.string text, parsing⟩ (jsonEscape value) =
      some ⟨.string (text ++ value), parsing⟩ := by
  induction value generalizing text with
  | nil => simp [jsonEscape, State.feed]
  | cons character value ih =>
      have rest := ih (text ++ [character])
      rw [List.append_assoc, List.singleton_append] at rest
      exact feed_piece (feed_jsonEscapeByte text parsing character) rest

/-- A string is a token. -/
theorem feed_jsonString {parsing parsed : Parsing} {value rest : Bytes} {last : Option State}
    (token : parseToken parsing (.string value) = some parsed)
    (further : State.feed ⟨.between, parsed⟩ rest = last) :
    State.feed ⟨.between, parsing⟩ (jsonString value ++ rest) = last := by
  have opened : State.feed ⟨.between, parsing⟩ (ascii "\"" ++ jsonEscape value) =
      some ⟨.string value, parsing⟩ :=
    feed_literal rfl (feed_jsonEscape [] parsing value)
  have closed : State.feed ⟨.string value, parsing⟩ (ascii "\"") = some ⟨.between, parsed⟩ := by
    simp [ascii, State.feed, State.feedByte, Reading.inside, State.emit, token]
  rw [jsonString]
  exact feed_piece (feed_piece opened closed) further

/-! ## Lists of strings -/

/-- Further items of an array, with the separator before each. -/
theorem feed_items (items : List Value) (stack : List Frame) (values : List Bytes) (rest : Bytes) :
    State.feed ⟨.between, .arrayNext items stack⟩
        (values.flatMap (fun value => ascii ", " ++ jsonString value) ++ rest) =
      State.feed ⟨.between, .arrayNext (items ++ values.map .string) stack⟩ rest := by
  induction values generalizing items with
  | nil => simp
  | cons value values ih =>
      rw [List.flatMap_cons, List.append_assoc, List.append_assoc]
      refine feed_literal rfl (feed_jsonString rfl ?_)
      refine (ih _).trans ?_
      simp

theorem intercalate_cons {α : Type} (separator first : List α) (others : List (List α)) :
    separator.intercalate (first :: others) =
      first ++ others.flatMap fun other => separator ++ other := by
  induction others generalizing first with
  | nil => simp
  | cons other others ih =>
      rw [List.intercalate_cons_cons, ih]
      simp

/-- A list of strings is read as an array of them. -/
theorem feed_writeStringArray {values : List Bytes} {stack : List Frame} {rest : Bytes}
    {last : Option State}
    (further : State.feed ⟨.between, complete (.array (values.map .string)) stack⟩ rest = last) :
    State.feed ⟨.between, .value stack⟩ (writeStringArray values ++ rest) = last := by
  cases values with
  | nil =>
      have empty : State.feed ⟨.between, .value stack⟩ (writeStringArray []) =
          some ⟨.between, complete (.array []) stack⟩ := rfl
      exact feed_piece empty further
  | cons value values =>
      rw [writeStringArray, List.map_cons, intercalate_cons, List.flatMap_map]
      simp only [List.append_assoc]
      refine feed_literal rfl (feed_jsonString rfl ?_)
      exact (feed_items _ stack values _).trans (feed_literal rfl further)

/-! ## The document -/

def numeral (number : Nat) : Value :=
  .number ⟨false, number, [], 0⟩

/-- The fixed document, with the inputs in their places. -/
def singBoxDocument (config : SingBoxRuntimeConfig) : Value :=
  .object [
    (ascii "log", .object [
      (ascii "level", .string (ascii "info")),
      (ascii "timestamp", .bool true),
      (ascii "output", .string config.logFile)]),
    (ascii "dns", .object [
      (ascii "servers", .array [
        .object [
          (ascii "type", .string (ascii "https")),
          (ascii "tag", .string (ascii "proxy-doh")),
          (ascii "server", .string (ascii "1.1.1.1")),
          (ascii "server_port", numeral 443),
          (ascii "path", .string (ascii "/dns-query")),
          (ascii "tls", .object [
            (ascii "enabled", .bool true),
            (ascii "server_name", .string (ascii "cloudflare-dns.com"))]),
          (ascii "detour", .string (ascii "proxy"))]]),
      (ascii "final", .string (ascii "proxy-doh")),
      (ascii "strategy", .string (ascii "prefer_ipv4"))]),
    (ascii "inbounds", .array [
      .object [
        (ascii "type", .string (ascii "tun")),
        (ascii "tag", .string (ascii "tun-in")),
        (ascii "interface_name", .string config.interfaceName),
        (ascii "address", .array [.string (ascii "198.18.0.1/30")]),
        (ascii "mtu", numeral 1500),
        (ascii "auto_route", .bool true),
        (ascii "auto_redirect", .bool config.autoRedirect),
        (ascii "strict_route", .bool true),
        (ascii "stack", .string (ascii "system")),
        (ascii "route_exclude_address", .array (config.bypassCidrs.map .string))]]),
    (ascii "outbounds", .array [
      .object [
        (ascii "type", .string (ascii "socks")),
        (ascii "tag", .string (ascii "proxy")),
        (ascii "server", .string config.upstream.address),
        (ascii "server_port", numeral config.upstream.configured.port.toNat),
        (ascii "version", .string (ascii "5")),
        (ascii "network", .string (ascii "tcp"))],
      .object [
        (ascii "type", .string (ascii "direct")),
        (ascii "tag", .string (ascii "direct"))]]),
    (ascii "route", .object [
      (ascii "rules", .array [
        .object [
          (ascii "ip_cidr", .array (config.bypassCidrs.map .string)),
          (ascii "action", .string (ascii "route")),
          (ascii "outbound", .string (ascii "direct"))],
        .object [
          (ascii "port", numeral 53),
          (ascii "action", .string (ascii "hijack-dns"))],
        .object [
          (ascii "network", .string (ascii "udp")),
          (ascii "action", .string (ascii "reject"))]]),
      (ascii "final", .string (ascii "proxy")),
      (ascii "auto_detect_interface", .bool true)])]

/-- The generated text is read as the document, wherever the inputs interrupt the
fixed parts. -/
theorem feed_config (config : SingBoxRuntimeConfig) :
    State.start.feed (configFront config ++
        ascii "    \"route_exclude_address\": " ++ writeStringArray config.bypassCidrs ++
        configMiddle config ++ ascii "    \"rules\": " ++ configRules config ++ configBack) =
      some ⟨.between, .done (singBoxDocument config)⟩ := by
  unfold configFront configMiddle configRules configBack kDnsServerAddress kDnsServerPath
    kDnsServerName kTunAddress
  simp only [List.append_assoc]
  -- the log path
  iterate 2 refine feed_literal rfl ?_
  refine feed_piece (feed_jsonEscape [] _ config.logFile) ?_
  -- the port of the resolver and the interface name
  iterate 6 refine feed_literal rfl ?_
  refine feed_numeral rfl rfl ?_
  iterate 11 refine feed_literal rfl ?_
  refine feed_piece (feed_jsonEscape [] _ config.interfaceName) ?_
  -- the size of packets and the kind of redirection
  iterate 4 refine feed_literal rfl ?_
  refine feed_numeral rfl rfl ?_
  iterate 2 refine feed_literal rfl ?_
  refine feed_bool rfl rfl ?_
  -- the excluded addresses
  iterate 2 refine feed_literal rfl ?_
  refine feed_writeStringArray ?_
  -- the upstream
  iterate 4 refine feed_literal rfl ?_
  refine feed_piece (feed_jsonEscape [] _ config.upstream.address) ?_
  refine feed_literal rfl ?_
  refine feed_numeral rfl rfl ?_
  -- the route rules
  iterate 5 refine feed_literal rfl ?_
  refine feed_writeStringArray ?_
  iterate 6 refine feed_literal rfl ?_
  refine (congrArg _ (ascii_ofList _)).trans ?_
  rfl

/-- Whatever the inputs are made of, the text that is generated is one JSON value,
and this is the fixed document with the inputs in their places. -/
theorem buildSingBoxConfig_decodes {config : SingBoxRuntimeConfig} {text : Bytes}
    (built : buildSingBoxConfig config = .ok text) :
    decode text = some (singBoxDocument config) := by
  unfold buildSingBoxConfig at built
  split at built
  · cases built
  split at built
  · cases built
  obtain rfl := Except.ok.inj built
  rw [decode, feed_config]
  rfl

/-- A log path with a quotation mark and a line break, and an interface name that
looks like a member of its own. -/
def hostileConfig : SingBoxRuntimeConfig where
  logFile := ascii "/var/log/\"a\"\n.log"
  upstream := ⟨⟨ascii "socks5", ascii "proxy.home", 7890⟩, ascii "192.0.2.10"⟩
  bypassCidrs := [ascii "192.0.2.10/32", ascii "10.0.0.0/8\", \"0.0.0.0/0"]
  autoRedirect := false
  interfaceName := ascii "tpx0\", \"mtu\": 9000, \"x\": \""

theorem buildSingBoxConfig_decodes_example : ∃ text,
    buildSingBoxConfig hostileConfig = .ok text ∧
    decode text = some (singBoxDocument hostileConfig) :=
  ⟨_, rfl, buildSingBoxConfig_decodes rfl⟩

/-! ## Reading the document -/

def tunInbound (document : Value) : Option Value :=
  (document.member (ascii "inbounds")).bind (Value.entry (ascii "type") (ascii "tun"))

def socksOutbound (document : Value) : Option Value :=
  (document.member (ascii "outbounds")).bind (Value.entry (ascii "type") (ascii "socks"))

def directRule (document : Value) : Option Value :=
  ((document.member (ascii "route")).bind (Value.member (ascii "rules"))).bind
    (Value.entry (ascii "outbound") (ascii "direct"))

section Reading

variable (config : SingBoxRuntimeConfig)

theorem excluded_singBoxDocument :
    ((tunInbound (singBoxDocument config)).bind
      (Value.member (ascii "route_exclude_address"))).bind Value.texts = some config.bypassCidrs :=
  Value.texts_array config.bypassCidrs

theorem direct_singBoxDocument :
    ((directRule (singBoxDocument config)).bind (Value.member (ascii "ip_cidr"))).bind Value.texts =
      some config.bypassCidrs :=
  Value.texts_array config.bypassCidrs

theorem autoRedirect_singBoxDocument :
    ((tunInbound (singBoxDocument config)).bind
      (Value.member (ascii "auto_redirect"))).bind Value.flag = some config.autoRedirect :=
  rfl

theorem server_singBoxDocument :
    ((socksOutbound (singBoxDocument config)).bind
        (Value.member (ascii "server"))).bind Value.text =
      some config.upstream.address :=
  rfl

end Reading

end TunProxy
