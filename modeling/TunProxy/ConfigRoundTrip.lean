import Mathlib.Data.List.DropRight
import TunProxy.ProxyManager
import TunProxy.StoredTexts
import TunProxy.UpstreamUri

/-!
# Saving and loading the configuration

The host is written as it is, and blanks at both ends of it are dropped when it
is read.  What is accepted as a host has no blank that separates words or
lines, but it may begin or end with one of the other two that are dropped.
-/

namespace TunProxy

open ByteText EffectProgram

/-! ## Trimming -/

theorem trim_eq (value : Bytes) : trim value = (value.dropWhile isSpace).rdropWhile isSpace :=
  rfl

theorem rdropWhile_append_cons {byte : UInt8} (front back : Bytes)
    (solid : isSpace byte = false) :
    (front ++ byte :: back).rdropWhile isSpace = front ++ byte :: back.rdropWhile isSpace := by
  have split : (front ++ byte :: back).reverse = back.reverse ++ (byte :: front.reverse) := by
    simp
  rw [List.rdropWhile, List.rdropWhile, split, List.dropWhile_append]
  by_cases blank : (back.reverse.dropWhile isSpace).isEmpty = true
  · simp only [blank, if_true, List.dropWhile_cons, solid]
    simp [List.isEmpty_iff.mp blank]
  · simp only [blank]
    simp

/-- Blanks at the end are dropped once or twice. -/
theorem trim_rdropWhile (value : Bytes) : trim (value.rdropWhile isSpace) = trim value := by
  induction value using List.reverseRecOn with
  | nil => rfl
  | append_singleton front last ih =>
      by_cases space : isSpace last = true
      · rw [List.rdropWhile_concat_pos _ _ _ space, ih, trim_eq, trim_eq, List.dropWhile_append]
        by_cases blank : (front.dropWhile isSpace).isEmpty = true
        · simp [List.isEmpty_iff.mp blank, space]
        · rw [if_neg blank, List.rdropWhile_concat_pos _ _ _ space]
      · rw [List.rdropWhile_concat_neg _ _ _ space]

/-- A text is kept as it is exactly if it neither begins nor ends with a blank. -/
theorem trim_eq_self_iff {value : Bytes} :
    trim value = value ↔ (∀ byte, value.head? = some byte → isSpace byte = false) ∧
      ∀ byte, value.getLast? = some byte → isSpace byte = false := by
  have last : value.rdropWhile isSpace = value ↔
      ∀ byte, value.getLast? = some byte → isSpace byte = false := by
    rw [List.rdropWhile_eq_self_iff]
    cases value with
    | nil => simp
    | cons byte rest =>
        rw [List.getLast?_eq_some_getLast (List.cons_ne_nil byte rest)]
        simp
  have first : value.dropWhile isSpace = value ↔
      ∀ byte, value.head? = some byte → isSpace byte = false := by
    cases value with
    | nil => simp
    | cons byte rest => simp
  rw [← first, ← last, trim_eq]
  constructor
  · intro same
    have front : value <+: value.dropWhile isSpace := by
      have shorter := List.rdropWhile_prefix isSpace (value.dropWhile isSpace)
      rwa [same] at shorter
    have kept : value.dropWhile isSpace = value :=
      (List.dropWhile_suffix isSpace).eq_of_length_le front.length_le
    exact ⟨kept, by rwa [kept] at same⟩
  · rintro ⟨front, back⟩
    rw [front, back]

/-! ## One line -/

/-- A key as it stands in the file. -/
structure PlainKey (key : Bytes) : Prop where
  solid : ∀ byte ∈ key, isSpace byte = false
  noEquals : equals ∉ key
  noComment : key.head? ≠ some 35
  nonempty : key ≠ []

theorem PlainKey.trim {key : Bytes} (plain : PlainKey key) : TunProxy.trim key = key :=
  trim_eq_self_iff.mpr ⟨fun byte first => plain.solid byte (List.mem_of_mem_head? first),
    fun byte last => plain.solid byte (List.mem_of_getLast? last)⟩

/-- A line loses the blanks at the end of its value. -/
theorem PlainKey.trim_line {key : Bytes} (plain : PlainKey key) (value : Bytes) :
    TunProxy.trim (key ++ equals :: value) = key ++ equals :: value.rdropWhile isSpace := by
  obtain ⟨byte, rest, rfl⟩ := List.exists_cons_of_ne_nil plain.nonempty
  have solid : isSpace byte = false := plain.solid byte List.mem_cons_self
  rw [trim_eq, List.cons_append, List.dropWhile_cons_of_neg (by simp [solid]), ← List.cons_append]
  exact rdropWhile_append_cons (byte :: rest) value (by decide)

/-- Which key and value a written line is read as. -/
theorem PlainKey.entry {key : Bytes} (plain : PlainKey key) (value : Bytes) :
    splitFirst equals (TunProxy.trim (key ++ equals :: value)) =
      some (key, value.rdropWhile isSpace) := by
  rw [plain.trim_line, splitFirst_append _ plain.noEquals]

theorem PlainKey.notSkipped {key : Bytes} (plain : PlainKey key) (value : Bytes) :
    ¬ ((TunProxy.trim (key ++ equals :: value)).isEmpty = true ∨
      (TunProxy.trim (key ++ equals :: value)).head? = some 35) := by
  obtain ⟨byte, rest, rfl⟩ := List.exists_cons_of_ne_nil plain.nonempty
  rw [plain.trim_line]
  simpa using plain.noComment

theorem plainKey_protocol : PlainKey (ascii "protocol") :=
  ⟨solid_of_all (by decide), by decide, by decide, by decide⟩

theorem plainKey_host : PlainKey (ascii "host") :=
  ⟨solid_of_all (by decide), by decide, by decide, by decide⟩

theorem plainKey_port : PlainKey (ascii "port") :=
  ⟨solid_of_all (by decide), by decide, by decide, by decide⟩

/-! ## The file -/

theorem trim_formatNat (number : Nat) : trim (formatNat number) = formatNat number := by
  have solid (byte : UInt8) (member : byte ∈ formatNat number) : isSpace byte = false := by
    by_contra blank
    rw [Bool.not_eq_false] at blank
    have digit := isDigit_of_mem_formatNat member
    have none : ∀ byte : UInt8, IsDigit byte → isSpace byte = false := by
      intro byte digit
      unfold IsDigit at digit
      simp only [isSpace, Bool.or_eq_false_iff, beq_eq_false_iff_ne, ne_eq,
        Bool.and_eq_false_imp, decide_eq_true_eq, decide_eq_false_iff_not]
      grind
    rw [none byte digit] at blank
    cases blank
  exact trim_eq_self_iff.mpr ⟨fun byte first => solid byte (List.mem_of_mem_head? first),
    fun byte last => solid byte (List.mem_of_getLast? last)⟩

/-- What is written is read with its host trimmed. -/
theorem parseConfig_writeConfig {upstream : Upstream}
    (valid : validateUpstream upstream = .ok upstream) :
    parseConfig (.ok (writeConfig upstream)) =
      validateUpstream { upstream with host := trim upstream.host } := by
  obtain ⟨-, socks5, validHost, port⟩ := validateUpstream_eq_ok valid
  have host := newline_notMem_of_isValidHost validHost
  have line (key value rest : Bytes) (keyPlain : newline ∉ key) (valuePlain : newline ∉ value) :
      lines (key ++ equals :: value ++ newline :: rest) =
        (key ++ equals :: value) :: lines rest := by
    refine lines_append rest ?_
    simp only [List.mem_append, List.mem_cons, not_or]
    exact ⟨keyPlain, by decide, valuePlain⟩
  have rows : lines (writeConfig upstream) = [ascii "protocol" ++ equals :: upstream.protocol,
      ascii "host" ++ equals :: upstream.host,
      ascii "port" ++ equals :: formatNat upstream.port.toNat] := by
    rw [writeConfig, line _ _ _ (by decide) (by rw [socks5]; decide),
      line _ _ _ (by decide) host, line _ _ _ (by decide) (notMem_formatNat _ (by decide)),
      lines_nil]
  have protocol : trim upstream.protocol = upstream.protocol := by
    rw [socks5]
    decide
  have number : parsePort (trim (formatNat upstream.port.toNat)) = .ok upstream.port := by
    rw [trim_formatNat, parsePort_formatNat port]
  have different : ascii "host" ≠ ascii "protocol" ∧ ascii "port" ≠ ascii "protocol" ∧
      ascii "port" ≠ ascii "host" := by decide
  simp only [parseConfig, rows, ConfigScan.lines, ConfigScan.line,
    plainKey_protocol.notSkipped, plainKey_host.notSkipped, plainKey_port.notSkipped,
    plainKey_protocol.entry, plainKey_host.entry, plainKey_port.entry,
    plainKey_protocol.trim, plainKey_host.trim, plainKey_port.trim, different, protocol, number,
    trim_rdropWhile, if_true, if_false, Bool.not_true, Bool.or_false]
  rfl

/-- The host neither begins nor ends with a vertical tab or a form feed. -/
def Upstream.Unpadded (upstream : Upstream) : Prop :=
  ∀ byte : UInt8, byte = 11 ∨ byte = 12 →
    upstream.host.head? ≠ some byte ∧ upstream.host.getLast? ≠ some byte

/-- Of the blanks that are dropped a valid host may only have these two. -/
theorem isSpace_of_mem_host {host : Bytes} {byte : UInt8} (valid : isValidHost host = true)
    (member : byte ∈ host) : isSpace byte = true ↔ byte = 11 ∨ byte = 12 := by
  have allowed : byte ∉ ascii "\r\n\t " := by
    intro forbidden
    have found : host.any (fun byte => ascii "\r\n\t " |>.contains byte) = true :=
      List.any_eq_true.mpr ⟨byte, member, List.contains_iff_mem.mpr forbidden⟩
    simp only [isValidHost, found, Bool.or_true, if_true] at valid
    cases valid
  rw [show ascii "\r\n\t " = [13, 10, 9, 32] by decide] at allowed
  simp only [isSpace, Bool.or_eq_true, beq_iff_eq, Bool.and_eq_true, decide_eq_true_eq]
  grind

theorem trim_host_iff {upstream : Upstream} (valid : isValidHost upstream.host = true) :
    trim upstream.host = upstream.host ↔ upstream.Unpadded := by
  rw [trim_eq_self_iff]
  constructor
  · rintro ⟨first, last⟩ byte padding
    constructor
    · intro same
      have blank := (isSpace_of_mem_host valid (List.mem_of_mem_head? same)).mpr padding
      rw [first byte same] at blank
      cases blank
    · intro same
      have blank := (isSpace_of_mem_host valid (List.mem_of_getLast? same)).mpr padding
      rw [last byte same] at blank
      cases blank
  · intro unpadded
    constructor
    · intro byte same
      by_contra blank
      rw [Bool.not_eq_false, isSpace_of_mem_host valid (List.mem_of_mem_head? same)] at blank
      exact (unpadded byte blank).1 same
    · intro byte same
      by_contra blank
      rw [Bool.not_eq_false, isSpace_of_mem_host valid (List.mem_of_getLast? same)] at blank
      exact (unpadded byte blank).2 same

/-! ## Runs -/

theorem saved_config {setup : Setup} {upstream : Upstream} {texts saved : StoredTexts}
    (stored : Reaches storing (setup.saveConfig upstream, texts) (.done (.ok ()), saved)) :
    validateUpstream upstream = .ok upstream ∧ saved.config = some (writeConfig upstream) := by
  cases valid : validateUpstream upstream with
  | error failure =>
      simp only [Setup.saveConfig, valid] at stored
      cases stored.value_eq
  | ok accepted =>
      obtain rfl := (validateUpstream_eq_ok valid).1
      simp only [Setup.saveConfig, valid] at stored
      have written : Triple storing unwatched (fun _ => True)
          ((ensureDirectory setup.paths.configFile.dropLast 0o750).andThen fun _ =>
            writeFileAtomic .config (writeConfig accepted) 0o640)
          (fun result texts => result = .ok () → texts.config = some (writeConfig accepted)) := by
        apply triple_written
        intro texts next answers
        obtain rfl : next = { texts with config := some (writeConfig accepted) } := answers
        rfl
      exact ⟨rfl, ((written texts trivial).of_reaches stored).result rfl⟩

theorem loaded_config {text : Bytes} {saved last : StoredTexts} {result : Result Upstream}
    (holds : saved.config = some text)
    (loaded : Reaches storing (loadConfig, saved) (.done result, last)) :
    result = parseConfig (.ok text) := by
  have read : Triple storing unwatched (fun texts => texts.config = some text) loadConfig
      (fun result _ => result = parseConfig (.ok text)) := by
    apply triple_read
    intro texts answer next held answers
    obtain ⟨reads, -⟩ : ReadsAs texts.config answer ∧ next = texts := answers
    rw [held] at reads
    exact reads
  exact ((read saved holds).of_reaches loaded).result

/-- After a successful save the load gives the saved upstream exactly if its
host is not padded with blanks that the load drops. -/
theorem config_round_trip {setup : Setup} {upstream : Upstream}
    {texts saved last : StoredTexts} {result : Result Upstream}
    (stored : Reaches storing (setup.saveConfig upstream, texts) (.done (.ok ()), saved))
    (loaded : Reaches storing (loadConfig, saved) (.done result, last)) :
    result = .ok upstream ↔ upstream.Unpadded := by
  obtain ⟨valid, held⟩ := saved_config stored
  obtain ⟨-, -, validHost, -⟩ := validateUpstream_eq_ok valid
  obtain rfl := loaded_config held loaded
  rw [parseConfig_writeConfig valid, ← trim_host_iff validHost]
  constructor
  · intro read
    exact (congrArg Upstream.host (validateUpstream_eq_ok read).1).symm
  · intro same
    rw [same]
    exact valid

/-- A save, and the load that follows it, of a given upstream. -/
theorem reaches_savedConfig {upstream : Upstream}
    (valid : validateUpstream upstream = .ok upstream) :
    Reaches storing (shippedSetup.saveConfig upstream, ⟨none, none⟩)
      (.done (.ok ()), ⟨some (writeConfig upstream), none⟩) := by
  have program : shippedSetup.saveConfig upstream =
      (ensureDirectory shippedSetup.paths.configFile.dropLast 0o750).andThen fun _ =>
        writeFileAtomic .config (writeConfig upstream) 0o640 := by
    simp only [Setup.saveConfig, valid]
  rw [program]
  exact reaches_follow StoredTexts.respond_within
    ((ensureDirectory shippedSetup.paths.configFile.dropLast 0o750).andThen fun _ =>
      writeFileAtomic .config (writeConfig upstream) 0o640) ⟨none, none⟩

theorem reaches_loadedConfig (text : Bytes) :
    Reaches storing (loadConfig, ⟨some text, none⟩)
      (.done (parseConfig (.ok text)), ⟨some text, none⟩) :=
  reaches_follow StoredTexts.respond_within loadConfig ⟨some text, none⟩

theorem config_round_trip_example :
    parseConfig (.ok (writeConfig ⟨ascii "socks5", ascii "proxy=1", 1080⟩)) =
      .ok ⟨ascii "socks5", ascii "proxy=1", 1080⟩ := by
  have unpadded : Upstream.Unpadded ⟨ascii "socks5", ascii "proxy=1", 1080⟩ := by
    rintro byte (rfl | rfl) <;> decide
  exact (config_round_trip (reaches_savedConfig (by decide)) (reaches_loadedConfig _)).mpr unpadded

/-- A host behind a vertical tab is saved with success and loaded without it. -/
theorem config_padding_lost :
    ∃ saved, Reaches storing
        (shippedSetup.saveConfig ⟨ascii "socks5", 11 :: ascii "proxy", 1080⟩, ⟨none, none⟩)
        (.done (.ok ()), saved) ∧
      Reaches storing (loadConfig, saved)
        (.done (.ok ⟨ascii "socks5", ascii "proxy", 1080⟩), saved) := by
  refine ⟨_, reaches_savedConfig (by decide), ?_⟩
  have read : parseConfig (.ok (writeConfig ⟨ascii "socks5", 11 :: ascii "proxy", 1080⟩)) =
      .ok ⟨ascii "socks5", ascii "proxy", 1080⟩ := by
    decide +kernel
  exact read ▸ reaches_loadedConfig (writeConfig ⟨ascii "socks5", 11 :: ascii "proxy", 1080⟩)

end TunProxy
