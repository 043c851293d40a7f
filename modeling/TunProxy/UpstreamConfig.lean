import TunProxy.ErrorResult

/-!
# The upstream and its configuration

The upstream proxy is a protocol, a host and a port.  It is written as a URI in
commands and reports, and as `key=value` lines in the configuration file.
-/

namespace TunProxy

open ByteText

structure Upstream where
  protocol : Bytes := ascii "socks5"
  host : Bytes := ascii "127.0.0.1"
  port : UInt16 := 10808
  deriving DecidableEq, Repr

/-- Drop blanks at both ends. -/
def trim (value : Bytes) : Bytes :=
  ((value.dropWhile isSpace).reverse.dropWhile isSpace).reverse

def isValidHost (host : Bytes) : Bool :=
  if host.isEmpty || 253 < host.length || host.any (fun byte => ascii "\r\n\t " |>.contains byte)
  then false
  else host ≠ ascii "." && !host.contains slash

def parsePort (text : Bytes) : Result UInt16 :=
  match parseUnsigned (2 ^ 32 - 1) text with
  | some value =>
      if value = 0 ∨ 65535 < value then
        .error (makeError .invalidConfiguration (ascii "port must be 1..65535"))
      else .ok value.toUInt16
  | none => .error (makeError .invalidConfiguration (ascii "port must be 1..65535"))

def validateUpstream (upstream : Upstream) : Result Upstream :=
  if upstream.protocol ≠ ascii "socks5" then
    .error (makeError .invalidConfiguration (ascii "only socks5 upstream is supported"))
  else if !isValidHost upstream.host then
    .error (makeError .invalidConfiguration
      (ascii "host is empty or contains invalid characters"))
  else if upstream.port = 0 then
    .error (makeError .invalidConfiguration (ascii "port must be 1..65535"))
  else .ok upstream

/-- The host and the port text of what follows the scheme. -/
def splitAuthority (authority : Bytes) : Result (Bytes × Bytes) :=
  if authority.head? = some openBracket then
    match splitFirst closeBracket authority with
    | some (front, back) =>
        if back.head? = some colon then .ok (front.drop 1, back.drop 1)
        else .error (makeError .invalidConfiguration (ascii "invalid bracketed IPv6 upstream"))
    | none => .error (makeError .invalidConfiguration (ascii "invalid bracketed IPv6 upstream"))
  else
    match splitLast colon authority with
    | none => .error (makeError .invalidConfiguration (ascii "upstream port is missing"))
    | some (host, portText) =>
        if host.contains colon then
          .error (makeError .invalidConfiguration
            (ascii "IPv6 upstream addresses must be enclosed in brackets"))
        else .ok (host, portText)

def parseUpstreamUri (uri : Bytes) : Result Upstream :=
  match findText (ascii "://") uri with
  | none => .error (makeError .invalidConfiguration
      (ascii "upstream must be protocol://host:port"))
  | some schemeEnd =>
      let authority := uri.drop (schemeEnd + 3)
      if authority.isEmpty then
        .error (makeError .invalidConfiguration (ascii "upstream host is empty"))
      else
        match splitAuthority authority with
        | .error failure => .error failure
        | .ok (host, portText) =>
            match parsePort portText with
            | .error failure => .error failure
            | .ok port => validateUpstream ⟨uri.take schemeEnd, host, port⟩

def formatUpstreamUri (upstream : Upstream) : Bytes :=
  upstream.protocol ++ ascii "://" ++
    (if upstream.host.contains colon then ascii "[" ++ upstream.host ++ ascii "]"
      else upstream.host) ++
    ascii ":" ++ formatNat upstream.port.toNat

/-! ## The configuration file -/

/-- What has been read of the file: the values so far, and which were seen. -/
structure ConfigScan where
  upstream : Upstream := {}
  protocolSeen : Bool := false
  hostSeen : Bool := false
  portSeen : Bool := false

/-- One line of the loop of `ConfigManager::load`. -/
def ConfigScan.line (scan : ConfigScan) (rawLine : Bytes) : Result ConfigScan :=
  let line := trim rawLine
  if line.isEmpty ∨ line.head? = some 35 then .ok scan
  else
    match splitFirst equals line with
    | none => .error (makeError .invalidConfiguration (ascii "invalid config line"))
    | some (rawKey, rawValue) =>
        let key := trim rawKey
        let value := trim rawValue
        if key = ascii "protocol" then
          .ok { scan with upstream.protocol := value, protocolSeen := true }
        else if key = ascii "host" then
          .ok { scan with upstream.host := value, hostSeen := true }
        else if key = ascii "port" then
          match parsePort value with
          | .ok port => .ok { scan with upstream.port := port, portSeen := true }
          | .error failure => .error failure
        else .error (makeError .invalidConfiguration (ascii "unknown config key: " ++ key))

def ConfigScan.lines : ConfigScan → List Bytes → Result ConfigScan
  | scan, [] => .ok scan
  | scan, line :: rest =>
      match scan.line line with
      | .ok next => ConfigScan.lines next rest
      | .error failure => .error failure

/-- `ConfigManager::load` on what `readTextFile` gave. -/
def parseConfig (contents : Result Bytes) : Result Upstream :=
  match contents with
  | .error failure => .error (makeError .invalidConfiguration
      (ascii "cannot read config: " ++ failure.message))
  | .ok text =>
      match ConfigScan.lines {} (lines text) with
      | .error failure => .error failure
      | .ok scan =>
          if !scan.protocolSeen || !scan.hostSeen || !scan.portSeen then
            .error (makeError .invalidConfiguration
              (ascii "config must contain protocol, host, and port"))
          else validateUpstream scan.upstream

/-- The text that `ConfigManager::save` writes. -/
def writeConfig (upstream : Upstream) : Bytes :=
  ascii "protocol" ++ equals :: upstream.protocol ++ newline ::
  (ascii "host" ++ equals :: upstream.host ++ newline ::
  (ascii "port" ++ equals :: formatNat upstream.port.toNat ++ newline :: []))

theorem validateUpstream_eq_ok {upstream accepted : Upstream}
    (valid : validateUpstream upstream = .ok accepted) :
    accepted = upstream ∧ upstream.protocol = ascii "socks5" ∧
      isValidHost upstream.host = true ∧ upstream.port ≠ 0 := by
  unfold validateUpstream at valid
  split at valid
  · cases valid
  next socks5 =>
    split at valid
    · cases valid
    next host =>
      split at valid
      · cases valid
      next port =>
        obtain rfl := Except.ok.inj valid
        exact ⟨rfl, Decidable.not_not.mp socks5, by simpa using host, port⟩

/-- Only valid upstreams are loaded. -/
theorem valid_of_parseConfig {contents : Result Bytes} {upstream : Upstream}
    (loaded : parseConfig contents = .ok upstream) :
    upstream.protocol = ascii "socks5" ∧ isValidHost upstream.host = true ∧
      upstream.port ≠ 0 := by
  unfold parseConfig at loaded
  split at loaded
  · cases loaded
  split at loaded
  · cases loaded
  split at loaded
  · cases loaded
  obtain ⟨rfl, valid⟩ := validateUpstream_eq_ok loaded
  exact valid

theorem newline_notMem_of_isValidHost {host : Bytes} (valid : isValidHost host = true) :
    newline ∉ host := by
  intro member
  have found : host.any (fun byte => ascii "\r\n\t " |>.contains byte) = true :=
    List.any_eq_true.mpr ⟨newline, member, by decide⟩
  simp only [isValidHost, found, Bool.or_true, if_true] at valid
  cases valid

theorem newline_notMem_formatUpstreamUri {upstream : Upstream}
    (socks5 : upstream.protocol = ascii "socks5") (valid : isValidHost upstream.host = true) :
    newline ∉ formatUpstreamUri upstream := by
  have host := newline_notMem_of_isValidHost valid
  have port : newline ∉ formatNat upstream.port.toNat := notMem_formatNat _ (by decide)
  have scheme : newline ∉ ascii "socks5" ++ ascii "://" := by decide
  unfold formatUpstreamUri
  simp only [socks5, List.mem_append, not_or] at scheme ⊢
  refine ⟨⟨⟨scheme, ?_⟩, by decide⟩, port⟩
  split
  · simp only [List.mem_append, not_or]
    exact ⟨⟨by decide, host⟩, by decide⟩
  · exact host

theorem formatUpstreamUri_ne_nil (upstream : Upstream) : formatUpstreamUri upstream ≠ [] := by
  simp [formatUpstreamUri, formatNat_ne_nil]

end TunProxy
