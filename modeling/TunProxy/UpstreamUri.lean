import TunProxy.UpstreamConfig

/-!
# Writing and reading an upstream as a URI

The formatter puts a host in brackets when it contains a colon; the parser
takes a leading bracket for the beginning of such a host and the first closing
bracket for its end.  The two agree unless a bracket of the host itself is
taken for one of these.
-/

namespace TunProxy

open ByteText

/-- No bracket of the host is taken for one that encloses it. -/
def Upstream.Unbracketed (upstream : Upstream) : Prop :=
  (colon ∈ upstream.host → closeBracket ∉ upstream.host) ∧
    (colon ∉ upstream.host → upstream.host.head? ≠ some openBracket)

/-- The part of a URI behind the scheme. -/
def writeAuthority (host : Bytes) (port : UInt16) : Bytes :=
  (if colon ∈ host then openBracket :: host ++ [closeBracket] else host) ++
    colon :: formatNat port.toNat

theorem formatUpstreamUri_eq {upstream : Upstream} (socks5 : upstream.protocol = ascii "socks5") :
    formatUpstreamUri upstream =
      ascii "socks5" ++ colon ::
        ([slash, slash] ++ writeAuthority upstream.host upstream.port) := by
  have bracket : ascii "[" = [openBracket] ∧ ascii "]" = [closeBracket] ∧
      ascii ":" = [colon] ∧ ascii "://" = [colon, slash, slash] := by decide
  obtain ⟨opening, closing, single, scheme⟩ := bracket
  by_cases inside : colon ∈ upstream.host <;>
    simp [formatUpstreamUri, writeAuthority, socks5, opening, closing, single, scheme, inside]

theorem writeAuthority_ne_nil (host : Bytes) (port : UInt16) : writeAuthority host port ≠ [] := by
  simp [writeAuthority]

@[simp] theorem parsePort_formatNat {port : UInt16} (positive : port ≠ 0) :
    parsePort (formatNat port.toNat) = .ok port := by
  have bound := port.toNat_lt
  have read : parseUnsigned (2 ^ 32 - 1) (formatNat port.toNat) = some port.toNat :=
    parseUnsigned_formatNat (by omega)
  have inRange : ¬ (port.toNat = 0 ∨ 65535 < port.toNat) := by
    have nonzero : port.toNat ≠ 0 := fun zero => positive (UInt16.toNat.inj zero)
    omega
  simp only [parsePort, read, inRange, if_false, Nat.toUInt16, UInt16.ofNat_toNat]

/-- The scheme is read back, whatever follows it. -/
theorem parseUpstreamUri_formatUpstreamUri {upstream : Upstream}
    (socks5 : upstream.protocol = ascii "socks5") :
    parseUpstreamUri (formatUpstreamUri upstream) =
      match splitAuthority (writeAuthority upstream.host upstream.port) with
      | .error failure => .error failure
      | .ok (host, portText) =>
          match parsePort portText with
          | .error failure => .error failure
          | .ok port => validateUpstream ⟨ascii "socks5", host, port⟩ := by
  have scheme : ascii "://" = colon :: [slash, slash] := by decide
  have absent : colon ∉ ascii "socks5" := by decide
  have found := findText_append [slash, slash] (writeAuthority upstream.host upstream.port) absent
  rw [formatUpstreamUri_eq socks5, parseUpstreamUri, scheme, found]
  have behind : (ascii "socks5" ++ colon ::
      ([slash, slash] ++ writeAuthority upstream.host upstream.port)).drop
        ((ascii "socks5").length + 3) = writeAuthority upstream.host upstream.port := by
    rw [← List.drop_drop, List.drop_left]
    rfl
  simp only [behind, List.isEmpty_iff, writeAuthority_ne_nil, if_false]
  cases splitAuthority (writeAuthority upstream.host upstream.port) with
  | error failure => rfl
  | ok parts =>
      cases number : parsePort parts.2 with
      | error failure => simp only [number]
      | ok port => simp only [number, List.take_left]

/-- A host that is not mistaken is found with its port. -/
theorem splitAuthority_writeAuthority {host : Bytes} {port : UInt16}
    (colonCase : colon ∈ host → closeBracket ∉ host)
    (plainCase : colon ∉ host → host.head? ≠ some openBracket) (filled : host ≠ []) :
    splitAuthority (writeAuthority host port) = .ok (host, formatNat port.toNat) := by
  by_cases inside : colon ∈ host
  · have absent : closeBracket ∉ openBracket :: host := by
      simp only [List.mem_cons, not_or]
      exact ⟨by decide, colonCase inside⟩
    have shape : writeAuthority host port =
        (openBracket :: host) ++ closeBracket :: (colon :: formatNat port.toNat) := by
      simp [writeAuthority, inside]
    have first : (writeAuthority host port).head? = some openBracket := by
      rw [shape]
      rfl
    rw [splitAuthority, if_pos first, shape, splitFirst_append _ absent]
    simp
  · obtain ⟨byte, rest, rfl⟩ := List.exists_cons_of_ne_nil filled
    have shape : writeAuthority (byte :: rest) port =
        (byte :: rest) ++ colon :: formatNat port.toNat := by
      simp only [writeAuthority, inside, if_false]
    have first : (writeAuthority (byte :: rest) port).head? ≠ some openBracket := by
      rw [shape]
      exact plainCase inside
    have last : colon ∉ formatNat port.toNat := notMem_formatNat _ (by decide)
    have notInside : ¬ (byte :: rest).contains colon = true := by simpa using inside
    rw [splitAuthority, if_neg first, shape, splitLast_append _ last]
    simp only [notInside]
    rfl

/-- A host that is found again was not mistaken. -/
theorem unbracketed_of_splitAuthority {host portText : Bytes} {port : UInt16}
    (split : splitAuthority (writeAuthority host port) = .ok (host, portText)) :
    (colon ∈ host → closeBracket ∉ host) ∧
      (colon ∉ host → host.head? ≠ some openBracket) := by
  -- Where the authority begins with a bracket, the host ends at the first closing one.
  have enclosed (first : (writeAuthority host port).head? = some openBracket) :
      ∃ after, writeAuthority host port = openBracket :: host ++ closeBracket :: after ∧
        closeBracket ∉ host := by
    rw [splitAuthority, if_pos first] at split
    split at split
    next front back parts =>
      split at split
      next =>
        obtain ⟨whole, absent⟩ := eq_of_splitFirst parts
        obtain ⟨same, -⟩ := Prod.mk.inj (Except.ok.inj split)
        cases front with
        | nil =>
            rw [whole] at first
            exact absurd (Option.some.inj first) (by decide)
        | cons byte front =>
            obtain rfl : front = host := same
            obtain rfl : byte = openBracket := by
              rw [whole] at first
              exact Option.some.inj first
            exact ⟨back, whole, fun member => absent (List.mem_cons_of_mem _ member)⟩
      next => cases split
    next => cases split
  constructor
  · intro inside
    have first : (writeAuthority host port).head? = some openBracket := by
      simp [writeAuthority, inside]
    obtain ⟨-, -, absent⟩ := enclosed first
    exact absent
  · intro plain first
    have shape : writeAuthority host port = host ++ colon :: formatNat port.toNat := by
      simp only [writeAuthority, plain, if_false]
    obtain ⟨after, whole, absent⟩ := enclosed (by
      rw [shape, List.head?_append, first]
      rfl)
    have member : closeBracket ∈ host ++ colon :: formatNat port.toNat := by
      rw [← shape, whole]
      simp
    have noDigit : closeBracket ∉ formatNat port.toNat := notMem_formatNat _ (by decide)
    simp only [List.mem_append, List.mem_cons, absent, noDigit, or_false, false_or] at member
    exact absurd member (by decide)

/-- A valid upstream is read back from its URI exactly if no bracket of its
host is taken for one that encloses it. -/
theorem upstreamUri_round_trip {upstream : Upstream}
    (valid : validateUpstream upstream = .ok upstream) :
    parseUpstreamUri (formatUpstreamUri upstream) = .ok upstream ↔ upstream.Unbracketed := by
  obtain ⟨-, socks5, validHost, port⟩ := validateUpstream_eq_ok valid
  have filled : upstream.host ≠ [] := by
    intro empty
    rw [empty] at validHost
    cases validHost
  rw [parseUpstreamUri_formatUpstreamUri socks5]
  constructor
  · intro read
    split at read
    · cases read
    next host portText split =>
      split at read
      · cases read
      next =>
        obtain ⟨same, -⟩ := validateUpstream_eq_ok read
        obtain rfl : upstream.host = host := congrArg Upstream.host same
        exact unbracketed_of_splitAuthority split
  · intro unbracketed
    rw [splitAuthority_writeAuthority unbracketed.1 unbracketed.2 filled]
    simp only [parsePort_formatNat port]
    rw [← socks5]
    exact valid

theorem upstreamUri_round_trip_example :
    parseUpstreamUri (formatUpstreamUri ⟨ascii "socks5", ascii "2001:db8::1", 1080⟩) =
      .ok ⟨ascii "socks5", ascii "2001:db8::1", 1080⟩ :=
  (upstreamUri_round_trip (by decide)).mpr ⟨by decide, by decide⟩

/-- A host with a leading bracket is accepted, and its URI is refused. -/
theorem upstreamUri_misread :
    parseUpstreamUri (ascii "socks5://[[x]:1080") = .ok ⟨ascii "socks5", ascii "[x", 1080⟩ ∧
      parseConfig (.ok (ascii "protocol=socks5\nhost=[x\nport=1080\n")) =
        .ok ⟨ascii "socks5", ascii "[x", 1080⟩ ∧
      parseUpstreamUri (formatUpstreamUri ⟨ascii "socks5", ascii "[x", 1080⟩) =
        .error (makeError .invalidConfiguration (ascii "invalid bracketed IPv6 upstream")) := by
  decide +kernel

end TunProxy
