import TunProxy.BypassPolicy

/-!
# What the bypass policy covers

A CIDR stands for the addresses of its family that share its leading bits.
The bit comparisons of the code decide inclusion of these sets, so that neither
the collection of interface addresses nor the merging of the lists loses or
adds a destination.
-/

namespace TunProxy

open ByteText AddressPrefix InternetText

/-! ## The meaning of a CIDR -/

/-- The addresses a parsed CIDR stands for. -/
def BinaryCidr.Covers (cidr : BinaryCidr) (address : IpAddress) : Prop :=
  address.family = cidr.family ∧ Agree cidr.prefixLength cidr.address address.bytes

/-- The addresses a CIDR text stands for: those that share the leading bits of
the address in front of the slash. -/
def CidrCovers (cidr : Bytes) (address : IpAddress) : Prop :=
  ∃ addressText lengthText written length,
    cidr = addressText ++ slash :: lengthText ∧ slash ∉ lengthText ∧
      inetPton address.family addressText = some written ∧
      parseUnsigned (2 ^ 32 - 1) lengthText = some length ∧
      length ≤ address.family.bits ∧ Agree length written address.bytes

/-- Some text of a list covers the address. -/
def ListCovers (cidrs : List Bytes) (address : IpAddress) : Prop :=
  ∃ cidr ∈ cidrs, CidrCovers cidr address

theorem getD_storeAddress {bytes : Bytes} {index : Nat} (small : bytes.length ≤ 16) :
    (storeAddress bytes).getD index 0 = bytes.getD index 0 := by
  simp only [storeAddress, List.getD_eq_getElem?_getD, List.getElem?_take, List.getElem?_append,
    List.getElem?_replicate]
  by_cases below : index < bytes.length
  · have within : index < 16 := by omega
    simp [below, within]
  · by_cases within : index < 16
    · have inZeros : index - bytes.length < 16 := by omega
      simp [below, within, inZeros]
    · simp [below, within]

theorem addressBit_storeAddress {bytes : Bytes} {bit : Nat} (small : bytes.length ≤ 16) :
    addressBit (storeAddress bytes) bit = addressBit bytes bit := by
  simp only [addressBit, getD_storeAddress small]

theorem agree_storeAddress {bytes : Bytes} (count : Nat) (small : bytes.length ≤ 16) :
    Agree count (storeAddress bytes) bytes :=
  fun _ _ => addressBit_storeAddress small

/-- A host CIDR stands for its address alone. -/
theorem covers_hostCidr {address other : IpAddress} :
    (hostCidr address).Covers other ↔ other = address := by
  constructor
  · rintro ⟨family, agree⟩
    refine IpAddress.eq_of family ?_
    have sized : other.bytes.length = address.family.size := by
      rw [other.sized, family]
      rfl
    refine eq_of_agree sized address.sized ?_
    exact ((agree_storeAddress _ address.length_le).symm.trans agree).symm
  · rintro rfl
    exact ⟨rfl, agree_storeAddress _ other.length_le⟩

theorem covers_maskedCidr {family : AddressFamily} {bytes : Bytes} {length : Nat}
    {address : IpAddress} (sized : bytes.length = family.size) (fits : length ≤ family.bits) :
    (maskedCidr family bytes length).Covers address ↔
      address.family = family ∧ Agree length bytes address.bytes := by
  have small : bytes.length ≤ 16 := sized ▸ AddressFamily.size_le family
  have masked : Agree length (clearBits family.size length (storeAddress bytes)) bytes :=
    (agree_clearBits (by simpa using AddressFamily.size_le family) fits).trans
      (agree_storeAddress _ small)
  constructor
  · rintro ⟨same, agree⟩
    exact ⟨same, masked.symm.trans agree⟩
  · rintro ⟨same, agree⟩
    exact ⟨same, masked.trans agree⟩

/-- Containment of CIDRs is inclusion of what they stand for. -/
theorem covers_of_containsCidr {outer inner : BinaryCidr} {address : IpAddress}
    (contains : containsCidr outer inner = true) (covered : inner.Covers address) :
    outer.Covers address := by
  unfold containsCidr at contains
  split at contains
  · cases contains
  next comparable =>
    rw [not_or, Decidable.not_not, Nat.not_lt] at comparable
    exact ⟨covered.1.trans comparable.1.symm,
      (sameBits_iff.mp contains).trans (covered.2.mono comparable.2)⟩

/-! ## Parsing -/

theorem cString_eq {text : Bytes} (absent : (0 : UInt8) ∉ text) : cString text = text := by
  induction text with
  | nil => rfl
  | cons byte text ih =>
      simp only [List.mem_cons, not_or] at absent
      simp only [cString] at ih ⊢
      simp [Ne.symm absent.1, ih absent.2]

/-- What is accepted as a CIDR, and what becomes of it. -/
theorem parseCidr_eq_ok {text : Bytes} {cidr : BinaryCidr} :
    parseCidr text = .ok cidr ↔ ∃ addressText lengthText family bytes length,
      text = addressText ++ slash :: lengthText ∧ slash ∉ lengthText ∧
        inetPton family (cString addressText) = some bytes ∧
        parseUnsigned (2 ^ 32 - 1) lengthText = some length ∧ length ≤ family.bits ∧
        cidr = maskedCidr family bytes length := by
  constructor
  · intro parsed
    unfold parseCidr at parsed
    split at parsed
    · cases parsed
    next addressText lengthText split =>
      obtain ⟨rfl, absent⟩ := eq_of_splitLast split
      split at parsed
      · cases parsed
      split at parsed
      · cases parsed
      next length number =>
        split at parsed
        next bytes v4 =>
          split at parsed
          · cases parsed
          next fits =>
            obtain rfl := Except.ok.inj parsed
            exact ⟨addressText, lengthText, .inet, bytes, length, rfl, absent, v4, number,
              Nat.not_lt.mp fits, rfl⟩
        next =>
          split at parsed
          next bytes v6 =>
            split at parsed
            · cases parsed
            next fits =>
              obtain rfl := Except.ok.inj parsed
              exact ⟨addressText, lengthText, .inet6, bytes, length, rfl, absent, v6, number,
                Nat.not_lt.mp fits, rfl⟩
          next => cases parsed
  · rintro ⟨addressText, lengthText, family, bytes, length, rfl, absent, read, number, fits, rfl⟩
    have filled : lengthText ≠ [] := by
      rintro rfl
      simp [parseUnsigned] at number
    have filled' : addressText ≠ [] := by
      rintro rfl
      rw [show cString [] = [] from rfl, inetPton_nil] at read
      cases read
    unfold parseCidr
    simp only [splitLast_append _ absent, List.isEmpty_iff, filled, filled', or_self, if_false,
      number]
    cases family with
    | inet =>
        have small : ¬ 32 < length := Nat.not_lt.mpr fits
        simp only [read, small, if_false]
    | inet6 =>
        have small : ¬ 128 < length := Nat.not_lt.mpr fits
        have other : inetPton .inet (cString addressText) = none := by
          cases v4 : inetPton .inet (cString addressText) with
          | none => rfl
          | some bytes =>
              have none : inetPton .inet6 (cString addressText) = none := parseIpv6_eq_none v4
              rw [none] at read
              cases read
        simp only [other, read, small, if_false]

/-- Parsing a text gives it its meaning. -/
theorem covers_iff_of_parseCidr {text : Bytes} {cidr : BinaryCidr}
    (noNul : (0 : UInt8) ∉ text) (parsed : parseCidr text = .ok cidr) {address : IpAddress} :
    cidr.Covers address ↔ CidrCovers text address := by
  obtain ⟨addressText, lengthText, family, bytes, length, rfl, absent, read, number, fits, rfl⟩ :=
    parseCidr_eq_ok.mp parsed
  have plain : cString addressText = addressText :=
    cString_eq fun member => noNul (by simp [member])
  rw [covers_maskedCidr (length_of_inetPton read) fits]
  constructor
  · rintro ⟨rfl, agree⟩
    exact ⟨addressText, lengthText, bytes, length, rfl, absent, plain ▸ read, number, fits, agree⟩
  · rintro ⟨addressText', lengthText', written, length', same, absent', read', number', -, agree⟩
    have split := (splitLast_append addressText absent).symm.trans
      ((congrArg (splitLast slash) same).trans (splitLast_append addressText' absent'))
    obtain ⟨rfl, rfl⟩ := Prod.mk.inj (Option.some.inj split)
    obtain rfl := Option.some.inj (number.symm.trans number')
    rw [plain] at read
    have families : address.family = family := by
      cases known : address.family with
      | inet =>
          cases family with
          | inet => rfl
          | inet6 =>
              rw [known] at read'
              have none : inetPton .inet6 addressText = none := parseIpv6_eq_none read'
              rw [none] at read
              cases read
      | inet6 =>
          cases family with
          | inet6 => rfl
          | inet =>
              rw [known] at read'
              have none : inetPton .inet6 addressText = none := parseIpv6_eq_none read
              rw [none] at read'
              cases read'
    subst family
    obtain rfl := Option.some.inj (read.symm.trans read')
    exact ⟨rfl, agree⟩

/-- A text that covers an address is accepted. -/
theorem exists_parseCidr_of_covers {text : Bytes} {address : IpAddress}
    (noNul : (0 : UInt8) ∉ text) (covers : CidrCovers text address) :
    ∃ cidr, parseCidr text = .ok cidr := by
  obtain ⟨addressText, lengthText, bytes, length, rfl, absent, read, number, fits, -⟩ := covers
  have plain : cString addressText = addressText :=
    cString_eq fun member => noNul (by simp [member])
  exact ⟨_, parseCidr_eq_ok.mpr ⟨addressText, lengthText, _, bytes, length, rfl, absent,
    plain.symm ▸ read, number, fits, rfl⟩⟩

/-! ## Host CIDRs -/

theorem storeAddress_take (address : IpAddress) :
    (storeAddress address.bytes).take address.family.size = address.bytes := by
  have fits := AddressFamily.size_le address.family
  rw [storeAddress, List.take_take, Nat.min_eq_left fits, ← address.sized, List.take_left]

theorem formatCidr_hostCidr (address : IpAddress) :
    formatCidr (hostCidr address) = inetNtop address.family address.bytes ++
      slash :: formatNat address.family.bits := by
  simp only [formatCidr, hostCidr, storeAddress_take, List.append_assoc]
  rfl

theorem notMem_formatCidr_hostCidr {address : IpAddress} {byte : UInt8}
    (noAddress : ¬ IsAddressByte byte) (noDigit : ¬ IsDigit byte) (noSlash : byte ≠ slash) :
    byte ∉ formatCidr (hostCidr address) := by
  rw [formatCidr_hostCidr]
  simp only [List.mem_append, List.mem_cons, notMem_inetNtop noAddress, noSlash,
    notMem_formatNat _ noDigit, or_self, not_false_eq_true]

theorem formatCidr_hostCidr_ne_nil (address : IpAddress) : formatCidr (hostCidr address) ≠ [] := by
  simp [formatCidr_hostCidr]

theorem maskedCidr_eq_hostCidr (address : IpAddress) :
    maskedCidr address.family address.bytes address.family.bits = hostCidr address := by
  have whole : address.family.bits % 8 = 0 := by simp [AddressFamily.bits]
  have size : address.family.bits / 8 = address.family.size := by simp [AddressFamily.bits]
  have nothing : ∀ bytes : Bytes,
      fillZero address.family.size address.family.size bytes = bytes := by
    intro bytes
    refine List.ext_getElem (by simp) fun index _ _ => ?_
    have outside : ¬ (address.family.size ≤ index ∧ index < address.family.size) := by omega
    simp [fillZero, outside]
  simp [maskedCidr, hostCidr, clearBits, whole, size, nothing]

/-- A host CIDR is read back as written. -/
theorem parseCidr_formatCidr_hostCidr (address : IpAddress) :
    parseCidr (formatCidr (hostCidr address)) = .ok (hostCidr address) := by
  have small : address.family.bits ≤ 2 ^ 32 - 1 := by cases address.family <;> decide
  have plain : cString (inetNtop address.family address.bytes) =
      inetNtop address.family address.bytes := cString_eq (notMem_inetNtop (by decide))
  exact parseCidr_eq_ok.mpr ⟨inetNtop address.family address.bytes, _, address.family,
    address.bytes, address.family.bits, formatCidr_hostCidr address,
    notMem_formatNat _ (by decide), plain.symm ▸ inetPton_inetNtop address,
    parseUnsigned_formatNat small, Nat.le_refl _, (maskedCidr_eq_hostCidr address).symm⟩

/-- The text of a host CIDR covers its address alone. -/
theorem cidrCovers_formatCidr_hostCidr {address other : IpAddress} :
    CidrCovers (formatCidr (hostCidr address)) other ↔ other = address :=
  (covers_iff_of_parseCidr (notMem_formatCidr_hostCidr (by decide) (by decide) (by decide))
    (parseCidr_formatCidr_hostCidr address)).symm.trans covers_hostCidr

/-! ## Merging -/

/-- The addresses covered by what parses of some texts. -/
def ParsedCovers (cidrs : List Bytes) (address : IpAddress) : Prop :=
  ∃ text ∈ cidrs, ∃ cidr, parseCidr text = .ok cidr ∧ cidr.Covers address

/-- What has been merged of some texts: texts from among them, with their parsed
forms, that together cover as much. -/
structure MergedCidrs.Merges (merged : MergedCidrs) (inputs : List Bytes) : Prop where
  parsed : merged.output.map parseCidr = merged.parsedOutput.map .ok
  fromInputs : ∀ text ∈ merged.output, text ∈ inputs
  complete : ∀ address, ParsedCovers inputs address →
    ∃ cidr ∈ merged.parsedOutput, cidr.Covers address

theorem MergedCidrs.Merges.skip {merged : MergedCidrs} {inputs : List Bytes} {text : Bytes}
    (merges : merged.Merges inputs)
    (covered : ∀ cidr address, parseCidr text = .ok cidr → cidr.Covers address →
      ∃ existing ∈ merged.parsedOutput, existing.Covers address) :
    merged.Merges (inputs ++ [text]) where
  parsed := merges.parsed
  fromInputs := fun text member => List.mem_append_left _ (merges.fromInputs text member)
  complete := by
    rintro address ⟨other, member, cidr, parsed, covers⟩
    rcases List.mem_append.mp member with member | member
    · exact merges.complete address ⟨other, member, cidr, parsed, covers⟩
    · obtain rfl := List.mem_singleton.mp member
      exact covered cidr address parsed covers

/-- One text more is merged. -/
theorem MergedCidrs.Merges.append {merged : MergedCidrs} {inputs : List Bytes}
    (merges : merged.Merges inputs) (mandatory : Bool) (text : Bytes) :
    (merged.append mandatory text).Merges (inputs ++ [text]) := by
  unfold MergedCidrs.append
  split
  next empty =>
    obtain rfl := List.isEmpty_iff.mp empty
    exact merges.skip fun cidr address parsed => nomatch parsed
  split
  next failure parsed =>
    refine merges.skip fun cidr address other => ?_
    rw [parsed] at other
    cases other
  next cidr parsed =>
    split
    next contained =>
      obtain ⟨existing, member, contains⟩ :=
        List.any_eq_true.mp (Bool.and_eq_true_iff.mp contained).2
      refine merges.skip fun other address parsed' covers => ?_
      obtain rfl := Except.ok.inj (parsed.symm.trans parsed')
      exact ⟨existing, member, covers_of_containsCidr contains covers⟩
    split
    next present =>
      obtain ⟨existing, member, same⟩ := List.any_eq_true.mp present
      simp only [Bool.and_eq_true, decide_eq_true_eq] at same
      obtain ⟨⟨families, lengths⟩, addresses⟩ := same
      refine merges.skip fun other address parsed' covers => ?_
      obtain rfl := Except.ok.inj (parsed.symm.trans parsed')
      exact ⟨existing, member, covers.1.trans families.symm, lengths ▸ addresses ▸ covers.2⟩
    next =>
      refine ⟨by simp [merges.parsed, parsed], ?_, ?_⟩
      · intro other member
        rcases List.mem_append.mp member with member | member
        · exact List.mem_append_left _ (merges.fromInputs other member)
        · exact List.mem_append_right _ member
      · rintro address ⟨other, member, otherCidr, otherParsed, covers⟩
        rcases List.mem_append.mp member with member | member
        · obtain ⟨found, inParsed, coversFound⟩ :=
            merges.complete address ⟨other, member, otherCidr, otherParsed, covers⟩
          exact ⟨found, List.mem_append_left _ inParsed, coversFound⟩
        · obtain rfl := List.mem_singleton.mp member
          obtain rfl := Except.ok.inj (parsed.symm.trans otherParsed)
          exact ⟨cidr, by simp, covers⟩

theorem MergedCidrs.Merges.foldl {merged : MergedCidrs} {inputs texts : List Bytes}
    (merges : merged.Merges inputs) :
    (texts.foldl (MergedCidrs.append false) merged).Merges (inputs ++ texts) := by
  induction texts generalizing merged inputs with
  | nil => simpa using merges
  | cons text texts ih => simpa using ih (merges.append false text)

theorem MergedCidrs.merges_nil : (⟨[], []⟩ : MergedCidrs).Merges [] :=
  ⟨rfl, by simp, by rintro address ⟨text, member, -⟩; cases member⟩

/-- The texts that are merged, in their order. -/
def BypassPolicy.inputs (policy : BypassPolicy) : List Bytes :=
  [policy.upstreamCidr] ++ policy.fixedCidrs ++ policy.interfaceCidrs

theorem allCidrs_merges (policy : BypassPolicy) :
    ∃ merged : MergedCidrs, merged.output = policy.allCidrs ∧ merged.Merges policy.inputs := by
  have pinned : (if policy.upstreamCidr.isEmpty then ⟨[], []⟩
      else MergedCidrs.append true ⟨[], []⟩ policy.upstreamCidr : MergedCidrs).Merges
        [policy.upstreamCidr] := by
    split
    next empty =>
      rw [List.isEmpty_iff.mp empty]
      exact MergedCidrs.merges_nil.skip fun cidr address parsed => nomatch parsed
    next => exact MergedCidrs.merges_nil.append true policy.upstreamCidr
  exact ⟨_, rfl, pinned.foldl.foldl⟩

theorem mem_inputs_of_mem_allCidrs {policy : BypassPolicy} {text : Bytes}
    (member : text ∈ policy.allCidrs) : text ∈ policy.inputs := by
  obtain ⟨merged, output, merges⟩ := allCidrs_merges policy
  exact merges.fromInputs text (output ▸ member)

/-- Merging keeps exactly the addresses that the texts cover. -/
theorem allCidrs_covers (policy : BypassPolicy) (address : IpAddress) :
    ParsedCovers policy.allCidrs address ↔ ParsedCovers policy.inputs address := by
  obtain ⟨merged, output, merges⟩ := allCidrs_merges policy
  rw [← output]
  constructor
  · rintro ⟨text, member, cidr, parsed, covers⟩
    exact ⟨text, merges.fromInputs text member, cidr, parsed, covers⟩
  · intro covered
    obtain ⟨cidr, member, covers⟩ := merges.complete address covered
    have parsedMember := List.mem_map_of_mem (f := Except.ok (ε := Error)) member
    rw [← merges.parsed] at parsedMember
    obtain ⟨text, inOutput, parsed⟩ := List.mem_map.mp parsedMember
    exact ⟨text, inOutput, cidr, parsed, covers⟩

theorem MergedCidrs.output_append (mandatory : Bool) (merged : MergedCidrs) (text : Bytes) :
    merged.output <+: (merged.append mandatory text).output := by
  unfold MergedCidrs.append
  repeat' split
  all_goals first | exact List.prefix_rfl | exact List.prefix_append _ _

theorem MergedCidrs.output_foldl (merged : MergedCidrs) (texts : List Bytes) :
    merged.output <+: (texts.foldl (MergedCidrs.append false) merged).output := by
  induction texts generalizing merged with
  | nil => exact List.prefix_rfl
  | cons text texts ih => exact (merged.output_append false text).trans (ih _)

/-- The upstream comes first, even where another range contains it. -/
theorem allCidrs_head {policy : BypassPolicy} {cidr : BinaryCidr}
    (parsed : parseCidr policy.upstreamCidr = .ok cidr) :
    policy.allCidrs.head? = some policy.upstreamCidr := by
  have filled : ¬ policy.upstreamCidr.isEmpty = true := by
    intro empty
    rw [List.isEmpty_iff.mp empty] at parsed
    cases parsed
  have pinned : (MergedCidrs.append true ⟨[], []⟩ policy.upstreamCidr).output =
      [policy.upstreamCidr] := by
    simp [MergedCidrs.append, filled, parsed]
  have first := MergedCidrs.output_foldl (MergedCidrs.append true ⟨[], []⟩ policy.upstreamCidr)
    policy.fixedCidrs
  have second := MergedCidrs.output_foldl (policy.fixedCidrs.foldl (MergedCidrs.append false)
    (MergedCidrs.append true ⟨[], []⟩ policy.upstreamCidr)) policy.interfaceCidrs
  have whole := first.trans second
  rw [pinned] at whole
  obtain ⟨rest, split⟩ := whole
  simp only [BypassPolicy.allCidrs]
  rw [if_neg filled, ← split]
  rfl

/-! ## Collecting interface addresses -/

/-- The all-zero address of a family. -/
def Unspecified (address : IpAddress) : Prop :=
  ∀ byte ∈ address.bytes, byte = 0

/-- An address in the space reserved for the managed TUN. -/
def InTunAddressSpace (address : IpAddress) : Prop :=
  CidrCovers (ascii "198.18.0.0/15") address

theorem isUnspecifiedAddress_hostCidr {address : IpAddress} :
    isUnspecifiedAddress (hostCidr address) = true ↔ Unspecified address := by
  simp only [isUnspecifiedAddress, hostCidr, storeAddress_take, List.all_eq_true, beq_iff_eq,
    Unspecified]

theorem agree_kTunAddressSpacePrefix : Agree 15 kTunAddressSpacePrefix [198, 18, 0, 0] := by
  decide

theorem inTunAddressSpace_iff {address : IpAddress} :
    InTunAddressSpace address ↔
      address.family = .inet ∧ Agree 15 [198, 18, 0, 0] address.bytes := by
  have parsed : parseCidr (ascii "198.18.0.0/15") = .ok (maskedCidr .inet [198, 18, 0, 0] 15) := by
    decide
  unfold InTunAddressSpace
  rw [← covers_iff_of_parseCidr (by decide) parsed, covers_maskedCidr (by decide) (by decide)]

theorem overlapsTunAddressSpace_hostCidr {address : IpAddress} :
    overlapsTunAddressSpace (hostCidr address) = true ↔ InTunAddressSpace address := by
  have same := agree_kTunAddressSpacePrefix
  rw [inTunAddressSpace_iff]
  cases known : address.family with
  | inet6 => simp [overlapsTunAddressSpace, hostCidr, known]
  | inet =>
      have stored := agree_storeAddress 15 address.length_le
      simp only [overlapsTunAddressSpace, hostCidr, known, AddressFamily.bits, AddressFamily.size,
        kTunAddressSpacePrefixBits, ne_eq, not_true_eq_false, if_false, true_and]
      exact ⟨fun overlap => ((stored.symm.trans (sameBits_iff.mp overlap)).trans same).symm,
        fun agree => sameBits_iff.mpr ((stored.trans agree.symm).trans same.symm)⟩

/-- Addresses that may not be left out of the policy. -/
def Eligible (address : IpAddress) : Prop :=
  ¬ Unspecified address ∧ ¬ InTunAddressSpace address

/-- What has been collected from some addresses: host CIDRs of eligible ones
among them, where the texts seen cover every eligible one. -/
structure CollectedCidrs.Collects (collected : CollectedCidrs) (addresses : List IpAddress) :
    Prop where
  seen : ∀ text, text ∈ collected.seen ↔ text ∈ fixedBypassCidrs ∨ text ∈ collected.output
  fromAddresses : ∀ text ∈ collected.output, ∃ address ∈ addresses, Eligible address ∧
    text = formatCidr (hostCidr address)
  complete : ∀ address ∈ addresses, Eligible address → ListCovers collected.seen address

theorem notMem_fixedBypassCidrs {text : Bytes} (member : text ∈ fixedBypassCidrs) :
    (0 : UInt8) ∉ text := by
  have every : ∀ text ∈ fixedBypassCidrs, (0 : UInt8) ∉ text := by decide
  exact every text member

theorem CollectedCidrs.Collects.noNul {collected : CollectedCidrs} {addresses : List IpAddress}
    (collects : collected.Collects addresses) {text : Bytes} (member : text ∈ collected.seen) :
    (0 : UInt8) ∉ text := by
  rcases (collects.seen text).mp member with fixed | output
  · exact notMem_fixedBypassCidrs fixed
  · obtain ⟨address, -, -, rfl⟩ := collects.fromAddresses text output
    exact notMem_formatCidr_hostCidr (by decide) (by decide) (by decide)

theorem CollectedCidrs.Collects.skip {collected : CollectedCidrs} {addresses : List IpAddress}
    {address : IpAddress} (collects : collected.Collects addresses)
    (covered : Eligible address → ListCovers collected.seen address) :
    collected.Collects (addresses ++ [address]) where
  seen := collects.seen
  fromAddresses := fun text member => by
    obtain ⟨found, inAddresses, rest⟩ := collects.fromAddresses text member
    exact ⟨found, List.mem_append_left _ inAddresses, rest⟩
  complete := fun other member eligible => by
    rcases List.mem_append.mp member with member | member
    · exact collects.complete other member eligible
    · obtain rfl := List.mem_singleton.mp member
      exact covered eligible

/-- One address more is collected, or found to be covered, or not eligible. -/
theorem CollectedCidrs.Collects.append {collected next : CollectedCidrs}
    {addresses : List IpAddress} {address : IpAddress} (collects : collected.Collects addresses)
    (appended : appendInterfaceAddress collected (hostCidr address) = .ok next) :
    next.Collects (addresses ++ [address]) := by
  unfold appendInterfaceAddress at appended
  split at appended
  next excluded =>
    obtain rfl := Except.ok.inj appended
    refine collects.skip fun eligible => ?_
    rcases Bool.or_eq_true_iff.mp excluded with unspecified | overlaps
    · exact absurd (isUnspecifiedAddress_hostCidr.mp unspecified) eligible.1
    · exact absurd (overlapsTunAddressSpace_hostCidr.mp overlaps) eligible.2
  next included =>
    have eligible : Eligible address := by
      simp only [Bool.or_eq_true, not_or] at included
      exact ⟨fun unspecified => included.1 (isUnspecifiedAddress_hostCidr.mpr unspecified),
        fun inside => included.2 (overlapsTunAddressSpace_hostCidr.mpr inside)⟩
    simp only [List.isEmpty_iff, formatCidr_hostCidr_ne_nil, if_false] at appended
    split at appended
    next contained =>
      obtain rfl := Except.ok.inj appended
      refine collects.skip fun _ => ?_
      obtain ⟨text, member, contains⟩ := List.any_eq_true.mp contained
      split at contains
      next existing parsed =>
        have covers := covers_of_containsCidr contains (covers_hostCidr.mpr rfl)
        exact ⟨text, member,
          (covers_iff_of_parseCidr (collects.noNul member) parsed).mp covers⟩
      next => cases contains
    split at appended
    next present =>
      obtain rfl := Except.ok.inj appended
      exact collects.skip fun _ => ⟨_, present, cidrCovers_formatCidr_hostCidr.mpr rfl⟩
    split at appended
    next => cases appended
    next =>
      obtain rfl := Except.ok.inj appended
      refine ⟨fun text => ?_, fun text member => ?_, fun other member eligible' => ?_⟩
      · simp only [List.mem_cons, collects.seen text, List.mem_append, List.not_mem_nil, or_false]
        tauto
      · rcases List.mem_append.mp member with member | member
        · obtain ⟨found, inAddresses, rest⟩ := collects.fromAddresses text member
          exact ⟨found, List.mem_append_left _ inAddresses, rest⟩
        · obtain rfl := List.mem_singleton.mp member
          exact ⟨address, by simp, eligible, rfl⟩
      · rcases List.mem_append.mp member with member | member
        · obtain ⟨text, inSeen, covers⟩ := collects.complete other member eligible'
          exact ⟨text, List.mem_cons_of_mem _ inSeen, covers⟩
        · obtain rfl := List.mem_singleton.mp member
          exact ⟨_, List.mem_cons_self, cidrCovers_formatCidr_hostCidr.mpr rfl⟩

/-- The addresses of the entries that are not skipped. -/
def consideredAddresses (excludedInterface : Bytes) (entries : List InterfaceEntry) :
    List IpAddress :=
  entries.filterMap (InterfaceEntry.considered excludedInterface)

theorem CollectedCidrs.Collects.appendEntries {collected last : CollectedCidrs}
    {addresses : List IpAddress} {excludedInterface : Bytes} {entries : List InterfaceEntry}
    (collects : collected.Collects addresses)
    (appended : appendInterfaceEntries excludedInterface collected entries = .ok last) :
    last.Collects (addresses ++ consideredAddresses excludedInterface entries) := by
  induction entries generalizing collected addresses with
  | nil =>
      obtain rfl := Except.ok.inj appended
      simpa [consideredAddresses] using collects
  | cons entry entries ih =>
      cases considered : entry.considered excludedInterface with
      | none =>
          simp only [appendInterfaceEntries, considered] at appended
          simpa [consideredAddresses, considered] using ih collects appended
      | some address =>
          simp only [appendInterfaceEntries, considered] at appended
          cases step : appendInterfaceAddress collected (hostCidr address) with
          | error failure => simp [step] at appended
          | ok next =>
              simp only [step] at appended
              simpa [consideredAddresses, considered] using ih (collects.append step) appended

theorem collects_fixed : (⟨[], fixedBypassCidrs⟩ : CollectedCidrs).Collects [] :=
  ⟨by simp, by simp, by simp⟩

/-! ## The texts of a policy -/

theorem ne_nil_of_mem_allCidrs {policy : BypassPolicy} {text : Bytes}
    (member : text ∈ policy.allCidrs) : text ≠ [] := by
  obtain ⟨merged, output, merges⟩ := allCidrs_merges policy
  rw [← output] at member
  have parsed := List.mem_map_of_mem (f := parseCidr) member
  rw [merges.parsed] at parsed
  obtain ⟨cidr, -, read⟩ := List.mem_map.mp parsed
  rintro rfl
  cases read

/-- A policy that was collected is written with the bytes of its fixed ranges,
of addresses and of numbers. -/
theorem notMem_of_mem_allCidrs {interfaces : Except Bytes (List InterfaceEntry)}
    {upstreamAddress excludedInterface text : Bytes} {policy : BypassPolicy} {byte : UInt8}
    (noAddress : ¬ IsAddressByte byte) (noDigit : ¬ IsDigit byte) (noSlash : byte ≠ slash)
    (noFixed : ∀ text ∈ fixedBypassCidrs, byte ∉ text)
    (collected : collectBypassPolicy interfaces upstreamAddress excludedInterface = .ok policy)
    (member : text ∈ policy.allCidrs) : byte ∉ text := by
  have host (address : IpAddress) : byte ∉ formatCidr (hostCidr address) :=
    notMem_formatCidr_hostCidr noAddress noDigit noSlash
  have inputs := mem_inputs_of_mem_allCidrs member
  unfold collectBypassPolicy collectInterfaceAddresses at collected
  cases interfaces with
  | error detail => cases collected
  | ok entries =>
      cases appended : appendInterfaceEntries excludedInterface ⟨[], fixedBypassCidrs⟩ entries with
      | error failure => simp [appended] at collected
      | ok last =>
          have collects := collects_fixed.appendEntries appended
          have fromInterfaces : ∀ text ∈ last.output, byte ∉ text := by
            intro text member
            obtain ⟨address, -, -, rfl⟩ := collects.fromAddresses text member
            exact host address
          have fromPolicy (upstreamCidr : Bytes) (absent : byte ∉ upstreamCidr)
              (same : policy = ⟨fixedBypassCidrs, last.output, upstreamCidr⟩) : byte ∉ text := by
            subst same
            simp only [BypassPolicy.inputs, List.mem_append, List.mem_singleton] at inputs
            rcases inputs with (rfl | fixed) | output
            · exact absent
            · exact noFixed text fixed
            · exact fromInterfaces text output
          simp only [appended] at collected
          split at collected
          · exact fromPolicy [] (List.not_mem_nil) (Except.ok.inj collected).symm
          · unfold addressHostCidr at collected
            cases read : textAddress upstreamAddress with
            | none => simp [read] at collected
            | some address =>
                simp only [read] at collected
                by_cases unspecified : isUnspecifiedAddress (hostCidr address) = true
                · simp [unspecified] at collected
                · simp only [unspecified] at collected
                  exact fromPolicy _ (host address) (Except.ok.inj collected).symm

end TunProxy
