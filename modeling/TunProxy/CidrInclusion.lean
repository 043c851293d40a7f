import TunProxy.BypassPolicyCoverage

/-!
# Inclusion of CIDRs

The comparisons of leading bits decide whether all addresses of one CIDR are
addresses of another, and whether a CIDR has an address of the TUN's space.
Neither looks at a bit outside the arrays.
-/

namespace TunProxy

open ByteText AddressPrefix InternetText

/-- The CIDRs that the code compares: read from a text, or made for the address
of an interface or of the upstream. -/
inductive BinaryCidr.Produced : BinaryCidr → Prop
  | parsed {text : Bytes} {cidr : BinaryCidr} (read : parseCidr text = .ok cidr) : Produced cidr
  | host (address : IpAddress) : Produced (hostCidr address)

theorem BinaryCidr.Produced.fits {cidr : BinaryCidr} (produced : cidr.Produced) :
    cidr.prefixLength ≤ cidr.family.bits := by
  cases produced with
  | parsed read =>
      obtain ⟨-, -, family, bytes, length, -, -, -, -, fits, rfl⟩ := parseCidr_eq_ok.mp read
      exact fits
  | host address => exact Nat.le_refl _

theorem BinaryCidr.size_le (cidr : BinaryCidr) : cidr.family.size ≤ cidr.address.length :=
  cidr.sixteen ▸ cidr.family.size_le

/-- The addresses of a CIDR are those of one family with its prefix. -/
theorem forall_covers_iff {cidr : BinaryCidr} {property : Bytes → Prop} :
    (∀ address, cidr.Covers address → property address.bytes) ↔
      ∀ bytes : Bytes, bytes.length = cidr.family.size →
        Agree cidr.prefixLength cidr.address bytes → property bytes := by
  constructor
  · intro every bytes sized agree
    exact every ⟨cidr.family, bytes, sized⟩ ⟨rfl, agree⟩
  · rintro every address ⟨family, agree⟩
    exact every address.bytes (by rw [address.sized, family]) agree

section Comparisons

variable {outer inner cidr : BinaryCidr}

theorem containsCidr_eq_true : containsCidr outer inner = true ↔ outer.family = inner.family ∧
    outer.prefixLength ≤ inner.prefixLength ∧
      Agree outer.prefixLength outer.address inner.address := by
  unfold containsCidr
  split
  next incomparable =>
    simp only [Bool.false_eq_true, false_iff, not_and]
    rcases incomparable with families | longer
    · exact fun same => absurd same families
    · exact fun _ shorter => absurd longer (Nat.not_lt.mpr shorter)
  next comparable =>
    rw [not_or, Decidable.not_not, Nat.not_lt] at comparable
    simp [comparable.1, comparable.2]

theorem containsCidr_iff (producedOuter : outer.Produced) (producedInner : inner.Produced) :
    containsCidr outer inner = true ↔ outer.family = inner.family ∧
      ∀ address, inner.Covers address → outer.Covers address := by
  rw [containsCidr_eq_true]
  refine and_congr_right fun families => ?_
  have fits : outer.prefixLength ≤ 8 * inner.family.size := families ▸ producedOuter.fits
  rw [← forall_agree_iff inner.size_le fits producedInner.fits, ← forall_covers_iff]
  refine forall_congr' fun address => imp_congr_right fun covered => ?_
  exact ⟨fun agree => ⟨covered.1.trans families.symm, agree⟩, fun covers => covers.2⟩

theorem overlapsTunAddressSpace_iff (produced : cidr.Produced) :
    overlapsTunAddressSpace cidr = true ↔ cidr.family = .inet ∧
      ∃ address, cidr.Covers address ∧ InTunAddressSpace address := by
  unfold overlapsTunAddressSpace
  split
  next other => simp [other]
  next same =>
    rw [Decidable.not_not] at same
    have fits : cidr.prefixLength ≤ 8 * 4 := by
      have bound := produced.fits
      rwa [same] at bound
    have sized : 4 ≤ cidr.address.length := by
      rw [cidr.sixteen]
      decide
    have shared : Agree (min cidr.prefixLength 15) cidr.address kTunAddressSpacePrefix ↔
        Agree (min cidr.prefixLength 15) cidr.address [198, 18, 0, 0] := by
      have tun := agree_kTunAddressSpacePrefix.mono (Nat.min_le_right cidr.prefixLength 15)
      exact ⟨fun agree => agree.trans tun, fun agree => agree.trans tun.symm⟩
    rw [kTunAddressSpacePrefixBits, sameBits_iff, shared,
      ← exists_agree_iff sized (by decide) fits (by decide)]
    constructor
    · rintro ⟨bytes, length, inside, tun⟩
      exact ⟨same, ⟨.inet, bytes, length⟩, ⟨same.symm, inside⟩,
        inTunAddressSpace_iff.mpr ⟨rfl, tun⟩⟩
    · rintro ⟨-, address, ⟨family, inside⟩, tun⟩
      rw [inTunAddressSpace_iff] at tun
      exact ⟨address.bytes, by rw [address.sized, tun.1]; rfl, inside, tun.2⟩

/-! ## Checked accesses -/

/-- `overlapsTunAddressSpace` with checked accesses to the arrays. -/
def checkedOverlapsTunAddressSpace (cidr : BinaryCidr) : Option Bool :=
  if cidr.family ≠ .inet then some false
  else checkedSameBits cidr.address kTunAddressSpacePrefix
    (List.range (min cidr.prefixLength kTunAddressSpacePrefixBits))

/-- `containsCidr` with checked accesses to the arrays. -/
def checkedContainsCidr (outer inner : BinaryCidr) : Option Bool :=
  if outer.family ≠ inner.family ∨ inner.prefixLength < outer.prefixLength then some false
  else checkedSameBits outer.address inner.address (List.range outer.prefixLength)

theorem checkedOverlapsTunAddressSpace_eq (cidr : BinaryCidr) :
    checkedOverlapsTunAddressSpace cidr = some (overlapsTunAddressSpace cidr) := by
  have prefixBits : kTunAddressSpacePrefixBits ≤ 8 * kTunAddressSpacePrefix.length := by decide
  have bits : kTunAddressSpacePrefixBits ≤ 8 * 16 := by decide
  have fewer := Nat.min_le_right cidr.prefixLength kTunAddressSpacePrefixBits
  unfold checkedOverlapsTunAddressSpace overlapsTunAddressSpace
  split
  · rfl
  · apply checkedSameBits_eq
    · rw [cidr.sixteen]
      exact Nat.le_trans fewer bits
    · exact Nat.le_trans fewer prefixBits

theorem BinaryCidr.Produced.within (produced : cidr.Produced) : cidr.prefixLength ≤ 8 * 16 :=
  Nat.le_trans produced.fits (Nat.mul_le_mul_left 8 cidr.family.size_le)

theorem checkedContainsCidr_eq (produced : outer.Produced) (inner : BinaryCidr) :
    checkedContainsCidr outer inner = some (containsCidr outer inner) := by
  unfold checkedContainsCidr containsCidr
  split
  · rfl
  · apply checkedSameBits_eq
    · rw [outer.sixteen]
      exact produced.within
    · rw [inner.sixteen]
      exact produced.within

/-- Containment is inclusion of the addresses, overlap is an address in common
with the TUN's space, and all accesses are within the arrays. -/
theorem cidr_comparisons (producedOuter : outer.Produced) (producedInner : inner.Produced) :
    (containsCidr outer inner = true ↔ outer.family = inner.family ∧
      ∀ address, inner.Covers address → outer.Covers address) ∧
    (overlapsTunAddressSpace outer = true ↔ outer.family = .inet ∧
      ∃ address, outer.Covers address ∧ InTunAddressSpace address) ∧
    checkedContainsCidr outer inner = some (containsCidr outer inner) ∧
    checkedOverlapsTunAddressSpace outer = some (overlapsTunAddressSpace outer) :=
  ⟨containsCidr_iff producedOuter producedInner, overlapsTunAddressSpace_iff producedOuter,
    checkedContainsCidr_eq producedOuter inner, checkedOverlapsTunAddressSpace_eq outer⟩

end Comparisons

theorem cidr_comparisons_example : ∃ outer inner : BinaryCidr,
    parseCidr (ascii "198.0.0.0/8") = .ok outer ∧ parseCidr (ascii "198.19.3.0/24") = .ok inner ∧
    containsCidr outer inner = true ∧
    (∀ address, inner.Covers address → outer.Covers address) ∧
    (∃ address, outer.Covers address ∧ InTunAddressSpace address) := by
  have outer : parseCidr (ascii "198.0.0.0/8") = .ok (maskedCidr .inet [198, 0, 0, 0] 8) := by
    decide +kernel
  have inner : parseCidr (ascii "198.19.3.0/24") = .ok (maskedCidr .inet [198, 19, 3, 0] 24) := by
    decide +kernel
  obtain ⟨contains, overlaps, -, -⟩ := cidr_comparisons (.parsed outer) (.parsed inner)
  have contained : containsCidr (maskedCidr .inet [198, 0, 0, 0] 8)
      (maskedCidr .inet [198, 19, 3, 0] 24) = true := by decide +kernel
  have overlapping : overlapsTunAddressSpace (maskedCidr .inet [198, 0, 0, 0] 8) = true := by
    decide +kernel
  exact ⟨_, _, outer, inner, contained, (contains.mp contained).2, (overlaps.mp overlapping).2⟩

end TunProxy
