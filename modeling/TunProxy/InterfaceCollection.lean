import TunProxy.DistinctItems
import TunProxy.PolicyMerging

/-!
# The collected interface addresses

Offering addresses to the collection one after another collects the distinct
eligible ones outside the fixed ranges, or fails where there are more of them
than the limit: the containment check finds a repeated address by its host
CIDR, so that the collection does not depend on the order of the enumeration.
-/

namespace TunProxy

open ByteText AddressPrefix InternetText DistinctItems

/-- The addresses that are to be collected: those that may not be left out and
that no fixed range contains. -/
def Collectable (address : IpAddress) : Prop :=
  Eligible address ∧ ¬ ListCovers fixedBypassCidrs address

/-- The text of an address as a range of its own. -/
def hostText (address : IpAddress) : Bytes :=
  formatCidr (hostCidr address)

/-- `appendInterfaceAddress` for one address after another. -/
def appendInterfaceAddresses : CollectedCidrs → List IpAddress → Result CollectedCidrs
  | collected, [] => .ok collected
  | collected, address :: rest =>
      match appendInterfaceAddress collected (hostCidr address) with
      | .ok next => appendInterfaceAddresses next rest
      | .error failure => .error failure

/-- The loop over the entries offers the addresses that it does not skip. -/
theorem appendInterfaceEntries_eq (excludedInterface : Bytes) (collected : CollectedCidrs)
    (entries : List InterfaceEntry) :
    appendInterfaceEntries excludedInterface collected entries =
      appendInterfaceAddresses collected (consideredAddresses excludedInterface entries) := by
  induction entries generalizing collected with
  | nil => rfl
  | cons entry entries ih =>
      cases considered : entry.considered excludedInterface with
      | none => simp [appendInterfaceEntries, consideredAddresses, considered, ih]
      | some address =>
          simp only [appendInterfaceEntries, considered, consideredAddresses, List.filterMap_cons,
            appendInterfaceAddresses]
          cases appendInterfaceAddress collected (hostCidr address) with
          | error failure => rfl
          | ok next => exact ih next

/-! ## One address -/

theorem fits_hostCidr (address : IpAddress) : (hostCidr address).Fits :=
  Nat.le_refl _

/-- A range contains the host CIDR of an address just when it covers it. -/
theorem containsCidr_hostCidr {cidr : BinaryCidr} (fits : cidr.Fits) {address : IpAddress} :
    containsCidr cidr (hostCidr address) = true ↔ cidr.Covers address := by
  constructor
  · intro contains
    exact covers_of_containsCidr contains (covers_hostCidr.mpr rfl)
  · intro covers
    apply containsCidr_of_covers fits (fits_hostCidr address)
    intro other covered
    rwa [covers_hostCidr.mp covered]

theorem parseCidr_hostText (address : IpAddress) :
    parseCidr (hostText address) = .ok (hostCidr address) :=
  parseCidr_formatCidr_hostCidr address

/-- The test of the loop over the texts seen. -/
def textContains (text : Bytes) (address : IpAddress) : Bool :=
  match parseCidr text with
  | .ok existing => containsCidr existing (hostCidr address)
  | .error _ => false

theorem textContains_iff {text : Bytes} (noNul : (0 : UInt8) ∉ text) {address : IpAddress} :
    textContains text address = true ↔ CidrCovers text address := by
  unfold textContains
  cases parsed : parseCidr text with
  | error failure =>
      constructor
      · intro impossible
        cases impossible
      · intro covers
        obtain ⟨cidr, accepted⟩ := exists_parseCidr_of_covers noNul covers
        cases parsed.symm.trans accepted
  | ok cidr =>
      rw [← covers_iff_of_parseCidr noNul parsed]
      exact containsCidr_hostCidr (fits_of_parseCidr parsed)

theorem textContains_fixed {address : IpAddress} :
    (∃ text ∈ fixedBypassCidrs, textContains text address = true) ↔
      ListCovers fixedBypassCidrs address := by
  constructor
  · rintro ⟨text, member, contains⟩
    exact ⟨text, member, (textContains_iff (notMem_fixedBypassCidrs member)).mp contains⟩
  · rintro ⟨text, member, covers⟩
    exact ⟨text, member, (textContains_iff (notMem_fixedBypassCidrs member)).mpr covers⟩

theorem textContains_hostText {first second : IpAddress} :
    textContains (hostText first) second = true ↔ second = first := by
  simp only [textContains, parseCidr_hostText]
  rw [containsCidr_hostCidr (fits_hostCidr first), covers_hostCidr]

instance : DecidablePred Collectable := fun address =>
  decidable_of_iff ((isUnspecifiedAddress (hostCidr address) ||
      overlapsTunAddressSpace (hostCidr address)) = false ∧
      ¬ ∃ text ∈ fixedBypassCidrs, textContains text address = true) <| by
    rw [textContains_fixed, Bool.or_eq_false_iff, ← Bool.not_eq_true, ← Bool.not_eq_true,
      isUnspecifiedAddress_hostCidr, overlapsTunAddressSpace_hostCidr]
    rfl

/-- What is done with the host CIDR of an address, which always has a text. -/
theorem appendInterfaceAddress_eq (collected : CollectedCidrs) (address : IpAddress) :
    appendInterfaceAddress collected (hostCidr address) =
      if isUnspecifiedAddress (hostCidr address) || overlapsTunAddressSpace (hostCidr address) then
        .ok collected
      else if collected.seen.any (fun text => textContains text address) then .ok collected
      else if hostText address ∈ collected.seen then .ok collected
      else if kMaximumInterfaceCidrs ≤ collected.output.length then
        .error (makeError .stateError (ascii "more than " ++ formatNat kMaximumInterfaceCidrs ++
          ascii (" active interface addresses were detected; " ++
            "refusing an incomplete bypass policy")))
      else .ok ⟨collected.output ++ [hostText address], hostText address :: collected.seen⟩ := by
  have filled : ¬ (formatCidr (hostCidr address)).isEmpty = true := by
    simp [formatCidr_hostCidr_ne_nil]
  rw [appendInterfaceAddress]
  simp only [if_neg filled]
  rfl

/-! ## All addresses -/

/-- The collection holds the texts of the addresses found, and has seen these and
the fixed ranges. -/
structure CollectedCidrs.Holds (collected : CollectedCidrs) (found : List IpAddress) : Prop where
  output : collected.output = found.map hostText
  seen : ∀ text, text ∈ collected.seen ↔ text ∈ fixedBypassCidrs ∨ ∃ address ∈ found,
    text = hostText address

theorem CollectedCidrs.Holds.contained {collected : CollectedCidrs} {found : List IpAddress}
    (holds : collected.Holds found) (address : IpAddress) :
    collected.seen.any (fun text => textContains text address) = true ↔
      ListCovers fixedBypassCidrs address ∨ address ∈ found := by
  rw [List.any_eq_true, ← textContains_fixed]
  constructor
  · rintro ⟨text, member, contains⟩
    rcases (holds.seen text).mp member with fixed | ⟨other, earlier, rfl⟩
    · exact .inl ⟨text, fixed, contains⟩
    · exact .inr (textContains_hostText.mp contains ▸ earlier)
  · rintro (⟨text, fixed, contains⟩ | earlier)
    · exact ⟨text, (holds.seen text).mpr (.inl fixed), contains⟩
    · exact ⟨hostText address, (holds.seen _).mpr (.inr ⟨address, earlier, rfl⟩),
        textContains_hostText.mpr rfl⟩

/-- One address more is passed over, or found to be known, or collected, or too
many. -/
theorem CollectedCidrs.Holds.append {collected : CollectedCidrs} {found : List IpAddress}
    (holds : collected.Holds found) (address : IpAddress) :
    if Collectable address ∧ address ∉ found then
      if kMaximumInterfaceCidrs ≤ found.length then
        ∃ failure, appendInterfaceAddress collected (hostCidr address) = .error failure
      else ∃ next, appendInterfaceAddress collected (hostCidr address) = .ok next ∧
        next.Holds (found ++ [address])
    else appendInterfaceAddress collected (hostCidr address) = .ok collected := by
  have size : collected.output.length = found.length := by simp [holds.output]
  have known := holds.contained address
  by_cases eligible : Eligible address
  · have included : ¬ (isUnspecifiedAddress (hostCidr address) ||
        overlapsTunAddressSpace (hostCidr address)) = true := by
      rw [Bool.or_eq_true, isUnspecifiedAddress_hostCidr, overlapsTunAddressSpace_hostCidr, not_or]
      exact eligible
    by_cases contained : ListCovers fixedBypassCidrs address ∨ address ∈ found
    · have known := known.mpr contained
      have skipped : ¬ (Collectable address ∧ address ∉ found) := by
        rintro ⟨collectable, fresh⟩
        rcases contained with fixed | earlier
        · exact collectable.2 fixed
        · exact fresh earlier
      rw [if_neg skipped, appendInterfaceAddress_eq, if_neg included, if_pos known]
    · have unknown := mt known.mp contained
      rw [not_or] at contained
      have fresh : hostText address ∉ collected.seen := by
        intro member
        apply unknown
        exact List.any_eq_true.mpr ⟨_, member, textContains_hostText.mpr rfl⟩
      rw [if_pos ⟨⟨eligible, contained.1⟩, contained.2⟩, appendInterfaceAddress_eq,
        if_neg included, if_neg unknown, if_neg fresh, size]
      by_cases full : kMaximumInterfaceCidrs ≤ found.length
      · rw [if_pos full, if_pos full]
        exact ⟨_, rfl⟩
      · rw [if_neg full, if_neg full]
        refine ⟨_, rfl, ?_, ?_⟩
        · simp [holds.output]
        · intro text
          simp only [List.mem_cons, holds.seen, List.mem_append, List.not_mem_nil, or_false]
          constructor
          · rintro (rfl | fixed | ⟨other, earlier, rfl⟩)
            · exact .inr ⟨address, .inr rfl, rfl⟩
            · exact .inl fixed
            · exact .inr ⟨other, .inl earlier, rfl⟩
          · rintro (fixed | ⟨other, earlier | rfl, rfl⟩)
            · exact .inr (.inl fixed)
            · exact .inr (.inr ⟨other, earlier, rfl⟩)
            · exact .inl rfl
  · have excluded : (isUnspecifiedAddress (hostCidr address) ||
        overlapsTunAddressSpace (hostCidr address)) = true := by
      rw [Bool.or_eq_true, isUnspecifiedAddress_hostCidr, overlapsTunAddressSpace_hostCidr]
      by_contra neither
      rw [not_or] at neither
      exact eligible neither
    have skipped : ¬ (Collectable address ∧ address ∉ found) :=
      fun collectable => eligible collectable.1.1
    rw [if_neg skipped, appendInterfaceAddress_eq, if_pos excluded]

/-- The collection of texts is the collection of addresses. -/
theorem CollectedCidrs.Holds.appendAll {collected : CollectedCidrs} {found : List IpAddress}
    (holds : collected.Holds found) (addresses : List IpAddress) :
    match collect kMaximumInterfaceCidrs found (addresses.filter Collectable) with
    | some all => ∃ last, appendInterfaceAddresses collected addresses = .ok last ∧ last.Holds all
    | none => ∃ failure, appendInterfaceAddresses collected addresses = .error failure := by
  induction addresses generalizing collected found with
  | nil => exact ⟨collected, rfl, holds⟩
  | cons address addresses ih =>
      have step := holds.append address
      by_cases collectable : Collectable address
      · rw [List.filter_cons_of_pos (by simpa using collectable), collect]
        by_cases earlier : address ∈ found
        · rw [if_neg fun fresh => fresh.2 earlier] at step
          rw [if_pos earlier]
          simpa only [appendInterfaceAddresses, step] using ih holds
        · rw [if_pos ⟨collectable, earlier⟩] at step
          rw [if_neg earlier]
          by_cases full : kMaximumInterfaceCidrs ≤ found.length
          · rw [if_pos full] at step ⊢
            obtain ⟨failure, failed⟩ := step
            exact ⟨failure, by simp only [appendInterfaceAddresses, failed]⟩
          · rw [if_neg full] at step ⊢
            obtain ⟨next, appended, held⟩ := step
            simpa only [appendInterfaceAddresses, appended] using ih held
      · rw [List.filter_cons_of_neg (by simpa using collectable)]
        rw [if_neg fun fresh => collectable fresh.1] at step
        simpa only [appendInterfaceAddresses, step] using ih holds

theorem CollectedCidrs.holds_fixed : (⟨[], fixedBypassCidrs⟩ : CollectedCidrs).Holds [] :=
  ⟨rfl, by simp⟩

/-- The host length behind the slash. -/
def hostLength : AddressFamily → Bytes
  | .inet => ascii "/32"
  | .inet6 => ascii "/128"

theorem hostText_eq (address : IpAddress) :
    hostText address = inetNtop address.family address.bytes ++ hostLength address.family := by
  have length : slash :: formatNat address.family.bits = hostLength address.family := by
    cases address.family <;> decide
  rw [hostText, formatCidr_hostCidr, length]

/-- The addresses of a list that are to be collected, each once, in the order in
which they occur first. -/
def collectedAddresses (addresses : List IpAddress) : List IpAddress :=
  distinct (addresses.filter Collectable)

theorem appendInterfaceAddresses_eq (addresses : List IpAddress) :
    (kMaximumInterfaceCidrs < (collectedAddresses addresses).length ∧
      ∃ failure, appendInterfaceAddresses ⟨[], fixedBypassCidrs⟩ addresses = .error failure) ∨
    (collectedAddresses addresses).length ≤ kMaximumInterfaceCidrs ∧
      ∃ last, appendInterfaceAddresses ⟨[], fixedBypassCidrs⟩ addresses = .ok last ∧
        last.output = (collectedAddresses addresses).map hostText := by
  have all := CollectedCidrs.holds_fixed.appendAll addresses
  rw [collect_distinct] at all
  by_cases few : (distinct (addresses.filter Collectable)).length ≤ kMaximumInterfaceCidrs
  · rw [if_pos few] at all
    obtain ⟨last, appended, holds⟩ := all
    exact .inr ⟨few, last, appended, holds.output⟩
  · rw [if_neg few] at all
    exact .inl ⟨Nat.lt_of_not_le few, all⟩

/-- The collection fails just when there are more distinct addresses to collect
than the limit; otherwise it gives their host texts in the order in which they
occur first.  Whether it fails and which texts it gives does not change where the
list is reordered or addresses are repeated. -/
theorem interface_collection_exact (addresses : List IpAddress) :
    ((∃ failure, appendInterfaceAddresses ⟨[], fixedBypassCidrs⟩ addresses = .error failure) ↔
      kMaximumInterfaceCidrs < (collectedAddresses addresses).length) ∧
    (∀ last, appendInterfaceAddresses ⟨[], fixedBypassCidrs⟩ addresses = .ok last →
      last.output = (collectedAddresses addresses).map fun address =>
        inetNtop address.family address.bytes ++ hostLength address.family) ∧
    ∀ others, (∀ address, address ∈ others ↔ address ∈ addresses) →
      (appendInterfaceAddresses ⟨[], fixedBypassCidrs⟩ others).isOk =
        (appendInterfaceAddresses ⟨[], fixedBypassCidrs⟩ addresses).isOk ∧
      ∀ last other, appendInterfaceAddresses ⟨[], fixedBypassCidrs⟩ addresses = .ok last →
        appendInterfaceAddresses ⟨[], fixedBypassCidrs⟩ others = .ok other →
        ∀ text, text ∈ other.output ↔ text ∈ last.output := by
  have sameMembers {others : List IpAddress}
      (same : ∀ address, address ∈ others ↔ address ∈ addresses) (address : IpAddress) :
      address ∈ others.filter Collectable ↔ address ∈ addresses.filter Collectable := by
    simp only [List.mem_filter, same]
  refine ⟨⟨?_, ?_⟩, ?_, ?_⟩
  · rintro ⟨failure, failed⟩
    rcases appendInterfaceAddresses_eq addresses with ⟨many, -⟩ | ⟨-, last, appended, -⟩
    · exact many
    · cases failed.symm.trans appended
  · intro many
    rcases appendInterfaceAddresses_eq addresses with ⟨-, failed⟩ | ⟨few, -⟩
    · exact failed
    · exact absurd few (Nat.not_le.mpr many)
  · intro last appended
    have written : hostText = fun address =>
        inetNtop address.family address.bytes ++ hostLength address.family := funext hostText_eq
    rcases appendInterfaceAddresses_eq addresses with
      ⟨-, failure, failed⟩ | ⟨-, found, same, output⟩
    · cases failed.symm.trans appended
    · obtain rfl := Except.ok.inj (same.symm.trans appended)
      rw [output, written]
  · intro others same
    have members := sameMembers same
    have lengths : (collectedAddresses others).length = (collectedAddresses addresses).length :=
      length_distinct_eq members
    rcases appendInterfaceAddresses_eq addresses with
      ⟨many, failure, failed⟩ | ⟨few, found, appended, output⟩
    · rcases appendInterfaceAddresses_eq others with ⟨-, failure', failed'⟩ | ⟨few, -⟩
      · exact ⟨by rw [failed, failed']; rfl, by simp [failed]⟩
      · omega
    · rcases appendInterfaceAddresses_eq others with ⟨many, -⟩ | ⟨-, found', appended', output'⟩
      · omega
      · refine ⟨by rw [appended, appended']; rfl, fun last other lastIs otherIs text => ?_⟩
        obtain rfl := Except.ok.inj (appended.symm.trans lastIs)
        obtain rfl := Except.ok.inj (appended'.symm.trans otherIs)
        rw [output, output']
        simp only [List.mem_map, collectedAddresses, mem_distinct, members]

/-- Repeated addresses of both families, an unspecified one, one of the TUN and
one inside a fixed range. -/
example : (appendInterfaceAddresses ⟨[], fixedBypassCidrs⟩
    [⟨.inet, [203, 0, 113, 5], rfl⟩, ⟨.inet, [0, 0, 0, 0], rfl⟩, ⟨.inet, [198, 19, 0, 1], rfl⟩,
      ⟨.inet, [10, 1, 2, 3], rfl⟩, ⟨.inet, [203, 0, 113, 4], rfl⟩,
      ⟨.inet, [203, 0, 113, 5], rfl⟩]).toOption.map CollectedCidrs.output =
    some [ascii "203.0.113.5/32", ascii "203.0.113.4/32"] := by
  decide +kernel

end TunProxy
