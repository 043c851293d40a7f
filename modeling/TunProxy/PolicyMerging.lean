import TunProxy.CidrInclusion

/-!
# The merged bypass policy

The merged list covers what its inputs cover, keeps their order, begins with
the upstream, and has no entry that an earlier one makes superfluous.  The last
of these needs that the bit comparison finds every inclusion: a prefix stands
for addresses with any bits behind it, so that a shorter prefix is never
included in a longer one.
-/

namespace TunProxy

open ByteText AddressPrefix InternetText

/-! ## Inclusion of prefixes -/

/-- The address of a CIDR itself. -/
def BinaryCidr.base (cidr : BinaryCidr) : IpAddress where
  family := cidr.family
  bytes := cidr.address.take cidr.family.size
  sized := by
    have fits := AddressFamily.size_le cidr.family
    simp [cidr.sixteen, fits]

/-- The length of the prefix is one that the family has. -/
def BinaryCidr.Fits (cidr : BinaryCidr) : Prop :=
  cidr.prefixLength ≤ cidr.family.bits

theorem covers_base {cidr : BinaryCidr} (fits : cidr.Fits) : cidr.Covers cidr.base :=
  ⟨rfl, (agree_take fits).symm⟩

/-- Inclusion of what CIDRs stand for is found by the comparison. -/
theorem containsCidr_of_covers {outer inner : BinaryCidr} (outerFits : outer.Fits)
    (innerFits : inner.Fits) (included : ∀ address, inner.Covers address → outer.Covers address) :
    containsCidr outer inner = true := by
  have families : outer.family = inner.family := (included _ (covers_base innerFits)).1.symm
  have fits : outer.prefixLength ≤ 8 * inner.family.size := families ▸ outerFits
  have agreeing : ∀ bytes : Bytes, bytes.length = inner.family.size →
      Agree inner.prefixLength inner.address bytes → Agree outer.prefixLength outer.address bytes :=
    forall_covers_iff.mp fun address covered => (included address covered).2
  have both := (forall_agree_iff inner.size_le fits innerFits).mp agreeing
  exact containsCidr_eq_true.mpr ⟨families, both⟩

theorem fits_of_parseCidr {text : Bytes} {cidr : BinaryCidr} (parsed : parseCidr text = .ok cidr) :
    cidr.Fits := by
  obtain ⟨-, -, family, bytes, length, -, -, -, -, fits, rfl⟩ := parseCidr_eq_ok.mp parsed
  exact fits

/-! ## Merging -/

/-- The addresses that one text stands for, if it parses. -/
def TextCovers (text : Bytes) (address : IpAddress) : Prop :=
  ∃ cidr, parseCidr text = .ok cidr ∧ cidr.Covers address

/-- Of some texts those are kept, in their order, that nothing before them
contains. -/
structure MergedCidrs.Tidy (merged : MergedCidrs) (inputs : List Bytes) : Prop where
  ordered : merged.output.Sublist inputs
  irredundant : merged.parsedOutput.Pairwise fun earlier later => containsCidr earlier later = false

theorem MergedCidrs.Tidy.skip {merged : MergedCidrs} {inputs : List Bytes}
    (tidy : merged.Tidy inputs) (text : Bytes) : merged.Tidy (inputs ++ [text]) :=
  ⟨tidy.ordered.trans (List.sublist_append_left _ _), tidy.irredundant⟩

theorem MergedCidrs.Tidy.add {merged : MergedCidrs} {inputs : List Bytes}
    (tidy : merged.Tidy inputs) (text : Bytes) {cidr : BinaryCidr}
    (fresh : ∀ existing ∈ merged.parsedOutput, containsCidr existing cidr = false) :
    (⟨merged.output ++ [text], merged.parsedOutput ++ [cidr]⟩ : MergedCidrs).Tidy
      (inputs ++ [text]) := by
  constructor
  · exact tidy.ordered.append (List.Sublist.refl _)
  · refine List.pairwise_append.mpr ⟨tidy.irredundant, List.pairwise_singleton _ _, ?_⟩
    intro existing member later last
    obtain rfl := List.mem_singleton.mp last
    exact fresh existing member

/-- The comparison is only left out for the first text. -/
theorem MergedCidrs.Tidy.append {merged : MergedCidrs} {inputs : List Bytes}
    (tidy : merged.Tidy inputs) {mandatory : Bool}
    (compared : mandatory = true → merged.parsedOutput = []) (text : Bytes) :
    (merged.append mandatory text).Tidy (inputs ++ [text]) := by
  unfold MergedCidrs.append
  split
  · exact tidy.skip text
  split
  · exact tidy.skip text
  next cidr parsed =>
    split
    · exact tidy.skip text
    next notContained =>
      split
      · exact tidy.skip text
      · refine tidy.add text fun existing member => ?_
        cases mandatory with
        | true =>
            rw [compared rfl] at member
            cases member
        | false =>
            simp only [Bool.not_false, Bool.true_and, List.any_eq_true, not_exists, not_and,
              Bool.not_eq_true] at notContained
            exact notContained existing member

theorem MergedCidrs.Tidy.foldl {merged : MergedCidrs} {inputs texts : List Bytes}
    (tidy : merged.Tidy inputs) :
    (texts.foldl (MergedCidrs.append false) merged).Tidy (inputs ++ texts) := by
  induction texts generalizing merged inputs with
  | nil => simpa using tidy
  | cons text texts ih =>
      have step : (merged.append false text).Tidy (inputs ++ [text]) :=
        tidy.append (fun impossible : false = true => nomatch impossible) text
      simpa using ih step

theorem MergedCidrs.tidy_nil : (⟨[], []⟩ : MergedCidrs).Tidy [] :=
  ⟨List.Sublist.refl _, List.Pairwise.nil⟩

theorem allCidrs_tidy (policy : BypassPolicy) :
    ∃ merged : MergedCidrs, merged.output = policy.allCidrs ∧ merged.Merges policy.inputs ∧
      merged.Tidy policy.inputs := by
  have empty (given : policy.upstreamCidr.isEmpty = true) :
      (⟨[], []⟩ : MergedCidrs) = MergedCidrs.append true ⟨[], []⟩ policy.upstreamCidr := by
    simp [MergedCidrs.append, given]
  have pinned : (if policy.upstreamCidr.isEmpty then ⟨[], []⟩
      else MergedCidrs.append true ⟨[], []⟩ policy.upstreamCidr : MergedCidrs) =
        MergedCidrs.append true ⟨[], []⟩ policy.upstreamCidr := by
    split
    next given => exact empty given
    next => rfl
  have merges := MergedCidrs.merges_nil.append true policy.upstreamCidr
  have tidy : (MergedCidrs.append true ⟨[], []⟩ policy.upstreamCidr).Tidy
      ([] ++ [policy.upstreamCidr]) :=
    MergedCidrs.tidy_nil.append (fun _ => rfl) policy.upstreamCidr
  refine ⟨_, ?_, merges.foldl.foldl, tidy.foldl.foldl⟩
  rw [BypassPolicy.allCidrs, pinned]

/-- A list whose parsed forms do not contain later ones has in every entry an
address that no earlier entry covers. -/
theorem pairwise_of_parsed {texts : List Bytes} {cidrs : List BinaryCidr}
    (parsed : texts.map parseCidr = cidrs.map .ok)
    (irredundant : cidrs.Pairwise fun earlier later => containsCidr earlier later = false) :
    texts.Pairwise fun earlier later =>
      ∃ address, TextCovers later address ∧ ¬ TextCovers earlier address := by
  induction texts generalizing cidrs with
  | nil => exact List.Pairwise.nil
  | cons text texts ih =>
      cases cidrs with
      | nil => cases parsed
      | cons cidr cidrs =>
          simp only [List.map_cons, List.cons.injEq] at parsed
          obtain ⟨first, rest⟩ := parsed
          rw [List.pairwise_cons] at irredundant ⊢
          refine ⟨fun later member => ?_, ih rest irredundant.2⟩
          have laterParsed := List.mem_map_of_mem (f := parseCidr) member
          rw [rest] at laterParsed
          obtain ⟨other, otherMember, read⟩ := List.mem_map.mp laterParsed
          by_contra included
          simp only [not_exists, not_and, not_not] at included
          have contains : containsCidr cidr other = true := by
            refine containsCidr_of_covers (fits_of_parseCidr first) (fits_of_parseCidr read.symm) ?_
            intro address covers
            obtain ⟨found, foundParsed, foundCovers⟩ := included address ⟨other, read.symm, covers⟩
            obtain rfl := Except.ok.inj (first.symm.trans foundParsed)
            exact foundCovers
          rw [irredundant.1 other otherMember] at contains
          cases contains

/-- The merged list covers what the inputs that parse cover, it is a
subsequence of the upstream, the fixed and the interface texts, the upstream
comes first if it parses, and no entry stands for a part of an earlier one. -/
theorem allCidrs_complete_ordered_irredundant (policy : BypassPolicy) :
    (∀ address, (∃ text ∈ policy.allCidrs, TextCovers text address) ↔
      ∃ text ∈ [policy.upstreamCidr] ++ policy.fixedCidrs ++ policy.interfaceCidrs,
        TextCovers text address) ∧
    policy.allCidrs.Sublist
      ([policy.upstreamCidr] ++ policy.fixedCidrs ++ policy.interfaceCidrs) ∧
    (∀ cidr, parseCidr policy.upstreamCidr = .ok cidr →
      policy.allCidrs.head? = some policy.upstreamCidr) ∧
    policy.allCidrs.Pairwise fun earlier later =>
      ∃ address, TextCovers later address ∧ ¬ TextCovers earlier address := by
  obtain ⟨merged, output, merges, tidy⟩ := allCidrs_tidy policy
  refine ⟨allCidrs_covers policy, ?_, fun cidr => allCidrs_head, ?_⟩
  · exact output ▸ tidy.ordered
  · exact output ▸ pairwise_of_parsed merges.parsed tidy.irredundant

/-- The policy of an upstream inside a fixed range, with texts that repeat
others in another spelling. -/
example : BypassPolicy.allCidrs ⟨[ascii "10.0.0.0/8", ascii "10.5.0.0/8"],
    [ascii "10.1.2.3/32", ascii "192.0.2.44/32", ascii "192.0.2.44/032", ascii "::/129"],
    ascii "10.9.8.7/32"⟩ =
      [ascii "10.9.8.7/32", ascii "10.0.0.0/8", ascii "192.0.2.44/32"] := by
  decide +kernel

end TunProxy
