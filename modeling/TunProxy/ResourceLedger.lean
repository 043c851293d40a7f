import Mathlib.Algebra.Order.Group.Multiset
import Mathlib.Data.Multiset.UnionInter
import TunProxy.EffectProgramSafety

/-!
# Resources that are taken and given back

An operation may take resources, which come with its answer, it may need some
that are there, and it may give some back.  A program is followed with the
resources that it holds: it may use none that it does not hold, so that it uses
none before it has taken it or after it has given it back, and it ends with
those that are named.  What a program does with its own resources it also does
beside those of a caller.
-/

namespace EffectProgram

open Relation

variable {Op : Type} {Ret : Op → Type} {Resource : Type} {α β : Type}

/-- How operations deal with resources. -/
structure Handling (Ret : Op → Type) (Resource : Type) where
  takes : (operation : Op) → Ret operation → Multiset Resource
  uses : Op → List Resource
  returns : (operation : Op) → Ret operation → Multiset Resource
  /-- What is given back has to be there. -/
  returned : ∀ operation answer resource,
    resource ∈ returns operation answer → resource ∈ uses operation

namespace Handling

/-- The resources that a program holds.  What is taken is new. -/
def ledger (handling : Handling Ret Resource) : Surroundings Ret (Multiset Resource) where
  answers held operation answer next :=
    (handling.takes operation answer).Nodup ∧
      (∀ resource ∈ handling.takes operation answer, resource ∉ held) ∧
      ∃ rest, held = handling.returns operation answer + rest ∧
        next = handling.takes operation answer + rest
  drift _ _ := False

theorem still_ledger (handling : Handling Ret Resource) : Still handling.ledger :=
  fun _ _ => not_false

/-- An operation that uses only a program's own resources leaves the others of a
caller where they are. -/
theorem own_of_answers (handling : Handling Ret Resource) {own others next : Multiset Resource}
    {operation : Op} {answer : Ret operation} (nodup : (own + others).Nodup)
    (uses : ∀ resource ∈ handling.uses operation, resource ∈ own)
    (answered : handling.ledger.answers (own + others) operation answer next) :
    ∃ after, next = after + others ∧ next.Nodup ∧
      handling.ledger.answers own operation answer after := by
  obtain ⟨distinct, new, rest, split, rfl⟩ := answered
  -- What is given back is among the program's own.
  have given : handling.returns operation answer ≤ own := by
    have distinctReturns : (handling.returns operation answer).Nodup := by
      rw [split] at nodup
      exact (Multiset.nodup_add.mp nodup).1
    apply (Multiset.le_iff_subset distinctReturns).mpr
    intro resource member
    exact uses resource (handling.returned operation answer resource member)
  obtain ⟨kept, rfl⟩ := Multiset.le_iff_exists_add.mp given
  obtain rfl : rest = kept + others := by
    rw [add_assoc] at split
    exact (add_left_cancel split).symm
  refine ⟨handling.takes operation answer + kept, (add_assoc _ _ _).symm, ?_,
    distinct, fun resource taken own => ?_, kept, rfl, rfl⟩
  · rw [add_assoc] at nodup
    obtain ⟨-, remaining, -⟩ := Multiset.nodup_add.mp nodup
    refine Multiset.nodup_add.mpr ⟨distinct, remaining, Multiset.disjoint_left.mpr ?_⟩
    intro resource taken other
    apply new resource taken
    rw [add_assoc]
    exact Multiset.mem_add.mpr (Or.inr other)
  · exact new resource taken (Multiset.mem_add.mpr (Or.inl own))

/-- Only what is held is used, and nothing is held twice. -/
def careful (handling : Handling Ret Resource) : Watch Op (Multiset Resource) where
  holds := Multiset.Nodup
  permits held operation := ∀ resource ∈ handling.uses operation, resource ∈ held
  cuts := True

/-- With the resources that are held, the program uses no others but those that
it takes, and ends with those that it keeps. -/
def Leaves (handling : Handling Ret Resource) (held : Multiset Resource)
    (program : EffectProgram Ret α) (kept : α → Multiset Resource) : Prop :=
  held.Nodup → Safe handling.ledger handling.careful (fun value later => later = kept value)
    program held

end Handling

section Rules

variable {handling : Handling Ret Resource} {held : Multiset Resource}
variable {kept : α → Multiset Resource}

namespace Handling.Leaves

theorem done {value : α} (same : held = kept value) :
    handling.Leaves held (.done value) kept :=
  fun nodup => handling.still_ledger.safe_done nodup same

theorem cut : handling.Leaves held (.cut : EffectProgram Ret α) kept :=
  fun nodup => Triple.cut (handling.still_ledger.stable Multiset.Nodup) (fun _ => id) trivial held
    nodup

/-- A call that may take resources and give some back. -/
theorem call {operation : Op} {rest : Ret operation → EffectProgram Ret α}
    (uses : ∀ resource ∈ handling.uses operation, resource ∈ held)
    (answered : ∀ answer others, held = handling.returns operation answer + others →
      (∀ resource ∈ handling.takes operation answer, resource ∉ held) →
      handling.Leaves (handling.takes operation answer + others) (rest answer) kept) :
    handling.Leaves held (.call operation rest) kept := by
  intro nodup
  apply handling.still_ledger.safe_call nodup uses
  rintro answer next ⟨distinct, new, others, split, rfl⟩
  apply answered answer others split new
  rw [split] at nodup
  obtain ⟨-, rest, -⟩ := Multiset.nodup_add.mp nodup
  refine Multiset.nodup_add.mpr ⟨distinct, rest, ?_⟩
  apply Multiset.disjoint_left.mpr
  intro resource taken other
  apply new resource taken
  rw [split]
  exact Multiset.mem_add.mpr (Or.inr other)

/-- A call that leaves all resources where they are. -/
theorem step {operation : Op} {rest : Ret operation → EffectProgram Ret α}
    (uses : ∀ resource ∈ handling.uses operation, resource ∈ held)
    (takes : ∀ answer, handling.takes operation answer = 0)
    (returns : ∀ answer, handling.returns operation answer = 0)
    (answered : ∀ answer, handling.Leaves held (rest answer) kept) :
    handling.Leaves held (.call operation rest) kept := by
  apply call uses
  intro answer others split _
  rw [returns, zero_add] at split
  rw [takes, zero_add, ← split]
  exact answered answer

/-- A call that gives one resource back, whatever it answers. -/
theorem release {operation : Op} {rest : Ret operation → EffectProgram Ret α} {resource : Resource}
    (uses : handling.uses operation = [resource])
    (takes : ∀ answer, handling.takes operation answer = 0)
    (returns : ∀ answer, handling.returns operation answer = {resource})
    (answered : ∀ answer, handling.Leaves held (rest answer) kept) :
    handling.Leaves ({resource} + held) (.call operation rest) kept := by
  apply call
  · intro used member
    rw [uses] at member
    rw [List.mem_singleton.mp member]
    exact Multiset.mem_add.mpr (Or.inl (Multiset.mem_singleton_self resource))
  · intro answer others split _
    rw [returns] at split
    rw [takes, zero_add, ← add_left_cancel split]
    exact answered answer

theorem bind {program : EffectProgram Ret α} {next : α → EffectProgram Ret β}
    {later : β → Multiset Resource} (first : handling.Leaves held program kept)
    (second : ∀ value, handling.Leaves (kept value) (next value) later) :
    handling.Leaves held (program.bind next) later := by
  intro nodup
  apply ((first nodup).and_holds).bind
  rintro value last ⟨rfl, distinct⟩
  exact second value distinct

theorem ite {condition : Prop} [Decidable condition] {first second : EffectProgram Ret α}
    (yes : handling.Leaves held first kept) (no : handling.Leaves held second kept) :
    handling.Leaves held (if condition then first else second) kept := by
  split
  · exact yes
  · exact no

/-- A loop whose body leaves what it is given until the loop is left. -/
theorem iterate {σ : Type} {body : σ → EffectProgram Ret (σ ⊕ α)}
    (step : ∀ state, handling.Leaves held (body state) (Sum.elim (fun _ => held) kept))
    (fuel : Nat) (state : σ) : handling.Leaves held (iterate body fuel state) kept := by
  induction fuel generalizing state with
  | zero => exact cut
  | succ fuel ih =>
      apply (step state).bind
      intro result
      cases result with
      | inl next => exact ih next
      | inr value => exact done rfl

/-- A loop whose body keeps what it is given. -/
theorem iterate_keeps {σ : Type} {body : σ → EffectProgram Ret (σ ⊕ α)}
    (step : ∀ state, handling.Leaves held (body state) fun _ => held) (fuel : Nat) (state : σ) :
    handling.Leaves held (EffectProgram.iterate body fuel state) fun _ => held := by
  have same : Sum.elim (fun _ => held) (fun _ => held) = fun _ : σ ⊕ α => held := by
    ext ended
    cases ended <;> rfl
  apply iterate
  rw [same]
  exact step

/-- In every run only what is held is used, nothing is held twice, and at the
end there is what is kept. -/
theorem of_reaches {program last : EffectProgram Ret α} {later : Multiset Resource}
    (leaves : handling.Leaves held program kept) (nodup : held.Nodup)
    (reaches : Reaches handling.ledger (program, held) (last, later)) :
    later.Nodup ∧
      (∀ operation rest, last = .call operation rest →
        ∀ resource ∈ handling.uses operation, resource ∈ later) ∧
      ∀ value, last = .done value → later = kept value := by
  have safe := (leaves nodup).of_reaches reaches
  refine ⟨safe.holds, ?_, ?_⟩
  · rintro operation rest rfl
    exact safe.permits
  · rintro value rfl
    exact safe.result

/-- A run beside the resources of a caller is one without them, and they stay. -/
theorem own_of_reaches {program last : EffectProgram Ret α} {others later : Multiset Resource}
    (leaves : handling.Leaves held program kept) (nodup : (held + others).Nodup)
    (reaches : Reaches handling.ledger (program, held + others) (last, later)) :
    ∃ own, later = own + others ∧ later.Nodup ∧
      Reaches handling.ledger (program, held) (last, own) := by
  obtain ⟨ownNodup, -, -⟩ := Multiset.nodup_add.mp nodup
  generalize ended : (last, later) = final at reaches
  induction reaches generalizing last later with
  | refl =>
      cases ended
      exact ⟨held, rfl, nodup, .refl⟩
  | tail _ moves ih =>
      cases moves with
      | drift impossible => exact impossible.elim
      | answer answered =>
          cases ended
          obtain ⟨own, rfl, distinct, ran⟩ := ih rfl
          have uses := (leaves.of_reaches ownNodup ran).2.1 _ _ rfl
          obtain ⟨next, rfl, nextDistinct, answeredOwn⟩ :=
            handling.own_of_answers distinct uses answered
          exact ⟨next, rfl, nextDistinct, ran.tail (.answer answeredOwn)⟩

end Handling.Leaves

end Rules

end EffectProgram
