import TunProxy.EffectProgramSafety

/-!
# Programs that do more than can be seen

A program refines another when it does the same, but for calls that cannot be
seen from above; a call that can be seen is one of the other program's, with an
answer that it could be given there.  What the program does, seen from above, is
then a run of the other program.
-/

namespace EffectProgram

open Relation

variable {Op Op' : Type} {Ret : Op → Type} {Ret' : Op' → Type} {α β : Type}

/-- The first program does what the second does, and calls that are not seen. -/
inductive Refines (seen : Sigma Ret' → Option (Sigma Ret)) :
    EffectProgram Ret' α → EffectProgram Ret α → Prop
  | done (value : α) : Refines seen (.done value) (.done value)
  | cut {above : EffectProgram Ret α} : Refines seen .cut above
  | unseen {operation : Op'} {rest : Ret' operation → EffectProgram Ret' α}
      {above : EffectProgram Ret α} (hidden : ∀ answer, seen ⟨operation, answer⟩ = none)
      (onward : ∀ answer, Refines seen (rest answer) above) :
      Refines seen (.call operation rest) above
  | shown {operation : Op'} {rest : Ret' operation → EffectProgram Ret' α} {operation' : Op}
      {rest' : Ret operation' → EffectProgram Ret α}
      (shows : (answer : Ret' operation) → Ret operation')
      (visible : ∀ answer, seen ⟨operation, answer⟩ = some ⟨operation', shows answer⟩)
      (onward : ∀ answer, Refines seen (rest answer) (rest' (shows answer))) :
      Refines seen (.call operation rest) (.call operation' rest')

section Refinement

variable {seen : Sigma Ret' → Option (Sigma Ret)}

theorem Refines.bind {program : EffectProgram Ret' α} {above : EffectProgram Ret α}
    {next : α → EffectProgram Ret' β} {next' : α → EffectProgram Ret β}
    (first : Refines seen program above)
    (second : ∀ value, Refines seen (next value) (next' value)) :
    Refines seen (program.bind next) (above.bind next') := by
  induction first with
  | done value => exact second value
  | cut => exact .cut
  | unseen hidden onward ih => exact .unseen hidden ih
  | shown shows visible onward ih => exact .shown shows visible ih

/-- A loop whose body refines that of another. -/
theorem Refines.iterate {σ : Type} {body : σ → EffectProgram Ret' (σ ⊕ α)}
    {body' : σ → EffectProgram Ret (σ ⊕ α)}
    (step : ∀ state, Refines seen (body state) (body' state)) (fuel : Nat) (state : σ) :
    Refines seen (iterate body fuel state) (iterate body' fuel state) := by
  induction fuel generalizing state with
  | zero => exact .cut
  | succ fuel ih =>
      apply (step state).bind
      intro result
      cases result with
      | inl next => exact ih next
      | inr value => exact .done value

/-- What a history looks like from above. -/
def lookAt (seen : Sigma Ret' → Option (Sigma Ret)) (history : History Ret') : History Ret :=
  history.filterMap seen

variable {possible : (operation : Op) → Ret operation → Prop}
variable {possible' : (operation : Op') → Ret' operation → Prop}

/-- A run of a program that refines another is, seen from above, one of the other. -/
theorem Refines.reaches
    (answered : ∀ operation answer operation' answer', possible' operation answer →
      seen ⟨operation, answer⟩ = some ⟨operation', answer'⟩ → possible operation' answer')
    {program last : EffectProgram Ret' α} {above : EffectProgram Ret α}
    {history later : History Ret'} (refines : Refines seen program above)
    (reaches : Reaches (recording possible') (program, history) (last, later)) :
    ∃ lastAbove, Reaches (recording possible) (above, lookAt seen history)
      (lastAbove, lookAt seen later) ∧ Refines seen last lastAbove := by
  generalize start : (program, history) = first at reaches
  generalize stop : (last, later) = final at reaches
  induction reaches generalizing last later with
  | refl =>
      obtain ⟨rfl, rfl⟩ := Prod.mk.inj (start.trans stop.symm)
      exact ⟨above, .refl, refines⟩
  | @tail middle final before moves ih =>
      subst stop
      obtain ⟨current, reached⟩ := middle
      obtain ⟨aboveCurrent, ran, refinesCurrent⟩ := ih rfl
      cases moves with
      | drift drift => exact drift.elim
      | answer answers =>
          obtain ⟨may, rfl⟩ := answers
          cases refinesCurrent with
          | unseen hidden onward =>
              refine ⟨aboveCurrent, ?_, onward _⟩
              simpa [lookAt, List.filterMap_append, hidden] using ran
          | shown shows visible onward =>
              refine ⟨_, ran.tail (Moves.answer ⟨answered _ _ _ _ may (visible _), ?_⟩), onward _⟩
              simp [lookAt, List.filterMap_append, visible]

/-- An answer that is possible as it looks from above. -/
def LooksPossible (seen : Sigma Ret' → Option (Sigma Ret))
    (possible : (operation : Op) → Ret operation → Prop) (operation : Op')
    (answer : Ret' operation) : Prop :=
  ∀ operation' answer', seen ⟨operation, answer⟩ = some ⟨operation', answer'⟩ →
    possible operation' answer'

/-- The history with one more call. -/
def noted (history : History Ret') (operation : Op') (answer : Ret' operation) : History Ret' :=
  history ++ [⟨operation, answer⟩]

theorem answers_noted (history : History Ret') (operation : Op') (answer : Ret' operation) :
    (recording (LooksPossible seen fun _ _ => True)).answers history operation answer
      (noted history operation answer) :=
  ⟨fun _ _ _ => trivial, rfl⟩

/-- Every run of a program that refines another looks like one of the other, and
comes to the same result. -/
theorem Refines.looks {program last : EffectProgram Ret' α} {above : EffectProgram Ret α}
    {later : History Ret'} (refines : Refines seen program above)
    (reaches : Reaches (recording (LooksPossible seen possible)) (program, []) (last, later)) :
    ∃ lastAbove, Reaches (recording possible) (above, []) (lastAbove, lookAt seen later) ∧
      ∀ value, last = .done value → lastAbove = .done value := by
  obtain ⟨lastAbove, ran, ends⟩ :=
    refines.reaches (fun _ _ operation' answer' looks => looks operation' answer') reaches
  refine ⟨lastAbove, ran, ?_⟩
  rintro value rfl
  cases ends with
  | done => rfl

end Refinement

end EffectProgram
