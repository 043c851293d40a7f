import TunProxy.EffectProgramSafety

/-!
# Runs in an environment that answers every call

An environment answers each call and moves on, so that a program has one run
in it, which ends with a result unless it is cut off.  A program that has been
unfolded further goes on where the other one was cut.
-/

namespace EffectProgram

open Relation

variable {Op : Type} {Ret : Op → Type} {α β : Type}

/-! ## Runs -/

/-- How each call is answered, and what is there afterwards. -/
abbrev Environment (Ret : Op → Type) (σ : Type) : Type :=
  σ → (operation : Op) → Ret operation × σ

/-- The result of a program and what is there afterwards, unless it is cut off. -/
def run {σ : Type} (environment : Environment Ret σ) : EffectProgram Ret α → σ → Option (α × σ)
  | .done value, state => some (value, state)
  | .call operation rest, state =>
      run environment (rest (environment state operation).1) (environment state operation).2
  | .cut, _ => none

theorem run_bind {σ : Type} (environment : Environment Ret σ) (program : EffectProgram Ret α)
    (next : α → EffectProgram Ret β) (state : σ) :
    run environment (program.bind next) state =
      (run environment program state).bind fun (value, later) =>
        run environment (next value) later := by
  induction program generalizing state with
  | done value => rfl
  | call operation rest ih => exact ih _ _
  | cut => rfl

/-! ## Unfolding further -/

/-- The second program is the first with some of its ends that were cut gone on
with. -/
inductive Shortens : EffectProgram Ret α → EffectProgram Ret α → Prop
  | done (value : α) : Shortens (.done value) (.done value)
  | call {operation : Op} {rest rest' : Ret operation → EffectProgram Ret α}
      (further : ∀ answer, Shortens (rest answer) (rest' answer)) :
      Shortens (.call operation rest) (.call operation rest')
  | cut (program : EffectProgram Ret α) : Shortens .cut program

theorem Shortens.refl (program : EffectProgram Ret α) : Shortens program program := by
  induction program with
  | done value => exact .done value
  | call operation rest ih => exact .call ih
  | cut => exact .cut _

theorem Shortens.bind {program program' : EffectProgram Ret α}
    {next next' : α → EffectProgram Ret β} (first : Shortens program program')
    (second : ∀ value, Shortens (next value) (next' value)) :
    Shortens (program.bind next) (program'.bind next') := by
  induction first with
  | done value => exact second value
  | call further ih => exact .call ih
  | cut program => exact .cut _

theorem shortens_iterate {σ : Type} (body : σ → EffectProgram Ret (σ ⊕ β)) {fuel fuel' : Nat}
    (more : fuel ≤ fuel') (state : σ) :
    Shortens (iterate body fuel state) (iterate body fuel' state) := by
  induction fuel generalizing fuel' state with
  | zero => exact .cut _
  | succ fuel ih =>
      obtain ⟨fuel', rfl⟩ := Nat.exists_eq_add_of_lt more
      refine (Shortens.refl (body state)).bind fun result => ?_
      cases result with
      | inl next => exact ih (by omega) next
      | inr value => exact .done value

theorem Shortens.expand {Op' : Type} {Ret' : Op' → Type}
    {meaning meaning' : (operation : Op) → EffectProgram Ret' (Ret operation)}
    {program program' : EffectProgram Ret α} (shortens : Shortens program program')
    (meanings : ∀ operation, Shortens (meaning operation) (meaning' operation)) :
    Shortens (program.expand meaning) (program'.expand meaning') := by
  induction shortens with
  | done value => exact .done value
  | call further ih => exact (meanings _).bind ih
  | cut program => exact .cut _

/-- A run that has come to an end is not changed by unfolding further. -/
theorem Shortens.run_eq {σ : Type} {environment : Environment Ret σ}
    {program program' : EffectProgram Ret α} (shortens : Shortens program program') {state : σ}
    {ended : α × σ} (ran : run environment program state = some ended) :
    run environment program' state = some ended := by
  induction shortens generalizing state with
  | done value => exact ran
  | call further ih => exact ih _ ran
  | cut program => cases ran

/-! ## Runs that are never stuck -/

section Stuck

variable {World : Type} {around : Surroundings Ret World} {watch : Watch Op World}

/-- Where nothing changes by itself, only an answer leads on. -/
theorem Still.reaches_cases (still : Still around) {program : EffectProgram Ret α} {world : World}
    {last : EffectProgram Ret α × World} (reaches : Reaches around (program, world) last) :
    last = (program, world) ∨ ∃ operation rest answer next, program = .call operation rest ∧
      around.answers world operation answer next ∧ Reaches around (rest answer, next) last := by
  rcases ReflTransGen.cases_head reaches with rfl | ⟨middle, moves, more⟩
  · exact .inl rfl
  · right
    cases moves with
    | drift drift => exact absurd drift (still _ _)
    | answer answers => exact ⟨_, _, _, _, rfl, answers, more⟩

theorem Safe.of_bind {program : EffectProgram Ret α} {next : α → EffectProgram Ret β}
    {post : β → World → Prop} {world : World}
    (safe : Safe around watch post (program.bind next) world) :
    Safe around watch (fun value => Safe around watch post (next value)) program world := by
  induction program generalizing world with
  | done value => exact fun later drifts => ⟨(safe.of_drifts drifts).holds, safe.of_drifts drifts⟩
  | call operation rest ih =>
      intro later drifts
      obtain ⟨holds, permits, answered⟩ := safe later drifts
      exact ⟨holds, permits, fun answer next answers => ih answer (answered answer next answers)⟩
  | cut => exact safe

/-- Calls are watched, nothing else. -/
def calling (permits : World → Op → Prop) : Watch Op World where
  holds _ := True
  permits := permits
  cuts := True

/-- What holds of all calls that are reached. -/
theorem Still.safe_of_reaches (still : Still around) {permits : World → Op → Prop}
    {program : EffectProgram Ret α} {world : World}
    (permitted : ∀ operation rest last,
      Reaches around (program, world) (.call operation rest, last) → permits last operation) :
    Safe around (calling permits) (fun _ _ => True) program world := by
  induction program generalizing world with
  | done value => exact still.safe_done trivial trivial
  | call operation rest ih =>
      refine still.safe_call trivial (permitted operation rest world .refl) ?_
      intro answer next answers
      exact ih answer fun operation' rest' last reaches =>
        permitted operation' rest' last (ReflTransGen.head (Moves.answer answers) reaches)
  | cut =>
      intro later drifts
      exact ⟨trivial, trivial⟩

theorem Safe.of_shortens {permits : World → Op → Prop} {program program' : EffectProgram Ret α}
    (shortens : Shortens program program') {world : World}
    (safe : Safe around (calling permits) (fun _ _ => True) program' world) :
    Safe around (calling permits) (fun _ _ => True) program world := by
  induction shortens generalizing world with
  | done value => exact safe
  | call further ih =>
      intro later drifts
      obtain ⟨holds, permits, answered⟩ := safe later drifts
      exact ⟨holds, permits, fun answer next answers => ih answer (answered answer next answers)⟩
  | cut program => exact fun _ _ => ⟨trivial, trivial⟩

/-- A program that is nowhere cut. -/
def Uncut : EffectProgram Ret α → Prop
  | .done _ => True
  | .call _ rest => ∀ answer, Uncut (rest answer)
  | .cut => False

theorem Uncut.bind {program : EffectProgram Ret α} {next : α → EffectProgram Ret β}
    (first : program.Uncut) (second : ∀ value, (next value).Uncut) :
    (program.bind next).Uncut := by
  induction program with
  | done value => exact second value
  | call operation rest ih => exact fun answer => ih answer (first answer)
  | cut => exact first.elim

theorem Uncut.expand {Op' : Type} {Ret' : Op' → Type}
    {meaning : (operation : Op) → EffectProgram Ret' (Ret operation)}
    (meanings : ∀ operation, (meaning operation).Uncut) {program : EffectProgram Ret α}
    (uncut : program.Uncut) : (program.expand meaning).Uncut := by
  induction program with
  | done value => trivial
  | call operation rest ih => exact (meanings operation).bind fun answer => ih answer (uncut answer)
  | cut => exact uncut.elim

/-- A program that is not cut comes to a result where all its calls are answered. -/
theorem Uncut.reaches {program : EffectProgram Ret α} {post : α → World → Prop} {world : World}
    (uncut : program.Uncut) (safe : Safe around watch post program world)
    (answered : ∀ world operation, watch.permits world operation →
      ∃ answer next, around.answers world operation answer next) :
    ∃ value last, Reaches around (program, world) (.done value, last) := by
  induction program generalizing world with
  | done value => exact ⟨value, world, .refl⟩
  | call operation rest ih =>
      obtain ⟨-, permits, goesOn⟩ := safe world .refl
      obtain ⟨answer, next, answers⟩ := answered world operation permits
      obtain ⟨value, last, reaches⟩ := ih answer (uncut answer) (goesOn answer next answers)
      exact ⟨value, last, ReflTransGen.head (Moves.answer answers) reaches⟩
  | cut => exact uncut.elim

end Stuck

end EffectProgram
