import TunProxy.EffectProgram

/-!
# Invariants of effectful programs at every step

A program runs against surroundings that answer its operations and may change
the world on their own between any two of its steps.  `Safe` says of a program
and a world that whatever the surroundings do, the watched condition holds at
every step (so also where the run is interrupted for good), every operation is
called only where it is permitted, and every result satisfies the
postcondition.  The rules below prove it by composition, and
`Safe.of_reaches` turns it into statements about all reachable configurations.
-/

namespace EffectProgram

open Relation

variable {Op : Type} {Ret : Op → Type} {World : Type} {α β : Type}

/-- What a program runs against: how operations may be answered, with the
world that results, and how the world may change by itself. -/
structure Surroundings (Ret : Op → Type) (World : Type) where
  answers : World → (operation : Op) → Ret operation → World → Prop
  drift : World → World → Prop

/-- What is watched at every step of a run, and whether a run may be cut off.
Where it may not, safety includes that every run comes to a result. -/
structure Watch (Op : Type) (World : Type) where
  holds : World → Prop
  permits : World → Op → Prop
  cuts : Prop

/-- A watch that everything satisfies. -/
def unwatched : Watch Op World where
  holds _ := True
  permits _ _ := True
  cuts := True

/-- A watch on the world alone. -/
def keeping (holds : World → Prop) : Watch Op World where
  holds := holds
  permits _ _ := True
  cuts := True

/-- One step of a program together with its surroundings. -/
inductive Moves (around : Surroundings Ret World) :
    EffectProgram Ret α × World → EffectProgram Ret α × World → Prop
  | drift {program : EffectProgram Ret α} {world next : World} :
      around.drift world next → Moves around (program, world) (program, next)
  | answer {operation : Op} {rest : Ret operation → EffectProgram Ret α}
      {answer : Ret operation} {world next : World} :
      around.answers world operation answer next →
        Moves around (call operation rest, world) (rest answer, next)

def Reaches (around : Surroundings Ret World)
    (first last : EffectProgram Ret α × World) : Prop :=
  ReflTransGen (Moves around) first last

def Surroundings.Drifts (around : Surroundings Ret World) (first last : World) : Prop :=
  ReflTransGen around.drift first last

/-- Every step of every run satisfies the watch, and every result the
postcondition. -/
def Safe (around : Surroundings Ret World) (watch : Watch Op World)
    (post : α → World → Prop) : EffectProgram Ret α → World → Prop
  | .done value, world => ∀ later, around.Drifts world later →
      watch.holds later ∧ post value later
  | .call operation rest, world => ∀ later, around.Drifts world later →
      watch.holds later ∧ watch.permits later operation ∧
        ∀ answer next, around.answers later operation answer next →
          Safe around watch post (rest answer) next
  | .cut, world => ∀ later, around.Drifts world later → watch.holds later ∧ watch.cuts

/-! ## Soundness -/

section Soundness

variable {around : Surroundings Ret World} {watch : Watch Op World}
variable {post : α → World → Prop} {program : EffectProgram Ret α} {world : World}

theorem Safe.of_drifts (safe : Safe around watch post program world) {later : World}
    (drifts : around.Drifts world later) : Safe around watch post program later := by
  cases program with
  | done value => exact fun last more => safe last (drifts.trans more)
  | call operation rest => exact fun last more => safe last (drifts.trans more)
  | cut => exact fun last more => safe last (drifts.trans more)

theorem Safe.of_moves {program' : EffectProgram Ret α} {world' : World}
    (safe : Safe around watch post program world)
    (moves : Moves around (program, world) (program', world')) :
    Safe around watch post program' world' := by
  cases moves with
  | drift drift => exact safe.of_drifts (ReflTransGen.single drift)
  | answer answers => exact (safe _ ReflTransGen.refl).2.2 _ _ answers

/-- Safety is kept along every run. -/
theorem Safe.of_reaches {last : EffectProgram Ret α × World}
    (safe : Safe around watch post program world)
    (reaches : Reaches around (program, world) last) :
    Safe around watch post last.1 last.2 := by
  induction reaches with
  | refl => exact safe
  | tail _ moves ih => exact ih.of_moves moves

theorem Safe.holds (safe : Safe around watch post program world) : watch.holds world := by
  cases program with
  | done value => exact (safe _ ReflTransGen.refl).1
  | call operation rest => exact (safe _ ReflTransGen.refl).1
  | cut => exact (safe _ ReflTransGen.refl).1

theorem Safe.permits {operation : Op} {rest : Ret operation → EffectProgram Ret α}
    (safe : Safe around watch post (.call operation rest) world) :
    watch.permits world operation :=
  (safe _ ReflTransGen.refl).2.1

theorem Safe.result {value : α} (safe : Safe around watch post (.done value) world) :
    post value world :=
  (safe _ ReflTransGen.refl).2

theorem Safe.cuts (safe : Safe around watch post .cut world) : watch.cuts :=
  (safe _ ReflTransGen.refl).2

theorem safe_unwatched (around : Surroundings Ret World) (program : EffectProgram Ret α)
    (world : World) : Safe around unwatched (fun _ _ => True) program world := by
  induction program generalizing world with
  | done value => exact fun _ _ => ⟨trivial, trivial⟩
  | call operation rest ih =>
      exact fun _ _ => ⟨trivial, trivial, fun answer next _ => ih answer next⟩
  | cut => exact fun _ _ => ⟨trivial, trivial⟩

end Soundness

/-! ## Runs of a sequence -/

section Sequence

variable {around : Surroundings Ret World}

/-- The first part of a sequence runs as it does alone. -/
theorem Reaches.bind {program program' : EffectProgram Ret α} {world world' : World}
    (reaches : Reaches around (program, world) (program', world'))
    (next : α → EffectProgram Ret β) :
    Reaches around (program.bind next, world) (program'.bind next, world') := by
  refine ReflTransGen.lift
    (fun configuration : EffectProgram Ret α × World =>
      (configuration.1.bind next, configuration.2)) ?_ _ _ reaches
  intro before after moves
  cases moves with
  | drift drift => exact Moves.drift drift
  | answer answers => exact Moves.answer answers

/-- A sequence that comes to a result is a run of its first part to a value,
and a run of the second part from there. -/
theorem Reaches.of_bind {program : EffectProgram Ret α} {next : α → EffectProgram Ret β}
    {world last : World} {result : β}
    (reaches : Reaches around (program.bind next, world) (.done result, last)) :
    ∃ value middle, Reaches around (program, world) (.done value, middle) ∧
      Reaches around (next value, middle) (.done result, last) := by
  generalize start : (program.bind next, world) = first at reaches
  induction reaches using ReflTransGen.head_induction_on generalizing program world with
  | refl =>
      cases program with
      | done value => exact ⟨value, world, .refl, start ▸ .refl⟩
      | call operation rest => cases start
      | cut => cases start
  | head moves rest ih =>
      subst start
      cases program with
      | done value => exact ⟨value, world, .refl, ReflTransGen.head moves rest⟩
      | call operation following =>
          cases moves with
          | drift drift =>
              obtain ⟨value, middle, ran, after⟩ := ih rfl
              exact ⟨value, middle, ReflTransGen.head (Moves.drift drift) ran, after⟩
          | answer answers =>
              obtain ⟨value, middle, ran, after⟩ := ih rfl
              exact ⟨value, middle, ReflTransGen.head (Moves.answer answers) ran, after⟩
      | cut =>
          cases moves with
          | drift drift =>
              obtain ⟨value, middle, ran, after⟩ := ih rfl
              exact ⟨value, middle, ReflTransGen.head (Moves.drift drift) ran, after⟩

/-- A program that is done keeps its value. -/
theorem Reaches.value_eq {value result : α} {world last : World}
    (reaches : Reaches around (.done value, world) (.done result, last)) : result = value := by
  have safe : Safe around unwatched (fun found _ => found = value) (.done value) world :=
    fun _ _ => ⟨trivial, rfl⟩
  exact (safe.of_reaches reaches).result

end Sequence

/-! ## Rules -/

section Rules

variable {around : Surroundings Ret World} {watch : Watch Op World}

/-- An assertion that the surroundings cannot invalidate by themselves. -/
def Stable (around : Surroundings Ret World) (assertion : World → Prop) : Prop :=
  ∀ world next, assertion world → around.drift world next → assertion next

theorem Stable.imp {assertion : World → Prop} (stable : Stable around assertion)
    (condition : Prop) : Stable around fun world => condition → assertion world :=
  fun world next before drifts holds => stable world next (before holds) drifts

theorem Stable.of_drifts {assertion : World → Prop} (stable : Stable around assertion)
    {world later : World} (holds : assertion world) (drifts : around.Drifts world later) :
    assertion later := by
  induction drifts with
  | refl => exact holds
  | tail _ drift ih => exact stable _ _ ih drift

/-- Surroundings that change nothing by themselves. -/
def Still (around : Surroundings Ret World) : Prop :=
  ∀ world next, ¬ around.drift world next

theorem Still.stable (still : Still around) (assertion : World → Prop) :
    Stable around assertion :=
  fun world next _ drift => absurd drift (still world next)

/-- From every world satisfying `pre` the program is safe with `post`. -/
def Triple (around : Surroundings Ret World) (watch : Watch Op World)
    (pre : World → Prop) (program : EffectProgram Ret α) (post : α → World → Prop) : Prop :=
  ∀ world, pre world → Safe around watch post program world

variable {pre : World → Prop} {post : α → World → Prop}

theorem Triple.weaken {program : EffectProgram Ret α} {pre' : World → Prop}
    (triple : Triple around watch pre program post)
    (implies : ∀ world, pre' world → pre world) : Triple around watch pre' program post :=
  fun world holds => triple world (implies world holds)

theorem Triple.exists {ι : Sort*} {program : EffectProgram Ret α} {pre : ι → World → Prop}
    (triple : ∀ index, Triple around watch (pre index) program post) :
    Triple around watch (fun world => ∃ index, pre index world) program post :=
  fun world ⟨index, holds⟩ => triple index world holds

theorem Safe.imp {program : EffectProgram Ret α} {post' : α → World → Prop} {world : World}
    (safe : Safe around watch post program world)
    (implies : ∀ value world, post value world → post' value world) :
    Safe around watch post' program world := by
  induction program generalizing world with
  | done value =>
      exact fun later drifts => ⟨(safe later drifts).1, implies _ _ (safe later drifts).2⟩
  | call operation rest ih =>
      intro later drifts
      obtain ⟨holds, permits, answered⟩ := safe later drifts
      exact ⟨holds, permits, fun answer next answers => ih answer (answered answer next answers)⟩
  | cut => exact safe

theorem Triple.imp {program : EffectProgram Ret α} {post' : α → World → Prop}
    (triple : Triple around watch pre program post)
    (implies : ∀ value world, post value world → post' value world) :
    Triple around watch pre program post' :=
  fun world holds => (triple world holds).imp implies

theorem Triple.ite {condition : Prop} [Decidable condition] {first second : EffectProgram Ret α}
    (yes : Triple around watch pre first post) (no : Triple around watch pre second post) :
    Triple around watch pre (if condition then first else second) post := by
  split
  · exact yes
  · exact no

theorem Triple.done {value : α} (stable : Stable around pre)
    (watched : ∀ world, pre world → watch.holds world)
    (implies : ∀ world, pre world → post value world) :
    Triple around watch pre (.done value) post := by
  intro world holds later drifts
  have holdsLater := stable.of_drifts holds drifts
  exact ⟨watched later holdsLater, implies later holdsLater⟩

theorem Triple.call {operation : Op} {rest : Ret operation → EffectProgram Ret α}
    (stable : Stable around pre) (watched : ∀ world, pre world → watch.holds world)
    (permitted : ∀ world, pre world → watch.permits world operation)
    (answered : ∀ world answer next, pre world →
      around.answers world operation answer next → Safe around watch post (rest answer) next) :
    Triple around watch pre (.call operation rest) post := by
  intro world holds later drifts
  have holdsLater := stable.of_drifts holds drifts
  exact ⟨watched later holdsLater, permitted later holdsLater,
    fun answer next answers => answered later answer next holdsLater answers⟩

/-- A single operation whose answer establishes the postcondition. -/
theorem Triple.perform {operation : Op} {post : Ret operation → World → Prop}
    (stable : Stable around pre) (watched : ∀ world, pre world → watch.holds world)
    (permitted : ∀ world, pre world → watch.permits world operation)
    (stablePost : ∀ answer, Stable around (post answer))
    (watchedPost : ∀ answer world, post answer world → watch.holds world)
    (answered : ∀ world answer next, pre world →
      around.answers world operation answer next → post answer next) :
    Triple around watch pre (perform operation) post :=
  Triple.call stable watched permitted fun world answer next holds answers =>
    Triple.done (stablePost answer) (watchedPost answer) (fun _ => id) next
      (answered world answer next holds answers)

theorem Triple.cut (stable : Stable around pre)
    (watched : ∀ world, pre world → watch.holds world) (cuts : watch.cuts) :
    Triple around watch pre (.cut : EffectProgram Ret α) post :=
  fun _ holds later drifts => ⟨watched later (stable.of_drifts holds drifts), cuts⟩

theorem Safe.bind {program : EffectProgram Ret α} {next : α → EffectProgram Ret β}
    {middle : α → World → Prop} {post : β → World → Prop} {world : World}
    (first : Safe around watch middle program world)
    (second : ∀ value world, middle value world → Safe around watch post (next value) world) :
    Safe around watch post (program.bind next) world := by
  induction program generalizing world with
  | done value => exact second value world first.result
  | call operation rest ih =>
      intro later drifts
      obtain ⟨holds, permits, answered⟩ := first later drifts
      exact ⟨holds, permits, fun answer next answers => ih answer (answered answer next answers)⟩
  | cut => exact first

theorem Triple.bind {program : EffectProgram Ret α} {next : α → EffectProgram Ret β}
    {middle : α → World → Prop} {post : β → World → Prop}
    (first : Triple around watch pre program middle)
    (second : ∀ value, Triple around watch (middle value) (next value) post) :
    Triple around watch pre (program.bind next) post :=
  fun world holds => (first world holds).bind fun value => second value

/-- Sequencing where a failure is passed on. -/
theorem Triple.andThen {ε : Type} {program : EffectProgram Ret (Except ε α)}
    {next : α → EffectProgram Ret (Except ε β)}
    {middle : Except ε α → World → Prop} {post : Except ε β → World → Prop}
    (first : Triple around watch pre program middle)
    (second : ∀ value, Triple around watch (middle (.ok value)) (next value) post)
    (failed : ∀ failure, Triple around watch (middle (.error failure))
      (.done (.error failure)) post) :
    Triple around watch pre (program.andThen next) post := by
  refine first.bind fun result => ?_
  cases result with
  | ok value => exact second value
  | error failure => exact failed failure

/-- A loop keeps an assertion about its state as long as its body does. -/
theorem Triple.iterate {σ : Type} {body : σ → EffectProgram Ret (σ ⊕ β)}
    {invariant : σ → World → Prop} {post : β → World → Prop}
    (stable : ∀ state, Stable around (invariant state))
    (watched : ∀ state world, invariant state world → watch.holds world) (cuts : watch.cuts)
    (step : ∀ state, Triple around watch (invariant state) (body state) fun
      | .inl next => invariant next
      | .inr value => Safe around watch post (.done value))
    (fuel : Nat) (state : σ) :
    Triple around watch (invariant state) (iterate body fuel state) post := by
  induction fuel generalizing state with
  | zero => exact Triple.cut (stable state) (watched state) cuts
  | succ fuel ih =>
      refine (step state).bind fun result => ?_
      cases result with
      | inl next => exact ih next
      | inr value => exact fun _ safe => safe

/-- A loop whose body lowers a measure comes to a result when it may be
unfolded more often than the measure says. -/
theorem Triple.iterate_of_measure {σ : Type} {body : σ → EffectProgram Ret (σ ⊕ β)}
    {post : β → World → Prop} (invariant : σ → World → Prop) (measure : σ → World → Nat)
    (step : ∀ state bound, Triple around watch
      (fun world => invariant state world ∧ measure state world ≤ bound) (body state) fun
        | .inl next => fun world => invariant next world ∧ measure next world < bound
        | .inr value => Safe around watch post (.done value))
    (fuel : Nat) (state : σ) :
    Triple around watch (fun world => invariant state world ∧ measure state world < fuel)
      (EffectProgram.iterate body fuel state) post := by
  induction fuel generalizing state with
  | zero => exact fun world holds => absurd holds.2 (Nat.not_lt_zero _)
  | succ fuel ih =>
      have bounded : ∀ world, invariant state world ∧ measure state world < fuel + 1 →
          invariant state world ∧ measure state world ≤ fuel :=
        fun world holds => ⟨holds.1, Nat.le_of_lt_succ holds.2⟩
      refine ((step state fuel).weaken bounded).bind fun result => ?_
      cases result with
      | inl next => exact ih next
      | inr value => exact fun _ safe => safe

/-- Two postconditions proved under watches whose conditions combine. -/
theorem Safe.and {program : EffectProgram Ret α} {first second : Watch Op World}
    {post post' : α → World → Prop} {world : World}
    (left : Safe around first post program world)
    (right : Safe around second post' program world) :
    Safe around
      ⟨fun world => first.holds world ∧ second.holds world,
        fun world operation => first.permits world operation ∧ second.permits world operation,
        first.cuts ∧ second.cuts⟩
      (fun value world => post value world ∧ post' value world) program world := by
  induction program generalizing world with
  | done value =>
      intro later drifts
      have one := left later drifts
      have two := right later drifts
      exact ⟨⟨one.1, two.1⟩, one.2, two.2⟩
  | call operation rest ih =>
      intro later drifts
      obtain ⟨holds, permits, answered⟩ := left later drifts
      obtain ⟨holds', permits', answered'⟩ := right later drifts
      exact ⟨⟨holds, holds'⟩, ⟨permits, permits'⟩, fun answer next answers =>
        ih answer (answered answer next answers) (answered' answer next answers)⟩
  | cut =>
      intro later drifts
      have one := left later drifts
      have two := right later drifts
      exact ⟨⟨one.1, two.1⟩, one.2, two.2⟩

/-- Nothing but the result is of interest. -/
theorem Safe.unwatch {program : EffectProgram Ret α} {post : α → World → Prop} {world : World}
    (safe : Safe around watch post program world) : Safe around unwatched post program world := by
  induction program generalizing world with
  | done value => exact fun later drifts => ⟨trivial, (safe later drifts).2⟩
  | call operation rest ih =>
      intro later drifts
      obtain ⟨-, -, answered⟩ := safe later drifts
      exact ⟨trivial, trivial, fun answer next answers => ih answer (answered answer next answers)⟩
  | cut => exact fun _ _ => ⟨trivial, trivial⟩

/-- What is watched holds with every result, too. -/
theorem Safe.and_holds {program : EffectProgram Ret α} {post : α → World → Prop} {world : World}
    (safe : Safe around watch post program world) :
    Safe around watch (fun value world => post value world ∧ watch.holds world) program world := by
  induction program generalizing world with
  | done value =>
      intro later drifts
      obtain ⟨holds, result⟩ := safe later drifts
      exact ⟨holds, result, holds⟩
  | call operation rest ih =>
      intro later drifts
      obtain ⟨holds, permits, answered⟩ := safe later drifts
      exact ⟨holds, permits, fun answer next answers => ih answer (answered answer next answers)⟩
  | cut => exact safe

theorem Safe.weakenWatch {program : EffectProgram Ret α} {strong weak : Watch Op World}
    {post : α → World → Prop} {world : World}
    (safe : Safe around strong post program world)
    (holds : ∀ world, strong.holds world → weak.holds world)
    (permits : ∀ world operation, strong.holds world → strong.permits world operation →
      weak.permits world operation)
    (cuts : strong.cuts → weak.cuts) :
    Safe around weak post program world := by
  induction program generalizing world with
  | done value => exact fun later drifts => ⟨holds _ (safe later drifts).1, (safe later drifts).2⟩
  | call operation rest ih =>
      intro later drifts
      obtain ⟨held, permitted, answered⟩ := safe later drifts
      exact ⟨holds _ held, permits _ _ held permitted,
        fun answer next answers => ih answer (answered answer next answers)⟩
  | cut => exact fun later drifts => ⟨holds _ (safe later drifts).1, cuts (safe later drifts).2⟩

end Rules

/-! ## Programs confined to some operations -/

section Confined

/-- Every operation a program can call is allowed. -/
def Calls (allowed : Op → Prop) : EffectProgram Ret α → Prop
  | .done _ => True
  | .call operation rest => allowed operation ∧ ∀ answer, Calls allowed (rest answer)
  | .cut => True

/-- Every result a program can have, whatever it is answered. -/
def Yields (possible : α → Prop) : EffectProgram Ret α → Prop
  | .done value => possible value
  | .call _ rest => ∀ answer, Yields possible (rest answer)
  | .cut => True

theorem Calls.bind {allowed : Op → Prop} {program : EffectProgram Ret α}
    {next : α → EffectProgram Ret β} (first : program.Calls allowed)
    (second : ∀ value, (next value).Calls allowed) : (program.bind next).Calls allowed := by
  induction program with
  | done value => exact second value
  | call operation rest ih => exact ⟨first.1, fun answer => ih answer (first.2 answer)⟩
  | cut => trivial

theorem Calls.ite {allowed : Op → Prop} {condition : Prop} [Decidable condition]
    {first second : EffectProgram Ret α} (yes : first.Calls allowed) (no : second.Calls allowed) :
    (if condition then first else second).Calls allowed := by
  split
  · exact yes
  · exact no

theorem Calls.imp {allowed allowed' : Op → Prop} {program : EffectProgram Ret α}
    (calls : program.Calls allowed)
    (implies : ∀ operation, allowed operation → allowed' operation) :
    program.Calls allowed' := by
  induction program with
  | done value => trivial
  | call operation rest ih =>
      exact ⟨implies operation calls.1, fun answer => ih answer (calls.2 answer)⟩
  | cut => trivial

/-- Two ways in which a program is confined. -/
theorem Calls.and {first second : Op → Prop} {program : EffectProgram Ret α}
    (left : program.Calls first) (right : program.Calls second) :
    program.Calls fun operation => first operation ∧ second operation := by
  induction program with
  | done value => trivial
  | call operation rest ih =>
      exact ⟨⟨left.1, right.1⟩, fun answer => ih answer (left.2 answer) (right.2 answer)⟩
  | cut => trivial

theorem Calls.expand {Op' : Type} {Ret' : Op' → Type} {allowed : Op → Prop}
    {allowed' : Op' → Prop}
    {meaning : (operation : Op) → EffectProgram Ret' (Ret operation)}
    (implemented : ∀ operation, allowed operation → (meaning operation).Calls allowed')
    {program : EffectProgram Ret α} (calls : program.Calls allowed) :
    (program.expand meaning).Calls allowed' := by
  induction program with
  | done value => trivial
  | call operation rest ih =>
      exact (implemented operation calls.1).bind fun answer => ih answer (calls.2 answer)
  | cut => trivial

theorem Calls.andThen {ε : Type} {allowed : Op → Prop} {program : EffectProgram Ret (Except ε α)}
    {next : α → EffectProgram Ret (Except ε β)} (first : program.Calls allowed)
    (second : ∀ value, (next value).Calls allowed) : (program.andThen next).Calls allowed := by
  refine first.bind fun result => ?_
  cases result with
  | ok value => exact second value
  | error failure => trivial

theorem Calls.iterate {σ : Type} {allowed : Op → Prop} {body : σ → EffectProgram Ret (σ ⊕ β)}
    (step : ∀ state, (body state).Calls allowed) (fuel : Nat) (state : σ) :
    (EffectProgram.iterate body fuel state).Calls allowed := by
  induction fuel generalizing state with
  | zero => trivial
  | succ fuel ih =>
      refine (step state).bind fun result => ?_
      cases result with
      | inl next => exact ih next
      | inr value => trivial

/-- The predicate holds of whatever the program may come to. -/
def Throughout (holds : EffectProgram Ret α → Prop) : EffectProgram Ret α → Prop
  | .done value => holds (.done value)
  | .call operation rest =>
      holds (.call operation rest) ∧ ∀ answer, Throughout holds (rest answer)
  | .cut => holds .cut

theorem Throughout.now {holds : EffectProgram Ret α → Prop} {program : EffectProgram Ret α}
    (throughout : program.Throughout holds) : holds program := by
  cases program with
  | done value => exact throughout
  | call operation rest => exact throughout.1
  | cut => exact throughout

theorem Throughout.of_reaches {around : Surroundings Ret World}
    {holds : EffectProgram Ret α → Prop} {program : EffectProgram Ret α} {world : World}
    {last : EffectProgram Ret α × World} (throughout : program.Throughout holds)
    (reaches : Reaches around (program, world) last) : last.1.Throughout holds := by
  induction reaches with
  | refl => exact throughout
  | tail _ moves ih =>
      cases moves with
      | drift _ => exact ih
      | answer _ => exact ih.2 _

theorem calls_true (program : EffectProgram Ret α) : program.Calls fun _ => True := by
  induction program with
  | done value => trivial
  | call operation rest ih => exact ⟨trivial, ih⟩
  | cut => trivial

theorem Yields.bind {middle : α → Prop} {possible : β → Prop}
    {program : EffectProgram Ret α} {next : α → EffectProgram Ret β}
    (first : program.Yields middle)
    (second : ∀ value, middle value → (next value).Yields possible) :
    (program.bind next).Yields possible := by
  induction program with
  | done value => exact second value first
  | call operation rest ih => exact fun answer => ih answer (first answer)
  | cut => trivial

theorem Yields.imp {possible possible' : α → Prop} {program : EffectProgram Ret α}
    (yields : program.Yields possible) (implies : ∀ value, possible value → possible' value) :
    program.Yields possible' := by
  induction program with
  | done value => exact implies value yields
  | call operation rest ih => exact fun answer => ih answer (yields answer)
  | cut => trivial

theorem yields_true (program : EffectProgram Ret α) : program.Yields fun _ => True := by
  induction program with
  | done value => trivial
  | call operation rest ih => exact ih
  | cut => trivial

/-- A success satisfies a condition. -/
def IfOk {ε : Type} (possible : α → Prop) (result : Except ε α) : Prop :=
  ∀ value, result = .ok value → possible value

theorem ifOk_error {ε : Type} {possible : α → Prop} {failure : ε} :
    IfOk possible (.error failure : Except ε α) :=
  fun _ impossible => by cases impossible

theorem Yields.andThen {ε : Type} {middle : α → Prop} {possible : β → Prop}
    {program : EffectProgram Ret (Except ε α)} {next : α → EffectProgram Ret (Except ε β)}
    (first : program.Yields (IfOk middle))
    (second : ∀ value, middle value → (next value).Yields (IfOk possible)) :
    (program.andThen next).Yields (IfOk possible) := by
  refine first.bind fun result known => ?_
  cases result with
  | ok value => exact second value (known value rfl)
  | error failure => exact ifOk_error

/-- Nothing need be known of what comes first. -/
theorem yields_andThen {ε : Type} {possible : β → Prop}
    (program : EffectProgram Ret (Except ε α)) {next : α → EffectProgram Ret (Except ε β)}
    (second : ∀ value, (next value).Yields (IfOk possible)) :
    (program.andThen next).Yields (IfOk possible) := by
  refine (yields_true program).bind fun result _ => ?_
  cases result with
  | ok value => exact second value
  | error failure => exact ifOk_error

/-- Every result a program can have where only possible answers are given. -/
def Gives (possible : (operation : Op) → Ret operation → Prop) (outcome : α → Prop) :
    EffectProgram Ret α → Prop
  | .done value => outcome value
  | .call operation rest =>
      ∀ answer, possible operation answer → Gives possible outcome (rest answer)
  | .cut => True

section Gives

variable {possible : (operation : Op) → Ret operation → Prop}

theorem Yields.gives {outcome : α → Prop} {program : EffectProgram Ret α}
    (yields : program.Yields outcome) : program.Gives possible outcome := by
  induction program with
  | done value => exact yields
  | call operation rest ih => exact fun answer _ => ih answer (yields answer)
  | cut => trivial

theorem Gives.bind {middle : α → Prop} {outcome : β → Prop} {program : EffectProgram Ret α}
    {next : α → EffectProgram Ret β} (first : program.Gives possible middle)
    (second : ∀ value, middle value → (next value).Gives possible outcome) :
    (program.bind next).Gives possible outcome := by
  induction program with
  | done value => exact second value first
  | call operation rest ih => exact fun answer may => ih answer (first answer may)
  | cut => trivial

theorem Gives.imp {outcome outcome' : α → Prop} {program : EffectProgram Ret α}
    (gives : program.Gives possible outcome) (implies : ∀ value, outcome value → outcome' value) :
    program.Gives possible outcome' := by
  induction program with
  | done value => exact implies value gives
  | call operation rest ih => exact fun answer may => ih answer (gives answer may)
  | cut => trivial

theorem Gives.andThen {ε : Type} {middle : α → Prop} {outcome : β → Prop}
    {program : EffectProgram Ret (Except ε α)} {next : α → EffectProgram Ret (Except ε β)}
    (first : program.Gives possible (IfOk middle))
    (second : ∀ value, middle value → (next value).Gives possible (IfOk outcome)) :
    (program.andThen next).Gives possible (IfOk outcome) := by
  refine first.bind fun result known => ?_
  cases result with
  | ok value => exact second value (known value rfl)
  | error failure => exact ifOk_error

theorem Gives.expand {Op' : Type} {Ret' : Op' → Type} {outcome : α → Prop}
    {possible' : (operation : Op') → Ret' operation → Prop}
    {meaning : (operation : Op) → EffectProgram Ret' (Ret operation)}
    (implemented : ∀ operation, (meaning operation).Gives possible' (possible operation))
    {program : EffectProgram Ret α} (gives : program.Gives possible outcome) :
    (program.expand meaning).Gives possible' outcome := by
  induction program with
  | done value => exact gives
  | call operation rest ih =>
      exact (implemented operation).bind fun answer may => ih answer (gives answer may)
  | cut => trivial

/-- What holds of the results where every possible answer may be given. -/
theorem Safe.gives {around : Surroundings Ret World} {watch : Watch Op World}
    {outcome : α → Prop} {program : EffectProgram Ret α} {world : World}
    (answered : ∀ world operation answer, possible operation answer →
      ∃ next, around.answers world operation answer next)
    (safe : Safe around watch (fun value _ => outcome value) program world) :
    program.Gives possible outcome := by
  induction program generalizing world with
  | done value => exact safe.result
  | call operation rest ih =>
      intro answer may
      obtain ⟨next, answers⟩ := answered world operation answer may
      exact ih answer ((safe world .refl).2.2 answer next answers)
  | cut => trivial

end Gives

theorem Safe.and_yields {around : Surroundings Ret World} {watch : Watch Op World}
    {post : α → World → Prop} {possible : α → Prop} {program : EffectProgram Ret α}
    {world : World} (safe : Safe around watch post program world)
    (yields : program.Yields possible) :
    Safe around watch (fun value world => post value world ∧ possible value) program world := by
  induction program generalizing world with
  | done value =>
      exact fun later drifts => ⟨(safe later drifts).1, (safe later drifts).2, yields⟩
  | call operation rest ih =>
      intro later drifts
      obtain ⟨holds, permits, answered⟩ := safe later drifts
      exact ⟨holds, permits, fun answer next answers =>
        ih answer (answered answer next answers) (yields answer)⟩
  | cut => exact safe

/-- An assertion that every allowed operation keeps holds throughout a program
confined to them. -/
theorem Triple.of_calls {around : Surroundings Ret World} {watch : Watch Op World}
    {allowed : Op → Prop} {assertion : World → Prop} {program : EffectProgram Ret α}
    (calls : program.Calls allowed) (stable : Stable around assertion)
    (watched : ∀ world, assertion world → watch.holds world) (cuts : watch.cuts)
    (permitted : ∀ world operation, assertion world → allowed operation →
      watch.permits world operation)
    (kept : ∀ world operation answer next, assertion world → allowed operation →
      around.answers world operation answer next → assertion next) :
    Triple around watch assertion program fun _ => assertion := by
  induction program with
  | done value => exact Triple.done stable watched fun _ => id
  | call operation rest ih =>
      exact Triple.call stable watched
        (fun world holds => permitted world operation holds calls.1)
        fun world answer next holds answers => ih answer (calls.2 answer) next
          (kept world operation answer next holds calls.1 answers)
  | cut => exact Triple.cut stable watched cuts

/-- What possible answers give, where what is asserted allows no others. -/
theorem Triple.of_gives {around : Surroundings Ret World} {watch : Watch Op World}
    {allowed : Op → Prop} {possible : (operation : Op) → Ret operation → Prop}
    {outcome : α → Prop} {assertion : World → Prop} {program : EffectProgram Ret α}
    (gives : program.Gives possible outcome) (calls : program.Calls allowed)
    (stable : Stable around assertion) (watched : ∀ world, assertion world → watch.holds world)
    (cuts : watch.cuts)
    (permitted : ∀ world operation, assertion world → allowed operation →
      watch.permits world operation)
    (kept : ∀ world operation answer next, assertion world → allowed operation →
      around.answers world operation answer next → possible operation answer ∧ assertion next) :
    Triple around watch assertion program fun value world => outcome value ∧ assertion world := by
  induction program with
  | done value => exact Triple.done stable watched fun _ holds => ⟨gives, holds⟩
  | call operation rest ih =>
      apply Triple.call stable watched
      · exact fun world holds => permitted world operation holds calls.1
      · intro world answer next holds answers
        obtain ⟨may, later⟩ := kept world operation answer next holds calls.1 answers
        exact ih answer (gives answer may) (calls.2 answer) next later
  | cut => exact Triple.cut stable watched cuts

end Confined

/-! ## Following one run -/

section Following

/-- Surroundings that can be computed with: at most one answer to every
operation, given by a machine with states of its own. -/
abbrev Responder (Ret : Op → Type) (σ : Type) : Type :=
  σ → (operation : Op) → Option (Ret operation × σ)

/-- The configuration in which a run ends that is answered by a responder. -/
def follow {σ : Type} (respond : Responder Ret σ) :
    EffectProgram Ret α → σ → EffectProgram Ret α × σ
  | .call operation rest, state =>
      match respond state operation with
      | some (answer, next) => follow respond (rest answer) next
      | none => (.call operation rest, state)
  | program, state => (program, state)

def result? : EffectProgram Ret α → Option α
  | .done value => some value
  | _ => none

theorem eq_done_of_result? {program : EffectProgram Ret α} {value : α}
    (result : program.result? = some value) : program = .done value := by
  cases program with
  | done found => exact congrArg _ (Option.some.inj result)
  | call operation rest => cases result
  | cut => cases result

/-- A responder's answers are possible: what it does can happen in the
surroundings, after they have moved by themselves. -/
def Responder.Within {σ : Type} (respond : Responder Ret σ) (around : Surroundings Ret World)
    (view : σ → World) : Prop :=
  ∀ state operation answer next, respond state operation = some (answer, next) →
    ∃ later, around.Drifts (view state) later ∧
      around.answers later operation answer (view next)

theorem reaches_of_drifts {around : Surroundings Ret World} {world later : World}
    (drifts : around.Drifts world later) (program : EffectProgram Ret α) :
    Reaches around (program, world) (program, later) := by
  induction drifts with
  | refl => exact ReflTransGen.refl
  | tail _ drift ih => exact ih.tail (Moves.drift drift)

/-- What a responder within the surroundings leads to is reachable. -/
theorem reaches_follow {σ : Type} {around : Surroundings Ret World} {respond : Responder Ret σ}
    {view : σ → World} (within : respond.Within around view)
    (program : EffectProgram Ret α) (state : σ) :
    Reaches around (program, view state)
      ((follow respond program state).1, view (follow respond program state).2) := by
  induction program generalizing state with
  | done value => exact ReflTransGen.refl
  | call operation rest ih =>
      simp only [follow]
      cases responded : respond state operation with
      | none => exact ReflTransGen.refl
      | some reply =>
          obtain ⟨answer, next⟩ := reply
          obtain ⟨later, drifts, answers⟩ := within state operation answer next responded
          have called :
              Reaches around (.call operation rest, view state) (rest answer, view next) :=
            (reaches_of_drifts drifts _).tail (Moves.answer answers)
          exact called.trans (ih answer next)
  | cut => exact ReflTransGen.refl

/-- A sequence goes on where its first part has come to a value. -/
theorem follow_bind {σ : Type} {respond : Responder Ret σ} {program : EffectProgram Ret α}
    {next : α → EffectProgram Ret β} {state last : σ} {value : α}
    (ends : follow respond program state = (.done value, last)) :
    follow respond (program.bind next) state = follow respond (next value) last := by
  induction program generalizing state with
  | done found =>
      obtain ⟨same, rfl⟩ := Prod.mk.inj ends
      obtain rfl := EffectProgram.done.inj same
      rfl
  | call operation rest ih =>
      simp only [call_bind, follow] at ends ⊢
      cases responded : respond state operation with
      | none =>
          rw [responded] at ends
          cases ends
      | some reply =>
          rw [responded] at ends
          exact ih reply.1 ends
  | cut => cases ends

/-- A run that is answered to its end. -/
theorem reaches_of_follow {σ : Type} {around : Surroundings Ret World} {respond : Responder Ret σ}
    {view : σ → World} (within : respond.Within around view) {program : EffectProgram Ret α}
    {state : σ} {value : α} (result : (follow respond program state).1.result? = some value) :
    Reaches around (program, view state) (.done value, view (follow respond program state).2) :=
  eq_done_of_result? result ▸ reaches_follow within program state

/-- Whether a program has come to an end, and with a success. -/
def outcome? {ε : Type} (program : EffectProgram Ret (Except ε α)) : Option Bool :=
  program.result?.map Except.isOk

end Following

/-! ## Operations implemented by programs -/

section Implementation

variable {Op' : Type} {Ret' : Op' → Type} {around : Surroundings Ret World}
variable {around' : Surroundings Ret' World} {watch : Watch Op World} {watch' : Watch Op' World}

theorem Still.eq_of_drifts (still : Still around) {world later : World}
    (drifts : around.Drifts world later) : later = world := by
  induction drifts with
  | refl => rfl
  | tail _ drift ih => exact absurd drift (still _ _)

/-- A value where nothing changes by itself. -/
theorem Still.safe_done (still : Still around) {value : α} {post : α → World → Prop}
    {world : World} (holds : watch.holds world) (result : post value world) :
    Safe around watch post (.done value) world := by
  intro later drifts
  rw [still.eq_of_drifts drifts]
  exact ⟨holds, result⟩

/-- A call where nothing changes by itself. -/
theorem Still.safe_call (still : Still around) {operation : Op}
    {rest : Ret operation → EffectProgram Ret α} {post : α → World → Prop} {world : World}
    (holds : watch.holds world) (permits : watch.permits world operation)
    (answered : ∀ answer next, around.answers world operation answer next →
      Safe around watch post (rest answer) next) :
    Safe around watch post (.call operation rest) world := by
  intro later drifts
  rw [still.eq_of_drifts drifts]
  exact ⟨holds, permits, answered⟩

/-- What is safe is safe in a world with more in it, where operations are answered
in no other ways. -/
theorem Safe.of_view {World' : Type} {around' : Surroundings Ret World'} {view : World' → World}
    (still : Still around')
    (fewer : ∀ world operation answer next, around'.answers world operation answer next →
      around.answers (view world) operation answer (view next))
    {program : EffectProgram Ret α} {post : α → World → Prop} {world : World'}
    (safe : Safe around watch post program (view world)) :
    Safe around'
      ⟨fun world => watch.holds (view world),
        fun world operation => watch.permits (view world) operation, watch.cuts⟩
      (fun value world => post value (view world)) program world := by
  induction program generalizing world with
  | done value =>
      intro later drifts
      rw [still.eq_of_drifts drifts]
      exact ⟨safe.holds, safe.result⟩
  | call operation rest ih =>
      intro later drifts
      rw [still.eq_of_drifts drifts]
      obtain ⟨holds, permits, answered⟩ := safe (view world) .refl
      exact ⟨holds, permits, fun answer next answers =>
        ih answer (answered answer (view next) (fewer world operation answer next answers))⟩
  | cut =>
      intro later drifts
      rw [still.eq_of_drifts drifts]
      exact ⟨safe.holds, safe.cuts⟩

/-- What is safe stays safe where operations are answered in fewer ways. -/
theorem Safe.of_answers {around around' : Surroundings Ret World} (still : Still around')
    (fewer : ∀ world operation answer next,
      around'.answers world operation answer next → around.answers world operation answer next)
    {program : EffectProgram Ret α} {post : α → World → Prop} {world : World}
    (safe : Safe around watch post program world) : Safe around' watch post program world :=
  @Safe.of_view _ _ _ _ _ _ _ _ id still fewer _ _ _ safe

/-- A safe program stays safe when each operation is replaced by a program that
is safe itself and whose answer the operation could have given at some time. -/
theorem Safe.expand_of_drifts
    (drifts : ∀ world next, around'.drift world next → around.drift world next)
    {meaning : (operation : Op) → EffectProgram Ret' (Ret operation)}
    (holds : ∀ world, watch.holds world → watch'.holds world) (cuts : watch.cuts → watch'.cuts)
    (implemented : ∀ operation world, watch.holds world → watch.permits world operation →
      Safe around' watch' (fun answer last => ∃ before after, around.Drifts world before ∧
        around.answers before operation answer after ∧ around.Drifts after last)
        (meaning operation) world)
    {program : EffectProgram Ret α} {post : α → World → Prop} {world : World}
    (safe : Safe around watch post program world) :
    Safe around' watch' post (program.expand meaning) world := by
  have above {first last : World} (moved : around'.Drifts first last) : around.Drifts first last :=
    ReflTransGen.mono drifts _ _ moved
  induction program generalizing world with
  | done value =>
      intro later moved
      exact ⟨holds later (safe later (above moved)).1, (safe later (above moved)).2⟩
  | call operation rest ih =>
      obtain ⟨held, permits, -⟩ := safe world .refl
      refine (implemented operation world held permits).bind ?_
      rintro answer last ⟨before, after, moved, answers, movedOn⟩
      exact ih answer (((safe before moved).2.2 answer after answers).of_drifts movedOn)
  | cut =>
      intro later moved
      exact ⟨holds later (safe later (above moved)).1, cuts safe.cuts⟩

/-- Where nothing changes by itself, the program answers as the operation may be
answered. -/
theorem Safe.expand (still : Still around')
    {meaning : (operation : Op) → EffectProgram Ret' (Ret operation)}
    (holds : ∀ world, watch.holds world → watch'.holds world) (cuts : watch.cuts → watch'.cuts)
    (implemented : ∀ operation world, watch.holds world → watch.permits world operation →
      Safe around' watch' (fun answer next => around.answers world operation answer next)
        (meaning operation) world)
    {program : EffectProgram Ret α} {post : α → World → Prop} {world : World}
    (safe : Safe around watch post program world) :
    Safe around' watch' post (program.expand meaning) world := by
  refine safe.expand_of_drifts (fun _ _ drift => absurd drift (still _ _)) holds cuts ?_
  intro operation world held permits
  exact (implemented operation world held permits).imp fun answer next answers =>
    ⟨world, next, .refl, answers, .refl⟩

end Implementation

/-! ## Recording a run -/

section Recording

/-- The history of a run: the operations called and the answers given. -/
abbrev History (Ret : Op → Type) : Type :=
  List (Sigma Ret)

/-- Surroundings that may give any possible answer and keep the history. -/
def recording (possible : (operation : Op) → Ret operation → Prop) :
    Surroundings Ret (History Ret) where
  answers history operation answer next :=
    possible operation answer ∧ next = history ++ [⟨operation, answer⟩]
  drift _ _ := False

theorem still_recording (possible : (operation : Op) → Ret operation → Prop) :
    Still (recording possible) :=
  fun _ _ => not_false

/-- The results of recorded runs are those that possible answers give. -/
theorem Gives.of_reaches {possible : (operation : Op) → Ret operation → Prop}
    {outcome : α → Prop} {program : EffectProgram Ret α} {value : α}
    {history last : History Ret} (gives : program.Gives possible outcome)
    (reaches : Reaches (recording possible) (program, history) (.done value, last)) :
    outcome value := by
  have safe (program : EffectProgram Ret α) (gives : program.Gives possible outcome)
      (history : History Ret) :
      Safe (recording possible) unwatched (fun value _ => outcome value) program history := by
    induction program generalizing history with
    | done value => exact (still_recording possible).safe_done trivial gives
    | call operation rest ih =>
        apply (still_recording possible).safe_call trivial trivial
        rintro answer next ⟨may, -⟩
        exact ih answer (gives answer may) next
    | cut => exact fun _ _ => ⟨trivial, trivial⟩
  exact ((safe program gives history).of_reaches reaches).result

/-- The surroundings with a log that is kept of their answers and of the worlds in
which they give them. -/
def Surroundings.witnessing {Log : Type} (around : Surroundings Ret World)
    (after : Log → World → (operation : Op) → Ret operation → Log) :
    Surroundings Ret (World × Log) where
  answers world operation answer next :=
    around.answers world.1 operation answer next.1 ∧ next.2 = after world.2 world.1 operation answer
  drift world next := around.drift world.1 next.1 ∧ next.2 = world.2

/-- The surroundings with a log that is kept of their answers. -/
def Surroundings.logging {Log : Type} (around : Surroundings Ret World)
    (after : Log → (operation : Op) → Ret operation → Log) : Surroundings Ret (World × Log) :=
  around.witnessing fun log _ => after log

section Witnessing

variable {Log : Type} {around : Surroundings Ret World}
variable {after : Log → World → (operation : Op) → Ret operation → Log}

/-- Without the log, a run is one of the surroundings. -/
theorem Reaches.of_witnessing {program rest : EffectProgram Ret α} {world last : World × Log}
    (reaches : Reaches (around.witnessing after) (program, world) (rest, last)) :
    Reaches around (program, world.1) (rest, last.1) := by
  refine ReflTransGen.lift
    (fun configuration : EffectProgram Ret α × (World × Log) =>
      (configuration.1, configuration.2.1)) ?_ _ _ reaches
  intro before later moves
  cases moves with
  | drift drift => exact Moves.drift drift.1
  | answer answers => exact Moves.answer answers.1

/-- A log can be kept of every run. -/
theorem Reaches.exists_witnessing {program rest : EffectProgram Ret α} {world last : World}
    (reaches : Reaches around (program, world) (rest, last)) (log : Log) :
    ∃ later, Reaches (around.witnessing after) (program, (world, log)) (rest, (last, later)) := by
  generalize ended : (rest, last) = final at reaches
  induction reaches generalizing rest last with
  | refl =>
      cases ended
      exact ⟨log, .refl⟩
  | tail _ moves ih =>
      cases moves with
      | drift drift =>
          cases ended
          obtain ⟨later, ran⟩ := ih rfl
          exact ⟨later, ran.tail (.drift ⟨drift, rfl⟩)⟩
      | answer answers =>
          cases ended
          obtain ⟨later, ran⟩ := ih rfl
          exact ⟨_, ran.tail (.answer ⟨answers, rfl⟩)⟩

/-- What every answer leaves of the log is left of it at the end. -/
theorem Reaches.log_of_preserved {holds : Log → Prop}
    (preserved : ∀ log world operation answer, holds log → holds (after log world operation answer))
    {program rest : EffectProgram Ret α} {world last : World × Log}
    (reaches : Reaches (around.witnessing after) (program, world) (rest, last))
    (start : holds world.2) : holds last.2 := by
  generalize ended : (rest, last) = final at reaches
  induction reaches generalizing rest last with
  | refl =>
      cases ended
      exact start
  | tail _ moves ih =>
      cases moves with
      | drift drift =>
          cases ended
          rw [drift.2]
          exact ih rfl
      | answer answers =>
          cases ended
          rw [answers.2]
          exact preserved _ _ _ _ (ih rfl)

/-- The moments of a run: each operation with its answer, and the world in which it
was answered. -/
abbrev Moments (Ret : Op → Type) (World : Type) : Type :=
  List (World × Sigma Ret)

/-- What one more moment shows. -/
theorem exists_mem_append_moment {shown : World × Sigma Ret → Prop} {moments : Moments Ret World}
    {last : World × Sigma Ret} : (∃ moment ∈ moments ++ [last], shown moment) ↔
      (∃ moment ∈ moments, shown moment) ∨ shown last := by
  simp only [List.mem_append, List.mem_singleton, or_and_right, exists_or, exists_eq_left]

/-- The surroundings with the moments of a run. -/
def Surroundings.traced (around : Surroundings Ret World) :
    Surroundings Ret (World × Moments Ret World) :=
  around.witnessing fun moments world operation answer => moments ++ [(world, ⟨operation, answer⟩)]

theorem stable_traced (known : Moments Ret World → Prop) :
    Stable around.traced fun state => known state.2 := by
  intro state next holds drifts
  rw [drifts.2]
  exact holds

/-- What one operation adds to what is known of the moments. -/
theorem Triple.trace {operation : Op} {pre : Moments Ret World → Prop}
    {post : Ret operation → Moments Ret World → Prop}
    (answered : ∀ moments world answer next, pre moments →
      around.answers world operation answer next →
        post answer (moments ++ [(world, ⟨operation, answer⟩)])) :
    Triple around.traced unwatched (fun state => pre state.2) (.call operation .done)
      fun answer state => post answer state.2 := by
  apply Triple.perform (stable_traced pre) (fun _ _ => trivial) (fun _ _ => trivial)
    (fun answer => stable_traced (post answer)) fun _ _ _ => trivial
  rintro ⟨world, moments⟩ answer ⟨next, later⟩ holds ⟨answers, rfl⟩
  exact answered moments world answer next holds answers

/-- A moment of a run is one of every longer run. -/
theorem Reaches.mem_traced {program rest : EffectProgram Ret α}
    {state last : World × Moments Ret World} {moment : World × Sigma Ret}
    (reaches : Reaches around.traced (program, state) (rest, last)) (member : moment ∈ state.2) :
    moment ∈ last.2 := by
  have kept (moments : Moments Ret World) (world : World) (operation : Op)
      (answer : Ret operation) (before : moment ∈ moments) :
      moment ∈ moments ++ [(world, ⟨operation, answer⟩)] :=
    List.mem_append_left _ before
  exact reaches.log_of_preserved kept member

end Witnessing

/-! ## Loops that try again -/

section Retries

variable {costs : (operation : Op) → Ret operation → Bool} {fuel budget : Nat}

/-- Some answers cost one unit of a budget.  As long as it can pay for them the program
is not cut, whatever it is answered, and `post` holds of its result and what is left. -/
def Lasts (costs : (operation : Op) → Ret operation → Bool) (post : α → Nat → Prop) :
    EffectProgram Ret α → Nat → Prop
  | .done value, budget => post value budget
  | .call operation rest, budget => ∀ answer left,
      left + (costs operation answer).toNat = budget → Lasts costs post (rest answer) left
  | .cut, _ => False

theorem Lasts.bind {program : EffectProgram Ret α} {next : α → EffectProgram Ret β}
    {middle : α → Nat → Prop} {post : β → Nat → Prop} (first : Lasts costs middle program budget)
    (second : ∀ value left, middle value left → Lasts costs post (next value) left) :
    Lasts costs post (program.bind next) budget := by
  induction program generalizing budget with
  | done value => exact second value budget first
  | call operation rest ih => exact fun answer left pays => ih answer (first answer left pays)
  | cut => exact first

/-- Every budget below the fuel is enough. -/
def Patient (costs : (operation : Op) → Ret operation → Bool) (fuel : Nat)
    (program : EffectProgram Ret α) : Prop :=
  ∀ budget < fuel, Lasts costs (fun _ left => left < fuel) program budget

theorem patient_done (value : α) : Patient costs fuel (.done value) :=
  fun _ below => below

theorem patient_call {operation : Op} {rest : Ret operation → EffectProgram Ret α}
    (answered : ∀ answer, Patient costs fuel (rest answer)) :
    Patient costs fuel (.call operation rest) := by
  intro budget below answer left pays
  exact answered answer left (by omega)

theorem Patient.bind {program : EffectProgram Ret α} {next : α → EffectProgram Ret β}
    (first : Patient costs fuel program) (second : ∀ value, Patient costs fuel (next value)) :
    Patient costs fuel (program.bind next) :=
  fun budget below => (first budget below).bind second

theorem Patient.ite {condition : Prop} [Decidable condition] {first second : EffectProgram Ret α}
    (yes : Patient costs fuel first) (no : Patient costs fuel second) :
    Patient costs fuel (if condition then first else second) := by
  split
  · exact yes
  · exact no

/-- A loop that goes on only after an answer that costs can be unfolded often enough. -/
theorem patient_iterate {σ : Type} {body : σ → EffectProgram Ret (σ ⊕ β)}
    (turn : ∀ state budget, Lasts costs
      (fun
        | .inl _, left => left < budget
        | .inr _, left => left ≤ budget) (body state) budget) (fuel : Nat) (state : σ) :
    Patient costs fuel (iterate body fuel state) := by
  have lasts (turns : Nat) (few : turns ≤ fuel) (state : σ) (budget : Nat)
      (below : budget < turns) :
      Lasts costs (fun _ left => left < fuel) (iterate body turns state) budget := by
    induction turns generalizing state budget with
    | zero => exact absurd below (Nat.not_lt_zero budget)
    | succ turns ih =>
        refine (turn state budget).bind ?_
        rintro (next | value) left pays
        · exact ih (Nat.le_of_succ_le few) next left (by omega)
        · exact Nat.lt_of_le_of_lt pays (Nat.lt_of_lt_of_le below few)
  exact lasts fuel (Nat.le_refl fuel) state

/-- What has been spent in the moments of a run. -/
def spent (costs : (operation : Op) → Ret operation → Bool) (moments : Moments Ret World) : Nat :=
  moments.countP fun moment => costs moment.2.1 moment.2.2

variable {around : Surroundings Ret World}

theorem spent_append {moments : Moments Ret World} {world : World} {operation : Op}
    {answer : Ret operation} : spent costs (moments ++ [(world, ⟨operation, answer⟩)]) =
      spent costs moments + (costs operation answer).toNat := by
  unfold spent
  rw [List.countP_append, List.countP_singleton]
  cases costs operation answer <;> rfl

theorem Reaches.spent_le {program rest : EffectProgram Ret α}
    {state last : World × Moments Ret World}
    (reaches : Reaches around.traced (program, state) (rest, last)) :
    spent costs state.2 ≤ spent costs last.2 := by
  have kept (moments : Moments Ret World) (world : World) (operation : Op)
      (answer : Ret operation) (before : spent costs state.2 ≤ spent costs moments) :
      spent costs state.2 ≤ spent costs (moments ++ [(world, ⟨operation, answer⟩)]) := by
    rw [spent_append]
    exact Nat.le_add_right_of_le before
  exact reaches.log_of_preserved kept (Nat.le_refl _)

/-- A run that is cut has spent more than the budget. -/
theorem Lasts.lt_spent {program : EffectProgram Ret α} {post : α → Nat → Prop}
    {state last : World × Moments Ret World} (lasts : Lasts costs post program budget)
    (reaches : Reaches around.traced (program, state) (.cut, last)) :
    spent costs state.2 + budget < spent costs last.2 := by
  generalize start : (program, state) = first at reaches
  induction reaches using ReflTransGen.head_induction_on generalizing program state budget with
  | refl =>
      cases start
      exact lasts.elim
  | head moves rest ih =>
      subst start
      cases moves with
      | drift drift =>
          have more := ih lasts rfl
          rwa [drift.2] at more
      | @answer operation _ answer _ next answers =>
          have step : spent costs next.2 =
              spent costs state.2 + (costs operation answer).toNat := by
            rw [answers.2]
            exact spent_append
          have grows : spent costs next.2 ≤ spent costs last.2 := Reaches.spent_le rest
          by_cases pays : (costs operation answer).toNat ≤ budget
          · have more := ih (lasts answer _ (Nat.sub_add_cancel pays)) rfl
            omega
          · omega

/-- A patient program is cut only after it has tried as often as it may. -/
theorem Patient.fuel_le_spent {program : EffectProgram Ret α} {world : World}
    {last : World × Moments Ret World} (patient : Patient costs fuel program)
    (reaches : Reaches around.traced (program, (world, [])) (.cut, last)) :
    fuel ≤ spent costs last.2 := by
  by_contra below
  have more := (patient _ (Nat.lt_of_not_le below)).lt_spent reaches
  have none : spent costs ([] : Moments Ret World) = 0 := rfl
  omega

end Retries

section Logging

variable {Log : Type} {around : Surroundings Ret World}
variable {after : Log → (operation : Op) → Ret operation → Log}

theorem Reaches.of_logging {program rest : EffectProgram Ret α} {world last : World × Log}
    (reaches : Reaches (around.logging after) (program, world) (rest, last)) :
    Reaches around (program, world.1) (rest, last.1) :=
  Reaches.of_witnessing reaches

/-- The log alone is kept by surroundings that may give any answer. -/
theorem Reaches.log {logged : Surroundings Ret Log}
    (keeps : ∀ log operation answer,
      logged.answers log operation answer (after log operation answer))
    {program rest : EffectProgram Ret α} {world last : World × Log}
    (reaches : Reaches (around.logging after) (program, world) (rest, last)) :
    Reaches logged (program, world.2) (rest, last.2) := by
  refine ReflTransGen.lift'
    (fun configuration : EffectProgram Ret α × (World × Log) =>
      (configuration.1, configuration.2.2)) ?_ _ _ reaches
  intro before later moves
  cases moves with
  | @drift program world next drift =>
      have same : next.2 = world.2 := drift.2
      change ReflTransGen (Moves logged) (program, world.2) (program, next.2)
      rw [same]
  | @answer operation rest answer world next answers =>
      have same : next.2 = after world.2 operation answer := answers.2
      change ReflTransGen (Moves logged) (call operation rest, world.2) (rest answer, next.2)
      rw [same]
      exact .single (Moves.answer (keeps _ _ _))

/-- A responder that keeps a log beside its state. -/
def Responder.logging {σ : Type} (respond : Responder Ret σ)
    (after : Log → (operation : Op) → Ret operation → Log) : Responder Ret (σ × Log) :=
  fun state operation => (respond state.1 operation).map fun reply =>
    (reply.1, reply.2, after state.2 operation reply.1)

theorem Responder.Within.logging {σ : Type} {respond : Responder Ret σ} {view : σ → World}
    (within : respond.Within around view) :
    (respond.logging after).Within (around.logging after) fun state => (view state.1, state.2) := by
  intro state operation answer next responded
  obtain ⟨reply, replied, same⟩ := Option.map_eq_some_iff.mp responded
  obtain ⟨rfl, rfl⟩ := Prod.mk.inj same
  obtain ⟨later, drifts, answers⟩ := within state.1 operation reply.1 reply.2 replied
  refine ⟨(later, state.2), ?_, answers, rfl⟩
  exact ReflTransGen.lift (fun world => (world, state.2)) (fun _ _ drift => ⟨drift, rfl⟩) _ _ drifts

end Logging

end Recording

end EffectProgram
