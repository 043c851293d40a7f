import Mathlib.Logic.Function.Basic
import TunProxy.EffectProgramSafety

/-!
# Programs that run concurrently

A pool of programs shares a world.  Any thread that is not done may make the
next step, so that the runs of a pool are all interleavings of its threads'
operations; an operation may create a further thread.  Every thread is
verified alone, against surroundings that change the world between its steps
in the ways it relies on, and a discipline says that whatever one thread is
permitted to do is something that all others rely on.
-/

namespace EffectProgram

open Relation

variable {Op : Type} {Ret : Op → Type} {Thread World : Type}

/-- What threads share: how an operation of a thread may be answered, with the
world that results, and which thread it creates. -/
structure SharedSystem (Ret : Op → Type) (Thread World : Type) where
  answers : Thread → World → (operation : Op) → Ret operation → World → Prop
  creates : (operation : Op) → Ret operation → Option (Thread × EffectProgram Ret Unit)

/-- The programs that the threads still have to run; a thread that does not
exist has nothing to run. -/
structure Pool (Ret : Op → Type) (Thread World : Type) where
  programs : Thread → EffectProgram Ret Unit
  world : World

namespace Pool

variable [DecidableEq Thread]

/-- The programs after a thread has gone on and another was perhaps created. -/
def resume (programs : Thread → EffectProgram Ret Unit) (thread : Thread)
    (rest : EffectProgram Ret Unit) (created : Option (Thread × EffectProgram Ret Unit)) :
    Thread → EffectProgram Ret Unit :=
  match created with
  | none => Function.update programs thread rest
  | some (other, program) => Function.update (Function.update programs thread rest) other program

/-- One step of a pool, made by the given thread. -/
inductive Moves (system : SharedSystem Ret Thread World) (thread : Thread) :
    Pool Ret Thread World → Pool Ret Thread World → Prop
  | answer {pool : Pool Ret Thread World} {operation : Op}
      {rest : Ret operation → EffectProgram Ret Unit} {answer : Ret operation} {next : World}
      (running : pool.programs thread = .call operation rest)
      (answers : system.answers thread pool.world operation answer next) :
      Moves system thread pool
        ⟨resume pool.programs thread (rest answer) (system.creates operation answer), next⟩

/-- A step of any thread. -/
def Steps (system : SharedSystem Ret Thread World) (first last : Pool Ret Thread World) : Prop :=
  ∃ thread, Moves system thread first last

/-- A run of a pool. -/
def Reaches (system : SharedSystem Ret Thread World) (first last : Pool Ret Thread World) :
    Prop :=
  ReflTransGen (Steps system) first last

end Pool

/-! ## Verifying threads alone -/

/-- What a thread sees of the others: the world changes in the ways it relies on. -/
def SharedSystem.around (system : SharedSystem Ret Thread World)
    (rely : Thread → World → World → Prop) (thread : Thread) : Surroundings Ret World where
  answers := system.answers thread
  drift := rely thread

/-- Whatever a thread does where it is permitted to, the others rely on, and a
thread that it creates begins safely. -/
structure SharedSystem.Discipline (system : SharedSystem Ret Thread World)
    (rely : Thread → World → World → Prop) (watch : Thread → Watch Op World)
    (post : Thread → World → Prop) : Prop where
  others : ∀ thread other world operation answer next, (watch thread).holds world →
    (watch thread).permits world operation →
    system.answers thread world operation answer next → other ≠ thread →
    (∀ program, system.creates operation answer ≠ some (other, program)) → rely other world next
  created : ∀ thread world operation answer next other program, (watch thread).holds world →
    (watch thread).permits world operation →
    system.answers thread world operation answer next →
    system.creates operation answer = some (other, program) →
    other ≠ thread ∧
      Safe (system.around rely other) (watch other) (fun _ => post other) program next

section Discipline

variable {system : SharedSystem Ret Thread World} {rely : Thread → World → World → Prop}
variable {watch : Thread → Watch Op World} {post : Thread → World → Prop}

/-- Every thread is safe in the present world. -/
def Pool.AllSafe (system : SharedSystem Ret Thread World) (rely : Thread → World → World → Prop)
    (watch : Thread → Watch Op World) (post : Thread → World → Prop)
    (pool : Pool Ret Thread World) : Prop :=
  ∀ thread, Safe (system.around rely thread) (watch thread) (fun _ => post thread)
    (pool.programs thread) pool.world

variable [DecidableEq Thread]

theorem Pool.AllSafe.moves (discipline : system.Discipline rely watch post)
    {pool next : Pool Ret Thread World} (safe : pool.AllSafe system rely watch post)
    {thread : Thread} (moves : Pool.Moves system thread pool next) :
    next.AllSafe system rely watch post := by
  cases moves with
  | @answer operation rest answer world running answers =>
      have own := safe thread
      rw [running] at own
      obtain ⟨holds, permits, answered⟩ := own pool.world .refl
      have undisturbed (other : Thread) (different : other ≠ thread)
          (old : ∀ program, system.creates operation answer ≠ some (other, program)) :
          Safe (system.around rely other) (watch other) (fun _ => post other)
            (pool.programs other) world :=
        (safe other).of_drifts (ReflTransGen.single
          (discipline.others thread other _ _ _ _ holds permits answers different old))
      intro other
      cases created : system.creates operation answer with
      | none =>
          by_cases same : other = thread
          · subst same
            simpa [Pool.resume] using answered answer world answers
          · simpa [Pool.resume, same] using undisturbed other same (by simp [created])
      | some fresh =>
          obtain ⟨child, program⟩ := fresh
          obtain ⟨different, begun⟩ :=
            discipline.created thread _ _ _ _ child program holds permits answers created
          by_cases new : other = child
          · subst new
            simpa [Pool.resume] using begun
          · by_cases same : other = thread
            · subst same
              simpa [Pool.resume, new] using answered answer world answers
            · simpa [Pool.resume, new, same] using
                undisturbed other same (by simp [created, Ne.symm new])

/-- In every configuration of a run all threads are safe. -/
theorem Pool.AllSafe.of_reaches (discipline : system.Discipline rely watch post)
    {pool last : Pool Ret Thread World} (safe : pool.AllSafe system rely watch post)
    (reaches : Pool.Reaches system pool last) : last.AllSafe system rely watch post := by
  induction reaches with
  | refl => exact safe
  | tail _ steps ih =>
      obtain ⟨thread, moves⟩ := steps
      exact ih.moves discipline moves

omit [DecidableEq Thread] in
/-- In a pool of safe threads a thread's next operation is permitted. -/
theorem Pool.AllSafe.permits {pool : Pool Ret Thread World}
    (safe : pool.AllSafe system rely watch post) {thread : Thread} {operation : Op}
    {rest : Ret operation → EffectProgram Ret Unit}
    (running : pool.programs thread = .call operation rest) :
    (watch thread).permits pool.world operation := by
  have own := safe thread
  rw [running] at own
  exact own.permits

/-- What every permitted step keeps is kept along every run. -/
theorem Pool.AllSafe.invariant (discipline : system.Discipline rely watch post)
    {kept : World → Prop} (keeps : ∀ thread world operation answer next,
      (watch thread).holds world → (watch thread).permits world operation →
      system.answers thread world operation answer next → kept world → kept next)
    {pool last : Pool Ret Thread World} (safe : pool.AllSafe system rely watch post)
    (start : kept pool.world) (reaches : Pool.Reaches system pool last) : kept last.world := by
  induction reaches with
  | refl => exact start
  | tail before steps ih =>
      have safeBefore := safe.of_reaches discipline before
      obtain ⟨thread, moves⟩ := steps
      cases moves with
      | answer running answers =>
          have own := safeBefore thread
          rw [running] at own
          exact keeps thread _ _ _ _ own.holds own.permits answers ih

end Discipline

/-! ## Runs whose steps meet a condition -/

/-- The system whose steps are only made where a condition holds. -/
def SharedSystem.restrict (system : SharedSystem Ret Thread World)
    (condition : Thread → World → Op → Prop) : SharedSystem Ret Thread World where
  answers thread world operation answer next :=
    system.answers thread world operation answer next ∧ condition thread world operation
  creates := system.creates

section Restrict

variable [DecidableEq Thread] {system : SharedSystem Ret Thread World}
variable {condition : Thread → World → Op → Prop} {pool last : Pool Ret Thread World}

theorem Pool.Moves.of_restrict {thread : Thread}
    (moves : Pool.Moves (system.restrict condition) thread pool last) :
    Pool.Moves system thread pool last := by
  cases moves with
  | answer running answers => exact .answer running answers.1

theorem Pool.Reaches.of_restrict (reaches : Pool.Reaches (system.restrict condition) pool last) :
    Pool.Reaches system pool last := by
  induction reaches with
  | refl => exact .refl
  | tail _ steps ih =>
      obtain ⟨thread, moves⟩ := steps
      exact ih.tail ⟨thread, moves.of_restrict⟩

end Restrict

/-! ## Playing a schedule -/

section Play

variable [DecidableEq Thread]

/-- Let a thread make its next step with the answer that it is given; where
there is none, nothing happens. -/
def Pool.turn (system : SharedSystem Ret Thread World)
    (respond : Thread → World → (operation : Op) → Option (Ret operation × World))
    (pool : Pool Ret Thread World) (thread : Thread) : Pool Ret Thread World :=
  match pool.programs thread with
  | .call operation rest =>
      match respond thread pool.world operation with
      | some (answer, next) =>
          ⟨resume pool.programs thread (rest answer) (system.creates operation answer), next⟩
      | none => pool
  | _ => pool

/-- Let threads take their turns. -/
def Pool.play (system : SharedSystem Ret Thread World)
    (respond : Thread → World → (operation : Op) → Option (Ret operation × World))
    (pool : Pool Ret Thread World) (schedule : List Thread) : Pool Ret Thread World :=
  schedule.foldl (Pool.turn system respond) pool

variable {system : SharedSystem Ret Thread World}
variable {respond : Thread → World → (operation : Op) → Option (Ret operation × World)}

/-- A schedule that is played is a run. -/
theorem Pool.reaches_play (within : ∀ thread world operation answer next,
      respond thread world operation = some (answer, next) →
      system.answers thread world operation answer next)
    (pool : Pool Ret Thread World) (schedule : List Thread) :
    Pool.Reaches system pool (pool.play system respond schedule) := by
  induction schedule generalizing pool with
  | nil => exact .refl
  | cons thread schedule ih =>
      suffices first : Pool.Reaches system pool (pool.turn system respond thread) by
        exact first.trans (ih _)
      unfold Pool.turn
      split
      next operation rest running =>
        split
        next answer next responded =>
          exact ReflTransGen.single ⟨thread, .answer running (within _ _ _ _ _ responded)⟩
        next => exact .refl
      next => exact .refl

/-- A schedule that is played on states which stand for worlds is a run. -/
theorem Pool.reaches_play_of_view {State : Type} {machine : SharedSystem Ret Thread State}
    {respond : Thread → State → (operation : Op) → Option (Ret operation × State)}
    (view : State → World) (creates : machine.creates = system.creates)
    (within : ∀ thread state operation answer next,
      respond thread state operation = some (answer, next) →
      system.answers thread (view state) operation answer (view next))
    (pool : Pool Ret Thread State) (schedule : List Thread) :
    Pool.Reaches system ⟨pool.programs, view pool.world⟩
      ⟨(pool.play machine respond schedule).programs,
        view (pool.play machine respond schedule).world⟩ := by
  induction schedule generalizing pool with
  | nil => exact .refl
  | cons thread schedule ih =>
      suffices first : Pool.Reaches system ⟨pool.programs, view pool.world⟩
          ⟨(pool.turn machine respond thread).programs,
            view (pool.turn machine respond thread).world⟩ by
        exact first.trans (ih _)
      unfold Pool.turn
      split
      next operation rest running =>
        split
        next answer next responded =>
          rw [creates]
          exact ReflTransGen.single ⟨thread, .answer running (within _ _ _ _ _ responded)⟩
        next => exact .refl
      next => exact .refl

end Play

end EffectProgram
