import TunProxy.ProgramPool

/-!
# Pools that share one lock

The threads of a pool change a world that they share while they hold a lock.
Any of them may be killed between two steps, and the lock of a thread that is
killed is free.  When every thread alone keeps an invariant of the shared world
whenever it gives the lock back, then the invariant holds whenever the lock is
free, whatever the order of the steps; the thread that has the lock runs as if
it were alone; and the changes of two threads never alternate.
-/

namespace EffectProgram

open Relation

variable {Op : Type} {Ret : Op → Type} {Thread World : Type} {α β : Type}

/-! ## The lock -/

/-- Operations on a shared world, and what they have to do with a lock. -/
structure Lock (Ret : Op → Type) (World : Type) where
  around : Surroundings Ret World
  /-- The answer grants the lock. -/
  grants : (operation : Op) → Ret operation → Prop
  /-- The operation gives the lock back, if the thread has it. -/
  releases : Op → Prop
  /-- The operation is one to be made under the lock. -/
  changes : Op → Prop
  /-- How the world appears to the thread that is granted the lock. -/
  adopts : World → World → Prop
  /-- Where the thread that has the lock may be killed. -/
  abandonable : World → Prop

/-- A shared world with a lock, and a record of what has become of the threads. -/
structure LockedWorld (Thread World : Type) where
  shared : World
  holder : Option Thread
  killed : List Thread
  /-- The threads that have had the lock and have it no more. -/
  past : List Thread
  /-- The threads that have made changes, in the order of these. -/
  changers : List Thread

namespace LockedWorld

/-- The thread gives the lock back. -/
def release (world : LockedWorld Thread World) (thread : Thread) : LockedWorld Thread World :=
  { world with
    holder := none
    past := thread :: world.past }

/-- The thread is killed. -/
def kill (world : LockedWorld Thread World) (thread : Thread) : LockedWorld Thread World :=
  { world with killed := thread :: world.killed }

end LockedWorld

namespace Lock

/-- What happens beside the steps of the threads. -/
inductive Interferes (lock : Lock Ret World) :
    LockedWorld Thread World → LockedWorld Thread World → Prop
  | drift {world : LockedWorld Thread World} {next : World}
      (drifts : lock.around.drift world.shared next) :
      Interferes lock world { world with shared := next }
  | kill {world : LockedWorld Thread World} {thread : Thread}
      (free : world.holder ≠ some thread) : Interferes lock world (world.kill thread)
  | killHolder {world : LockedWorld Thread World} {thread : Thread}
      (holds : world.holder = some thread) (abandonable : lock.abandonable world.shared) :
      Interferes lock world ((world.release thread).kill thread)

/-- The step of a thread. -/
inductive Acts (lock : Lock Ret World) (thread : Thread) (world : LockedWorld Thread World)
    (operation : Op) (answer : Ret operation) : LockedWorld Thread World → Prop
  | grant {seen : World} (granted : lock.grants operation answer) (free : world.holder = none)
      (adopted : lock.adopts world.shared seen) :
      Acts lock thread world operation answer
        { world with shared := seen, holder := some thread }
  | release (released : lock.releases operation) (holds : world.holder = some thread) :
      Acts lock thread world operation answer (world.release thread)
  | releaseNothing (released : lock.releases operation) (free : world.holder ≠ some thread) :
      Acts lock thread world operation answer world
  | act {next : World} (refused : ¬ lock.grants operation answer)
      (kept : ¬ lock.releases operation) (looks : ¬ lock.changes operation)
      (answers : lock.around.answers world.shared operation answer next) :
      Acts lock thread world operation answer { world with shared := next }
  | change {next : World} (refused : ¬ lock.grants operation answer)
      (kept : ¬ lock.releases operation) (changes : lock.changes operation)
      (answers : lock.around.answers world.shared operation answer next) :
      Acts lock thread world operation answer
        { world with shared := next, changers := world.changers ++ [thread] }

/-- What the threads share; no thread creates another. -/
def system (lock : Lock Ret World) : SharedSystem Ret Thread (LockedWorld Thread World) where
  answers thread world operation answer next := ∃ before after,
    ReflTransGen lock.Interferes world before ∧ thread ∉ before.killed ∧
      lock.Acts thread before operation answer after ∧ ReflTransGen lock.Interferes after next
  creates _ _ := none

end Lock

/-! ## Changes in a row -/

/-- Between two changes of one thread no other thread makes a change. -/
def InARow (changers : List Thread) : Prop :=
  ∀ (first middle last : Nat) (thread other : Thread), first ≤ middle → middle ≤ last →
    changers[first]? = some thread → changers[middle]? = some other →
    changers[last]? = some thread → other = thread

theorem inARow_nil : InARow ([] : List Thread) := by
  intro first middle last thread other _ _ found
  cases found

/-- A further change by a thread that has made none, or the last one. -/
theorem InARow.append {changers : List Thread} (row : InARow changers) {thread : Thread}
    (latest : thread ∈ changers → changers.getLast? = some thread) :
    InARow (changers ++ [thread]) := by
  intro first middle last same other before after found between again
  have bound : last < changers.length + 1 := by
    have := (List.getElem?_eq_some_iff.mp again).1
    simpa using this
  by_cases inside : last < changers.length
  · rw [List.getElem?_append_left (by omega)] at found between again
    exact row first middle last same other before after found between again
  -- The last of the three is the further change.
  have atEnd : last = changers.length := by omega
  subst atEnd
  have isThread : same = thread := by simpa using again.symm
  subst isThread
  by_cases middleInside : middle < changers.length
  · rw [List.getElem?_append_left (by omega)] at found between
    have latest := latest (List.mem_of_getElem? found)
    rw [List.getLast?_eq_getElem?] at latest
    exact row first middle (changers.length - 1) same other before (by omega) found between latest
  · have : middle = changers.length := by omega
    subst this
    simpa using between.symm

/-! ## Invariants under the lock -/

/-- The invariant is one of the shared world while the lock is free, and what
is watched holds while a thread has the lock. -/
structure Lock.Guards (lock : Lock Ret World) (watch : Watch Op World)
    (invariant : World → Prop) : Prop where
  stable : Stable lock.around invariant
  steady : Stable lock.around watch.holds
  watched : ∀ world, invariant world → watch.holds world
  adopted : ∀ world seen, invariant world → lock.adopts world seen → invariant seen
  abandoned : ∀ world, watch.holds world → lock.abandonable world → invariant world

/-- The lock and the shared world are in order. -/
structure LockedWorld.Sound (watch : Watch Op World) (invariant : World → Prop)
    (world : LockedWorld Thread World) : Prop where
  free : world.holder = none → invariant world.shared
  held : ∀ thread, world.holder = some thread → watch.holds world.shared
  present : ∀ thread, world.holder = some thread → thread ∉ world.past ∧ thread ∉ world.killed
  row : InARow world.changers
  changed : ∀ thread, thread ∈ world.changers →
    thread ∈ world.past ∨ world.holder = some thread ∧ world.changers.getLast? = some thread

namespace Lock

/-- What a thread relies on: the others leave it the lock, and the shared world
changes by itself only while it has it. -/
structure Relies (lock : Lock Ret World) (watch : Watch Op World) (invariant : World → Prop)
    (thread : Thread) (world next : LockedWorld Thread World) : Prop where
  sound : next.Sound watch invariant
  killed : thread ∈ world.killed → thread ∈ next.killed
  holder : thread ∉ next.killed → (next.holder = some thread ↔ world.holder = some thread)
  past : thread ∉ next.killed → (thread ∈ next.past ↔ thread ∈ world.past)
  drifts : thread ∉ next.killed → world.holder = some thread →
    lock.around.Drifts world.shared next.shared

/-- Where a thread may make an operation. -/
structure Permits (lock : Lock Ret World) (watch : Watch Op World) (invariant : World → Prop)
    (thread : Thread) (world : LockedWorld Thread World) (operation : Op) : Prop where
  granted : ∀ answer, lock.grants operation answer → thread ∉ world.past
  released : lock.releases operation → world.holder = some thread → invariant world.shared
  changed : lock.changes operation → ¬ lock.releases operation → world.holder = some thread
  inside : ¬ lock.releases operation → world.holder = some thread →
    watch.permits world.shared operation ∧
      ∀ answer next, lock.around.answers world.shared operation answer next → watch.holds next
  outside : ¬ lock.releases operation → world.holder ≠ some thread →
    ∀ answer next, ¬ lock.grants operation answer →
      lock.around.answers world.shared operation answer next → next = world.shared

/-- What is watched of a thread, which makes its operation somewhat later. -/
def watching (lock : Lock Ret World) (watch : Watch Op World) (invariant : World → Prop)
    (thread : Thread) : Watch Op (LockedWorld Thread World) where
  holds := LockedWorld.Sound watch invariant
  permits world operation := ∀ later, ReflTransGen lock.Interferes world later →
    thread ∉ later.killed → lock.Permits watch invariant thread later operation
  cuts := True

/-! ## Every step keeps order -/

section Order

variable {lock : Lock Ret World} {watch : Watch Op World} {invariant : World → Prop}
variable {world next last : LockedWorld Thread World} {thread other : Thread}

theorem Interferes.sound (guards : lock.Guards watch invariant)
    (sound : world.Sound watch invariant) (interferes : lock.Interferes world next) :
    next.Sound watch invariant := by
  cases interferes with
  | drift drifts =>
      exact {
        free := fun free => guards.stable _ _ (sound.free free) drifts
        held := fun thread holds => guards.steady _ _ (sound.held thread holds) drifts
        present := sound.present
        row := sound.row
        changed := sound.changed }
  | @kill thread free =>
      refine ⟨sound.free, sound.held, fun other holds => ?_, sound.row, sound.changed⟩
      refine ⟨(sound.present other holds).1, fun dead => ?_⟩
      rcases List.mem_cons.mp dead with rfl | dead
      · exact free holds
      · exact (sound.present other holds).2 dead
  | @killHolder thread holds abandonable =>
      refine ⟨fun _ => guards.abandoned _ (sound.held thread holds) abandonable,
        nofun, nofun, sound.row, fun other changed => Or.inl ?_⟩
      rcases sound.changed other changed with past | ⟨holds', -⟩
      · exact List.mem_cons_of_mem _ past
      · rw [Option.some.inj (holds'.symm.trans holds)]
        exact List.mem_cons_self

theorem Interferes.relies (guards : lock.Guards watch invariant)
    (sound : world.Sound watch invariant) (interferes : lock.Interferes world next) :
    lock.Relies watch invariant thread world next := by
  have sound := interferes.sound guards sound
  cases interferes with
  | drift drifts =>
      exact ⟨sound, id, fun _ => Iff.rfl, fun _ => Iff.rfl, fun _ _ => ReflTransGen.single drifts⟩
  | kill free =>
      exact ⟨sound, List.mem_cons_of_mem _, fun _ => Iff.rfl, fun _ => Iff.rfl, fun _ _ => .refl⟩
  | @killHolder victim holds abandonable =>
      have spared (alive : thread ∉ ((world.release victim).kill victim).killed) :
          thread ≠ victim := fun same => alive (same ▸ List.mem_cons_self)
      refine ⟨sound, List.mem_cons_of_mem _, fun alive => ?_, fun alive => ?_, fun alive mine => ?_⟩
      · constructor
        · exact nofun
        · intro mine
          exact absurd (Option.some.inj (mine.symm.trans holds)) (spared alive)
      · constructor
        · exact fun past => (List.mem_cons.mp past).resolve_left (spared alive)
        · exact List.mem_cons_of_mem _
      · exact absurd (Option.some.inj (mine.symm.trans holds)) (spared alive)

theorem Relies.refl (sound : world.Sound watch invariant) :
    lock.Relies watch invariant thread world world :=
  ⟨sound, id, fun _ => Iff.rfl, fun _ => Iff.rfl, fun _ _ => .refl⟩

theorem Relies.trans (first : lock.Relies watch invariant thread world next)
    (second : lock.Relies watch invariant thread next last) :
    lock.Relies watch invariant thread world last where
  sound := second.sound
  killed := fun dead => second.killed (first.killed dead)
  holder := fun alive =>
    (second.holder alive).trans (first.holder fun dead => alive (second.killed dead))
  past := fun alive =>
    (second.past alive).trans (first.past fun dead => alive (second.killed dead))
  drifts := by
    intro alive holds
    have aliveBefore : thread ∉ next.killed := fun dead => alive (second.killed dead)
    exact (first.drifts aliveBefore holds).trans
      (second.drifts alive ((first.holder aliveBefore).mpr holds))

/-- What happens beside the threads is something that all of them rely on. -/
theorem relies_of_interferes (guards : lock.Guards watch invariant)
    (sound : world.Sound watch invariant)
    (interferes : ReflTransGen lock.Interferes world next) :
    lock.Relies watch invariant thread world next := by
  induction interferes with
  | refl => exact .refl sound
  | tail _ interferes ih => exact ih.trans (interferes.relies guards ih.sound)

theorem Acts.sound (guards : lock.Guards watch invariant) (sound : world.Sound watch invariant)
    (alive : thread ∉ world.killed) {operation : Op} {answer : Ret operation}
    (permits : lock.Permits watch invariant thread world operation)
    (acts : lock.Acts thread world operation answer next) : next.Sound watch invariant := by
  -- What the thread leaves behind where it has the lock, and where it has not.
  have watched (kept : ¬ lock.releases operation) (refused : ¬ lock.grants operation answer)
      {later : World} (answers : lock.around.answers world.shared operation answer later)
      (other : Thread) (holds : world.holder = some other) : watch.holds later := by
    by_cases mine : world.holder = some thread
    · exact (permits.inside kept mine).2 answer later answers
    · rw [permits.outside kept mine answer later refused answers]
      exact sound.held other holds
  have unchanged (kept : ¬ lock.releases operation) (refused : ¬ lock.grants operation answer)
      {later : World} (answers : lock.around.answers world.shared operation answer later)
      (free : world.holder = none) : invariant later := by
    have notMine : world.holder ≠ some thread := by simp [free]
    rw [permits.outside kept notMine answer later refused answers]
    exact sound.free free
  cases acts with
  | grant granted free adopted =>
      have held := guards.watched _ (guards.adopted _ _ (sound.free free) adopted)
      refine ⟨nofun, fun _ _ => held, fun other holds => ?_, sound.row, fun other changed => ?_⟩
      · obtain rfl := Option.some.inj holds
        exact ⟨permits.granted answer granted, alive⟩
      · rcases sound.changed other changed with past | ⟨holds, -⟩
        · exact Or.inl past
        · rw [free] at holds
          cases holds
  | release released holds =>
      refine ⟨fun _ => permits.released released holds, nofun, nofun, sound.row,
        fun other changed => Or.inl ?_⟩
      rcases sound.changed other changed with past | ⟨holds', -⟩
      · exact List.mem_cons_of_mem _ past
      · rw [Option.some.inj (holds'.symm.trans holds)]
        exact List.mem_cons_self
  | releaseNothing => exact sound
  | act refused kept looks answers =>
      exact {
        free := unchanged kept refused answers
        held := watched kept refused answers
        present := sound.present
        row := sound.row
        changed := sound.changed }
  | change refused kept changes answers =>
      have mine := permits.changed changes kept
      have latest (changed : thread ∈ world.changers) :
          world.changers.getLast? = some thread := by
        rcases sound.changed thread changed with past | ⟨-, latest⟩
        · exact absurd past (sound.present thread mine).1
        · exact latest
      refine ⟨unchanged kept refused answers, watched kept refused answers, sound.present,
        sound.row.append latest, fun other changed => ?_⟩
      rcases List.mem_append.mp changed with before | added
      · rcases sound.changed other before with past | ⟨holds, -⟩
        · exact Or.inl past
        · obtain rfl := Option.some.inj (holds.symm.trans mine)
          exact Or.inr ⟨holds, by simp⟩
      · obtain rfl := List.mem_singleton.mp added
        exact Or.inr ⟨mine, by simp⟩

/-- The step of a thread is something that the others rely on. -/
theorem Acts.relies (guards : lock.Guards watch invariant)
    (sound : world.Sound watch invariant) (alive : thread ∉ world.killed) {operation : Op}
    {answer : Ret operation} (permits : lock.Permits watch invariant thread world operation)
    (different : other ≠ thread) (acts : lock.Acts thread world operation answer next) :
    lock.Relies watch invariant other world next := by
  have sound := acts.sound guards sound alive permits
  have notMine (holds : world.holder = some other) : world.holder ≠ some thread :=
    fun mine => different (Option.some.inj (holds.symm.trans mine))
  cases acts with
  | grant granted free adopted =>
      refine ⟨sound, id, fun _ => ?_, fun _ => Iff.rfl, fun _ holds => ?_⟩
      · constructor
        · intro holds
          exact absurd (Option.some.inj holds).symm different
        · intro holds
          rw [free] at holds
          cases holds
      · rw [free] at holds
        cases holds
  | release released holds =>
      refine ⟨sound, id, fun _ => ?_, fun _ => ?_, fun _ holds' => absurd holds (notMine holds')⟩
      · exact ⟨nofun, fun holds' => absurd holds (notMine holds')⟩
      · exact ⟨fun past => (List.mem_cons.mp past).resolve_left different, List.mem_cons_of_mem _⟩
  | releaseNothing => exact .refl sound
  | act refused kept looks answers =>
      refine ⟨sound, id, fun _ => Iff.rfl, fun _ => Iff.rfl, fun _ holds => ?_⟩
      rw [permits.outside kept (notMine holds) answer _ refused answers]
      exact .refl
  | change refused kept changes answers =>
      refine ⟨sound, id, fun _ => Iff.rfl, fun _ => Iff.rfl, fun _ holds => ?_⟩
      rw [permits.outside kept (notMine holds) answer _ refused answers]
      exact .refl

/-- Whatever the threads of such a pool are permitted, the others rely on. -/
theorem discipline (guards : lock.Guards watch invariant)
    (post : Thread → LockedWorld Thread World → Prop) :
    lock.system.Discipline (lock.Relies watch invariant) (lock.watching watch invariant) post where
  others := by
    intro thread other world operation answer next sound permits answers different _
    obtain ⟨before, after, moved, alive, acts, interferes⟩ := answers
    have began : lock.Relies watch invariant other world before :=
      relies_of_interferes guards sound moved
    have relies := acts.relies guards began.sound alive (permits before moved alive) different
    exact (began.trans relies).trans (relies_of_interferes guards relies.sound interferes)
  created := by
    intro thread world operation answer next other program _ _ _ impossible
    cases impossible

end Order

/-! ## Rules for one thread -/

section Rules

variable {lock : Lock Ret World} {watch : Watch Op World} {invariant : World → Prop}
variable {world next : LockedWorld Thread World} {thread : Thread} {operation : Op}

/-- What a thread runs against. -/
abbrev beside (lock : Lock Ret World) (watch : Watch Op World) (invariant : World → Prop)
    (thread : Thread) : Surroundings Ret (LockedWorld Thread World) :=
  lock.system.around (lock.Relies watch invariant) thread

/-- The thread has not had the lock yet. -/
def Before (watch : Watch Op World) (invariant : World → Prop) (thread : Thread)
    (world : LockedWorld Thread World) : Prop :=
  world.Sound watch invariant ∧
    (thread ∉ world.killed → world.holder ≠ some thread ∧ thread ∉ world.past)

/-- The thread has the lock, and the assertion holds of the shared world. -/
def Inside (watch : Watch Op World) (invariant assertion : World → Prop) (thread : Thread)
    (world : LockedWorld Thread World) : Prop :=
  world.Sound watch invariant ∧
    (thread ∉ world.killed → world.holder = some thread ∧ assertion world.shared)

/-- The thread does not have the lock. -/
def Outside (watch : Watch Op World) (invariant : World → Prop) (thread : Thread)
    (world : LockedWorld Thread World) : Prop :=
  world.Sound watch invariant ∧ (thread ∉ world.killed → world.holder ≠ some thread)

theorem Before.outside (before : Before watch invariant thread world) :
    Outside watch invariant thread world :=
  ⟨before.1, fun alive => (before.2 alive).1⟩

theorem Before.relies (before : Before watch invariant thread world)
    (relies : lock.Relies watch invariant thread world next) :
    Before watch invariant thread next := by
  refine ⟨relies.sound, fun alive => ?_⟩
  obtain ⟨without, fresh⟩ := before.2 fun dead => alive (relies.killed dead)
  exact ⟨fun holds => without ((relies.holder alive).mp holds),
    fun past => fresh ((relies.past alive).mp past)⟩

theorem Outside.relies (outside : Outside watch invariant thread world)
    (relies : lock.Relies watch invariant thread world next) :
    Outside watch invariant thread next := by
  refine ⟨relies.sound, fun alive holds => ?_⟩
  have without := outside.2 fun dead => alive (relies.killed dead)
  exact without ((relies.holder alive).mp holds)

theorem Inside.relies {assertion : World → Prop} (stable : Stable lock.around assertion)
    (inside : Inside watch invariant assertion thread world)
    (relies : lock.Relies watch invariant thread world next) :
    Inside watch invariant assertion thread next := by
  refine ⟨relies.sound, fun alive => ?_⟩
  obtain ⟨holds, asserted⟩ := inside.2 fun dead => alive (relies.killed dead)
  exact ⟨(relies.holder alive).mpr holds,
    stable.of_drifts asserted (relies.drifts alive holds)⟩

/-- An assertion under which the lock is in order and on which the others have
no effect. -/
structure Steady (lock : Lock Ret World) (watch : Watch Op World) (invariant : World → Prop)
    (thread : Thread) (assertion : LockedWorld Thread World → Prop) : Prop where
  sound : ∀ world, assertion world → world.Sound watch invariant
  relies : ∀ world next, assertion world → lock.Relies watch invariant thread world next →
    assertion next

theorem Steady.of_drifts {assertion : LockedWorld Thread World → Prop}
    (steady : Steady lock watch invariant thread assertion) (asserted : assertion world)
    (drifts : (lock.beside watch invariant thread).Drifts world next) : assertion next := by
  induction drifts with
  | refl => exact asserted
  | tail _ relies ih => exact steady.relies _ _ ih relies

theorem steady_before : Steady lock watch invariant thread (Before watch invariant thread) :=
  ⟨fun _ before => before.1, fun _ _ before relies => before.relies relies⟩

theorem steady_outside : Steady lock watch invariant thread (Outside watch invariant thread) :=
  ⟨fun _ outside => outside.1, fun _ _ outside relies => outside.relies relies⟩

theorem steady_inside {assertion : World → Prop} (stable : Stable lock.around assertion) :
    Steady lock watch invariant thread (Inside watch invariant assertion thread) :=
  ⟨fun _ inside => inside.1, fun _ _ inside relies => inside.relies stable relies⟩

/-- The operation has nothing to do with the lock and only looks at the shared
world. -/
structure Idle (lock : Lock Ret World) (operation : Op) : Prop where
  refuses : ∀ answer, ¬ lock.grants operation answer
  kept : ¬ lock.releases operation
  looks : ¬ lock.changes operation
  quiet : ∀ world answer next, lock.around.answers world operation answer next → next = world

theorem permits_of_outside (outside : world.holder ≠ some thread)
    (granted : ∀ answer, lock.grants operation answer → thread ∉ world.past)
    (looks : ¬ lock.changes operation)
    (quiet : ¬ lock.releases operation → ∀ answer next, ¬ lock.grants operation answer →
      lock.around.answers world.shared operation answer next → next = world.shared) :
    lock.Permits watch invariant thread world operation where
  granted := granted
  released := fun _ holds => absurd holds outside
  changed := fun changes => absurd changes looks
  inside := fun _ holds => absurd holds outside
  outside := fun kept _ => quiet kept

/-- A call of the thread, from an assertion on which the others have no effect. -/
theorem triple_call (guards : lock.Guards watch invariant)
    {assertion : LockedWorld Thread World → Prop}
    {after : Ret operation → LockedWorld Thread World → Prop}
    {post : α → LockedWorld Thread World → Prop} {rest : Ret operation → EffectProgram Ret α}
    (stable : Steady lock watch invariant thread assertion)
    (stableAfter : ∀ answer, Steady lock watch invariant thread (after answer))
    (permits : ∀ world, assertion world → thread ∉ world.killed →
      lock.Permits watch invariant thread world operation)
    (acts : ∀ world answer next, assertion world → thread ∉ world.killed →
      lock.Acts thread world operation answer next → next.Sound watch invariant →
        after answer next)
    (onward : ∀ answer, Triple (lock.beside watch invariant thread)
      (lock.watching watch invariant thread) (after answer) (rest answer) post) :
    Triple (lock.beside watch invariant thread) (lock.watching watch invariant thread)
      assertion (.call operation rest) post := by
  have later {world next : LockedWorld Thread World} (asserted : assertion world)
      (interferes : ReflTransGen lock.Interferes world next) : assertion next :=
    stable.relies world next asserted
      (relies_of_interferes guards (stable.sound world asserted) interferes)
  apply Triple.call
  · exact fun world next asserted relies => stable.relies world next asserted relies
  · exact stable.sound
  · exact fun world asserted next interferes alive => permits next (later asserted interferes) alive
  · intro world answer next asserted answers
    obtain ⟨before, made, moved, alive, acted, interferes⟩ := answers
    have asserted := later asserted moved
    have sound := acted.sound guards (stable.sound before asserted) alive
      (permits before asserted alive)
    have reached := acts before answer made asserted alive acted sound
    exact onward answer next ((stableAfter answer).relies made next reached
      (relies_of_interferes guards sound interferes))

/-- Programs that only look keep away from the lock. -/
theorem triple_before (guards : lock.Guards watch invariant) {program : EffectProgram Ret α}
    (calls : program.Calls lock.Idle) :
    Triple (lock.beside watch invariant thread) (lock.watching watch invariant thread)
      (Before watch invariant thread) program (fun _ => Before watch invariant thread) := by
  induction program with
  | done value =>
      exact Triple.done (fun _ _ before relies => before.relies relies) (fun _ before => before.1)
        fun _ => id
  | call operation rest ih =>
      have idle := calls.1
      apply triple_call guards steady_before (fun _ => steady_before)
      · intro world before alive
        exact permits_of_outside (before.2 alive).1
          (fun answer granted => absurd granted (idle.refuses answer)) idle.looks
          fun _ answer next _ => idle.quiet _ answer next
      · intro world answer next before alive acts sound
        cases acts with
        | grant granted => exact absurd granted (idle.refuses answer)
        | release released => exact absurd released idle.kept
        | releaseNothing => exact before
        | act _ _ _ answers => exact idle.quiet _ _ _ answers ▸ before
        | change _ _ changes => exact absurd changes idle.looks
      · exact fun answer => ih answer (calls.2 answer)
  | cut => exact fun world before later drifts =>
      ⟨(steady_before.of_drifts before drifts).1, trivial⟩

/-- Trying to get the lock. -/
theorem triple_try (guards : lock.Guards watch invariant)
    {post : α → LockedWorld Thread World → Prop} {rest : Ret operation → EffectProgram Ret α}
    (kept : ¬ lock.releases operation) (looks : ¬ lock.changes operation)
    (quiet : ∀ world answer next, ¬ lock.grants operation answer →
      lock.around.answers world operation answer next → next = world)
    (inside : ∀ answer, lock.grants operation answer →
      Triple (lock.beside watch invariant thread) (lock.watching watch invariant thread)
        (Inside watch invariant invariant thread) (rest answer) post)
    (refused : ∀ answer, ¬ lock.grants operation answer →
      Triple (lock.beside watch invariant thread) (lock.watching watch invariant thread)
        (Before watch invariant thread) (rest answer) post) :
    Triple (lock.beside watch invariant thread) (lock.watching watch invariant thread)
      (Before watch invariant thread) (.call operation rest) post := by
  let after (answer : Ret operation) (world : LockedWorld Thread World) : Prop :=
    (lock.grants operation answer → Inside watch invariant invariant thread world) ∧
      (¬ lock.grants operation answer → Before watch invariant thread world) ∧
        world.Sound watch invariant
  have steadyAfter (answer : Ret operation) : Steady lock watch invariant thread (after answer) := {
    sound := fun world reached => reached.2.2
    relies := fun world next reached relies =>
      ⟨fun granted => (reached.1 granted).relies guards.stable relies,
        fun refused => (reached.2.1 refused).relies relies, relies.sound⟩ }
  apply triple_call guards steady_before steadyAfter
  · intro world before alive
    exact permits_of_outside (before.2 alive).1 (fun _ _ => (before.2 alive).2) looks
      fun _ answer next => quiet _ answer next
  · intro world answer next before alive acts sound
    cases acts with
    | grant granted free adopted =>
        have adopted := guards.adopted _ _ (before.1.free free) adopted
        exact ⟨fun _ => ⟨sound, fun _ => ⟨rfl, adopted⟩⟩, absurd granted, sound⟩
    | release released => exact absurd released kept
    | releaseNothing released => exact absurd released kept
    | act refused _ _ answers =>
        have same := quiet _ _ _ refused answers
        exact ⟨fun granted => absurd granted refused, fun _ => same ▸ before, sound⟩
    | change _ _ changes => exact absurd changes looks
  · intro answer world reached
    by_cases granted : lock.grants operation answer
    · exact inside answer granted world (reached.1 granted)
    · exact refused answer granted world (reached.2.1 granted)

theorem permits_of_inside {program : Ret operation → EffectProgram Ret α}
    {post : α → World → Prop} (holds : world.holder = some thread)
    (apart : (∀ answer, ¬ lock.grants operation answer) ∧ ¬ lock.releases operation)
    (safe : Safe lock.around watch post (.call operation program) world.shared) :
    lock.Permits watch invariant thread world operation where
  granted := fun answer granted => absurd granted (apart.1 answer)
  released := fun released => absurd released apart.2
  changed := fun _ _ => holds
  inside := fun _ _ => ⟨safe.permits, fun answer next answers =>
    ((safe _ .refl).2.2 answer next answers).holds⟩
  outside := fun _ without => absurd holds without

/-- What is safe alone is safe under the lock. -/
theorem triple_inside (guards : lock.Guards watch invariant) {program : EffectProgram Ret α}
    {post : α → World → Prop}
    (calls : program.Calls fun operation =>
      (∀ answer, ¬ lock.grants operation answer) ∧ ¬ lock.releases operation) :
    Triple (lock.beside watch invariant thread) (lock.watching watch invariant thread)
      (Inside watch invariant (Safe lock.around watch post program) thread) program
      (fun value => Inside watch invariant (post value) thread) := by
  have steady (program : EffectProgram Ret α) : Steady lock watch invariant thread
      (Inside watch invariant (Safe lock.around watch post program) thread) :=
    steady_inside fun _ _ safe drifts => safe.of_drifts (ReflTransGen.single drifts)
  induction program with
  | done value =>
      intro world inside last drifts
      have inside := (steady (.done value)).of_drifts inside drifts
      exact ⟨inside.1, inside.1, fun alive => ⟨(inside.2 alive).1, (inside.2 alive).2.result⟩⟩
  | call operation rest ih =>
      apply triple_call guards (steady (.call operation rest)) fun answer => steady (rest answer)
      · intro world inside alive
        exact permits_of_inside (inside.2 alive).1 calls.1 (inside.2 alive).2
      · intro world answer next inside alive acts sound
        obtain ⟨holds, safe⟩ := inside.2 alive
        have answered := (safe _ .refl).2.2
        cases acts with
        | grant granted => exact absurd granted (calls.1.1 answer)
        | release released => exact absurd released calls.1.2
        | releaseNothing released => exact absurd released calls.1.2
        | act _ _ _ answers => exact ⟨sound, fun _ => ⟨holds, answered _ _ answers⟩⟩
        | change _ _ _ answers => exact ⟨sound, fun _ => ⟨holds, answered _ _ answers⟩⟩
      · exact fun answer => ih answer (calls.2 answer)
  | cut =>
      intro world inside last drifts
      exact ⟨((steady .cut).of_drifts inside drifts).1, trivial⟩

/-- The thread may give the lock back, if it has it. -/
def Yielding (watch : Watch Op World) (invariant : World → Prop) (thread : Thread)
    (world : LockedWorld Thread World) : Prop :=
  world.Sound watch invariant ∧
    (thread ∉ world.killed → world.holder = some thread → invariant world.shared)

theorem Inside.yielding (inside : Inside watch invariant invariant thread world) :
    Yielding watch invariant thread world :=
  ⟨inside.1, fun alive _ => (inside.2 alive).2⟩

theorem Outside.yielding (outside : Outside watch invariant thread world) :
    Yielding watch invariant thread world :=
  ⟨outside.1, fun alive holds => absurd holds (outside.2 alive)⟩

theorem Yielding.relies (stable : Stable lock.around invariant)
    (yielding : Yielding watch invariant thread world)
    (relies : lock.Relies watch invariant thread world next) :
    Yielding watch invariant thread next := by
  refine ⟨relies.sound, fun alive holds => ?_⟩
  have held := (relies.holder alive).mp holds
  have kept := yielding.2 (fun dead => alive (relies.killed dead)) held
  exact stable.of_drifts kept (relies.drifts alive held)

/-- Giving the lock back. -/
theorem triple_release (guards : lock.Guards watch invariant)
    {post : α → LockedWorld Thread World → Prop} {rest : Ret operation → EffectProgram Ret α}
    (releases : lock.releases operation) (refuses : ∀ answer, ¬ lock.grants operation answer)
    (outside : ∀ answer, Triple (lock.beside watch invariant thread)
      (lock.watching watch invariant thread) (Outside watch invariant thread) (rest answer) post) :
    Triple (lock.beside watch invariant thread) (lock.watching watch invariant thread)
      (Yielding watch invariant thread) (.call operation rest) post := by
  have steady : Steady lock watch invariant thread (Yielding watch invariant thread) :=
    ⟨fun _ yielding => yielding.1, fun _ _ yielding relies => yielding.relies guards.stable relies⟩
  apply triple_call guards steady (fun _ => steady_outside) _ _ outside
  · intro world yielding alive
    exact {
      granted := fun answer granted => absurd granted (refuses answer)
      released := fun _ => yielding.2 alive
      changed := fun _ kept => absurd releases kept
      inside := fun kept => absurd releases kept
      outside := fun kept => absurd releases kept }
  · intro world answer next yielding alive acts sound
    cases acts with
    | grant granted => exact absurd granted (refuses answer)
    | release => exact ⟨sound, fun _ => nofun⟩
    | releaseNothing _ without => exact ⟨sound, fun _ => without⟩
    | act _ kept => exact absurd releases kept
    | change _ kept => exact absurd releases kept

theorem triple_done_outside {value : α} :
    Triple (lock.beside watch invariant thread) (lock.watching watch invariant thread)
      (Outside watch invariant thread) (.done value) (fun _ => Outside watch invariant thread) :=
  Triple.done (fun _ _ outside relies => outside.relies relies) (fun _ outside => outside.1)
    fun _ => id

end Rules

/-! ## All threads together -/

section Together

variable {lock : Lock Ret World} {watch : Watch Op World} {invariant : World → Prop}
variable {thread : Thread}

/-- No thread has had the lock yet, and the shared world is as it should be. -/
structure Fresh (watch : Watch Op World) (invariant : World → Prop)
    (world : LockedWorld Thread World) : Prop where
  shared : invariant world.shared
  free : world.holder = none
  past : world.past = []
  changers : world.changers = []

theorem Fresh.sound {world : LockedWorld Thread World} (fresh : Fresh watch invariant world) :
    world.Sound watch invariant := by
  have free (other : Thread) : world.holder ≠ some other := by simp [fresh.free]
  refine ⟨fun _ => fresh.shared, fun other holds => absurd holds (free other),
    fun other holds => absurd holds (free other), ?_, fun other changed => ?_⟩
  · rw [fresh.changers]
    exact inARow_nil
  · rw [fresh.changers] at changed
    cases changed

theorem Fresh.before {world : LockedWorld Thread World} (fresh : Fresh watch invariant world) :
    Before watch invariant thread world :=
  ⟨fresh.sound, fun _ => ⟨by simp [fresh.free], by simp [fresh.past]⟩⟩

/-- The threads of the pool are all safe under the lock. -/
abbrev Keeps (lock : Lock Ret World) (watch : Watch Op World) (invariant : World → Prop)
    (pool : Pool Ret Thread (LockedWorld Thread World)) : Prop :=
  pool.AllSafe lock.system (lock.Relies watch invariant) (lock.watching watch invariant)
    (Outside watch invariant)

theorem Keeps.of_reaches [DecidableEq Thread] (guards : lock.Guards watch invariant)
    {pool last : Pool Ret Thread (LockedWorld Thread World)}
    (fresh : Fresh watch invariant pool.world)
    (safe : ∀ thread, Triple (lock.beside watch invariant thread)
      (lock.watching watch invariant thread) (Before watch invariant thread)
      (pool.programs thread) (fun _ => Outside watch invariant thread))
    (reaches : Pool.Reaches lock.system pool last) : lock.Keeps watch invariant last := by
  have start : lock.Keeps watch invariant pool := fun thread => safe thread _ fresh.before
  exact Pool.AllSafe.of_reaches (lock.discipline guards (Outside watch invariant)) start reaches

variable {pool : Pool Ret Thread (LockedWorld Thread World)} {operation : Op}
variable {rest : Ret operation → EffectProgram Ret Unit}

/-- The lock is in order in every configuration of a run. -/
theorem Keeps.sound [DecidableEq Thread] {world : LockedWorld Thread World}
    (keeps : lock.Keeps watch invariant pool) (fresh : Fresh watch invariant world)
    {programs : Thread → EffectProgram Ret Unit}
    (reaches : Pool.Reaches lock.system ⟨programs, world⟩ pool) :
    pool.world.Sound watch invariant := by
  rcases ReflTransGen.cases_tail reaches with same | ⟨middle, -, thread, -⟩
  · rw [same]
    exact fresh.sound
  · exact (keeps thread).holds

theorem Keeps.permitted (keeps : lock.Keeps watch invariant pool)
    (running : pool.programs thread = .call operation rest) (alive : thread ∉ pool.world.killed) :
    lock.Permits watch invariant thread pool.world operation :=
  Pool.AllSafe.permits keeps running pool.world .refl alive

/-- A thread that has the lock has not come to its end. -/
theorem Keeps.not_done (keeps : lock.Keeps watch invariant pool)
    (holds : pool.world.holder = some thread) : pool.programs thread ≠ .done () := by
  intro ended
  have own := keeps thread
  have sound : pool.world.Sound watch invariant := own.holds
  rw [ended] at own
  exact own.result.2 (sound.present thread holds).2 holds

end Together

end Lock

end EffectProgram
