import TunProxy.ObligingSystem
import TunProxy.ProxyAttempts

/-!
# Runs of the proxy manager

Calls of `start` and `stop` follow each other, one at a time, and the
controlling process may be killed at a step of any of them.  Whatever the
system answers and however the world changes meanwhile, the cores that are
alive stay known.
-/

namespace TunProxy

open ByteText EffectProgram Relation

namespace Site

variable {site : Site} {genuine : Prop} {α : Type}

/-! ## Between calls -/

/-- The children of the controlling process after its end. -/
def orphaned (world : World) : World :=
  { world with processes := fun pid =>
      (world.processes pid).map fun process => { process with child := false } }

theorem Tracked.orphaned {world : World} (tracked : site.Tracked genuine world) :
    site.Tracked genuine (orphaned world) where
  recorded := by
    intro pid later found core alive
    obtain ⟨process, present, rfl⟩ := Option.map_eq_some_iff.mp found
    refine (tracked.recorded pid process present core alive).imp_left fun ⟨recorded, settled⟩ => ?_
    obtain ⟨state, loads, held⟩ := recorded
    exact ⟨⟨state, loads, held.pid, held.ticks, held.executed, held.executable, held.recorded,
      held.legible, held.positive, held.bounds⟩, settled⟩
  single := by
    intro pid other later otherLater found core alive found' core' alive'
    obtain ⟨process, present, rfl⟩ := Option.map_eq_some_iff.mp found
    obtain ⟨otherProcess, present', rfl⟩ := Option.map_eq_some_iff.mp found'
    exact tracked.single pid other process otherProcess present core alive present' core' alive'
  named := by
    intro assumed state loads
    obtain ⟨used, core⟩ := tracked.named assumed state loads
    refine ⟨used, fun later found same => ?_⟩
    obtain ⟨process, present, rfl⟩ := Option.map_eq_some_iff.mp found
    exact core process present same

/-- Where the cores are tracked and none waits for its record, calls can begin. -/
theorem Tracked.managed {world : World} (tracked : site.Tracked genuine world)
    (settled : Settled world) : site.Managed genuine world := by
  by_cases none : NoCore world
  · refine Or.inl ⟨world.state, world.pending, rfl, rfl, fun pid process found core alive => ?_,
      tracked.named⟩
    rw [none pid process found core] at alive
    cases alive
  · unfold NoCore at none
    push Not at none
    obtain ⟨pid, process, found, core, alive⟩ := none
    have alive : process.alive = true := Bool.not_eq_false _ |>.mp alive
    have known : ∀ pid process, world.processes pid = some process → process.core = true →
        process.alive = true → site.RecordedIn world.state pid process := by
      intro pid process found core alive
      rcases tracked.recorded pid process found core alive with ⟨recorded, -⟩ | ⟨-, isPending⟩
      · exact recorded
      · exact absurd isPending (settled pid process found core alive)
    obtain ⟨state, loads, held⟩ := known pid process found core alive
    refine Or.inr ⟨state, world.state, world.pending, loads, rfl, rfl, ?_, tracked.named⟩
    intro other later found' core' alive'
    obtain ⟨state', loads', held'⟩ := known other later found' core' alive'
    obtain rfl := Loads.unique loads loads'
    exact ⟨held', settled other later found' core' alive'⟩

/-- Nothing is forgotten: no core waits for its first record. -/
def Kept (world next : World) : Prop :=
  Settled world ∧ next = world

/-- A core whose first record will never be saved is given up: from then on it
counts as a process like any other. -/
structure Abandons (world next : World) : Prop where
  state : next.state = world.state
  used : next.used = world.used
  processes : ∀ pid later, next.processes pid = some later →
    ∃ process, world.processes pid = some process ∧
      (later = process ∨
        later = { process with core := false } ∧ world.pending pid process.ticks ∧
          process.core = true ∧ process.alive = true)
  pending : next.pending = world.pending
  settled : Settled next

theorem managed_of_kept {world next : World} (tracked : site.Tracked genuine world)
    (kept : Kept world next) : site.Managed genuine next :=
  kept.2 ▸ tracked.managed kept.1

theorem managed_of_abandons {world next : World} (tracked : site.Tracked genuine world)
    (abandons : Abandons world next) : site.Managed genuine next := by
  have core : ∀ pid later, next.processes pid = some later → later.core = true →
      world.processes pid = some later := by
    intro pid later found isCore
    obtain ⟨process, present, rfl | ⟨rfl, -⟩⟩ := abandons.processes pid later found
    · exact present
    · cases isCore
  refine Tracked.managed ⟨fun pid later found isCore alive => ?_, ?_, ?_⟩ abandons.settled
  · have known := tracked.recorded pid later (core pid later found isCore) isCore alive
    rwa [← abandons.state, ← abandons.pending] at known
  · intro pid other process otherProcess found isCore alive found' isCore' alive'
    exact tracked.single pid other process otherProcess (core pid process found isCore) isCore
      alive (core other otherProcess found' isCore') isCore' alive'
  · intro assumed state loads
    have identity := tracked.named assumed state (abandons.state ▸ loads)
    refine ⟨abandons.used ▸ identity.used, fun later found same => ?_⟩
    obtain ⟨process, present, rfl | ⟨rfl, isPending, isCore, alive⟩⟩ :=
      abandons.processes state.pid later found
    · exact identity.core later present same
    · -- A core whose record is pending is not named: there is no state file.
      rcases tracked.recorded state.pid process present isCore alive with ⟨-, settled⟩ | ⟨absent, -⟩
      · exact absurd isPending settled
      · obtain ⟨text, impossible, -⟩ := loads
        rw [abandons.state, absent] at impossible
        cases impossible

/-! ## Runs -/

/-- A call is made, and it returns or the controlling process is killed at one
of its steps; `left` tells what then becomes of the world. -/
def Leaves (site : Site) (left : World → World → Prop) (program : System α)
    (world next : World) : Prop :=
  ∃ rest later, Reaches site.around (program, world) (rest, later) ∧
    ((∃ value, rest = .done value) ∧ left later next ∨ left (orphaned later) next)

/-- The worlds between the calls of a run. -/
inductive Reachable (site : Site) (initial : World → Prop) (left : World → World → Prop) :
    World → Prop
  | initial {world : World} : initial world → Reachable site initial left world
  | drift {world next : World} :
      Reachable site initial left world → Drifts world next → Reachable site initial left next
  | start {world next : World} (fuel : Nat) : Reachable site initial left world →
      site.Leaves left (site.setup.start fuel) world next → Reachable site initial left next
  | stop {world next : World} : Reachable site initial left world →
      site.Leaves left site.setup.stop world next → Reachable site initial left next

theorem Managed.tame {world next : World} (managed : site.Managed genuine world)
    (tame : Tame world next) : site.Managed genuine next := by
  rcases managed with idle | ⟨state, held⟩
  · exact Or.inl (robust_someIdle.tame world next idle tame)
  · exact Or.inr ⟨state, (robust_held state).tame world next held tame⟩

/-- What a program that keeps the cores tracked leaves behind. -/
theorem managed_of_leaves {left : World → World → Prop} {program : System α}
    {post : α → World → Prop} {world next : World}
    (leftManaged : ∀ world next, site.Tracked genuine world → left world next →
      site.Managed genuine next)
    (safe : Safe site.around (site.tracking genuine) post program world)
    (leaves : site.Leaves left program world next) : site.Managed genuine next := by
  obtain ⟨rest, later, reaches, ⟨-, remains⟩ | remains⟩ := leaves
  · exact leftManaged later next (safe.of_reaches reaches).holds remains
  · have tracked : site.Tracked genuine later := (safe.of_reaches reaches).holds
    exact leftManaged _ next tracked.orphaned remains

/-- Between calls, the only core that may be alive is a recorded one. -/
theorem managed_of_reachable (faithful : site.Faithful) {initial : World → Prop}
    {left : World → World → Prop}
    (initially : ∀ world, initial world → site.Managed genuine world)
    (leftManaged : ∀ world next, site.Tracked genuine world → left world next →
      site.Managed genuine next)
    {world : World} (reachable : Reachable site initial left world) :
    site.Managed genuine world := by
  induction reachable with
  | initial holds => exact initially _ holds
  | drift _ drifts ih => exact ih.tame drifts.tame
  | start fuel _ leaves ih =>
      exact managed_of_leaves leftManaged (managed_start faithful fuel _ ih) leaves
  | stop _ leaves ih =>
      exact managed_of_leaves leftManaged (managed_stop faithful _ ih) leaves

theorem managed_of_noCore {world : World} (none : NoCore world)
    (named : genuine → Genuine world.state world) : site.Managed genuine world := by
  refine Or.inl ⟨world.state, world.pending, rfl, rfl,
    fun pid process found core alive => ?_, named⟩
  rw [none pid process found core] at alive
  cases alive

/-! ## The cores at every step -/

/-- The next step of the program is outside the window between the fork of a
core and its first record or the end of its clean-up.  A run that is followed
no further stands for the steps that longer runs have there. -/
def OutsideWindow : System α → Prop
  | .done _ => True
  | .call operation _ => ¬ InWindow operation
  | .cut => False

/-- Every core that is alive is the one the state file identifies, outside the
window, and there is at most one. -/
structure CoresKnown (rest : System α) (world : World) : Prop where
  recorded : ∀ pid process, world.processes pid = some process → process.core = true →
    process.alive = true →
      (∃ text, world.state = some text ∧ Identifies text pid process.ticks) ∨
        world.pending pid process.ticks ∧ ¬ OutsideWindow rest
  single : ∀ pid other process otherProcess,
    world.processes pid = some process → process.core = true → process.alive = true →
    world.processes other = some otherProcess → otherProcess.core = true →
    otherProcess.alive = true → pid = other

theorem identifies_of_recordedIn {content : Option Bytes} {pid : Int} {process : Process}
    (recorded : site.RecordedIn content pid process) :
    ∃ text, content = some text ∧ Identifies text pid process.ticks := by
  obtain ⟨state, ⟨text, same, parsed⟩, held⟩ := recorded
  exact ⟨text, same, state, parsed, held.pid.symm, held.ticks.symm⟩

theorem coresKnown_of_safe {post : α → World → Prop} {rest : System α} {world : World}
    (safe : Safe site.around (site.tracking genuine) post rest world)
    (settled : ∀ value, post value world → Settled world) : CoresKnown rest world where
  recorded := by
    intro pid process found core alive
    have tracked : site.Tracked genuine world := safe.holds
    rcases tracked.recorded pid process found core alive with ⟨recorded, -⟩ | ⟨-, isPending⟩
    · exact Or.inl (identifies_of_recordedIn recorded)
    refine Or.inr ⟨isPending, fun outside => ?_⟩
    cases rest with
    | done value => exact settled value safe.result pid process found core alive isPending
    | call operation next =>
        rcases safe.permits.1 with inWindow | settled
        · exact outside inWindow
        · exact settled pid process found core alive isPending
    | cut => exact outside
  single := Tracked.single safe.holds

theorem Managed.settled {world : World} (managed : site.Managed genuine world) :
    Settled world := by
  rcases managed with idle | ⟨state, held⟩
  · exact robust_someIdle.settled world idle
  · exact (robust_held state).settled world held

theorem Started.settled (mortal : site.faults.stubborn true = false)
    {result : Result ProxyStatus} {world : World} (started : site.Started genuine result world) :
    Settled world := by
  rcases result with failure | status
  · rcases started with idle | ⟨state, held, -⟩ | ⟨stubborn, -⟩
    · exact robust_someIdle.settled world idle
    · exact (robust_held state).settled world held
    · rw [mortal] at stubborn
      cases stubborn
  · obtain ⟨state, held, -⟩ := started
    exact (robust_held state).settled world held

theorem Stopped.settled {result : Result Unit} {world : World}
    (stopped : site.Stopped genuine result world) : Settled world := by
  rcases result with failure | _
  · exact Managed.settled stopped
  · exact (robust_idle none).settled world stopped

/-- In every run that starts with no core alive, at every step of every call:
each core that is alive is the one that the state file identifies, unless the
step is in the window between its fork and its first record or the end of its
clean-up; there is at most one; and a core is forked only while there is none.
A stop that succeeds leaves no core alive, and a start that succeeds leaves
none but the one it reports, recorded as running. -/
theorem cores_tracked (site : Site) (faithful : site.Faithful)
    (mortal : site.faults.stubborn true = false) {world : World}
    (reachable : Reachable site NoCore Kept world) :
    (∀ fuel rest later, Reaches site.around (site.setup.start fuel, world) (rest, later) →
        CoresKnown rest later) ∧
      (∀ rest later, Reaches site.around (site.setup.stop, world) (rest, later) →
        CoresKnown rest later) ∧
      (∀ fuel role next later,
        Reaches site.around (site.setup.start fuel, world) (.call (.fork role) next, later) →
          NoCore later) ∧
      (∀ later, Reaches site.around (site.setup.stop, world) (.done (.ok ()), later) →
        NoCore later) ∧
      ∀ fuel status later,
        Reaches site.around (site.setup.start fuel, world) (.done (.ok status), later) →
          ∀ pid process, later.processes pid = some process → process.core = true →
            process.alive = true → pid = status.pid ∧ ∃ state, Loads later.state state ∧
              state.pid = pid ∧ state.startTicks = process.ticks ∧
              state.phase = ascii "running" ∧ status = statusFromState state := by
  have managed : site.Managed False world :=
    managed_of_reachable faithful (fun _ none => managed_of_noCore none False.elim)
      (fun _ _ => managed_of_kept) reachable
  have starts (fuel : Nat) := managed_start faithful fuel world managed
  have stops := managed_stop faithful world managed
  refine ⟨fun fuel rest later reaches => ?_, fun rest later reaches => ?_,
    fun fuel role next later reaches => ?_, fun later reaches => ?_,
    fun fuel status later reaches pid process found core alive => ?_⟩
  · exact coresKnown_of_safe ((starts fuel).of_reaches reaches) fun _ => Started.settled mortal
  · exact coresKnown_of_safe (stops.of_reaches reaches) fun _ => Stopped.settled
  · exact ((starts fuel).of_reaches reaches).permits.2
  · have idle : site.Idle False none later := (stops.of_reaches reaches).result
    exact idle.noCore
  · obtain ⟨state, held, phase, rfl⟩ := ((starts fuel).of_reaches reaches).result
    have known := held.onlyHeld pid process found core alive
    exact ⟨known.pid, state, held.loads, known.pid.symm, known.ticks.symm, phase, rfl⟩

/-! ## Runs of the machine -/

section Machine

variable {mishaps : Mishaps} {faults : Faults} {machine : Machine} {initial : World → Prop}
variable {left : World → World → Prop}

theorem settled_world (saved : machine.unsaved = []) : Settled machine.world :=
  Machine.settled_of_unsaved saved

theorem abandons_of_settled {world : World} (settled : Settled world) : Abandons world world where
  state := rfl
  used := rfl
  processes := fun _ later found => ⟨later, found, Or.inl rfl⟩
  pending := rfl
  settled := settled

theorem noCore_empty : NoCore (Machine.world {}) :=
  Machine.noCore_world.mpr rfl

/-- The world after a start on the machine is one between calls. -/
theorem Reachable.started (within : mishaps.Within faults)
    (reachable : Reachable (shippedSite faults) initial left machine.world)
    (succeeds : (follow (Machine.respond mishaps) (shippedSetup.start 1) machine).1.outcome? =
      some true)
    (leaves : left (machine.started mishaps).world (machine.started mishaps).world) :
    Reachable (shippedSite faults) initial left (machine.started mishaps).world := by
  obtain ⟨status, reaches⟩ := Machine.exists_reaches_ok within succeeds
  exact .start 1 reachable ⟨_, _, reaches, Or.inl ⟨⟨.ok status, rfl⟩, leaves⟩⟩

end Machine

/-- No fault happens. -/
def faultless : Faults := {}

theorem faithful_faultless : (shippedSite faultless).Faithful :=
  ⟨rfl, rfl, rfl⟩

theorem within_faultless : Mishaps.Within {} faultless where
  records := nofun
  legible := fun _ _ => rfl
  stubborn := nofun

/-- After a start on the machine a core is alive, it is known at every step of
the next stop, and a stop that succeeds has ended it. -/
theorem cores_tracked_example :
    (∃ pid process, (Machine.started {} {}).world.processes pid = some process ∧
        process.core = true ∧ process.alive = true) ∧
      (∀ rest later, Reaches (shippedSite faultless).around
        (shippedSetup.stop, (Machine.started {} {}).world) (rest, later) →
          CoresKnown rest later) ∧
      ∀ later, Reaches (shippedSite faultless).around
        (shippedSetup.stop, (Machine.started {} {}).world) (.done (.ok ()), later) →
          NoCore later := by
  obtain ⟨ends, saved, serves⟩ := Machine.started_empty
  obtain ⟨state, process, -, found, -, core, alive⟩ := Machine.exists_of_coreServes serves
  have reachable : Reachable (shippedSite faultless) NoCore Kept (Machine.started {} {}).world :=
    Reachable.started within_faultless (.initial noCore_empty) ends
      ⟨settled_world saved, rfl⟩
  obtain ⟨-, known, -, ended, -⟩ :=
    cores_tracked (shippedSite faultless) faithful_faultless rfl reachable
  exact ⟨⟨state.pid, process, found, core, alive⟩, known, ended⟩

end Site

end TunProxy
