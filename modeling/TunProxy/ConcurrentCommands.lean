import TunProxy.OperationLock
import TunProxy.ProxyRuns

/-!
# The cores under concurrent commands

Any number of commands of any kind are executed at once.  The lock file makes
the starts and stops among them follow each other, so that what a start or a
stop alone keeps true of the cores is true at every step of all commands
together.
-/

namespace TunProxy

open ByteText EffectProgram

namespace Site

variable {site : Site} {genuine : Prop}

/-! ## What the lock hands over -/

/-- The world as another process finds it, which has children of its own. -/
structure Reparents (world next : World) : Prop where
  state : next.state = world.state
  pending : next.pending = world.pending
  used : next.used = world.used
  processes : ∀ pid later, next.processes pid = some later →
    ∃ process child, world.processes pid = some process ∧ later = { process with child := child }

theorem Genuine.reparents {content : Option Bytes} {world next : World}
    (genuine : Genuine content world) (reparents : Reparents world next) :
    Genuine content next := by
  intro state loads
  obtain ⟨used, core⟩ := genuine state loads
  refine ⟨reparents.used ▸ used, fun later found same => ?_⟩
  obtain ⟨process, child, present, rfl⟩ := reparents.processes _ later found
  exact core process present same

theorem HeldBy.reparent {state : RuntimeState} {pid : Int} {process : Process}
    (held : site.HeldBy state pid process) (child : Bool) :
    site.HeldBy state pid { process with child := child } :=
  ⟨held.pid, held.ticks, held.executed, held.executable, held.recorded, held.legible, held.positive,
    held.bounds⟩

/-- What is known between calls does not depend on whose children the processes
are. -/
theorem Managed.reparents {world next : World} (managed : site.Managed genuine world)
    (reparents : Reparents world next) : site.Managed genuine next := by
  rcases managed with ⟨content, pending, holds⟩ | ⟨state, content, pending, loads, holds⟩
  · refine Or.inl ⟨content, pending, reparents.state.trans holds.state,
      reparents.pending.trans holds.pending, fun pid later found core alive => ?_,
      fun assumed => (holds.named assumed).reparents reparents⟩
    obtain ⟨process, child, present, rfl⟩ := reparents.processes pid later found
    exact holds.cores pid process present core alive
  · refine Or.inr ⟨state, content, pending, loads, reparents.state.trans holds.state,
      reparents.pending.trans holds.pending, fun pid later found core alive => ?_,
      fun assumed => (holds.named assumed).reparents reparents⟩
    obtain ⟨process, child, present, rfl⟩ := reparents.processes pid later found
    obtain ⟨held, settled⟩ := holds.cores pid process present core alive
    exact ⟨held.reparent child, settled⟩

theorem Tracked.tame {world next : World} (tracked : site.Tracked genuine world)
    (tame : Tame world next) : site.Tracked genuine next := by
  have before (pid : Int) (later : Process) (found : next.processes pid = some later)
      (core : later.core = true) (alive : later.alive = true) :
      ∃ process, world.processes pid = some process ∧ process.Becomes later ∧
        process.core = true ∧ process.alive = true := by
    rcases tame.processes pid later found with ⟨process, present, becomes⟩ | ⟨-, -, -, foreign⟩
    · exact ⟨process, present, becomes, becomes.core.symm.trans core, becomes.alive alive⟩
    · rw [core] at foreign
      cases foreign
  constructor
  · intro pid later found core alive
    obtain ⟨process, present, becomes, wasCore, wasAlive⟩ := before pid later found core alive
    rw [tame.state, tame.pending, becomes.ticks]
    refine (tracked.recorded pid process present wasCore wasAlive).imp_left ?_
    rintro ⟨⟨state, loads, held⟩, settled⟩
    exact ⟨⟨state, loads, held.becomes wasCore becomes⟩, settled⟩
  · intro pid other later otherLater found core alive found' core' alive'
    obtain ⟨process, present, -, wasCore, wasAlive⟩ := before pid later found core alive
    obtain ⟨otherProcess, present', -, wasCore', wasAlive'⟩ :=
      before other otherLater found' core' alive'
    exact tracked.single pid other process otherProcess present wasCore wasAlive present' wasCore'
      wasAlive'
  · intro assumed
    rw [tame.state]
    exact (tracked.named assumed).tame tame

theorem robust_managed : Robust site genuine (site.Managed genuine) where
  tame := fun _ _ managed tame => managed.tame tame
  tracked := by
    rintro world (idle | ⟨state, held⟩)
    · exact robust_someIdle.tracked world idle
    · exact (robust_held state).tracked world held
  settled := fun _ managed => managed.settled

/-! ## The commands alone -/

theorem managed_of_started (mortal : site.faults.stubborn true = false)
    {result : Result ProxyStatus} {world : World} (started : site.Started genuine result world) :
    site.Managed genuine world := by
  cases result with
  | ok status =>
      obtain ⟨state, held, -⟩ := started
      exact Or.inr ⟨state, held⟩
  | error failure =>
      rcases started with idle | ⟨state, held, -⟩ | ⟨stubborn, -⟩
      · exact Or.inl idle
      · exact Or.inr ⟨state, held⟩
      · rw [mortal] at stubborn
        cases stubborn

theorem managed_of_stopped {result : Result Unit} {world : World}
    (stopped : site.Stopped genuine result world) : site.Managed genuine world := by
  cases result with
  | ok done => exact Or.inl ⟨none, stopped⟩
  | error failure => exact stopped

theorem managed_done {α : Type} {value : α} :
    site.Keeps genuine (site.Managed genuine) (.done value) fun _ => site.Managed genuine :=
  keeps_done robust_managed.steady fun _ => id

theorem harmless_executeSetSetting (setup : Setup) (argument : Bytes) :
    (setup.executeSetSetting argument).Calls Harmless := by
  unfold Setup.executeSetSetting
  refine Calls.ite trivial ?_
  split
  · trivial
  refine Calls.andThen ?_ fun saved => trivial
  unfold Setup.saveConfig
  split
  · trivial
  · exact (harmless_ensureDirectory _ _).andThen fun made => ⟨trivial, fun _ => trivial⟩

theorem keepAlone_managed (faithful : site.Faithful)
    (mortal : site.faults.stubborn true = false)
    (shipped : site.setup.manifest = kSingBoxRelease) :
    KeepAlone site.setup.paths site.around (site.tracking genuine) (site.Managed genuine) := by
  have setup : site.setup.paths.setup = site.setup := by
    rw [AppPaths.setup, ← shipped]
  constructor
  · intro fuel argument
    rw [setup]
    unfold Setup.executeOn
    split
    · exact managed_done
    · apply ((managed_start faithful fuel).imp fun _ _ => managed_of_started mortal).andThen
      · exact fun started => managed_done
      · exact fun failure => managed_done
  · intro argument
    rw [setup]
    unfold Setup.executeOff
    split
    · exact managed_done
    · apply ((managed_stop faithful).imp fun _ _ => managed_of_stopped).andThen
      · exact fun stopped => managed_done
      · exact fun failure => managed_done
  · intro argument
    exact keeps_harmless robust_managed (harmless_executeSetSetting _ argument)

/-! ## The lock file guards the cores -/

/-- The lock file, where a process is killed only outside the time between the
fork of a core and its first record. -/
abbrev lockFile (site : Site) : Lock CommandAnswer World :=
  commandLock site.setup.paths site.around Reparents Settled

/-- Looking changes nothing. -/
theorem answers_looking {world next : World} {operation : SystemCall}
    {answer : SystemAnswer operation} (looks : site.setup.paths.Looks operation)
    (answers : site.around.answers world operation answer next) : next = world := by
  cases operation with
  | readTextFile file => exact answers.2
  | emitLog level message => exact answers
  | kill pid signal =>
      obtain rfl : signal = .null := looks
      change site.AnswersKill world pid .null answer next at answers
      unfold AnswersKill at answers
      split at answers
      · exact answers.2
      · rcases answers with ⟨-, ⟨same, -⟩ | ⟨impossible, -⟩⟩ | ⟨-, impossible, -⟩
        · exact same
        · cases impossible
        · exact absurd rfl impossible
  | readExecutableLink pid => exact answers.2
  | weaklyCanonical path => exact answers.2
  | lstat path => exact answers
  | getifaddrs => exact answers
  | mkdir path mode => exact answers
  | chmod path mode => exact answers
  | _ => exact looks.elim

theorem lockFileGuards_managed : LockFileGuards site.setup.paths site.around Reparents Settled
    (site.tracking genuine) (site.Managed genuine) where
  guards := {
    stable := fun _ _ managed drifts => managed.tame drifts.tame
    steady := fun _ _ tracked drifts => Tracked.tame tracked drifts.tame
    watched := robust_managed.tracked
    adopted := fun _ _ managed reparents => managed.reparents reparents
    abandoned := fun _ tracked settled => Tracked.managed tracked settled }
  looking := fun _ _ _ _ => answers_looking

/-- The next step of the command is outside the window between the fork of a
core and its first record or the end of its clean-up. -/
def LeavesWindow : CommandProgram Unit → Prop
  | .call (.system operation) _ => ¬ InWindow operation
  | .cut => False
  | _ => True

section Cores

variable {Thread : Type} [DecidableEq Thread] {executions : Thread → Execution}
variable {last : Pool CommandAnswer Thread (LockedWorld Thread World)}

omit [DecidableEq Thread] in
/-- A core that waits for its first record is one of the command that has the
lock, and this is in the window. -/
theorem settled_of_leavesWindow {thread : Thread}
    (keeps : site.lockFile.Keeps (commandWatch (site.tracking genuine)) (site.Managed genuine) last)
    (holds : last.world.holder = some thread) (alive : thread ∉ last.world.killed)
    (leaves : LeavesWindow (last.programs thread)) : Settled last.world.shared := by
  cases running : last.programs thread with
  | done value => exact absurd running (Lock.Keeps.not_done keeps holds)
  | call operation rest =>
      have permits := Lock.Keeps.permitted keeps running alive
      rw [running] at leaves
      cases operation with
      | system operation =>
          rcases (permits.inside not_false holds).1.1 with inWindow | settled
          · exact absurd inWindow leaves
          · exact settled
      | unlock => exact (permits.released trivial holds).settled
      | closeLock => exact (permits.released trivial holds).settled
      | openLock path => exact (permits.inside not_false holds).1.elim
      | tryFlock => exact (permits.inside not_false holds).1.elim
      | flock => exact (permits.inside not_false holds).1.elim
  | cut =>
      rw [running] at leaves
      exact leaves.elim

/-- Commands are executed by any number of processes in any order of their
steps, and any of them may be killed, but for one between the fork of a core and
its first record.  At every step of all of them, each core that is alive is the
one that the state file identifies, unless the command that has the lock is in
that window; there is at most one core alive; and a process is forked only by
the command that has the lock, while no core is alive. -/
theorem cores_tracked_concurrently (site : Site) (faithful : site.Faithful)
    (mortal : site.faults.stubborn true = false)
    (shipped : site.setup.manifest = kSingBoxRelease) {world : LockedWorld Thread World}
    (idle : NoCore world.shared) (free : world.holder = none) (past : world.past = [])
    (changers : world.changers = [])
    (reaches : Pool.Reaches site.lockFile.system
      (commandPool site.setup.paths executions world) last) :
    (∀ pid process, last.world.shared.processes pid = some process → process.core = true →
        process.alive = true →
        (∃ text, last.world.shared.state = some text ∧ Identifies text pid process.ticks) ∨
          last.world.shared.pending pid process.ticks ∧
            ∃ thread, last.world.holder = some thread ∧ ¬ LeavesWindow (last.programs thread)) ∧
      (∀ pid other process otherProcess,
        last.world.shared.processes pid = some process → process.core = true →
        process.alive = true →
        last.world.shared.processes other = some otherProcess → otherProcess.core = true →
        otherProcess.alive = true → pid = other) ∧
      ∀ thread role rest, thread ∉ last.world.killed →
        last.programs thread = .call (.system (.fork role)) rest →
          last.world.holder = some thread ∧ NoCore last.world.shared := by
  have managed : site.Managed False world.shared := managed_of_noCore idle False.elim
  have fresh : Lock.Fresh (commandWatch (site.tracking False)) (site.Managed False) world :=
    ⟨managed, free, past, changers⟩
  have keeps := keeps_commandPool lockFileGuards_managed
    (keepAlone_managed faithful mortal shipped) fresh reaches
  have sound := Lock.Keeps.sound keeps fresh reaches
  have tracked : site.Tracked False last.world.shared := by
    cases holder : last.world.holder with
    | none => exact robust_managed.tracked _ (sound.free holder)
    | some thread => exact sound.held thread holder
  refine ⟨fun pid process found core alive => ?_, tracked.single,
    fun thread role rest alive running => ?_⟩
  · rcases tracked.recorded pid process found core alive with ⟨recorded, -⟩ | ⟨-, isPending⟩
    · exact Or.inl (identifies_of_recordedIn recorded)
    right
    refine ⟨isPending, ?_⟩
    cases holder : last.world.holder with
    | none =>
        exact absurd isPending ((sound.free holder).settled pid process found core alive)
    | some thread =>
        refine ⟨thread, rfl, fun leaves => ?_⟩
        have settled := settled_of_leavesWindow keeps holder (sound.present thread holder).2 leaves
        exact settled pid process found core alive isPending
  · have permits := Lock.Keeps.permitted keeps running alive
    have holds := permits.changed (fun looks => looks.elim) not_false
    exact ⟨holds, (permits.inside not_false holds).1.2⟩

end Cores

/-! ## Two commands on the machine -/

section Machine

/-- The world that a machine with a lock file is in. -/
def machineView (world : LockedWorld Bool Machine) : LockedWorld Bool World :=
  { world with shared := world.shared.world }

/-- The thread has made a call to the system. -/
def recordCall (thread : Bool) (operation : SystemCall) (world : LockedWorld Bool Machine) :
    LockedWorld Bool Machine :=
  if defaultPaths.Looks operation then world
  else { world with changers := world.changers ++ [thread] }

/-- What the machine answers to commands; the lock is granted when it is free. -/
def respondAlive (thread : Bool) (world : LockedWorld Bool Machine) :
    (operation : CommandCall) → Option (CommandAnswer operation × LockedWorld Bool Machine)
  | .system operation => (world.shared.respond {} operation).map fun reply =>
      (reply.1, recordCall thread operation { world with shared := reply.2 })
  | .openLock _ => some (true, world)
  | .tryFlock =>
      if world.holder = none then some (.locked, { world with holder := some thread })
      else some (.wouldBlock, world)
  | .flock =>
      if world.holder = none then some (.locked, { world with holder := some thread }) else none
  | .unlock | .closeLock =>
      some ((), if world.holder = some thread then world.release thread else world)

def respondCommand (thread : Bool) (world : LockedWorld Bool Machine) (operation : CommandCall) :
    Option (CommandAnswer operation × LockedWorld Bool Machine) :=
  if thread ∈ world.killed then none else respondAlive thread world operation

/-- The lock file of the shipped program, where nothing goes wrong. -/
abbrev faultlessLock : Lock CommandAnswer World :=
  (shippedSite faultless).lockFile

/-- The machine answers a call to the system after its world has moved by itself. -/
theorem answers_respondSystem {thread : Bool} {world : LockedWorld Bool Machine}
    {operation : SystemCall} {answer : SystemAnswer operation} {next : Machine}
    (alive : thread ∉ world.killed)
    (responded : world.shared.respond {} operation = some (answer, next)) :
    faultlessLock.system.answers thread (machineView world) (.system operation) answer
      (machineView (recordCall thread operation { world with shared := next })) := by
  obtain ⟨later, drifts, answers⟩ :=
    Machine.respond_within within_faultless world.shared operation answer next responded
  let before : LockedWorld Bool World := { machineView world with shared := later }
  have moved : Relation.ReflTransGen faultlessLock.Interferes (machineView world) before := by
    refine Relation.ReflTransGen.lift
      (fun shared : World => { machineView world with shared := shared }) ?_ _ _ drifts
    exact fun _ _ drift => .drift drift
  refine ⟨before, _, moved, alive, ?_, .refl⟩
  unfold recordCall
  split
  next looks => exact .act not_false not_false (fun changes => changes looks) answers
  next changes => exact .change not_false not_false changes answers

theorem respondCommand_within (thread : Bool) (world : LockedWorld Bool Machine)
    (operation : CommandCall) (answer : CommandAnswer operation) (next : LockedWorld Bool Machine)
    (responded : respondCommand thread world operation = some (answer, next)) :
    faultlessLock.system.answers thread (machineView world) operation answer
      (machineView next) := by
  unfold respondCommand at responded
  split at responded
  · cases responded
  next alive =>
    unfold respondAlive at responded
    split at responded
    next operation =>
      obtain ⟨reply, replied, same⟩ := Option.map_eq_some_iff.mp responded
      cases same
      exact answers_respondSystem alive replied
    · cases responded
      exact ⟨_, _, .refl, alive, .act not_false not_false not_false rfl, .refl⟩
    · split at responded
      next free =>
        cases responded
        exact ⟨_, _, .refl, alive, .grant trivial free
          ⟨rfl, rfl, rfl, fun _ process found => ⟨process, process.child, found, rfl⟩⟩, .refl⟩
      next =>
        cases responded
        exact ⟨_, _, .refl, alive, .act not_false not_false not_false rfl, .refl⟩
    · split at responded
      next free =>
        cases responded
        exact ⟨_, _, .refl, alive, .grant trivial free
          ⟨rfl, rfl, rfl, fun _ process found => ⟨process, process.child, found, rfl⟩⟩, .refl⟩
      next => cases responded
    all_goals
      cases responded
      split
      next holds => exact ⟨_, _, .refl, alive, .release trivial holds, .refl⟩
      next free => exact ⟨_, _, .refl, alive, .releaseNothing trivial free, .refl⟩

/-- One command switches on while another one wants to switch off. -/
def rivals : Bool → Execution
  | false => ⟨1, .on, []⟩
  | true => ⟨1, .off, []⟩

/-- The first command has done what it has to do under the lock, and the second
waits for it. -/
@[irreducible] def contested : Pool CommandAnswer Bool (LockedWorld Bool Machine) :=
  (commandPool defaultPaths rivals ⟨{}, none, [], [], []⟩).play
    ⟨fun _ _ _ _ _ => False, fun _ _ => none⟩ respondCommand
    (List.replicate 5 false ++ List.replicate 6 true ++ List.replicate 36 false)

/-- The command is about to give the lock back. -/
def Unlocks : CommandProgram Unit → Bool
  | .call .unlock _ => true
  | _ => false

/-- The command waits for the lock. -/
def Waits : CommandProgram Unit → Bool
  | .call .flock _ => true
  | _ => false

theorem contested_spec : Unlocks (contested.programs false) = true ∧
    Waits (contested.programs true) = true ∧ contested.world.holder = some false ∧
      contested.world.shared.coreAlive = true := by
  decide +kernel

theorem leavesWindow_of_unlocks {program : CommandProgram Unit} (unlocks : Unlocks program = true) :
    LeavesWindow program := by
  cases program with
  | done value => cases unlocks
  | call operation rest =>
      cases operation with
      | unlock => trivial
      | _ => cases unlocks
  | cut => cases unlocks

/-- The commands as they stand in the world. -/
def contestedPool : Pool CommandAnswer Bool (LockedWorld Bool World) where
  programs := contested.programs
  world := machineView contested.world

theorem contestedPool_reached : Pool.Reaches faultlessLock.system
    (commandPool defaultPaths rivals (machineView ⟨{}, none, [], [], []⟩)) contestedPool := by
  unfold contestedPool contested
  exact Pool.reaches_play_of_view machineView rfl respondCommand_within
    (commandPool defaultPaths rivals ⟨{}, none, [], [], []⟩) _

/-- When the first command is about to give the lock back and the second waits
for it, a core is alive, and the state file identifies it. -/
theorem cores_tracked_concurrently_example :
    ∃ last : Pool CommandAnswer Bool (LockedWorld Bool World),
      Waits (last.programs true) = true ∧
        ∃ pid process, last.world.shared.processes pid = some process ∧ process.core = true ∧
          process.alive = true ∧
          ∃ text, last.world.shared.state = some text ∧ Identifies text pid process.ticks := by
  obtain ⟨unlocks, waits, holder, coreAlive⟩ := contested_spec
  obtain ⟨known, -, -⟩ := cores_tracked_concurrently (shippedSite faultless) faithful_faultless rfl
    rfl noCore_empty rfl rfl rfl contestedPool_reached
  obtain ⟨pid, process, found, core, alive⟩ := Machine.exists_of_coreAlive coreAlive
  refine ⟨contestedPool, waits, pid, process, found, core, alive, ?_⟩
  rcases known pid process found core alive with identified | ⟨-, thread, holds, inWindow⟩
  · exact identified
  · obtain rfl := Option.some.inj (holder.symm.trans holds)
    exact absurd (leavesWindow_of_unlocks unlocks) inWindow

end Machine

end Site

end TunProxy
