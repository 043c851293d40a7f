import TunProxy.CommandController
import TunProxy.HarmlessCalls
import TunProxy.LockedPool

/-!
# Commands of several processes

Commands are executed by any number of processes and threads at once.  Each
execution that changes something opens the lock file for itself and holds its
lock meanwhile; the kernel takes the lock from a process that is killed.  What
an execution does without the lock is to look around, and to make the
directory of the lock file.
-/

namespace TunProxy

open ByteText EffectProgram

/-! ## The lock file as a lock -/

/-- The calls that a command may make without the lock. -/
def AppPaths.Looks (paths : AppPaths) : SystemCall → Prop
  | .readTextFile _ => True
  | .emitLog _ _ => True
  | .kill _ signal => signal = .null
  | .readExecutableLink _ => True
  | .weaklyCanonical _ => True
  | .lstat _ => True
  | .getifaddrs => True
  | .mkdir path _ => path <+: paths.runtimeDir
  | .chmod path _ => path = paths.runtimeDir
  | _ => False

instance (paths : AppPaths) (operation : SystemCall) : Decidable (paths.Looks operation) :=
  match operation with
  | .readTextFile _ | .emitLog _ _ | .readExecutableLink _ | .weaklyCanonical _ | .lstat _
  | .getifaddrs => isTrue trivial
  | .kill _ signal => inferInstanceAs (Decidable (signal = .null))
  | .mkdir path _ => inferInstanceAs (Decidable (path <+: paths.runtimeDir))
  | .chmod path _ => inferInstanceAs (Decidable (path = paths.runtimeDir))
  | .writeFileAtomic _ _ _ | .removeFile _ | .sleepFor _ | .steadyClock | .waitpid _ _
  | .ifNameToIndex _ | .mknod _ _ _ | .geteuid | .getpid | .listDirectory _ | .remove _
  | .removeAll _ | .rename _ _ | .openCore _ | .openCoreLog | .pipe | .fork _
  | .pollHandshake _ | .readHandshake _ | .getaddrinfo _ _ | .exchangeGreeting _
  | .runCapture _ | .setNonBlocking _ | .readAvailable _ | .pollOutput => isFalse not_false

/-- The system around a command: the lock file changes nothing else. -/
def commandAround {World : Type} (around : Surroundings SystemAnswer World) :
    Surroundings CommandAnswer World where
  answers world operation answer next :=
    match operation, answer with
    | .system operation, answer => around.answers world operation answer next
    | .openLock _, _ | .tryFlock, _ | .flock, _ | .unlock, _ | .closeLock, _ => next = world
  drift := around.drift

/-- What is watched of a command's calls to the system, which are all that it
makes under the lock. -/
def commandWatch {World : Type} (watch : Watch SystemCall World) : Watch CommandCall World where
  holds := watch.holds
  permits world operation :=
    match operation with
    | .system operation => watch.permits world operation
    | _ => False
  cuts := watch.cuts

/-- The lock of the lock file.  Closing its descriptor gives it back as well. -/
def commandLock {World : Type} (paths : AppPaths) (around : Surroundings SystemAnswer World)
    (adopts : World → World → Prop) (abandonable : World → Prop) : Lock CommandAnswer World where
  around := commandAround around
  grants operation answer :=
    match operation, answer with
    | .tryFlock, .locked | .flock, .locked => True
    | _, _ => False
  releases
    | .unlock | .closeLock => True
    | _ => False
  changes
    | .system operation => ¬ paths.Looks operation
    | _ => False
  adopts := adopts
  abandonable := abandonable

/-- A command with its argument, run to some depth. -/
structure Execution where
  fuel : Nat
  command : Command
  argument : Bytes

def Execution.program (paths : AppPaths) (execution : Execution) : CommandProgram Unit :=
  (paths.execute execution.fuel execution.command execution.argument).bind fun _ => .done ()

/-- Executions of commands that have yet to begin. -/
def commandPool {Thread World : Type} (paths : AppPaths) (executions : Thread → Execution)
    (world : LockedWorld Thread World) : Pool CommandAnswer Thread (LockedWorld Thread World) where
  programs thread := (executions thread).program paths
  world := world

/-! ## What a command does without the lock -/

/-- The calls by which a command only looks around. -/
def Reads : SystemCall → Prop
  | .readTextFile _ => True
  | .kill _ signal => signal = .null
  | .readExecutableLink _ => True
  | .weaklyCanonical _ => True
  | .lstat _ => True
  | .getifaddrs => True
  | _ => False

theorem AppPaths.looks_of_reads {paths : AppPaths} {operation : SystemCall}
    (reads : Reads operation) : paths.Looks operation := by
  cases operation with
  | readTextFile file => trivial
  | kill pid signal => exact reads
  | readExecutableLink pid => trivial
  | weaklyCanonical path => trivial
  | lstat path => trivial
  | getifaddrs => trivial
  | _ => exact reads.elim

theorem reads_hasRecordedIdentity (state : RuntimeState) :
    (hasRecordedIdentity state).Calls Reads := by
  refine Calls.bind ⟨trivial, fun _ => trivial⟩ fun ticks => ?_
  refine Calls.ite trivial ?_
  refine Calls.bind ⟨trivial, fun _ => trivial⟩ fun actualExecutable => ?_
  exact Calls.bind ⟨trivial, fun _ => trivial⟩ fun expected => Calls.ite trivial trivial

theorem reads_isManagedProcessRunning (state : RuntimeState) :
    (isManagedProcessRunning state).Calls Reads := by
  refine Calls.bind ⟨rfl, fun _ => trivial⟩ fun probe => ?_
  cases probe with
  | delivered => exact reads_hasRecordedIdentity state
  | notPermitted => exact reads_hasRecordedIdentity state
  | noProcess => trivial
  | failed => trivial

theorem reads_loadState : loadState.Calls Reads :=
  ⟨trivial, fun _ => trivial⟩

theorem Setup.reads_status (setup : Setup) : setup.status.Calls Reads := by
  refine Calls.bind ⟨trivial, fun _ => trivial⟩ fun configured => ?_
  refine Calls.bind ⟨trivial, fun _ => trivial⟩ fun installed => ?_
  refine reads_loadState.bind fun loaded => ?_
  cases loaded with
  | error failure => trivial
  | ok state =>
      refine (reads_isManagedProcessRunning state).bind fun running => ?_
      rcases running with failure | running
      · trivial
      cases running with
      | false => trivial
      | true => exact Calls.ite trivial trivial

theorem Setup.reads_executeStatus (setup : Setup) (argument : Bytes) :
    (setup.executeStatus argument).Calls Reads := by
  unfold Setup.executeStatus
  split
  · trivial
  · exact setup.reads_status.andThen fun status => trivial

theorem Setup.reads_executeBypass (setup : Setup) (argument : Bytes) :
    (setup.executeBypass argument).Calls Reads := by
  unfold Setup.executeBypass
  split
  · trivial
  refine setup.reads_status.andThen fun status => Calls.ite trivial ?_
  refine Calls.bind ⟨trivial, fun _ => trivial⟩ fun interfaces => ?_
  split
  · trivial
  · trivial

theorem Setup.reads_executeGetSetting (argument : Bytes) :
    (Setup.executeGetSetting argument).Calls Reads := by
  unfold Setup.executeGetSetting
  split
  · trivial
  · exact Calls.andThen ⟨trivial, fun _ => trivial⟩ fun current => trivial

/-- Making the directories on a way changes no mode before the last. -/
theorem keepsModes_ensureComponents (mode : Nat) (current : Path) (components : List Bytes) :
    (ensureComponents mode current components).Calls fun operation =>
      ∀ path mode, operation ≠ .chmod path mode := by
  induction components generalizing current with
  | nil => trivial
  | cons component rest ih =>
      unfold ensureComponents
      refine Calls.ite trivial ⟨by simp, fun answer => ?_⟩
      cases answer with
      | found status => exact Calls.ite (ih _) trivial
      | failed detail => trivial
      | missing =>
          refine ⟨by simp, fun made => ?_⟩
          cases made with
          | failed detail => trivial
          | created | present =>
              refine ⟨by simp, fun answer => ?_⟩
              cases answer with
              | found status => exact Calls.ite (ih _) trivial
              | failed detail => trivial
              | missing => trivial

/-- The directory of the lock file is made without the lock. -/
theorem AppPaths.looks_ensureDirectory (paths : AppPaths) (mode : Nat) :
    (ensureDirectory paths.runtimeDir mode).Calls paths.Looks := by
  unfold ensureDirectory
  refine Calls.ite trivial (Calls.andThen ?_ fun _ => ⟨rfl, fun answer => ?_⟩)
  · have way := makesWay_ensureComponents mode [] (List.nil_append paths.runtimeDir)
    refine (way.and (keepsModes_ensureComponents mode [] paths.runtimeDir)).imp ?_
    rintro operation ⟨makes, keeps⟩
    cases operation with
    | lstat path => trivial
    | mkdir path mode => exact makes
    | chmod path mode => exact absurd rfl (keeps path mode)
    | _ => exact makes.elim
  · cases answer with
    | ok done => trivial
    | error detail => trivial

/-! ## Calls to the system as steps of a command -/

/-- A call to the system that is allowed. -/
def OnSystem (allowed : SystemCall → Prop) : CommandCall → Prop
  | .system operation => allowed operation
  | _ => False

theorem calls_ofSystem {α : Type} {allowed : SystemCall → Prop} {program : System α}
    (calls : program.Calls allowed) :
    (CommandProgram.ofSystem program).Calls (OnSystem allowed) := by
  apply Calls.expand _ calls
  exact fun operation may => ⟨may, fun _ => trivial⟩

/-- A command that changes nothing keeps away from the lock file. -/
theorem AppPaths.reads_execute (paths : AppPaths) (fuel : Nat) {command : Command}
    (reading : isMutating command = false) (argument : Bytes) :
    (paths.execute fuel command argument).Calls (OnSystem Reads) := by
  cases command with
  | status => exact calls_ofSystem (paths.setup.reads_executeStatus argument)
  | bypass => exact calls_ofSystem (paths.setup.reads_executeBypass argument)
  | getSetting => exact calls_ofSystem (Setup.reads_executeGetSetting argument)
  | on | off | setSetting => cases reading

theorem safe_ofSystem {World α : Type} {around : Surroundings SystemAnswer World}
    {watch : Watch SystemCall World} {post : α → World → Prop} {program : System α} {world : World}
    (safe : Safe around watch post program world) :
    Safe (commandAround around) (commandWatch watch) post (CommandProgram.ofSystem program)
      world := by
  induction program generalizing world with
  | done value => exact safe
  | call operation rest ih =>
      intro later drifts
      obtain ⟨holds, permits, answered⟩ := safe later drifts
      exact ⟨holds, permits, fun answer next answers => ih answer (answered answer next answers)⟩
  | cut => exact safe

/-! ## The steps of a command under the lock -/

section Steps

variable {Thread World : Type} {paths : AppPaths} {around : Surroundings SystemAnswer World}
variable {adopts : World → World → Prop} {abandonable : World → Prop}
variable {watch : Watch SystemCall World} {invariant : World → Prop} {thread : Thread}

/-- The lock file guards the invariant, and looking changes nothing. -/
structure LockFileGuards (paths : AppPaths) (around : Surroundings SystemAnswer World)
    (adopts : World → World → Prop) (abandonable : World → Prop)
    (watch : Watch SystemCall World) (invariant : World → Prop) : Prop where
  guards : (commandLock paths around adopts abandonable).Guards (commandWatch watch) invariant
  looking : ∀ world operation answer next, paths.Looks operation →
    around.answers world operation answer next → next = world

/-- From `pre` a part of a command ends with `post`, beside the other commands. -/
abbrev Beside (paths : AppPaths) (around : Surroundings SystemAnswer World)
    (adopts : World → World → Prop) (abandonable : World → Prop)
    (watch : Watch SystemCall World) (invariant : World → Prop) (thread : Thread) {α : Type}
    (pre : LockedWorld Thread World → Prop) (program : CommandProgram α)
    (post : α → LockedWorld Thread World → Prop) : Prop :=
  Triple ((commandLock paths around adopts abandonable).beside (commandWatch watch) invariant
      thread)
    ((commandLock paths around adopts abandonable).watching (commandWatch watch) invariant thread)
    pre program post

/-- Without the lock. -/
abbrev Without (watch : Watch SystemCall World) (invariant : World → Prop) (thread : Thread) :
    LockedWorld Thread World → Prop :=
  Lock.Before (commandWatch watch) invariant thread

/-- With the lock, where the invariant holds. -/
abbrev Within (watch : Watch SystemCall World) (invariant : World → Prop) (thread : Thread) :
    LockedWorld Thread World → Prop :=
  Lock.Inside (commandWatch watch) invariant invariant thread

abbrev Ended (watch : Watch SystemCall World) (invariant : World → Prop) (thread : Thread) :
    LockedWorld Thread World → Prop :=
  Lock.Outside (commandWatch watch) invariant thread

theorem idle_looking (guards : LockFileGuards paths around adopts abandonable watch invariant)
    {operation : CommandCall} (looks : OnSystem paths.Looks operation) :
    (commandLock paths around adopts abandonable).Idle operation := by
  cases operation with
  | system operation =>
      exact ⟨fun _ => not_false, not_false, fun changes => changes looks,
        fun world answer next => guards.looking world operation answer next looks⟩
  | _ => exact looks.elim

theorem beside_looking (guards : LockFileGuards paths around adopts abandonable watch invariant)
    {α : Type} {program : CommandProgram α} (looks : program.Calls (OnSystem paths.Looks)) :
    Beside paths around adopts abandonable watch invariant thread (Without watch invariant thread)
      program fun _ => Without watch invariant thread :=
  Lock.triple_before guards.guards (looks.imp fun _ => idle_looking guards)

/-- How the lock has been acquired, or not. -/
def Acquired (watch : Watch SystemCall World) (invariant : World → Prop) (thread : Thread) :
    Result Unit → LockedWorld Thread World → Prop
  | .ok _ => Within watch invariant thread
  | .error _ => Ended watch invariant thread

theorem beside_acquired (guards : LockFileGuards paths around adopts abandonable watch invariant) :
    Beside paths around adopts abandonable watch invariant thread (Within watch invariant thread)
      (.done (.ok ())) (Acquired watch invariant thread) :=
  Triple.done (fun _ _ inside relies => inside.relies guards.guards.stable relies)
    (fun _ inside => inside.1) fun _ => id

theorem beside_failed {failure : Error} :
    Beside paths around adopts abandonable watch invariant thread (Ended watch invariant thread)
      (.done (.error failure)) (Acquired watch invariant thread) :=
  Triple.done (fun _ _ outside relies => outside.relies relies) (fun _ outside => outside.1)
    fun _ => id

/-- Without the lock, closing the lock file gives nothing back. -/
theorem beside_closeLock (guards : LockFileGuards paths around adopts abandonable watch invariant)
    {α : Type} {post : α → LockedWorld Thread World → Prop} {rest : CommandProgram α}
    (ended : Beside paths around adopts abandonable watch invariant thread
      (Ended watch invariant thread) rest post) :
    Beside paths around adopts abandonable watch invariant thread (Without watch invariant thread)
      (.call .closeLock fun _ => rest) post := by
  have releases : (commandLock paths around adopts abandonable).releases .closeLock := trivial
  have closed := Lock.triple_release guards.guards releases (fun _ => not_false) fun _ => ended
  exact closed.weaken fun _ without => without.outside.yielding

/-- Trying to lock the file: it is locked, or nothing has changed. -/
theorem beside_try (guards : LockFileGuards paths around adopts abandonable watch invariant)
    {α : Type} {post : α → LockedWorld Thread World → Prop} {operation : CommandCall}
    {rest : CommandAnswer operation → CommandProgram α}
    (tries : operation = .tryFlock ∨ operation = .flock)
    (locked : ∀ answer, (commandLock paths around adopts abandonable).grants operation answer →
      Beside paths around adopts abandonable watch invariant thread (Within watch invariant thread)
        (rest answer) post)
    (refused : ∀ answer, ¬ (commandLock paths around adopts abandonable).grants operation answer →
      Beside paths around adopts abandonable watch invariant thread (Without watch invariant thread)
        (rest answer) post) :
    Beside paths around adopts abandonable watch invariant thread (Without watch invariant thread)
      (.call operation rest) post := by
  apply Lock.triple_try guards.guards
  · rcases tries with rfl | rfl
    · exact not_false
    · exact not_false
  · rcases tries with rfl | rfl
    · exact not_false
    · exact not_false
  · rcases tries with rfl | rfl
    · exact fun _ _ _ _ same => same
    · exact fun _ _ _ _ same => same
  · exact locked
  · exact refused

/-- Waiting for the lock, however often it is interrupted. -/
theorem beside_waitLoop (guards : LockFileGuards paths around adopts abandonable watch invariant)
    (fuel : Nat) :
    Beside paths around adopts abandonable watch invariant thread (Without watch invariant thread)
      (iterate FileLock.waitStep fuel ()) (Acquired watch invariant thread) := by
  have stable : Stable ((commandLock paths around adopts abandonable).beside (commandWatch watch)
      invariant thread) (Without watch invariant thread) :=
    fun _ _ without relies => without.relies relies
  apply Triple.iterate (fun _ => stable) (fun _ _ without => without.1) trivial
  intro state
  apply beside_try guards (Or.inr rfl)
  · intro answer granted
    cases answer with
    | locked =>
        apply Triple.done (fun _ _ inside relies => inside.relies guards.guards.stable relies)
          fun _ inside => inside.1
        exact beside_acquired guards
    | wouldBlock | interrupted | failed => exact granted.elim
  · intro answer refused
    cases answer with
    | locked => exact absurd trivial refused
    | interrupted => exact Triple.done stable (fun _ without => without.1) fun _ => id
    | wouldBlock | failed =>
        apply beside_closeLock guards
        apply Triple.done (fun _ _ outside relies => outside.relies relies)
          fun _ outside => outside.1
        exact beside_failed

theorem beside_acquire (guards : LockFileGuards paths around adopts abandonable watch invariant)
    (fuel : Nat) (message : Bytes) :
    Beside paths around adopts abandonable watch invariant thread (Without watch invariant thread)
      (FileLock.acquire fuel paths.lockFile (CommandProgram.ofSystem (emitLog .info message)))
      (Acquired watch invariant thread) := by
  have directory : paths.lockFile.dropLast = paths.runtimeDir := by simp [AppPaths.lockFile]
  have failed (failure : Error) : Beside paths around adopts abandonable watch invariant thread
      (Without watch invariant thread) (.done (.error failure))
      (Acquired watch invariant thread) :=
    beside_failed.weaken fun _ without => without.outside
  have opening : (commandLock paths around adopts abandonable).Idle (.openLock paths.lockFile) :=
    ⟨fun _ => not_false, not_false, not_false, fun _ _ _ same => same⟩
  have opened : Beside paths around adopts abandonable watch invariant thread
      (Without watch invariant thread) (.call (.openLock paths.lockFile) .done)
      fun _ => Without watch invariant thread :=
    Lock.triple_before guards.guards ⟨opening, fun _ => trivial⟩
  have waits : (CommandProgram.ofSystem (emitLog .info message)).Calls (OnSystem paths.Looks) :=
    calls_ofSystem ⟨trivial, fun _ => trivial⟩
  unfold FileLock.acquire
  rw [directory]
  apply (beside_looking guards (calls_ofSystem (paths.looks_ensureDirectory 0o755))).andThen
  · intro made
    apply opened.bind
    intro found
    cases found with
    | false => exact failed _
    | true =>
        apply beside_try guards (Or.inl rfl)
        · intro answer granted
          cases answer with
          | locked => exact beside_acquired guards
          | wouldBlock | interrupted | failed => exact granted.elim
        · intro answer refused
          cases answer with
          | locked => exact absurd trivial refused
          | wouldBlock =>
              exact (beside_looking guards waits).bind fun _ => beside_waitLoop guards fuel
          | interrupted | failed => exact beside_waitLoop guards fuel
  · intro failure
    exact failed failure

theorem beside_release (guards : LockFileGuards paths around adopts abandonable watch invariant) :
    Beside paths around adopts abandonable watch invariant thread (Within watch invariant thread)
      FileLock.release fun _ => Ended watch invariant thread := by
  have unlocks : (commandLock paths around adopts abandonable).releases .unlock := trivial
  have closes : (commandLock paths around adopts abandonable).releases .closeLock := trivial
  have closed : Beside paths around adopts abandonable watch invariant thread
      (Lock.Yielding (commandWatch watch) invariant thread) (.call .closeLock .done)
      fun _ => Ended watch invariant thread :=
    Lock.triple_release guards.guards closes (fun _ => not_false) fun _ => Lock.triple_done_outside
  have given := Lock.triple_release guards.guards unlocks (fun _ => not_false)
    fun _ => closed.weaken fun _ ended => ended.yielding
  exact given.weaken fun _ inside => inside.yielding

/-- A command runs under the lock as it runs alone. -/
theorem beside_underLock (guards : LockFileGuards paths around adopts abandonable watch invariant)
    (fuel : Nat) {program : System (Result Bytes)}
    (alone : Triple around watch invariant program fun _ => invariant) :
    Beside paths around adopts abandonable watch invariant thread (Without watch invariant thread)
      (paths.underLock fuel program) fun _ => Ended watch invariant thread := by
  have apart : (CommandProgram.ofSystem program).Calls fun operation =>
      (∀ answer, ¬ (commandLock paths around adopts abandonable).grants operation answer) ∧
        ¬ (commandLock paths around adopts abandonable).releases operation := by
    refine (calls_ofSystem (calls_true program)).imp fun operation onSystem => ?_
    cases operation with
    | system operation => exact ⟨fun _ => not_false, not_false⟩
    | _ => exact onSystem.elim
  have inside : Beside paths around adopts abandonable watch invariant thread
      (Within watch invariant thread) (CommandProgram.ofSystem program)
      fun _ => Within watch invariant thread := by
    apply (Lock.triple_inside guards.guards apart).weaken
    intro world within
    exact ⟨within.1, fun alive =>
      ⟨(within.2 alive).1, safe_ofSystem (alone _ (within.2 alive).2)⟩⟩
  apply (beside_acquire guards fuel _).andThen
  · intro acquired
    apply inside.bind
    intro result
    apply (beside_release guards).bind
    intro released
    exact Lock.triple_done_outside
  · intro failure
    exact Lock.triple_done_outside

/-- What the commands that change something do alone. -/
structure KeepAlone (paths : AppPaths) (around : Surroundings SystemAnswer World)
    (watch : Watch SystemCall World) (invariant : World → Prop) : Prop where
  on : ∀ fuel argument, Triple around watch invariant (paths.setup.executeOn fuel argument)
    fun _ => invariant
  off : ∀ argument, Triple around watch invariant (paths.setup.executeOff argument)
    fun _ => invariant
  setSetting : ∀ argument, Triple around watch invariant (paths.setup.executeSetSetting argument)
    fun _ => invariant

theorem beside_execution (guards : LockFileGuards paths around adopts abandonable watch invariant)
    (alone : KeepAlone paths around watch invariant) (execution : Execution) :
    Beside paths around adopts abandonable watch invariant thread (Without watch invariant thread)
      (execution.program paths) fun _ => Ended watch invariant thread := by
  have reads {program : CommandProgram (Result Bytes)} (calls : program.Calls (OnSystem Reads)) :
      Beside paths around adopts abandonable watch invariant thread
        (Without watch invariant thread) program fun _ => Ended watch invariant thread := by
    have looks : program.Calls (OnSystem paths.Looks) := by
      refine calls.imp fun operation reads => ?_
      cases operation with
      | system operation => exact paths.looks_of_reads reads
      | _ => exact reads
    exact (beside_looking guards looks).imp fun _ _ without => without.outside
  obtain ⟨fuel, command, argument⟩ := execution
  have executed : Beside paths around adopts abandonable watch invariant thread
      (Without watch invariant thread) (paths.execute fuel command argument)
      fun _ => Ended watch invariant thread := by
    cases command with
    | status => exact reads (paths.reads_execute fuel rfl argument)
    | bypass => exact reads (paths.reads_execute fuel rfl argument)
    | getSetting => exact reads (paths.reads_execute fuel rfl argument)
    | setSetting => exact beside_underLock guards fuel (alone.setSetting argument)
    | off => exact beside_underLock guards fuel (alone.off argument)
    | on => exact beside_underLock guards fuel (alone.on fuel argument)
  exact executed.bind fun _ => Lock.triple_done_outside

/-- However the commands take turns and whichever of them are killed, all of
them are safe. -/
theorem keeps_commandPool [DecidableEq Thread]
    (guards : LockFileGuards paths around adopts abandonable watch invariant)
    (alone : KeepAlone paths around watch invariant) {executions : Thread → Execution}
    {world : LockedWorld Thread World} (fresh : Lock.Fresh (commandWatch watch) invariant world)
    {last : Pool CommandAnswer Thread (LockedWorld Thread World)}
    (reaches : Pool.Reaches (commandLock paths around adopts abandonable).system
      (commandPool paths executions world) last) :
    (commandLock paths around adopts abandonable).Keeps (commandWatch watch) invariant last :=
  Lock.Keeps.of_reaches guards.guards fresh
    (fun thread => beside_execution guards alone (executions thread)) reaches

end Steps

/-! ## Commands exclude each other -/

/-- A system that may answer anything at any time. -/
def anyAnswer : Surroundings SystemAnswer Unit where
  answers _ _ _ _ := True
  drift _ _ := False

/-- The lock file, whatever the system answers and wherever a process is killed. -/
abbrev lockFile (paths : AppPaths) : Lock CommandAnswer Unit :=
  commandLock paths anyAnswer (fun _ _ => True) fun _ => True

theorem lockFileGuards_answering (paths : AppPaths) :
    LockFileGuards paths anyAnswer (fun _ _ => True) (fun _ => True) unwatched fun _ => True where
  guards := {
    stable := fun _ _ _ _ => trivial
    steady := fun _ _ _ _ => trivial
    watched := fun _ _ => trivial
    adopted := fun _ _ _ _ => trivial
    abandoned := fun _ _ _ => trivial }
  looking := fun _ _ _ _ _ _ => rfl

theorem keepAlone_answering (paths : AppPaths) :
    KeepAlone paths anyAnswer unwatched fun _ => True where
  on := fun _ _ world _ => safe_unwatched anyAnswer _ world
  off := fun _ world _ => safe_unwatched anyAnswer _ world
  setSetting := fun _ world _ => safe_unwatched anyAnswer _ world

section Exclusion

variable {Thread : Type} [DecidableEq Thread] {paths : AppPaths} {executions : Thread → Execution}
variable {pool last : Pool CommandAnswer Thread (LockedWorld Thread Unit)}

omit [DecidableEq Thread] in
/-- Nothing beside the threads gives one of them the lock. -/
theorem holder_of_interferes {world next : LockedWorld Thread Unit} {thread : Thread}
    (interferes : Relation.ReflTransGen (lockFile paths).Interferes world next)
    (holds : next.holder = some thread) : world.holder = some thread := by
  induction interferes with
  | refl => exact holds
  | tail _ interferes ih =>
      apply ih
      cases interferes with
      | drift => exact holds
      | kill => exact holds
      | killHolder => cases holds

/-- A command that changes nothing never has the lock. -/
theorem reader_without {thread : Thread}
    (reading : isMutating (executions thread).command = false)
    {world : LockedWorld Thread Unit} (free : world.holder = none)
    (reaches : Pool.Reaches (lockFile paths).system (commandPool paths executions world) last) :
    (last.programs thread).Calls (OnSystem Reads) ∧ last.world.holder ≠ some thread := by
  induction reaches with
  | refl =>
      have reads :=
        paths.reads_execute (executions thread).fuel reading (executions thread).argument
      exact ⟨reads.bind fun _ => trivial, by simp [commandPool, free]⟩
  | @tail middle last _ steps ih =>
      obtain ⟨mover, moves⟩ := steps
      obtain ⟨reads, without⟩ := ih
      cases moves with
      | @answer operation rest answer next running answers =>
          obtain ⟨before, after, moved, -, acts, interferes⟩ := answers
          have without (holds : before.holder = some thread) : False :=
            without (holder_of_interferes moved holds)
          change Calls _ (Function.update middle.programs mover (rest answer) thread) ∧ _
          by_cases mine : thread = mover
          · subst mine
            rw [running] at reads
            refine ⟨by simpa using reads.2 answer, fun holds => without ?_⟩
            have held := holder_of_interferes interferes holds
            have onSystem := reads.1
            cases operation with
            | system operation =>
                cases acts with
                | grant granted => exact granted.elim
                | release released => exact released.elim
                | releaseNothing => exact held
                | act => exact held
                | change => exact held
            | _ => exact onSystem.elim
          · refine ⟨by simpa [mine] using reads, fun holds => without ?_⟩
            have held := holder_of_interferes interferes holds
            cases acts with
            | grant => exact absurd (Option.some.inj held).symm mine
            | release => cases held
            | releaseNothing => exact held
            | act => exact held
            | change => exact held

/-- Commands are executed by any number of processes, in any order of their
steps, whatever the system answers, and any of them may be killed at any time.
A command that is about to do more than look has the lock, so that at any time
it is the only one; the changes of two commands never alternate; and what has
the lock is a command that changes something and has not come to its end. -/
theorem commands_exclude {world : LockedWorld Thread Unit}
    (fresh : Lock.Fresh (commandWatch unwatched) (fun _ => True) world)
    (reaches : Pool.Reaches (lockFile paths).system (commandPool paths executions world) last) :
    (∀ thread operation rest, thread ∉ last.world.killed →
        last.programs thread = .call (.system operation) rest → ¬ paths.Looks operation →
          last.world.holder = some thread) ∧
      InARow last.world.changers ∧
      ∀ thread, last.world.holder = some thread →
        isMutating (executions thread).command = true ∧ last.programs thread ≠ .done () := by
  have keeps := keeps_commandPool (lockFileGuards_answering paths) (keepAlone_answering paths) fresh
    reaches
  refine ⟨fun thread operation rest alive running changes => ?_, ?_, fun thread holds => ⟨?_, ?_⟩⟩
  · exact (Lock.Keeps.permitted keeps running alive).changed changes not_false
  · exact (Lock.Keeps.sound keeps fresh reaches).row
  · cases mutating : isMutating (executions thread).command with
    | true => rfl
    | false => exact absurd holds (reader_without mutating fresh.free reaches).2
  · exact Lock.Keeps.not_done keeps holds

/-- One command switches off while another sets the upstream. -/
def contenders : Bool → Execution
  | false => ⟨1, .off, []⟩
  | true => ⟨1, .setSetting, ascii "socks5://127.0.0.1:1080"⟩

/-- What a system answers that has a directory for the lock file and no state
file. -/
def contendAlive (thread : Bool) (world : LockedWorld Bool Unit) :
    (operation : CommandCall) → Option (CommandAnswer operation × LockedWorld Bool Unit)
  | .system (.lstat _) => some (.found ⟨.directory, 0, 0⟩, world)
  | .system (.chmod path _) =>
      if path = defaultPaths.runtimeDir then some (.ok (), world) else none
  | .system (.emitLog _ _) => some ((), world)
  | .system (.readTextFile _) => some (.error (makeError .generic (ascii "open")), world)
  | .openLock _ => some (true, world)
  | .tryFlock =>
      if world.holder = none then some (.locked, { world with holder := some thread })
      else some (.wouldBlock, world)
  | _ => none

def contend (thread : Bool) (world : LockedWorld Bool Unit) (operation : CommandCall) :
    Option (CommandAnswer operation × LockedWorld Bool Unit) :=
  if thread ∈ world.killed then none else contendAlive thread world operation

theorem contend_within (thread : Bool) (world : LockedWorld Bool Unit) (operation : CommandCall)
    (answer : CommandAnswer operation) (next : LockedWorld Bool Unit)
    (responded : contend thread world operation = some (answer, next)) :
    (lockFile defaultPaths).system.answers thread world operation answer next := by
  unfold contend at responded
  split at responded
  · cases responded
  next alive =>
    refine ⟨world, next, .refl, alive, ?_, .refl⟩
    unfold contendAlive at responded
    split at responded
    · cases responded
      exact .act not_false not_false (fun changes => changes trivial) trivial
    · split at responded
      next same =>
        cases responded
        exact .act not_false not_false (fun changes => changes same) trivial
      next => cases responded
    · cases responded
      exact .act not_false not_false (fun changes => changes trivial) trivial
    · cases responded
      exact .act not_false not_false (fun changes => changes trivial) trivial
    · cases responded
      exact .act not_false not_false not_false rfl
    · split at responded
      next free =>
        cases responded
        exact .grant trivial free trivial
      next =>
        cases responded
        exact .act not_false not_false not_false rfl
    · cases responded

/-- The commands after six steps each. -/
def contended : Pool CommandAnswer Bool (LockedWorld Bool Unit) :=
  (commandPool defaultPaths contenders ⟨(), none, [], [], []⟩).play (lockFile defaultPaths).system
    contend (List.replicate 6 false ++ List.replicate 6 true)

theorem contended_removes :
    ∃ rest, contended.programs false = .call (.system (.removeFile .state)) rest :=
  ⟨_, rfl⟩

theorem contended_waits : ∃ rest, contended.programs true = .call .flock rest :=
  ⟨_, rfl⟩

theorem contended_killed : contended.world.killed = [] :=
  rfl

/-- The first command has the lock and is about to remove the state file, while
the second waits. -/
theorem commands_exclude_example : ∃ last : Pool CommandAnswer Bool (LockedWorld Bool Unit),
    (∃ rest, last.programs false = .call (.system (.removeFile .state)) rest) ∧
      (∃ rest, last.programs true = .call .flock rest) ∧ last.world.holder = some false := by
  have fresh : Lock.Fresh (commandWatch unwatched) (fun _ => True)
      (⟨(), none, [], [], []⟩ : LockedWorld Bool Unit) :=
    ⟨trivial, rfl, rfl, rfl⟩
  have reaches := Pool.reaches_play contend_within
    (commandPool defaultPaths contenders ⟨(), none, [], [], []⟩)
    (List.replicate 6 false ++ List.replicate 6 true)
  obtain ⟨rest, removes⟩ := contended_removes
  have alive : false ∉ contended.world.killed := contended_killed ▸ List.not_mem_nil
  exact ⟨contended, ⟨rest, removes⟩, contended_waits,
    (commands_exclude fresh reaches).1 false _ rest alive removes not_false⟩

end Exclusion

end TunProxy
