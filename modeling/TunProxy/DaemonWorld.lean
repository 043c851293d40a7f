import TunProxy.Daemon
import TunProxy.ProgramPool

/-!
# What the daemon's threads share

The mutexes with their holders, the name of the operation in progress and the
number of clients, and beside them a record of what each worker has done so
far.  Every thread is permitted the steps that its program makes; whatever the
order of the steps, they keep the shared state sound, and none changes what
another thread knows of itself.
-/

namespace TunProxy

open ByteText EffectProgram

inductive DaemonThread
  | main
  | worker (index : Nat)
  deriving DecidableEq, Repr

/-- How far a worker has come. -/
inductive WorkerStage
  | serving
  | closed
  | countedOff
  | ended
  deriving DecidableEq, Repr

/-- How far the main thread has come: it may have counted a client that has no
worker yet, or left the wait for the clients. -/
inductive MainStage
  | accepting
  | counted
  | left
  deriving DecidableEq, Repr

/-- What a worker has done so far. -/
structure WorkerRecord where
  stage : WorkerStage := .serving
  /-- The command that the controller executes for it now. -/
  executing : Option Command := none
  /-- Whether the controller was called for it. -/
  executed : Bool := false
  /-- Whether it found the operation mutex locked. -/
  refused : Bool := false
  /-- The name it read, and who held the operation mutex when it did. -/
  seen : Option (Bytes × Option (DaemonThread × Command)) := none
  sent : List IpcFrame := []
  deriving DecidableEq

/-- The client is still counted. -/
def WorkerRecord.counted (record : WorkerRecord) : Bool :=
  record.stage = .serving || record.stage = .closed

structure DaemonWorld where
  /-- Who holds the operation mutex, and for which command. -/
  operation : Option (DaemonThread × Command)
  nameMutex : Option DaemonThread
  activeName : Bytes
  clientsMutex : Option DaemonThread
  /-- A `std::size_t`; that it stays nonnegative is to be shown. -/
  activeClients : Int
  workers : List WorkerRecord
  main : MainStage

/-- The daemon when the accept loop begins. -/
def DaemonWorld.initial : DaemonWorld where
  operation := none
  nameMutex := none
  activeName := []
  clientsMutex := none
  activeClients := 0
  workers := []
  main := .accepting

namespace DaemonWorld

/-- The record of a worker. -/
def record? (world : DaemonWorld) : DaemonThread → Option WorkerRecord
  | .main => none
  | .worker index => world.workers[index]?

def updateRecord (world : DaemonWorld) (thread : DaemonThread)
    (change : WorkerRecord → WorkerRecord) : DaemonWorld :=
  match thread with
  | .main => world
  | .worker index => { world with workers := world.workers.modify index change }

/-- Whether a step can be made with the given answer. -/
def Possible (world : DaemonWorld) (operation : DaemonCall) (answer : DaemonAnswer operation) :
    Prop :=
  match operation, answer with
  | .tryLockOperation _, owned => owned = true → world.operation = none
  | .lockActiveName, _ => world.nameMutex = none
  | .readActiveName, text => text = world.activeName
  | .lockClients, _ => world.clientsMutex = none
  | .clientsFinished, finished => finished = decide (world.activeClients = 0)
  | .createWorker, .ok index => index = world.workers.length
  | _, _ => True

/-- What a step of a thread changes.  A lock that is only tried may be refused
for no reason. -/
def effect (thread : DaemonThread) (world : DaemonWorld) (operation : DaemonCall)
    (answer : DaemonAnswer operation) : DaemonWorld :=
  match operation, answer with
  | .createWorker, .ok _ => { world with workers := world.workers ++ [{}], main := .accepting }
  | .sendIpcFrame frame, _ =>
      world.updateRecord thread fun record => { record with sent := record.sent ++ [frame] }
  | .closeClient, _ => world.updateRecord thread fun record => { record with stage := .closed }
  | .tryLockOperation command, owned =>
      if owned then { world with operation := some (thread, command) }
      else world.updateRecord thread fun record => { record with refused := true }
  | .unlockOperation, _ => { world with operation := none }
  | .lockActiveName, _ => { world with nameMutex := some thread }
  | .readActiveName, text =>
      world.updateRecord thread fun record => { record with seen := some (text, world.operation) }
  | .writeActiveName text, _ => { world with activeName := text }
  | .unlockActiveName, _ => { world with nameMutex := none }
  | .lockClients, _ => { world with clientsMutex := some thread }
  | .incrementClients, _ =>
      { world with activeClients := world.activeClients + 1, main := .counted }
  | .decrementClients, _ =>
      match thread with
      | .main => { world with activeClients := world.activeClients - 1, main := .accepting }
      | .worker index => { world with
          activeClients := world.activeClients - 1
          workers := world.workers.modify index fun record => { record with stage := .countedOff } }
  | .unlockClients, _ => { world with clientsMutex := none }
  | .notifyClients, _ => world.updateRecord thread fun record => { record with stage := .ended }
  | .clientsFinished, finished => if finished then { world with main := .left } else world
  | .waitClients, _ => { world with clientsMutex := none }
  | .enterController command, _ => world.updateRecord thread fun record =>
      { record with executing := some command, executed := true }
  | .leaveController, _ => world.updateRecord thread fun record => { record with executing := none }
  | _, _ => world

end DaemonWorld

/-- The daemon as a pool of threads. -/
def daemonSystem (controller : Controller) :
    SharedSystem DaemonAnswer DaemonThread DaemonWorld where
  answers thread world operation answer next :=
    world.Possible operation answer ∧ next = world.effect thread operation answer
  creates operation answer :=
    match operation, answer with
    | .createWorker, .ok index => some (.worker index, worker controller)
    | _, _ => none

/-- The daemon at the beginning of the accept loop, run to some depth. -/
def daemonStart (controller : Controller) (fuel : Nat) :
    Pool DaemonAnswer DaemonThread DaemonWorld where
  programs
    | .main => daemonMain controller fuel
    | .worker _ => .done ()
  world := .initial

/-! ## Soundness of the shared state -/

/-- The text names an operation with the command. -/
def Names (text : Bytes) (command : Command) : Prop :=
  text = commandName command ∨ ∃ message, text = loggedName command message

/-- A worker executes a command that changes something only with the lock for
it, what it read names an operation that was in progress, and a refused worker
executes nothing and tells what it read. -/
structure WorkerRecord.Sound (record : WorkerRecord) (thread : DaemonThread)
    (operation : Option (DaemonThread × Command)) : Prop where
  executing : ∀ command, record.executing = some command →
    record.stage = .serving ∧ (isMutating command = true → operation = some (thread, command))
  seen : ∀ text holder, record.seen = some (text, holder) → text ≠ [] →
    ∃ index command, holder = some (.worker index, command) ∧ Names text command
  refused : record.refused = true → record.executed = false ∧ record.executing = none ∧
    ∀ frame ∈ record.sent, ∃ text holder, record.seen = some (text, holder) ∧
      frame = errorFrame (busyError text)

structure DaemonWorld.Sound (world : DaemonWorld) : Prop where
  owned : ∀ thread command, world.operation = some (thread, command) →
    isMutating command = true ∧ ∃ index, thread = .worker index ∧ index < world.workers.length
  named : world.activeName ≠ [] →
    ∃ thread command, world.operation = some (thread, command) ∧ Names world.activeName command
  records : ∀ (index : Nat) record, world.workers[index]? = some record →
    record.Sound (.worker index) world.operation
  counted : world.activeClients =
    (world.workers.countP WorkerRecord.counted : Int) + if world.main = .counted then 1 else 0
  left : world.main = .left → world.activeClients = 0

theorem DaemonWorld.sound_initial : DaemonWorld.initial.Sound where
  owned := fun _ _ impossible => nomatch impossible
  named := fun named => absurd rfl named
  records := fun index record member => by simp [DaemonWorld.initial] at member
  counted := rfl
  left := fun impossible => nomatch impossible

/-! ## What the threads may do -/

/-- A worker whose record satisfies a condition. -/
def DaemonWorld.Worker (world : DaemonWorld) (thread : DaemonThread)
    (holds : WorkerRecord → Prop) : Prop :=
  ∃ index record, thread = .worker index ∧ world.workers[index]? = some record ∧ holds record

/-- The thread has not come to its end. -/
def DaemonWorld.Live (thread : DaemonThread) (world : DaemonWorld) : Prop :=
  thread = .main ∨ world.Worker thread fun record => record.stage ≠ .ended

/-- The steps that a thread makes where it makes them. -/
def DaemonWorld.Permits (thread : DaemonThread) (world : DaemonWorld) : DaemonCall → Prop
  | .stopRequested | .pollListener | .acceptClient | .authorizeClient =>
      thread = .main ∧ world.main = .accepting
  | .createWorker => thread = .main ∧ world.main = .counted
  | .sendIpcFrame frame => thread = .main ∨ world.Worker thread fun record =>
      record.refused = true → ∃ text holder, record.seen = some (text, holder) ∧
        frame = errorFrame (busyError text)
  | .closeClient => thread = .main ∨ world.Worker thread fun record =>
      record.stage = .serving ∧ record.executing = none
  | .tryLockOperation command => isMutating command = true ∧ world.Worker thread fun record =>
      record.executed = false ∧ record.executing = none ∧ record.sent = []
  | .unlockOperation => world.Worker thread fun record =>
      record.executing = none ∧ world.activeName = [] ∧
        ∃ command, world.operation = some (thread, command)
  | .readActiveName => world.Worker thread fun record =>
      record.sent = [] ∧ world.nameMutex = some thread
  | .writeActiveName text => world.nameMutex = some thread ∧
      ∃ command, world.operation = some (thread, command) ∧ (text = [] ∨ Names text command)
  | .unlockActiveName => world.nameMutex = some thread
  | .incrementClients =>
      thread = .main ∧ world.main = .accepting ∧ world.clientsMutex = some thread
  | .decrementClients => world.clientsMutex = some thread ∧
      (thread = .main ∧ world.main = .counted ∨
        world.Worker thread fun record => record.stage = .closed ∧ record.executing = none)
  | .unlockClients => world.clientsMutex = some thread
  | .notifyClients => thread = .main ∨ world.Worker thread fun record =>
      record.stage = .countedOff ∧ record.executing = none
  | .clientsFinished =>
      thread = .main ∧ world.main = .accepting ∧ world.clientsMutex = some thread
  | .waitClients => thread = .main ∧ world.clientsMutex = some thread
  | .enterController command => thread = .main ∧ world.main = .left ∨
      world.Worker thread fun record => record.stage = .serving ∧ record.executing = none ∧
        record.refused = false ∧
        (isMutating command = true → world.operation = some (thread, command))
  | .system _ => thread = .main ∧ world.main = .left ∨
      world.Worker thread fun record => record.executing.isSome
  | .leaveController => thread = .main ∧ world.main = .left ∨
      world.Worker thread fun record => record.executing.isSome
  | .stateFileExists => thread = .main ∧ world.main = .left
  | _ => True

/-- What a thread knows of itself, and no other thread changes. -/
structure ThreadView where
  record : Option WorkerRecord
  /-- The command it holds the operation mutex for, with the active name. -/
  held : Option (Command × Bytes)
  hasName : Bool
  hasClients : Bool
  main : Option MainStage

def DaemonWorld.view (thread : DaemonThread) (world : DaemonWorld) : ThreadView where
  record := world.record? thread
  held := world.operation.bind fun holder =>
    if holder.1 = thread then some (holder.2, world.activeName) else none
  hasName := world.nameMutex == some thread
  hasClients := world.clientsMutex == some thread
  main := if thread = .main then some world.main else none

end TunProxy
