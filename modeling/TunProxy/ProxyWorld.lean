import TunProxy.LaunchPlans

/-!
# The processes around the proxy manager

The world in which cores are started and stopped: the state file, the process
table, the TUN interface.  Processes exit whenever they like, other programs
come and go, the TUN interface appears and disappears.  A process is the same
one as long as its pid and its start time are, and no start time is used twice
with one pid.
-/

namespace TunProxy

open ByteText EffectProgram

/-- A process; what is no longer `alive` is a zombie until it is reaped. -/
structure Process where
  ticks : Nat
  /-- The canonical path of the program it executes, or is about to. -/
  executable : Bytes
  /-- Whether `exec` has taken place. -/
  executed : Bool
  /-- Forked to become a core. -/
  core : Bool
  /-- Forked by the present controlling process, and not yet reaped. -/
  child : Bool
  alive : Bool
  /-- How many polling intervals it outlives the signal that kills it. -/
  doomed : Option Nat
  deriving DecidableEq, Repr

structure World where
  state : Option Bytes
  processes : Int → Option Process
  /-- The identities that processes have had so far. -/
  used : Int → Nat → Prop
  /-- The cores forked whose first record has not been saved. -/
  pending : Int → Nat → Prop
  tun : Bool
  /-- The TUN was looked for and not found while no core was alive, after the
  last core was forked. -/
  observedAbsent : Prop

/-- What may go wrong around the program. -/
structure Faults where
  /-- The state file may fail to be read, or be read in part. -/
  records : Bool := false
  /-- So may what the kernel tells of processes. -/
  processes : Bool := false
  /-- The processes, by pid and start time, whose start time is never told: so it
  may turn out for a core when it is started. -/
  hidden : Int → Nat → Bool := fun _ _ => false
  /-- An interface may fail to be looked up, which looks as if it were absent. -/
  lookups : Bool := false
  /-- A signal may interrupt a blocking wait. -/
  interrupts : Bool := false
  /-- Which cores may outlive a kill signal for as long as it is waited for:
  the argument tells whether the core's first record is still to be saved. -/
  stubborn : Bool → Bool := fun _ => false

/-- The world's fixed features. -/
structure Site where
  setup : Setup
  faults : Faults
  /-- The canonical form of a path. -/
  canonical : Bytes → Bytes
  plain : setup.Plain
  canonicalPath : ∀ path, path ≠ [] → canonical path ≠ []
  /-- The kernel marks removed executables by this suffix only. -/
  plainCore : ¬ deletedSuffix <:+ canonical setup.corePath.text

/-- The state file and what the kernel tells of processes are read in full, and no
blocking wait is interrupted. -/
structure Site.Faithful (site : Site) : Prop where
  records : site.faults.records = false
  processes : site.faults.processes = false
  interrupts : site.faults.interrupts = false

/-- The state file records a process. -/
def Loads (content : Option Bytes) (state : RuntimeState) : Prop :=
  ∃ text, content = some text ∧ parseState (.ok text) = .ok state

/-- The text names the identity of a process. -/
def Identifies (text : Bytes) (pid : Int) (ticks : Nat) : Prop :=
  ∃ state, parseState (.ok text) = .ok state ∧ state.pid = pid ∧ state.startTicks = ticks

/-- No core is alive. -/
def NoCore (world : World) : Prop :=
  ∀ pid process, world.processes pid = some process → process.core → process.alive = false

def World.setProcess (world : World) (pid : Int) (process : Option Process) : World :=
  { world with processes := fun other => if other = pid then process else world.processes other }

/-! ## Changes of the process table -/

/-- A later condition of the same process. -/
structure Process.Becomes (first later : Process) : Prop where
  ticks : later.ticks = first.ticks
  core : later.core = first.core
  child : later.child = first.child
  executable : first.core = true → later.executable = first.executable
  executed : first.executed = true → later.executed = true
  alive : later.alive = true → first.alive = true

theorem Process.Becomes.refl (process : Process) : process.Becomes process :=
  ⟨rfl, rfl, rfl, fun _ => rfl, id, id⟩

/-- A change that forks no core and leaves the state file alone. -/
structure Tame (world next : World) : Prop where
  state : next.state = world.state
  pending : next.pending = world.pending
  used : ∀ pid ticks, world.used pid ticks → next.used pid ticks
  processes : ∀ pid later, next.processes pid = some later →
    (∃ process, world.processes pid = some process ∧ process.Becomes later) ∨
      world.processes pid = none ∧ ¬ world.used pid later.ticks ∧ next.used pid later.ticks ∧
        later.core = false

/-- What the world does by itself. -/
structure Drifts (world next : World) : Prop where
  tame : Tame world next
  /-- A child is there until it is reaped. -/
  children : ∀ pid process, world.processes pid = some process → process.child = true →
    ∃ later, next.processes pid = some later ∧ process.Becomes later
  doomed : ∀ pid process later, world.processes pid = some process →
    next.processes pid = some later → process.Becomes later → later.doomed = process.doomed
  observed : next.observedAbsent = world.observedAbsent

/-! ## Answers -/

/-- A polling interval passes: doomed processes come closer to their end. -/
def Process.tick (process : Process) : Process :=
  match process.doomed with
  | none => process
  | some 0 => { process with alive := false }
  | some (left + 1) => { process with doomed := some left }

def World.tick (world : World) : World :=
  { world with processes := fun pid => (world.processes pid).map Process.tick }

namespace Site

variable (site : Site)

/-- A process that the kill signal may fail to end in time. -/
def Resists (world : World) (pid : Int) (process : Process) : Prop :=
  (∃ hard, site.faults.stubborn hard = true ∧ (hard = true ↔ world.pending pid process.ticks))

/-- How a signal to a process may be answered.  A process that does not resist
is dead within 19 polling intervals of the kill signal. -/
def AnswersKill (world : World) (pid : Int) (signal : Signal) (answer : KillAnswer)
    (next : World) : Prop :=
  match world.processes pid with
  | none => answer = .noProcess ∧ next = world
  | some process =>
      answer = .delivered ∧
          (next = world ∧ (signal = .kill → process.alive = true → site.Resists world pid process) ∨
            signal = .kill ∧ ∃ left ≤ 18,
              next = world.setProcess pid (some { process with doomed := some left })) ∨
        (answer = .notPermitted ∨ answer = .failed) ∧ signal ≠ .null ∧ next = world ∧
          site.Resists world pid process

/-- How waiting for a process may be answered.  Only a zombie child is reaped,
and a blocking wait goes on while the child is alive, unless it is interrupted. -/
def AnswersWait (world : World) (pid : Int) (option : WaitOption) (answer : WaitAnswer)
    (next : World) : Prop :=
  match answer with
  | .reaped _ => (∃ process, world.processes pid = some process ∧ process.child = true ∧
      process.alive = false) ∧ next = world.setProcess pid none
  | .noChild => (∀ process, world.processes pid = some process → process.child = false) ∧
      next = world
  | .running | .failed => option = .noHang ∧ next = world
  | .interrupted => (option = .noHang ∨ site.faults.interrupts = true) ∧ next = world

/-- How a text file may be read. -/
def AnswersRead (world : World) (file : TextFile) (answer : Result Bytes) : Prop :=
  match file with
  | .state => (match answer with
      | .ok text => ∃ content, world.state = some content ∧
          (text = content ∨ site.faults.records = true ∧ text <+: content)
      | .error _ => world.state = none ∨ site.faults.records = true)
  | .processStat pid => (match answer with
      | .ok text => ∃ process content, world.processes pid = some process ∧
          site.faults.hidden pid process.ticks = false ∧ StatText content process.ticks ∧
          (text = content ∨ site.faults.processes = true ∧ text <+: content)
      | .error _ => (∀ process, world.processes pid = some process →
          site.faults.hidden pid process.ticks = true) ∨ site.faults.processes = true)
  | .config | .tunSysfs => True

/-- What the link to a process's executable may read: a zombie has none. -/
def AnswersLink (world : World) (pid : Int) (answer : Bytes) : Prop :=
  site.faults.processes = true ∧ answer = [] ∨
    match world.processes pid with
    | none => answer = []
    | some process =>
        if process.alive then
          process.executed = true →
            answer = process.executable ∨ answer = process.executable ++ deletedSuffix
        else answer = []

/-- The outcome of forking: a core is a child with a fresh identity. -/
def AnswersFork (world : World) (role : ChildRole) (answer : Except Bytes Int) (next : World) :
    Prop :=
  match role, answer with
  | .core executable _, .ok pid =>
      0 < pid ∧ pid < 2 ^ 31 ∧ world.processes pid = none ∧
        ∃ ticks, 0 < ticks ∧ ticks < 2 ^ 63 ∧ ¬ world.used pid ticks ∧
          next = { world.setProcess pid (some {
              ticks := ticks
              executable := site.canonical executable.text
              executed := false
              core := true
              child := true
              alive := true
              doomed := none }) with
            used := fun other time => other = pid ∧ time = ticks ∨ world.used other time
            pending := fun other time => other = pid ∧ time = ticks ∨ world.pending other time
            observedAbsent := False }
  | _, _ => next = world

/-- How the calls of the program may be answered, and what they change. -/
def Answers (world : World) (call : SystemCall) (answer : SystemAnswer call) (next : World) :
    Prop :=
  match call, answer with
  | .readTextFile file, answer => site.AnswersRead world file answer ∧ next = world
  | .writeFileAtomic .state contents _, answer =>
      match answer with
      | .ok () => next = { world with
          state := some contents
          pending := fun pid ticks => world.pending pid ticks ∧ ¬ Identifies contents pid ticks }
      | .error _ => next = world
  | .removeFile .state, answer =>
      match answer with
      | .removed => next = { world with state := none }
      | .absent => world.state = none ∧ next = world
      | .failed _ => next = world
  | .kill pid signal, answer => site.AnswersKill world pid signal answer next
  | .waitpid pid option, answer => site.AnswersWait world pid option answer next
  | .readExecutableLink pid, answer => site.AnswersLink world pid answer ∧ next = world
  | .weaklyCanonical path, answer =>
      (answer = some (site.canonical path) ∨ site.faults.processes = true ∧ answer = none) ∧
        next = world
  | .ifNameToIndex _, answer =>
      (answer = world.tun ∨ site.faults.lookups = true ∧ answer = false) ∧ next = { world with
        observedAbsent := world.observedAbsent ∨ world.tun = false ∧ NoCore world }
  | .sleepFor _, _ => next = world.tick
  | .fork role, answer => site.AnswersFork world role answer next
  | .readHandshake child, answer =>
      (answer = .closed → ∀ process, world.processes child = some process →
        process.core = true → process.alive = true → process.executed = true) ∧ next = world
  | _, _ => next = world

/-- The world around the proxy manager. -/
def around : Surroundings SystemAnswer World where
  answers := site.Answers
  drift := Drifts

end Site

end TunProxy
