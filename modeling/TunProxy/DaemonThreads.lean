import TunProxy.DaemonSteps

/-!
# The daemon's threads, each by itself

Against surroundings that keep the shared state sound and leave alone what a
thread knows of itself, the main thread and every worker make only the steps
that they are permitted to make, and a worker ends after it has counted its
client off and notified the main thread.
-/

namespace TunProxy

open ByteText EffectProgram

/-- What a thread relies on when another one makes a step. -/
def daemonRely (thread : DaemonThread) (world later : DaemonWorld) : Prop :=
  later.Sound ∧ later.view thread = world.view thread

def daemonWatch (thread : DaemonThread) : Watch DaemonCall DaemonWorld where
  holds := DaemonWorld.Sound
  permits world operation := world.Live thread ∧ world.Permits thread operation
  cuts := True

/-- How a thread leaves the world behind. -/
def DaemonWorld.Finished (thread : DaemonThread) (world : DaemonWorld) : Prop :=
  ∀ record, world.record? thread = some record → record.stage = .ended

/-- The shared state is sound, and the thread knows something of itself. -/
def Knows (thread : DaemonThread) (known : ThreadView → Prop) (world : DaemonWorld) : Prop :=
  world.Sound ∧ known (world.view thread)

/-- A program of a thread goes from one knowledge to another. -/
def Keeps {α : Type} (controller : Controller) (thread : DaemonThread)
    (before : ThreadView → Prop) (program : Daemon α) (after : α → ThreadView → Prop) : Prop :=
  Triple ((daemonSystem controller).around daemonRely thread) (daemonWatch thread)
    (Knows thread before) program fun value => Knows thread (after value)

section Rules

variable {α β : Type} {controller : Controller} {thread : DaemonThread}
variable {before : ThreadView → Prop}

theorem Knows.stable (known : ThreadView → Prop) :
    Stable ((daemonSystem controller).around daemonRely thread) (Knows thread known) := by
  rintro world later ⟨-, knows⟩ ⟨sound, same⟩
  refine ⟨sound, ?_⟩
  rw [same]
  exact knows

theorem Keeps.done {value : α} {after : α → ThreadView → Prop}
    (implies : ∀ view, before view → after value view) :
    Keeps controller thread before (.done value) after :=
  Triple.done (Knows.stable before) (fun _ => And.left)
    fun _ knows => ⟨knows.1, implies _ knows.2⟩

theorem Keeps.cut {after : α → ThreadView → Prop} :
    Keeps controller thread before (.cut : Daemon α) after :=
  Triple.cut (Knows.stable before) (fun _ => And.left) trivial

theorem Keeps.bind {program : Daemon α} {next : α → Daemon β} {middle : α → ThreadView → Prop}
    {after : β → ThreadView → Prop} (first : Keeps controller thread before program middle)
    (second : ∀ value, Keeps controller thread (middle value) (next value) after) :
    Keeps controller thread before (program.bind next) after :=
  Triple.bind first second

theorem Keeps.weaken {program : Daemon α} {stronger : ThreadView → Prop}
    {after : α → ThreadView → Prop} (keeps : Keeps controller thread before program after)
    (implies : ∀ view, stronger view → before view) :
    Keeps controller thread stronger program after :=
  Triple.weaken keeps fun _ knows => ⟨knows.1, implies _ knows.2⟩

theorem Keeps.imp {program : Daemon α} {after weaker : α → ThreadView → Prop}
    (keeps : Keeps controller thread before program after)
    (implies : ∀ value view, after value view → weaker value view) :
    Keeps controller thread before program weaker :=
  Triple.imp keeps fun value _ knows => ⟨knows.1, implies value _ knows.2⟩

/-- A step is permitted, and changes what the thread knows. -/
theorem Keeps.call {operation : DaemonCall} {rest : DaemonAnswer operation → Daemon α}
    {middle : DaemonAnswer operation → ThreadView → Prop} {after : α → ThreadView → Prop}
    (permitted : ∀ world : DaemonWorld, world.Sound → before (world.view thread) →
      world.Live thread ∧ world.Permits thread operation)
    (changed : ∀ (world : DaemonWorld) answer, world.Sound → before (world.view thread) →
      world.Possible operation answer →
      middle answer ((world.effect thread operation answer).view thread))
    (continued : ∀ answer, Keeps controller thread (middle answer) (rest answer) after) :
    Keeps controller thread before (.call operation rest) after := by
  apply Triple.call (Knows.stable before) (fun _ => And.left)
  · exact fun world knows => permitted world knows.1 knows.2
  · rintro world answer next ⟨sound, knows⟩ ⟨possible, rfl⟩
    have permits := (permitted world sound knows).2
    exact continued answer _ ⟨sound.effect permits possible,
      changed world answer sound knows possible⟩

/-- A step by itself. -/
theorem Keeps.perform {operation : DaemonCall} {after : DaemonAnswer operation → ThreadView → Prop}
    (permitted : ∀ world : DaemonWorld, world.Sound → before (world.view thread) →
      world.Live thread ∧ world.Permits thread operation)
    (changed : ∀ (world : DaemonWorld) answer, world.Sound → before (world.view thread) →
      world.Possible operation answer →
      after answer ((world.effect thread operation answer).view thread)) :
    Keeps controller thread before (daemonCall operation) after :=
  Keeps.call permitted changed fun _ => Keeps.done fun _ => id

/-- What is known when a loop goes on, and when it is left. -/
def turned (again : ThreadView → Prop) (left : β → ThreadView → Prop) :
    Unit ⊕ β → ThreadView → Prop
  | .inl _ => again
  | .inr value => left value

/-- A loop keeps what its body keeps. -/
theorem Keeps.iterate {body : Unit → Daemon (Unit ⊕ β)} {after : β → ThreadView → Prop}
    (step : Keeps controller thread before (body ()) (turned before after)) (fuel : Nat) :
    Keeps controller thread before (iterate body fuel ()) after := by
  induction fuel with
  | zero => exact Keeps.cut
  | succ fuel ih =>
      refine step.bind fun result => ?_
      cases result with
      | inl next => exact ih
      | inr value => exact Keeps.done fun _ => id

end Rules

/-! ## What a worker knows -/

/-- The thread's own record satisfies a condition, and so does what it holds. -/
def Works (record : WorkerRecord → Prop) (held : Option (Command × Bytes) → Prop)
    (view : ThreadView) : Prop :=
  (∃ found, view.record = some found ∧ record found) ∧ held view.held

/-- The worker may hold the operation mutex or not. -/
def anyHeld (_ : Option (Command × Bytes)) : Prop :=
  True

/-- A command that changes something is executed with the mutex. -/
def HeldFor (command : Command) (held : Option (Command × Bytes)) : Prop :=
  isMutating command = true → ∃ name, held = some (command, name)

/-- The controller is not called. -/
def WorkerRecord.Idle (record : WorkerRecord) : Prop :=
  record.stage = .serving ∧ record.executing = none

/-- The controller is not called, and the client was not turned away. -/
def WorkerRecord.Free (record : WorkerRecord) : Prop :=
  record.Idle ∧ record.refused = false

def WorkerRecord.Executes (command : Command) (record : WorkerRecord) : Prop :=
  record.stage = .serving ∧ record.executing = some command ∧ record.refused = false

/-- The worker has read the name it tells its client. -/
def WorkerRecord.Read (text : Bytes) (record : WorkerRecord) : Prop :=
  record.Idle ∧ ∃ holder, record.seen = some (text, holder)

section Worker

variable {world : DaemonWorld} {index : Nat}
variable {record changed : WorkerRecord → Prop} {held : Option (Command × Bytes) → Prop}

theorem Works.mono {held' : Option (Command × Bytes) → Prop} {view : ThreadView}
    (works : Works record held view) (implies : ∀ found, record found → changed found)
    (impliesHeld : held view.held → held' view.held) : Works changed held' view := by
  obtain ⟨⟨found, member, holds⟩, holding⟩ := works
  exact ⟨⟨found, member, implies found holds⟩, impliesHeld holding⟩

theorem Works.worker {condition : WorkerRecord → Prop}
    (works : Works record held (world.view (.worker index)))
    (implies : ∀ found, record found → condition found) :
    world.Worker (.worker index) condition := by
  obtain ⟨⟨found, member, holds⟩, -⟩ := works
  exact ⟨index, found, rfl, member, implies found holds⟩

theorem Works.live (works : Works record held (world.view (.worker index)))
    (unended : ∀ found, record found → found.stage ≠ .ended) : world.Live (.worker index) :=
  .inr (works.worker unended)

theorem Works.updateRecord {change : WorkerRecord → WorkerRecord}
    (works : Works record held (world.view (.worker index)))
    (changes : ∀ found, record found → changed (change found)) :
    Works changed held ((world.updateRecord (.worker index) change).view (.worker index)) := by
  obtain ⟨⟨found, member, holds⟩, holding⟩ := works
  have present : world.workers[index]? = some found := member
  refine ⟨⟨change found, ?_, changes found holds⟩, holding⟩
  simp [DaemonWorld.view, DaemonWorld.record?, DaemonWorld.updateRecord_worker, present]

theorem view_held_eq_some {thread : DaemonThread} {command : Command} {name : Bytes} :
    (world.view thread).held = some (command, name) ↔
      world.operation = some (thread, command) ∧ world.activeName = name := by
  simp only [DaemonWorld.view, Option.bind_eq_some_iff, Option.ite_none_right_eq_some,
    Option.some.injEq, Prod.mk.injEq]
  constructor
  · rintro ⟨⟨holder, owner⟩, operation, rfl, rfl, same⟩
    exact ⟨operation, same⟩
  · rintro ⟨operation, same⟩
    exact ⟨_, operation, rfl, rfl, same⟩

variable {controller : Controller}

/-- A frame is sent that a refused worker may send. -/
theorem keeps_sendIpcFrame {frame : IpcFrame}
    (unended : ∀ found, record found → found.stage ≠ .ended)
    (told : ∀ found, record found → found.refused = true →
      ∃ text holder, found.seen = some (text, holder) ∧ frame = errorFrame (busyError text))
    (sent : ∀ found, record found → changed { found with sent := found.sent ++ [frame] }) :
    Keeps controller (.worker index) (Works record held) (daemonCall (.sendIpcFrame frame))
      fun _ => Works changed held :=
  Keeps.perform
    (fun _ _ works => ⟨works.live unended, .inr (works.worker told)⟩)
    (fun _ _ _ works _ => works.updateRecord sent)

theorem WorkerRecord.Free.unended {found : WorkerRecord} (free : found.Free) :
    found.stage ≠ .ended := by
  rw [free.1.1]
  decide

theorem keeps_sendFree (frame : IpcFrame) :
    Keeps controller (.worker index) (Works WorkerRecord.Free held)
      (daemonCall (.sendIpcFrame frame)) fun _ => Works WorkerRecord.Free held :=
  keeps_sendIpcFrame (fun _ free => free.unended)
    (fun _ free refused => absurd (free.2.symm.trans refused) (by decide))
    (fun _ free => free)

theorem keeps_sendError (error : Error) :
    Keeps controller (.worker index) (Works WorkerRecord.Free held) (sendError error)
      fun _ => Works WorkerRecord.Free held :=
  (keeps_sendFree (errorFrame error)).bind fun _ => Keeps.done fun _ => id

theorem keeps_sendExecuting (command : Command) (frame : IpcFrame) :
    Keeps controller (.worker index) (Works (WorkerRecord.Executes command) held)
      (daemonCall (.sendIpcFrame frame)) fun _ => Works (WorkerRecord.Executes command) held :=
  keeps_sendIpcFrame (fun _ executes => by rw [executes.1]; decide)
    (fun _ executes refused => absurd (executes.2.2.symm.trans refused) (by decide))
    (fun _ executes => executes)

/-- The name of the operation is set by the worker that owns it. -/
theorem keeps_setActiveName {command : Command} {text : Bytes}
    (unended : ∀ found, record found → found.stage ≠ .ended)
    (naming : text = [] ∨ Names text command) :
    Keeps controller (.worker index)
      (Works record fun held => ∃ name, held = some (command, name)) (setActiveName text)
      fun _ => Works record fun held => held = some (command, text) := by
  let locked (held : Option (Command × Bytes) → Prop) (view : ThreadView) : Prop :=
    Works record held view ∧ view.hasName = true
  have locks : Keeps controller (.worker index)
      (Works record fun held => ∃ name, held = some (command, name)) (daemonCall .lockActiveName)
      fun _ => locked fun held => ∃ name, held = some (command, name) :=
    Keeps.perform (fun _ _ works => ⟨works.live unended, trivial⟩)
      (fun _ _ _ works _ => ⟨works, by simp [DaemonWorld.effect, DaemonWorld.view]⟩)
  have writes : Keeps controller (.worker index)
      (locked fun held => ∃ name, held = some (command, name)) (daemonCall (.writeActiveName text))
      fun _ => locked fun held => held = some (command, text) := by
    apply Keeps.perform
    · rintro world - ⟨works, locked⟩
      obtain ⟨name, holding⟩ := works.2
      exact ⟨works.live unended, by simpa [DaemonWorld.view] using locked, command,
        (view_held_eq_some.mp holding).1, naming⟩
    · rintro world - - ⟨⟨member, name, holding⟩, locked⟩ -
      refine ⟨⟨member, view_held_eq_some.mpr ⟨?_, rfl⟩⟩, locked⟩
      exact (view_held_eq_some.mp holding).1
  have unlocks : Keeps controller (.worker index)
      (locked fun held => held = some (command, text)) (daemonCall .unlockActiveName)
      fun _ => Works record fun held => held = some (command, text) :=
    Keeps.perform
      (fun _ _ works => ⟨works.1.live unended,
        by simpa [DaemonWorld.view, DaemonWorld.Permits] using works.2⟩)
      (fun _ _ _ works _ => works.1)
  exact locks.bind fun _ => writes.bind fun _ => unlocks

/-! ## Serving a client -/

theorem WorkerRecord.Executes.unended {command : Command} {found : WorkerRecord}
    (executes : found.Executes command) : found.stage ≠ .ended := by
  rw [executes.1]
  decide

theorem keeps_sendLogFrames (command : Command) (level : LogLevel) (fuel : Nat) (rest : Bytes) :
    Keeps controller (.worker index) (Works (WorkerRecord.Executes command) held)
      (sendLogFrames level fuel rest) fun _ => Works (WorkerRecord.Executes command) held := by
  induction fuel generalizing rest with
  | zero => exact Keeps.done fun _ => id
  | succ fuel ih =>
      unfold sendLogFrames
      split
      next => exact Keeps.done fun _ => id
      next =>
        refine (keeps_sendExecuting command _).bind fun sent => ?_
        split
        next => exact ih _
        next => exact Keeps.done fun _ => id

theorem keeps_logMessage (command : Command) (connected : Bool) (level : LogLevel)
    (message : Bytes) :
    Keeps controller (.worker index) (Works (WorkerRecord.Executes command) (HeldFor command))
      (logMessage command connected level message)
      fun _ => Works (WorkerRecord.Executes command) (HeldFor command) := by
  unfold logMessage
  split
  next => exact Keeps.done fun _ => id
  next =>
    refine Keeps.bind ?_ fun _ => keeps_sendLogFrames command level _ _
    split
    next named =>
      have mutating : isMutating command = true := by simp_all
      have sets : Keeps controller (.worker index)
          (Works (WorkerRecord.Executes command) fun held => ∃ name, held = some (command, name))
          (setActiveName (loggedName command message))
          fun _ => Works (WorkerRecord.Executes command) fun held =>
            held = some (command, loggedName command message) :=
        keeps_setActiveName (fun _ => WorkerRecord.Executes.unended) (.inr (.inr ⟨message, rfl⟩))
      exact (sets.weaken fun _ works => ⟨works.1, works.2 mutating⟩).imp
        fun _ _ works => ⟨works.1, fun _ => ⟨_, works.2⟩⟩
    next => exact Keeps.done fun _ => id

/-- The controller makes its calls and logs only while it is called. -/
theorem keeps_runLogged {α : Type} (command : Command) (program : System α) (connected : Bool) :
    Keeps controller (.worker index) (Works (WorkerRecord.Executes command) (HeldFor command))
      (runLogged command program connected)
      fun _ => Works (WorkerRecord.Executes command) (HeldFor command) := by
  induction program generalizing connected with
  | done value => exact Keeps.done fun _ => id
  | cut => exact Keeps.cut
  | call operation rest ih =>
      have calls : Keeps controller (.worker index)
          (Works (WorkerRecord.Executes command) (HeldFor command))
          (.call (.system operation) fun answer => runLogged command (rest answer) connected)
          fun _ => Works (WorkerRecord.Executes command) (HeldFor command) := by
        refine Keeps.call ?_ (fun _ _ _ works _ => works) fun answer => ih answer connected
        refine fun _ _ works => ⟨works.live fun _ => WorkerRecord.Executes.unended, .inr ?_⟩
        exact works.worker fun _ executes => by rw [executes.2.1]; rfl
      cases operation with
      | emitLog level message =>
          exact (keeps_logMessage command connected level message).bind fun still => ih () still
      | _ => exact calls

theorem keeps_executeLogged (command : Command) (argument : Bytes) :
    Keeps controller (.worker index) (Works WorkerRecord.Free (HeldFor command))
      (executeLogged controller command argument)
      fun _ => Works WorkerRecord.Free (HeldFor command) := by
  have enters : Keeps controller (.worker index) (Works WorkerRecord.Free (HeldFor command))
      (daemonCall (.enterController command))
      fun _ => Works (WorkerRecord.Executes command) (HeldFor command) := by
    apply Keeps.perform
    · intro world _ works
      obtain ⟨⟨found, member, free⟩, holding⟩ := works
      refine ⟨.inr ⟨index, found, rfl, member, free.unended⟩, .inr ⟨index, found, rfl, member,
        free.1.1, free.1.2, free.2, fun mutating => ?_⟩⟩
      obtain ⟨name, holds⟩ := holding mutating
      exact (view_held_eq_some.mp holds).1
    · exact fun _ _ _ works _ => works.updateRecord fun _ free => ⟨free.1.1, rfl, free.2⟩
  have leaves : Keeps controller (.worker index)
      (Works (WorkerRecord.Executes command) (HeldFor command)) (daemonCall .leaveController)
      fun _ => Works WorkerRecord.Free (HeldFor command) :=
    Keeps.perform
      (fun _ _ works => ⟨works.live fun _ => WorkerRecord.Executes.unended,
        .inr (works.worker fun _ executes => by rw [executes.2.1]; rfl)⟩)
      (fun _ _ _ works _ => works.updateRecord fun _ executes =>
        ⟨⟨executes.1, rfl⟩, executes.2.2⟩)
  exact enters.bind fun _ => (keeps_runLogged command _ true).bind fun _ =>
    leaves.bind fun _ => Keeps.done fun _ => id

theorem keeps_reply (connected : Bool) (result : Result Bytes) :
    Keeps controller (.worker index) (Works WorkerRecord.Free held) (reply connected result)
      fun _ => Works WorkerRecord.Free held := by
  unfold reply
  split
  next => exact Keeps.done fun _ => id
  next =>
    cases result with
    | error failure => exact keeps_sendError failure
    | ok text => exact (keeps_sendFree _).bind fun _ => Keeps.done fun _ => id

theorem WorkerRecord.Idle.unended {found : WorkerRecord} (idle : found.Idle) :
    found.stage ≠ .ended := by
  rw [idle.1]
  decide

/-- The record of a worker that found the operation mutex locked. -/
def WorkerRecord.TurnedAway (record : WorkerRecord) : Prop :=
  record.Idle ∧ record.sent = []

theorem keeps_refuseBusy :
    Keeps controller (.worker index) (Works WorkerRecord.TurnedAway anyHeld) refuseBusy
      fun _ => Works WorkerRecord.Idle anyHeld := by
  let locked (record : WorkerRecord → Prop) (view : ThreadView) : Prop :=
    Works record anyHeld view ∧ view.hasName = true
  have locks : Keeps controller (.worker index) (Works WorkerRecord.TurnedAway anyHeld)
      (daemonCall .lockActiveName) fun _ => locked WorkerRecord.TurnedAway :=
    Keeps.perform (fun _ _ works => ⟨works.live fun _ away => away.1.unended, trivial⟩)
      (fun _ _ _ works _ => ⟨works, by simp [DaemonWorld.effect, DaemonWorld.view]⟩)
  have reads : Keeps controller (.worker index) (locked WorkerRecord.TurnedAway)
      (daemonCall .readActiveName) fun text => locked (WorkerRecord.Read text) := by
    apply Keeps.perform
    · rintro world - ⟨works, locked⟩
      have held : world.nameMutex = some (.worker index) := by
        simpa [DaemonWorld.view] using locked
      exact ⟨works.live fun _ away => away.1.unended, works.worker fun _ away => ⟨away.2, held⟩⟩
    · rintro world text - ⟨works, locked⟩ -
      exact ⟨works.updateRecord fun _ away => ⟨away.1, world.operation, rfl⟩, locked⟩
  have unlocks (text : Bytes) : Keeps controller (.worker index) (locked (WorkerRecord.Read text))
      (daemonCall .unlockActiveName) fun _ => Works (WorkerRecord.Read text) anyHeld :=
    Keeps.perform
      (fun _ _ works => ⟨works.1.live fun _ read => read.1.unended,
        by simpa [DaemonWorld.view, DaemonWorld.Permits] using works.2⟩)
      (fun _ _ _ works _ => works.1)
  have tells (text : Bytes) : Keeps controller (.worker index)
      (Works (WorkerRecord.Read text) anyHeld)
      (daemonCall (.sendIpcFrame (errorFrame (busyError text))))
      fun _ => Works WorkerRecord.Idle anyHeld := by
    apply keeps_sendIpcFrame (fun _ read => read.1.unended)
    · rintro found ⟨-, holder, seen⟩ -
      exact ⟨text, holder, seen, rfl⟩
    · exact fun found read => read.1
  exact locks.bind fun _ => reads.bind fun text => (unlocks text).bind fun _ =>
    (tells text).bind fun _ => Keeps.done fun _ => id

/-- The record of a worker that has done nothing yet. -/
def WorkerRecord.Fresh (record : WorkerRecord) : Prop :=
  record = {}

theorem WorkerRecord.Fresh.free {found : WorkerRecord} (fresh : found.Fresh) : found.Free := by
  rw [show found = {} from fresh]
  exact ⟨⟨rfl, rfl⟩, rfl⟩

theorem keeps_serveMutating {command : Command} (mutating : isMutating command = true)
    (argument : Bytes) :
    Keeps controller (.worker index) (Works WorkerRecord.Fresh anyHeld)
      (serveMutating controller command argument) fun _ => Works WorkerRecord.Idle anyHeld := by
  have tries : Keeps controller (.worker index) (Works WorkerRecord.Fresh anyHeld)
      (daemonCall (.tryLockOperation command)) fun owned view =>
        if owned = true then Works WorkerRecord.Free (fun held => held = some (command, [])) view
        else Works WorkerRecord.TurnedAway anyHeld view := by
    apply Keeps.perform
    · intro world _ works
      refine ⟨works.live fun _ fresh => fresh.free.unended, mutating, works.worker ?_⟩
      intro found fresh
      rw [show found = {} from fresh]
      exact ⟨rfl, rfl, rfl⟩
    · intro world owned sound works possible
      cases owned with
      | false =>
          refine works.updateRecord fun found fresh => ?_
          rw [show found = {} from fresh]
          exact ⟨⟨rfl, rfl⟩, rfl⟩
      | true =>
          obtain ⟨⟨found, member, fresh⟩, -⟩ := works
          have free : world.operation = none := possible rfl
          have unnamed : world.activeName = [] := by
            by_contra named
            obtain ⟨thread, owner, held, -⟩ := sound.named named
            rw [free] at held
            cases held
          exact ⟨⟨found, member, fresh.free⟩, view_held_eq_some.mpr ⟨rfl, unnamed⟩⟩
  have names (text : Bytes) (naming : text = [] ∨ Names text command) :
      Keeps controller (.worker index)
        (Works WorkerRecord.Free fun held => ∃ name, held = some (command, name))
        (setActiveName text)
        fun _ => Works WorkerRecord.Free fun held => held = some (command, text) :=
    keeps_setActiveName (fun _ => WorkerRecord.Free.unended) naming
  have unlocks : Keeps controller (.worker index)
      (Works WorkerRecord.Free fun held => held = some (command, []))
      (daemonCall .unlockOperation) fun _ => Works WorkerRecord.Idle anyHeld := by
    apply Keeps.perform
    · rintro world - ⟨⟨found, member, free⟩, holding⟩
      obtain ⟨held, unnamed⟩ := view_held_eq_some.mp holding
      exact ⟨.inr ⟨index, found, rfl, member, free.unended⟩, index, found, rfl, member,
        free.1.2, unnamed, command, held⟩
    · rintro world - - ⟨⟨found, member, free⟩, -⟩ -
      exact ⟨⟨found, member, free.1⟩, trivial⟩
  refine tries.bind fun owned => ?_
  cases owned with
  | false => exact keeps_refuseBusy
  | true =>
      refine Keeps.bind ((names _ (.inr (.inl rfl))).weaken fun _ works =>
        ⟨works.1, _, works.2⟩) fun _ => ?_
      refine Keeps.bind ((keeps_executeLogged command argument).weaken fun _ works =>
        ⟨works.1, fun _ => ⟨_, works.2⟩⟩) fun outcome => ?_
      refine Keeps.bind ((names [] (.inl rfl)).weaken fun _ works =>
        ⟨works.1, works.2 mutating⟩) fun _ => ?_
      exact (keeps_reply outcome.2 outcome.1).bind fun _ => unlocks

theorem keeps_serveReading {command : Command} (reading : isMutating command = false)
    (argument : Bytes) :
    Keeps controller (.worker index) (Works WorkerRecord.Fresh anyHeld)
      (serveReading controller command argument) fun _ => Works WorkerRecord.Idle anyHeld := by
  have executes : Keeps controller (.worker index) (Works WorkerRecord.Free (HeldFor command))
      (executeLogged controller command argument)
      fun _ => Works WorkerRecord.Free (HeldFor command) := keeps_executeLogged command argument
  refine Keeps.bind (executes.weaken fun _ works => ?_) fun outcome => ?_
  · exact works.mono (fun _ => WorkerRecord.Fresh.free) fun _ mutating =>
      absurd (reading.symm.trans mutating) (by decide)
  · exact (keeps_reply outcome.2 outcome.1).imp fun _ _ works =>
      works.mono (fun _ free => free.1) fun _ => trivial

theorem keeps_serveClient :
    Keeps controller (.worker index) (Works WorkerRecord.Fresh anyHeld) (serveClient controller)
      fun _ => Works WorkerRecord.Idle anyHeld := by
  have receives : Keeps controller (.worker index) (Works WorkerRecord.Fresh anyHeld)
      (daemonCall .receiveIpcFrame) fun _ => Works WorkerRecord.Fresh anyHeld :=
    Keeps.perform (fun _ _ works => ⟨works.live fun _ fresh => fresh.free.unended, trivial⟩)
      (fun _ _ _ works _ => works)
  have fails (error : Error) : Keeps controller (.worker index) (Works WorkerRecord.Fresh anyHeld)
      (sendError error) fun _ => Works WorkerRecord.Idle anyHeld := by
    have sends : Keeps controller (.worker index) (Works WorkerRecord.Free anyHeld)
        (sendError error) fun _ => Works WorkerRecord.Free anyHeld := keeps_sendError error
    exact (sends.weaken fun _ works => works.mono (fun _ => WorkerRecord.Fresh.free) id).imp
      fun _ _ works => works.mono (fun _ free => free.1) id
  refine receives.bind fun received => ?_
  cases received with
  | error failure => exact fails failure
  | ok request =>
      dsimp only
      split
      next command _ =>
        split
        next => exact fails _
        next =>
          split
          next mutating => exact keeps_serveMutating mutating request.payload
          next reading => exact keeps_serveReading (by simpa using reading) request.payload
      next => exact fails _

end Worker

/-! ## Counting clients -/

section Clients

variable {controller : Controller} {thread : DaemonThread}

/-- What is known does not depend on who holds the mutex of the client count. -/
def LockFree (known : ThreadView → Prop) : Prop :=
  ∀ view flag, known view → known { view with hasClients := flag }

theorem keeps_lockClients {known : ThreadView → Prop} (lockFree : LockFree known)
    (live : ∀ world : DaemonWorld, known (world.view thread) → world.Live thread) :
    Keeps controller thread known (daemonCall .lockClients)
      fun _ view => known view ∧ view.hasClients = true :=
  Keeps.perform (fun world _ knows => ⟨live world knows, trivial⟩)
    (fun _ _ _ knows _ => ⟨lockFree _ _ knows, by simp [DaemonWorld.effect, DaemonWorld.view]⟩)

theorem hasClients_iff {world : DaemonWorld} :
    (world.view thread).hasClients = true ↔ world.clientsMutex = some thread := by
  simp [DaemonWorld.view]

theorem keeps_unlockClients {known : ThreadView → Prop} (lockFree : LockFree known)
    (live : ∀ world : DaemonWorld, known (world.view thread) → world.Live thread) :
    Keeps controller thread (fun view => known view ∧ view.hasClients = true)
      (daemonCall .unlockClients) fun _ => known :=
  Keeps.perform
    (fun world _ knows => ⟨live world knows.1, hasClients_iff.mp knows.2⟩)
    (fun _ _ _ knows _ => lockFree _ _ knows.1)

theorem lockFree_works {record : WorkerRecord → Prop} {held : Option (Command × Bytes) → Prop} :
    LockFree (Works record held) :=
  fun _ _ works => works

variable {index : Nat}

/-- A worker ends: it closes its connection, counts its client off and notifies. -/
theorem keeps_worker :
    Keeps controller (.worker index) (Works WorkerRecord.Fresh anyHeld) (worker controller)
      fun _ => Works (fun record => record.stage = .ended) anyHeld := by
  let staged (stage : WorkerStage) : ThreadView → Prop :=
    Works (fun record => record.stage = stage ∧ record.executing = none) anyHeld
  have live (stage : WorkerStage) (unended : stage ≠ .ended) (world : DaemonWorld)
      (knows : staged stage (world.view (.worker index))) : world.Live (.worker index) :=
    Works.live knows fun found holds => holds.1 ▸ unended
  have closes : Keeps controller (.worker index) (Works WorkerRecord.Idle anyHeld)
      (daemonCall .closeClient) fun _ => staged .closed :=
    Keeps.perform
      (fun _ _ works => ⟨works.live fun _ idle => idle.unended, .inr (works.worker fun _ => id)⟩)
      (fun _ _ _ works _ => works.updateRecord fun _ idle => ⟨rfl, idle.2⟩)
  have decrements : Keeps controller (.worker index)
      (fun view => staged .closed view ∧ view.hasClients = true) (daemonCall .decrementClients)
      fun _ view => staged .countedOff view ∧ view.hasClients = true := by
    apply Keeps.perform
    · rintro world - ⟨works, locked⟩
      exact ⟨live .closed (by decide) world works, hasClients_iff.mp locked,
        .inr (Works.worker works fun _ => id)⟩
    · rintro world - - ⟨works, locked⟩ -
      exact ⟨works.updateRecord fun _ closed => ⟨rfl, closed.2⟩, locked⟩
  have notifies : Keeps controller (.worker index) (staged .countedOff)
      (daemonCall .notifyClients) fun _ => Works (fun record => record.stage = .ended) anyHeld :=
    Keeps.perform
      (fun world _ works => ⟨live .countedOff (by decide) world works,
        .inr (Works.worker works fun _ => id)⟩)
      (fun _ _ _ works _ => works.updateRecord fun _ _ => rfl)
  refine keeps_serveClient.bind fun _ => closes.bind fun _ => ?_
  refine Keeps.bind ?_ fun _ => notifies
  exact (keeps_lockClients lockFree_works (live .closed (by decide))).bind fun _ =>
    decrements.bind fun _ => keeps_unlockClients lockFree_works (live .countedOff (by decide))

/-! ## The main thread -/

/-- The main thread knows how far it has come. -/
def Mains (stage : MainStage) (view : ThreadView) : Prop :=
  view.main = some stage

theorem mains_iff {stage : MainStage} {world : DaemonWorld} :
    Mains stage (world.view .main) ↔ world.main = stage := by
  simp [Mains, DaemonWorld.view]

theorem live_main (world : DaemonWorld) : world.Live .main :=
  .inl rfl

theorem lockFree_mains {stage : MainStage} : LockFree (Mains stage) :=
  fun _ _ knows => knows

/-- A step of the main thread that changes no shared state. -/
theorem keeps_main {known : ThreadView → Prop} {operation : DaemonCall}
    (permitted : ∀ world : DaemonWorld, known (world.view .main) →
      world.Permits .main operation)
    (unchanged : ∀ (world : DaemonWorld) answer, world.effect .main operation answer = world) :
    Keeps controller .main known (daemonCall operation) fun _ => known :=
  Keeps.perform (fun world _ knows => ⟨live_main world, permitted world knows⟩)
    (fun world answer _ knows _ => by rw [unchanged]; exact knows)

theorem keeps_sendError_main {known : ThreadView → Prop} (error : Error) :
    Keeps controller .main known (sendError error) fun _ => known := by
  have sends : Keeps controller .main known (daemonCall (.sendIpcFrame (errorFrame error)))
      fun _ => known := keeps_main (fun _ _ => .inl rfl) fun _ _ => rfl
  exact sends.bind fun _ => Keeps.done fun _ => id

theorem keeps_print {known : ThreadView → Prop} (text : Bytes) :
    Keeps controller .main known (daemonCall (.print text)) fun _ => known :=
  keeps_main (fun _ _ => trivial) fun _ _ => rfl

theorem keeps_closeClient_main {known : ThreadView → Prop} :
    Keeps controller .main known (daemonCall .closeClient) fun _ => known :=
  keeps_main (fun _ _ => .inl rfl) fun _ _ => rfl

theorem keeps_rejectClient {known : ThreadView → Prop} (uid : Nat) :
    Keeps controller .main known (rejectClient uid) fun _ => known :=
  (keeps_print _).bind fun _ => (keeps_sendError_main _).bind fun _ => keeps_closeClient_main

theorem keeps_startWorker :
    Keeps controller .main (Mains .accepting) startWorker fun _ => Mains .accepting := by
  have increments : Keeps controller .main
      (fun view => Mains .accepting view ∧ view.hasClients = true)
      (daemonCall .incrementClients) fun _ view => Mains .counted view ∧ view.hasClients = true :=
    Keeps.perform
      (fun world _ knows => ⟨live_main world, rfl, mains_iff.mp knows.1, hasClients_iff.mp knows.2⟩)
      (fun _ _ _ knows _ => ⟨mains_iff.mpr rfl, knows.2⟩)
  have creates : Keeps controller .main (Mains .counted) (daemonCall .createWorker)
      fun created => Mains (if created.isOk then .accepting else .counted) := by
    apply Keeps.perform
    · exact fun world _ knows => ⟨live_main world, rfl, mains_iff.mp knows⟩
    · intro world created _ knows _
      cases created with
      | ok index => exact mains_iff.mpr rfl
      | error detail => exact knows
  have decrements : Keeps controller .main
      (fun view => Mains .counted view ∧ view.hasClients = true)
      (daemonCall .decrementClients) fun _ view => Mains .accepting view ∧ view.hasClients = true :=
    Keeps.perform
      (fun world _ knows => ⟨live_main world, hasClients_iff.mp knows.2,
        .inl ⟨rfl, mains_iff.mp knows.1⟩⟩)
      (fun _ _ _ knows _ => ⟨mains_iff.mpr rfl, knows.2⟩)
  have notifies : Keeps controller .main (Mains .accepting) (daemonCall .notifyClients)
      fun _ => Mains .accepting := keeps_main (fun _ _ => .inl rfl) fun _ _ => rfl
  refine (keeps_lockClients lockFree_mains fun world _ => live_main world).bind fun _ => ?_
  refine increments.bind fun _ => ?_
  refine (keeps_unlockClients lockFree_mains fun world _ => live_main world).bind fun _ => ?_
  refine creates.bind fun created => ?_
  cases created with
  | ok index => exact Keeps.done fun _ => id
  | error detail =>
      refine Keeps.bind ?_ fun _ => notifies.bind fun _ =>
        (keeps_sendError_main _).bind fun _ => keeps_closeClient_main
      exact (keeps_lockClients lockFree_mains fun world _ => live_main world).bind fun _ =>
        decrements.bind fun _ =>
          keeps_unlockClients lockFree_mains fun world _ => live_main world

theorem keeps_acceptStep :
    Keeps controller .main (Mains .accepting) acceptStep
      (turned (Mains .accepting) fun _ => Mains .accepting) := by
  have asks (operation : DaemonCall)
      (permitted : ∀ world : DaemonWorld, world.main = .accepting → world.Permits .main operation)
      (unchanged : ∀ (world : DaemonWorld) answer, world.effect .main operation answer = world) :
      Keeps controller .main (Mains .accepting) (daemonCall operation) fun _ => Mains .accepting :=
    keeps_main (fun world knows => permitted world (mains_iff.mp knows)) unchanged
  refine (asks .stopRequested (fun _ main => ⟨rfl, main⟩) fun _ _ => rfl).bind fun requested => ?_
  cases requested with
  | true => exact Keeps.done fun _ => id
  | false =>
      refine (asks .pollListener (fun _ main => ⟨rfl, main⟩) fun _ _ => rfl).bind fun polled => ?_
      cases polled with
      | interrupted => exact Keeps.done fun _ => id
      | timedOut => exact Keeps.done fun _ => id
      | failed => exact (keeps_print _).bind fun _ => Keeps.done fun _ => id
      | ready =>
          refine (asks .acceptClient (fun _ main => ⟨rfl, main⟩) fun _ _ => rfl).bind
            fun client => ?_
          cases client with
          | interrupted => exact Keeps.done fun _ => id
          | failed detail => exact (keeps_print _).bind fun _ => Keeps.done fun _ => id
          | accepted =>
              refine (asks .authorizeClient (fun _ main => ⟨rfl, main⟩) fun _ _ => rfl).bind
                fun peer => ?_
              refine Keeps.bind ?_ fun _ => Keeps.done fun _ => id
              split
              next => exact keeps_rejectClient peer.2
              next => exact keeps_startWorker

theorem keeps_waitStep :
    Keeps controller .main (fun view => Mains .accepting view ∧ view.hasClients = true) waitStep
      (turned (fun view => Mains .accepting view ∧ view.hasClients = true)
        fun _ view => Mains .left view ∧ view.hasClients = true) := by
  have asks : Keeps controller .main
      (fun view => Mains .accepting view ∧ view.hasClients = true) (daemonCall .clientsFinished)
      fun finished view =>
        Mains (if finished then .left else .accepting) view ∧ view.hasClients = true := by
    apply Keeps.perform
    · rintro world - ⟨knows, locked⟩
      exact ⟨live_main world, rfl, mains_iff.mp knows, hasClients_iff.mp locked⟩
    · rintro world finished - ⟨knows, locked⟩ -
      cases finished with
      | true => exact ⟨mains_iff.mpr rfl, locked⟩
      | false => exact ⟨knows, locked⟩
  have waits : Keeps controller .main
      (fun view => Mains .accepting view ∧ view.hasClients = true) (daemonCall .waitClients)
      fun _ => Mains .accepting :=
    Keeps.perform
      (fun world _ knows => ⟨live_main world, rfl, hasClients_iff.mp knows.2⟩)
      (fun _ _ _ knows _ => knows.1)
  refine asks.bind fun finished => ?_
  cases finished with
  | true => exact Keeps.done fun _ => id
  | false =>
      exact waits.bind fun _ =>
        (keeps_lockClients lockFree_mains fun world _ => live_main world).bind fun _ =>
          Keeps.done fun _ => id

theorem keeps_runPrinting {α : Type} (program : System α) :
    Keeps controller .main (Mains .left) (runPrinting program) fun _ => Mains .left := by
  induction program with
  | done value => exact Keeps.done fun _ => id
  | cut => exact Keeps.cut
  | call operation rest ih =>
      have calls : Keeps controller .main (Mains .left)
          (.call (.system operation) fun answer => runPrinting (rest answer))
          fun _ => Mains .left :=
        Keeps.call (fun world _ knows => ⟨live_main world, .inl ⟨rfl, mains_iff.mp knows⟩⟩)
          (fun _ _ _ knows _ => knows) ih
      cases operation with
      | emitLog level message => exact (keeps_print _).bind fun _ => ih ()
      | _ => exact calls

theorem keeps_shutdownCleanup :
    Keeps controller .main (Mains .left) (shutdownCleanup controller) fun _ => Mains .left := by
  have asks : Keeps controller .main (Mains .left) (daemonCall .stateFileExists)
      fun _ => Mains .left :=
    keeps_main (fun _ knows => ⟨rfl, mains_iff.mp knows⟩) fun _ _ => rfl
  have enters : Keeps controller .main (Mains .left) (daemonCall (.enterController .off))
      fun _ => Mains .left :=
    keeps_main (fun _ knows => .inl ⟨rfl, mains_iff.mp knows⟩) fun _ _ => rfl
  have leaves : Keeps controller .main (Mains .left) (daemonCall .leaveController)
      fun _ => Mains .left :=
    keeps_main (fun _ knows => .inl ⟨rfl, mains_iff.mp knows⟩) fun _ _ => rfl
  refine asks.bind fun present => ?_
  split
  next => exact Keeps.done fun _ => id
  next =>
    refine enters.bind fun _ => (keeps_runPrinting _).bind fun stopped => leaves.bind fun _ => ?_
    cases stopped with
    | ok text => exact Keeps.done fun _ => id
    | error failure => exact keeps_print _

theorem keeps_daemonMain (fuel : Nat) :
    Keeps controller .main (Mains .accepting) (daemonMain controller fuel)
      fun _ => Mains .left := by
  have accepts : Keeps controller .main (Mains .accepting)
      (iterate (fun _ => acceptStep) fuel ()) fun _ => Mains .accepting :=
    Keeps.iterate keeps_acceptStep fuel
  have waits : Keeps controller .main
      (fun view => Mains .accepting view ∧ view.hasClients = true)
      (iterate (fun _ => waitStep) fuel ())
      fun _ view => Mains .left view ∧ view.hasClients = true :=
    Keeps.iterate keeps_waitStep fuel
  have closes : Keeps controller .main (Mains .left) (daemonCall .closeListener)
      fun _ => Mains .left := keeps_main (fun _ _ => trivial) fun _ _ => rfl
  refine accepts.bind fun _ => ?_
  refine (keeps_lockClients lockFree_mains fun world _ => live_main world).bind fun _ => ?_
  refine waits.bind fun _ => ?_
  refine (keeps_unlockClients lockFree_mains fun world _ => live_main world).bind fun _ => ?_
  exact keeps_shutdownCleanup.bind fun _ => closes

end Clients

end TunProxy
