import TunProxy.DescriptorTable
import TunProxy.ProgramPool
import TunProxy.ProgramRefinement
import TunProxy.ProxyManager

/-!
# The handshake with a new core

The parent opens a pipe that a successful `exec` closes, and forks.  The child
takes over the log and executes the core, or writes to the pipe why it could
not; the parent waits for one of the two.  Both run at the same time, and the
child may be killed from outside; whatever they do in whatever order, the parent
is right about what it tells, and neither loses a descriptor.
-/

namespace TunProxy

open ByteText DescriptorTable EffectProgram

namespace ExecHandshake

/-! ## The calls of both processes -/

/-- The variables with which the child begins. -/
structure Frame where
  coreFd : Nat
  logFd : Nat
  readFd : Nat
  writeFd : Nat
  executable : Path
  arguments : List Bytes

/-- What `read` gives for the size of an `int`: the end, an error number, or
something else. -/
inductive PipeRead
  | closed
  | errno (number : Nat)
  | invalid

/-- The calls.  The pipe is read from for the sake of a child. -/
inductive SpawnCall
  /-- `open` with `O_RDONLY | O_CLOEXEC | O_NOFOLLOW`. -/
  | openCore (path : Path)
  /-- `open` with `O_WRONLY | O_CREAT | O_APPEND | O_CLOEXEC | O_NOFOLLOW`. -/
  | openLog
  /-- `pipe2` with `O_CLOEXEC`. -/
  | pipe
  | fork (frame : Frame)
  | close (fd : Nat)
  /-- `poll` with `POLLIN | POLLHUP`; an error among the events counts as a failure. -/
  | poll (fd : Nat) (child : Int)
  | read (fd : Nat) (child : Int)
  | kill (child : Int)
  | waitpid (child : Int)
  | setsid
  /-- `open` of `/dev/null` with `O_RDONLY | O_CLOEXEC`. -/
  | openNull
  | dup2 (old new : Nat)
  /-- A success does not return. -/
  | fexecve (fd : Nat) (arguments : List Bytes)
  | write (fd : Nat) (number : Nat)
  | exit (code : Nat)
  /-- The parent returns. -/
  | returns (result : Result Int)

abbrev SpawnAnswer : SpawnCall → Type
  | .openCore _ => Option Nat
  | .openLog => Option Nat
  | .pipe => Option (Nat × Nat)
  | .fork _ => Option Int
  | .poll _ _ => Bool
  | .read _ _ => PipeRead
  | .kill _ => KillAnswer
  | .waitpid _ => WaitAnswer
  | .openNull => Option Nat
  | .fexecve _ _ => Option Nat
  | .close _ | .setsid | .dup2 _ _ | .write _ _ | .exit _ | .returns _ => Unit

abbrev Spawn (α : Type) : Type :=
  EffectProgram SpawnAnswer α

/-! ## The parent -/

def startFailure {α : Type} (text : Bytes) : Result α :=
  .error (makeError .coreStartFailure text)

/-- The fork in `spawnCore`, and the closes behind it. -/
def forkFrame (frame : Frame) : Spawn (Result (Int × Nat)) :=
  .call (.fork frame) fun
  | none =>
      .call (.close frame.coreFd) fun _ =>
      .call (.close frame.logFd) fun _ =>
      .call (.close frame.readFd) fun _ =>
      .call (.close frame.writeFd) fun _ =>
      .done (startFailure (ascii "cannot fork sing-box"))
  | some child =>
      .call (.close frame.coreFd) fun _ =>
      .call (.close frame.logFd) fun _ =>
      .call (.close frame.writeFd) fun _ => .done (.ok (child, frame.readFd))

/-- `spawnCore` up to the fork. -/
def forkCore (executable : Path) (arguments : List Bytes) : Spawn (Result (Int × Nat)) :=
  .call (.openCore executable) fun
  | none => .done (startFailure (ascii "cannot open verified sing-box core"))
  | some coreFd =>
      .call .openLog fun
      | none =>
          .call (.close coreFd) fun _ =>
          .done (startFailure (ascii "cannot open sing-box log"))
      | some logFd =>
          .call .pipe fun
          | none =>
              .call (.close coreFd) fun _ =>
              .call (.close logFd) fun _ =>
              .done (startFailure (ascii "cannot create sing-box exec handshake"))
          | some ends => forkFrame ⟨coreFd, logFd, ends.1, ends.2, executable, arguments⟩

/-- What is made of what was read. -/
def concludeExec (strerror : Nat → Bytes) (child : Int) : PipeRead → Spawn (Result Int)
  | .closed => .done (.ok child)
  | .invalid =>
      .call (.waitpid child) fun _ =>
      .done (startFailure (ascii "invalid sing-box exec handshake"))
  | .errno number =>
      .call (.waitpid child) fun _ =>
      .done (startFailure (ascii "cannot execute sing-box: " ++ strerror number))

/-- `spawnCore` behind the fork. -/
def awaitExec (strerror : Nat → Bytes) (child : Int) (readFd : Nat) : Spawn (Result Int) :=
  .call (.poll readFd child) fun ready =>
  if !ready then
    .call (.kill child) fun _ =>
    .call (.waitpid child) fun _ =>
    .call (.close readFd) fun _ =>
    .done (startFailure (ascii "sing-box exec handshake timed out"))
  else
    .call (.read readFd child) fun received =>
    .call (.close readFd) fun _ => concludeExec strerror child received

def spawnCore (strerror : Nat → Bytes) (executable : Path) (arguments : List Bytes) :
    Spawn (Result Int) :=
  (forkCore executable arguments).andThen fun started => awaitExec strerror started.1 started.2

/-! ## The child -/

/-- The child's standard input. -/
def openInput : Spawn Unit :=
  .call .openNull fun
  | none => .done ()
  | some nullFd =>
      .call (.dup2 nullFd 0) fun _ =>
      .call (.close nullFd) fun _ => .done ()

/-- The execution of the core, and what the child does if it fails. -/
def executeCore (frame : Frame) : Spawn Unit :=
  .call (.fexecve frame.coreFd frame.arguments) fun
  | none => .done ()
  | some number =>
      .call (.write frame.writeFd number) fun _ =>
      .call (.exit 127) fun _ => .done ()

def childMain (frame : Frame) : Spawn Unit :=
  .call (.close frame.readFd) fun _ =>
  .call .setsid fun _ =>
  openInput.bind fun _ =>
  .call (.dup2 frame.logFd 1) fun _ =>
  .call (.dup2 frame.logFd 2) fun _ =>
  .call (.close frame.logFd) fun _ => executeCore frame

/-! ## The parent without its descriptors -/

/-- A descriptor or a failure, as a success or a failure. -/
def succeeded {β : Type} : Option β → Except Bytes Unit
  | some _ => .ok ()
  | none => .error []

def handshakeAnswer (strerror : Nat → Bytes) : PipeRead → HandshakeAnswer
  | .closed => .closed
  | .errno number => .execError (strerror number)
  | .invalid => .invalid

/-- The child that was forked. -/
def forked : Option Int → Except Bytes Int
  | some child => .ok child
  | none => .error []

/-- The calls of the proxy manager that the parent's calls are. -/
def seen (strerror : Nat → Bytes) : Sigma SpawnAnswer → Option (Sigma SystemAnswer)
  | ⟨.openCore path, opened⟩ => some ⟨.openCore path, opened.isSome⟩
  | ⟨.openLog, opened⟩ => some ⟨.openCoreLog, opened.isSome⟩
  | ⟨.pipe, made⟩ => some ⟨.pipe, succeeded made⟩
  | ⟨.fork frame, child⟩ => some ⟨.fork (.core frame.executable frame.arguments), forked child⟩
  | ⟨.poll _ child, ready⟩ => some ⟨.pollHandshake child, ready⟩
  | ⟨.read _ child, received⟩ => some ⟨.readHandshake child, handshakeAnswer strerror received⟩
  | ⟨.kill child, answer⟩ => some ⟨.kill child .kill, answer⟩
  | ⟨.waitpid child, answer⟩ => some ⟨.waitpid child .block, answer⟩
  | _ => none

section Refinement

variable (strerror : Nat → Bytes)

/-- A call to close a descriptor is not seen. -/
theorem refines_close {α : Type} {fd : Nat} {rest : Unit → Spawn α} {above : System α}
    (onward : Refines (seen strerror) (rest ()) above) :
    Refines (seen strerror) (.call (.close fd) rest) above :=
  .unseen (fun _ => rfl) fun _ => onward

theorem refines_awaitExec (child : Int) (readFd : Nat) :
    Refines (seen strerror) (awaitExec strerror child readFd) (Setup.awaitExec child) := by
  refine .shown id (fun _ => rfl) fun ready => ?_
  cases ready with
  | false =>
      refine .shown id (fun _ => rfl) fun _ => ?_
      refine .shown id (fun _ => rfl) fun _ => ?_
      exact refines_close strerror (.done _)
  | true =>
      refine .shown (handshakeAnswer strerror) (fun _ => rfl) fun received => ?_
      apply refines_close
      cases received with
      | closed => exact .done _
      | invalid =>
          refine .shown id (fun _ => rfl) fun _ => ?_
          exact .done _
      | errno number =>
          refine .shown id (fun _ => rfl) fun _ => ?_
          exact .done _

/-- The parent with its descriptors does what the manager's model of it does. -/
theorem refines_spawnCore (setup : Setup) (executable : Path) :
    Refines (seen strerror) (spawnCore strerror executable (setup.coreArguments executable))
      (setup.spawnCore executable) := by
  refine .shown Option.isSome (fun _ => rfl) fun opened => ?_
  cases opened with
  | none => exact .done _
  | some coreFd =>
      refine .shown Option.isSome (fun _ => rfl) fun opened => ?_
      cases opened with
      | none => exact refines_close strerror (.done _)
      | some logFd =>
          refine .shown succeeded (fun _ => rfl) fun made => ?_
          cases made with
          | none => exact refines_close strerror (refines_close strerror (.done _))
          | some ends =>
              refine .shown forked (fun _ => rfl) fun child => ?_
              cases child with
              | none =>
                  apply refines_close
                  apply refines_close
                  apply refines_close
                  exact refines_close strerror (.done _)
              | some child =>
                  apply refines_close
                  apply refines_close
                  apply refines_close
                  exact refines_awaitExec strerror child ends.1

/-- Without its descriptors every run of the parent is one of the manager's model,
with the same answers and the same result. -/
theorem spawnCore_looks {setup : Setup} {executable : Path}
    {possible : (operation : SystemCall) → SystemAnswer operation → Prop}
    {last : Spawn (Result Int)} {history : History SpawnAnswer}
    (reaches : Reaches (recording (LooksPossible (seen strerror) possible))
      (spawnCore strerror executable (setup.coreArguments executable), []) (last, history)) :
    ∃ lastAbove, Reaches (recording possible) (setup.spawnCore executable, [])
      (lastAbove, lookAt (seen strerror) history) ∧
        ∀ result, last = .done result → lastAbove = .done result :=
  (refines_spawnCore strerror setup executable).looks reaches

/-- The answers to a parent whose core is executed. -/
def executing : Responder SpawnAnswer (History SpawnAnswer)
  | history, .openCore path => some (some 3, noted history (.openCore path) (some 3))
  | history, .openLog => some (some 4, noted history .openLog (some 4))
  | history, .pipe => some (some (5, 6), noted history .pipe (some (5, 6)))
  | history, .fork frame => some (some 7, noted history (.fork frame) (some 7))
  | history, .close fd => some ((), noted history (.close fd) ())
  | history, .poll fd child => some (true, noted history (.poll fd child) true)
  | history, .read fd child => some (.closed, noted history (.read fd child) .closed)
  | _, _ => none

theorem within_executing :
    executing.Within (recording (LooksPossible (seen strerror) fun _ _ => True)) id := by
  intro history operation answer next responded
  refine ⟨history, .refl, ?_⟩
  unfold executing at responded
  split at responded
  all_goals cases responded
  all_goals exact answers_noted history _ _

/-- The parent makes ten calls, of which six are seen. -/
theorem spawnCore_looks_example : ∃ history : History SystemAnswer, history.length = 6 ∧
    Reaches (recording fun _ _ => True) (shippedSetup.spawnCore [ascii "core"], [])
      (.done (.ok 7), history) := by
  have ran : Reaches (recording (LooksPossible (seen fun _ => []) fun _ _ => True))
      (spawnCore (fun _ => []) [ascii "core"] (shippedSetup.coreArguments [ascii "core"]), [])
      (.done (.ok 7), _) :=
    reaches_of_follow (within_executing fun _ => []) (by rfl)
  obtain ⟨above, ranAbove, same⟩ := spawnCore_looks _ ran
  rw [same _ rfl] at ranAbove
  exact ⟨_, by rfl, ranAbove⟩

end Refinement

/-! ## Tables of descriptors -/

/-- What a descriptor stands for; the parent's own files are told apart by the
descriptors they have at the beginning. -/
inductive OpenFile
  | core
  | log
  | null
  | readEnd
  | writeEnd
  | inherited (fd : Nat)
  deriving DecidableEq, Repr

abbrev Descriptor : Type :=
  DescriptorTable.Descriptor OpenFile

abbrev Table : Type :=
  DescriptorTable.Table OpenFile

/-- The writing end of the pipe is in the table. -/
def Writes (table : Table) : Prop :=
  Has .writeEnd table

/-- Descriptors that were opened beside those of a table with its standard streams. -/
structure Frame.Opened (frame : Frame) (start : Table) : Prop where
  standing : ∀ fd, fd ≤ 2 → start fd ≠ none
  core : start frame.coreFd = none
  log : start frame.logFd = none
  readEnd : start frame.readFd = none
  writeEnd : start frame.writeFd = none
  logCore : frame.logFd ≠ frame.coreFd
  readCore : frame.readFd ≠ frame.coreFd
  readLog : frame.readFd ≠ frame.logFd
  writeCore : frame.writeFd ≠ frame.coreFd
  writeLog : frame.writeFd ≠ frame.logFd
  writeRead : frame.writeFd ≠ frame.readFd

namespace Frame

/-- The descriptors of the core and of the writing end. -/
def lasting (frame : Frame) : List (Nat × Descriptor) :=
  [(frame.writeFd, ⟨.writeEnd, true⟩), (frame.coreFd, ⟨.core, true⟩)]

/-- Those, and that of the log. -/
def logging (frame : Frame) : List (Nat × Descriptor) :=
  [(frame.writeFd, ⟨.writeEnd, true⟩), (frame.logFd, ⟨.log, true⟩), (frame.coreFd, ⟨.core, true⟩)]

/-- Those that the child begins with. -/
def opened (frame : Frame) : List (Nat × Descriptor) :=
  [(frame.writeFd, ⟨.writeEnd, true⟩), (frame.readFd, ⟨.readEnd, true⟩),
    (frame.logFd, ⟨.log, true⟩), (frame.coreFd, ⟨.core, true⟩)]

variable {frame : Frame} {start base : Table}

/-- What is free in a table is none of its standard streams. -/
theorem Opened.high (opened : frame.Opened start) {fd : Nat} (free : start fd = none) : 2 < fd := by
  by_contra low
  exact opened.standing fd (by omega) free

theorem writes_withOwn {own : List (Nat × Descriptor)} :
    Writes (withOwn base ((frame.writeFd, ⟨.writeEnd, true⟩) :: own)) :=
  ⟨frame.writeFd, ⟨.writeEnd, true⟩, Function.update_self .., rfl⟩

end Frame

/-! ## The two processes -/

inductive Process
  | parent
  | child
  deriving DecidableEq, Repr

inductive ChildPhase
  | unborn
  /-- The child runs what it was forked with. -/
  | running
  | core
  | zombie
  | reaped
  deriving DecidableEq, Repr

structure SpawnWorld where
  parent : Table
  /-- No descriptors are left of a child that has come to its end. -/
  child : Table := fun _ => none
  /-- The error numbers that were written to the pipe and not read. -/
  pipe : List Nat := []
  phase : ChildPhase := .unborn
  /-- The child has executed the core. -/
  executed : Bool := false
  /-- The child was killed before it could. -/
  killed : Bool := false
  /-- The parent has read an error number. -/
  consumed : Bool := false
  /-- The parent has waited for the child without reaping it. -/
  neglected : Bool := false
  result : Option (Result Int) := none

namespace SpawnWorld

/-- Someone can still write to the pipe. -/
def WriterOpen (world : SpawnWorld) : Prop :=
  Writes world.parent ∨ Writes world.child

/-- There is something to read, or there never will be. -/
def Ready (world : SpawnWorld) : Prop :=
  world.pipe ≠ [] ∨ ¬ world.WriterOpen

/-- The child has written its error number. -/
def Told (world : SpawnWorld) : Prop :=
  world.pipe ≠ [] ∨ world.consumed = true

/-- The child is killed, if it is there. -/
def kill (world : SpawnWorld) : SpawnWorld :=
  match world.phase with
  | .running => { world with phase := .zombie, killed := true, child := fun _ => none }
  | .core => { world with phase := .zombie, child := fun _ => none }
  | _ => world

/-- How a call of the parent may be answered. -/
def ParentActs (world : SpawnWorld) (operation : SpawnCall) (answer : SpawnAnswer operation)
    (next : SpawnWorld) : Prop :=
  match operation, answer with
  | .openCore _, some fd => world.parent fd = none ∧
      next = { world with parent := Function.update world.parent fd (some ⟨.core, true⟩) }
  | .openLog, some fd => world.parent fd = none ∧
      next = { world with parent := Function.update world.parent fd (some ⟨.log, true⟩) }
  | .pipe, some ends => world.parent ends.1 = none ∧ world.parent ends.2 = none ∧
      ends.1 ≠ ends.2 ∧ next = { world with
        parent := Function.update (Function.update world.parent ends.1 (some ⟨.readEnd, true⟩))
          ends.2 (some ⟨.writeEnd, true⟩) }
  | .fork _, some _ => next = { world with child := world.parent, phase := .running }
  | .close fd, _ => next = { world with parent := Function.update world.parent fd none }
  | .poll _ _, ready => next = world ∧ (ready = true → world.Ready)
  | .read _ _, .errno number => ∃ rest, world.pipe = number :: rest ∧
      next = { world with pipe := rest, consumed := true }
  | .read _ _, .closed => world.pipe = [] ∧ ¬ world.WriterOpen ∧ next = world
  | .kill _, answer => next = world.kill ∨ answer ≠ .delivered ∧ next = world
  | .waitpid _, .reaped _ => world.phase = .zombie ∧ next = { world with phase := .reaped }
  | .waitpid _, _ => next = { world with neglected := true }
  | .returns result, _ => next = { world with result := some result }
  | _, _ => next = world

/-- How a call of the child may be answered while it is there.  What is written
when no one can read it any more may as well be in the pipe. -/
def ChildActs (world : SpawnWorld) (operation : SpawnCall) (answer : SpawnAnswer operation)
    (next : SpawnWorld) : Prop :=
  world.phase = .running ∧
    match operation, answer with
    | .close fd, _ => next = { world with child := Function.update world.child fd none }
    | .openNull, some fd => world.child fd = none ∧
        next = { world with child := Function.update world.child fd (some ⟨.null, true⟩) }
    | .dup2 old new, _ => next = { world with child := dup world.child old new }
    | .fexecve fd _, none => world.child fd = some ⟨.core, true⟩ ∧
        next = { world with phase := .core, executed := true, child := onExec world.child }
    | .write _ number, _ => next = { world with pipe := world.pipe ++ [number] }
    | .exit _, _ => next = { world with phase := .zombie, child := fun _ => none }
    | _, _ => next = world

end SpawnWorld

/-- The two processes; the child may be killed from outside before any step of
the parent. -/
def spawnSystem : SharedSystem SpawnAnswer Process SpawnWorld where
  answers process world operation answer next :=
    match process with
    | .parent => ∃ middle, (middle = world ∨ middle = world.kill) ∧
        middle.ParentActs operation answer next
    | .child => world.ChildActs operation answer next
  creates operation answer :=
    match operation, answer with
    | .fork frame, some _ => some (.child, childMain frame)
    | _, _ => none

/-- A parent that is about to spawn a core. -/
def spawnStart (strerror : Nat → Bytes) (executable : Path) (arguments : List Bytes)
    (start : Table) : Pool SpawnAnswer Process SpawnWorld where
  programs
    | .parent => (spawnCore strerror executable arguments).bind fun result =>
        .call (.returns result) .done
    | .child => .done ()
  world := { parent := start }

/-! ## Soundness -/

/-- The table that a core is to have: the log for its output, and of the
parent's other files those that are kept on `exec`. -/
def handed (start : Table) (input : Option Descriptor) : Table :=
  fun fd =>
    if fd = 0 then input
    else if fd = 1 ∨ fd = 2 then some ⟨.log, false⟩
    else onExec start fd

/-- The standard input of a core: nothing, or that of the parent. -/
def IsInput (start : Table) (input : Option Descriptor) : Prop :=
  input = some ⟨.null, false⟩ ∨ input = onExec start 0

namespace SpawnWorld

/-- What a result of the parent says of the child. -/
def Truthful (world : SpawnWorld) : Result Int → Prop
  | .ok _ => world.executed = true ∨ world.killed = true
  | .error _ => world.phase = .unborn ∨ world.phase = .reaped ∨ world.neglected = true

structure Sound (start : Table) (world : SpawnWorld) : Prop where
  unborn : world.phase = .unborn → world.pipe = [] ∧ world.consumed = false
  running : world.phase = .running → Writes world.child
  core : world.phase = .core → world.executed = true ∧
    ∃ input, IsInput start input ∧ world.child = handed start input
  gone : world.phase = .unborn ∨ world.phase = .zombie ∨ world.phase = .reaped →
    ¬ Writes world.child
  ended : world.phase = .zombie ∨ world.phase = .reaped →
    world.executed = true ∨ world.killed = true ∨ world.Told
  returned : ∀ result, world.result = some result → world.parent = start ∧ world.Truthful result

/-- The steps that a process makes where it makes them. -/
def Permits (start : Table) (process : Process) (world : SpawnWorld) : SpawnCall → Prop :=
  match process with
  | .parent => fun operation => world.result = none ∧
      match operation with
      | .fork frame => world.phase = .unborn ∧ frame.Opened start ∧
          world.parent = withOwn start frame.opened
      | .read _ _ => world.Ready
      | .returns result => world.parent = start ∧ world.Truthful result
      | _ => True
  | .child => fun operation => world.phase = .running →
      match operation with
      | .close fd => Writes (Function.update world.child fd none)
      | .dup2 old new => Writes (dup world.child old new)
      | .fexecve _ _ => ∃ input, IsInput start input ∧ onExec world.child = handed start input
      | .exit _ => world.Told
      | .fork _ => False
      | _ => True

/-- What a process relies on when the other makes a step. -/
def Relies (start : Table) (process : Process) (world next : SpawnWorld) : Prop :=
  next.Sound start ∧
    match process with
    | .parent => next.parent = world.parent ∧ next.result = world.result ∧
        next.consumed = world.consumed ∧ next.neglected = world.neglected ∧
        (next.phase = .unborn ↔ world.phase = .unborn) ∧
        (world.phase = .reaped → next.phase = .reaped) ∧
        (world.executed = true → next.executed = true) ∧
        (world.killed = true → next.killed = true) ∧ (world.Ready → next.Ready)
    | .child => next.phase = .running →
        world.phase = .running ∧ next.child = world.child ∧ (world.Told → next.Told)

end SpawnWorld

def spawnWatch (start : Table) (process : Process) : Watch SpawnCall SpawnWorld where
  holds := SpawnWorld.Sound start
  permits := SpawnWorld.Permits start process
  cuts := True

/-! ## Every step keeps the shared state sound -/

namespace SpawnWorld

variable {start : Table} {world middle next : SpawnWorld} {process : Process}
variable {operation : SpawnCall} {answer : SpawnAnswer operation}

/-- What a result says stays true. -/
theorem Truthful.mono {result : Result Int} (truthful : world.Truthful result)
    (executed : world.executed = true → next.executed = true)
    (killed : world.killed = true → next.killed = true)
    (unborn : world.phase = .unborn → next.phase = .unborn)
    (reaped : world.phase = .reaped → next.phase = .reaped)
    (neglected : world.neglected = true → next.neglected = true) : next.Truthful result := by
  cases result with
  | ok child => exact truthful.imp executed killed
  | error failure => exact truthful.imp unborn (Or.imp reaped neglected)

theorem not_writes_empty : ¬ Writes fun _ => none := by
  rintro ⟨fd, descriptor, impossible, -⟩
  cases impossible

theorem kill_of_ne (running : world.phase ≠ .running) (core : world.phase ≠ .core) :
    world.kill = world := by
  unfold kill
  split
  next same => exact absurd same running
  next same => exact absurd same core
  next => rfl

/-- That the child is killed is something that the parent relies on. -/
theorem Sound.kill (sound : world.Sound start) : Relies start .parent world world.kill := by
  by_cases running : world.phase = .running
  · have eq : world.kill =
        { world with phase := .zombie, killed := true, child := fun _ => none } := by
      simp [SpawnWorld.kill, running]
    rw [eq]
    refine ⟨⟨by simp, by simp, by simp, fun _ => not_writes_empty, fun _ => Or.inr (Or.inl rfl),
      fun result found => ?_⟩, rfl, rfl, rfl, rfl, by simp [running], by simp [running], id,
      fun _ => rfl, fun ready => ?_⟩
    · obtain ⟨table, truthful⟩ := sound.returned result found
      exact ⟨table, truthful.mono id (fun _ => rfl) (by simp [running]) (by simp [running]) id⟩
    · apply ready.imp id
      rintro closed (parent | child)
      · exact closed (Or.inl parent)
      · exact not_writes_empty child
  · by_cases core : world.phase = .core
    · have eq : world.kill = { world with phase := .zombie, child := fun _ => none } := by
        simp [SpawnWorld.kill, core]
      rw [eq]
      refine ⟨⟨by simp, by simp, by simp, fun _ => not_writes_empty,
        fun _ => Or.inl (sound.core core).1, fun result found => ?_⟩, rfl, rfl, rfl, rfl,
        by simp [core], by simp [core], id, id, fun ready => ?_⟩
      · obtain ⟨table, truthful⟩ := sound.returned result found
        exact ⟨table, truthful.mono id id (by simp [core]) (by simp [core]) id⟩
      · apply ready.imp id
        rintro closed (parent | child)
        · exact closed (Or.inl parent)
        · exact not_writes_empty child
    · rw [kill_of_ne running core]
      exact ⟨sound, rfl, rfl, rfl, rfl, Iff.rfl, id, id, id, id⟩

/-- After the child was killed it is not there any more. -/
theorem phase_kill : world.kill.phase ≠ .running := by
  unfold SpawnWorld.kill
  split
  next => simp
  next => simp
  next running _ => exact running

/-- What a call of the parent can do. -/
inductive ParentEffect (world : SpawnWorld) (operation : SpawnCall) : SpawnWorld → Prop
  | nothing : ParentEffect world operation world
  | table (table : Table) : ParentEffect world operation { world with parent := table }
  | forks (frame : Frame) (same : operation = .fork frame) :
      ParentEffect world operation { world with child := world.parent, phase := .running }
  | reads (number : Nat) (rest : List Nat) (pipe : world.pipe = number :: rest) :
      ParentEffect world operation { world with pipe := rest, consumed := true }
  | kills : ParentEffect world operation world.kill
  | reaps (zombie : world.phase = .zombie) :
      ParentEffect world operation { world with phase := .reaped }
  | neglects : ParentEffect world operation { world with neglected := true }
  | returns (result : Result Int) (same : operation = .returns result) :
      ParentEffect world operation { world with result := some result }

theorem ParentActs.effect (acts : world.ParentActs operation answer next) :
    world.ParentEffect operation next := by
  have unchanged (same : next = world) : world.ParentEffect operation next := same ▸ .nothing
  cases operation with
  | openCore path =>
      cases answer with
      | none => exact unchanged acts
      | some fd => exact acts.2 ▸ .table _
  | openLog =>
      cases answer with
      | none => exact unchanged acts
      | some fd => exact acts.2 ▸ .table _
  | pipe =>
      cases answer with
      | none => exact unchanged acts
      | some ends => exact acts.2.2.2 ▸ .table _
  | fork frame =>
      cases answer with
      | none => exact unchanged acts
      | some child =>
          obtain rfl : next = _ := acts
          exact .forks frame rfl
  | close fd =>
      obtain rfl : next = _ := acts
      exact .table _
  | poll fd child => exact unchanged acts.1
  | read fd child =>
      cases answer with
      | closed => exact unchanged acts.2.2
      | invalid => exact unchanged acts
      | errno number =>
          obtain ⟨rest, pipe, rfl⟩ := acts
          exact .reads number rest pipe
  | kill child =>
      rcases acts with rfl | ⟨-, rfl⟩
      · exact .kills
      · exact .nothing
  | waitpid child =>
      have neglects (same : next = { world with neglected := true }) :
          world.ParentEffect (.waitpid child) next :=
        same ▸ .neglects
      cases answer with
      | reaped status =>
          obtain ⟨zombie, rfl⟩ := acts
          exact .reaps zombie
      | running => exact neglects acts
      | interrupted => exact neglects acts
      | noChild => exact neglects acts
      | failed => exact neglects acts
  | returns result =>
      obtain rfl : next = _ := acts
      exact .returns result rfl
  | setsid => exact unchanged acts
  | openNull => exact unchanged acts
  | dup2 old new => exact unchanged acts
  | fexecve fd arguments => exact unchanged acts
  | write fd number => exact unchanged acts
  | exit code => exact unchanged acts

theorem ParentEffect.sound (effect : world.ParentEffect operation next)
    (sound : world.Sound start) (permits : world.Permits start .parent operation) :
    next.Sound start := by
  obtain ⟨running, permits⟩ := permits
  have returned {later : SpawnWorld} (same : later.result = world.result) (result : Result Int)
      (found : later.result = some result) : later.parent = start ∧ later.Truthful result := by
    cases running.symm.trans (same.symm.trans found)
  cases effect with
  | nothing => exact sound
  | table table =>
      exact ⟨sound.unborn, sound.running, sound.core, sound.gone, sound.ended, returned rfl⟩
  | forks frame same =>
      subst same
      have writes : Writes world.parent := by
        rw [permits.2.2]
        exact Frame.writes_withOwn
      exact ⟨by simp, fun _ => writes, by simp, by simp, by simp, returned rfl⟩
  | reads number rest pipe =>
      refine ⟨fun unborn => ?_, sound.running, sound.core, sound.gone,
        fun _ => Or.inr (Or.inr (Or.inr rfl)), returned rfl⟩
      cases pipe.symm.trans (sound.unborn unborn).1
  | kills => exact sound.kill.1
  | reaps zombie =>
      exact ⟨by simp, by simp, by simp, fun _ => sound.gone (Or.inr (Or.inl zombie)),
        fun _ => sound.ended (Or.inl zombie), returned rfl⟩
  | neglects =>
      exact ⟨sound.unborn, sound.running, sound.core, sound.gone, sound.ended, returned rfl⟩
  | returns result same =>
      subst same
      refine ⟨sound.unborn, sound.running, sound.core, sound.gone, sound.ended, ?_⟩
      intro other found
      obtain rfl := Option.some.inj found
      exact permits

/-- What the parent does leaves a child alone that is still there. -/
theorem ParentEffect.child (effect : world.ParentEffect operation next)
    (unforked : ∀ frame, operation = .fork frame → next = world)
    (running : next.phase = .running) :
    world.phase = .running ∧ next.child = world.child ∧ (world.Told → next.Told) := by
  cases effect with
  | nothing => exact ⟨running, rfl, id⟩
  | table table => exact ⟨running, rfl, id⟩
  | forks frame same =>
      rw [unforked frame same] at running
      rw [unforked frame same]
      exact ⟨running, rfl, id⟩
  | reads number rest pipe => exact ⟨running, rfl, fun _ => Or.inr rfl⟩
  | kills => exact absurd running phase_kill
  | reaps zombie => cases running
  | neglects => exact ⟨running, rfl, id⟩
  | returns result same => exact ⟨running, rfl, id⟩

/-- What a call of the child can do. -/
inductive ChildEffect (start : Table) (world : SpawnWorld) (operation : SpawnCall) :
    SpawnWorld → Prop
  | nothing : ChildEffect start world operation world
  | table (table : Table) (writes : Writes table) :
      ChildEffect start world operation { world with child := table }
  | executes (input : Option Descriptor) (isInput : IsInput start input)
      (eq : onExec world.child = handed start input) : ChildEffect start world operation
        { world with phase := .core, executed := true, child := handed start input }
  | writes (number : Nat) : ChildEffect start world operation
      { world with pipe := world.pipe ++ [number] }
  | exits (told : world.Told) : ChildEffect start world operation
      { world with phase := .zombie, child := fun _ => none }

theorem ChildActs.effect (acts : world.ChildActs operation answer next)
    (sound : world.Sound start) (permits : world.Permits start .child operation) :
    ChildEffect start world operation next := by
  obtain ⟨running, acts⟩ := acts
  have permits := permits running
  have unchanged (same : next = world) : ChildEffect start world operation next :=
    same ▸ .nothing
  cases operation with
  | close fd =>
      obtain rfl : next = _ := acts
      exact .table _ permits
  | openNull =>
      cases answer with
      | none => exact unchanged acts
      | some fd =>
          obtain ⟨free, rfl⟩ := acts
          obtain ⟨other, descriptor, found, isEnd⟩ := sound.running running
          refine .table _ ⟨other, descriptor, ?_, isEnd⟩
          rw [Function.update_of_ne, found]
          rintro rfl
          cases free.symm.trans found
  | dup2 old new =>
      obtain rfl : next = _ := acts
      exact .table _ permits
  | fexecve fd arguments =>
      cases answer with
      | some number => exact unchanged acts
      | none =>
          obtain ⟨-, rfl⟩ := acts
          obtain ⟨input, isInput, eq⟩ := permits
          rw [eq]
          exact .executes input isInput eq
  | write fd number =>
      obtain rfl : next = _ := acts
      exact .writes number
  | exit code =>
      obtain rfl : next = _ := acts
      exact .exits permits
  | setsid => exact unchanged acts
  | openCore path => exact unchanged acts
  | openLog => exact unchanged acts
  | pipe => exact unchanged acts
  | fork frame => exact unchanged acts
  | poll fd child => exact unchanged acts
  | read fd child => exact unchanged acts
  | kill child => exact unchanged acts
  | waitpid child => exact unchanged acts
  | returns result => exact unchanged acts

/-- Whatever the child does, the parent relies on. -/
theorem ChildEffect.relies (effect : ChildEffect start world operation next)
    (running : world.phase = .running) (sound : world.Sound start) :
    Relies start .parent world next := by
  have ready (pipe : world.pipe ≠ [] → next.pipe ≠ []) (isReady : world.Ready) : next.Ready :=
    isReady.imp pipe fun closed => absurd (Or.inr (sound.running running)) closed
  have truthful {later : SpawnWorld} (parent : later.parent = world.parent)
      (result : later.result = world.result)
      (executed : world.executed = true → later.executed = true)
      (killed : world.killed = true → later.killed = true)
      (neglected : world.neglected = true → later.neglected = true) (value : Result Int)
      (found : later.result = some value) : later.parent = start ∧ later.Truthful value := by
    obtain ⟨table, truthful⟩ := sound.returned value (result.symm.trans found)
    exact ⟨parent.trans table, truthful.mono executed killed (by simp [running])
      (by simp [running]) neglected⟩
  cases effect with
  | nothing => exact ⟨sound, rfl, rfl, rfl, rfl, Iff.rfl, id, id, id, id⟩
  | table table writes =>
      refine ⟨⟨sound.unborn, fun _ => writes, by simp [running], by simp [running], sound.ended,
        truthful rfl rfl id id id⟩, rfl, rfl, rfl, rfl, Iff.rfl, id, id, id, ready id⟩
  | executes input isInput eq =>
      refine ⟨⟨by simp, by simp, fun _ => ⟨rfl, input, isInput, rfl⟩, by simp, by simp,
        truthful rfl rfl (fun _ => rfl) id id⟩, rfl, rfl, rfl, rfl, by simp [running],
        by simp [running], fun _ => rfl, id, ready id⟩
  | writes number =>
      refine ⟨⟨by simp [running], sound.running, sound.core, sound.gone, by simp [running],
        truthful rfl rfl id id id⟩, rfl, rfl, rfl, rfl, Iff.rfl, id, id, id, ready ?_⟩
      simp
  | exits told =>
      refine ⟨⟨by simp, by simp, by simp, fun _ => not_writes_empty,
        fun _ => Or.inr (Or.inr told), truthful rfl rfl id id id⟩, rfl, rfl, rfl, rfl,
        by simp [running], by simp [running], id, id, ready id⟩

end SpawnWorld

end ExecHandshake

end TunProxy
