import TunProxy.OutputCapture
import TunProxy.ProgramRefinement
import TunProxy.ResourceLedger

/-!
# The descriptors of a captured child

The parent of a captured child opens two pipes, hands their writing ends to the
child and reads from the others.  On every path it closes what it opened and
waits for the child; apart from that it does what the capture without
descriptors does.
-/

namespace TunProxy

open ByteText EffectProgram OutputCapture

namespace CaptureDescriptors

/-! ## The program -/

/-- The ends of a pipe. -/
structure Pipe where
  read : Nat
  write : Nat

/-- The calls with their descriptors.  It is said of a reading end which stream
comes from it. -/
inductive FdCall
  /-- `pipe2` with `O_CLOEXEC`. -/
  | pipe
  | fork (command : UtilityCommand) (stdoutPipe stderrPipe : Pipe)
  | close (fd : Nat)
  | setNonBlocking (stream : ProcessStream) (fd : Nat)
  | read (stream : ProcessStream) (fd : Nat)
  /-- `kill` with `SIGKILL`. -/
  | kill (child : Int)
  | waitpid (child : Int) (option : WaitOption)
  | poll (stdoutFd stderrFd : Nat)
  | steadyClock
  | callback (stream : ProcessStream) (chunk : Bytes)

abbrev FdAnswer : FdCall → Type
  | .pipe => Except Bytes Pipe
  | .fork _ _ _ => Except Bytes Int
  | .setNonBlocking _ _ => Except Bytes Unit
  | .read _ _ => ReadAnswer
  | .kill _ => KillAnswer
  | .waitpid _ _ => WaitAnswer
  | .steadyClock => Nat
  | .close _ | .poll _ _ | .callback _ _ => Unit

abbrev FdProgram (α : Type) : Type :=
  EffectProgram FdAnswer α

def genericFailure {α : Type} (text : Bytes) : Result α :=
  .error (makeError .generic text)

/-- One turn of the loop of `readAvailable`. -/
def readStep (stream : ProcessStream) (fd : Nat) (result : Bytes) : FdProgram (Bytes ⊕ Bytes) :=
  .call (.read stream fd) fun
  | .chunk first more => .done (.inl (result ++ first :: more))
  | .nothing => .done (.inr result)

def readAvailable (fuel : Nat) (stream : ProcessStream) (fd : Nat) : FdProgram Bytes :=
  iterate (readStep stream fd) fuel []

def report (callback : Bool) (stream : ProcessStream) (chunk : Bytes) : FdProgram Unit :=
  if callback && !chunk.isEmpty then .call (.callback stream chunk) .done else .done ()

/-- The reading ends. -/
structure Readers where
  stdoutFd : Nat
  stderrFd : Nat

def readOutput (fuel : Nat) (readers : Readers) (callback : Bool) (output : ProcessOutput) :
    FdProgram ProcessOutput :=
  (readAvailable fuel .stdout readers.stdoutFd).bind fun stdoutChunk =>
  (readAvailable fuel .stderr readers.stderrFd).bind fun stderrChunk =>
  (report callback .stdout stdoutChunk).bind fun _ =>
  (report callback .stderr stderrChunk).bind fun _ =>
  .done { output with
    stdoutText := output.stdoutText ++ stdoutChunk
    stderrText := output.stderrText ++ stderrChunk }

/-- One turn of the loop that reads until the child exits or time is up. -/
def captureStep (fuel : Nat) (readers : Readers) (callback : Bool) (child : Int) (deadline : Nat)
    (output : ProcessOutput) : FdProgram (ProcessOutput ⊕ (ProcessOutput × Option ExitStatus)) :=
  .call .steadyClock fun (now : Nat) =>
  if ¬ now < deadline then .done (.inr (output, none))
  else
    (readOutput fuel readers callback output).bind fun output =>
    .call (.waitpid child .noHang) fun waited =>
    match waited with
    | .reaped status => .done (.inr (output, some status))
    | .noChild | .failed => .done (.inr (output, none))
    | .running | .interrupted =>
        .call (.poll readers.stdoutFd readers.stderrFd) fun _ => .done (.inl output)

/-- What becomes of a child that is given up. -/
def killChild (readers : Readers) (child : Int) (text : Bytes) :
    FdProgram (Result ProcessOutput) :=
  .call (.kill child) fun _ =>
  .call (.waitpid child .block) fun _ =>
  .call (.close readers.stdoutFd) fun _ =>
  .call (.close readers.stderrFd) fun _ => .done (genericFailure text)

def finishCapture (fuel : Nat) (readers : Readers) (callback : Bool) (child : Int)
    (output : ProcessOutput) (exited : Option ExitStatus) : FdProgram (Result ProcessOutput) :=
  match exited with
  | none => killChild readers child (ascii "process timed out")
  | some status =>
      (readOutput fuel readers callback output).bind fun output =>
      .call (.close readers.stdoutFd) fun _ =>
      .call (.close readers.stderrFd) fun _ => .done (.ok { output with exitCode := status.code })

/-- `runCapture` once the writing ends are closed. -/
def captureChild (fuel : Nat) (command : UtilityCommand) (callback : Bool) (readers : Readers)
    (child : Int) : FdProgram (Result ProcessOutput) :=
  .call (.setNonBlocking .stdout readers.stdoutFd) fun
  | .error detail => killChild readers child (ascii "fcntl failed: " ++ detail)
  | .ok () =>
      .call (.setNonBlocking .stderr readers.stderrFd) fun
      | .error detail => killChild readers child (ascii "fcntl failed: " ++ detail)
      | .ok () =>
          .call .steadyClock fun (started : Nat) =>
          (iterate (captureStep fuel readers callback child (started + command.timeout)) fuel
            {}).bind fun ended =>
          finishCapture fuel readers callback child ended.1 ended.2

/-- `runCapture` once both pipes are there. -/
def forkChild (fuel : Nat) (command : UtilityCommand) (callback : Bool)
    (stdoutPipe stderrPipe : Pipe) : FdProgram (Result ProcessOutput) :=
  .call (.fork command stdoutPipe stderrPipe) fun
  | .error detail =>
      .call (.close stdoutPipe.read) fun _ =>
      .call (.close stdoutPipe.write) fun _ =>
      .call (.close stderrPipe.read) fun _ =>
      .call (.close stderrPipe.write) fun _ =>
      .done (genericFailure (ascii "fork failed: " ++ detail))
  | .ok child =>
      .call (.close stdoutPipe.write) fun _ =>
      .call (.close stderrPipe.write) fun _ =>
      captureChild fuel command callback ⟨stdoutPipe.read, stderrPipe.read⟩ child

def runCapture (fuel : Nat) (command : UtilityCommand) (callback : Bool) :
    FdProgram (Result ProcessOutput) :=
  if command.arguments.head?.all List.isEmpty then
    .done (.error (makeError .invalidArguments (ascii "empty process command")))
  else
    .call .pipe fun
    | .error detail => .done (genericFailure (ascii "pipe failed: " ++ detail))
    | .ok stdoutPipe =>
        .call .pipe fun
        | .error detail =>
            .call (.close stdoutPipe.read) fun _ =>
            .call (.close stdoutPipe.write) fun _ =>
            .done (genericFailure (ascii "pipe failed: " ++ detail))
        | .ok stderrPipe => forkChild fuel command callback stdoutPipe stderrPipe

/-! ## The program without descriptors -/

/-- The call without its descriptors; that a descriptor is closed is not seen. -/
def seen : Sigma FdAnswer → Option (Sigma PipeAnswer)
  | ⟨.pipe, made⟩ => some ⟨.other (.system .pipe), made.map fun _ => ()⟩
  | ⟨.fork command _ _, child⟩ => some ⟨.other (.system (.fork (.utility command))), child⟩
  | ⟨.close _, _⟩ => none
  | ⟨.setNonBlocking stream _, set⟩ => some ⟨.other (.system (.setNonBlocking stream)), set⟩
  | ⟨.read stream _, received⟩ => some ⟨.read stream, received⟩
  | ⟨.kill child, answer⟩ => some ⟨.other (.system (.kill child .kill)), answer⟩
  | ⟨.waitpid child option, waited⟩ => some ⟨.other (.system (.waitpid child option)), waited⟩
  | ⟨.poll _ _, _⟩ => some ⟨.other (.system .pollOutput), ()⟩
  | ⟨.steadyClock, now⟩ => some ⟨.other (.system .steadyClock), now⟩
  | ⟨.callback stream chunk, _⟩ => some ⟨.other (.callback stream chunk), ()⟩

section Refinement

variable (fuel : Nat)

theorem refines_readAvailable (stream : ProcessStream) (fd : Nat) :
    Refines seen (readAvailable fuel stream fd) (OutputCapture.readAvailable fuel stream) := by
  apply Refines.iterate
  intro result
  refine .shown id (fun _ => rfl) fun received => ?_
  cases received with
  | chunk first more => exact .done _
  | nothing => exact .done _

theorem expand_readAvailable (stream : ProcessStream) :
    (system (TunProxy.readAvailable stream)).expand (pipeCalls fuel) =
      OutputCapture.readAvailable fuel stream :=
  bind_done _

theorem refines_report (callback : Bool) (stream : ProcessStream) (chunk : Bytes) :
    Refines seen (report callback stream chunk)
      ((OutputCapture.report callback stream chunk).expand (pipeCalls fuel)) := by
  unfold report OutputCapture.report
  split
  · exact .shown id (fun _ => rfl) fun _ => .done _
  · exact .done _

theorem refines_readOutput (readers : Readers) (callback : Bool) (output : ProcessOutput) :
    Refines seen (readOutput fuel readers callback output)
      ((OutputCapture.readOutput callback output).expand (pipeCalls fuel)) := by
  simp only [OutputCapture.readOutput, expand_bind, expand_readAvailable]
  apply (refines_readAvailable fuel .stdout readers.stdoutFd).bind
  intro stdoutChunk
  apply (refines_readAvailable fuel .stderr readers.stderrFd).bind
  intro stderrChunk
  apply (refines_report fuel callback .stdout stdoutChunk).bind
  intro _
  apply (refines_report fuel callback .stderr stderrChunk).bind
  exact fun _ => .done _

theorem refines_captureStep (readers : Readers) (callback : Bool) (child : Int) (deadline : Nat)
    (output : ProcessOutput) :
    Refines seen (captureStep fuel readers callback child deadline output)
      ((OutputCapture.captureStep callback child deadline output).expand (pipeCalls fuel)) := by
  refine .shown id (fun _ => rfl) fun now => ?_
  simp only [id, done_bind, expand]
  split
  · exact .done _
  · rw [expand_bind]
    apply (refines_readOutput fuel readers callback output).bind
    intro output
    refine .shown id (fun _ => rfl) fun waited => ?_
    cases waited with
    | reaped status => exact .done _
    | noChild => exact .done _
    | failed => exact .done _
    | running => exact .shown id (fun _ => rfl) fun _ => .done _
    | interrupted => exact .shown id (fun _ => rfl) fun _ => .done _

/-- A call to close a descriptor is not seen. -/
theorem refines_close {α : Type} {fd : Nat} {rest : Unit → FdProgram α} {above : PipeProgram α}
    (onward : Refines seen (rest ()) above) : Refines seen (.call (.close fd) rest) above :=
  .unseen (fun _ => rfl) fun _ => onward

theorem refines_killChild (readers : Readers) (child : Int) (text : Bytes) :
    Refines seen (killChild readers child text)
      ((system (TunProxy.killChild child (makeError .generic text))).expand (pipeCalls fuel)) := by
  refine .shown id (fun _ => rfl) fun _ => ?_
  refine .shown id (fun _ => rfl) fun _ => ?_
  apply refines_close
  apply refines_close
  exact .done _

theorem refines_finishCapture (readers : Readers) (callback : Bool) (child : Int)
    (output : ProcessOutput) (exited : Option ExitStatus) :
    Refines seen (finishCapture fuel readers callback child output exited)
      ((OutputCapture.finishCapture callback child output exited).expand (pipeCalls fuel)) := by
  cases exited with
  | none => exact refines_killChild fuel readers child _
  | some status =>
      simp only [finishCapture, OutputCapture.finishCapture, expand_bind]
      apply (refines_readOutput fuel readers callback output).bind
      intro output
      apply refines_close
      apply refines_close
      exact .done _

theorem refines_captureChild (command : UtilityCommand) (callback : Bool) (readers : Readers)
    (child : Int) :
    Refines seen (captureChild fuel command callback readers child)
      ((OutputCapture.captureChild fuel command callback child).expand (pipeCalls fuel)) := by
  refine .shown id (fun _ => rfl) fun first => ?_
  cases first with
  | error detail => exact refines_killChild fuel readers child _
  | ok _ =>
      refine .shown id (fun _ => rfl) fun second => ?_
      cases second with
      | error detail => exact refines_killChild fuel readers child _
      | ok _ =>
          refine .shown id (fun _ => rfl) fun started => ?_
          simp only [id, done_bind, expand_bind, expand_iterate]
          apply Refines.bind
          · exact Refines.iterate
              (refines_captureStep fuel readers callback child (started + command.timeout)) fuel {}
          · exact fun ended => refines_finishCapture fuel readers callback child ended.1 ended.2

/-- With its descriptors the capture does what it does without. -/
theorem refines_runCapture (command : UtilityCommand) (callback : Bool) :
    Refines seen (runCapture fuel command callback)
      (OutputCapture.runCapture fuel command callback) := by
  unfold runCapture OutputCapture.runCapture captureOutput
  split
  · exact .done _
  · refine .shown (Except.map fun _ => ()) (fun _ => rfl) fun first => ?_
    cases first with
    | error detail => exact .done _
    | ok stdoutPipe =>
        refine .shown (Except.map fun _ => ()) (fun _ => rfl) fun second => ?_
        cases second with
        | error detail => exact refines_close (refines_close (.done _))
        | ok stderrPipe =>
            refine .shown id (fun _ => rfl) fun forked => ?_
            cases forked with
            | error detail =>
                apply refines_close
                apply refines_close
                apply refines_close
                exact refines_close (.done _)
            | ok child =>
                apply refines_close
                apply refines_close
                exact refines_captureChild fuel command callback _ child

end Refinement

/-! ## What the parent holds -/

inductive Resource
  | descriptor (fd : Nat)
  /-- A child that is still to be waited for. -/
  | child (child : Int)
  deriving DecidableEq, Repr

/-- Both ends of a pipe. -/
def Pipe.ends (pipe : Pipe) : Multiset Resource :=
  {.descriptor pipe.read} + {.descriptor pipe.write}

/-- A blocking wait is the last one, whatever it answers; another one is only if
it has reaped the child. -/
def handling : Handling FdAnswer Resource where
  takes operation answer :=
    match operation, answer with
    | .pipe, .ok pipe => pipe.ends
    | .fork _ _ _, .ok child => {.child child}
    | _, _ => 0
  uses
    | .fork _ stdoutPipe stderrPipe => [.descriptor stdoutPipe.read, .descriptor stdoutPipe.write,
        .descriptor stderrPipe.read, .descriptor stderrPipe.write]
    | .close fd => [.descriptor fd]
    | .setNonBlocking _ fd => [.descriptor fd]
    | .read _ fd => [.descriptor fd]
    | .kill child => [.child child]
    | .waitpid child _ => [.child child]
    | .poll stdoutFd stderrFd => [.descriptor stdoutFd, .descriptor stderrFd]
    | _ => []
  returns operation answer :=
    match operation, answer with
    | .close fd, _ => {.descriptor fd}
    | .waitpid child .block, _ => {.child child}
    | .waitpid child .noHang, .reaped _ => {.child child}
    | _, _ => 0
  returned := by
    intro operation answer resource given
    cases operation with
    | close fd => exact given
    | waitpid child option =>
        cases option with
        | block => exact given
        | noHang =>
            cases answer with
            | reaped status => exact given
            | running => cases given
            | interrupted => cases given
            | noChild => cases given
            | failed => cases given
    | _ => cases given

/-- Both reading ends. -/
def Readers.ends (readers : Readers) : Multiset Resource :=
  {.descriptor readers.stdoutFd} + {.descriptor readers.stderrFd}

/-- What is held while the child is read from, and after it was reaped. -/
def Readers.held (readers : Readers) (child : Int) : Option ExitStatus → Multiset Resource
  | none => {.child child} + readers.ends
  | some _ => readers.ends

/-- What is held after a turn of the loop. -/
def Readers.turned (readers : Readers) (child : Int) :
    ProcessOutput ⊕ (ProcessOutput × Option ExitStatus) → Multiset Resource :=
  Sum.elim (fun _ => readers.held child none) fun ended => readers.held child ended.2

section Ledger

variable {fuel : Nat} {held : Multiset Resource} {readers : Readers} {child : Int}

theorem leaves_readAvailable {stream : ProcessStream} {fd : Nat}
    (isOpen : .descriptor fd ∈ held) :
    handling.Leaves held (readAvailable fuel stream fd) fun _ => held := by
  apply Handling.Leaves.iterate
  intro result
  apply Handling.Leaves.step
  · simpa [handling] using isOpen
  · exact fun _ => rfl
  · exact fun _ => rfl
  · intro received
    cases received with
    | chunk first more => exact .done rfl
    | nothing => exact .done rfl

theorem leaves_report {callback : Bool} {stream : ProcessStream} {chunk : Bytes} :
    handling.Leaves held (report callback stream chunk) fun _ => held := by
  apply Handling.Leaves.ite
  · exact .step (fun _ impossible => by cases impossible) (fun _ => rfl) (fun _ => rfl)
      fun _ => .done rfl
  · exact .done rfl

theorem leaves_readOutput {callback : Bool} {output : ProcessOutput}
    (stdoutOpen : .descriptor readers.stdoutFd ∈ held)
    (stderrOpen : .descriptor readers.stderrFd ∈ held) :
    handling.Leaves held (readOutput fuel readers callback output) fun _ => held := by
  apply (leaves_readAvailable stdoutOpen).bind
  intro _
  apply (leaves_readAvailable stderrOpen).bind
  intro _
  apply leaves_report.bind
  intro _
  apply leaves_report.bind
  exact fun _ => .done rfl

/-- Both reading ends are closed. -/
theorem leaves_closeReaders {value : Result ProcessOutput} :
    handling.Leaves readers.ends
      (.call (.close readers.stdoutFd) fun _ => .call (.close readers.stderrFd) fun _ =>
        .done value) fun _ => 0 := by
  apply Handling.Leaves.release rfl (fun _ => rfl) fun _ => rfl
  intro _
  rw [← add_zero {_}]
  apply Handling.Leaves.release rfl (fun _ => rfl) fun _ => rfl
  exact fun _ => .done rfl

theorem leaves_killChild {text : Bytes} :
    handling.Leaves (readers.held child none) (killChild readers child text) fun _ => 0 := by
  apply Handling.Leaves.step
  · simp [handling, Readers.held]
  · exact fun _ => rfl
  · exact fun _ => rfl
  intro _
  apply Handling.Leaves.release rfl (fun _ => rfl) fun _ => rfl
  exact fun _ => leaves_closeReaders

theorem leaves_captureStep {callback : Bool} {deadline : Nat} {output : ProcessOutput} :
    handling.Leaves (readers.held child none)
      (captureStep fuel readers callback child deadline output) (readers.turned child) := by
  apply Handling.Leaves.step (fun _ impossible => by cases impossible) (fun _ => rfl) fun _ => rfl
  intro now
  apply Handling.Leaves.ite
  · exact .done rfl
  · apply Handling.Leaves.bind
    · apply leaves_readOutput
      · simp [Readers.held, Readers.ends]
      · simp [Readers.held, Readers.ends]
    · intro output
      apply Handling.Leaves.call
      · simp [handling, Readers.held]
      · intro waited others split _
        have polls (unreaped : readers.held child none = 0 + others) :
            handling.Leaves (0 + others) (.call (.poll readers.stdoutFd readers.stderrFd)
              fun _ => .done (.inl output)) (readers.turned child) := by
          rw [← unreaped]
          apply Handling.Leaves.step
          · simp [handling, Readers.held, Readers.ends]
          · exact fun _ => rfl
          · exact fun _ => rfl
          · exact fun _ => .done rfl
        cases waited with
        | reaped status => exact .done ((zero_add others).trans (add_left_cancel split).symm)
        | noChild => exact .done split.symm
        | failed => exact .done split.symm
        | running => exact polls split
        | interrupted => exact polls split

theorem leaves_finishCapture {callback : Bool} {output : ProcessOutput}
    {exited : Option ExitStatus} :
    handling.Leaves (readers.held child exited)
      (finishCapture fuel readers callback child output exited) fun _ => 0 := by
  cases exited with
  | none => exact leaves_killChild
  | some status =>
      apply Handling.Leaves.bind
      · apply leaves_readOutput
        · simp [Readers.held, Readers.ends]
        · simp [Readers.held, Readers.ends]
      · exact fun _ => leaves_closeReaders

theorem leaves_captureChild {command : UtilityCommand} {callback : Bool} :
    handling.Leaves (readers.held child none)
      (captureChild fuel command callback readers child) fun _ => 0 := by
  apply Handling.Leaves.step
  · simp [handling, Readers.held, Readers.ends]
  · exact fun _ => rfl
  · exact fun _ => rfl
  intro first
  cases first with
  | error detail => exact leaves_killChild
  | ok _ =>
      apply Handling.Leaves.step
      · simp [handling, Readers.held, Readers.ends]
      · exact fun _ => rfl
      · exact fun _ => rfl
      intro second
      cases second with
      | error detail => exact leaves_killChild
      | ok _ =>
          apply Handling.Leaves.step (fun _ impossible => by cases impossible) (fun _ => rfl)
            fun _ => rfl
          intro started
          have loop : handling.Leaves (readers.held child none)
              (iterate (captureStep fuel readers callback child (started + command.timeout)) fuel
                {}) fun ended => readers.held child ended.2 :=
            Handling.Leaves.iterate (fun _ => leaves_captureStep) fuel _
          exact loop.bind fun _ => leaves_finishCapture

theorem leaves_forkChild {command : UtilityCommand} {callback : Bool}
    {stdoutPipe stderrPipe : Pipe} :
    handling.Leaves (stdoutPipe.ends + stderrPipe.ends)
      (forkChild fuel command callback stdoutPipe stderrPipe) fun _ => 0 := by
  apply Handling.Leaves.call
  · simp [handling, Pipe.ends]
  intro forked others split _
  have same : stdoutPipe.ends + stderrPipe.ends = others := split.trans (zero_add others)
  cases forked with
  | error detail =>
      have held : 0 + others = {.descriptor stdoutPipe.read} + ({.descriptor stdoutPipe.write} +
          ({.descriptor stderrPipe.read} + ({.descriptor stderrPipe.write} + 0))) := by
        rw [zero_add, ← same]
        simp only [Pipe.ends, add_zero, add_assoc]
      change handling.Leaves (0 + others) _ _
      rw [held]
      apply Handling.Leaves.release rfl (fun _ => rfl) fun _ => rfl
      intro _
      apply Handling.Leaves.release rfl (fun _ => rfl) fun _ => rfl
      intro _
      apply Handling.Leaves.release rfl (fun _ => rfl) fun _ => rfl
      intro _
      apply Handling.Leaves.release rfl (fun _ => rfl) fun _ => rfl
      exact fun _ => .done rfl
  | ok child =>
      have held : {.child child} + others = {.descriptor stdoutPipe.write} +
          ({.descriptor stderrPipe.write} +
            (Readers.mk stdoutPipe.read stderrPipe.read).held child none) := by
        rw [← same]
        simp only [Pipe.ends, Readers.held, Readers.ends]
        ac_rfl
      change handling.Leaves ({.child child} + others) _ _
      rw [held]
      apply Handling.Leaves.release rfl (fun _ => rfl) fun _ => rfl
      intro _
      apply Handling.Leaves.release rfl (fun _ => rfl) fun _ => rfl
      exact fun _ => leaves_captureChild

theorem leaves_runCapture {command : UtilityCommand} {callback : Bool} :
    handling.Leaves 0 (runCapture fuel command callback) fun _ => 0 := by
  apply Handling.Leaves.ite
  · exact .done rfl
  apply Handling.Leaves.call (fun _ impossible => by cases impossible)
  intro first others split _
  have nothing : others = 0 := (split.trans (zero_add others)).symm
  subst nothing
  cases first with
  | error detail => exact .done rfl
  | ok stdoutPipe =>
      apply Handling.Leaves.call (fun _ impossible => by cases impossible)
      intro second others split _
      have same : stdoutPipe.ends + 0 = others := split.trans (zero_add others)
      cases second with
      | error detail =>
          have held : 0 + others = {.descriptor stdoutPipe.read} +
              ({.descriptor stdoutPipe.write} + 0) := by
            rw [zero_add, ← same]
            simp [Pipe.ends]
          change handling.Leaves (0 + others) _ _
          rw [held]
          apply Handling.Leaves.release rfl (fun _ => rfl) fun _ => rfl
          intro _
          apply Handling.Leaves.release rfl (fun _ => rfl) fun _ => rfl
          exact fun _ => .done rfl
      | ok stderrPipe =>
          have held : stderrPipe.ends + others = stdoutPipe.ends + stderrPipe.ends := by
            rw [← same, add_zero, add_comm]
          change handling.Leaves (stderrPipe.ends + others) _ _
          rw [held]
          exact leaves_forkChild

end Ledger

/-! ## Every run -/

section Runs

variable {fuel : Nat} {command : UtilityCommand} {callback : Bool}
variable {last : FdProgram (Result ProcessOutput)}

/-- Whatever the system answers: no descriptor is used or closed but one that was
opened and not closed yet, no child is signalled or waited for that was reaped,
and at the end every descriptor is closed and the child was waited for. -/
theorem runCapture_leaves_nothing {held : Multiset Resource}
    (reaches : Reaches handling.ledger (runCapture fuel command callback, 0) (last, held)) :
    held.Nodup ∧
      (∀ operation rest, last = .call operation rest →
        ∀ resource ∈ handling.uses operation, resource ∈ held) ∧
      ∀ result, last = .done result → held = 0 :=
  leaves_runCapture.of_reaches Multiset.nodup_zero reaches

/-- Without its descriptors every run is one of the capture that has none, with
the same answers and the same result. -/
theorem runCapture_looks {possible : (operation : PipeCall) → PipeAnswer operation → Prop}
    {history : History FdAnswer}
    (reaches : Reaches (recording (LooksPossible seen possible))
      (runCapture fuel command callback, []) (last, history)) :
    ∃ lastAbove, Reaches (recording possible)
      (OutputCapture.runCapture fuel command callback, []) (lastAbove, lookAt seen history) ∧
        ∀ result, last = .done result → lastAbove = .done result :=
  (refines_runCapture fuel command callback).looks reaches

end Runs

/-! ## A child that writes nothing -/

/-- The answers where the descriptors are free that are opened next. -/
def silentChild : Responder FdAnswer (Multiset Resource)
  | held, .pipe =>
      if .descriptor 3 ∉ held ∧ .descriptor 4 ∉ held then
        some (.ok ⟨3, 4⟩, Pipe.ends ⟨3, 4⟩ + held)
      else if .descriptor 5 ∉ held ∧ .descriptor 6 ∉ held then
        some (.ok ⟨5, 6⟩, Pipe.ends ⟨5, 6⟩ + held)
      else none
  | held, .fork _ _ _ =>
      if .child 7 ∉ held then some (.ok 7, {.child 7} + held) else none
  | held, .close fd =>
      if .descriptor fd ∈ held then some ((), held.erase (.descriptor fd)) else none
  | held, .setNonBlocking _ _ => some (.ok (), held)
  | held, .read _ _ => some (.nothing, held)
  | held, .waitpid child .noHang =>
      if .child child ∈ held then some (.reaped (.exited 0), held.erase (.child child)) else none
  | held, .steadyClock => some ((0 : Nat), held)
  | _, _ => none

theorem opens_within {held : Multiset Resource} {pipe : Pipe} (distinct : pipe.read ≠ pipe.write)
    (free : .descriptor pipe.read ∉ held ∧ .descriptor pipe.write ∉ held) :
    handling.ledger.answers held .pipe (.ok pipe) (pipe.ends + held) := by
  refine ⟨?_, ?_, held, (zero_add held).symm, rfl⟩
  · simpa [handling, Pipe.ends] using distinct
  · simpa [handling, Pipe.ends] using free

theorem within_silentChild : silentChild.Within handling.ledger id := by
  intro held operation answer next responded
  refine ⟨held, .refl, ?_⟩
  unfold silentChild at responded
  split at responded
  · split at responded
    next free =>
      cases responded
      exact opens_within (by decide) free
    next =>
      split at responded
      next free =>
        cases responded
        exact opens_within (by decide) free
      next => cases responded
  · split at responded
    next free =>
      cases responded
      refine ⟨Multiset.nodup_singleton _, ?_, held, (zero_add held).symm, rfl⟩
      simpa [handling] using free
    next => cases responded
  · split at responded
    next isOpen =>
      cases responded
      exact ⟨Multiset.nodup_zero, by simp [handling], _, (Multiset.cons_erase isOpen).symm,
        (zero_add _).symm⟩
    next => cases responded
  · cases responded
    exact ⟨Multiset.nodup_zero, by simp [handling], held, (zero_add held).symm, (zero_add _).symm⟩
  · cases responded
    exact ⟨Multiset.nodup_zero, by simp [handling], held, (zero_add held).symm, (zero_add _).symm⟩
  · split at responded
    next there =>
      cases responded
      exact ⟨Multiset.nodup_zero, by simp [handling], _, (Multiset.cons_erase there).symm,
        (zero_add _).symm⟩
    next => cases responded
  · cases responded
    exact ⟨Multiset.nodup_zero, by simp [handling], held, (zero_add held).symm, (zero_add _).symm⟩
  · cases responded

theorem runCapture_leaves_nothing_example : ∃ held, held = 0 ∧
    Reaches handling.ledger (runCapture 5 versionCommand true, 0)
      (.done (.ok { exitCode := 0, stdoutText := [], stderrText := [] }), held) := by
  have captured : Reaches handling.ledger (runCapture 5 versionCommand true, 0)
      (.done (.ok { exitCode := 0, stdoutText := [], stderrText := [] }), _) :=
    reaches_of_follow within_silentChild (by rfl)
  exact ⟨_, (runCapture_leaves_nothing captured).2.2 _ rfl, captured⟩

/-- The calls and their answers are kept beside what is held. -/
def recorded : Responder FdAnswer (Multiset Resource × History FdAnswer) :=
  silentChild.logging noted

/-- The same run looks like one of twelve calls without the closes. -/
theorem runCapture_looks_example : ∃ history : History PipeAnswer, history.length = 12 ∧
    Reaches (recording fun _ _ => True) (OutputCapture.runCapture 5 versionCommand true, [])
      (.done (.ok { exitCode := 0, stdoutText := [], stderrText := [] }), history) := by
  have within : recorded.Within (handling.ledger.logging noted) fun state =>
      (id state.1, state.2) :=
    within_silentChild.logging
  have recordedRun : Reaches (recording (LooksPossible seen fun _ _ => True))
      (runCapture 5 versionCommand true, []) ((follow recorded (runCapture 5 versionCommand true)
        (0, [])).1, (follow recorded (runCapture 5 versionCommand true) (0, [])).2.2) :=
    Reaches.log answers_noted (reaches_follow within _ (0, []))
  obtain ⟨above, ran, same⟩ := runCapture_looks recordedRun
  rw [same _ (eq_done_of_result? (by rfl))] at ran
  exact ⟨_, by rfl, ran⟩

end CaptureDescriptors

end TunProxy
