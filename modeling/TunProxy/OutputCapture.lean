import TunProxy.ProcessCapture
import TunProxy.EffectProgramSafety

/-!
# The output of a captured child

A captured child writes to two pipes and exits whenever it likes, while its
parent reads from them without waiting, looks whether the child has exited and
polls.  What the child wrote between the last read and its exit is read
afterwards, so that a success comes with everything it wrote.
-/

namespace TunProxy

open ByteText EffectProgram

namespace OutputCapture

/-! ## The program -/

/-- The calls of `runCapture`: to the system and to its caller. -/
inductive CaptureCall
  | system (operation : SystemCall)
  | callback (stream : ProcessStream) (chunk : Bytes)

abbrev CaptureAnswer : CaptureCall → Type
  | .system operation => SystemAnswer operation
  | .callback _ _ => Unit

abbrev CaptureProgram (α : Type) : Type :=
  EffectProgram CaptureAnswer α

def system {α : Type} (program : System α) : CaptureProgram α :=
  program.expand fun operation => .call (.system operation) .done

def report (callback : Bool) (stream : ProcessStream) (chunk : Bytes) : CaptureProgram Unit :=
  if callback && !chunk.isEmpty then .call (.callback stream chunk) .done else .done ()

def readOutput (callback : Bool) (output : ProcessOutput) : CaptureProgram ProcessOutput :=
  (system (readAvailable .stdout)).bind fun stdoutChunk =>
  (system (readAvailable .stderr)).bind fun stderrChunk =>
  (report callback .stdout stdoutChunk).bind fun _ =>
  (report callback .stderr stderrChunk).bind fun _ =>
  .done { output with
    stdoutText := output.stdoutText ++ stdoutChunk
    stderrText := output.stderrText ++ stderrChunk }

/-- One turn of the loop that reads until the child exits or time is up. -/
def captureStep (callback : Bool) (child : Int) (deadline : Nat) (output : ProcessOutput) :
    CaptureProgram (ProcessOutput ⊕ (ProcessOutput × Option ExitStatus)) :=
  (system steadyClock).bind fun now =>
  if ¬ now < deadline then .done (.inr (output, none))
  else
    (readOutput callback output).bind fun output =>
    (system (waitpid child .noHang)).bind fun waited =>
    match waited with
    | .reaped status => .done (.inr (output, some status))
    | .noChild | .failed => .done (.inr (output, none))
    | .running | .interrupted => (system pollOutput).bind fun _ => .done (.inl output)

def finishCapture (callback : Bool) (child : Int) (output : ProcessOutput)
    (exited : Option ExitStatus) : CaptureProgram (Result ProcessOutput) :=
  match exited with
  | none => system (killChild child (makeError .generic (ascii "process timed out")))
  | some status => (readOutput callback output).bind fun output =>
      .done (.ok { output with exitCode := status.code })

def captureChild (fuel : Nat) (command : UtilityCommand) (callback : Bool) (child : Int) :
    CaptureProgram (Result ProcessOutput) :=
  (system (setNonBlocking .stdout)).bind fun
    | .error detail => system (killChild child
        (makeError .generic (ascii "fcntl failed: " ++ detail)))
    | .ok () => (system (setNonBlocking .stderr)).bind fun
        | .error detail => system (killChild child
            (makeError .generic (ascii "fcntl failed: " ++ detail)))
        | .ok () => (system steadyClock).bind fun started =>
            (iterate (captureStep callback child (started + command.timeout)) fuel {}).bind
              fun (output, exited) => finishCapture callback child output exited

/-- `runCapture` over calls of `readAvailable`. -/
def captureOutput (fuel : Nat) (command : UtilityCommand) (callback : Bool) :
    CaptureProgram (Result ProcessOutput) :=
  if command.arguments.head?.all List.isEmpty then
    .done (.error (makeError .invalidArguments (ascii "empty process command")))
  else
    (system openPipes).bind fun
      | .error detail => .done (.error (makeError .generic (ascii "pipe failed: " ++ detail)))
      | .ok () => (system (fork (.utility command))).bind fun
          | .error detail => .done (.error (makeError .generic (ascii "fork failed: " ++ detail)))
          | .ok child => captureChild fuel command callback child

/-! ## The callback that logs progress -/

/-- The callback of a download: what comes on the standard error stream is logged. -/
def logProgress : (operation : CaptureCall) → System (CaptureAnswer operation)
  | .system operation => perform operation
  | .callback .stdout _ => .done ()
  | .callback .stderr chunk => emitLog .progress chunk

@[simp] theorem system_logProgress {α : Type} (program : System α) :
    (system program).expand logProgress = program := by
  rw [system, expand_expand]
  exact expand_perform program

theorem report_logProgress (command : UtilityCommand) (chunk : Bytes) :
    (report command.logsProgress .stderr chunk).expand logProgress =
      reportProgress command chunk := by
  unfold report reportProgress
  split <;> rfl

theorem report_stdout_logProgress (callback : Bool) (chunk : Bytes) :
    (report callback .stdout chunk).expand logProgress = .done () := by
  unfold report
  split <;> rfl

theorem readOutput_logProgress (command : UtilityCommand) (output : ProcessOutput) :
    (readOutput command.logsProgress output).expand logProgress =
      TunProxy.readOutput command output := by
  simp [readOutput, TunProxy.readOutput, expand_bind, report_logProgress,
    report_stdout_logProgress, expand]

theorem captureStep_logProgress (command : UtilityCommand) (child : Int) (deadline : Nat)
    (output : ProcessOutput) :
    (captureStep command.logsProgress child deadline output).expand logProgress =
      TunProxy.captureStep command child deadline output := by
  simp only [captureStep, TunProxy.captureStep, expand_bind, system_logProgress]
  congr
  ext now
  split
  · rfl
  · rw [expand_bind, readOutput_logProgress]
    congr
    ext output
    rw [expand_bind, system_logProgress]
    congr
    ext waited
    cases waited with
    | running => simp [expand_bind, expand]
    | interrupted => simp [expand_bind, expand]
    | reaped status => rfl
    | noChild => rfl
    | failed => rfl

theorem finishCapture_logProgress (command : UtilityCommand) (child : Int) (output : ProcessOutput)
    (exited : Option ExitStatus) :
    (finishCapture command.logsProgress child output exited).expand logProgress =
      TunProxy.finishCapture command child output exited := by
  cases exited with
  | none => exact system_logProgress _
  | some status => simp [finishCapture, TunProxy.finishCapture, expand_bind,
      readOutput_logProgress, expand]

theorem captureChild_logProgress (fuel : Nat) (command : UtilityCommand) (child : Int) :
    (captureChild fuel command command.logsProgress child).expand logProgress =
      TunProxy.captureChild fuel command child := by
  simp only [captureChild, TunProxy.captureChild, expand_bind, system_logProgress]
  congr
  ext first
  cases first with
  | error detail => exact system_logProgress _
  | ok value =>
      simp only [expand_bind, system_logProgress]
      congr
      ext second
      cases second with
      | error detail => exact system_logProgress _
      | ok value =>
          simp only [expand_bind, system_logProgress, expand_iterate, captureStep_logProgress,
            finishCapture_logProgress]

/-- The capture of a utility is the general one with this callback. -/
theorem captureOutput_logProgress (fuel : Nat) (command : UtilityCommand) :
    (captureOutput fuel command command.logsProgress).expand logProgress =
      capture fuel command := by
  unfold captureOutput capture
  split
  · rfl
  · rw [expand_bind, system_logProgress]
    congr
    ext pipes
    cases pipes with
    | error detail => rfl
    | ok value =>
        rw [expand_bind, system_logProgress]
        congr
        ext forked
        cases forked with
        | error detail => rfl
        | ok child => exact captureChild_logProgress fuel command child

/-! ## The pipes -/

/-- The calls with single reads from a pipe. -/
inductive PipeCall
  | read (stream : ProcessStream)
  | other (operation : CaptureCall)

/-- What `read` gives: some bytes, or none at the end of the stream, where there
are none yet, or on a failure. -/
inductive ReadAnswer
  | chunk (first : UInt8) (more : Bytes)
  | nothing

abbrev PipeAnswer : PipeCall → Type
  | .read _ => ReadAnswer
  | .other operation => CaptureAnswer operation

abbrev PipeProgram (α : Type) : Type :=
  EffectProgram PipeAnswer α

def kReadBuffer : Nat := 4096

/-- One turn of the loop of `readAvailable`. -/
def readStep (stream : ProcessStream) (result : Bytes) : PipeProgram (Bytes ⊕ Bytes) :=
  .call (.read stream) fun
    | .chunk first more => .done (.inl (result ++ first :: more))
    | .nothing => .done (.inr result)

def readAvailable (fuel : Nat) (stream : ProcessStream) : PipeProgram Bytes :=
  iterate (readStep stream) fuel []

def pipeCalls (fuel : Nat) : (operation : CaptureCall) → PipeProgram (CaptureAnswer operation)
  | .system (.readAvailable stream) => readAvailable fuel stream
  | operation => .call (.other operation) .done

/-- `runCapture` with the loops that read. -/
def runCapture (fuel : Nat) (command : UtilityCommand) (callback : Bool) :
    PipeProgram (Result ProcessOutput) :=
  (captureOutput fuel command callback).expand (pipeCalls fuel)

/-! ## The child -/

inductive ChildState
  | absent
  | running
  | exited (status : ExitStatus)

/-- The child with its two pipes.  It is kept what it has written and which chunks
the callback was given. -/
structure Capture where
  child : ChildState
  pending : ProcessStream → Bytes
  written : ProcessStream → Bytes
  reported : ProcessStream → List Bytes

/-- Before the fork. -/
def Capture.start : Capture :=
  ⟨.absent, fun _ => [], fun _ => [], fun _ => []⟩

def Capture.write (world : Capture) (stream : ProcessStream) (part : Bytes) : Capture :=
  { world with
    pending := Function.update world.pending stream (world.pending stream ++ part)
    written := Function.update world.written stream (world.written stream ++ part) }

def Capture.exit (world : Capture) (status : ExitStatus) : Capture :=
  { world with child := .exited status }

/-- What the child does by itself, as long as it runs. -/
inductive ChildMoves : Capture → Capture → Prop
  | writes {world : Capture} (running : world.child = .running) (stream : ProcessStream)
      (part : Bytes) : ChildMoves world (world.write stream part)
  | exits {world : Capture} (running : world.child = .running) (status : ExitStatus) :
      ChildMoves world (world.exit status)

/-- How the calls may be answered, all that there is being read at once. -/
def CaptureAnswers (world : Capture) (operation : CaptureCall) (answer : CaptureAnswer operation)
    (next : Capture) : Prop :=
  match operation, answer with
  | .system (.readAvailable stream), chunk => chunk = world.pending stream ∧
      next = { world with pending := Function.update world.pending stream [] }
  | .system (.fork _), .ok _ => world.child = .absent ∧ next = { world with child := .running }
  | .system (.waitpid _ _), .reaped status => world.child = .exited status ∧ next = world
  | .callback stream chunk, _ => next = { world with
      reported := Function.update world.reported stream (world.reported stream ++ [chunk]) }
  | .system _, _ => next = world

/-- A child and its parent, the pipes being read at once. -/
def capturing : Surroundings CaptureAnswer Capture where
  answers := CaptureAnswers
  drift := ChildMoves

/-- How the calls may be answered, some of what there is being read. -/
def PipeAnswers (world : Capture) (operation : PipeCall) (answer : PipeAnswer operation)
    (next : Capture) : Prop :=
  match operation, answer with
  | .read stream, .chunk first more => more.length < kReadBuffer ∧ ∃ rest,
      world.pending stream = first :: more ++ rest ∧
        next = { world with pending := Function.update world.pending stream rest }
  | .read stream, .nothing => world.pending stream = [] ∧ next = world
  | .other operation, answer => CaptureAnswers world operation answer next

/-- A child and its parent, the pipes being read in pieces. -/
def pipes : Surroundings PipeAnswer Capture where
  answers := PipeAnswers
  drift := ChildMoves

/-! ## What has been collected -/

/-- What was written is what has been read and what is still to be read, and the
callback was given what has been read.  Once the child has exited, nothing more
comes to a pipe that has been drained. -/
structure Collected (callback : Bool) (exited : Option ExitStatus)
    (drained : ProcessStream → Prop) (texts reports : ProcessStream → Bytes) (world : Capture) :
    Prop where
  written : ∀ stream, world.written stream = texts stream ++ world.pending stream
  reported : callback = true → ∀ stream, (world.reported stream).flatten = reports stream
  status : ∀ status, exited = some status → world.child = .exited status
  drained : exited ≠ none → ∀ stream, drained stream → world.pending stream = []

section Collecting

variable {callback : Bool} {exited : Option ExitStatus} {drained : ProcessStream → Prop}
variable {texts reports : ProcessStream → Bytes} {world next : Capture}

/-- A child that has exited does nothing any more. -/
theorem ChildMoves.running (moves : ChildMoves world next) : world.child = .running := by
  cases moves with
  | writes running stream part => exact running
  | exits running status => exact running

theorem Collected.running (collected : Collected callback exited drained texts reports world)
    (running : world.child = .running) : exited = none := by
  cases exited with
  | none => rfl
  | some status =>
      have done := collected.status status rfl
      simp [running] at done

theorem stable_collected :
    Stable capturing (Collected callback exited drained texts reports) := by
  intro world next collected moves
  have none := collected.running moves.running
  subst none
  cases moves with
  | writes running stream part =>
      refine ⟨fun other => ?_, collected.reported, by simp, by simp⟩
      by_cases same : other = stream
      · subst same
        simp [Capture.write, collected.written]
      · simp [Capture.write, same, collected.written]
  | exits running status =>
      exact ⟨collected.written, collected.reported, by simp, by simp⟩

theorem Collected.read (collected : Collected callback exited drained texts reports world)
    (stream : ProcessStream) :
    Collected callback exited (fun other => other = stream ∨ drained other)
      (Function.update texts stream (texts stream ++ world.pending stream)) reports
      { world with pending := Function.update world.pending stream [] } := by
  refine ⟨fun other => ?_, collected.reported, collected.status, ?_⟩
  · by_cases same : other = stream
    · subst same
      simp [collected.written]
    · simp [same, collected.written]
  · rintro gone other (rfl | before)
    · simp
    · by_cases same : other = stream
      · simp [same]
      · simpa [same] using collected.drained gone other before

theorem Collected.report (collected : Collected callback exited drained texts reports world)
    (stream : ProcessStream) (chunk : Bytes) :
    Collected callback exited drained texts
      (Function.update reports stream (reports stream ++ chunk))
      { world with
        reported := Function.update world.reported stream (world.reported stream ++ [chunk]) } := by
  refine ⟨collected.written, fun called other => ?_, collected.status, collected.drained⟩
  by_cases same : other = stream
  · subst same
    simp [collected.reported called]
  · simp [same, collected.reported called]

/-- From what has been collected, the program goes on to collect. -/
def Collects {α : Type} (pre : Capture → Prop) (program : CaptureProgram α)
    (post : α → Capture → Prop) : Prop :=
  Triple capturing unwatched pre program post

theorem collects_call {α : Type} {operation : CaptureCall}
    {rest : CaptureAnswer operation → CaptureProgram α} {post : α → Capture → Prop}
    (answered : ∀ world answer next, Collected callback exited drained texts reports world →
      CaptureAnswers world operation answer next →
        Safe capturing unwatched post (rest answer) next) :
    Collects (Collected callback exited drained texts reports) (.call operation rest) post :=
  Triple.call stable_collected (fun _ _ => trivial) (fun _ _ => trivial) answered

theorem collects_done {α : Type} {value : α} {post : α → Capture → Prop}
    (implies : ∀ world, Collected callback exited drained texts reports world → post value world) :
    Collects (Collected callback exited drained texts reports) (.done value) post :=
  Triple.done stable_collected (fun _ _ => trivial) implies

theorem collects_report (stream : ProcessStream) (chunk : Bytes) :
    Collects (Collected callback exited drained texts reports) (report callback stream chunk)
      fun _ => Collected callback exited drained texts
        (Function.update reports stream (reports stream ++ chunk)) := by
  unfold report
  split
  next called =>
    apply collects_call
    rintro world answer next collected rfl
    exact collects_done (fun _ => id) _ (collected.report stream chunk)
  next silent =>
    apply collects_done
    intro world collected
    refine ⟨collected.written, fun called => ?_, collected.status, collected.drained⟩
    have empty : chunk = [] := by simpa [called] using silent
    simpa [empty] using collected.reported called

/-- What an output holds of each stream. -/
def text (output : ProcessOutput) : ProcessStream → Bytes
  | .stdout => output.stdoutText
  | .stderr => output.stderrText

def Holds (callback : Bool) (exited : Option ExitStatus) (drained : Prop) (output : ProcessOutput) :
    Capture → Prop :=
  Collected callback exited (fun _ => drained) (text output) (text output)

theorem text_append (output : ProcessOutput) (stdoutChunk stderrChunk : Bytes) :
    Function.update
      (Function.update (text output) .stdout (text output .stdout ++ stdoutChunk)) .stderr
      (Function.update (text output) .stdout (text output .stdout ++ stdoutChunk) .stderr ++
        stderrChunk) =
    text { output with
      stdoutText := output.stdoutText ++ stdoutChunk
      stderrText := output.stderrText ++ stderrChunk } := by
  ext1 stream
  cases stream with
  | stdout => simp [text]
  | stderr => simp [text]

theorem collects_readOutput (output : ProcessOutput) :
    Collects (Holds callback exited False output) (readOutput callback output)
      (Holds callback exited True) := by
  apply collects_call
  rintro world stdoutChunk next before ⟨rfl, rfl⟩
  refine collects_call ?_ _ (before.read .stdout)
  rintro world stderrChunk next between ⟨rfl, rfl⟩
  refine ((collects_report .stdout _).bind fun _ => ?_) _ (between.read .stderr)
  refine (collects_report .stderr _).bind fun _ => ?_
  apply collects_done
  rintro world ⟨written, reported, status, drained⟩
  simp only [text_append] at written reported
  refine ⟨written, reported, status, fun gone stream _ => drained gone stream ?_⟩
  cases stream with
  | stdout => simp
  | stderr => simp

/-- What the loop has collected when it ends with or without an exit status. -/
theorem collects_captureStep (child : Int) (deadline : Nat) (output : ProcessOutput) :
    Collects (Holds callback none False output) (captureStep callback child deadline output) fun
      | .inl output => Holds callback none False output
      | .inr (output, exited) => Holds callback exited False output := by
  apply collects_call
  rintro world now next before rfl
  simp only [expand, done_bind]
  split
  · exact collects_done (fun _ => id) _ before
  · refine ((collects_readOutput output).bind fun output => ?_) _ before
    apply collects_call
    intro world waited next collected answers
    have forget {next : Capture} (exited : Option ExitStatus)
        (status : ∀ status, exited = some status → next.child = .exited status)
        (same : next = world) : Holds callback exited False output next := by
      subst same
      exact ⟨collected.written, collected.reported, status, by simp⟩
    cases waited with
    | reaped status =>
        obtain ⟨gone, rfl⟩ := answers
        refine collects_done (fun _ => id) _ (forget (some status) ?_ rfl)
        rintro other ⟨⟩
        exact gone
    | noChild => exact collects_done (fun _ => id) _ (forget none (by simp) answers)
    | failed => exact collects_done (fun _ => id) _ (forget none (by simp) answers)
    | running =>
        refine collects_call ?_ _ (forget none (by simp) answers)
        rintro world polled next again rfl
        exact collects_done (fun _ => id) _ again
    | interrupted =>
        refine collects_call ?_ _ (forget none (by simp) answers)
        rintro world polled next again rfl
        exact collects_done (fun _ => id) _ again

/-- A success comes with all that a child wrote that has exited. -/
def Complete (callback : Bool) (result : Result ProcessOutput) (world : Capture) : Prop :=
  ∀ output, result = .ok output →
    (∃ status, world.child = .exited status ∧ output.exitCode = status.code) ∧
    ∀ stream, text output stream = world.written stream ∧
      (callback = true → (world.reported stream).flatten = text output stream)

theorem complete_killChild (child : Int) (failure : Error) (world : Capture) :
    Safe capturing unwatched (Complete callback) (system (killChild child failure)) world := by
  have fails : (system (killChild child failure)).Yields (IfOk fun _ => False) := by
    intro _ _
    exact ifOk_error
  have safe := (safe_unwatched capturing (system (killChild child failure)) world).and_yields fails
  refine safe.imp ?_
  rintro result last ⟨-, impossible⟩ output success
  exact (impossible output success).elim

theorem complete_finishCapture (child : Int) (output : ProcessOutput) :
    Collects (Holds callback exited False output) (finishCapture callback child output exited)
      (Complete callback) := by
  cases exited with
  | none => exact fun world _ => complete_killChild child _ world
  | some status =>
      refine (collects_readOutput output).bind fun output => ?_
      apply collects_done
      rintro world collected _ ⟨⟩
      refine ⟨⟨status, collected.status status rfl, rfl⟩, fun stream => ?_⟩
      have drained := collected.drained (by simp) stream trivial
      have written := collected.written stream
      rw [drained, List.append_nil] at written
      have same : text { output with exitCode := status.code } stream = text output stream := by
        cases stream with
        | stdout => rfl
        | stderr => rfl
      exact ⟨same.trans written.symm, fun called =>
        (collected.reported called stream).trans same.symm⟩

theorem collects_loop (fuel : Nat) (child : Int) (deadline : Nat) (output : ProcessOutput) :
    Collects (Holds callback none False output)
      (iterate (captureStep callback child deadline) fuel output)
      fun (output, exited) => Holds callback exited False output := by
  refine Triple.iterate (fun _ => stable_collected) (fun _ _ _ => trivial) trivial ?_ fuel output
  intro output
  refine (collects_captureStep child deadline output).imp ?_
  rintro (next | ⟨output, exited⟩) world collected
  · exact collected
  · exact collects_done (fun _ => id) _ collected

theorem complete_captureChild (fuel : Nat) (command : UtilityCommand) (child : Int) :
    Collects (Holds callback none False {}) (captureChild fuel command callback child)
      (Complete callback) := by
  apply collects_call
  rintro world first next before rfl
  cases first with
  | error detail => exact complete_killChild child _ _
  | ok value =>
      refine collects_call ?_ _ before
      rintro world second next before rfl
      cases second with
      | error detail => exact complete_killChild child _ _
      | ok value =>
          refine collects_call ?_ _ before
          rintro world started next before rfl
          refine ((collects_loop fuel child _ {}).bind ?_) _ before
          rintro ⟨output, exited⟩
          exact complete_finishCapture child output

theorem complete_captureOutput (fuel : Nat) (command : UtilityCommand) :
    Safe capturing unwatched (Complete callback) (captureOutput fuel command callback) .start := by
  have start : Holds callback none False {} .start := by
    refine ⟨fun stream => ?_, fun _ stream => ?_, by simp, by simp⟩
    · cases stream <;> rfl
    · cases stream <;> rfl
  have failed (failure : Error) : Collects (Holds callback none False {})
      (.done (.error failure)) (Complete callback) :=
    collects_done fun _ _ _ => nofun
  unfold captureOutput
  split
  · exact failed _ _ start
  · have forking : Collects (Holds callback none False {})
        ((system (fork (.utility command))).bind fun
          | .error detail => .done (.error (makeError .generic (ascii "fork failed: " ++ detail)))
          | .ok child => captureChild fuel command callback child) (Complete callback) := by
      apply collects_call
      intro world forked next before answers
      cases forked with
      | error detail => exact failed _ _ (answers ▸ before)
      | ok child =>
          obtain ⟨-, rfl⟩ := answers
          exact complete_captureChild fuel command child _
            ⟨before.written, before.reported, by simp, by simp⟩
    refine collects_call ?_ _ start
    rintro world first next before rfl
    cases first with
    | error detail => exact failed _ _ before
    | ok value =>
        refine collects_call ?_ _ before
        rintro world second next before rfl
        cases second with
        | error detail => exact failed _ _ before
        | ok value => exact forking _ before

end Collecting

/-! ## Reading in pieces -/

/-- What was read is put back in front of what is in the pipe. -/
def Capture.putBack (world : Capture) (stream : ProcessStream) (received : Bytes) : Capture :=
  { world with
    pending := Function.update world.pending stream (received ++ world.pending stream) }

theorem write_putBack (world : Capture) (other stream : ProcessStream) (part received : Bytes) :
    (world.write other part).putBack stream received =
      (world.putBack stream received).write other part := by
  simp only [Capture.write, Capture.putBack, Capture.mk.injEq, true_and, and_true]
  ext1 third
  by_cases same : other = stream
  · subst same
    by_cases here : third = other <;> simp [here]
  · by_cases here : third = other <;> by_cases there : third = stream <;> simp_all

/-- The child does the same whether something was read or not. -/
theorem ChildMoves.putBack {world next : Capture} (moves : ChildMoves world next)
    (stream : ProcessStream) (received : Bytes) :
    ChildMoves (world.putBack stream received) (next.putBack stream received) := by
  cases moves with
  | exits running status => exact @ChildMoves.exits (world.putBack stream received) running status
  | writes running other part =>
      rw [write_putBack]
      exact @ChildMoves.writes (world.putBack stream received) running other part

/-- The child has moved on since, and part of what there would be in its pipe has
been read. -/
def PartlyRead (first : Capture) (stream : ProcessStream) (received : Bytes) (world : Capture) :
    Prop :=
  capturing.Drifts first (world.putBack stream received)

theorem stable_partlyRead (first : Capture) (stream : ProcessStream) (received : Bytes) :
    Stable pipes (PartlyRead first stream received) :=
  fun _ _ drifts moves => drifts.tail (moves.putBack stream received)

/-- What a single read of everything could have given at some time. -/
def ReadAtOnce (first : Capture) (stream : ProcessStream) (chunk : Bytes) (last : Capture) :
    Prop :=
  ∃ before after, capturing.Drifts first before ∧
    CaptureAnswers before (.system (.readAvailable stream)) chunk after ∧
    capturing.Drifts after last

theorem stable_readAtOnce (first : Capture) (stream : ProcessStream) (chunk : Bytes) :
    Stable pipes (ReadAtOnce first stream chunk) :=
  fun _ _ ⟨before, after, drifts, answers, movedOn⟩ moves =>
    ⟨before, after, drifts, answers, movedOn.tail moves⟩

theorem reads_readStep (first : Capture) (stream : ProcessStream) (received : Bytes) :
    Triple pipes unwatched (PartlyRead first stream received) (readStep stream received) fun
      | .inl received => PartlyRead first stream received
      | .inr chunk => Safe pipes unwatched (ReadAtOnce first stream) (.done chunk) := by
  apply Triple.call (stable_partlyRead first stream received) (fun _ _ => trivial)
    (fun _ _ => trivial)
  intro world answer next partly answers
  cases answer with
  | chunk byte more =>
      obtain ⟨-, rest, there, rfl⟩ := answers
      have more : PartlyRead first stream (received ++ byte :: more)
          { world with pending := Function.update world.pending stream rest } := by
        unfold PartlyRead at partly ⊢
        simpa [Capture.putBack, there] using partly
      exact Triple.done (stable_partlyRead first stream _) (fun _ _ => trivial) (fun _ => id) _ more
  | nothing =>
      obtain ⟨empty, rfl⟩ := answers
      have emptied : Function.update next.pending stream [] = next.pending := by
        rw [← empty, Function.update_eq_self]
      refine Triple.done (stable_readAtOnce first stream received) (fun _ _ => trivial)
        (fun _ atOnce => ?_) next ⟨next.putBack stream received, next, partly, ⟨?_, ?_⟩, .refl⟩
      · exact Triple.done (stable_readAtOnce first stream received) (fun _ _ => trivial)
          (fun _ => id) _ atOnce
      · simp [Capture.putBack, empty]
      · simp [Capture.putBack, emptied]

/-- A loop of reads gives what one read of everything could have given when the
last of them was made. -/
theorem safe_readAvailable (fuel : Nat) (stream : ProcessStream) (first : Capture) :
    Safe pipes unwatched (ReadAtOnce first stream) (readAvailable fuel stream) first := by
  have start : PartlyRead first stream [] first := by
    have same : first.putBack stream [] = first := by simp [Capture.putBack]
    rw [PartlyRead, same]
    exact .refl
  refine Triple.iterate (stable_partlyRead first stream) (fun _ _ _ => trivial) trivial ?_ fuel
    [] first start
  intro received
  refine (reads_readStep first stream received).imp ?_
  rintro (more | chunk) world holds
  · exact holds
  · exact holds

/-- Every call with its reads answers as it may be answered at once. -/
theorem safe_pipeCalls (fuel : Nat) (operation : CaptureCall) (world : Capture) :
    Safe pipes unwatched (fun answer last => ∃ before after, capturing.Drifts world before ∧
      capturing.answers before operation answer after ∧ capturing.Drifts after last)
      (pipeCalls fuel operation) world := by
  unfold pipeCalls
  split
  next stream => exact safe_readAvailable fuel stream world
  next operation other =>
    intro before drifts
    refine ⟨trivial, trivial, fun answer after answers last movedOn => ⟨trivial, ?_⟩⟩
    exact ⟨before, after, drifts, answers, movedOn⟩

/-- Whatever the child writes and whenever it exits, a success comes with exactly
what it wrote to each stream until then, and the callback was given that, too. -/
theorem runCapture_complete {fuel : Nat} {command : UtilityCommand} {callback : Bool}
    {output : ProcessOutput} {last : Capture}
    (reaches : Reaches pipes (runCapture fuel command callback, .start)
      (.done (.ok output), last)) :
    (∃ status, last.child = .exited status ∧ output.exitCode = status.code) ∧
    ∀ stream, text output stream = last.written stream ∧
      (callback = true → (last.reported stream).flatten = text output stream) := by
  have safe : Safe pipes unwatched (Complete callback) (runCapture fuel command callback)
      .start := by
    unfold runCapture
    refine Safe.expand_of_drifts ?_ ?_ ?_ ?_ (complete_captureOutput fuel command)
    · exact fun _ _ => id
    · exact fun _ => id
    · exact id
    · exact fun operation world _ _ => safe_pipeCalls fuel operation world
  exact (safe.of_reaches reaches).result output rfl

/-- A child that writes something, and something more right before it exits. -/
def lateWriter : Responder PipeAnswer Capture
  | world, .read stream =>
      match world.pending stream with
      | [] => some (.nothing, world)
      | byte :: rest => some (.chunk byte [], { world with
          pending := Function.update world.pending stream rest })
  | world, .other (.callback stream chunk) => some ((), { world with
      reported := Function.update world.reported stream (world.reported stream ++ [chunk]) })
  | world, .other (.system (.waitpid _ _)) =>
      match world.child, world.written .stdout with
      | .running, [] => some (.running, world.write .stdout (ascii "early, "))
      | .running, _ =>
          some (.reaped (.exited 0), (world.write .stdout (ascii "late")).exit (.exited 0))
      | _, _ => none
  | world, .other (.system (.fork _)) =>
      match world.child with
      | .absent => some (.ok 100, { world with child := .running })
      | _ => none
  | world, .other (.system .steadyClock) => some ((0 : Nat), world)
  | world, .other (.system .pipe) => some (.ok (), world)
  | world, .other (.system (.setNonBlocking _)) => some (.ok (), world)
  | world, .other (.system .pollOutput) => some ((), world)
  | _, _ => none

theorem within_lateWriter : lateWriter.Within pipes id := by
  intro world operation answer next responded
  unfold lateWriter at responded
  split at responded
  · split at responded
    next empty =>
      cases responded
      exact ⟨world, .refl, empty, rfl⟩
    next byte rest there =>
      cases responded
      exact ⟨world, .refl, by decide, rest, there, rfl⟩
  · cases responded
    exact ⟨world, .refl, rfl⟩
  · split at responded
    next running nothing =>
      cases responded
      exact ⟨_, .single (.writes running _ _), rfl⟩
    next running something =>
      cases responded
      have wrote := ChildMoves.writes running .stdout (ascii "late")
      have gone := @ChildMoves.exits (world.write .stdout (ascii "late")) running (.exited 0)
      exact ⟨_, .tail (.single wrote) gone, rfl, rfl⟩
    next => cases responded
  · split at responded
    next absent =>
      cases responded
      exact ⟨world, .refl, absent, rfl⟩
    next => cases responded
  all_goals cases responded
  all_goals exact ⟨world, .refl, rfl⟩

def versionCommand : UtilityCommand where
  tool := .coreVersion [ascii "sing-box"]
  arguments := [ascii "/sing-box", ascii "version"]
  timeout := 5000

theorem runCapture_complete_example : ∃ (output : ProcessOutput) (last : Capture),
    text output .stdout = ascii "early, late" ∧ text output .stdout = last.written .stdout := by
  have captured : Reaches pipes (runCapture 20 versionCommand true, .start)
      (.done (.ok { exitCode := 0, stdoutText := ascii "early, late", stderrText := [] }), _) :=
    reaches_of_follow within_lateWriter (by rfl)
  exact ⟨_, _, rfl, ((runCapture_complete captured).2 .stdout).1⟩

end OutputCapture

end TunProxy
