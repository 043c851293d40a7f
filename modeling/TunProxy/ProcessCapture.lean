import TunProxy.ProxyManager

/-!
# Running a utility

A utility runs as a child whose output is read through two pipes until it
exits.  A child that is not seen to exit in time is killed.
-/

namespace TunProxy

open ByteText EffectProgram

/-- The exit code of a process, in the shell's way for one that was signalled. -/
def ExitStatus.code : ExitStatus → Int
  | .exited code => code
  | .signaled number => 128 + number

/-- The callback on a chunk of the standard error stream. -/
def reportProgress (command : UtilityCommand) (chunk : Bytes) : System Unit :=
  if command.logsProgress && !chunk.isEmpty then emitLog .progress chunk else .done ()

def readOutput (command : UtilityCommand) (output : ProcessOutput) : System ProcessOutput :=
  (readAvailable .stdout).bind fun stdoutChunk =>
  (readAvailable .stderr).bind fun stderrChunk =>
  (reportProgress command stderrChunk).bind fun _ =>
  .done { output with
    stdoutText := output.stdoutText ++ stdoutChunk
    stderrText := output.stderrText ++ stderrChunk }

/-- One turn of the loop that reads until the child exits or time is up. -/
def captureStep (command : UtilityCommand) (child : Int) (deadline : Nat)
    (output : ProcessOutput) :
    System (ProcessOutput ⊕ (ProcessOutput × Option ExitStatus)) :=
  steadyClock.bind fun now =>
  if ¬ now < deadline then .done (.inr (output, none))
  else
    (readOutput command output).bind fun output =>
    (waitpid child .noHang).bind fun waited =>
    match waited with
    | .reaped status => .done (.inr (output, some status))
    | .noChild | .failed => .done (.inr (output, none))
    | .running | .interrupted => pollOutput.bind fun _ => .done (.inl output)

/-- What becomes of a child that is given up. -/
def killChild (child : Int) (failure : Error) : System (Result ProcessOutput) :=
  (kill child .kill).bind fun _ =>
  (waitpid child .block).bind fun _ => .done (.error failure)

def finishCapture (command : UtilityCommand) (child : Int) (output : ProcessOutput)
    (exited : Option ExitStatus) : System (Result ProcessOutput) :=
  match exited with
  | none => killChild child (makeError .generic (ascii "process timed out"))
  | some status => (readOutput command output).bind fun output =>
      .done (.ok { output with exitCode := status.code })

/-- The parent's side of `runCapture` after the fork. -/
def captureChild (fuel : Nat) (command : UtilityCommand) (child : Int) :
    System (Result ProcessOutput) :=
  (setNonBlocking .stdout).bind fun
    | .error detail => killChild child (makeError .generic (ascii "fcntl failed: " ++ detail))
    | .ok () => (setNonBlocking .stderr).bind fun
        | .error detail => killChild child (makeError .generic (ascii "fcntl failed: " ++ detail))
        | .ok () =>
            steadyClock.bind fun started =>
            (iterate (captureStep command child (started + command.timeout)) fuel {}).bind
              fun (output, exited) => finishCapture command child output exited

def openPipes : System (Except Bytes Unit) :=
  pipe.bind fun
    | .error detail => .done (.error detail)
    | .ok () => pipe

/-- `runCapture` over the calls it makes itself. -/
def capture (fuel : Nat) (command : UtilityCommand) : System (Result ProcessOutput) :=
  if command.arguments.head?.all List.isEmpty then
    .done (.error (makeError .invalidArguments (ascii "empty process command")))
  else
    openPipes.bind fun
      | .error detail => .done (.error (makeError .generic (ascii "pipe failed: " ++ detail)))
      | .ok () => (fork (.utility command)).bind fun
          | .error detail => .done (.error (makeError .generic (ascii "fork failed: " ++ detail)))
          | .ok child => captureChild fuel command child

/-- The calls of the program, with the utilities run as children. -/
def calls (fuel : Nat) : (operation : SystemCall) → System (SystemAnswer operation)
  | .runCapture command => capture fuel command
  | operation => .call operation .done

end TunProxy
