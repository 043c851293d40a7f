import TunProxy.CoreManager
import TunProxy.ProcessStatText

/-!
# The runtime state store

Loading, saving and clearing the state file, and the check whether the process
it names is still the core it was written for.
-/

namespace TunProxy

open ByteText EffectProgram

/-- The kernel's mark behind the path of an executable that was removed. -/
def deletedSuffix : Bytes :=
  ascii " (deleted)"

def stripDeleted (executable : Bytes) : Bytes :=
  if deletedSuffix.isSuffixOf executable then
    executable.take (executable.length - deletedSuffix.length)
  else executable

def loadState : System (Result RuntimeState) :=
  (readTextFile .state).bind fun content => .done (parseState content)

def clearState : System (Result Unit) :=
  (removeFile .state).bind fun
    | .failed detail => .done (.error (makeError .stateError detail))
    | _ => .done (.ok ())

def Setup.saveState (setup : Setup) (state : RuntimeState) : System (Result Unit) :=
  (ensureDirectory setup.paths.runtimeDir 0o755).andThen fun _ =>
  writeFileAtomic .state (writeState state) 0o644

def processStartTicks (pid : Int) : System (Result Nat) :=
  (readTextFile (.processStat pid)).bind fun content => .done (parseStartTicks content)

/-- What `isManagedProcessRunning` does once a process has answered. -/
def hasRecordedIdentity (state : RuntimeState) : System (Result Bool) :=
  (processStartTicks state.pid).bind fun ticks =>
  if ticks.toOption ≠ some state.startTicks then .done (.ok false)
  else
    (readExecutableLink state.pid).bind fun actualExecutable =>
    (weaklyCanonical state.executable).bind fun expected =>
    if expected ≠ some (stripDeleted actualExecutable) then .done (.ok false)
    else .done (.ok true)

/-- Whether the process with the recorded identity runs the recorded
executable.  It always succeeds: what cannot be read counts as not running. -/
def isManagedProcessRunning (state : RuntimeState) : System (Result Bool) :=
  (kill state.pid .null).bind fun probe =>
  match probe with
  | .noProcess | .failed => .done (.ok false)
  | .delivered | .notPermitted => hasRecordedIdentity state

end TunProxy
