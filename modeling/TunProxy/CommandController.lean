import TunProxy.Daemon
import TunProxy.ProxyManager

/-!
# The command controller

What each command does and the text that it reports.  Commands that change
something hold the lock file meanwhile, so that they exclude each other also
between processes.
-/

namespace TunProxy

open ByteText EffectProgram

/-! ## Texts -/

def formatStatus (status : ProxyStatus) : Bytes :=
  ascii "Status: " ++ (if status.running then ascii "ON" else ascii "OFF") ++ [newline] ++
  (if status.upstream.isEmpty then []
    else
      ascii "Upstream: " ++ status.upstream ++
      (if status.running && !status.upstreamAddress.isEmpty then
        ascii " (" ++ status.upstreamAddress ++ ascii ")" else []) ++
      [newline]) ++
  if status.running then
    ascii "Core: sing-box " ++ status.coreVersion ++ [newline] ++
    ascii "PID: " ++ formatInt status.pid ++ [newline] ++
    ascii "Routing: " ++ status.routingMode ++ [newline] ++
    ascii "Bypass: " ++ formatNat status.bypassCidrs.length ++ ascii " CIDRs\n"
  else if status.coreInstalled then
    ascii "Core: sing-box " ++ status.coreVersion ++ [newline]
  else ascii "Core: not installed\n"

def rejectArgument (argument command : Bytes) : Result Bytes :=
  if !argument.isEmpty then
    .error (makeError .invalidArguments (command ++ ascii " takes no argument"))
  else .ok []

/-- The lines that list some CIDRs. -/
def cidrLines (cidrs : List Bytes) : Bytes :=
  cidrs.flatMap fun cidr => ascii "  " ++ cidr ++ [newline]

def formatBypass (active : Bool) (cidrs : List Bytes) (upstreamCidr : Bytes) : Bytes :=
  ascii "Bypass: " ++ (if active then ascii "active" else ascii "preview") ++ ascii ", " ++
  formatNat cidrs.length ++ ascii " CIDRs\n" ++
  (if upstreamCidr.isEmpty then [] else ascii "Upstream: " ++ upstreamCidr ++ [newline]) ++
  cidrLines cidrs

/-- What `bypass` shows as the upstream of a running proxy. -/
def pinnedCidr (status : ProxyStatus) : Bytes :=
  if status.upstreamAddress.isEmpty then []
  else
    match addressHostCidr status.upstreamAddress with
    | .ok pinned => pinned
    | .error _ => []

/-! ## Commands that only look -/

namespace Setup

variable (setup : Setup)

def executeStatus (argument : Bytes) : System (Result Bytes) :=
  match rejectArgument argument (ascii "status") with
  | .error failure => .done (.error failure)
  | .ok _ => setup.status.andThen fun status => .done (.ok (formatStatus status))

def executeBypass (argument : Bytes) : System (Result Bytes) :=
  match rejectArgument argument (ascii "bypass") with
  | .error failure => .done (.error failure)
  | .ok _ => setup.status.andThen fun status =>
      if status.running && !status.bypassCidrs.isEmpty then
        .done (.ok (formatBypass true status.bypassCidrs (pinnedCidr status)))
      else
        getifaddrs.bind fun interfaces =>
        match collectBypassPolicy interfaces [] setup.paths.tunInterface with
        | .error failure => .done (.error failure)
        | .ok preview => .done (.ok (formatBypass false preview.allCidrs []))

def executeGetSetting (argument : Bytes) : System (Result Bytes) :=
  match rejectArgument argument (ascii "setting query") with
  | .error failure => .done (.error failure)
  | .ok _ => loadConfig.andThen fun current => .done (.ok (formatUpstreamUri current))

/-! ## Commands under the lock -/

def executeSetSetting (argument : Bytes) : System (Result Bytes) :=
  if argument.isEmpty then
    .done (.error (makeError .invalidArguments (ascii "setting requires an upstream URI")))
  else
    match parseUpstreamUri argument with
    | .error failure => .done (.error failure)
    | .ok upstream => (setup.saveConfig upstream).andThen fun _ =>
        .done (.ok (ascii "Upstream: " ++ formatUpstreamUri upstream ++ [newline]))

def executeOff (argument : Bytes) : System (Result Bytes) :=
  match rejectArgument argument (ascii "command") with
  | .error failure => .done (.error failure)
  | .ok _ => setup.stop.andThen fun _ => .done (.ok (ascii "Status: OFF\n"))

def executeOn (fuel : Nat) (argument : Bytes) : System (Result Bytes) :=
  match rejectArgument argument (ascii "command") with
  | .error failure => .done (.error failure)
  | .ok _ => (setup.start fuel).andThen fun started => .done (.ok (formatStatus started))

end Setup

/-! ## The lock file -/

inductive FlockAnswer
  | locked
  | wouldBlock
  | interrupted
  | failed
  deriving DecidableEq

/-- The calls of a command: those of the managers, and those on the lock file. -/
inductive CommandCall
  | system (operation : SystemCall)
  | openLock (path : Path)
  /-- `flock` with `LOCK_EX | LOCK_NB`. -/
  | tryFlock
  /-- `flock` with `LOCK_EX`. -/
  | flock
  /-- `flock` with `LOCK_UN`. -/
  | unlock
  | closeLock

abbrev CommandAnswer : CommandCall → Type
  | .system operation => SystemAnswer operation
  | .openLock _ => Bool
  | .tryFlock => FlockAnswer
  | .flock => FlockAnswer
  | .unlock => Unit
  | .closeLock => Unit

abbrev CommandProgram (α : Type) : Type :=
  EffectProgram CommandAnswer α

def CommandProgram.ofSystem {α : Type} (program : System α) : CommandProgram α :=
  program.expand fun operation => .call (.system operation) .done

namespace FileLock

/-- One turn of the loop that waits for the lock. -/
def waitStep (_ : Unit) : CommandProgram (Unit ⊕ Result Unit) :=
  .call .flock fun
  | .locked => .done (.inr (.ok ()))
  | .interrupted => .done (.inl ())
  | _ => .call .closeLock fun _ => .done (.inr (.error
      (makeError .stateError (ascii "cannot acquire operation lock"))))

def acquire (fuel : Nat) (path : Path) (onWait : CommandProgram Unit) :
    CommandProgram (Result Unit) :=
  (CommandProgram.ofSystem (ensureDirectory path.dropLast 0o755)).andThen fun _ =>
  .call (.openLock path) fun
  | false => .done (.error (makeError .stateError (ascii "cannot open operation lock")))
  | true => .call .tryFlock fun
    | .locked => .done (.ok ())
    | .wouldBlock => onWait.bind fun _ => iterate waitStep fuel ()
    | _ => iterate waitStep fuel ()

/-- The destructor of a lock that is held. -/
def release : CommandProgram Unit :=
  .call .unlock fun _ => .call .closeLock .done

end FileLock

/-! ## The controller -/

def AppPaths.lockFile (paths : AppPaths) : Path :=
  paths.runtimeDir ++ [ascii "lock"]

/-- The managers of a controller have the default manifest. -/
def AppPaths.setup (paths : AppPaths) : Setup :=
  ⟨paths, kSingBoxRelease⟩

/-- Run a command while the lock is held. -/
def AppPaths.underLock (paths : AppPaths) (fuel : Nat) (program : System (Result Bytes)) :
    CommandProgram (Result Bytes) :=
  (FileLock.acquire fuel paths.lockFile (CommandProgram.ofSystem
    (emitLog .info (ascii "Waiting for another operation to finish")))).andThen fun _ =>
  (CommandProgram.ofSystem program).bind fun result =>
  FileLock.release.bind fun _ => .done result

def AppPaths.execute (paths : AppPaths) (fuel : Nat) (command : Command) (argument : Bytes) :
    CommandProgram (Result Bytes) :=
  match command with
  | .status => CommandProgram.ofSystem (paths.setup.executeStatus argument)
  | .bypass => CommandProgram.ofSystem (paths.setup.executeBypass argument)
  | .getSetting => CommandProgram.ofSystem (Setup.executeGetSetting argument)
  | .setSetting => paths.underLock fuel (paths.setup.executeSetSetting argument)
  | .off => paths.underLock fuel (paths.setup.executeOff argument)
  | .on => paths.underLock fuel (paths.setup.executeOn fuel argument)

end TunProxy
