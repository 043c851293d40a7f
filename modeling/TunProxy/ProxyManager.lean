import TunProxy.RuntimeStateStore
import TunProxy.SingBoxConfig

/-!
# The proxy manager

Starting and stopping the core.  A start answers at once when the recorded core
runs; otherwise it cleans up, prepares everything the core needs and launches
it, a second time without automatic redirection where the first launch fails.
The core is recorded in the state file before it is waited for, and the record
is cleared only when the core is known to have stopped.
-/

namespace TunProxy

open ByteText EffectProgram InternetText

def kPollInterval : Nat := 100
def kTunReadyTimeout : Nat := 8000
def kTunReadyQuietPeriod : Nat := 2
def kTunRemovalTimeout : Nat := 3000
def kCoreTerminateTimeout : Nat := 5000
def kCoreKillTimeout : Nat := 2000
def kCoreCheckTimeout : Nat := 10000

structure ProxyStatus where
  running : Bool := false
  upstream : Bytes := []
  coreVersion : Bytes := []
  coreInstalled : Bool := false
  pid : Int := -1
  routingMode : Bytes := []
  upstreamAddress : Bytes := []
  bypassCidrs : List Bytes := []
  deriving DecidableEq, Repr

def statusFromState (state : RuntimeState) : ProxyStatus where
  running := true
  upstream := state.upstream
  coreVersion := state.coreVersion
  coreInstalled := true
  pid := state.pid
  routingMode := state.routingMode
  upstreamAddress := state.upstreamAddress
  bypassCidrs := state.bypassCidrs

def routingModeName (autoRedirect : Bool) : Bytes :=
  if autoRedirect then ascii "auto-redirect" else ascii "tun-route"

def pollIterations (total : Nat) : Nat :=
  total / kPollInterval

/-- How waiting for the TUN ended. -/
inductive TunWait
  | ready
  | coreExited
  | timedOut
  deriving DecidableEq, Repr

/-! ## The TUN device -/

/-- The digits at the front of a text as a number, and the rest. -/
def scanDigits : Nat → Bytes → Nat × Bytes
  | value, [] => (value, [])
  | value, byte :: rest =>
      match digitValue byte with
      | some digit => scanDigits (value * 10 + digit) rest
      | none => (value, byte :: rest)

/-- The cast of what `strtoul` gives to `unsigned int`. -/
def toUnsigned (negative : Bool) (value : Nat) : Nat :=
  (if 2 ^ 64 ≤ value then 2 ^ 64 - 1 else if negative then 2 ^ 64 - value else value) % 2 ^ 32

/-- The digits of `%u`, behind blanks and a sign. -/
def scanMagnitude (negative : Bool) (text : Bytes) : Option (Nat × Bytes) :=
  match text with
  | [] => none
  | byte :: _ =>
      if (digitValue byte).isSome then
        some (toUnsigned negative (scanDigits 0 text).1, (scanDigits 0 text).2)
      else none

/-- `%u` of `sscanf`. -/
def scanUnsigned (text : Bytes) : Option (Nat × Bytes) :=
  match text.dropWhile isSpace with
  | 45 :: rest => scanMagnitude true rest
  | 43 :: rest => scanMagnitude false rest
  | rest => scanMagnitude false rest

/-- `%u:%u` of `sscanf`. -/
def scanDeviceNumbers (text : Bytes) : Option (Nat × Nat) :=
  match scanUnsigned text with
  | some (major, separator :: rest) =>
      if separator = colon then (scanUnsigned rest).map fun minor => (major, minor.1) else none
  | _ => none

/-! ## The upstream -/

/-- `probeAddress`: the exchange with the upstream, then its address as text. -/
def probeAddress (address : SocketAddress) : System (Result Bytes) :=
  (exchangeGreeting address).andThen fun _ =>
  match address with
  | .ip found => .done (.ok (inetNtop found.family found.bytes))
  | .other => .done (.error (makeError .upstreamUnreachable
      (ascii "cannot format upstream address")))

/-- The loop over the resolved addresses. -/
def probeAddresses (upstream : Upstream) : Error → List SocketAddress →
    System (Result ResolvedUpstream)
  | lastError, [] => .done (.error lastError)
  | _, address :: rest =>
      (probeAddress address).bind fun
        | .ok text => .done (.ok ⟨upstream, text⟩)
        | .error failure => probeAddresses upstream failure rest

def resolveAndProbeUpstream (upstream : Upstream) : System (Result ResolvedUpstream) :=
  (getaddrinfo (cString upstream.host) (formatNat upstream.port.toNat)).bind fun
    | .error detail => .done (.error (makeError .upstreamUnreachable
        (ascii "cannot resolve upstream: " ++ detail)))
    | .ok addresses => probeAddresses upstream
        (makeError .upstreamUnreachable (ascii "upstream is unreachable")) addresses

def loadConfig : System (Result Upstream) :=
  (readTextFile .config).bind fun contents => .done (parseConfig contents)

def Setup.saveConfig (setup : Setup) (upstream : Upstream) : System (Result Unit) :=
  match validateUpstream upstream with
  | .error failure => .done (.error failure)
  | .ok _ =>
      (ensureDirectory setup.paths.configFile.dropLast 0o750).andThen fun _ =>
      writeFileAtomic .config (writeConfig upstream) 0o640

/-! ## Stopping a core -/

/-- A polling loop of `terminateCore`: it ends with a result, or it runs out of
attempts. -/
def awaitExit (state : RuntimeState) : Nat → System (Option (Result Unit))
  | 0 => .done none
  | attempts + 1 =>
      (waitpid state.pid .noHang).bind fun waited =>
      match waited with
      | .reaped _ => .done (some (.ok ()))
      | _ => (isManagedProcessRunning state).bind fun managed =>
          match managed with
          | .error failure => .done (some (.error failure))
          | .ok false => .done (some (.ok ()))
          | .ok true => (sleepFor kPollInterval).bind fun _ => awaitExit state attempts

/-- The signal was sent, or there was no process to send it to. -/
def KillAnswer.sent : KillAnswer → Bool
  | .delivered | .noProcess => true
  | .notPermitted | .failed => false

/-- The end of `terminateCore`, where the core has not stopped on request. -/
def forceStop (state : RuntimeState) : System (Result Unit) :=
  (isManagedProcessRunning state).bind fun beforeKill =>
  match beforeKill with
  | .error failure => .done (.error failure)
  | .ok false => .done (.ok ())
  | .ok true =>
      (emitLog .warning (ascii "sing-box did not stop; sending SIGKILL")).bind fun _ =>
      (kill state.pid .kill).bind fun killed =>
      if !killed.sent then
        .done (.error (makeError .stateError (ascii "cannot force-stop sing-box")))
      else
        (awaitExit state (pollIterations kCoreKillTimeout)).bind fun
          | some result => .done result
          | none => .done (.error (makeError .stateError (ascii "sing-box did not stop")))

def terminateCore (state : RuntimeState) : System (Result Unit) :=
  if state.pid ≤ 0 then .done (.ok ())
  else
    (isManagedProcessRunning state).bind fun initiallyManaged =>
    match initiallyManaged with
    | .error failure => .done (.error failure)
    | .ok false => .done (.ok ())
    | .ok true =>
        (kill state.pid .term).bind fun signalled =>
        if !signalled.sent then
          .done (.error (makeError .stateError (ascii "cannot signal sing-box")))
        else
          (awaitExit state (pollIterations kCoreTerminateTimeout)).bind fun
            | some result => .done result
            | none => forceStop state

namespace Setup

variable (setup : Setup)

def coreConfigFile : Path :=
  setup.paths.runtimeDir ++ [ascii "sing-box.json"]

def coreLogFile : Path :=
  setup.paths.runtimeDir ++ [ascii "sing-box.log"]

def tunExists : System Bool :=
  ifNameToIndex setup.paths.tunInterface

def ensureTunDevice : System (Result Unit) :=
  (lstat setup.paths.tunDevice).bind fun
    | .found status =>
        if status.kind = .characterDevice then .done (.ok ())
        else .done (.error (makeError .stateError
          (setup.paths.tunDevice.text ++ ascii " exists but is not a character device")))
    | _ =>
        (readTextFile .tunSysfs).bind fun
          | .error _ => .done (.error (makeError .stateError
              (ascii ("TUN is unavailable: /dev/net/tun is missing and " ++
                "the kernel does not expose tun"))))
          | .ok sysfs =>
              match scanDeviceNumbers sysfs with
              | none => .done (.error (makeError .stateError
                  (ascii "invalid kernel TUN device metadata")))
              | some (major, minor) =>
                  (ensureDirectory setup.paths.tunDevice.dropLast 0o755).andThen fun _ =>
                  (mknod setup.paths.tunDevice major minor).bind fun
                    | .failed _ => .done (.error (makeError .stateError
                        (ascii "cannot create /dev/net/tun")))
                    | _ => .done (.ok ())

/-- The polling loop of `awaitTunRemoval`. -/
def pollTunRemoval : Nat → System Unit
  | 0 => .done ()
  | attempts + 1 => setup.tunExists.bind fun present =>
      if present then (sleepFor kPollInterval).bind fun _ => pollTunRemoval attempts
      else .done ()

def awaitTunRemoval (code : ErrorCode) : System (Result Unit) :=
  (setup.pollTunRemoval (pollIterations kTunRemovalTimeout)).bind fun _ =>
  setup.tunExists.bind fun present =>
  if present then
    .done (.error (makeError code
      (setup.paths.tunInterface ++ ascii " did not disappear after sing-box stopped")))
  else .done (.ok ())

/-! ## Launching a core -/

def coreArguments (executable : Path) : List Bytes :=
  [executable.text, ascii "run", ascii "--disable-color", ascii "-c", setup.coreConfigFile.text]

/-- The parent's side of the exec handshake. -/
def awaitExec (child : Int) : System (Result Int) :=
  (pollHandshake child).bind fun ready =>
  if !ready then
    (kill child .kill).bind fun _ =>
    (waitpid child .block).bind fun _ =>
    .done (.error (makeError .coreStartFailure (ascii "sing-box exec handshake timed out")))
  else
    (readHandshake child).bind fun
      | .closed => .done (.ok child)
      | .invalid => (waitpid child .block).bind fun _ =>
          .done (.error (makeError .coreStartFailure (ascii "invalid sing-box exec handshake")))
      | .execError detail => (waitpid child .block).bind fun _ =>
          .done (.error (makeError .coreStartFailure
            (ascii "cannot execute sing-box: " ++ detail)))

def spawnCore (executable : Path) : System (Result Int) :=
  (openCore executable).bind fun coreOpened =>
  if !coreOpened then
    .done (.error (makeError .coreStartFailure (ascii "cannot open verified sing-box core")))
  else
    openCoreLog.bind fun logOpened =>
    if !logOpened then
      .done (.error (makeError .coreStartFailure (ascii "cannot open sing-box log")))
    else
      pipe.bind fun
        | .error _ => .done (.error (makeError .coreStartFailure
            (ascii "cannot create sing-box exec handshake")))
        | .ok () =>
            (fork (.core executable (setup.coreArguments executable))).bind fun
              | .error _ => .done (.error (makeError .coreStartFailure
                  (ascii "cannot fork sing-box")))
              | .ok child => awaitExec child

/-- The part of a turn of `waitForTun` for a core that has not been reaped. -/
def lookForTun (started timeout : Nat) (lastReported : Int) : System (Int ⊕ Result TunWait) :=
  setup.tunExists.bind fun present =>
  if present then .done (.inr (.ok .ready))
  else
    steadyClock.bind fun later =>
    let elapsed := (later - started) / 1000
    if kTunReadyQuietPeriod ≤ elapsed ∧ (elapsed : Int) ≠ lastReported then
      (emitLog .info (ascii "Waiting for TUN interface (" ++ formatNat elapsed ++
        ascii "/" ++ formatNat (timeout / 1000) ++ ascii "s)")).bind fun _ =>
      (sleepFor kPollInterval).bind fun _ => .done (.inl elapsed)
    else (sleepFor kPollInterval).bind fun _ => .done (.inl lastReported)

/-- One turn of the loop of `waitForTun`, with the second last reported. -/
def waitForTunStep (pid : Int) (started timeout : Nat) (lastReported : Int) :
    System (Int ⊕ Result TunWait) :=
  steadyClock.bind fun now =>
  if ¬ now < started + timeout then .done (.inr (.ok .timedOut))
  else
    (waitpid pid .noHang).bind fun waited =>
    match waited with
    | .reaped _ => .done (.inr (.ok .coreExited))
    | .failed => .done (.inr (.error (makeError .stateError
        (ascii "cannot inspect sing-box process"))))
    | .running | .interrupted | .noChild => setup.lookForTun started timeout lastReported

def waitForTun (fuel : Nat) (pid : Int) (timeout : Nat) : System (Result TunWait) :=
  steadyClock.bind fun started =>
  iterate (setup.waitForTunStep pid started timeout) fuel (-1)

/-- One turn of the loop that reaps a child. -/
def reapStep (child : Int) (_ : Unit) : System (Unit ⊕ Unit) :=
  (waitpid child .block).bind fun waited =>
  match waited with
  | .interrupted => .done (.inl ())
  | _ => .done (.inr ())

/-- What becomes of a child whose start time cannot be read. -/
def discardChild (fuel : Nat) (child : Int) (failure : Error) : System (Result ProxyStatus) :=
  (kill child .kill).bind fun killed =>
  if !killed.sent then
    .done (.error (makeError .coreStartFailure (ascii "cannot clean up sing-box child")))
  else
    (iterate (reapStep child) fuel ()).bind fun _ => .done (.error failure)

/-- What one start has found out before it launches a core. -/
structure LaunchPlan where
  configured : Upstream
  resolved : ResolvedUpstream
  bypassCidrs : List Bytes
  core : CoreInfo

def LaunchPlan.runtimeConfig (plan : LaunchPlan) (autoRedirect : Bool) : SingBoxRuntimeConfig where
  logFile := setup.coreLogFile.text
  upstream := plan.resolved
  bypassCidrs := plan.bypassCidrs
  autoRedirect := autoRedirect
  interfaceName := setup.paths.tunInterface

def LaunchPlan.runtimeState (plan : LaunchPlan) (autoRedirect : Bool) (child : Int)
    (startTicks : Nat) : RuntimeState where
  pid := child
  startTicks := startTicks
  executable := plan.core.executable.text
  coreVersion := plan.core.version
  upstream := formatUpstreamUri plan.configured
  routingMode := routingModeName autoRedirect
  upstreamAddress := plan.resolved.address
  bypassCidrs := plan.bypassCidrs
  phase := ascii "starting"

/-- How an attempt ends: the loop goes on with an error and whether it was one
of routing, or `start` returns. -/
abbrev AttemptEnd : Type :=
  (Error × Bool) ⊕ Result ProxyStatus

def tunTimeoutMessage : Bytes :=
  ascii "sing-box did not establish TUN within " ++ formatNat (kTunReadyTimeout / 1000) ++
    ascii " seconds"

/-- The end of an attempt whose core was stopped or has exited. -/
def retryAfter (lastError : Error) : System AttemptEnd :=
  clearState.bind fun
    | .error failure => .done (.inr (.error failure))
    | .ok () => (setup.awaitTunRemoval .coreStartFailure).bind fun
        | .error failure => .done (.inr (.error failure))
        | .ok () => .done (.inl (lastError, true))

/-- The core has its TUN: record that it runs. -/
def recordRunning (state : RuntimeState) : System AttemptEnd :=
  let running := { state with phase := ascii "running" }
  (setup.saveState running).bind fun
    | .ok () => .done (.inr (.ok (statusFromState running)))
    | .error saveFailure => (terminateCore running).bind fun
        | .error failure => .done (.inr (.error failure))
        | .ok () => clearState.bind fun _ =>
            (setup.awaitTunRemoval .coreStartFailure).bind fun
              | .error failure => .done (.inr (.error failure))
              | .ok () => .done (.inr (.error saveFailure))

/-- The recorded core is waited for. -/
def awaitReady (fuel : Nat) (state : RuntimeState) : System AttemptEnd :=
  (setup.waitForTun fuel state.pid kTunReadyTimeout).bind fun
    | .error waitFailure => (terminateCore state).bind fun
        | .error failure => .done (.inr (.error failure))
        | .ok () => clearState.bind fun _ =>
            (setup.awaitTunRemoval .coreStartFailure).bind fun _ =>
            .done (.inr (.error waitFailure))
    | .ok .ready => setup.recordRunning state
    | .ok .timedOut => (terminateCore state).bind fun
        | .error failure => .done (.inr (.error failure))
        | .ok () => setup.retryAfter (makeError .coreStartFailure tunTimeoutMessage)
    | .ok .coreExited => setup.retryAfter (makeError .coreStartFailure
        (ascii "sing-box exited before TUN became ready"))

/-- The provisional record of a core, and what follows. -/
def superviseCore (fuel : Nat) (state : RuntimeState) : System AttemptEnd :=
  (setup.saveState state).bind fun
    | .ok () => setup.awaitReady fuel state
    | .error provisionalFailure => (terminateCore state).bind fun
        | .error failure => .done (.inr (.error failure))
        | .ok () => (setup.awaitTunRemoval .coreStartFailure).bind fun
            | .error failure => .done (.inr (.error failure))
            | .ok () => .done (.inr (.error provisionalFailure))

/-- The part of an attempt from the fork on. -/
def launchCore (fuel : Nat) (plan : LaunchPlan) (autoRedirect : Bool) : System AttemptEnd :=
  (setup.spawnCore plan.core.executable).bind fun
    | .error failure => .done (.inl (failure, false))
    | .ok child => (processStartTicks child).bind fun
        | .error failure => (discardChild fuel child failure).bind fun result =>
            .done (.inr result)
        | .ok startTicks => setup.superviseCore fuel
            (LaunchPlan.runtimeState plan autoRedirect child startTicks)

def checkCommand (executable : Path) : UtilityCommand where
  tool := .coreCheck executable
  arguments := [executable.text, ascii "check", ascii "--disable-color", ascii "-c",
    setup.coreConfigFile.text]
  timeout := kCoreCheckTimeout

/-- One turn of the loop of `start`. -/
def attempt (fuel : Nat) (plan : LaunchPlan) (autoRedirect : Bool) (lastError : Error)
    (routingFailure : Bool) : System AttemptEnd :=
  setup.tunExists.bind fun present =>
  if present then
    .done (.inr (.error (makeError .coreStartFailure
      (setup.paths.tunInterface ++ ascii " already exists outside TunProxy"))))
  else
    (if autoRedirect then .done ()
      else emitLog .warning (if routingFailure then
        ascii "auto-redirect failed (" ++ lastError.message ++ ascii "); retrying with tun-route"
        else ascii "sing-box failed to start (" ++ lastError.message ++
          ascii "); retrying")).bind fun _ =>
    match buildSingBoxConfig (LaunchPlan.runtimeConfig setup plan autoRedirect) with
    | .error failure => .done (.inr (.error failure))
    | .ok json =>
        (writeFileAtomic .coreConfig json 0o600).bind fun
          | .error failure => .done (.inr (.error failure))
          | .ok () => (runCapture (setup.checkCommand plan.core.executable)).bind fun checked =>
              if !succeeded checked then
                .done (.inr (.error (makeError .invalidConfiguration
                  (ascii "sing-box config check failed: " ++ processFailureDetail checked))))
              else setup.launchCore fuel plan autoRedirect

/-! ## Start -/

def initialError : Error :=
  makeError .coreStartFailure (ascii "sing-box failed to establish TUN")

/-- The two turns of the loop of `start`. -/
def attempts (fuel : Nat) (plan : LaunchPlan) : System (Result ProxyStatus) :=
  (setup.attempt fuel plan true initialError false).bind fun
    | .inr result => .done result
    | .inl (lastError, routingFailure) =>
        (setup.attempt fuel plan false lastError routingFailure).bind fun
          | .inr result => .done result
          | .inl (lastError, _) => .done (.error lastError)

/-- Everything that is found out before the first attempt. -/
def makePlan : System (Result LaunchPlan) :=
  setup.ensureTunDevice.andThen fun _ =>
  loadConfig.andThen fun configured =>
  (resolveAndProbeUpstream configured).andThen fun resolved =>
  getifaddrs.bind fun interfaces =>
  match collectBypassPolicy interfaces resolved.address setup.paths.tunInterface with
  | .error failure => .done (.error failure)
  | .ok bypass =>
      setup.ensureCore.andThen fun core =>
      (ensureDirectory setup.paths.runtimeDir 0o755).andThen fun _ =>
      .done (.ok ⟨configured, resolved, bypass.allCidrs, core⟩)

/-- The part of `start` where no core runs any more. -/
def startFresh (fuel : Nat) (terminatedPrevious : Bool) : System (Result ProxyStatus) :=
  clearState.andThen fun _ =>
  (if terminatedPrevious then setup.awaitTunRemoval .coreStartFailure
    else .done (.ok ())).andThen fun _ =>
  setup.makePlan.andThen fun plan =>
  setup.attempts fuel plan

/-- The part of `start` for a state file that was loaded. -/
def startOver (fuel : Nat) (existing : RuntimeState) : System (Result ProxyStatus) :=
  (isManagedProcessRunning existing).bind fun running =>
  match running with
  | .ok true =>
      if existing.phase = ascii "running" then .done (.ok (statusFromState existing))
      else
        (emitLog .warning (ascii "cleaning up incomplete previous start")).bind fun _ =>
        (terminateCore existing).andThen fun _ =>
        setup.startFresh fuel true
  | _ => setup.startFresh fuel false

def start (fuel : Nat) : System (Result ProxyStatus) :=
  loadState.bind fun
    | .ok existing => setup.startOver fuel existing
    | .error _ => setup.startFresh fuel false

/-! ## Stop and status -/

/-- The end of `stop`: the record and the core's configuration are removed. -/
def finishStop : System (Result Unit) :=
  clearState.andThen fun _ =>
  (removeFile .coreConfig).bind fun _ => .done (.ok ())

/-- `stop` for a managed core that runs. -/
def stopRunning (state : RuntimeState) : System (Result Unit) :=
  (terminateCore state).andThen fun _ =>
  (setup.awaitTunRemoval .stateError).andThen fun _ =>
  finishStop

/-- `stop` for a record without a managed core. -/
def stopStale : System (Result Unit) :=
  (emitLog .warning (ascii "no managed sing-box process; clearing stale state")).bind fun _ =>
  finishStop

def stop : System (Result Unit) :=
  loadState.bind fun
    | .error _ => clearState
    | .ok state =>
        (isManagedProcessRunning state).bind fun running =>
        match running with
        | .ok true => setup.stopRunning state
        | _ => stopStale

/-- What `status` reports when no core runs. -/
def idleStatus (configured : Result Upstream) (coreInstalled : Bool) : ProxyStatus where
  upstream := match configured with
    | .ok upstream => formatUpstreamUri upstream
    | .error _ => []
  coreVersion := setup.manifest.version
  coreInstalled := coreInstalled

def LstatAnswer.isRegular : LstatAnswer → Bool
  | .found status => status.kind == .regular
  | _ => false

def status : System (Result ProxyStatus) :=
  loadConfig.bind fun configured =>
  (lstat setup.corePath).bind fun installed =>
  loadState.bind fun
    | .error _ => .done (.ok (setup.idleStatus configured (LstatAnswer.isRegular installed)))
    | .ok state =>
        (isManagedProcessRunning state).bind fun running =>
        match running with
        | .ok true =>
            if state.phase = ascii "running" then .done (.ok (statusFromState state))
            else .done (.ok (setup.idleStatus configured (LstatAnswer.isRegular installed)))
        | _ => .done (.ok (setup.idleStatus configured (LstatAnswer.isRegular installed)))

end Setup

end TunProxy
