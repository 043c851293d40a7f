import TunProxy.IpcFrames
import TunProxy.SystemCalls

/-!
# The daemon

The daemon accepts connections and serves each one in a thread of its own.
Operations that change something exclude each other by a mutex; the name of the
one in progress is kept for the clients that are turned away.  On shutdown the
daemon waits until every worker has counted itself off, and switches the proxy
off.
-/

namespace TunProxy

open ByteText EffectProgram

/-! ## Commands -/

inductive Command
  | on
  | off
  | status
  | getSetting
  | setSetting
  | bypass
  deriving DecidableEq, Repr

def kIpcProtocolVersion : UInt32 := 1

def Command.code : Command → UInt32
  | .on => 1
  | .off => 2
  | .status => 3
  | .getSetting => 4
  | .setSetting => 5
  | .bypass => 6

def encodeCommand (command : Command) : UInt32 :=
  (kIpcProtocolVersion <<< 16) ||| command.code

/-- The cast that follows the range check on a command code. -/
def Command.ofCode (code : UInt32) : Command :=
  if code = 1 then .on
  else if code = 2 then .off
  else if code = 3 then .status
  else if code = 4 then .getSetting
  else if code = 5 then .setSetting
  else .bypass

def decodeCommand (code : UInt32) : Result Command :=
  if code >>> 16 ≠ kIpcProtocolVersion then
    .error (makeError .invalidArguments (ascii "unsupported IPC protocol version"))
  else
    let commandCode := code &&& 0xffff
    if commandCode < Command.on.code ∨ commandCode > Command.bypass.code then
      .error (makeError .invalidArguments (ascii "unknown IPC command"))
    else .ok (Command.ofCode commandCode)

@[simp] theorem decodeCommand_encodeCommand (command : Command) :
    decodeCommand (encodeCommand command) = .ok command := by
  cases command <;> decide

def isMutating (command : Command) : Bool :=
  command = .on || command = .off || command = .setSetting

def commandName : Command → Bytes
  | .on => ascii "on"
  | .off => ascii "off"
  | .status => ascii "status"
  | .getSetting => ascii "setting query"
  | .setSetting => ascii "setting update"
  | .bypass => ascii "bypass query"

def ErrorCode.value : ErrorCode → UInt32
  | .generic => 1
  | .invalidArguments => 2
  | .insufficientPrivileges => 3
  | .invalidConfiguration => 4
  | .upstreamUnreachable => 5
  | .coreVerificationFailure => 6
  | .coreDownloadFailure => 7
  | .coreStartFailure => 8
  | .stateError => 9

def LogLevel.value : LogLevel → UInt32
  | .info => 0
  | .warning => 1
  | .progress => 2

/-! ## The steps of its threads -/

inductive PollAnswer
  | ready
  | timedOut
  | interrupted
  | failed

inductive AcceptAnswer
  | accepted
  | interrupted
  | failed (detail : Bytes)

/-- The steps that the main thread and the workers make.  The call of the
controller and its return are steps of their own. -/
inductive DaemonCall
  | stopRequested
  | pollListener
  | acceptClient
  | authorizeClient
  | createWorker
  | receiveIpcFrame
  | sendIpcFrame (frame : IpcFrame)
  | closeClient
  | tryLockOperation (command : Command)
  | unlockOperation
  | lockActiveName
  | readActiveName
  | writeActiveName (text : Bytes)
  | unlockActiveName
  | lockClients
  | incrementClients
  | decrementClients
  | unlockClients
  | notifyClients
  | clientsFinished
  | waitClients
  | enterController (command : Command)
  | leaveController
  | system (operation : SystemCall)
  | stateFileExists
  | print (text : Bytes)
  | closeListener

abbrev DaemonAnswer : DaemonCall → Type
  | .stopRequested => Bool
  | .pollListener => PollAnswer
  | .acceptClient => AcceptAnswer
  | .authorizeClient => Bool × Nat
  | .createWorker => Except Bytes Nat
  | .receiveIpcFrame => Result IpcFrame
  | .sendIpcFrame _ => Result Unit
  | .tryLockOperation _ => Bool
  | .readActiveName => Bytes
  | .clientsFinished => Bool
  | .system operation => SystemAnswer operation
  | .stateFileExists => Bool
  | _ => Unit

abbrev Daemon (α : Type) : Type :=
  EffectProgram DaemonAnswer α

/-- A step as a program of its own. -/
abbrev daemonCall (operation : DaemonCall) : Daemon (DaemonAnswer operation) :=
  .call operation .done

/-- What a controller does with a command and its argument, logs included. -/
abbrev Controller : Type :=
  Command → Bytes → System (Result Bytes)

/-! ## Serving a client -/

def errorFrame (error : Error) : IpcFrame where
  type := .error
  code := error.code.value
  payload := error.message.take kIpcMaximumPayload

def sendError (error : Error) : Daemon Unit :=
  (daemonCall (.sendIpcFrame (errorFrame error))).bind fun _ => .done ()

def setActiveName (text : Bytes) : Daemon Unit :=
  (daemonCall .lockActiveName).bind fun _ =>
  (daemonCall (.writeActiveName text)).bind fun _ =>
  daemonCall .unlockActiveName

/-- The loop that sends a message in parts, and whether the client is still
connected. -/
def sendLogFrames (level : LogLevel) : Nat → Bytes → Daemon Bool
  | 0, _ => .done true
  | fuel + 1, rest =>
      if rest.isEmpty then .done true
      else
        (daemonCall (.sendIpcFrame ⟨.log, level.value, rest.take kIpcMaximumPayload⟩)).bind
          fun sent =>
        if sent.isOk then sendLogFrames level fuel (rest.drop kIpcMaximumPayload)
        else .done false

/-- The name that is shown for an operation that logged a message. -/
def loggedName (command : Command) (message : Bytes) : Bytes :=
  commandName command ++ ascii ": " ++ message

/-- The log callback of a worker. -/
def logMessage (command : Command) (connected : Bool) (level : LogLevel) (message : Bytes) :
    Daemon Bool :=
  if !connected then .done connected
  else
    (if isMutating command && level ≠ .progress then setActiveName (loggedName command message)
      else .done ()).bind fun _ =>
    sendLogFrames level message.length message

/-- A run of the controller with the log callback of a worker. -/
def runLogged {α : Type} (command : Command) : System α → Bool → Daemon (α × Bool)
  | .done value, connected => .done (value, connected)
  | .call (.emitLog level message) rest, connected =>
      (logMessage command connected level message).bind fun still =>
      runLogged command (rest ()) still
  | .call operation rest, connected =>
      .call (.system operation) fun answer => runLogged command (rest answer) connected
  | .cut, _ => .cut

def executeLogged (controller : Controller) (command : Command) (argument : Bytes) :
    Daemon (Result Bytes × Bool) :=
  (daemonCall (.enterController command)).bind fun _ =>
  (runLogged command (controller command argument) true).bind fun outcome =>
  (daemonCall .leaveController).bind fun _ => .done outcome

def reply (connected : Bool) (result : Result Bytes) : Daemon Unit :=
  if !connected then .done ()
  else
    match result with
    | .error failure => sendError failure
    | .ok text => (daemonCall (.sendIpcFrame ⟨.result, 0, text⟩)).bind fun _ => .done ()

def busyError (active : Bytes) : Error :=
  makeError .stateError (ascii "another operation is in progress" ++
    if active.isEmpty then [] else ascii ": " ++ active)

/-- What a client is told whose operation has to wait. -/
def refuseBusy : Daemon Unit :=
  (daemonCall .lockActiveName).bind fun _ =>
  (daemonCall .readActiveName).bind fun active =>
  (daemonCall .unlockActiveName).bind fun _ =>
  sendError (busyError active)

/-- A command that owns the operation lock until it is answered. -/
def serveMutating (controller : Controller) (command : Command) (argument : Bytes) :
    Daemon Unit :=
  (daemonCall (.tryLockOperation command)).bind fun owned =>
  if !owned then refuseBusy
  else
    (setActiveName (commandName command)).bind fun _ =>
    (executeLogged controller command argument).bind fun outcome =>
    (setActiveName []).bind fun _ =>
    (reply outcome.2 outcome.1).bind fun _ =>
    daemonCall .unlockOperation

/-- A command that needs no lock. -/
def serveReading (controller : Controller) (command : Command) (argument : Bytes) :
    Daemon Unit :=
  (executeLogged controller command argument).bind fun outcome => reply outcome.2 outcome.1

def serveClient (controller : Controller) : Daemon Unit :=
  (daemonCall .receiveIpcFrame).bind fun
    | .error failure => sendError failure
    | .ok request =>
        match decodeCommand request.code with
        | .ok command =>
            if request.type ≠ .request then
              sendError (makeError .invalidArguments
                (ascii "unsupported IPC protocol or command"))
            else if isMutating command then serveMutating controller command request.payload
            else serveReading controller command request.payload
        | .error _ => sendError (makeError .invalidArguments
            (ascii "unsupported IPC protocol or command"))

/-! ## The workers -/

/-- Count a client off under the lock. -/
def countOff : Daemon Unit :=
  (daemonCall .lockClients).bind fun _ =>
  (daemonCall .decrementClients).bind fun _ =>
  daemonCall .unlockClients

/-- The detached thread of a client. -/
def worker (controller : Controller) : Daemon Unit :=
  (serveClient controller).bind fun _ =>
  (daemonCall .closeClient).bind fun _ =>
  countOff.bind fun _ =>
  daemonCall .notifyClients

/-! ## The main thread -/

def rejectClient (uid : Nat) : Daemon Unit :=
  (daemonCall (.print (ascii "tunproxyd: rejected unauthorized local client uid=" ++
    formatNat uid ++ [newline]))).bind fun _ =>
  (sendError (makeError .insufficientPrivileges
    (ascii "client is not authorized to control TunProxy"))).bind fun _ =>
  daemonCall .closeClient

/-- Hand a client to a thread of its own, or take it back. -/
def startWorker : Daemon Unit :=
  (daemonCall .lockClients).bind fun _ =>
  (daemonCall .incrementClients).bind fun _ =>
  (daemonCall .unlockClients).bind fun _ =>
  (daemonCall .createWorker).bind fun
    | .ok _ => .done ()
    | .error detail =>
        countOff.bind fun _ =>
        (daemonCall .notifyClients).bind fun _ =>
        (sendError (makeError .stateError
          (ascii "cannot create client worker: " ++ detail))).bind fun _ =>
        daemonCall .closeClient

/-- One turn of the accept loop, which goes on or is left. -/
def acceptStep : Daemon (Unit ⊕ Unit) :=
  (daemonCall .stopRequested).bind fun requested =>
  if requested then .done (.inr ())
  else
    (daemonCall .pollListener).bind fun
      | .interrupted | .timedOut => .done (.inl ())
      | .failed => (daemonCall (.print (ascii "tunproxyd: control listener failed\n"))).bind
          fun _ => .done (.inr ())
      | .ready => (daemonCall .acceptClient).bind fun
          | .interrupted => .done (.inl ())
          | .failed detail => (daemonCall (.print (ascii "tunproxyd: accept failed: " ++ detail ++
              [newline]))).bind fun _ => .done (.inr ())
          | .accepted => (daemonCall .authorizeClient).bind fun (authorized, uid) =>
              (if !authorized then rejectClient uid else startWorker).bind fun _ =>
              .done (.inl ())

/-- One turn of the wait for the clients, under the lock that waiting gives up. -/
def waitStep : Daemon (Unit ⊕ Unit) :=
  (daemonCall .clientsFinished).bind fun finished =>
  if finished then .done (.inr ())
  else
    (daemonCall .waitClients).bind fun _ =>
    (daemonCall .lockClients).bind fun _ => .done (.inl ())

/-- A run of the controller whose messages go to standard error. -/
def runPrinting {α : Type} : System α → Daemon α
  | .done value => .done value
  | .call (.emitLog _ message) rest =>
      (daemonCall (.print (ascii "tunproxyd: " ++ message ++ [newline]))).bind fun _ =>
      runPrinting (rest ())
  | .call operation rest => .call (.system operation) fun answer => runPrinting (rest answer)
  | .cut => .cut

/-- The cleanup of a proxy that was left on. -/
def shutdownCleanup (controller : Controller) : Daemon Unit :=
  (daemonCall .stateFileExists).bind fun present =>
  if !present then .done ()
  else
    (daemonCall (.enterController .off)).bind fun _ =>
    (runPrinting (controller .off [])).bind fun stopped =>
    (daemonCall .leaveController).bind fun _ =>
    match stopped with
    | .ok _ => .done ()
    | .error failure => daemonCall (.print (ascii "tunproxyd: shutdown cleanup failed: " ++
        failure.message ++ [newline]))

/-- The main thread from the accept loop on. -/
def daemonMain (controller : Controller) (fuel : Nat) : Daemon Unit :=
  (iterate (fun _ => acceptStep) fuel ()).bind fun _ =>
  (daemonCall .lockClients).bind fun _ =>
  (iterate (fun _ => waitStep) fuel ()).bind fun _ =>
  (daemonCall .unlockClients).bind fun _ =>
  (shutdownCleanup controller).bind fun _ =>
  daemonCall .closeListener

end TunProxy
