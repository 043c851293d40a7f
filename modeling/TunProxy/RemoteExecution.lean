import TunProxy.Daemon
import TunProxy.DuplexConnection
import TunProxy.IpcFrameRoundTrip

/-!
# Execution through the daemon

The command line tool sends its command to the daemon and prints what comes
back until a terminal frame.  Between a worker of the daemon and the tool there
is only the byte stream, yet what the tool prints and returns is what the
controller would have logged and returned had it been called directly.
-/

namespace TunProxy

open ByteText EffectProgram

/-! ## The client -/

/-- The cast that follows the range check on a received log level. -/
def LogLevel.ofValue (code : UInt32) : Option LogLevel :=
  if code > LogLevel.progress.value then none
  else if code = 0 then some .info
  else if code = 1 then some .warning
  else some .progress

@[simp] theorem LogLevel.ofValue_value (level : LogLevel) :
    LogLevel.ofValue level.value = some level := by
  cases level <;> decide

/-- The cast that follows the range check on a received error code. -/
def ErrorCode.ofValue (code : UInt32) : Option ErrorCode :=
  if code < ErrorCode.generic.value ∨ code > ErrorCode.stateError.value then none
  else if code = 1 then some .generic
  else if code = 2 then some .invalidArguments
  else if code = 3 then some .insufficientPrivileges
  else if code = 4 then some .invalidConfiguration
  else if code = 5 then some .upstreamUnreachable
  else if code = 6 then some .coreVerificationFailure
  else if code = 7 then some .coreDownloadFailure
  else if code = 8 then some .coreStartFailure
  else some .stateError

@[simp] theorem ErrorCode.ofValue_value (code : ErrorCode) :
    ErrorCode.ofValue code.value = some code := by
  cases code <;> decide

/-- What the client returns, with the messages it has passed to `printLog`. -/
abbrev RemoteOutcome : Type :=
  Result Bytes × List (LogLevel × Bytes)

/-- The client's answer to a frame that ends the loop. -/
def terminalResult (frame : IpcFrame) : Result Bytes :=
  if frame.type = .result then .ok frame.payload
  else
    match frame.type, ErrorCode.ofValue frame.code with
    | .error, some code => .error (makeError code frame.payload)
    | _, _ => .error (makeError .stateError (ascii "tunproxyd returned an invalid response"))

/-- One turn of the client's loop, with what it has printed. -/
def remoteStep (fuel : Nat) (printed : List (LogLevel × Bytes)) :
    IpcProgram (List (LogLevel × Bytes) ⊕ RemoteOutcome) :=
  (receiveIpcFrame fuel).bind fun
    | .error failure => .done (.inr (.error failure, printed))
    | .ok frame =>
        if frame.type = .log then
          match LogLevel.ofValue frame.code with
          | none => .done (.inr (.error (makeError .stateError
              (ascii "tunproxyd returned an invalid log level")), printed))
          | some level => .done (.inl (printed ++ [(level, frame.payload)]))
        else .done (.inr (terminalResult frame, printed))

/-- The client once it has tried to connect. -/
def executeRemote (fuel turns : Nat) (connected : Result Unit) (command : Command)
    (argument : Bytes) : IpcProgram RemoteOutcome :=
  match connected with
  | .error failure => .done (.error failure, [])
  | .ok () =>
      (sendIpcFrame fuel ⟨.request, encodeCommand command, argument⟩).bind fun
        | .error failure => .done (.error failure, [])
        | .ok () => iterate (remoteStep fuel) turns []

/-! ## The worker -/

/-- The worker's steps on a connection, while no operation is in progress and
the system answers in some way. -/
def ipcMeaning (fuel : Nat) (answers : (operation : SystemCall) → SystemAnswer operation) :
    (operation : DaemonCall) → IpcProgram (DaemonAnswer operation)
  | .receiveIpcFrame => receiveIpcFrame fuel
  | .sendIpcFrame frame => sendIpcFrame fuel frame
  | .tryLockOperation _ => .done true
  | .system operation => .done (answers operation)
  | .lockActiveName | .writeActiveName _ | .unlockActiveName | .enterController _
  | .leaveController | .unlockOperation => .done ()
  | _ => .cut

/-- What a direct execution logs and returns when the system answers in some way. -/
def directRun {α : Type} (answers : (operation : SystemCall) → SystemAnswer operation) :
    System α → Option (List (LogLevel × Bytes) × α)
  | .done value => some ([], value)
  | .call (.emitLog level message) rest =>
      (directRun answers (rest ())).map fun run => ((level, message) :: run.1, run.2)
  | .call operation rest => directRun answers (rest (answers operation))
  | .cut => none

/-! ## What is sent -/

/-- The frames of one message. -/
def messageFrames (level : LogLevel) : Nat → Bytes → List IpcFrame
  | 0, _ => []
  | fuel + 1, rest =>
      if rest.isEmpty then []
      else ⟨.log, level.value, rest.take kIpcMaximumPayload⟩ ::
        messageFrames level fuel (rest.drop kIpcMaximumPayload)

def logFrames (logs : List (LogLevel × Bytes)) : List IpcFrame :=
  logs.flatMap fun entry => messageFrames entry.1 entry.2.length entry.2

def terminalFrame : Result Bytes → IpcFrame
  | .error failure => errorFrame failure
  | .ok text => ⟨.result, 0, text⟩

def replyFrames (logs : List (LogLevel × Bytes)) (result : Result Bytes) : List IpcFrame :=
  logFrames logs ++ [terminalFrame result]

/-- A log as one sequence of bytes, each with its level. -/
def flattenLogs (logs : List (LogLevel × Bytes)) : List (LogLevel × UInt8) :=
  logs.flatMap fun entry => entry.2.map fun byte => (entry.1, byte)

/-- The result that reaches the client: the message of an error is cut. -/
def remoteResult : Result Bytes → Result Bytes
  | .error failure => .error (makeError failure.code (failure.message.take kIpcMaximumPayload))
  | .ok text => .ok text

/-- The messages that a client prints. -/
def printedBy (frames : List IpcFrame) : List (LogLevel × Bytes) :=
  frames.filterMap fun frame =>
    (LogLevel.ofValue frame.code).map fun level => (level, frame.payload)

theorem messageFrames_log {level : LogLevel} {fuel : Nat} {rest : Bytes} {frame : IpcFrame}
    (member : frame ∈ messageFrames level fuel rest) :
    frame.type = .log ∧ frame.code = level.value ∧ frame.Sendable := by
  induction fuel generalizing rest with
  | zero => simp [messageFrames] at member
  | succ fuel ih =>
      unfold messageFrames at member
      split at member
      next => simp at member
      next =>
        rcases List.mem_cons.mp member with rfl | later
        · exact ⟨rfl, rfl, by simp [IpcFrame.Sendable]⟩
        · exact ih later

/-- The parts of a message make it up again. -/
theorem messageFrames_payloads (level : LogLevel) {fuel : Nat} {rest : Bytes}
    (enough : rest.length ≤ fuel) :
    (messageFrames level fuel rest).flatMap IpcFrame.payload = rest := by
  induction fuel generalizing rest with
  | zero =>
      obtain rfl : rest = [] := List.eq_nil_of_length_eq_zero (Nat.le_zero.mp enough)
      rfl
  | succ fuel ih =>
      unfold messageFrames
      split
      next empty => simpa using (List.isEmpty_iff.mp empty).symm
      next =>
        have shorter : (rest.drop kIpcMaximumPayload).length ≤ fuel := by
          simp only [List.length_drop, kIpcMaximumPayload]
          omega
        rw [List.flatMap_cons, ih shorter, List.take_append_drop]

theorem mem_logFrames {logs : List (LogLevel × Bytes)} {frame : IpcFrame}
    (member : frame ∈ logFrames logs) :
    frame.type = .log ∧ frame.Sendable ∧ ∃ level, LogLevel.ofValue frame.code = some level := by
  obtain ⟨entry, -, sent⟩ := List.mem_flatMap.mp member
  obtain ⟨log, code, sendable⟩ := messageFrames_log sent
  exact ⟨log, sendable, entry.1, by rw [code, LogLevel.ofValue_value]⟩

/-- The client prints the bytes that were logged. -/
theorem flattenLogs_printedBy (logs : List (LogLevel × Bytes)) :
    flattenLogs (printedBy (logFrames logs)) = flattenLogs logs := by
  have message (level : LogLevel) (frames : List IpcFrame)
      (codes : ∀ frame ∈ frames, frame.code = level.value) :
      flattenLogs (printedBy frames) =
        (frames.flatMap IpcFrame.payload).map fun byte => (level, byte) := by
    induction frames with
    | nil => rfl
    | cons frame frames ih =>
        have rest := ih fun other member => codes other (List.mem_cons_of_mem _ member)
        have printed : printedBy (frame :: frames) =
            (level, frame.payload) :: printedBy frames := by
          simp [printedBy, codes frame List.mem_cons_self]
        rw [printed, List.flatMap_cons, List.map_append, ← rest]
        rfl
  induction logs with
  | nil => rfl
  | cons entry logs ih =>
      have split : logFrames (entry :: logs) =
          messageFrames entry.1 entry.2.length entry.2 ++ logFrames logs := rfl
      have appended (front back : List (LogLevel × Bytes)) :
          flattenLogs (front ++ back) = flattenLogs front ++ flattenLogs back :=
        List.flatMap_append
      rw [split, printedBy, List.filterMap_append, appended, ← printedBy, ← printedBy, ih,
        message entry.1 _ fun frame member => (messageFrames_log member).2.1,
        messageFrames_payloads entry.1 (Nat.le_refl _)]
      rfl

/-! ## Frames at one end -/

theorem writes_sendAll (fuel : Nat) (data : Bytes) :
    (sendAll fuel data).Calls IpcOperation.Writes := by
  refine Calls.iterate (fun rest => ?_) fuel data
  unfold sendStep
  split
  next => trivial
  next =>
    refine ⟨trivial, fun answer => ?_⟩
    cases answer <;> trivial

theorem writes_sendIpcFrame (fuel : Nat) (frame : IpcFrame) :
    (sendIpcFrame fuel frame).Calls IpcOperation.Writes := by
  unfold sendIpcFrame
  split
  next => trivial
  next =>
    dsimp only
    split
    next => trivial
    next =>
      refine (writes_sendAll _ _).andThen fun _ => (writes_sendAll _ _).andThen fun _ =>
        (writes_sendAll _ _).andThen fun _ => ?_
      split
      next => trivial
      next => exact writes_sendAll _ _

theorem reads_receiveAll (fuel size : Nat) :
    (receiveAll fuel size).Calls IpcOperation.Reads := by
  refine Calls.iterate (fun received => ?_) fuel []
  unfold receiveStep
  split
  next =>
    refine ⟨trivial, fun answer => ?_⟩
    cases answer <;> trivial
  next => trivial

theorem reads_receiveIpcFrame (fuel : Nat) :
    (receiveIpcFrame fuel).Calls IpcOperation.Reads := by
  refine (reads_receiveAll _ _).andThen fun size => ?_
  dsimp only
  split
  next => trivial
  next =>
    refine (reads_receiveAll _ _).andThen fun type => (reads_receiveAll _ _).andThen fun code => ?_
    split
    next => trivial
    next =>
      split
      next => trivial
      next => exact (reads_receiveAll _ _).andThen fun _ => trivial

/-- What an end has yet to read and what it has written. -/
structure Endpoint.At (incoming outgoing : Bytes) (patience : Nat) (world : Endpoint) : Prop where
  incoming : world.incoming = incoming
  outgoing : world.outgoing = outgoing
  patient : world.interruptions ≤ patience

section Frames

variable {mayRead : Bytes → Prop} {fuel patience : Nat} {incoming outgoing : Bytes}
variable {frame : IpcFrame}

theorem end_sendIpcFrame (sendable : frame.Sendable) (enough : EnoughFuel fuel patience) :
    Triple endpoint (attentive mayRead) (Endpoint.At incoming outgoing patience)
      (sendIpcFrame fuel frame)
      fun result world => result = .ok () ∧
        world.At incoming (outgoing ++ frameBytes frame) patience := by
  intro world start
  have sent := sendIpcFrame_triple sendable enough ⟨world.outgoing, false, world.interruptions⟩
    ⟨start.outgoing, start.patient⟩
  refine (safe_writing (writes_sendIpcFrame fuel frame) sent).imp ?_
  rintro result last ⟨⟨ok, written, patient⟩, unread⟩
  exact ⟨ok, unread.trans start.incoming, written, patient⟩

theorem end_receiveIpcFrame (sendable : frame.Sendable) (enough : EnoughFuel fuel patience)
    (may : mayRead outgoing) :
    Triple endpoint (attentive mayRead)
      (Endpoint.At (frameBytes frame ++ incoming) outgoing patience) (receiveIpcFrame fuel)
      fun result world => result = .ok frame ∧ world.At incoming outgoing patience := by
  intro world start
  have received := receiveIpcFrame_encoded incoming sendable enough
    ⟨world.incoming, false, world.interruptions⟩ ⟨start.incoming, start.patient⟩
  have mayNow : mayRead world.outgoing := start.outgoing ▸ may
  refine (safe_reading (reads_receiveIpcFrame fuel) mayNow received).imp ?_
  rintro result last ⟨⟨ok, pending, patient⟩, unwritten⟩
  exact ⟨ok, pending, unwritten.trans start.outgoing, patient⟩

end Frames

/-! ## The worker at its end -/

section Worker

variable {α β : Type} {fuel patience : Nat}
variable {answers : (operation : SystemCall) → SystemAnswer operation}

/-- With nothing more to read, a part of the worker gives a value and sends frames. -/
def Sends (fuel patience : Nat) (answers : (operation : SystemCall) → SystemAnswer operation)
    (program : Daemon α) (value : α) (frames : List IpcFrame) : Prop :=
  ∀ outgoing, Triple endpoint (attentive fun _ => True) (Endpoint.At [] outgoing patience)
    (program.expand (ipcMeaning fuel answers))
    fun result world => result = value ∧
      world.At [] (outgoing ++ frames.flatMap frameBytes) patience

/-- Steps that do not touch the connection. -/
theorem Sends.silent {program : Daemon α} {value : α}
    (expands : program.expand (ipcMeaning fuel answers) = .done value) :
    Sends fuel patience answers program value [] := by
  intro outgoing world start
  rw [expands]
  exact end_done ⟨rfl, by simpa using start⟩

theorem Sends.done (value : α) : Sends fuel patience answers (.done value) value [] :=
  Sends.silent rfl

theorem Sends.bind {program : Daemon α} {next : α → Daemon β} {value : α} {last : β}
    {frames more : List IpcFrame} (first : Sends fuel patience answers program value frames)
    (second : Sends fuel patience answers (next value) last more) :
    Sends fuel patience answers (program.bind next) last (frames ++ more) := by
  intro outgoing
  rw [expand_bind]
  refine (first outgoing).bind fun result world => ?_
  rintro ⟨rfl, middle⟩
  refine (second _ world middle).imp ?_
  rintro result last ⟨same, sent⟩
  exact ⟨same, by simpa using sent⟩

theorem sends_sendIpcFrame {frame : IpcFrame} (sendable : frame.Sendable)
    (enough : EnoughFuel fuel patience) :
    Sends fuel patience answers (daemonCall (.sendIpcFrame frame)) (.ok ()) [frame] := by
  intro outgoing
  have sent : Triple endpoint (attentive fun _ => True) (Endpoint.At [] outgoing patience)
      (sendIpcFrame fuel frame) _ := end_sendIpcFrame sendable enough
  refine sent.bind fun result world => ?_
  rintro ⟨rfl, after⟩
  exact end_done ⟨rfl, by simpa using after⟩

theorem sends_setActiveName (text : Bytes) :
    Sends fuel patience answers (setActiveName text) () [] :=
  Sends.silent rfl

theorem sends_sendLogFrames (enough : EnoughFuel fuel patience) (level : LogLevel)
    (parts : Nat) (rest : Bytes) :
    Sends fuel patience answers (sendLogFrames level parts rest) true
      (messageFrames level parts rest) := by
  induction parts generalizing rest with
  | zero => exact Sends.done true
  | succ parts ih =>
      unfold sendLogFrames messageFrames
      split
      next => exact Sends.done true
      next =>
        have sendable : IpcFrame.Sendable ⟨.log, level.value, rest.take kIpcMaximumPayload⟩ := by
          simp [IpcFrame.Sendable]
        exact (sends_sendIpcFrame sendable enough).bind (ih _)

theorem sends_logMessage (enough : EnoughFuel fuel patience) (command : Command)
    (level : LogLevel) (message : Bytes) :
    Sends fuel patience answers (logMessage command true level message) true
      (messageFrames level message.length message) := by
  have names : Sends fuel patience answers
      (if isMutating command && level ≠ .progress then setActiveName (loggedName command message)
        else .done ()) () [] := by
    split
    next => exact sends_setActiveName _
    next => exact Sends.done ()
  exact names.bind (sends_sendLogFrames enough level _ message)

/-- The worker sends what a direct run of the controller logs. -/
theorem sends_runLogged (enough : EnoughFuel fuel patience) (command : Command)
    {program : System α} {logs : List (LogLevel × Bytes)} {value : α}
    (direct : directRun answers program = some (logs, value)) :
    Sends fuel patience answers (runLogged command program true) (value, true)
      (logFrames logs) := by
  induction program generalizing logs with
  | done result =>
      obtain ⟨rfl, rfl⟩ := Prod.mk.inj (Option.some.inj direct)
      exact Sends.done (result, true)
  | cut => cases direct
  | call operation rest ih =>
      have calls (same : directRun answers (rest (answers operation)) = some (logs, value)) :
          Sends fuel patience answers
            (.call (.system operation) fun answer => runLogged command (rest answer) true)
            (value, true) (logFrames logs) := ih _ same
      cases operation with
      | emitLog level message =>
          obtain ⟨⟨later, result⟩, ran, same⟩ := Option.map_eq_some_iff.mp direct
          obtain ⟨rfl, rfl⟩ := Prod.mk.inj same
          exact (sends_logMessage enough command level message).bind (ih () ran)
      | _ => exact calls direct

theorem sends_executeLogged (enough : EnoughFuel fuel patience) {controller : Controller}
    {command : Command} {argument : Bytes} {logs : List (LogLevel × Bytes)}
    {result : Result Bytes}
    (direct : directRun answers (controller command argument) = some (logs, result)) :
    Sends fuel patience answers (executeLogged controller command argument) (result, true)
      (logFrames logs) := by
  have leaves : Sends fuel patience answers
      ((daemonCall .leaveController).bind fun _ => .done (result, true)) (result, true) [] :=
    Sends.silent rfl
  have enters : Sends fuel patience answers (daemonCall (.enterController command)) () [] :=
    Sends.silent rfl
  have runs : Sends fuel patience answers
      ((runLogged command (controller command argument) true).bind fun outcome =>
        (daemonCall .leaveController).bind fun _ => .done outcome) (result, true)
      (logFrames logs ++ []) := (sends_runLogged enough command direct).bind leaves
  rw [List.append_nil] at runs
  exact enters.bind runs

/-- The success text fits into a frame. -/
def FitsFrame (result : Result Bytes) : Prop :=
  ∀ text, result = .ok text → text.length ≤ kIpcMaximumPayload

theorem sendable_terminalFrame {result : Result Bytes} (fits : FitsFrame result) :
    (terminalFrame result).Sendable := by
  cases result with
  | error failure => simp [terminalFrame, errorFrame, IpcFrame.Sendable]
  | ok text => exact fits text rfl

theorem sends_reply (enough : EnoughFuel fuel patience) {result : Result Bytes}
    (fits : FitsFrame result) :
    Sends fuel patience answers (reply true result) () [terminalFrame result] := by
  have sends : Sends fuel patience answers (daemonCall (.sendIpcFrame (terminalFrame result)))
      (.ok ()) [terminalFrame result] :=
    sends_sendIpcFrame (sendable_terminalFrame fits) enough
  cases result with
  | error failure => exact sends.bind (Sends.done ())
  | ok text => exact sends.bind (Sends.done ())

theorem sends_serve (enough : EnoughFuel fuel patience) {controller : Controller}
    {command : Command} {argument : Bytes} {logs : List (LogLevel × Bytes)}
    {result : Result Bytes} (fits : FitsFrame result)
    (direct : directRun answers (controller command argument) = some (logs, result)) :
    Sends fuel patience answers
      (if isMutating command then serveMutating controller command argument
        else serveReading controller command argument) () (replyFrames logs result) := by
  have executes := sends_executeLogged enough direct
  have replies : Sends fuel patience answers (reply true result) () [terminalFrame result] :=
    sends_reply enough fits
  split
  next =>
    have unlocks : Sends fuel patience answers (daemonCall .unlockOperation) () [] :=
      Sends.silent rfl
    have replied : Sends fuel patience answers
        ((reply true result).bind fun _ => daemonCall .unlockOperation) ()
        ([terminalFrame result] ++ []) := replies.bind unlocks
    exact executes.bind replied
  next => exact executes.bind replies

end Worker

/-- The request of a command. -/
def requestFrame (command : Command) (argument : Bytes) : IpcFrame :=
  ⟨.request, encodeCommand command, argument⟩

section Ends

variable {fuel patience : Nat} {answers : (operation : SystemCall) → SystemAnswer operation}
variable {controller : Controller} {command : Command} {argument : Bytes}
variable {logs : List (LogLevel × Bytes)} {result : Result Bytes}

/-- The worker answers a request with the frames of the log and of the result. -/
theorem serveClient_triple (enough : EnoughFuel fuel patience)
    (argumentFits : argument.length ≤ kIpcMaximumPayload) (fits : FitsFrame result)
    (direct : directRun answers (controller command argument) = some (logs, result)) :
    Triple endpoint (attentive fun _ => True)
      (Endpoint.At (frameBytes (requestFrame command argument)) [] patience)
      ((serveClient controller).expand (ipcMeaning fuel answers))
      fun _ world => True ∧
        world.outgoing = (replyFrames logs result).flatMap frameBytes := by
  have received : Triple endpoint (attentive fun _ => True)
      (Endpoint.At (frameBytes (requestFrame command argument) ++ []) [] patience)
      (receiveIpcFrame fuel)
      fun received world => received = .ok (requestFrame command argument) ∧
        world.At [] [] patience := end_receiveIpcFrame argumentFits enough trivial
  rw [List.append_nil] at received
  have receives : (daemonCall .receiveIpcFrame).expand (ipcMeaning fuel answers) =
      receiveIpcFrame fuel := bind_done _
  rw [serveClient, expand_bind, receives]
  refine received.bind fun received world => ?_
  rintro ⟨rfl, start⟩
  simp only [requestFrame, decodeCommand_encodeCommand, ne_eq, not_true_eq_false, if_false]
  refine (sends_serve enough fits direct [] world start).imp ?_
  rintro value last ⟨-, sent⟩
  exact ⟨trivial, sent.outgoing⟩

theorem terminalFrame_type (result : Result Bytes) :
    (terminalFrame result).type = .result ∨ (terminalFrame result).type = .error := by
  cases result with
  | error failure => exact .inr rfl
  | ok text => exact .inl rfl

theorem terminalResult_terminalFrame (result : Result Bytes) :
    terminalResult (terminalFrame result) = remoteResult result := by
  cases result with
  | error failure => simp [terminalResult, terminalFrame, errorFrame, remoteResult]
  | ok text => rfl

/-- The client's loop prints the log frames and returns at the terminal frame. -/
theorem remoteLoop_triple (enough : EnoughFuel fuel patience) {requests : Bytes}
    {frames : List IpcFrame} {terminal : IpcFrame}
    (logging : ∀ frame ∈ frames, frame.type = .log ∧ frame.Sendable ∧
      ∃ level, LogLevel.ofValue frame.code = some level)
    (terminates : terminal.type ≠ .log) (sendable : terminal.Sendable)
    {turns : Nat} (often : frames.length < turns) (printed : List (LogLevel × Bytes)) :
    Triple endpoint (attentive fun written => written = requests)
      (Endpoint.At ((frames ++ [terminal]).flatMap frameBytes) requests patience)
      (iterate (remoteStep fuel) turns printed)
      fun outcome world => outcome = (terminalResult terminal, printed ++ printedBy frames) ∧
        world.outgoing = requests := by
  induction frames generalizing turns printed with
  | nil =>
      obtain ⟨turns, rfl⟩ := Nat.exists_eq_succ_of_ne_zero (Nat.ne_of_gt often)
      have received : Triple endpoint (attentive fun written => written = requests)
          (Endpoint.At (frameBytes terminal ++ []) requests patience) (receiveIpcFrame fuel) _ :=
        end_receiveIpcFrame sendable enough rfl
      have ends : Triple endpoint (attentive fun written => written = requests)
          (Endpoint.At (frameBytes terminal ++ []) requests patience) (remoteStep fuel printed)
          fun turn world => turn = .inr (terminalResult terminal, printed) ∧
            world.outgoing = requests := by
        refine received.bind fun received world => ?_
        rintro ⟨rfl, after⟩
        simp only [terminates, if_false]
        exact end_done ⟨rfl, after.outgoing⟩
      refine Triple.bind (ends.weaken fun world start => by simpa using start) fun turn world => ?_
      rintro ⟨rfl, written⟩
      exact end_done ⟨by simp [printedBy], written⟩
  | cons frame frames ih =>
      obtain ⟨turns, rfl⟩ := Nat.exists_eq_succ_of_ne_zero (Nat.ne_of_gt (Nat.zero_lt_of_lt often))
      obtain ⟨log, frameSendable, level, code⟩ := logging frame List.mem_cons_self
      have received : Triple endpoint (attentive fun written => written = requests)
          (Endpoint.At (frameBytes frame ++ (frames ++ [terminal]).flatMap frameBytes) requests
            patience) (receiveIpcFrame fuel) _ := end_receiveIpcFrame frameSendable enough rfl
      have prints : Triple endpoint (attentive fun written => written = requests)
          (Endpoint.At (frameBytes frame ++ (frames ++ [terminal]).flatMap frameBytes) requests
            patience) (remoteStep fuel printed)
          fun turn world => turn = .inl (printed ++ [(level, frame.payload)]) ∧
            world.At ((frames ++ [terminal]).flatMap frameBytes) requests patience := by
        refine received.bind fun received world => ?_
        rintro ⟨rfl, after⟩
        simp only [log, if_true, code]
        exact end_done ⟨rfl, after⟩
      refine Triple.bind (prints.weaken fun world start => start) fun turn world => ?_
      rintro ⟨rfl, after⟩
      have later := ih (fun other member => logging other (List.mem_cons_of_mem _ member))
        (Nat.lt_of_succ_lt_succ often) (printed ++ [(level, frame.payload)])
      refine (later world after).imp ?_
      rintro outcome last ⟨same, written⟩
      refine ⟨?_, written⟩
      rw [same, List.append_assoc]
      simp [printedBy, code]

/-- The client sends its request and returns what the reply says. -/
theorem executeRemote_triple (enough : EnoughFuel fuel patience)
    (argumentFits : argument.length ≤ kIpcMaximumPayload) (fits : FitsFrame result)
    {turns : Nat} (often : (logFrames logs).length < turns) :
    Triple endpoint
      (attentive fun written => written = frameBytes (requestFrame command argument))
      (Endpoint.At ((replyFrames logs result).flatMap frameBytes) [] patience)
      (executeRemote fuel turns (.ok ()) command argument)
      fun outcome world => (outcome.1 = remoteResult result ∧
          flattenLogs outcome.2 = flattenLogs logs) ∧
        world.outgoing = frameBytes (requestFrame command argument) := by
  have sent : Triple endpoint
      (attentive fun written => written = frameBytes (requestFrame command argument))
      (Endpoint.At ((replyFrames logs result).flatMap frameBytes) [] patience)
      (sendIpcFrame fuel (requestFrame command argument)) _ :=
    end_sendIpcFrame argumentFits enough
  refine sent.bind fun result' world => ?_
  rintro ⟨rfl, after⟩
  have notLog : (terminalFrame result).type ≠ .log := by
    rcases terminalFrame_type result with type | type <;> rw [type] <;> decide
  have looped := remoteLoop_triple enough (fun frame member => mem_logFrames member) notLog
    (sendable_terminalFrame fits) often [] world after
  refine looped.imp ?_
  rintro outcome last ⟨rfl, written⟩
  refine ⟨⟨terminalResult_terminalFrame result, ?_⟩, written⟩
  exact flattenLogs_printedBy logs

end Ends

/-! ## Remote and direct execution -/

/-- The tool and its worker before their first step. -/
def remoteSession (fuel turns : Nat) (answers : (operation : SystemCall) → SystemAnswer operation)
    (controller : Controller) (command : Command) (argument : Bytes)
    (clientInterruptions serverInterruptions : Nat) : Session RemoteOutcome Unit where
  client := executeRemote fuel turns (.ok ()) command argument
  server := (serveClient controller).expand (ipcMeaning fuel answers)
  requests := ⟨[], []⟩
  replies := ⟨[], []⟩
  clientInterruptions := clientInterruptions
  serverInterruptions := serverInterruptions

/-- The client has printed what was logged and returns the result, after one
terminal frame behind all log frames. -/
structure RemotelyExecuted (logs : List (LogLevel × Bytes)) (result : Result Bytes)
    (session : Session RemoteOutcome Unit) : Prop where
  client : ∃ printed, session.client = .done (remoteResult result, printed) ∧
    flattenLogs printed = flattenLogs logs
  server : session.server = .done ()
  frames : ∃ logged terminal,
    session.replies.written = (logged ++ [terminal]).flatMap frameBytes ∧
    (∀ frame ∈ logged, frame.type = .log) ∧
    (terminal.type = .result ∨ terminal.type = .error)

/-- Execution through the daemon refines direct execution: no session of the tool
and a worker gets stuck or goes on forever, and it ends with the result and the
log of a direct run, whatever the transfers are like. -/
theorem remote_refines_direct {fuel turns patience clientInterruptions serverInterruptions : Nat}
    {answers : (operation : SystemCall) → SystemAnswer operation} {controller : Controller}
    {command : Command} {argument : Bytes} {logs : List (LogLevel × Bytes)}
    {result : Result Bytes} (enough : EnoughFuel fuel patience)
    (often : (logFrames logs).length < turns) (clientPatient : clientInterruptions ≤ patience)
    (serverPatient : serverInterruptions ≤ patience)
    (argumentFits : argument.length ≤ kIpcMaximumPayload) (fits : FitsFrame result)
    (direct : directRun answers (controller command argument) = some (logs, result)) :
    (∀ session, Session.Reaches (remoteSession fuel turns answers controller command argument
        clientInterruptions serverInterruptions) session →
      RemotelyExecuted logs result session ∨ ∃ next, Session.Moves session next) ∧
    ¬ ∃ run : Nat → Session RemoteOutcome Unit, run 0 = remoteSession fuel turns answers
      controller command argument clientInterruptions serverInterruptions ∧
      ∀ step, Session.Moves (run step) (run (step + 1)) := by
  constructor
  · intro session reaches
    have joined : (remoteSession fuel turns answers controller command argument
        clientInterruptions serverInterruptions).Joined
          (frameBytes (requestFrame command argument))
          ((replyFrames logs result).flatMap frameBytes)
          (fun outcome => outcome.1 = remoteResult result ∧
            flattenLogs outcome.2 = flattenLogs logs) (fun _ => True) :=
      ⟨_, _, rfl, rfl,
        executeRemote_triple enough argumentFits fits often _ ⟨rfl, rfl, clientPatient⟩,
        serveClient_triple enough argumentFits fits direct _ ⟨rfl, rfl, serverPatient⟩⟩
    refine (joined.of_reaches reaches).progresses.imp_left ?_
    rintro ⟨⟨returned, printed⟩, ⟨⟩, client, server, ⟨rfl, same⟩, -, -, written⟩
    exact ⟨⟨printed, client, same⟩, server, logFrames logs, terminalFrame result, written,
      fun frame member => (mem_logFrames member).1, terminalFrame_type result⟩
  · rintro ⟨run, -, moves⟩
    obtain ⟨_, ⟨step, rfl⟩, least⟩ :=
      Session.moves_wellFounded.has_min (Set.range run) ⟨_, 0, rfl⟩
    exact least (run (step + 1)) ⟨_, rfl⟩ (moves step)

/-- A system on which no call succeeds. -/
def failingAnswers : (operation : SystemCall) → SystemAnswer operation
  | .readTextFile _ | .writeFileAtomic _ _ _ | .exchangeGreeting _ | .runCapture _ =>
      .error (makeError .stateError [])
  | .removeFile _ | .mkdir _ _ | .mknod _ _ _ => .failed []
  | .emitLog _ _ | .sleepFor _ | .remove _ | .removeAll _ | .pollOutput => ()
  | .steadyClock | .geteuid | .getpid => 0
  | .kill _ _ | .waitpid _ _ => .failed
  | .readExecutableLink _ | .readAvailable _ => []
  | .weaklyCanonical _ | .listDirectory _ => none
  | .ifNameToIndex _ | .rename _ _ | .openCore _ | .openCoreLog | .pollHandshake _ => false
  | .lstat _ => .missing
  | .chmod _ _ | .pipe | .fork _ | .getaddrinfo _ _ | .getifaddrs | .setNonBlocking _ =>
      .error []
  | .readHandshake _ => .invalid

/-- A controller that warns and fails with a message. -/
def warningController : Controller :=
  fun _ _ => .call (.emitLog .warning (ascii "careful")) fun _ =>
    .done (.error (makeError .coreStartFailure (ascii "no core")))

/-- The session of that controller. -/
def warningSession : Session RemoteOutcome Unit :=
  remoteSession 70000 3 failingAnswers warningController .on [] 1 2

theorem remote_refines_direct_example :
    (∀ session, warningSession.Reaches session →
      RemotelyExecuted [(.warning, ascii "careful")]
          (.error (makeError .coreStartFailure (ascii "no core"))) session ∨
        ∃ next, Session.Moves session next) ∧
    ¬ ∃ run : Nat → Session RemoteOutcome Unit, run 0 = warningSession ∧
      ∀ step, Session.Moves (run step) (run (step + 1)) := by
  have enough : EnoughFuel 70000 2 := by
    unfold EnoughFuel
    decide
  have fits : FitsFrame (.error (makeError .coreStartFailure (ascii "no core"))) :=
    fun text impossible => nomatch impossible
  exact remote_refines_direct enough (by decide) (by decide) (by decide) (Nat.zero_le _) fits rfl

end TunProxy
