import TunProxy.RemoteExecution
import TunProxy.ResultLengths

/-!
# The command line

The tool runs one command, through the daemon or in its own process, and prints
what it logs and returns; without an argument `setting` asks for the upstream.
Whoever calls the tool sees the same either way: what goes to the standard
output, what is read of the standard input and the exit status are those of a
direct execution, however the connection to the daemon transfers its bytes.
-/

namespace TunProxy.CommandLine

open ByteText EffectProgram

/-! ## The tool -/

/-- The calls of the tool. -/
inductive ToolCall
  | geteuid
  /-- Execution through the daemon. -/
  | executeRemote (command : Command) (argument : Bytes)
  /-- `CommandController::execute` in the tool's own process. -/
  | executeDirect (command : Command) (argument : Bytes)
  /-- `std::getline` on the standard input. -/
  | getline
  | writeOutput (text : Bytes)
  | writeErrors (text : Bytes)

/-- An execution is answered by its result and what it has passed to `printLog`,
and a line is missing where the input had ended before. -/
abbrev ToolAnswer : ToolCall → Type
  | .geteuid => Nat
  | .executeRemote _ _ | .executeDirect _ _ => RemoteOutcome
  | .getline => Option Bytes
  | .writeOutput _ | .writeErrors _ => Unit

/-- A program of the tool. -/
abbrev ToolProgram (α : Type) : Type :=
  EffectProgram ToolAnswer α

def toolCall (operation : ToolCall) : ToolProgram (ToolAnswer operation) :=
  perform operation

def writeOutput (text : Bytes) : ToolProgram Unit :=
  toolCall (.writeOutput text)

def writeErrors (text : Bytes) : ToolProgram Unit :=
  toolCall (.writeErrors text)

def printError (failure : Error) : ToolProgram Nat :=
  (writeErrors (ascii "error: " ++ failure.message ++ [newline])).bind fun _ =>
  .done failure.code.value.toNat

def printUsage : ToolProgram Nat :=
  (writeErrors (ascii ("Usage: tunproxy [--direct] <on|off|status|bypass|setting> " ++
    "[socks5://host:port]\n"))).bind fun _ =>
  .done ErrorCode.invalidArguments.value.toNat

/-- What `printLog` writes for a message. -/
def logText : LogLevel → Bytes → Bytes
  | .progress, message => message
  | .warning, message => ascii "warning: " ++ message ++ [newline]
  | .info, message => message ++ [newline]

def logTexts (logs : List (LogLevel × Bytes)) : Bytes :=
  logs.flatMap fun entry => logText entry.1 entry.2

/-- An execution, whose messages are printed before anything else is. -/
def execute (direct : Bool) (command : Command) (argument : Bytes) :
    ToolProgram (Result Bytes) :=
  if !direct then
    (toolCall (.executeRemote command argument)).bind fun outcome =>
    (writeErrors (logTexts outcome.2)).bind fun _ => .done outcome.1
  else
    (toolCall .geteuid).bind fun euid =>
    if euid ≠ 0 then
      .done (.error (makeError .insufficientPrivileges
        (ascii "--direct requires root privileges")))
    else
      (toolCall (.executeDirect command argument)).bind fun outcome =>
      (writeErrors (logTexts outcome.2)).bind fun _ => .done outcome.1

/-- Execute a command and print what it returns. -/
def runCommand (direct : Bool) (command : Command) (argument : Bytes) : ToolProgram Nat :=
  (execute direct command argument).bind fun
  | .error failure => printError failure
  | .ok text => (writeOutput text).bind fun _ => .done 0

/-- The upstream with a host that has been typed, if one has. -/
def withHost (upstream : Upstream) (input : Bytes) : Upstream :=
  if !input.isEmpty then { upstream with host := input } else upstream

/-- The upstream with a port that has been typed, if one has. -/
def withPort (upstream : Upstream) (input : Bytes) : Result Upstream :=
  if !input.isEmpty then
    match parseUpstreamUri (ascii "socks5://" ++
        (if !upstream.host.contains colon then upstream.host
          else ascii "[" ++ upstream.host ++ ascii "]") ++ ascii ":" ++ input) with
    | .error failure => .error failure
    | .ok typed => .ok { upstream with port := typed.port }
  else .ok upstream

/-- Ask for the parts of an upstream and set it. -/
def askUpstream (direct : Bool) (parsed : Upstream) : ToolProgram Nat :=
  (writeOutput (ascii "Host [" ++ parsed.host ++ ascii "]: ")).bind fun _ =>
  (toolCall .getline).bind fun hostLine =>
  let hostInput := hostLine.getD []
  (writeOutput (ascii "Port [" ++ formatNat (withHost parsed hostInput).port.toNat ++
    ascii "]: ")).bind fun _ =>
  (toolCall .getline).bind fun portLine =>
  -- where the line is missing the variable still holds the host
  match withPort (withHost parsed hostInput) (portLine.getD hostInput) with
  | .error failure => printError failure
  | .ok updated => runCommand direct .setSetting (formatUpstreamUri updated)

def interactiveSetting (direct : Bool) : ToolProgram Nat :=
  (execute direct .getSetting []).bind fun
  | .error failure => printError failure
  | .ok current =>
  match parseUpstreamUri current with
  | .error failure => printError failure
  | .ok parsed => askUpstream direct parsed

/-- The command of a word. -/
def commandNamed (word : Bytes) : Option Command :=
  if word = ascii "on" then some .on
  else if word = ascii "off" then some .off
  else if word = ascii "status" then some .status
  else if word = ascii "bypass" then some .bypass
  else if word = ascii "setting" then some .setSetting
  else none

/-- The command line behind the option. -/
def runWords (direct : Bool) : List Bytes → ToolProgram Nat
  | [word] =>
      match commandNamed word with
      | none => printUsage
      | some .setSetting => interactiveSetting direct
      | some command => runCommand direct command []
  | [word, argument] =>
      match commandNamed word with
      | none => printUsage
      | some command => runCommand direct command argument
  | _ => printUsage

/-- The tool with the arguments behind its name. -/
def main (version : Bytes) (arguments : List Bytes) : ToolProgram Nat :=
  if arguments = [ascii "--version"] ∨ arguments = [ascii "version"] then
    (writeOutput (ascii "TunProxy " ++ version ++ [newline] ++
      ascii "Managed core: sing-box " ++ kSingBoxRelease.version ++ [newline])).bind fun _ =>
    .done 0
  else if arguments.head? = some (ascii "--direct") then runWords true arguments.tail
  else runWords false arguments

/-! ## What the tool is run with -/

/-- The standard input: what has not been read, and whether a read has met its end. -/
structure StandardInput where
  unread : Bytes
  ended : Bool := false

/-- The next line, up to a newline or to the end. -/
def StandardInput.getline (input : StandardInput) : Option Bytes × StandardInput :=
  if input.ended then (none, input)
  else
    match splitFirst newline input.unread with
    | some (line, rest) => (some line, ⟨rest, false⟩)
    | none => (some input.unread, ⟨[], true⟩)

structure Streams where
  input : StandardInput
  output : Bytes := []
  errors : Bytes := []

/-- Who runs the tool, and how executions end. -/
structure Machine where
  euid : Nat
  remote : Command → Bytes → RemoteOutcome
  direct : Command → Bytes → RemoteOutcome

def Machine.respond (machine : Machine) : Responder ToolAnswer Streams
  | streams, .geteuid => some (machine.euid, streams)
  | streams, .executeRemote command argument => some (machine.remote command argument, streams)
  | streams, .executeDirect command argument => some (machine.direct command argument, streams)
  | streams, .getline =>
      some (streams.input.getline.1, { streams with input := streams.input.getline.2 })
  | streams, .writeOutput text => some ((), { streams with output := streams.output ++ text })
  | streams, .writeErrors text => some ((), { streams with errors := streams.errors ++ text })

/-- The tool run by somebody else. -/
def Machine.runBy (machine : Machine) (euid : Nat) : Machine :=
  { machine with euid := euid }

/-! ## How an execution through the daemon ends -/

section Ends

variable {answers : (operation : SystemCall) → SystemAnswer operation} {controller : Controller}
variable {command : Command} {argument : Bytes} {logs : List (LogLevel × Bytes)}
variable {result : Result Bytes}

/-- The client has come to an outcome in some session with a worker that logs
these messages. -/
def EndsRemotely (answers : (operation : SystemCall) → SystemAnswer operation)
    (controller : Controller) (command : Command) (argument : Bytes)
    (logs : List (LogLevel × Bytes)) (outcome : RemoteOutcome) : Prop :=
  ∃ fuel turns patience clientInterruptions serverInterruptions session,
    EnoughFuel fuel patience ∧ (logFrames logs).length < turns ∧
    clientInterruptions ≤ patience ∧ serverInterruptions ≤ patience ∧
    Session.Reaches (remoteSession fuel turns answers controller command argument
      clientInterruptions serverInterruptions) session ∧
    session.client = .done outcome

/-- The client's outcome for a direct run. -/
def remoteOutcome (logs : List (LogLevel × Bytes)) (result : Result Bytes) : RemoteOutcome :=
  (remoteResult result, printedBy (logFrames logs))

theorem executeRemote_outcome {fuel patience : Nat} (enough : EnoughFuel fuel patience)
    (argumentFits : argument.length ≤ kIpcMaximumPayload) (fits : FitsFrame result)
    {turns : Nat} (often : (logFrames logs).length < turns) :
    Triple endpoint
      (attentive fun written => written = frameBytes (requestFrame command argument))
      (Endpoint.At ((replyFrames logs result).flatMap frameBytes) [] patience)
      (executeRemote fuel turns (.ok ()) command argument)
      fun outcome world => outcome = remoteOutcome logs result ∧
        world.outgoing = frameBytes (requestFrame command argument) := by
  have sent : Triple endpoint
      (attentive fun written => written = frameBytes (requestFrame command argument))
      (Endpoint.At ((replyFrames logs result).flatMap frameBytes) [] patience)
      (sendIpcFrame fuel (requestFrame command argument)) _ :=
    end_sendIpcFrame argumentFits enough
  apply sent.bind
  rintro _ world ⟨rfl, after⟩
  have notLog : (terminalFrame result).type ≠ .log := by
    rcases terminalFrame_type result with type | type <;> rw [type] <;> decide
  have looped := remoteLoop_triple enough (fun frame member => mem_logFrames member) notLog
    (sendable_terminalFrame fits) often [] world after
  apply looped.imp
  rintro outcome last ⟨rfl, written⟩
  exact ⟨by rw [terminalResult_terminalFrame]; rfl, written⟩

theorem joined_remoteSession {fuel turns patience clientInterruptions serverInterruptions : Nat}
    (enough : EnoughFuel fuel patience) (often : (logFrames logs).length < turns)
    (clientPatient : clientInterruptions ≤ patience)
    (serverPatient : serverInterruptions ≤ patience)
    (argumentFits : argument.length ≤ kIpcMaximumPayload) (fits : FitsFrame result)
    (direct : directRun answers (controller command argument) = some (logs, result)) :
    (remoteSession fuel turns answers controller command argument clientInterruptions
      serverInterruptions).Joined (frameBytes (requestFrame command argument))
        ((replyFrames logs result).flatMap frameBytes)
        (fun outcome => outcome = remoteOutcome logs result) (fun _ => True) :=
  ⟨_, _, rfl, rfl,
    executeRemote_outcome enough argumentFits fits often _ ⟨rfl, rfl, clientPatient⟩,
    serveClient_triple enough argumentFits fits direct _ ⟨rfl, rfl, serverPatient⟩⟩

/-- The only outcome is that of the direct run. -/
theorem EndsRemotely.eq {outcome : RemoteOutcome}
    (argumentFits : argument.length ≤ kIpcMaximumPayload) (fits : FitsFrame result)
    (direct : directRun answers (controller command argument) = some (logs, result))
    (ends : EndsRemotely answers controller command argument logs outcome) :
    outcome = remoteOutcome logs result := by
  obtain ⟨fuel, turns, patience, _, _, session, enough, often, clientPatient, serverPatient,
    reaches, done⟩ := ends
  have joined := (joined_remoteSession enough often clientPatient serverPatient argumentFits fits
    direct).of_reaches reaches
  obtain ⟨_, _, _, _, client, _⟩ := joined
  rw [done] at client
  exact client.result.1

/-- Some session comes to it. -/
theorem endsRemotely_remoteOutcome (argumentFits : argument.length ≤ kIpcMaximumPayload)
    (fits : FitsFrame result)
    (direct : directRun answers (controller command argument) = some (logs, result)) :
    EndsRemotely answers controller command argument logs (remoteOutcome logs result) := by
  have enough : EnoughFuel (kIpcMaximumPayload + 5) 0 := by
    unfold EnoughFuel
    omega
  obtain ⟨last, reaches, rests⟩ := (remoteSession (kIpcMaximumPayload + 5)
    ((logFrames logs).length + 1) answers controller command argument 0 0).comes_to_rest
  have joined := (joined_remoteSession enough (Nat.lt_succ_self _) (Nat.le_refl 0) (Nat.le_refl 0)
    argumentFits fits direct).of_reaches reaches
  rcases joined.progresses with finished | ⟨next, moves⟩
  · obtain ⟨outcome, -, done, -, rfl, -⟩ := finished
    exact ⟨_, _, 0, 0, 0, last, enough, Nat.lt_succ_self _, Nat.le_refl 0, Nat.le_refl 0, reaches,
      done⟩
  · exact absurd moves (rests next)

end Ends

/-! ## What is printed of a divided message -/

/-- A message that is printed alike when it arrives in frames: a message of
progress may be divided anywhere. -/
def ArrivesWhole (entry : LogLevel × Bytes) : Prop :=
  entry.1 ≠ .progress → entry.2 ≠ [] ∧ entry.2.length ≤ kIpcMaximumPayload

theorem logTexts_append (front back : List (LogLevel × Bytes)) :
    logTexts (front ++ back) = logTexts front ++ logTexts back :=
  List.flatMap_append

theorem logTexts_progress (fuel : Nat) {message : Bytes} (enough : message.length ≤ fuel) :
    logTexts (printedBy (messageFrames .progress fuel message)) = message := by
  have texts (frames : List IpcFrame)
      (codes : ∀ frame ∈ frames, frame.code = LogLevel.progress.value) :
      logTexts (printedBy frames) = frames.flatMap IpcFrame.payload := by
    induction frames with
    | nil => rfl
    | cons frame frames ih =>
        have rest := ih fun other member => codes other (List.mem_cons_of_mem _ member)
        have printed : printedBy (frame :: frames) =
            (.progress, frame.payload) :: printedBy frames := by
          simp [printedBy, codes frame List.mem_cons_self]
        rw [printed, List.flatMap_cons, ← rest]
        rfl
  rw [texts _ fun frame member => (messageFrames_log member).2.1,
    messageFrames_payloads .progress enough]

theorem printedBy_messageFrames {level : LogLevel} {message : Bytes} (filled : message ≠ [])
    (fits : message.length ≤ kIpcMaximumPayload) :
    printedBy (messageFrames level message.length message) = [(level, message)] := by
  obtain ⟨byte, rest, rfl⟩ := List.exists_cons_of_ne_nil filled
  have whole : (byte :: rest).take kIpcMaximumPayload = byte :: rest := List.take_of_length_le fits
  have nothing : (byte :: rest).drop kIpcMaximumPayload = [] := List.drop_of_length_le fits
  have last (fuel : Nat) : messageFrames level fuel [] = [] := by cases fuel <;> rfl
  simp [messageFrames, whole, nothing, last, printedBy]

theorem logTexts_printedBy {logs : List (LogLevel × Bytes)}
    (whole : ∀ entry ∈ logs, ArrivesWhole entry) :
    logTexts (printedBy (logFrames logs)) = logTexts logs := by
  induction logs with
  | nil => rfl
  | cons entry logs ih =>
      have split : logFrames (entry :: logs) =
          messageFrames entry.1 entry.2.length entry.2 ++ logFrames logs := rfl
      have first : logTexts (printedBy (messageFrames entry.1 entry.2.length entry.2)) =
          logText entry.1 entry.2 := by
        by_cases progress : entry.1 = .progress
        · rw [progress, logTexts_progress _ (Nat.le_refl _)]
          rfl
        · obtain ⟨filled, fits⟩ := whole entry List.mem_cons_self progress
          rw [printedBy_messageFrames filled fits]
          exact List.append_nil _
      rw [split, printedBy, List.filterMap_append, ← printedBy, ← printedBy, logTexts_append, first,
        ih fun other member => whole other (List.mem_cons_of_mem _ member)]
      rfl

/-! ## The same tool with and without the daemon -/

/-- Executions through the daemon end as sessions with a worker do, and those in
the process of the tool as the controller does. -/
structure Machine.Executes (machine : Machine) (controller : Controller)
    (answers : Command → Bytes → (operation : SystemCall) → SystemAnswer operation) : Prop where
  remote : ∀ command argument, argument.length ≤ kIpcMaximumPayload →
    EndsRemotely (answers command argument) controller command argument
      (machine.direct command argument).2 (machine.remote command argument)
  direct : ∀ command argument, directRun (answers command argument) (controller command argument) =
    some ((machine.direct command argument).2, (machine.direct command argument).1)
  fits : ∀ command argument, FitsFrame (machine.direct command argument).1

/-- No text that goes to the standard error is cut or divided. -/
def Machine.PrintsWhole (machine : Machine) : Prop :=
  ∀ command argument, (∀ entry ∈ (machine.direct command argument).2, ArrivesWhole entry) ∧
    ∀ failure, (machine.direct command argument).1 = .error failure →
      failure.message.length ≤ kIpcMaximumPayload

/-- What may be typed for the request to fit into a frame. -/
def StandardInput.Short (input : StandardInput) : Prop :=
  input.unread.length + 32 ≤ kIpcMaximumPayload

/-- The streams of two runs, in which errors agree on a condition. -/
structure StreamsAgree (whole : Prop) (streams others : Streams) : Prop where
  input : streams.input = others.input
  output : streams.output = others.output
  errors : whole → streams.errors = others.errors
  short : streams.input.Short

section Alike

variable {α β γ δ : Type} {user root : Machine} {whole : Prop} {same : α → β → Prop}
variable {after : γ → δ → Prop}

/-- Two programs come to values that belong together and leave the same streams. -/
def Alike (user root : Machine) (whole : Prop) (same : α → β → Prop) (program : ToolProgram α)
    (other : ToolProgram β) : Prop :=
  ∀ streams others, StreamsAgree whole streams others →
    ∃ value otherValue last otherLast,
      follow user.respond program streams = (.done value, last) ∧
      follow root.respond other others = (.done otherValue, otherLast) ∧
      same value otherValue ∧ StreamsAgree whole last otherLast

theorem Alike.done {value : α} {other : β} (holds : same value other) :
    Alike user root whole same (.done value) (.done other) :=
  fun streams others agree => ⟨value, other, streams, others, rfl, rfl, holds, agree⟩

theorem Alike.bind {program : ToolProgram α} {other : ToolProgram β}
    {next : α → ToolProgram γ} {otherNext : β → ToolProgram δ}
    (first : Alike user root whole same program other)
    (second : ∀ value otherValue, same value otherValue →
      Alike user root whole after (next value) (otherNext otherValue)) :
    Alike user root whole after (program.bind next) (other.bind otherNext) := by
  intro streams others agree
  obtain ⟨value, otherValue, middle, otherMiddle, ran, otherRan, holds, agrees⟩ :=
    first streams others agree
  rw [follow_bind ran, follow_bind otherRan]
  exact second value otherValue holds middle otherMiddle agrees

theorem alike_writeOutput (text : Bytes) :
    Alike user root whole (fun _ _ => True) (writeOutput text) (writeOutput text) := by
  intro streams others agree
  refine ⟨(), (), _, _, rfl, rfl, trivial, agree.input, ?_, agree.errors, agree.short⟩
  exact congrArg (· ++ text) agree.output

theorem alike_writeErrors {text other : Bytes} (equal : whole → text = other) :
    Alike user root whole (fun _ _ => True) (writeErrors text) (writeErrors other) := by
  intro streams others agree
  refine ⟨(), (), _, _, rfl, rfl, trivial, agree.input, agree.output, ?_, agree.short⟩
  intro holds
  exact congrArg₂ (· ++ ·) (agree.errors holds) (equal holds)

theorem length_getline (input : StandardInput) :
    (∀ line, input.getline.1 = some line → line.length ≤ input.unread.length) ∧
      input.getline.2.unread.length ≤ input.unread.length := by
  unfold StandardInput.getline
  split
  next =>
    constructor
    · intro line missing
      cases missing
    · exact Nat.le_refl _
  next =>
    split
    next line rest parts =>
      obtain ⟨whole, -⟩ := eq_of_splitFirst parts
      have total : input.unread.length = line.length + (rest.length + 1) := by
        rw [whole, List.length_append, List.length_cons]
      constructor
      · intro found equal
        obtain rfl := Option.some.inj equal
        omega
      · show rest.length ≤ input.unread.length
        omega
    next =>
      constructor
      · intro found equal
        obtain rfl := Option.some.inj equal
        exact Nat.le_refl _
      · exact Nat.zero_le _

/-- A line that is short enough to be sent as a host. -/
def ShortLine (line : Option Bytes) : Prop :=
  ∀ text, line = some text → text.length + 32 ≤ kIpcMaximumPayload

theorem alike_getline :
    Alike user root whole (fun line other => line = other ∧ ShortLine line)
      (toolCall .getline) (toolCall .getline) := by
  intro streams others agree
  obtain ⟨lines, left⟩ := length_getline streams.input
  have short := agree.short
  unfold StandardInput.Short at short
  have line := congrArg (fun input => (StandardInput.getline input).1) agree.input
  have rest := congrArg (fun input => (StandardInput.getline input).2) agree.input
  refine ⟨_, _, _, _, rfl, rfl, ⟨line, fun text found => ?_⟩, rest, agree.output, agree.errors, ?_⟩
  · have shorter := lines text found
    omega
  · show streams.input.getline.2.unread.length + 32 ≤ kIpcMaximumPayload
    omega

theorem alike_printError {failure other : Error} (code : failure.code = other.code)
    (message : whole → failure.message = other.message) :
    Alike user root whole Eq (printError failure) (printError other) := by
  apply (alike_writeErrors ?_).bind
  · intro _ _ _
    exact Alike.done (by rw [code])
  · intro holds
    rw [message holds]

theorem alike_printUsage : Alike user root whole Eq printUsage printUsage :=
  (alike_writeErrors fun _ => rfl).bind fun _ _ _ => Alike.done rfl

end Alike

section Execution

variable {machine : Machine} {controller : Controller}
variable {answers : Command → Bytes → (operation : SystemCall) → SystemAnswer operation}
variable {user : Nat} {whole : Prop}

/-- The result that comes through the daemon: that of the direct execution, with
the message of an error cut where it is too long. -/
def ArrivesAs (whole : Prop) (result direct : Result Bytes) : Prop :=
  result = remoteResult direct ∧ (whole → result = direct)

theorem alike_execute (executes : machine.Executes controller answers) (root : machine.euid = 0)
    (command : Command) {argument : Bytes} (short : argument.length ≤ kIpcMaximumPayload) :
    Alike (machine.runBy user) machine machine.PrintsWhole (ArrivesAs machine.PrintsWhole)
      (execute false command argument) (execute true command argument) := by
  have remote : machine.remote command argument = _ := (executes.remote command argument short).eq
    short (executes.fits command argument) (executes.direct command argument)
  have arrives : ArrivesAs machine.PrintsWhole (machine.remote command argument).1
      (machine.direct command argument).1 := by
    rw [remote]
    refine ⟨rfl, fun whole => ?_⟩
    cases ended : (machine.direct command argument).1 with
    | ok text => rfl
    | error failure =>
        have fits := (whole command argument).2 failure ended
        simp only [remoteOutcome, remoteResult, List.take_of_length_le fits]
        rfl
  have printed (whole : machine.PrintsWhole) : logTexts (machine.remote command argument).2 =
      logTexts (machine.direct command argument).2 := by
    rw [remote]
    exact logTexts_printedBy (whole command argument).1
  intro streams others agree
  have prints : Alike (machine.runBy user) machine machine.PrintsWhole (fun _ _ => True)
      (writeErrors (logTexts (machine.remote command argument).2))
      (writeErrors (logTexts (machine.direct command argument).2)) := alike_writeErrors printed
  obtain ⟨_, _, last, otherLast, wrote, otherWrote, -, agrees⟩ := prints streams others agree
  refine ⟨(machine.remote command argument).1, (machine.direct command argument).1, last,
    otherLast, ?_, ?_, arrives, agrees⟩
  · exact follow_bind wrote
  · show follow machine.respond (if machine.euid ≠ 0 then _ else _) others = _
    rw [if_neg (not_not.mpr root)]
    exact follow_bind otherWrote

theorem alike_printError_arriving {failure : Error}
    (arrives : ArrivesAs whole (remoteResult (.error failure)) (.error failure)) :
    Alike (machine.runBy user) machine whole Eq
      (printError (makeError failure.code (failure.message.take kIpcMaximumPayload)))
      (printError failure) :=
  alike_printError rfl fun holds => congrArg Error.message (Except.error.inj (arrives.2 holds))

theorem alike_runCommand (executes : machine.Executes controller answers)
    (root : machine.euid = 0) (command : Command) {argument : Bytes}
    (short : argument.length ≤ kIpcMaximumPayload) :
    Alike (machine.runBy user) machine machine.PrintsWhole Eq
      (runCommand false command argument) (runCommand true command argument) := by
  apply (alike_execute executes root command short).bind
  intro result direct arrives
  obtain rfl := arrives.1
  cases direct with
  | error failure => exact alike_printError_arriving arrives
  | ok text => exact (alike_writeOutput text).bind fun _ _ _ => Alike.done rfl

theorem length_of_isValidHost {host : Bytes} (valid : isValidHost host = true) :
    host.length ≤ 253 := by
  by_contra long
  have found : decide (253 < host.length) = true := by simpa using long
  simp [isValidHost, found] at valid

/-- Only the port is changed by what is typed for it. -/
theorem withPort_keeps {upstream updated : Upstream} {input : Bytes}
    (ported : withPort upstream input = .ok updated) :
    updated.protocol = upstream.protocol ∧ updated.host = upstream.host := by
  unfold withPort at ported
  split at ported
  next =>
    split at ported
    · cases ported
    · obtain rfl := Except.ok.inj ported
      exact ⟨rfl, rfl⟩
  next =>
    obtain rfl := Except.ok.inj ported
    exact ⟨rfl, rfl⟩

/-- What is typed for an upstream is short enough to be sent. -/
theorem length_of_withPort {parsed updated : Upstream} {hostLine portLine : Bytes}
    (valid : parsed.protocol = ascii "socks5" ∧ parsed.host.length ≤ 253)
    (short : hostLine.length + 32 ≤ kIpcMaximumPayload)
    (ported : withPort (withHost parsed hostLine) portLine = .ok updated) :
    (formatUpstreamUri updated).length ≤ kIpcMaximumPayload := by
  have hosted : (withHost parsed hostLine).protocol = ascii "socks5" ∧
      (withHost parsed hostLine).host.length + 32 ≤ kIpcMaximumPayload := by
    unfold withHost
    split
    · exact ⟨valid.1, short⟩
    · refine ⟨valid.1, ?_⟩
      have bound := valid.2
      unfold kIpcMaximumPayload
      omega
  obtain ⟨protocol, host⟩ := withPort_keeps ported
  rw [← protocol, ← host] at hosted
  have scheme : (ascii "socks5").length = 6 ∧ (ascii "://").length = 3 ∧ (ascii "[").length = 1 ∧
      (ascii "]").length = 1 ∧ (ascii ":").length = 1 := by decide
  obtain ⟨socks5, separator, opening, closing, single⟩ := scheme
  have port : (formatNat updated.port.toNat).length ≤ 5 := by
    have bound := updated.port.toNat_lt
    exact length_formatNat (by omega) (by decide)
  have room := hosted.2
  unfold formatUpstreamUri
  rw [hosted.1]
  split <;> simp only [List.length_append] <;> omega

theorem alike_askUpstream (executes : machine.Executes controller answers)
    (root : machine.euid = 0) {parsed : Upstream}
    (valid : parsed.protocol = ascii "socks5" ∧ parsed.host.length ≤ 253) :
    Alike (machine.runBy user) machine machine.PrintsWhole Eq (askUpstream false parsed)
      (askUpstream true parsed) := by
  apply (alike_writeOutput _).bind
  intro _ _ _
  apply alike_getline.bind
  rintro hostLine _ ⟨rfl, short⟩
  apply (alike_writeOutput _).bind
  intro _ _ _
  apply alike_getline.bind
  rintro portLine _ ⟨rfl, -⟩
  have hostShort : (hostLine.getD []).length + 32 ≤ kIpcMaximumPayload := by
    cases hostLine with
    | none => decide
    | some text => exact short text rfl
  cases ported : withPort (withHost parsed (hostLine.getD []))
      (portLine.getD (hostLine.getD [])) with
  | error failure => exact alike_printError rfl fun _ => rfl
  | ok updated =>
      exact alike_runCommand executes root .setSetting (length_of_withPort valid hostShort ported)

theorem alike_interactiveSetting (executes : machine.Executes controller answers)
    (root : machine.euid = 0) :
    Alike (machine.runBy user) machine machine.PrintsWhole Eq (interactiveSetting false)
      (interactiveSetting true) := by
  apply (alike_execute executes root .getSetting (Nat.zero_le _)).bind
  intro result direct arrives
  obtain rfl := arrives.1
  cases direct with
  | error failure => exact alike_printError_arriving arrives
  | ok current =>
      simp only [remoteResult]
      cases parsed : parseUpstreamUri current with
      | error failure => exact alike_printError rfl fun _ => rfl
      | ok upstream =>
          obtain ⟨protocol, host⟩ := valid_of_parseUpstreamUri parsed
          exact alike_askUpstream executes root ⟨protocol, length_of_isValidHost host⟩

theorem alike_runWords (executes : machine.Executes controller answers) (root : machine.euid = 0)
    {words : List Bytes} (short : ∀ word ∈ words, word.length ≤ kIpcMaximumPayload) :
    Alike (machine.runBy user) machine machine.PrintsWhole Eq (runWords false words)
      (runWords true words) := by
  unfold runWords
  split
  next word =>
    cases commandNamed word with
    | none => exact alike_printUsage
    | some command =>
        cases command with
        | setSetting => exact alike_interactiveSetting executes root
        | _ => exact alike_runCommand executes root _ (Nat.zero_le _)
  next word argument =>
    cases commandNamed word with
    | none => exact alike_printUsage
    | some command => exact alike_runCommand executes root command (short argument (by simp))
  next => exact alike_printUsage

/-- Whoever runs the tool without `--direct` has the exit status, the output and
the use of the input that root has with it; also the errors, if none of their
texts is cut or divided on the way. -/
theorem main_remote_eq_direct (executes : machine.Executes controller answers)
    (root : machine.euid = 0) (user : Nat) (version : Bytes) {arguments : List Bytes}
    {streams : Streams} (running : arguments ≠ [ascii "--version"] ∧ arguments ≠ [ascii "version"])
    (remote : arguments.head? ≠ some (ascii "--direct"))
    (short : ∀ argument ∈ arguments, argument.length ≤ kIpcMaximumPayload)
    (typed : streams.input.Short) :
    ∃ status last directLast,
      follow (machine.runBy user).respond (main version arguments) streams =
        (.done status, last) ∧
      follow machine.respond (main version (ascii "--direct" :: arguments)) streams =
        (.done status, directLast) ∧
      last.input = directLast.input ∧ last.output = directLast.output ∧
      (machine.PrintsWhole → last.errors = directLast.errors) := by
  have through : main version arguments = runWords false arguments := by
    rw [main, if_neg (not_or.mpr running), if_neg remote]
  have direct : main version (ascii "--direct" :: arguments) = runWords true arguments := by
    have different : ascii "--direct" ≠ ascii "--version" ∧ ascii "--direct" ≠ ascii "version" := by
      decide
    rw [main, if_neg (by simp [different])]
    exact if_pos rfl
  obtain ⟨status, _, last, directLast, ran, directRan, rfl, agree⟩ :=
    alike_runWords executes root short streams streams ⟨rfl, rfl, fun _ => rfl, typed⟩
  rw [through, direct]
  exact ⟨status, last, directLast, ran, directRan, agree.input, agree.output, agree.errors⟩

end Execution

/-- A controller that warns and fails, with the tool around it. -/
def warningMachine : Machine where
  euid := 0
  remote _ _ := remoteOutcome [(.warning, ascii "careful")]
    (.error (makeError .coreStartFailure (ascii "no core")))
  direct _ _ := (.error (makeError .coreStartFailure (ascii "no core")),
    [(.warning, ascii "careful")])

theorem warningMachine_executes :
    warningMachine.Executes warningController fun _ _ => failingAnswers where
  remote _ _ short := endsRemotely_remoteOutcome short (fun _ impossible => by cases impossible) rfl
  direct _ _ := rfl
  fits _ _ _ impossible := by cases impossible

theorem main_remote_eq_direct_example :
    ∃ status last directLast,
      follow (warningMachine.runBy 1000).respond (main [] [ascii "on"]) ⟨⟨[], false⟩, [], []⟩ =
        (.done status, last) ∧
      follow warningMachine.respond (main [] [ascii "--direct", ascii "on"])
        ⟨⟨[], false⟩, [], []⟩ = (.done status, directLast) ∧
      last.input = directLast.input ∧ last.output = directLast.output ∧
      (warningMachine.PrintsWhole → last.errors = directLast.errors) :=
  main_remote_eq_direct warningMachine_executes rfl 1000 [] (by decide) (by decide) (by decide)
    (by unfold StandardInput.Short; decide)

end TunProxy.CommandLine
