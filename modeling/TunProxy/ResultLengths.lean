import TunProxy.CommandController
import TunProxy.IpcFrames
import TunProxy.LaunchRecords
import TunProxy.ObligingSystem
import TunProxy.TextLengths

/-!
# Results fit into a frame

The text that a command reports is short enough for one frame of the control
connection, however many addresses the machine has: the daemon never refuses to
send the result of an operation that has taken effect.
-/

namespace TunProxy

open ByteText EffectProgram InternetText AddressPrefix

/-! ## Short statuses -/

/-- A status with fields that are not too long to be shown. -/
structure ShortStatus (status : ProxyStatus) : Prop where
  upstream : status.upstream.length ≤ 270
  coreVersion : status.coreVersion.length ≤ 7
  pid : status.pid.natAbs ≤ 2 ^ 31
  routingMode : status.routingMode.length ≤ 13
  upstreamAddress : status.upstreamAddress.length ≤ 45
  bypassCidrs : ShortList status.bypassCidrs

theorem length_formatUpstreamUri {upstream : Upstream}
    (protocol : upstream.protocol = ascii "socks5") (host : isValidHost upstream.host = true) :
    (formatUpstreamUri upstream).length ≤ 270 := by
  have short : upstream.host.length ≤ 253 := by
    by_contra long
    have found : decide (253 < upstream.host.length) = true := by simpa using long
    simp [isValidHost, found] at host
  have scheme : (ascii "socks5" ++ ascii "://").length = 9 := by decide
  have bracket : (ascii "[").length = 1 ∧ (ascii "]").length = 1 ∧ (ascii ":").length = 1 := by
    decide
  have port : (formatNat upstream.port.toNat).length ≤ 5 := by
    have bound := upstream.port.toNat_lt
    exact length_formatNat (by omega) (by decide)
  unfold formatUpstreamUri
  rw [protocol]
  simp only [List.length_append] at scheme ⊢
  split
  · simp only [List.length_append]
    omega
  · omega

theorem length_routingModeName (autoRedirect : Bool) :
    (routingModeName autoRedirect).length ≤ 13 := by
  cases autoRedirect <;> decide

theorem ShortStatus.length_formatStatus {status : ProxyStatus} (short : ShortStatus status) :
    (formatStatus status).length ≤ kIpcMaximumPayload := by
  have pid : (formatInt status.pid).length ≤ 11 := by
    have bound := short.pid
    apply @length_formatInt 10 <;> omega
  have count : (formatNat status.bypassCidrs.length).length ≤ 4 := by
    have bound := short.bypassCidrs.count
    apply length_formatNat <;> omega
  have first : (ascii "Status: " ++ (if status.running then ascii "ON" else ascii "OFF") ++
      [newline]).length ≤ 12 := by
    cases status.running <;> decide
  have second : (if status.upstream.isEmpty then []
      else
        ascii "Upstream: " ++ status.upstream ++
        (if status.running && !status.upstreamAddress.isEmpty then
          ascii " (" ++ status.upstreamAddress ++ ascii ")" else []) ++
        [newline]).length ≤ 329 := by
    have literals : (ascii "Upstream: ").length = 10 ∧ (ascii " (").length = 2 ∧
        (ascii ")").length = 1 := by decide
    have address : (if status.running && !status.upstreamAddress.isEmpty then
        ascii " (" ++ status.upstreamAddress ++ ascii ")" else []).length ≤ 48 := by
      have bound := short.upstreamAddress
      split
      · simp only [List.length_append]
        omega
      · simp
    have bound := short.upstream
    split
    · simp
    · simp only [List.length_append, List.length_singleton]
      omega
  have third : (if status.running then
        ascii "Core: sing-box " ++ status.coreVersion ++ [newline] ++
        ascii "PID: " ++ formatInt status.pid ++ [newline] ++
        ascii "Routing: " ++ status.routingMode ++ [newline] ++
        ascii "Bypass: " ++ formatNat status.bypassCidrs.length ++ ascii " CIDRs\n"
      else if status.coreInstalled then
        ascii "Core: sing-box " ++ status.coreVersion ++ [newline]
      else ascii "Core: not installed\n").length ≤ 82 := by
    have literals : (ascii "Core: sing-box ").length = 15 ∧ (ascii "PID: ").length = 5 ∧
        (ascii "Routing: ").length = 9 ∧ (ascii "Bypass: ").length = 8 ∧
        (ascii " CIDRs\n").length = 7 ∧ (ascii "Core: not installed\n").length = 20 := by decide
    have version := short.coreVersion
    have mode := short.routingMode
    split
    · simp only [List.length_append, List.length_singleton]
      omega
    split
    · simp only [List.length_append, List.length_singleton]
      omega
    · omega
  rw [formatStatus, List.length_append, List.length_append, kIpcMaximumPayload]
  omega

theorem length_cidrLines {cidrs : List Bytes} (short : ShortList cidrs) :
    (cidrLines cidrs).length ≤ 1037 * 52 := by
  have indent : (ascii "  ").length = 2 := by decide
  have bound (cidrs : List Bytes) (each : ∀ cidr ∈ cidrs, cidr.length ≤ 49) :
      (cidrLines cidrs).length ≤ cidrs.length * 52 := by
    induction cidrs with
    | nil => simp [cidrLines]
    | cons cidr cidrs ih =>
        have head := each cidr (by simp)
        have tail := ih fun other member => each other (by simp [member])
        simp only [cidrLines, List.flatMap_cons, List.length_append, List.length_cons] at tail ⊢
        simp only [List.length_nil]
        omega
  have total := bound cidrs short.each
  have count := short.count
  omega

theorem length_formatBypass {active : Bool} {cidrs : List Bytes} {upstreamCidr : Bytes}
    (short : ShortList cidrs) (pinned : upstreamCidr.length ≤ 49) :
    (formatBypass active cidrs upstreamCidr).length ≤ kIpcMaximumPayload := by
  have lines := length_cidrLines short
  have count : (formatNat cidrs.length).length ≤ 4 := by
    have bound := short.count
    apply length_formatNat <;> omega
  have literals : (ascii "Bypass: ").length = 8 ∧ (ascii ", ").length = 2 ∧
      (ascii " CIDRs\n").length = 7 ∧ (ascii "Upstream: ").length = 10 := by decide
  have word : (if active then ascii "active" else ascii "preview").length ≤ 7 := by
    cases active <;> decide
  have upstream : (if upstreamCidr.isEmpty then []
      else ascii "Upstream: " ++ upstreamCidr ++ [newline]).length ≤ 60 := by
    split
    · simp
    · simp only [List.length_append, List.length_singleton]
      omega
  simp only [formatBypass, List.length_append, kIpcMaximumPayload]
  omega

theorem length_pinnedCidr (status : ProxyStatus) : (pinnedCidr status).length ≤ 49 := by
  unfold pinnedCidr
  split
  · simp
  split
  next pinned found => exact length_addressHostCidr found
  next => simp

/-! ## States that a start saves -/

/-- The text is saved as the state file by some start. -/
def SavedByStart (setup : Setup) (text : Bytes) : Prop :=
  ∃ fuel mode rest log last, Reaches (launching fun _ _ => True) (setup.start fuel, log)
    (.call (.writeFileAtomic .state text mode) rest, last)

theorem planned_of_savedByStart {setup : Setup} {text : Bytes} (saved : SavedByStart setup text) :
    ∃ state, setup.PlannedState state ∧ text = writeState state := by
  obtain ⟨fuel, mode, rest, log, last, reaches⟩ := saved
  exact ((LaunchLog.safe_start fuel log).of_reaches reaches).permits text mode rfl

section Planned

variable {setup : Setup} {state : RuntimeState}

theorem plain_of_planned (planned : setup.PlannedState state) (plain : setup.Plain) :
    state.Plain := by
  obtain ⟨plan, autoRedirect, child, startTicks, gathered, rfl | rfl⟩ := planned
  · exact gathered.sound.plain plain autoRedirect
  · have starting := @Setup.LaunchPlan.Sound.plain setup plan child startTicks gathered.sound plain
      autoRedirect
    have phase : newline ∉ ascii "running" := by decide
    exact ⟨starting.executable, starting.coreVersion, starting.upstream, starting.routingMode,
      starting.upstreamAddress, phase, starting.cidrs⟩

/-- The status of a planned state, whatever process runs the core. -/
theorem shortStatus_of_planned (planned : setup.PlannedState state)
    (version : setup.manifest.version.length ≤ 7) {pid : Int} (small : pid.natAbs ≤ 2 ^ 31)
    (startTicks : Nat) :
    ShortStatus (statusFromState { state with pid := pid, startTicks := startTicks }) := by
  obtain ⟨plan, autoRedirect, child, ticks, gathered, same⟩ := planned
  have coreVersion : plan.core.version.length ≤ 7 := by
    rw [gathered.sound.core]
    exact version
  have address : plan.resolved.address.length ≤ 45 := by
    obtain ⟨address, resolved⟩ := gathered.address
    rw [resolved]
    exact length_inetNtop address
  have cidrs : ShortList plan.bypassCidrs := by
    obtain ⟨interfaces, policy, collected, listed⟩ := gathered.cidrs
    exact listed ▸ shortList_allCidrs collected
  have upstream : (formatUpstreamUri plan.configured).length ≤ 270 :=
    length_formatUpstreamUri gathered.sound.protocol gathered.sound.host
  rcases same with rfl | rfl
  · exact ⟨upstream, coreVersion, small, length_routingModeName autoRedirect, address, cidrs⟩
  · exact ⟨upstream, coreVersion, small, length_routingModeName autoRedirect, address, cidrs⟩

theorem natAbs_toPid (value : Int) : (toPid value).natAbs ≤ 2 ^ 31 := by
  unfold toPid
  rw [Int.bmod_def]
  omega

/-- What is loaded from a text that a start saved. -/
theorem shortStatus_of_savedByStart {text : Bytes} (saved : SavedByStart setup text)
    (plain : setup.Plain) (version : setup.manifest.version.length ≤ 7)
    (parsed : parseState (.ok text) = .ok state) : ShortStatus (statusFromState state) := by
  obtain ⟨written, planned, rfl⟩ := planned_of_savedByStart saved
  rw [parseState_writeState_eq (plain_of_planned planned plain)] at parsed
  split at parsed
  next pid startTicks _ _ =>
    split at parsed
    · cases parsed
    split at parsed
    · cases parsed
    obtain rfl := Except.ok.inj parsed
    exact shortStatus_of_planned planned version (natAbs_toPid pid) startTicks.toNat
  next => cases parsed

end Planned

/-! ## Results of commands -/

/-- The text fits into the payload of a frame. -/
def Fits (text : Bytes) : Prop :=
  text.length ≤ kIpcMaximumPayload

theorem valid_of_parseUpstreamUri {uri : Bytes} {upstream : Upstream}
    (parsed : parseUpstreamUri uri = .ok upstream) :
    upstream.protocol = ascii "socks5" ∧ isValidHost upstream.host = true := by
  unfold parseUpstreamUri at parsed
  split at parsed
  · cases parsed
  dsimp only at parsed
  repeat' split at parsed
  all_goals try cases parsed
  obtain ⟨rfl, protocol, host, -⟩ := validateUpstream_eq_ok parsed
  exact ⟨protocol, host⟩

namespace Setup

/-- What the system may answer a command: a state file has been saved by a start,
and the number of a forked process fits into a `pid_t`. -/
def MayAnswer (setup : Setup) (operation : SystemCall) (answer : SystemAnswer operation) : Prop :=
  match operation, answer with
  | .readTextFile .state, .ok text => SavedByStart setup text
  | .fork _, .ok child => child.natAbs ≤ 2 ^ 31
  | _, _ => True

variable {setup : Setup}

theorem gives_loadConfig : loadConfig.Gives setup.MayAnswer
    (IfOk fun upstream => (formatUpstreamUri upstream).length ≤ 270) := by
  refine yields_loadConfig.gives.imp fun configured valid upstream loaded => ?_
  obtain ⟨protocol, host⟩ := valid upstream loaded
  exact length_formatUpstreamUri protocol host

theorem gives_loadState (plain : setup.Plain) (version : setup.manifest.version.length ≤ 7) :
    loadState.Gives setup.MayAnswer (IfOk fun state => ShortStatus (statusFromState state)) := by
  intro contents may state parsed
  cases contents with
  | error failure => cases parsed
  | ok text => exact shortStatus_of_savedByStart may plain version parsed

theorem shortStatus_idleStatus {configured : Result Upstream} (coreInstalled : Bool)
    (version : setup.manifest.version.length ≤ 7)
    (upstream : IfOk (fun upstream => (formatUpstreamUri upstream).length ≤ 270) configured) :
    ShortStatus (setup.idleStatus configured coreInstalled) where
  upstream := by
    cases configured with
    | ok loaded => exact upstream loaded rfl
    | error failure => exact Nat.zero_le _
  coreVersion := version
  pid := show (-1 : Int).natAbs ≤ 2 ^ 31 by decide
  routingMode := Nat.zero_le _
  upstreamAddress := Nat.zero_le _
  bypassCidrs := ⟨Nat.zero_le _, fun cidr member => nomatch member⟩

theorem gives_status (plain : setup.Plain) (version : setup.manifest.version.length ≤ 7) :
    setup.status.Gives setup.MayAnswer (IfOk ShortStatus) := by
  refine gives_loadConfig.bind fun configured upstream => ?_
  intro installed _
  have idle : IfOk (ε := Error) ShortStatus
      (.ok (setup.idleStatus configured (LstatAnswer.isRegular installed))) := by
    rintro status ⟨⟩
    exact shortStatus_idleStatus _ version upstream
  refine (gives_loadState plain version).bind fun loaded known => ?_
  rcases loaded with failure | state
  · exact idle
  refine (yields_true _).gives.bind fun running _ => ?_
  rcases running with failure | running
  · exact idle
  cases running with
  | false => exact idle
  | true =>
      dsimp only
      split
      · rintro status ⟨⟩
        exact known state rfl
      · exact idle

theorem gives_executeStatus (plain : setup.Plain) (version : setup.manifest.version.length ≤ 7)
    (argument : Bytes) : (setup.executeStatus argument).Gives setup.MayAnswer (IfOk Fits) := by
  unfold executeStatus
  split
  · exact ifOk_error
  refine (gives_status plain version).andThen fun status short => ?_
  rintro text ⟨⟩
  exact short.length_formatStatus

theorem gives_executeBypass (plain : setup.Plain) (version : setup.manifest.version.length ≤ 7)
    (argument : Bytes) : (setup.executeBypass argument).Gives setup.MayAnswer (IfOk Fits) := by
  unfold executeBypass
  split
  · exact ifOk_error
  refine (gives_status plain version).andThen fun status short => ?_
  split
  · rintro text ⟨⟩
    exact length_formatBypass short.bypassCidrs (length_pinnedCidr status)
  · intro interfaces _
    dsimp only [done_bind]
    split
    · exact ifOk_error
    next preview collected =>
      rintro text ⟨⟩
      exact length_formatBypass (shortList_allCidrs collected) (Nat.zero_le _)

theorem gives_executeGetSetting (argument : Bytes) :
    (executeGetSetting argument).Gives setup.MayAnswer (IfOk Fits) := by
  unfold executeGetSetting
  split
  · exact ifOk_error
  refine gives_loadConfig.andThen fun upstream short => ?_
  rintro text ⟨⟩
  have fits : 270 ≤ kIpcMaximumPayload := by decide
  exact Nat.le_trans short fits

theorem gives_executeSetSetting (argument : Bytes) :
    (setup.executeSetSetting argument).Gives setup.MayAnswer (IfOk Fits) := by
  unfold executeSetSetting
  split
  · exact ifOk_error
  split
  · exact ifOk_error
  next upstream parsed =>
    refine (yields_andThen _ fun _ => ?_).gives
    rintro text ⟨⟩
    obtain ⟨protocol, host⟩ := valid_of_parseUpstreamUri parsed
    have uri := length_formatUpstreamUri protocol host
    have label : (ascii "Upstream: ").length = 10 := by decide
    simp only [Fits, List.length_append, List.length_singleton, kIpcMaximumPayload]
    omega

theorem gives_executeOff (argument : Bytes) :
    (setup.executeOff argument).Gives setup.MayAnswer (IfOk Fits) := by
  have report : Fits (ascii "Status: OFF\n") := by
    show _ ≤ _
    decide
  unfold executeOff
  split
  · exact ifOk_error
  refine (yields_andThen _ fun _ => ?_).gives
  rintro text ⟨⟩
  exact report

theorem gives_start (plain : setup.Plain) (version : setup.manifest.version.length ≤ 7)
    (fuel : Nat) : (setup.start fuel).Gives setup.MayAnswer (IfOk ShortStatus) := by
  have safe := @LaunchLog.safe_start setup.MayAnswer setup fuel ⟨none, none⟩
  refine Safe.gives ?_ (safe.imp fun result last ends => ?_)
  · exact fun log operation answer may => ⟨log.after operation answer, may, rfl⟩
  · rintro status rfl
    rcases ends status rfl with launched | ⟨-, content, state, may, parsed, rfl⟩
    · obtain ⟨plan, autoRedirect, child, startTicks, json, gathered, ⟨-, role, may⟩, -, rfl⟩ :=
        launched
      exact shortStatus_of_planned ⟨plan, autoRedirect, child, startTicks, gathered, .inr rfl⟩
        version may startTicks
    · cases content with
      | error failure => cases parsed
      | ok text => exact shortStatus_of_savedByStart may plain version parsed

theorem gives_executeOn (plain : setup.Plain) (version : setup.manifest.version.length ≤ 7)
    (fuel : Nat) (argument : Bytes) :
    (setup.executeOn fuel argument).Gives setup.MayAnswer (IfOk Fits) := by
  unfold executeOn
  split
  · exact ifOk_error
  refine (gives_start plain version fuel).andThen fun status short => ?_
  rintro text ⟨⟩
  exact short.length_formatStatus

end Setup

namespace AppPaths

/-- What may be answered to a command, on the lock file anything. -/
def MayAnswer (paths : AppPaths) (operation : CommandCall) (answer : CommandAnswer operation) :
    Prop :=
  match operation, answer with
  | .system operation, answer => paths.setup.MayAnswer operation answer
  | .openLock _, _ | .tryFlock, _ | .flock, _ | .unlock, _ | .closeLock, _ => True

variable {paths : AppPaths}

theorem gives_ofSystem {α : Type} {outcome : α → Prop} {program : System α}
    (gives : program.Gives paths.setup.MayAnswer outcome) :
    (CommandProgram.ofSystem program).Gives paths.MayAnswer outcome := by
  refine Gives.expand (fun operation => ?_) gives
  exact fun answer may => may

/-- Taking and giving back the lock does not change the result. -/
theorem gives_underLock {fuel : Nat} {program : System (Result Bytes)}
    (gives : program.Gives paths.setup.MayAnswer (IfOk Fits)) :
    (paths.underLock fuel program).Gives paths.MayAnswer (IfOk Fits) := by
  have acquired {locking : CommandProgram (Result Unit)} :
      locking.Gives paths.MayAnswer (IfOk fun _ => True) :=
    (yields_true locking).gives.imp fun _ _ _ _ => trivial
  refine acquired.andThen fun _ _ => ?_
  refine (gives_ofSystem gives).bind fun result fits => ?_
  exact (yields_true _).gives.bind fun _ _ => fits

theorem gives_execute (plain : paths.setup.Plain) (fuel : Nat) (command : Command)
    (argument : Bytes) :
    (paths.execute fuel command argument).Gives paths.MayAnswer (IfOk Fits) := by
  have version : kSingBoxRelease.version.length ≤ 7 := by decide
  cases command with
  | status => exact gives_ofSystem (Setup.gives_executeStatus plain version argument)
  | bypass => exact gives_ofSystem (Setup.gives_executeBypass plain version argument)
  | getSetting => exact gives_ofSystem (Setup.gives_executeGetSetting argument)
  | setSetting => exact gives_underLock (Setup.gives_executeSetSetting argument)
  | off => exact gives_underLock (Setup.gives_executeOff argument)
  | on => exact gives_underLock (Setup.gives_executeOn plain version fuel argument)

end AppPaths

/-! ## The frame of a result -/

/-- The connection fails where it does, never for the sake of the frame. -/
theorem yields_sendAll (patience : Nat) (data : Bytes) : (sendAll patience data).Yields fun sent =>
    ∀ failure, sent = .error failure → failure.code = .stateError := by
  unfold sendAll
  induction patience generalizing data with
  | zero => trivial
  | succ patience ih =>
      unfold iterate sendStep
      split
      · exact fun failure impossible => by cases impossible
      · intro answer
        cases answer with
        | wrote count => exact ih (data.drop count)
        | interrupted => exact ih data
        | failed detail =>
            rintro failure ⟨⟩
            rfl

theorem yields_sendIpcFrame {frame : IpcFrame} (fits : Fits frame.payload) (patience : Nat) :
    (sendIpcFrame patience frame).Yields fun sent =>
      ∀ failure, sent = .error failure → failure.code = .stateError := by
  have small : frame.payload.length ≤ 64 * 1024 := fits
  have payload : ¬ kIpcMaximumPayload < frame.payload.length := Nat.not_lt.mpr fits
  have body : ¬ 2 ^ 32 - 1 < kFrameMetadataSize + frame.payload.length := by
    rw [kFrameMetadataSize]
    omega
  have part {data : Bytes} {next : Unit → IpcProgram (Result Unit)}
      (rest : ∀ value, (next value).Yields fun sent =>
        ∀ failure, sent = .error failure → failure.code = .stateError) :
      ((sendAll patience data).andThen next).Yields fun sent =>
        ∀ failure, sent = .error failure → failure.code = .stateError := by
    refine (yields_sendAll patience data).bind fun sent known => ?_
    cases sent with
    | ok value => exact rest value
    | error failure => exact known
  unfold sendIpcFrame
  simp only [payload, body, if_false]
  refine part fun _ => part fun _ => part fun _ => ?_
  split
  · exact fun failure impossible => by cases impossible
  · exact yields_sendAll patience frame.payload

/-- However many addresses the machine has and whatever upstream is configured, the
text of a command that succeeds fits into a frame, which is therefore not
refused as an argument. -/
theorem execute_fits {paths : AppPaths} (plain : paths.setup.Plain) {fuel : Nat}
    {command : Command} {argument text : Bytes} {history : History CommandAnswer}
    (reaches : Reaches (recording paths.MayAnswer)
      (paths.execute fuel command argument, []) (.done (.ok text), history)) :
    text.length ≤ kIpcMaximumPayload ∧
      ∀ patience, (sendIpcFrame patience ⟨.result, 0, text⟩).Yields fun sent =>
        ∀ failure, sent = .error failure → failure.code ≠ .invalidArguments := by
  have fits : Fits text :=
    (AppPaths.gives_execute plain fuel command argument).of_reaches reaches text rfl
  refine ⟨fits, fun patience => ?_⟩
  refine (@yields_sendIpcFrame ⟨.result, 0, text⟩ fits patience).imp ?_
  rintro sent known failure same refused
  rw [known failure same] at refused
  cases refused

/-- What a machine answers to a command.  It is asked for its state file before there
is one. -/
def Machine.answerCommand (machine : Machine) :
    (operation : CommandCall) → Option (CommandAnswer operation × Machine)
  | .system (.readTextFile .state) =>
      if machine.state = none then machine.respond {} (.readTextFile .state) else none
  | .system operation => machine.respond {} operation
  | .openLock _ => some (true, machine)
  | .tryFlock | .flock => some (.locked, machine)
  | .unlock | .closeLock => some ((), machine)

/-- The machine and what it has answered. -/
def respondRecorded : Responder CommandAnswer (Machine × History CommandAnswer) :=
  fun world operation => (world.1.answerCommand operation).map fun reply =>
    (reply.1, reply.2, world.2 ++ [⟨operation, reply.1⟩])

theorem mayAnswer_answerCommand {machine next : Machine} {operation : CommandCall}
    {answer : CommandAnswer operation}
    (answered : machine.answerCommand operation = some (answer, next)) :
    defaultPaths.MayAnswer operation answer := by
  unfold Machine.answerCommand at answered
  split at answered
  next =>
    obtain ⟨absent, read⟩ := Option.ite_none_right_eq_some.mp answered
    simp only [Machine.respond, Machine.textFile, absent] at read
    obtain ⟨rfl, -⟩ := Prod.mk.inj (Option.some.inj read)
    trivial
  next operation notState =>
    cases operation with
    | fork role =>
        cases role with
        | core executable arguments =>
            obtain ⟨-, forked⟩ := Option.ite_none_right_eq_some.mp answered
            obtain ⟨rfl, -⟩ := Prod.mk.inj (Option.some.inj forked)
            show (100 : Int).natAbs ≤ 2 ^ 31
            decide
        | utility arguments =>
            obtain ⟨rfl, -⟩ := Prod.mk.inj (Option.some.inj answered)
            show (200 : Int).natAbs ≤ 2 ^ 31
            decide
    | readTextFile file =>
        cases file with
        | state => exact absurd rfl notState
        | _ => trivial
    | _ => trivial
  all_goals trivial

theorem within_respondRecorded :
    respondRecorded.Within (recording defaultPaths.MayAnswer) Prod.snd := by
  intro world operation answer next responded
  obtain ⟨⟨found, machine⟩, answered, same⟩ := Option.map_eq_some_iff.mp responded
  obtain ⟨rfl, rfl⟩ := Prod.mk.inj same
  exact ⟨world.2, .refl, mayAnswer_answerCommand answered, rfl⟩

/-- A start, and the bypassed ranges of a machine without addresses and a core. -/
theorem execute_fits_example :
    (∃ text history, Reaches (recording defaultPaths.MayAnswer)
        (defaultPaths.execute 3 .on [], []) (.done (.ok text), history) ∧
      text.length ≤ kIpcMaximumPayload) ∧
    (formatBypass false fixedBypassCidrs []).length ≤ kIpcMaximumPayload := by
  have plain : defaultPaths.setup.Plain := ⟨by decide, by decide, by decide⟩
  have started : (follow respondRecorded (defaultPaths.execute 3 .on []) ({}, [])).1.outcome? =
      some true := by
    decide +kernel
  have previewed :
      (follow respondRecorded (defaultPaths.execute 3 .bypass []) ({}, [])).1.result? =
        some (.ok (formatBypass false fixedBypassCidrs [])) := by
    decide +kernel
  constructor
  · obtain ⟨result, ran, isOk⟩ := Option.map_eq_some_iff.mp started
    cases result with
    | error failure => cases isOk
    | ok text =>
        have reaches := reaches_of_follow within_respondRecorded ran
        exact ⟨text, _, reaches, (execute_fits plain reaches).1⟩
  · exact (execute_fits plain (reaches_of_follow within_respondRecorded previewed)).1

end TunProxy
