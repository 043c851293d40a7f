import TunProxy.HarmlessCalls
import TunProxy.LaunchPlans

/-!
# What a start launches and records

A start writes the configuration of a core before it forks the core, and records
the core's plan.  Whatever the system answers, the states that it saves and the
status that it returns are those of a plan, and the core that it forked last
found the configuration of the same plan.
-/

namespace TunProxy

open ByteText EffectProgram

/-! ## The log of a start -/

/-- What a start has left behind so far. -/
structure LaunchLog where
  /-- The content of the core's configuration file. -/
  coreConfig : Option Bytes
  /-- The core that was forked last, with the configuration that it found. -/
  launched : Option (Int × Option Bytes)

def LaunchLog.after (log : LaunchLog) :
    (operation : SystemCall) → SystemAnswer operation → LaunchLog
  | .writeFileAtomic .coreConfig contents _, .ok () => { log with coreConfig := some contents }
  | .removeFile .coreConfig, .removed => { log with coreConfig := none }
  | .fork (.core _ _), .ok child => { log with launched := some (child, log.coreConfig) }
  | _, _ => log

/-- Any possible answers, while the log is kept. -/
def launching (possible : (operation : SystemCall) → SystemAnswer operation → Prop) :
    Surroundings SystemAnswer LaunchLog where
  answers log operation answer next := possible operation answer ∧ next = log.after operation answer
  drift _ _ := False

namespace Setup

variable (setup : Setup)

/-- A state that a start records. -/
def PlannedState (state : RuntimeState) : Prop :=
  ∃ plan autoRedirect child startTicks, LaunchPlan.Gathered setup plan ∧
    (state = plan.runtimeState autoRedirect child startTicks ∨
      state = { plan.runtimeState autoRedirect child startTicks with phase := ascii "running" })

/-- Only planned states are saved. -/
def savesPlans : Watch SystemCall LaunchLog where
  holds _ := True
  permits _ operation := ∀ text mode, operation = .writeFileAtomic .state text mode →
    ∃ state, setup.PlannedState state ∧ text = writeState state
  cuts := True

end Setup

namespace LaunchLog

variable {possible : (operation : SystemCall) → SystemAnswer operation → Prop}
variable {setup : Setup} {α : Type}

theorem still_launching : Still (launching possible) :=
  fun _ _ => not_false

/-- Calls that neither fork nor save a state. -/
def Aside : SystemCall → Prop
  | .fork _ => False
  | .writeFileAtomic .state _ _ => False
  | _ => True

theorem launched_after {operation : SystemCall} (aside : Aside operation) (log : LaunchLog)
    (answer : SystemAnswer operation) : (log.after operation answer).launched = log.launched := by
  unfold after
  split
  · rfl
  · rfl
  · exact aside.elim
  · rfl

theorem aside_of_harmless {operation : SystemCall} (harmless : Harmless operation) :
    Aside operation := by
  cases operation with
  | fork role => exact harmless
  | writeFileAtomic file contents mode =>
      cases file with
      | state => exact harmless
      | config => trivial
      | coreConfig => trivial
  | _ => trivial

section Rules

variable (possible setup)

/-- A part of a start, with what is known of the log before and after it. -/
abbrev Launches (pre : LaunchLog → Prop) (program : System α)
    (post : α → LaunchLog → Prop) : Prop :=
  Triple (launching possible) setup.savesPlans pre program post

variable {possible setup} {pre : LaunchLog → Prop}

theorem launches_done {post : α → LaunchLog → Prop} {value : α}
    (implies : ∀ log, pre log → post value log) :
    Launches possible setup pre (.done value) post :=
  Triple.done (still_launching.stable _) (fun _ _ => trivial) implies

/-- What is known of the core that was launched stays true aside. -/
theorem launches_aside {known : Option (Int × Option Bytes) → Prop} {program : System α}
    (calls : program.Calls Aside) :
    Launches possible setup (fun log => known log.launched) program
      fun _ log => known log.launched := by
  refine Triple.of_calls calls (still_launching.stable _) (fun _ _ => trivial) trivial ?_ ?_
  · rintro log operation - aside text mode rfl
    exact aside.elim
  · rintro log operation answer next holds aside ⟨-, rfl⟩
    rwa [launched_after aside]

/-- A call that leaves the log as it is. -/
theorem launches_idle {operation : SystemCall} (aside : Aside operation)
    (idle : ∀ log answer, after log operation answer = log) :
    Launches possible setup pre (.call operation .done) fun _ => pre := by
  refine Triple.perform (still_launching.stable _) (fun _ _ => trivial) ?_
    (fun _ => still_launching.stable _) (fun _ _ _ => trivial) ?_
  · rintro log - text mode rfl
    exact aside.elim
  · rintro log answer next holds ⟨-, rfl⟩
    rwa [idle]

end Rules

/-! ## What is done aside -/

theorem aside_clearState : clearState.Calls Aside := by
  refine ⟨trivial, fun answer => ?_⟩
  cases answer with
  | _ => trivial

theorem aside_of_attends {operation : SystemCall} (attends : Attends operation) :
    Aside operation := by
  cases operation with
  | fork role => exact attends.elim
  | writeFileAtomic file contents mode => exact attends.elim
  | _ => trivial

theorem aside_attends {program : System α} (attends : program.Calls Attends) :
    program.Calls Aside :=
  attends.imp fun _ => aside_of_attends

theorem aside_supervises {program : System α} (supervises : program.Calls Supervises) :
    program.Calls Aside :=
  aside_attends (supervises.imp fun _ => attends_of_supervises)

theorem aside_awaitTunRemoval (setup : Setup) (code : ErrorCode) :
    (setup.awaitTunRemoval code).Calls Aside :=
  (setup.harmless_awaitTunRemoval code).imp fun _ => aside_of_harmless

/-- A handshake that succeeds returns the child. -/
theorem yields_awaitExec (child : Int) :
    (Setup.awaitExec child).Yields (IfOk fun found => found = child) := by
  intro ready
  simp only [done_bind]
  split
  · exact fun _ _ => ifOk_error
  intro answer
  cases answer with
  | closed => exact fun found same => (Except.ok.inj same).symm
  | invalid => exact fun _ => ifOk_error
  | execError detail => exact fun _ => ifOk_error

/-- A child that is discarded is no success. -/
theorem yields_discardChild (fuel : Nat) (child : Int) (failure : Error) :
    (Setup.discardChild fuel child failure).Yields (IfOk fun _ => False) := by
  intro killed
  simp only [done_bind]
  split
  · exact ifOk_error
  · exact (yields_true _).bind fun _ _ => ifOk_error

theorem aside_retryAfter (setup : Setup) (lastError : Error) :
    (setup.retryAfter lastError).Calls Aside := by
  refine aside_clearState.bind fun result => ?_
  cases result with
  | error failure => trivial
  | ok _ =>
      refine (aside_awaitTunRemoval setup _).bind fun result => ?_
      cases result with
      | error failure => trivial
      | ok _ => trivial

/-! ## A launch -/

section Launch

variable (possible setup)

/-- An attempt that does not end with a status. -/
def Fails (ends : Setup.AttemptEnd) : Prop :=
  ∀ status, ends ≠ .inr (.ok status)

theorem fails_error (failure : Error) : Fails (.inr (.error failure)) :=
  fun _ impossible => by cases impossible

theorem fails_again (again : Error × Bool) : Fails (.inl again) :=
  fun _ impossible => by cases impossible

/-- How an attempt ends: with the status of a state, or not with a status. -/
def Supervised (known : Option (Int × Option Bytes) → Prop) (state : RuntimeState) :
    Setup.AttemptEnd → LaunchLog → Prop
  | .inr (.ok status), log =>
      known log.launched ∧ status = statusFromState { state with phase := ascii "running" }
  | _, _ => True

variable {possible setup} {known : Option (Int × Option Bytes) → Prop} {state : RuntimeState}

theorem Supervised.of_fails {ends : Setup.AttemptEnd} {log : LaunchLog} (fails : Fails ends) :
    Supervised known state ends log := by
  rcases ends with again | failure | status
  · trivial
  · trivial
  · exact absurd rfl (fails status)

theorem launches_fails {pre : LaunchLog → Prop} {program : System Setup.AttemptEnd}
    (calls : program.Calls Aside) (fails : program.Yields Fails) :
    Launches possible setup pre program (Supervised known state) := by
  intro log _
  have aside := @launches_aside possible setup _ (fun _ => True) program calls
  exact ((aside log trivial).and_yields fails).imp fun _ _ outcome => .of_fails outcome.2

theorem launches_saveState (planned : setup.PlannedState state) :
    Launches possible setup (fun log => known log.launched) (setup.saveState state)
      fun _ log => known log.launched := by
  have made : (ensureDirectory setup.paths.runtimeDir 0o755).Calls Aside :=
    (harmless_ensureDirectory _ _).imp fun _ => aside_of_harmless
  refine (launches_aside made).andThen (fun _ => ?_) fun failure => launches_done fun _ => id
  refine Triple.perform (still_launching.stable _) (fun _ _ => trivial) ?_
    (fun _ => still_launching.stable _) (fun _ _ _ => trivial) ?_
  · rintro log - text mode ⟨rfl, rfl⟩
    exact ⟨state, planned, rfl⟩
  · rintro log answer next holds ⟨-, rfl⟩
    cases answer with
    | ok value => exact holds
    | error failure => exact holds

theorem fails_retryAfter (lastError : Error) : (setup.retryAfter lastError).Yields Fails := by
  refine (yields_true _).bind fun result _ => ?_
  cases result with
  | error failure => exact fails_error failure
  | ok _ =>
      refine (yields_true _).bind fun result _ => ?_
      cases result with
      | error failure => exact fails_error failure
      | ok _ => exact fails_again _

/-- The clean-up after a core, whose end is not a status. -/
theorem launches_cleanUp {pre : LaunchLog → Prop} (core : RuntimeState)
    {next : Result Unit → System Setup.AttemptEnd} (calls : ∀ result, (next result).Calls Aside)
    (fails : ∀ result, (next result).Yields Fails) :
    Launches possible setup pre ((terminateCore core).bind next) (Supervised known state) :=
  launches_fails ((aside_supervises (supervises_terminateCore core)).bind calls)
    ((yields_true _).bind fun result _ => fails result)

theorem launches_recordRunning
    (planned : setup.PlannedState { state with phase := ascii "running" }) :
    Launches possible setup (fun log => known log.launched) (setup.recordRunning state)
      (Supervised known state) := by
  refine (launches_saveState planned).bind fun saved => ?_
  cases saved with
  | ok _ => exact launches_done fun log holds => ⟨holds, rfl⟩
  | error failure =>
      apply launches_cleanUp
      · intro result
        cases result with
        | error failure => trivial
        | ok _ =>
            refine aside_clearState.bind fun _ => ?_
            refine (aside_awaitTunRemoval setup _).bind fun result => ?_
            cases result with
            | error failure => trivial
            | ok _ => trivial
      · intro result
        cases result with
        | error failure => exact fails_error failure
        | ok _ =>
            refine (yields_true _).bind fun _ _ => (yields_true _).bind fun result _ => ?_
            cases result with
            | error failure => exact fails_error failure
            | ok _ => exact fails_error _

theorem launches_awaitReady (fuel : Nat)
    (planned : setup.PlannedState { state with phase := ascii "running" }) :
    Launches possible setup (fun log => known log.launched) (setup.awaitReady fuel state)
      (Supervised known state) := by
  refine (launches_aside
    (aside_attends (attends_waitForTun setup fuel state.pid _))).bind fun waited => ?_
  rcases waited with failure | wait
  · apply launches_cleanUp
    · intro result
      cases result with
      | error failure => trivial
      | ok _ =>
          refine aside_clearState.bind fun _ => ?_
          exact (aside_awaitTunRemoval setup _).bind fun _ => trivial
    · intro result
      cases result with
      | error failure => exact fails_error failure
      | ok _ => exact (yields_true _).bind fun _ _ => (yields_true _).bind fun _ _ => fails_error _
  · cases wait with
    | ready => exact launches_recordRunning planned
    | coreExited => exact launches_fails (aside_retryAfter setup _) (fails_retryAfter _)
    | timedOut =>
        apply launches_cleanUp
        · intro result
          cases result with
          | error failure => trivial
          | ok _ => exact aside_retryAfter setup _
        · intro result
          cases result with
          | error failure => exact fails_error failure
          | ok _ => exact fails_retryAfter _

theorem launches_superviseCore (fuel : Nat) (planned : setup.PlannedState state)
    (plannedRunning : setup.PlannedState { state with phase := ascii "running" }) :
    Launches possible setup (fun log => known log.launched) (setup.superviseCore fuel state)
      (Supervised known state) := by
  refine (launches_saveState planned).bind fun saved => ?_
  cases saved with
  | ok _ => exact launches_awaitReady fuel plannedRunning
  | error failure =>
      apply launches_cleanUp
      · intro result
        cases result with
        | error failure => trivial
        | ok _ =>
            refine (aside_awaitTunRemoval setup _).bind fun result => ?_
            cases result with
            | error failure => trivial
            | ok _ => trivial
      · intro result
        cases result with
        | error failure => exact fails_error failure
        | ok _ =>
            refine (yields_true _).bind fun result _ => ?_
            cases result with
            | error failure => exact fails_error failure
            | ok _ => exact fails_error _

/-- The core was forked with a configuration. -/
def Forked (possible : (operation : SystemCall) → SystemAnswer operation → Prop) (child : Int)
    (json : Bytes) (launched : Option (Int × Option Bytes)) : Prop :=
  launched = some (child, some json) ∧ ∃ role, possible (.fork role) (.ok child)

/-- The status is that of a plan, and the core that was forked last found the plan's
configuration. -/
def LaunchedPlan (possible : (operation : SystemCall) → SystemAnswer operation → Prop)
    (setup : Setup) (status : ProxyStatus) (log : LaunchLog) : Prop :=
  ∃ plan autoRedirect child startTicks json, Setup.LaunchPlan.Gathered setup plan ∧
    Forked possible child json log.launched ∧
    buildSingBoxConfig (Setup.LaunchPlan.runtimeConfig setup plan autoRedirect) = .ok json ∧
    status = statusFromState
      { plan.runtimeState autoRedirect child startTicks with phase := ascii "running" }

theorem launches_spawnCore {json : Bytes} (executable : Path) :
    Launches possible setup (fun log => log.coreConfig = some json) (setup.spawnCore executable)
      fun result log => ∀ child, result = .ok child → Forked possible child json log.launched := by
  have refused (pre : LaunchLog → Prop) (failure : Error) :
      Launches possible setup pre (.done (.error failure) : System (Result Int))
        fun result log => ∀ child, result = .ok child → Forked possible child json log.launched :=
    launches_done fun _ _ _ impossible => by cases impossible
  have opened : Launches possible setup (fun log => log.coreConfig = some json)
      (openCore executable) fun _ log => log.coreConfig = some json :=
    launches_idle trivial fun _ _ => rfl
  have logged : Launches possible setup (fun log => log.coreConfig = some json)
      openCoreLog fun _ log => log.coreConfig = some json :=
    launches_idle trivial fun _ _ => rfl
  have piped : Launches possible setup (fun log => log.coreConfig = some json)
      pipe fun _ log => log.coreConfig = some json :=
    launches_idle trivial fun _ _ => rfl
  refine opened.bind fun coreOpened => ?_
  split
  · exact refused _ _
  refine logged.bind fun logOpened => ?_
  split
  · exact refused _ _
  refine piped.bind fun handshake => ?_
  cases handshake with
  | error detail => exact refused _ _
  | ok _ =>
      have forked : Launches possible setup (fun log => log.coreConfig = some json)
          (fork (.core executable (setup.coreArguments executable))) fun answer log =>
            ∀ child, answer = .ok child → Forked possible child json log.launched := by
        refine Triple.perform (still_launching.stable _) (fun _ _ => trivial) ?_
          (fun _ => still_launching.stable _) (fun _ _ _ => trivial) ?_
        · rintro log - text mode impossible
          cases impossible
        · rintro log answer next written ⟨may, rfl⟩ child rfl
          exact ⟨congrArg (fun config => some (child, config)) written, _, may⟩
      refine forked.bind fun answer => ?_
      cases answer with
      | error detail => exact refused _ _
      | ok child =>
          intro log known
          have waited := @launches_aside possible setup _ (Forked possible child json) _
            (aside_attends (attends_awaitExec child)) log (known child rfl)
          refine (waited.and_yields (yields_awaitExec child)).imp ?_
          rintro result last ⟨holds, same⟩ found rfl
          obtain rfl := same found rfl
          exact holds

/-- How an attempt or a start ends: where it ends with a status, with a planned one. -/
def EndsPlanned (possible : (operation : SystemCall) → SystemAnswer operation → Prop)
    (setup : Setup) (ends : Setup.AttemptEnd) (log : LaunchLog) : Prop :=
  ∀ status, ends = .inr (.ok status) → LaunchedPlan possible setup status log

theorem endsPlanned_of_fails {ends : Setup.AttemptEnd} {log : LaunchLog} (fails : Fails ends) :
    EndsPlanned possible setup ends log :=
  fun status same => absurd same (fails status)

theorem launches_launchCore {plan : Setup.LaunchPlan} {autoRedirect : Bool} {json : Bytes}
    (fuel : Nat) (gathered : Setup.LaunchPlan.Gathered setup plan)
    (built :
      buildSingBoxConfig (Setup.LaunchPlan.runtimeConfig setup plan autoRedirect) = .ok json) :
    Launches possible setup (fun log => log.coreConfig = some json)
      (setup.launchCore fuel plan autoRedirect) (EndsPlanned possible setup) := by
  refine (launches_spawnCore plan.core.executable).bind fun spawned => ?_
  cases spawned with
  | error failure => exact launches_done fun _ _ => endsPlanned_of_fails (fails_again _)
  | ok child =>
      refine Triple.weaken ?_ fun log known => known child rfl
      have timed : (processStartTicks child).Calls Aside := ⟨trivial, fun _ => trivial⟩
      refine (launches_aside timed).bind fun ticks => ?_
      cases ticks with
      | error failure =>
          intro log _
          have discarded := @launches_aside possible setup _ (fun _ => True) _
            (aside_supervises (supervises_discardChild fuel child failure)) log trivial
          refine (discarded.and_yields (yields_discardChild fuel child failure)).bind ?_
          rintro (other | status) last ⟨-, none⟩
          · exact still_launching.safe_done trivial (endsPlanned_of_fails (fails_error other))
          · exact (none status rfl).elim
      | ok startTicks =>
          have planned : setup.PlannedState (plan.runtimeState autoRedirect child startTicks) :=
            ⟨plan, autoRedirect, child, startTicks, gathered, .inl rfl⟩
          have plannedRunning : setup.PlannedState
              { plan.runtimeState autoRedirect child startTicks with phase := ascii "running" } :=
            ⟨plan, autoRedirect, child, startTicks, gathered, .inr rfl⟩
          refine (launches_superviseCore fuel planned plannedRunning).imp ?_
          rintro ends log outcome status rfl
          obtain ⟨forked, rfl⟩ := outcome
          exact ⟨plan, autoRedirect, child, startTicks, json, gathered, forked, built, rfl⟩

theorem launches_attempt {plan : Setup.LaunchPlan} (fuel : Nat)
    (gathered : Setup.LaunchPlan.Gathered setup plan) (autoRedirect : Bool) (lastError : Error)
    (routingFailure : Bool) (pre : LaunchLog → Prop) :
    Launches possible setup pre (setup.attempt fuel plan autoRedirect lastError routingFailure)
      (EndsPlanned possible setup) := by
  have returned (pre : LaunchLog → Prop) (failure : Error) : Launches possible setup pre
      (.done (.inr (.error failure)) : System Setup.AttemptEnd) (EndsPlanned possible setup) :=
    launches_done fun _ _ => endsPlanned_of_fails (fails_error failure)
  have looked : Launches possible setup pre setup.tunExists fun _ => pre :=
    launches_idle trivial fun _ _ => rfl
  refine looked.bind fun present => ?_
  split
  · exact returned _ _
  have logged (level : LogLevel) (message : Bytes) :
      Launches possible setup pre (emitLog level message) fun _ => pre :=
    launches_idle trivial fun _ _ => rfl
  have silent : Launches possible setup pre (.done () : System Unit) fun _ => pre :=
    launches_done fun _ => id
  refine (Triple.ite silent (logged _ _)).bind fun _ => ?_
  split
  · exact returned _ _
  next json built =>
    have written : Launches possible setup pre (writeFileAtomic .coreConfig json 0o600)
        fun result log => result = .ok () → log.coreConfig = some json := by
      refine Triple.perform (still_launching.stable _) (fun _ _ => trivial) ?_
        (fun _ => still_launching.stable _) (fun _ _ _ => trivial) ?_
      · rintro log - text mode impossible
        cases impossible
      · rintro log answer next - ⟨-, rfl⟩ rfl
        rfl
    refine written.bind fun result => ?_
    cases result with
    | error failure => exact returned _ _
    | ok _ =>
        have check : Launches possible setup (fun log => log.coreConfig = some json)
            (runCapture (setup.checkCommand plan.core.executable))
            fun _ log => log.coreConfig = some json :=
          launches_idle trivial fun _ _ => rfl
        refine Triple.weaken (check.bind fun checked => ?_) fun log known => known rfl
        split
        · exact returned _ _
        · exact launches_launchCore fuel gathered built

theorem launches_attempts {plan : Setup.LaunchPlan} (fuel : Nat)
    (gathered : Setup.LaunchPlan.Gathered setup plan) (pre : LaunchLog → Prop) :
    Launches possible setup pre (setup.attempts fuel plan) fun result log =>
      ∀ status, result = .ok status → LaunchedPlan possible setup status log := by
  refine (launches_attempt fuel gathered true Setup.initialError false pre).bind fun first => ?_
  rcases first with ⟨lastError, routingFailure⟩ | result
  · refine (launches_attempt fuel gathered false lastError routingFailure _).bind fun second => ?_
    rcases second with ⟨lastError, routingFailure⟩ | result
    · exact launches_done fun _ _ _ impossible => by cases impossible
    · exact launches_done fun log ends status same => ends status (congrArg _ same)
  · exact launches_done fun log ends status same => ends status (congrArg _ same)

end Launch

/-! ## A start -/

section Start

variable (possible setup)

/-- A status that a start returns is planned, or that of a state that it loaded without
launching anything. -/
def StartEnds (log : LaunchLog) (result : Result ProxyStatus) (last : LaunchLog) : Prop :=
  ∀ status, result = .ok status → LaunchedPlan possible setup status last ∨
    last.launched = log.launched ∧ ∃ content state, possible (.readTextFile .state) content ∧
      parseState content = .ok state ∧ status = statusFromState state

variable {possible setup}

theorem launches_startFresh (fuel : Nat) (terminatedPrevious : Bool) (pre : LaunchLog → Prop) :
    Launches possible setup pre (setup.startFresh fuel terminatedPrevious) fun result log =>
      ∀ status, result = .ok status → LaunchedPlan possible setup status log := by
  intro log _
  have refused (pre : LaunchLog → Prop) (failure : Error) : Launches possible setup pre
      (.done (.error failure) : System (Result ProxyStatus)) fun result log =>
        ∀ status, result = .ok status → LaunchedPlan possible setup status log :=
    launches_done fun _ _ _ impossible => by cases impossible
  have aside {β : Type} {program : System β} (calls : program.Calls Aside) :
      Launches possible setup (fun _ => True) program fun _ _ => True :=
    @launches_aside possible setup _ (fun _ => True) program calls
  have removed : (if terminatedPrevious then setup.awaitTunRemoval .coreStartFailure
      else .done (.ok ())).Calls Aside := by
    split
    · exact aside_awaitTunRemoval setup _
    · trivial
  have planned : Launches possible setup (fun _ => True) setup.makePlan fun result _ =>
      IfOk (Setup.LaunchPlan.Gathered setup) result := fun log _ =>
    ((aside (setup.harmless_makePlan.imp fun _ => aside_of_harmless) log trivial).and_yields
      setup.yields_gathered).imp fun _ _ outcome => outcome.2
  have whole : Launches possible setup (fun _ => True) (setup.startFresh fuel terminatedPrevious)
      fun result log => ∀ status, result = .ok status → LaunchedPlan possible setup status log := by
    refine (aside aside_clearState).andThen (fun _ => ?_) (refused _)
    refine (aside removed).andThen (fun _ => ?_) (refused _)
    refine planned.andThen (fun plan => ?_) fun failure => refused _ failure
    intro log gathered
    exact launches_attempts fuel (gathered plan rfl) (fun _ => True) log trivial
  exact whole log trivial

/-- Whatever is answered, a start saves planned states only, and a status that it returns
is planned or was loaded. -/
theorem safe_start (fuel : Nat) (log : LaunchLog) :
    Safe (launching possible) setup.savesPlans (StartEnds possible setup log)
      (setup.start fuel) log := by
  have fresh (terminatedPrevious : Bool) (later : LaunchLog) :
      Safe (launching possible) setup.savesPlans (StartEnds possible setup log)
        (setup.startFresh fuel terminatedPrevious) later :=
    (launches_startFresh fuel terminatedPrevious (fun _ => True) later trivial).imp
      fun result last planned status same => .inl (planned status same)
  have loaded : Launches possible setup (fun other => other.launched = log.launched) loadState
      fun result other => other.launched = log.launched ∧ ∀ state, result = .ok state →
        ∃ content, possible (.readTextFile .state) content ∧ parseState content = .ok state := by
    refine Triple.call (still_launching.stable _) (fun _ _ => trivial) ?_ ?_
    · rintro other - text mode impossible
      cases impossible
    · rintro other content next same ⟨may, rfl⟩
      exact still_launching.safe_done trivial ⟨same, fun state parsed => ⟨content, may, parsed⟩⟩
  refine (loaded log rfl).bind ?_
  rintro (failure | existing) later ⟨same, known⟩
  · exact fresh false later
  have checked := @launches_aside possible setup _ (· = log.launched) _
    (aside_supervises (supervises_isManagedProcessRunning existing)) later same
  refine checked.bind fun running after still => ?_
  rcases running with failure | running
  · exact fresh false after
  cases running with
  | false => exact fresh false after
  | true =>
      dsimp only
      split
      · obtain ⟨content, may, parsed⟩ := known existing rfl
        refine still_launching.safe_done trivial ?_
        rintro status ⟨⟩
        exact .inr ⟨still, content, existing, may, parsed, rfl⟩
      · have warned : (emitLog .warning (ascii "cleaning up incomplete previous start")).Calls
            Aside := ⟨trivial, fun _ => trivial⟩
        have warn := @launches_aside possible setup _ (fun _ => True) _ warned after trivial
        refine warn.bind fun _ next _ => ?_
        have terminated := @launches_aside possible setup _ (fun _ => True) _
          (aside_supervises (supervises_terminateCore existing)) next trivial
        refine terminated.bind fun result last _ => ?_
        cases result with
        | error failure =>
            exact still_launching.safe_done trivial fun _ impossible => by cases impossible
        | ok _ => exact fresh true last

end Start

end LaunchLog

end TunProxy
