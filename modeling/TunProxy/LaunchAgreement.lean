import TunProxy.CommandController
import TunProxy.LaunchRecords
import TunProxy.SingBoxDocument
import TunProxy.StatusAgreement

/-!
# Views of a running proxy

A start that launches a core leaves four views of the proxy: the configuration
that the core found, the state file, the status and the listing of the bypassed
ranges.  As long as the core lives, they show the same list of ranges, the same
kind of routing and the same upstream.
-/

namespace TunProxy

open ByteText EffectProgram Relation JsonText InternetText AddressPrefix

/-! ## The programs of the commands -/

theorem quiet_of_supervises {call : SystemCall} (supervises : Supervises call) : Quiet call := by
  cases call with
  | writeFileAtomic file contents mode => exact supervises.elim
  | removeFile file => exact supervises.elim
  | fork role => exact supervises.elim
  | _ => trivial

theorem quiet_status (setup : Setup) : setup.status.Calls Quiet := by
  refine Calls.bind ⟨trivial, fun _ => trivial⟩ fun configured => ⟨trivial, fun installed => ?_⟩
  have loaded : loadState.Calls Quiet := ⟨trivial, fun _ => trivial⟩
  refine loaded.bind fun state => ?_
  rcases state with failure | state
  · trivial
  have checked : (isManagedProcessRunning state).Calls Quiet :=
    (supervises_isManagedProcessRunning state).imp fun _ => quiet_of_supervises
  refine checked.bind fun running => ?_
  rcases running with failure | running
  · trivial
  cases running with
  | false => trivial
  | true =>
      dsimp only
      split
      · trivial
      · trivial

/-- What a command runs, under the lock if it takes it. -/
def Setup.runCommand (setup : Setup) (fuel : Nat) (command : Command) (argument : Bytes) :
    System (Result Bytes) :=
  match command with
  | .status => setup.executeStatus argument
  | .bypass => setup.executeBypass argument
  | .getSetting => Setup.executeGetSetting argument
  | .setSetting => setup.executeSetSetting argument
  | .off => setup.executeOff argument
  | .on => setup.executeOn fuel argument

/-- All commands but `on` and `off` leave the processes and the state file alone. -/
theorem quiet_runCommand (setup : Setup) (fuel : Nat) {command : Command} (argument : Bytes)
    (other : command ≠ .on ∧ command ≠ .off) :
    (setup.runCommand fuel command argument).Calls Quiet := by
  cases command with
  | on => exact absurd rfl other.1
  | off => exact absurd rfl other.2
  | status =>
      change (setup.executeStatus argument).Calls Quiet
      unfold Setup.executeStatus
      split
      · trivial
      · exact (quiet_status setup).andThen fun _ => trivial
  | bypass =>
      change (setup.executeBypass argument).Calls Quiet
      unfold Setup.executeBypass
      split
      · trivial
      refine (quiet_status setup).andThen fun status => ?_
      split
      · trivial
      refine ⟨trivial, fun interfaces => ?_⟩
      dsimp only [done_bind]
      split
      · trivial
      · trivial
  | getSetting =>
      change (Setup.executeGetSetting argument).Calls Quiet
      unfold Setup.executeGetSetting
      split
      · trivial
      · exact Calls.andThen ⟨trivial, fun _ => trivial⟩ fun _ => trivial
  | setSetting =>
      change (setup.executeSetSetting argument).Calls Quiet
      unfold Setup.executeSetSetting
      split
      · trivial
      split
      · trivial
      refine Calls.andThen ?_ fun _ => trivial
      unfold Setup.saveConfig
      split
      · trivial
      have made := (makesDirectories_ensureDirectory setup.paths.configFile.dropLast 0o750).imp
        fun _ makes => (inWindow_of_makesDirectories makes).1
      exact made.andThen fun _ => ⟨trivial, fun _ => trivial⟩

/-! ## The upstream's entry and the printed texts -/

/-- The list of a policy for an upstream address begins with the address's host
CIDR. -/
theorem head_allCidrs {interfaces : Except Bytes (List InterfaceEntry)}
    {upstreamAddress excludedInterface : Bytes} {policy : BypassPolicy}
    (given : upstreamAddress ≠ [])
    (collected : collectBypassPolicy interfaces upstreamAddress excludedInterface = .ok policy) :
    ∃ cidr, addressHostCidr upstreamAddress = .ok cidr ∧ cidr ≠ [] ∧
      policy.allCidrs.head? = some cidr := by
  unfold collectBypassPolicy at collected
  split at collected
  · cases collected
  have filled : upstreamAddress.isEmpty = false := by
    simpa using given
  rw [filled, if_neg (by decide)] at collected
  cases pinned : addressHostCidr upstreamAddress with
  | error failure =>
      rw [pinned] at collected
      cases collected
  | ok cidr =>
      rw [pinned] at collected
      obtain rfl := Except.ok.inj collected
      have written : ∃ address, cidr = formatCidr (hostCidr address) := by
        unfold addressHostCidr at pinned
        split at pinned
        · cases pinned
        split at pinned
        · cases pinned
        · exact ⟨_, (Except.ok.inj pinned).symm⟩
      obtain ⟨address, rfl⟩ := written
      have parsed := parseCidr_formatCidr_hostCidr address
      have filled : formatCidr (hostCidr address) ≠ [] := by
        intro empty
        rw [empty] at parsed
        cases parsed
      exact ⟨_, rfl, filled, allCidrs_head parsed⟩

/-- The status of a running proxy ends with the number of ranges. -/
theorem formatStatus_count {status : ProxyStatus} (running : status.running = true) :
    ∃ front, formatStatus status =
      front ++ ascii "Bypass: " ++ formatNat status.bypassCidrs.length ++ ascii " CIDRs\n" := by
  unfold formatStatus
  rw [running]
  simp only [if_true, ← List.append_assoc]
  exact ⟨_, rfl⟩

/-- The listing of ranges that are in use. -/
theorem formatBypass_active (cidrs : List Bytes) {cidr : Bytes} (filled : cidr ≠ []) :
    formatBypass true cidrs cidr =
      ascii "Bypass: active, " ++ formatNat cidrs.length ++ ascii " CIDRs\n" ++
        (ascii "Upstream: " ++ cidr ++ [newline]) ++ cidrLines cidrs := by
  have active : ascii "Bypass: " ++ ascii "active" ++ ascii ", " = ascii "Bypass: active, " := by
    decide
  have shown : cidr.isEmpty = false := by
    simpa using filled
  simp only [formatBypass, if_true, active, shown, Bool.false_eq_true, if_false]

namespace Site

variable {site : Site} {α : Type} {pid : Int} {ticks : Nat} {world next : World}

/-! ## A stop that fails -/

/-- A run that spares a process is a run. -/
theorem reaches_of_sparing {program rest : System α}
    (reaches : Reaches (site.sparing pid ticks) (program, world) (rest, next)) :
    Reaches site.around (program, world) (rest, next) := by
  refine ReflTransGen.mono (fun before later moves => ?_) _ _ reaches
  cases moves with
  | drift drift => exact Moves.drift drift.1
  | answer answers => exact Moves.answer answers.1

theorem alive_of_sparing {program rest : System α} (alive : Alive pid ticks world)
    (reaches : Reaches (site.sparing pid ticks) (program, world) (rest, next)) :
    Alive pid ticks next := by
  rcases ReflTransGen.cases_tail reaches with same | ⟨middle, -, moves⟩
  · obtain ⟨-, rfl⟩ := Prod.mk.inj same
    exact alive
  · cases moves with
    | drift drift => exact drift.2
    | answer answers => exact answers.2

theorem state_of_aside {call : SystemCall} {answer : SystemAnswer call}
    (aside : LaunchLog.Aside call) (answers : site.Answers world call answer next) :
    next.state = world.state ∨ next.state = none := by
  by_cases quiet : Quiet call
  · exact .inl (tame_of_quiet quiet answers).state
  cases call with
  | writeFileAtomic file contents mode =>
      cases file with
      | state => exact aside.elim
      | coreConfig | config => exact absurd trivial quiet
  | removeFile file =>
      cases file with
      | state =>
          cases answer with
          | removed =>
              obtain rfl : next = _ := answers
              exact .inr rfl
          | absent =>
              obtain rfl : next = world := answers.2
              exact .inl rfl
          | failed detail =>
              obtain rfl : next = world := answers
              exact .inl rfl
      | coreConfig | config => exact absurd trivial quiet
  | fork role => exact aside.elim
  | _ => exact absurd trivial quiet

theorem aside_stop (setup : Setup) : setup.stop.Calls LaunchLog.Aside := by
  have finished : Setup.finishStop.Calls LaunchLog.Aside := by
    refine LaunchLog.aside_clearState.andThen fun _ => ?_
    exact ⟨trivial, fun _ => trivial⟩
  have stale : Setup.stopStale.Calls LaunchLog.Aside := ⟨trivial, fun _ => finished⟩
  have loaded : loadState.Calls LaunchLog.Aside := ⟨trivial, fun _ => trivial⟩
  refine loaded.bind fun state => ?_
  rcases state with failure | state
  · exact LaunchLog.aside_clearState
  refine (LaunchLog.aside_supervises
    (supervises_isManagedProcessRunning state)).bind fun running => ?_
  rcases running with failure | running
  · exact stale
  cases running with
  | false => exact stale
  | true =>
      refine (LaunchLog.aside_supervises (supervises_terminateCore state)).andThen fun _ => ?_
      exact (LaunchLog.aside_awaitTunRemoval setup _).andThen fun _ => finished

/-- A stop either leaves the state file alone or removes it. -/
theorem state_of_stop {result : Result Unit}
    (reaches : Reaches site.around (site.setup.stop, world) (.done result, next)) :
    next.state = world.state ∨ next.state = none := by
  have kept : Triple site.around unwatched
      (fun later => later.state = world.state ∨ later.state = none) site.setup.stop
      fun _ later => later.state = world.state ∨ later.state = none := by
    refine Triple.of_calls (aside_stop site.setup) ?_ (fun _ _ => trivial) trivial
      (fun _ _ _ _ => trivial) ?_
    · intro before later same drifts
      rwa [drifts.tame.state]
    · intro before call answer later same aside answers
      rcases state_of_aside aside answers with unchanged | removed
      · rwa [unchanged]
      · exact .inr removed
  exact ((kept world (.inl rfl)).of_reaches reaches).result

variable {state : RuntimeState}

/-- A stop during which the core lives has failed, and the core is recorded as
before. -/
theorem Serving.of_stop (faithful : site.Faithful) {result : Result Unit}
    (serving : site.Serving state world)
    (reaches : Reaches (site.sparing state.pid state.startTicks) (site.setup.stop, world)
      (.done result, next)) : site.Serving state next := by
  have ran := reaches_of_sparing reaches
  have alive := alive_of_sparing serving.alive reaches
  have identity : CoreIdentity state.pid state.startTicks next :=
    CoreIdentity.reaches ran (serving.held.named trivial)
  have busy {content : Option Bytes} (idle : site.Idle True content next) : False := by
    obtain ⟨process, found, same, living⟩ := alive
    have dead := idle.noCore state.pid process found (identity.core process found same)
    rw [dead] at living
    cases living
  have stopped : site.Stopped True result next :=
    ((managed_stop faithful world (.inr ⟨state, serving.held⟩)).of_reaches ran).result
  cases result with
  | ok _ => exact (busy stopped).elim
  | error failure =>
      rcases stopped with ⟨content, idle⟩ | ⟨other, held⟩
      · exact (busy idle).elim
      · have loads := held.loads
        rcases state_of_stop ran with same | none
        · rw [same] at loads
          obtain rfl := Loads.unique loads serving.held.loads
          exact ⟨held, alive⟩
        · obtain ⟨text, impossible, -⟩ := loads
          rw [none] at impossible
          cases impossible

/-! ## The listing of the bypassed ranges -/

theorem serving_executeBypass (faithful : site.Faithful)
    (phase : state.phase = ascii "running") (listed : state.bypassCidrs ≠ []) :
    Triple (site.sparing state.pid state.startTicks) looking (site.Serving state)
      (site.setup.executeBypass []) fun result world => site.Serving state world ∧
        result =
          .ok (formatBypass true state.bypassCidrs (pinnedCidr (statusFromState state))) := by
  refine (serving_status faithful phase).bind fun result => ?_
  rintro world ⟨serving, rfl⟩
  have active : (statusFromState state).running = true ∧
      ¬ (statusFromState state).bypassCidrs.isEmpty = true := by
    simpa [statusFromState] using listed
  simp only [active.1, active.2]
  exact serving_done (fun _ serving => ⟨serving, rfl⟩) world serving

/-! ## Commands while the core lives -/

/-- A program that leaves the state file alone keeps the core recorded. -/
theorem serving_quiet {program : System α} (quiet : program.Calls Quiet) :
    Triple (site.sparing state.pid state.startTicks) unwatched (site.Serving state) program
      fun _ => site.Serving state :=
  Triple.of_calls quiet stable_serving (fun _ _ => trivial) trivial (fun _ _ _ _ => trivial)
    fun before _ _ later serving quiet answers =>
      ⟨(robust_held state).tame before later serving.held (tame_of_quiet quiet answers.1),
        answers.2⟩

theorem Serving.of_quiet {program : System α} {value : α} (serving : site.Serving state world)
    (quiet : program.Calls Quiet)
    (reaches : Reaches (site.sparing state.pid state.startTicks) (program, world)
      (.done value, next)) : site.Serving state next :=
  ((serving_quiet quiet world serving).of_reaches reaches).result

/-- A program that is done does nothing more. -/
theorem Serving.of_done {value other : α} (serving : site.Serving state world)
    (reaches : Reaches (site.sparing state.pid state.startTicks) (.done value, world)
      (.done other, next)) : site.Serving state next :=
  serving.of_quiet (show (EffectProgram.done value : System α).Calls Quiet from trivial) reaches

theorem Serving.of_command (faithful : site.Faithful)
    (phase : state.phase = ascii "running") {fuel : Nat} {command : Command} {argument : Bytes}
    {result : Result Bytes} (serving : site.Serving state world)
    (reaches : Reaches (site.sparing state.pid state.startTicks)
      (site.setup.runCommand fuel command argument, world) (.done result, next)) :
    site.Serving state next := by
  by_cases other : command ≠ .on ∧ command ≠ .off
  · exact serving.of_quiet (quiet_runCommand site.setup fuel argument other) reaches
  cases command with
  | on =>
      change Reaches _ (site.setup.executeOn fuel argument, world) _ at reaches
      unfold Setup.executeOn at reaches
      split at reaches
      · exact serving.of_done reaches
      obtain ⟨started, middle, starts, rest⟩ := Reaches.of_bind reaches
      have before := (((serving_start faithful phase fuel) world serving).of_reaches starts).result
      obtain ⟨serving, rfl⟩ := before
      exact serving.of_done rest
  | off =>
      change Reaches _ (site.setup.executeOff argument, world) _ at reaches
      unfold Setup.executeOff at reaches
      split at reaches
      · exact serving.of_done reaches
      obtain ⟨stopped, middle, stops, rest⟩ := Reaches.of_bind reaches
      have before := serving.of_stop faithful stops
      cases stopped with
      | ok _ => exact before.of_done rest
      | error failure => exact before.of_done rest
  | _ => exact absurd (by decide) other

/-- The worlds to which commands lead that follow each other while a process lives. -/
inductive Uses (site : Site) (pid : Int) (ticks : Nat) (first : World) : World → Prop
  | refl : Uses site pid ticks first first
  | drift {world next : World} : Uses site pid ticks first world →
      (site.sparing pid ticks).drift world next → Uses site pid ticks first next
  | command {world next : World} {result : Result Bytes} (fuel : Nat) (command : Command)
      (argument : Bytes) : Uses site pid ticks first world →
      Reaches (site.sparing pid ticks) (site.setup.runCommand fuel command argument, world)
        (.done result, next) →
      Uses site pid ticks first next

theorem Uses.serving (faithful : site.Faithful) (phase : state.phase = ascii "running")
    {first last : World} (uses : site.Uses state.pid state.startTicks first last)
    (serving : site.Serving state first) : site.Serving state last := by
  induction uses with
  | refl => exact serving
  | drift _ drifts ih => exact stable_serving _ _ ih drifts
  | command fuel command argument _ reaches ih => exact ih.of_command faithful phase reaches

/-! ## The views -/

/-- A document shows what a state records: both of its lists are the recorded list,
which begins with the host CIDR of the recorded upstream. -/
structure Shows (document : Value) (state : RuntimeState) (cidr : Bytes) : Prop where
  excluded : ((tunInbound document).bind (Value.member (ascii "route_exclude_address"))).bind
    Value.texts = some state.bypassCidrs
  direct : ((directRule document).bind (Value.member (ascii "ip_cidr"))).bind
    Value.texts = some state.bypassCidrs
  redirect : ((tunInbound document).bind (Value.member (ascii "auto_redirect"))).bind
    Value.flag = some (decide (state.routingMode = ascii "auto-redirect"))
  server : ((socksOutbound document).bind (Value.member (ascii "server"))).bind
    Value.text = some state.upstreamAddress
  pinned : addressHostCidr state.upstreamAddress = .ok cidr
  filled : cidr ≠ []
  first : state.bypassCidrs.head? = some cidr

/-- The configuration of a launch shows the state of the same launch. -/
theorem shows_of_launched {setup : Setup} {plan : Setup.LaunchPlan} {autoRedirect : Bool}
    {child : Int} {startTicks : Nat} {json : Bytes} {state : RuntimeState}
    (gathered : Setup.LaunchPlan.Gathered setup plan)
    (built : buildSingBoxConfig (Setup.LaunchPlan.runtimeConfig setup plan autoRedirect) = .ok json)
    (same : statusFromState state = statusFromState
      { plan.runtimeState autoRedirect child startTicks with phase := ascii "running" }) :
    ∃ document cidr, decode json = some document ∧ Shows document state cidr := by
  have decoded := buildSingBoxConfig_decodes built
  have cidrs : state.bypassCidrs = plan.bypassCidrs := congrArg ProxyStatus.bypassCidrs same
  have mode : state.routingMode = routingModeName autoRedirect :=
    congrArg ProxyStatus.routingMode same
  have address : state.upstreamAddress = plan.resolved.address :=
    congrArg ProxyStatus.upstreamAddress same
  have given : plan.resolved.address ≠ [] := by
    intro empty
    unfold buildSingBoxConfig at built
    rw [if_pos (by simp [Setup.LaunchPlan.runtimeConfig, empty])] at built
    cases built
  obtain ⟨interfaces, policy, collected, listed⟩ := gathered.cidrs
  obtain ⟨cidr, pinned, filled, first⟩ := head_allCidrs given collected
  have redirect : decide (routingModeName autoRedirect = ascii "auto-redirect") = autoRedirect := by
    cases autoRedirect with
    | false => decide
    | true => decide
  refine ⟨_, cidr, decoded, ?_, ?_, ?_, ?_, ?_, filled, ?_⟩
  · rw [cidrs]
    exact excluded_singBoxDocument _
  · rw [cidrs]
    exact direct_singBoxDocument _
  · rw [mode, redirect]
    exact autoRedirect_singBoxDocument _
  · rw [address]
    exact server_singBoxDocument _
  · rw [address]
    exact pinned
  · rw [cidrs, listed]
    exact first

/-- The program goes on calling until it returns the value. -/
def Returns (site : Site) (pid : Int) (ticks : Nat) (program : System α) (value : α)
    (world : World) : Prop :=
  ∀ rest later, Reaches (site.sparing pid ticks) (program, world) (rest, later) →
    (∃ operation next, rest = .call operation next) ∨ rest = .done value

theorem returns_of_safe {program : System α} {value : α} {post : α → World → Prop}
    (safe : Safe (site.sparing pid ticks) looking post program world)
    (returns : ∀ result later, post result later → result = value) :
    site.Returns pid ticks program value world := by
  intro rest later reaches
  have after := safe.of_reaches reaches
  cases rest with
  | done result => exact .inr (congrArg _ (returns result later after.result))
  | call operation next => exact .inl ⟨operation, next, rfl⟩
  | cut => exact after.cuts.elim

theorem serving_executeStatus (faithful : site.Faithful)
    (phase : state.phase = ascii "running") :
    Triple (site.sparing state.pid state.startTicks) looking (site.Serving state)
      (site.setup.executeStatus []) fun result world => site.Serving state world ∧
        result = .ok (formatStatus (statusFromState state)) := by
  refine (serving_status faithful phase).bind fun result => ?_
  rintro world ⟨serving, rfl⟩
  exact serving_done (fun _ serving => ⟨serving, rfl⟩) world serving

/-- What the commands say of a core that is recorded in a state. -/
structure Tells (site : Site) (state : RuntimeState) (cidr : Bytes) (world : World) : Prop where
  loads : Loads world.state state
  status : site.Returns state.pid state.startTicks site.setup.status
    (.ok (statusFromState state)) world
  printed : ∃ front, site.Returns state.pid state.startTicks (site.setup.executeStatus [])
    (.ok (front ++ ascii "Bypass: " ++ formatNat state.bypassCidrs.length ++
      ascii " CIDRs\n")) world
  listed : site.Returns state.pid state.startTicks (site.setup.executeBypass [])
    (.ok (ascii "Bypass: active, " ++ formatNat state.bypassCidrs.length ++ ascii " CIDRs\n" ++
      (ascii "Upstream: " ++ cidr ++ [newline]) ++ cidrLines state.bypassCidrs)) world

theorem Serving.tells (faithful : site.Faithful) (phase : state.phase = ascii "running")
    {cidr : Bytes} (pinned : addressHostCidr state.upstreamAddress = .ok cidr) (filled : cidr ≠ [])
    (first : state.bypassCidrs.head? = some cidr) (serving : site.Serving state world) :
    site.Tells state cidr world := by
  have listed : state.bypassCidrs ≠ [] := by
    intro empty
    rw [empty] at first
    cases first
  have address : state.upstreamAddress.isEmpty = false := by
    cases given : state.upstreamAddress with
    | nil =>
        rw [given] at pinned
        cases pinned
    | cons byte rest => rfl
  have shown : pinnedCidr (statusFromState state) = cidr := by
    unfold pinnedCidr
    simp only [statusFromState, address, pinned, Bool.false_eq_true, if_false]
  obtain ⟨front, counted⟩ := @formatStatus_count (statusFromState state) rfl
  refine ⟨serving.held.loads, ?_, ⟨front, ?_⟩, ?_⟩
  · exact returns_of_safe (serving_status faithful phase world serving) fun _ _ => And.right
  · refine returns_of_safe (serving_executeStatus faithful phase world serving) ?_
    rintro result later ⟨-, rfl⟩
    exact congrArg _ counted
  · refine returns_of_safe (serving_executeBypass faithful phase listed world serving) ?_
    rintro result later ⟨-, rfl⟩
    rw [shown, formatBypass_active _ filled]

/-- After a start that forked a core, the configuration that the core found shows the
recorded state, and so do the status and the listing of ranges as long as the
core lives, whatever commands are used meanwhile. -/
theorem views_agree (site : Site) (faithful : site.Faithful) {world later : World}
    {coreConfig : Option Bytes} {last : LaunchLog} (reachable : Reachable site Fresh Abandons world)
    (fuel : Nat) {status : ProxyStatus}
    (started : Reaches (site.around.logging LaunchLog.after)
      (site.setup.start fuel, (world, ⟨coreConfig, none⟩)) (.done (.ok status), (later, last)))
    (spawned : last.launched ≠ none) :
    ∃ state json document cidr, last.launched = some (state.pid, some json) ∧
      decode json = some document ∧ Shows document state cidr ∧
      Loads later.state state ∧ status = statusFromState state ∧
      (Alive state.pid state.startTicks later → ∀ final,
        site.Uses state.pid state.startTicks later final → site.Tells state cidr final) := by
  have managed : site.Managed True world := reachable.managed faithful
  have starts := managed_start faithful fuel world managed
  obtain ⟨state, held, phase, reported⟩ := (starts.of_reaches started.of_logging).result
  have logged : Reaches (launching fun _ _ => True) (site.setup.start fuel, ⟨coreConfig, none⟩)
      (.done (.ok status), last) := by
    refine Reaches.log ?_ started
    exact fun _ _ _ => ⟨trivial, rfl⟩
  have ends := ((LaunchLog.safe_start fuel ⟨coreConfig, none⟩).of_reaches logged).result
  rcases ends status rfl with planned | ⟨unlaunched, -⟩
  · obtain ⟨plan, autoRedirect, child, startTicks, json, gathered, ⟨launched, -⟩, built, same⟩ :=
      planned
    rw [reported] at same
    have pid : state.pid = child := congrArg ProxyStatus.pid same
    obtain ⟨document, cidr, decoded, shows⟩ := shows_of_launched gathered built same
    refine ⟨state, json, document, cidr, pid ▸ launched, decoded, shows, held.loads, reported, ?_⟩
    intro alive final uses
    exact (uses.serving faithful phase ⟨held, alive⟩).tells faithful phase shows.pinned
      shows.filled shows.first
  · exact absurd unlaunched spawned

/-- The machine's start, with a log. -/
def loggedStart : System (Result ProxyStatus) × (Machine × LaunchLog) :=
  follow ((Machine.respond {}).logging LaunchLog.after) (shippedSetup.start 1) ({}, ⟨none, none⟩)

theorem loggedStart_ends : loggedStart.1.outcome? = some true ∧
    loggedStart.2.2.launched.isSome = true ∧ loggedStart.2.1.coreServes = true := by
  decide +kernel

/-- After a start on the machine all views agree. -/
theorem views_agree_example : ∃ state json document cidr,
    loggedStart.2.2.launched = some (state.pid, some json) ∧
    decode json = some document ∧ Shows document state cidr ∧
    ∀ final, (shippedSite faultless).Uses state.pid state.startTicks loggedStart.2.1.world final →
      (shippedSite faultless).Tells state cidr final := by
  obtain ⟨ends, spawned, serves⟩ := loggedStart_ends
  obtain ⟨result, done, succeeds⟩ := Option.map_eq_some_iff.mp ends
  obtain ⟨recorded, process, loads, found, same, -, alive⟩ := Machine.exists_of_coreServes serves
  cases result with
  | error failure => cases succeeds
  | ok status =>
      have within : ((Machine.respond {}).logging LaunchLog.after).Within
          ((shippedSite faultless).around.logging LaunchLog.after)
          fun state => (state.1.world, state.2) :=
        (Machine.respond_within within_faultless).logging
      have started := reaches_of_follow within done
      obtain ⟨state, json, document, cidr, launched, decoded, shows, loaded, -, tells⟩ :=
        views_agree (shippedSite faultless) faithful_faultless (.initial fresh_empty) 1 started
          (Option.isSome_iff_ne_none.mp spawned)
      obtain rfl := Loads.unique loaded loads
      exact ⟨state, json, document, cidr, launched, decoded, shows,
        tells ⟨process, found, same, alive⟩⟩

end Site

end TunProxy
