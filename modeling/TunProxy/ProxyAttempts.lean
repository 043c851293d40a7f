import TunProxy.CoreLaunch

/-!
# Attempts, starts and stops

What the loops and the exits of the proxy manager leave behind, put together
from the rules for single steps.  A start that succeeds leaves the core that
it reports as the only one; a stop that succeeds leaves none.
-/

namespace TunProxy

open ByteText EffectProgram

namespace Site

variable {site : Site} {genuine : Prop} {α : Type}

/-- What a successful start reports is the record of the only core. -/
def Reported (site : Site) (genuine : Prop) (status : ProxyStatus) (world : World) : Prop :=
  ∃ state, site.Held genuine state world ∧
    state.phase = ascii "running" ∧ status = statusFromState state

/-- A core whose first record could not be saved may be alive. -/
def Leaked (site : Site) (genuine : Prop) (world : World) : Prop :=
  ∃ (child : Int) (ticks : Nat) (pending : Int → Nat → Prop), ∃ isPending : pending child ticks,
    (forked site isPending True).Holds genuine world

/-- What a failed start leaves behind. -/
def Failed (site : Site) (genuine : Prop) (world : World) : Prop :=
  (∃ content, site.Idle genuine content world) ∨
    (∃ state, site.Held genuine state world ∧ state.phase ≠ ascii "running") ∨
      site.faults.stubborn true = true ∧ site.Leaked genuine world

/-- How the program has left the world when `start` is done. -/
def Started (site : Site) (genuine : Prop) : Result ProxyStatus → World → Prop
  | .ok status => site.Reported genuine status
  | .error _ => site.Failed genuine

/-- How an attempt ends. -/
def Attempted (site : Site) (genuine : Prop) : Setup.AttemptEnd → World → Prop
  | .inl _ => site.Idle genuine none
  | .inr result => site.Started genuine result

theorem robust_someIdle :
    Robust site genuine fun world => ∃ content, site.Idle genuine content world :=
  .exists fun content => robust_idle content

theorem Failed.of_idle {content : Option Bytes} {world : World}
    (idle : site.Idle genuine content world) : site.Failed genuine world :=
  Or.inl ⟨content, idle⟩

/-! ## Waiting for the TUN -/

/-- How waiting for the TUN leaves the world: the core was reaped, or it is
held as before. -/
def Awaited (site : Site) (genuine : Prop) (state : RuntimeState) : Result TunWait → World → Prop
  | .ok .coreExited => fun world => ∃ content, site.Idle genuine content world
  | _ => site.Held genuine state

theorem robust_awaited (state : RuntimeState) (result : Result TunWait) :
    Robust site genuine (site.Awaited genuine state result) := by
  rcases result with failure | wait
  · exact robust_held state
  cases wait with
  | ready => exact robust_held state
  | coreExited => exact robust_someIdle
  | timedOut => exact robust_held state

/-- How a turn of the loop leaves the world. -/
def Turned (site : Site) (genuine : Prop) (state : RuntimeState) :
    Int ⊕ Result TunWait → World → Prop
  | .inl _ => site.Held genuine state
  | .inr result => site.Awaited genuine state result

theorem held_lookForTun (state : RuntimeState) (started timeout : Nat) (lastReported : Int) :
    site.Keeps genuine (site.Held genuine state)
      (site.setup.lookForTun started timeout lastReported) (site.Turned genuine state) := by
  have robust : Robust site genuine (site.Held genuine state) := robust_held state
  have goesOn (last : Int) : site.Keeps genuine (site.Held genuine state)
      ((sleepFor kPollInterval).bind fun _ => .done (.inl last)) (site.Turned genuine state) :=
    (keeps_quiet_call robust (by trivial)).bind fun _ => keeps_done robust.steady fun _ => id
  refine (keeps_quiet_call robust (by trivial)).bind fun present => ?_
  split
  · exact keeps_done robust.steady fun _ => id
  refine (keeps_quiet_call robust (by trivial)).bind fun later => ?_
  simp only
  split
  · exact (keeps_quiet_call robust (by trivial)).bind fun _ => goesOn _
  · exact goesOn _

theorem held_waitForTunStep (state : RuntimeState) (started timeout : Nat) (lastReported : Int) :
    site.Keeps genuine (site.Held genuine state)
      (site.setup.waitForTunStep state.pid started timeout lastReported)
      (site.Turned genuine state) := by
  have robust : Robust site genuine (site.Held genuine state) := robust_held state
  refine (keeps_quiet_call robust (by trivial)).bind fun now => ?_
  split
  · exact keeps_done robust.steady fun _ => id
  refine (keeps_poll robust.steady (fun _ => Held.onlyHeld) fun world process held present =>
    robust.tame _ _ held (tame_setProcess present fun found same => by cases same)).bind
      fun waited => ?_
  cases waited with
  | reaped status =>
      exact keeps_done (robust.steady.and stable_noCore) fun world holds => holds.1.idle holds.2
  | failed => exact keeps_done robust.steady fun _ => id
  | running => exact held_lookForTun state started timeout lastReported
  | interrupted => exact held_lookForTun state started timeout lastReported
  | noChild => exact held_lookForTun state started timeout lastReported

/-- Waiting for the TUN ends with the core reaped, or with the core held. -/
theorem held_waitForTun (fuel : Nat) (state : RuntimeState) (timeout : Nat) :
    site.Keeps genuine (site.Held genuine state) (site.setup.waitForTun fuel state.pid timeout)
      (site.Awaited genuine state) := by
  have robust : Robust site genuine (site.Held genuine state) := robust_held state
  refine (keeps_quiet_call robust (by trivial)).bind fun started => ?_
  refine Triple.iterate (fun _ => robust.steady.stable) (fun _ => robust.tracked) trivial
    (fun lastReported => ?_) fuel (-1)
  refine (held_waitForTunStep state started timeout lastReported).imp fun result world holds => ?_
  cases result with
  | inl next => exact holds
  | inr value => exact keeps_done (robust_awaited state value).steady (fun _ => id) world holds

/-! ## The exits of an attempt -/

theorem idle_retryAfter (lastError : Error) :
    site.Keeps genuine (fun world => ∃ content, site.Idle genuine content world)
      (site.setup.retryAfter lastError) (site.Attempted genuine) := by
  refine Triple.exists fun content => (idle_clearState content).bind fun result => ?_
  cases result with
  | error failure =>
      exact keeps_done (robust_idle content).steady fun world idle => Failed.of_idle idle
  | ok cleared =>
      refine (keeps_harmless (robust_idle none) (site.setup.harmless_awaitTunRemoval _)).bind
        fun removed => ?_
      cases removed with
      | error failure =>
          exact keeps_done (robust_idle none).steady fun world idle => Failed.of_idle idle
      | ok done => exact keeps_done (robust_idle none).steady fun _ => id

/-- Clearing the record and waiting for the TUN to vanish, where neither may
fail, before an error is returned. -/
theorem idle_cleanUp {next : Result Unit → System Setup.AttemptEnd}
    (fails : ∀ removed, ∃ failure, next removed = .done (.inr (.error failure))) :
    site.Keeps genuine (fun world => ∃ content, site.Idle genuine content world)
      (clearState.bind fun _ => (site.setup.awaitTunRemoval .coreStartFailure).bind next)
      (site.Attempted genuine) := by
  have rest : site.Keeps genuine (fun world => ∃ content, site.Idle genuine content world)
      ((site.setup.awaitTunRemoval .coreStartFailure).bind next) (site.Attempted genuine) := by
    refine (keeps_harmless robust_someIdle (site.setup.harmless_awaitTunRemoval _)).bind
      fun removed => ?_
    obtain ⟨failure, same⟩ := fails removed
    rw [same]
    exact keeps_done robust_someIdle.steady fun world idle => Or.inl idle
  refine Triple.exists fun content => (idle_clearState content).bind fun result => ?_
  cases result with
  | error failure => exact rest.weaken fun world idle => ⟨content, idle⟩
  | ok cleared => exact rest.weaken fun world idle => ⟨none, idle⟩

/-- A state that a start records provisionally. -/
structure Recordable (site : Site) (state : RuntimeState) : Prop where
  plain : state.Plain
  loadable : state.Loadable
  starting : state.phase = ascii "starting"
  executable : site.canonical state.executable = site.coreExecutable
  legible : site.faults.hidden state.pid state.startTicks = false

theorem Recordable.running {state : RuntimeState} (recordable : site.Recordable state) :
    ({ state with phase := ascii "running" } : RuntimeState).Plain ∧
      ({ state with phase := ascii "running" } : RuntimeState).Loadable :=
  ⟨⟨recordable.plain.executable, recordable.plain.coreVersion, recordable.plain.upstream,
      recordable.plain.routingMode, recordable.plain.upstreamAddress,
      show newline ∉ ascii "running" by decide, recordable.plain.cidrs⟩,
    ⟨recordable.loadable.pid, recordable.loadable.startTicks, recordable.loadable.executable,
      recordable.loadable.coreVersion, recordable.loadable.upstream,
      recordable.loadable.routingMode, Or.inr rfl⟩⟩

theorem Recordable.notRunning {state : RuntimeState} (recordable : site.Recordable state) :
    state.phase ≠ ascii "running" := by
  rw [recordable.starting]
  decide

variable {state : RuntimeState}

theorem lasting_reported (status : ProxyStatus) :
    Lasting site genuine (site.Reported genuine status) where
  tame := fun world next ⟨state, held, rest⟩ tame =>
    ⟨state, (robust_held state).tame world next held tame, rest⟩
  tracked := fun world ⟨state, held, _⟩ => (robust_held state).tracked world held

theorem held_recordRunning (faithful : site.Faithful)
    (recordable : site.Recordable state) :
    site.Keeps genuine (site.Held genuine state) (site.setup.recordRunning state)
      (site.Attempted genuine) := by
  obtain ⟨plain, loadable⟩ := recordable.running
  have only : ∀ world, site.Held genuine state world →
      site.OnlyHeld { state with phase := ascii "running" } world :=
    fun world held pid process found core alive =>
      have known := held.onlyHeld pid process found core alive
      ⟨known.pid, known.ticks, known.executed, known.executable, known.recorded, known.legible,
        known.positive, known.bounds⟩
  refine (keeps_saveState (robust_held state).toLasting plain loadable only
    fun world held assumed =>
    held.named assumed).bind fun saved => ?_
  cases saved with
  | ok done =>
      exact keeps_done (robust_held _).steady fun world held => ⟨_, held, rfl, rfl⟩
  | error saveFailure =>
      refine (held_terminateCore faithful state { state with phase := ascii "running" }
        rfl rfl rfl).bind fun stopped => ?_
      cases stopped with
      | error failure =>
          exact keeps_done (robust_held state).steady fun world held =>
            Or.inr (Or.inl ⟨state, held, recordable.notRunning⟩)
      | ok done =>
          refine idle_cleanUp fun removed => ?_
          cases removed with
          | error failure => exact ⟨failure, rfl⟩
          | ok done => exact ⟨saveFailure, rfl⟩

theorem held_awaitReady (faithful : site.Faithful)
    (recordable : site.Recordable state) (fuel : Nat) :
    site.Keeps genuine (site.Held genuine state) (site.setup.awaitReady fuel state)
      (site.Attempted genuine) := by
  have notStopped {failure : Error} : site.Keeps genuine (site.Held genuine state)
      (.done (.inr (.error failure))) (site.Attempted genuine) :=
    keeps_done (robust_held state).steady fun world held =>
      Or.inr (Or.inl ⟨state, held, recordable.notRunning⟩)
  refine (held_waitForTun fuel state kTunReadyTimeout).bind fun ready => ?_
  rcases ready with waitFailure | wait
  · refine (held_terminateCore faithful state state rfl rfl rfl).bind fun stopped => ?_
    cases stopped with
    | error failure => exact notStopped
    | ok done => exact idle_cleanUp fun _ => ⟨waitFailure, rfl⟩
  cases wait with
  | ready => exact held_recordRunning faithful recordable
  | coreExited => exact idle_retryAfter _
  | timedOut =>
      refine (held_terminateCore faithful state state rfl rfl rfl).bind fun stopped => ?_
      cases stopped with
      | error failure => exact notStopped
      | ok done => exact idle_retryAfter _

theorem Unrecorded.onlyHeld (recordable : site.Recordable state) {world : World}
    (unrecorded : site.Unrecorded genuine state.pid state.startTicks True world) :
    site.OnlyHeld state world := by
  intro pid process found core alive
  obtain ⟨⟨pending, isPending, holds⟩, -⟩ := unrecorded
  have known := holds.cores pid process found core alive
  exact ⟨known.pid, known.ticks, known.executed trivial, known.executable, recordable.executable,
    recordable.legible, recordable.loadable.pid.1, recordable.loadable.startTicks⟩

/-- The core whose provisional record was not saved is ended, or it outlives
the kill signal. -/
theorem unrecorded_terminateCore (faithful : site.Faithful)
    (recordable : site.Recordable state) :
    site.Keeps genuine (site.Unrecorded genuine state.pid state.startTicks True)
      (terminateCore state) fun
        | .ok () => site.Idle genuine none
        | .error _ => site.Failed genuine := by
  rintro world ⟨⟨pending, isPending, holds⟩, identity⟩
  have known : ∀ pid process,
      (forked site isPending True).cores pid process → site.HeldBy state pid process :=
    fun pid process known => ⟨known.pid, known.ticks, known.executed trivial, known.executable,
      recordable.executable, recordable.legible, recordable.loadable.pid.1,
      recordable.loadable.startTicks⟩
  refine (keeps_terminateCore faithful known world holds).imp ?_
  rintro (failure | _) later outcome
  · by_cases stubborn : site.faults.stubborn true = true
    · exact Or.inr (Or.inr ⟨stubborn, state.pid, state.startTicks, pending, isPending, outcome.1⟩)
    · have mortal : (forked site isPending True).Mortal := by
        rintro hard pid process found resists iff
        have isHard : hard = true := by
          refine iff.mpr ?_
          change pending pid process.ticks
          rw [found.pid, found.ticks]
          exact isPending
        exact stubborn (isHard ▸ resists)
      exact Failed.of_idle ⟨pending, outcome.1.idle (outcome.2 mortal)⟩
  · exact ⟨pending, outcome⟩

theorem lasting_failed : Lasting site genuine (site.Failed genuine) where
  tame := by
    rintro world next (idle | ⟨state, held, phase⟩ | ⟨stubborn, child, ticks, pending, isPending,
      holds⟩) tame
    · exact Or.inl (robust_someIdle.tame world next idle tame)
    · exact Or.inr (Or.inl ⟨state, (robust_held state).tame world next held tame, phase⟩)
    · exact Or.inr (Or.inr ⟨stubborn, child, ticks, pending, isPending, holds.tame tame⟩)
  tracked := by
    rintro world (⟨content, idle⟩ | ⟨state, held, -⟩ | ⟨-, child, ticks, pending, isPending, holds⟩)
    · exact idle.tracked
    · exact (robust_held state).tracked world held
    · exact holds.tracked

theorem unrecorded_superviseCore (faithful : site.Faithful)
    (recordable : site.Recordable state) (fuel : Nat) :
    site.Keeps genuine (site.Unrecorded genuine state.pid state.startTicks True)
      (site.setup.superviseCore fuel state) (site.Attempted genuine) := by
  refine (keeps_saveState (lasting_unrecorded state.pid state.startTicks True) recordable.plain
    recordable.loadable (fun _ unrecorded => unrecorded.onlyHeld recordable)
    fun _ unrecorded _ => unrecorded.identity).bind fun saved => ?_
  cases saved with
  | ok done => exact held_awaitReady faithful recordable fuel
  | error provisionalFailure =>
      refine (unrecorded_terminateCore faithful recordable).bind fun stopped => ?_
      cases stopped with
      | error failure => exact keeps_done lasting_failed.steady fun _ => id
      | ok done =>
          refine (keeps_harmless (robust_idle none) (site.setup.harmless_awaitTunRemoval _)).bind
            fun removed => ?_
          cases removed with
          | error failure =>
              exact keeps_done (robust_idle none).steady fun world idle => Failed.of_idle idle
          | ok done =>
              exact keeps_done (robust_idle none).steady fun world idle => Failed.of_idle idle

/-! ## Attempts -/

variable {plan : Setup.LaunchPlan}

theorem recordable_runtimeState (sound : Setup.LaunchPlan.Sound site.setup plan)
    (autoRedirect : Bool) {child : Int} {ticks : Nat} (writable : Writable child ticks)
    (legible : site.faults.hidden child ticks = false) :
    site.Recordable (plan.runtimeState autoRedirect child ticks) where
  plain := sound.plain site.plain autoRedirect
  loadable := sound.loadable site.plain autoRedirect writable.1 writable.2
  starting := rfl
  executable := by
    have same := sound.core
    simp only [Setup.LaunchPlan.runtimeState]
    rw [same]
    rfl
  legible := legible

/-- A child whose start time cannot be read is killed and reaped, or it outlives
the kill signal. -/
theorem spawned_discardChild (fuel : Nat) (child : Int) (failure : Error) :
    site.Keeps genuine (site.Spawned genuine child True)
      (Setup.discardChild fuel child failure) (site.Started genuine) := by
  refine (spawned_kill child).bind fun killed => ?_
  split
  next unsent =>
    have unsent : killed.sent = false := by simpa using unsent
    refine Triple.weaken (keeps_done lasting_failed.steady fun _ => id) fun world holds => ?_
    obtain ⟨⟨ticks, ⟨pending, isPending, situation⟩, -⟩, stubborn⟩ := holds
    exact Or.inr (Or.inr ⟨stubborn unsent, child, ticks, pending, isPending, situation⟩)
  next =>
    refine Triple.weaken ?_ fun world holds => holds.1
    exact (unrecorded_reapLoop child fuel).bind fun _ =>
      keeps_done (robust_idle none).steady fun world idle => Failed.of_idle idle

theorem idle_launchCore (faithful : site.Faithful)
    (sound : Setup.LaunchPlan.Sound site.setup plan) (fuel : Nat) (autoRedirect : Bool) :
    site.Keeps genuine (site.Idle genuine none) (site.setup.launchCore fuel plan autoRedirect)
      (site.Attempted genuine) := by
  have executable : plan.core.executable = site.setup.corePath := by
    have same := sound.core
    rw [same]
  unfold Setup.launchCore
  rw [executable]
  refine (idle_spawnCore faithful).bind fun spawned => ?_
  cases spawned with
  | error failure => exact keeps_done (robust_idle none).steady fun _ => id
  | ok child =>
      refine (spawned_processStartTicks faithful child).bind fun read => ?_
      cases read with
      | error failure =>
          refine (spawned_discardChild fuel child failure).bind fun result => ?_
          cases result with
          | error failure => exact keeps_done lasting_failed.steady fun _ => id
          | ok status => exact keeps_done (lasting_reported status).steady fun _ => id
      | ok ticks =>
          rintro world ⟨unrecorded, writable, legible⟩
          exact unrecorded_superviseCore faithful
            (recordable_runtimeState sound autoRedirect writable legible) fuel world unrecorded

theorem idle_attempt (faithful : site.Faithful)
    (sound : Setup.LaunchPlan.Sound site.setup plan) (fuel : Nat) (autoRedirect : Bool)
    (lastError : Error) (routingFailure : Bool) :
    site.Keeps genuine (site.Idle genuine none)
      (site.setup.attempt fuel plan autoRedirect lastError routingFailure)
      (site.Attempted genuine) := by
  have robust : Robust site genuine (site.Idle genuine none) := robust_idle none
  have refused (failure : Error) : site.Keeps genuine (site.Idle genuine none)
      (.done (.inr (.error failure))) (site.Attempted genuine) :=
    keeps_done robust.steady fun world idle => Failed.of_idle idle
  refine (keeps_quiet_call robust (by trivial)).bind fun present => ?_
  split
  · exact refused _
  have silent : site.Keeps genuine (site.Idle genuine none) (.done () : System Unit)
      fun _ => site.Idle genuine none :=
    keeps_done robust.steady fun _ => id
  have logged (level : LogLevel) (message : Bytes) : site.Keeps genuine (site.Idle genuine none)
      (emitLog level message) fun _ => site.Idle genuine none :=
    keeps_quiet_call robust trivial
  refine (Triple.ite silent (logged _ _)).bind fun _ => ?_
  split
  · exact refused _
  refine (keeps_quiet_call robust (by trivial)).bind fun written => ?_
  cases written with
  | error failure => exact refused _
  | ok done =>
      refine (keeps_quiet_call robust (by trivial)).bind fun checked => ?_
      split
      · exact refused _
      · exact idle_launchCore faithful sound fuel autoRedirect

theorem idle_attempts (faithful : site.Faithful)
    (sound : Setup.LaunchPlan.Sound site.setup plan) (fuel : Nat) :
    site.Keeps genuine (site.Idle genuine none) (site.setup.attempts fuel plan)
      (site.Started genuine) := by
  have ended (result : Result ProxyStatus) : site.Keeps genuine (site.Started genuine result)
      (.done result) (site.Started genuine) := by
    rcases result with failure | status
    · exact keeps_done lasting_failed.steady fun _ => id
    · exact keeps_done (lasting_reported status).steady fun _ => id
  refine (idle_attempt faithful sound fuel true _ _).bind fun first => ?_
  rcases first with ⟨lastError, routingFailure⟩ | result
  · refine (idle_attempt faithful sound fuel false lastError routingFailure).bind fun second => ?_
    rcases second with ⟨lastError, -⟩ | result
    · exact keeps_done (robust_idle none).steady fun world idle => Failed.of_idle idle
    · exact ended result
  · exact ended result

/-! ## Start and stop -/

/-- Where a call begins: the only core that may be alive is a recorded one. -/
def Managed (site : Site) (genuine : Prop) (world : World) : Prop :=
  (∃ content, site.Idle genuine content world) ∨ ∃ state, site.Held genuine state world

/-- What is loaded is the record of the only core that may be alive. -/
theorem managed_loadState (faithful : site.Faithful) :
    site.Keeps genuine (site.Managed genuine) loadState fun
      | .ok state => site.Held genuine state
      | .error _ => fun world => ∃ content, site.Idle genuine content world := by
  have fromIdle {content : Option Bytes} {world : World}
      (start : site.Idle genuine content world) :
      Safe site.around (site.tracking genuine) (fun
        | .ok state => site.Held genuine state
        | .error _ => fun world => ∃ content, site.Idle genuine content world) loadState world := by
    obtain ⟨pending, holds⟩ := start
    refine (keeps_loadState faithful _ (fun _ holds => settled_of_noCore holds.noCore) world
      holds).imp ?_
    rintro (failure | state) later outcome
    · exact ⟨content, pending, outcome.1⟩
    · exact Idle.held ⟨pending, outcome.1⟩ outcome.2
  rintro world (⟨content, start⟩ | ⟨state, content, pending, loads, holds⟩)
  · exact fromIdle start
  have settled : ∀ world, (held site loads pending).Holds genuine world → Settled world :=
    fun world holds => (robust_held state).settled world ⟨content, pending, loads, holds⟩
  refine (keeps_loadState faithful _ settled world holds).imp ?_
  rintro (failure | other) later outcome
  · exact absurd loads (outcome.2 state)
  · obtain rfl : state = other := Loads.unique loads outcome.2
    exact ⟨content, pending, loads, outcome.1⟩

theorem someIdle_startFresh (faithful : site.Faithful) (fuel : Nat)
    (terminatedPrevious : Bool) :
    site.Keeps genuine (fun world => ∃ content, site.Idle genuine content world)
      (site.setup.startFresh fuel terminatedPrevious) (site.Started genuine) := by
  have robust : Robust site genuine (site.Idle genuine none) := robust_idle none
  have refused (failure : Error) : site.Keeps genuine (site.Idle genuine none)
      (.done (.error failure)) (site.Started genuine) :=
    keeps_done robust.steady fun world idle => Failed.of_idle idle
  refine Triple.exists fun content => (idle_clearState content).andThen (fun _ => ?_)
    fun failure => keeps_done (robust_idle content).steady fun world idle => Failed.of_idle idle
  have removed : site.Keeps genuine (site.Idle genuine none) (if terminatedPrevious then
      site.setup.awaitTunRemoval .coreStartFailure else .done (.ok ()))
      fun _ => site.Idle genuine none := by
    split
    · exact keeps_harmless robust (site.setup.harmless_awaitTunRemoval _)
    · exact keeps_done robust.steady fun _ => id
  refine removed.andThen (fun _ => ?_) refused
  have planned : site.Keeps genuine (site.Idle genuine none) site.setup.makePlan
      fun result world => site.Idle genuine none world ∧
        IfOk (Setup.LaunchPlan.Sound site.setup) result := fun world idle =>
    (keeps_harmless robust site.setup.harmless_makePlan world idle).and_yields
      site.setup.yields_makePlan
  refine planned.andThen (fun plan => ?_) fun failure =>
    (refused failure).weaken fun world holds => holds.1
  rintro world ⟨idle, sound⟩
  exact idle_attempts faithful (sound plan rfl) fuel world idle

/-- The check on a held record tells whether a core is alive. -/
theorem held_isManagedProcessRunning (faithful : site.Faithful)
    (state : RuntimeState) :
    site.Keeps genuine (site.Held genuine state) (isManagedProcessRunning state) fun
      | .ok true => site.Held genuine state
      | .ok false => fun world => ∃ content, site.Idle genuine content world
      | .error _ => fun _ => False := by
  refine (keeps_isManagedProcessRunning faithful (robust_held state).steady
    fun _ => Held.onlyHeld).imp ?_
  rintro (failure | running) world outcome
  · exact outcome
  cases running with
  | true => exact outcome
  | false => exact outcome.1.idle outcome.2

theorem managed_start (faithful : site.Faithful) (fuel : Nat) :
    site.Keeps genuine (site.Managed genuine) (site.setup.start fuel) (site.Started genuine) := by
  refine (managed_loadState faithful).bind fun loaded => ?_
  cases loaded with
  | error failure => exact someIdle_startFresh faithful fuel false
  | ok existing =>
      refine (held_isManagedProcessRunning faithful existing).bind fun managed => ?_
      rcases managed with failure | running
      · exact fun _ impossible => impossible.elim
      cases running with
      | false => exact someIdle_startFresh faithful fuel false
      | true =>
          simp only
          split
          · next phase =>
            exact keeps_done (robust_held existing).steady fun world held =>
              ⟨existing, held, phase, rfl⟩
          · next phase =>
            refine (keeps_quiet_call (robust_held existing) (by trivial)).bind fun _ => ?_
            refine (held_terminateCore faithful existing existing rfl rfl rfl).andThen
              (fun _ => someIdle_startFresh faithful fuel true) fun failure => ?_
            exact keeps_done (robust_held existing).steady fun world held =>
              Or.inr (Or.inl ⟨existing, held, phase⟩)

/-- How the program has left the world when `stop` is done. -/
def Stopped (site : Site) (genuine : Prop) : Result Unit → World → Prop
  | .ok () => site.Idle genuine none
  | .error _ => site.Managed genuine

theorem someIdle_finishStop :
    site.Keeps genuine (fun world => ∃ content, site.Idle genuine content world)
      Setup.finishStop (site.Stopped genuine) := by
  refine Triple.exists fun content => (idle_clearState content).andThen (fun _ => ?_)
    fun failure => keeps_done (robust_idle content).steady fun world idle => Or.inl ⟨content, idle⟩
  exact (keeps_quiet_call (robust_idle none) (by trivial)).bind fun _ =>
    keeps_done (robust_idle none).steady fun _ => id

theorem managed_stop (faithful : site.Faithful) :
    site.Keeps genuine (site.Managed genuine) site.setup.stop (site.Stopped genuine) := by
  have stale : site.Keeps genuine (fun world => ∃ content, site.Idle genuine content world)
      Setup.stopStale (site.Stopped genuine) :=
    (keeps_quiet_call robust_someIdle (by trivial)).bind fun _ => someIdle_finishStop
  refine (managed_loadState faithful).bind fun loaded => ?_
  cases loaded with
  | error failure =>
      refine Triple.exists fun content => (idle_clearState content).imp ?_
      rintro (failure | _) world idle
      · exact Or.inl ⟨content, idle⟩
      · exact idle
  | ok state =>
      refine (held_isManagedProcessRunning faithful state).bind fun managed => ?_
      rcases managed with failure | running
      · exact fun _ impossible => impossible.elim
      cases running with
      | false => exact stale
      | true =>
          refine (held_terminateCore faithful state state rfl rfl rfl).andThen (fun _ => ?_)
            fun failure => keeps_done (robust_held state).steady fun world held =>
              Or.inr ⟨state, held⟩
          refine (keeps_harmless robust_someIdle (site.setup.harmless_awaitTunRemoval _)).andThen
            (fun _ => someIdle_finishStop) fun failure => ?_
          exact keeps_done robust_someIdle.steady fun world idle => Or.inl idle

end Site

end TunProxy
