import TunProxy.StatusAgreement

/-!
# The TUN interface after a stop

A stop that finds the recorded core running waits for the TUN interface to
disappear before it removes the record.  A stop that finds a record without a
running core does not look: it succeeds while the interface is still there,
also where the stop before it has failed for this very reason.
-/

namespace TunProxy

open ByteText EffectProgram Relation

namespace Site

variable {site : Site} {genuine : Prop} {state : RuntimeState}

/-! ## What is loaded -/

/-- The state file is loaded as long as files are read faithfully. -/
theorem loads_loadState (faithful : site.Faithful) :
    Triple site.around unwatched (fun world => Loads world.state state) loadState
      fun result _ => result = .ok state := by
  have stable : Stable site.around fun world => Loads world.state state :=
    stable_of_tame fun world next loads tame => tame.state ▸ loads
  refine Triple.call stable (fun _ _ => trivial) (fun _ _ => trivial)
    fun world answer next loads answers => ?_
  exact fun _ _ => ⟨trivial, (parseState_read_iff faithful answers.1).mpr loads⟩

/-! ## Observations -/

/-- Calls that do not look for the TUN and fork no core. -/
def LooksAway : SystemCall → Prop
  | .ifNameToIndex _ => False
  | .fork _ => False
  | _ => True

theorem observedAbsent_of_looksAway {world next : World} {call : SystemCall}
    {answer : SystemAnswer call} (away : LooksAway call)
    (answers : site.Answers world call answer next) :
    next.observedAbsent = world.observedAbsent := by
  cases call with
  | ifNameToIndex name => exact away.elim
  | fork role => exact away.elim
  | writeFileAtomic file contents mode =>
      cases file with
      | coreConfig | config => exact congrArg _ (show next = world from answers)
      | state =>
          rcases answer with failure | _
          · exact congrArg _ (show next = world from answers)
          · obtain rfl : next = _ := answers
            rfl
  | removeFile file =>
      cases file with
      | coreConfig | config => exact congrArg _ (show next = world from answers)
      | state =>
          cases answer with
          | removed =>
              obtain rfl : next = _ := answers
              rfl
          | absent => exact congrArg _ answers.2
          | failed detail => exact congrArg _ (show next = world from answers)
  | kill pid signal =>
      simp only [Answers, AnswersKill] at answers
      split at answers
      · exact congrArg _ answers.2
      · rcases answers with ⟨-, ⟨rfl, -⟩ | ⟨-, left, -, rfl⟩⟩ | ⟨-, -, rfl, -⟩
        · rfl
        · rfl
        · rfl
  | waitpid pid option =>
      cases answer with
      | reaped status =>
          obtain ⟨-, rfl⟩ := answers
          rfl
      | noChild => exact congrArg _ answers.2
      | running => exact congrArg _ answers.2
      | interrupted => exact congrArg _ answers.2
      | failed => exact congrArg _ answers.2
  | sleepFor milliseconds =>
      obtain rfl : next = world.tick := answers
      rfl
  | readTextFile file => exact congrArg _ answers.2
  | readExecutableLink pid => exact congrArg _ answers.2
  | weaklyCanonical path => exact congrArg _ answers.2
  | readHandshake child => exact congrArg _ answers.2
  | _ => exact congrArg _ (show next = world from answers)

/-- What has been observed of the TUN stays as it is where nothing looks. -/
theorem looksAway_reaches {α : Type} {program rest : System α} {world later : World}
    (calls : program.Calls LooksAway)
    (reaches : Reaches site.around (program, world) (rest, later)) :
    later.observedAbsent = world.observedAbsent := by
  have stable : Stable site.around fun next => next.observedAbsent = world.observedAbsent :=
    fun before after same drifts => drifts.observed.trans same
  have safe : Triple site.around ⟨fun next => next.observedAbsent = world.observedAbsent,
      fun _ _ => True, True⟩ (fun next => next.observedAbsent = world.observedAbsent) program
        fun _ next => next.observedAbsent = world.observedAbsent :=
    Triple.of_calls calls stable (fun _ => id) trivial (fun _ _ _ _ => trivial)
      fun before call answer after same away answers =>
        (observedAbsent_of_looksAway away answers).trans same
  exact ((safe world rfl).of_reaches reaches).holds

theorem looksAway_of_supervises {call : SystemCall} (supervises : Supervises call) :
    LooksAway call := by
  cases call with
  | ifNameToIndex name => exact supervises.elim
  | fork role => exact supervises.elim
  | _ => trivial

section Clearing

variable {allowed : SystemCall → Prop}

/-- The end of a stop removes files. -/
theorem calls_finishStop (removes : ∀ file, allowed (.removeFile file)) :
    Setup.finishStop.Calls allowed := by
  have cleared : clearState.Calls allowed := by
    refine Calls.bind ⟨removes _, fun _ => trivial⟩ fun answer => ?_
    cases answer with
    | removed => trivial
    | absent => trivial
    | failed detail => trivial
  exact cleared.andThen fun _ => Calls.bind ⟨removes _, fun _ => trivial⟩ fun _ => trivial

theorem calls_stopStale (removes : ∀ file, allowed (.removeFile file))
    (tells : ∀ level text, allowed (.emitLog level text)) : Setup.stopStale.Calls allowed :=
  Calls.bind ⟨tells _ _, fun _ => trivial⟩ fun _ => calls_finishStop removes

end Clearing

/-! ## Waiting for the TUN to disappear -/

/-- Where no core is alive, the wait succeeds only when the TUN was looked for
and not found. -/
theorem observes_awaitTunRemoval (sighted : site.faults.lookups = false) (code : ErrorCode) :
    Triple site.around unwatched NoCore (site.setup.awaitTunRemoval code)
      fun result world => result = .ok () → world.observedAbsent := by
  have kept (call : SystemCall) (quiet : Quiet call) : ∀ world answer next, NoCore world →
      site.Answers world call answer next → NoCore next :=
    fun world answer next none answers => noCore_of_tame none (tame_of_quiet quiet answers)
  have looked : Triple site.around unwatched NoCore site.setup.tunExists
      fun present world => NoCore world ∧ (present = false → world.observedAbsent) := by
    refine Triple.perform stable_noCore (fun _ _ => trivial) (fun _ _ => trivial)
      (fun present world next holds drifts => ⟨noCore_of_tame holds.1 drifts.tame, fun absent =>
        drifts.observed ▸ holds.2 absent⟩) (fun _ _ _ => trivial)
      fun world present next none answers => ?_
    refine ⟨kept (.ifNameToIndex _) trivial world present next none answers, fun absent => ?_⟩
    obtain ⟨same | ⟨impossible, -⟩, rfl⟩ := answers
    · exact Or.inr ⟨same.symm.trans absent, none⟩
    · rw [sighted] at impossible
      cases impossible
  have polled (attempts : Nat) : Triple site.around unwatched NoCore
      (site.setup.pollTunRemoval attempts) fun _ => NoCore := by
    induction attempts with
    | zero => exact Triple.done stable_noCore (fun _ _ => trivial) fun _ => id
    | succ attempts ih =>
        refine looked.bind fun present => ?_
        cases present with
        | false => exact fun world holds =>
            Triple.done stable_noCore (fun _ _ => trivial) (fun _ => id) world holds.1
        | true =>
            have slept : Triple site.around unwatched NoCore (sleepFor kPollInterval)
                fun _ => NoCore :=
              Triple.perform stable_noCore (fun _ _ => trivial) (fun _ _ => trivial)
                (fun _ => stable_noCore) (fun _ _ _ => trivial) (kept (.sleepFor _) trivial)
            exact (slept.bind fun _ => ih).weaken fun world holds => holds.1
  refine (polled _).bind fun _ => looked.bind fun present => ?_
  cases present with
  | true => exact fun world _ later _ => ⟨trivial, fun impossible => by cases impossible⟩
  | false =>
      refine Triple.done (fun world next holds drifts => ⟨noCore_of_tame holds.1 drifts.tame,
        fun absent => drifts.observed ▸ holds.2 absent⟩) (fun _ _ => trivial) ?_
      exact fun world holds _ => holds.2 rfl

/-! ## What a stop finds -/

/-- The start time of the recorded pid is read while a process with the recorded
start time is there, one that can be told. -/
def ShowsTicks (site : Site) (state : RuntimeState) (moment : World × Sigma SystemAnswer) : Prop :=
  moment.2.1 = .readTextFile (.processStat state.pid) ∧
    ∃ process, moment.1.processes state.pid = some process ∧ process.ticks = state.startTicks ∧
      site.faults.hidden state.pid state.startTicks = false

/-- The link of the recorded pid is read while the process is alive, and names the
recorded executable. -/
def ShowsLink (site : Site) (state : RuntimeState) (moment : World × Sigma SystemAnswer) : Prop :=
  ∃ link process, moment.2 = ⟨.readExecutableLink state.pid, link⟩ ∧
    moment.1.processes state.pid = some process ∧ process.alive = true ∧
    stripDeleted link = site.canonical state.executable

/-- The recorded core is there until its link has been read. -/
def CoreSeen (site : Site) (state : RuntimeState) (moments : Moments SystemAnswer World) : Prop :=
  (∃ moment ∈ moments, site.ShowsTicks state moment) ∧
    ∃ moment ∈ moments, site.ShowsLink state moment

/-- Calls that read neither start times nor links. -/
def Incurious : SystemCall → Prop
  | .readTextFile (.processStat _) => False
  | .readExecutableLink _ => False
  | _ => True

theorem not_shows_of_incurious {world : World} {call : SystemCall} {answer : SystemAnswer call}
    (incurious : Incurious call) : ¬ site.ShowsTicks state (world, ⟨call, answer⟩) ∧
      ¬ site.ShowsLink state (world, ⟨call, answer⟩) := by
  constructor
  · rintro ⟨same, -⟩
    obtain rfl : call = _ := same
    exact incurious
  · rintro ⟨link, process, same, -⟩
    obtain rfl : call = _ := congrArg Sigma.fst same
    exact incurious

theorem coreSeen_append_incurious {moments : Moments SystemAnswer World} {world : World}
    {call : SystemCall} {answer : SystemAnswer call} (incurious : Incurious call) :
    site.CoreSeen state (moments ++ [(world, ⟨call, answer⟩)]) ↔ site.CoreSeen state moments := by
  have shows : ¬ site.ShowsTicks state (world, ⟨call, answer⟩) ∧
      ¬ site.ShowsLink state (world, ⟨call, answer⟩) := not_shows_of_incurious incurious
  obtain ⟨noTicks, noLink⟩ := shows
  unfold CoreSeen
  rw [exists_mem_append_moment, exists_mem_append_moment, or_iff_left noTicks, or_iff_left noLink]

section Checked

variable {moments : Moments SystemAnswer World}

/-- Nothing has been read of the recorded pid. -/
def Unlooked (site : Site) (state : RuntimeState) (moments : Moments SystemAnswer World) : Prop :=
  (∀ moment ∈ moments, ¬ site.ShowsTicks state moment) ∧
    ∀ moment ∈ moments, ¬ site.ShowsLink state moment

/-- No link has been read, and whether the recorded start time has been is known. -/
def TicksKnown (site : Site) (state : RuntimeState) (found : Prop)
    (moments : Moments SystemAnswer World) : Prop :=
  (∀ moment ∈ moments, ¬ site.ShowsLink state moment) ∧
    ((∃ moment ∈ moments, site.ShowsTicks state moment) ↔ found)

/-- Whether the core has been seen is known. -/
def CoreKnown (site : Site) (state : RuntimeState) (found : Prop)
    (moments : Moments SystemAnswer World) : Prop :=
  site.CoreSeen state moments ↔ found

theorem Unlooked.known (unlooked : site.Unlooked state moments) :
    site.CoreKnown state False moments :=
  iff_false_intro fun ⟨⟨moment, member, shows⟩, _⟩ => unlooked.1 moment member shows

theorem traces_refused {pre : Moments SystemAnswer World → Prop}
    (unseen : ∀ moments, pre moments → site.CoreKnown state False moments) :
    Triple site.around.traced unwatched (fun run => pre run.2)
      (.done (.ok false) : System (Result Bool)) fun result run =>
        site.CoreKnown state (result = .ok true) run.2 :=
  Triple.done (stable_traced pre) (fun _ _ => trivial) fun run holds =>
    (unseen run.2 holds).trans (iff_of_false id fun impossible => by cases impossible)

/-- The start time is read as the recorded one exactly where the moment shows it. -/
theorem showsTicks_iff (faithful : site.Faithful)
    (bounds : 0 < state.startTicks ∧ state.startTicks < 2 ^ 63) {world next : World}
    {content : Result Bytes}
    (answers : site.Answers world (.readTextFile (.processStat state.pid)) content next) :
    site.ShowsTicks state (world, ⟨.readTextFile (.processStat state.pid), content⟩) ↔
      parseStartTicks content = .ok state.startTicks := by
  constructor
  · rintro ⟨-, process, found, same, legible⟩
    rw [← same] at bounds legible ⊢
    exact parseStartTicks_read faithful found legible bounds.1 bounds.2 answers.1
  · exact fun parsed => ⟨rfl, process_of_parseStartTicks faithful answers.1 parsed⟩

/-- A link that names the recorded executable is that of a process that is alive. -/
theorem showsLink_iff (faithful : site.Faithful) (named : state.executable ≠ [])
    {world next : World} {link : Bytes}
    (answers : site.Answers world (.readExecutableLink state.pid) link next) :
    site.ShowsLink state (world, ⟨.readExecutableLink state.pid, link⟩) ↔
      stripDeleted link = site.canonical state.executable := by
  constructor
  · rintro ⟨other, process, same, -, -, names⟩
    obtain rfl : link = other := eq_of_heq (Sigma.mk.inj same).2
    exact names
  intro names
  have nonempty : link ≠ [] := by
    rintro rfl
    exact site.canonicalPath _ named names.symm
  obtain ⟨told, -⟩ := answers
  simp only [AnswersLink, faithful.processes, Bool.false_eq_true, false_and, false_or] at told
  cases found : world.processes state.pid with
  | none => exact absurd (by simpa only [found] using told) nonempty
  | some process =>
      simp only [found] at told
      cases alive : process.alive with
      | true => exact ⟨link, process, rfl, found, alive, names⟩
      | false => exact absurd (by simpa [alive] using told) nonempty

theorem traces_processStartTicks (faithful : site.Faithful)
    (bounds : 0 < state.startTicks ∧ state.startTicks < 2 ^ 63) :
    Triple site.around.traced unwatched (fun run => site.Unlooked state run.2)
      (processStartTicks state.pid) fun ticks run =>
        site.TicksKnown state (ticks.toOption = some state.startTicks) run.2 := by
  have read : Triple site.around.traced unwatched (fun run => site.Unlooked state run.2)
      (readTextFile (.processStat state.pid)) fun content run =>
        site.TicksKnown state (parseStartTicks content = .ok state.startTicks) run.2 := by
    refine Triple.trace fun moments world content next unlooked answers => ?_
    have shows := showsTicks_iff faithful bounds answers
    have noLink : ¬ site.ShowsLink state
        (world, ⟨.readTextFile (.processStat state.pid), content⟩) := by
      rintro ⟨link, process, impossible, -⟩
      cases congrArg Sigma.fst impossible
    have noneBefore : ¬ ∃ moment ∈ moments, site.ShowsTicks state moment :=
      fun ⟨moment, member, shown⟩ => unlooked.1 moment member shown
    constructor
    · exact List.forall_mem_append.mpr ⟨unlooked.2, List.forall_mem_singleton.mpr noLink⟩
    · rw [← shows, exists_mem_append_moment, or_iff_right noneBefore]
  refine read.bind fun content => ?_
  have same : (parseStartTicks content).toOption = some state.startTicks ↔
      parseStartTicks content = .ok state.startTicks := by
    cases parseStartTicks content with
    | error failure => exact iff_of_false nofun nofun
    | ok ticks => exact ⟨fun same => congrArg _ (Option.some.inj same),
        fun same => congrArg some (Except.ok.inj same)⟩
  exact Triple.done (stable_traced _) (fun _ _ => trivial) fun run known =>
    ⟨known.1, known.2.trans same.symm⟩

theorem traces_readExecutableLink (faithful : site.Faithful) (named : state.executable ≠ []) :
    Triple site.around.traced unwatched (fun run => site.TicksKnown state True run.2)
      (readExecutableLink state.pid) fun link run =>
        site.CoreKnown state (stripDeleted link = site.canonical state.executable) run.2 := by
  refine Triple.trace fun moments world link next known answers => ?_
  have noneBefore : ¬ ∃ moment ∈ moments, site.ShowsLink state moment :=
    fun ⟨moment, member, shown⟩ => known.1 moment member shown
  refine Iff.trans ?_ (showsLink_iff faithful named answers)
  unfold CoreSeen
  rw [exists_mem_append_moment, exists_mem_append_moment, or_iff_right noneBefore]
  exact and_iff_right (Or.inl (known.2.mpr trivial))

theorem traces_weaklyCanonical (faithful : site.Faithful) (link : Bytes) :
    Triple site.around.traced unwatched
      (fun run => site.CoreKnown state (link = site.canonical state.executable) run.2)
      (weaklyCanonical state.executable) fun expected run =>
        site.CoreKnown state (expected = some link) run.2 := by
  refine Triple.trace fun moments world expected next known answers => ?_
  refine (coreSeen_append_incurious (by trivial)).trans (known.trans ?_)
  obtain ⟨rfl | ⟨impossible, -⟩, -⟩ := answers
  · rw [Option.some.injEq, eq_comm]
  · rw [faithful.processes] at impossible
    cases impossible

theorem traces_hasRecordedIdentity (faithful : site.Faithful)
    (bounds : 0 < state.startTicks ∧ state.startTicks < 2 ^ 63) (named : state.executable ≠ []) :
    Triple site.around.traced unwatched (fun run => site.Unlooked state run.2)
      (hasRecordedIdentity state) fun result run =>
        site.CoreKnown state (result = .ok true) run.2 := by
  refine (traces_processStartTicks faithful bounds).bind fun ticks => ?_
  split
  next other =>
    exact traces_refused fun moments known =>
      iff_false_intro fun seen => other (known.2.mp seen.1)
  next same =>
    have found : ticks.toOption = some state.startTicks := Decidable.not_not.mp same
    have linked := (traces_readExecutableLink faithful named).weaken fun run
      (known : site.TicksKnown state (ticks.toOption = some state.startTicks) run.2) =>
        ⟨known.1, known.2.trans (iff_true_intro found)⟩
    refine linked.bind fun link => (traces_weaklyCanonical faithful _).bind fun expected => ?_
    split
    next other =>
      exact traces_refused fun moments known => known.trans (iff_false_intro other)
    next same =>
      exact Triple.done (stable_traced _) (fun _ _ => trivial) fun run known =>
        known.trans (iff_of_true (Decidable.not_not.mp same) rfl)

/-- A call that reads neither start times nor links leaves the pid unlooked at. -/
theorem Unlooked.append {world : World} {call : SystemCall} {answer : SystemAnswer call}
    (unlooked : site.Unlooked state moments) (incurious : Incurious call) :
    site.Unlooked state (moments ++ [(world, ⟨call, answer⟩)]) := by
  have shows : ¬ site.ShowsTicks state (world, ⟨call, answer⟩) ∧
      ¬ site.ShowsLink state (world, ⟨call, answer⟩) := not_shows_of_incurious incurious
  obtain ⟨noTicks, noLink⟩ := shows
  constructor
  · exact List.forall_mem_append.mpr ⟨unlooked.1, List.forall_mem_singleton.mpr noTicks⟩
  · exact List.forall_mem_append.mpr ⟨unlooked.2, List.forall_mem_singleton.mpr noLink⟩

/-- The identity check succeeds exactly where the recorded core is seen. -/
theorem traces_isManagedProcessRunning (faithful : site.Faithful)
    (bounds : 0 < state.startTicks ∧ state.startTicks < 2 ^ 63) (named : state.executable ≠ []) :
    Triple site.around.traced unwatched (fun run => site.Unlooked state run.2)
      (isManagedProcessRunning state) fun result run =>
        site.CoreKnown state (result = .ok true) run.2 := by
  have probed : Triple site.around.traced unwatched (fun run => site.Unlooked state run.2)
      (kill state.pid .null) fun _ run => site.Unlooked state run.2 :=
    Triple.trace fun _ _ _ _ unlooked _ => unlooked.append trivial
  refine probed.bind fun probe => ?_
  cases probe with
  | noProcess => exact traces_refused fun _ => Unlooked.known
  | failed => exact traces_refused fun _ => Unlooked.known
  | delivered => exact traces_hasRecordedIdentity faithful bounds named
  | notPermitted => exact traces_hasRecordedIdentity faithful bounds named

/-- Loading the state file looks at no process. -/
theorem unlooked_loadState {run last : World × Moments SystemAnswer World}
    {result : Result RuntimeState} (unlooked : site.Unlooked state run.2)
    (reaches : Reaches site.around.traced (loadState, run) (.done result, last)) :
    site.Unlooked state last.2 := by
  have read : Triple site.around.traced unwatched (fun run => site.Unlooked state run.2)
      (readTextFile .state) fun _ run => site.Unlooked state run.2 :=
    Triple.trace fun _ _ _ _ unlooked _ => unlooked.append trivial
  have loaded : Triple site.around.traced unwatched (fun run => site.Unlooked state run.2)
      loadState fun _ run => site.Unlooked state run.2 :=
    read.bind fun _ => Triple.done (stable_traced _) (fun _ _ => trivial) fun _ => id
  exact ((loaded run unlooked).of_reaches reaches).result

end Checked

/-! ## Stops that succeed -/

/-- A held core's stop observes the TUN's absence before it succeeds. -/
theorem observes_stopRunning (faithful : site.Faithful) (sighted : site.faults.lookups = false)
    {checked later : World} (held : site.Held genuine state checked)
    (reaches :
      Reaches site.around (site.setup.stopRunning state, checked) (.done (.ok ()), later)) :
    later.observedAbsent := by
  obtain ⟨terminated, ended, terminates, rest⟩ := Reaches.of_bind reaches
  have outcome := ((held_terminateCore faithful state state rfl rfl rfl checked
    held).of_reaches terminates).result
  cases terminated with
  | error failure => cases rest.value_eq
  | ok _ =>
      obtain ⟨content, idle⟩ := outcome
      obtain ⟨waited, gone, awaits, finishes⟩ := Reaches.of_bind rest
      have observed :=
        ((observes_awaitTunRemoval sighted _ ended idle.noCore).of_reaches awaits).result
      cases waited with
      | error failure => cases finishes.value_eq
      | ok _ =>
          have away : Setup.finishStop.Calls LooksAway := calls_finishStop fun _ => trivial
          exact (looksAway_reaches away finishes).symm ▸ observed rfl

/-- A stop that finds no core does not see one afterwards. -/
theorem coreKnown_stopStale {run last : World × Moments SystemAnswer World} {result : Result Unit}
    (unseen : site.CoreKnown state False run.2)
    (reaches : Reaches site.around.traced (Setup.stopStale, run) (.done result, last)) :
    site.CoreKnown state False last.2 := by
  have incurious : Setup.stopStale.Calls Incurious :=
    calls_stopStale (fun _ => trivial) fun _ _ => trivial
  have kept : Triple site.around.traced unwatched (fun run => site.CoreKnown state False run.2)
      Setup.stopStale fun _ run => site.CoreKnown state False run.2 := by
    apply Triple.of_calls incurious (stable_traced (site.CoreKnown state False))
      (fun _ _ => trivial) trivial fun _ _ _ _ => trivial
    rintro ⟨world, moments⟩ call answer ⟨next, later⟩ known looksAside ⟨-, rfl⟩
    exact (coreSeen_append_incurious looksAside).trans known
  exact ((kept run unseen).of_reaches reaches).result

/-- For every stop that finds a loadable state file and succeeds: the TUN was
observed absent after the last core had stopped if and only if it had been
before the call, or the recorded core was there until the stop had read its
link. -/
theorem stop_observes_absence (site : Site) (faithful : site.Faithful)
    (sighted : site.faults.lookups = false) {world later : World} {state : RuntimeState}
    {moments : Moments SystemAnswer World}
    (reachable : Reachable site Fresh Abandons world) (loads : Loads world.state state)
    (reaches : Reaches site.around.traced (site.setup.stop, (world, []))
      (.done (.ok ()), (later, moments))) :
    later.observedAbsent ↔ world.observedAbsent ∨ site.CoreSeen state moments := by
  have managed : site.Managed True world := reachable.managed faithful
  obtain ⟨content, ⟨loaded, told⟩, reads, rest⟩ := Reaches.of_bind reaches
  obtain rfl : content = .ok state :=
    ((loads_loadState faithful world loads).of_reaches reads.of_witnessing).result
  have held : site.Held True state loaded :=
    ((managed_loadState faithful world managed).of_reaches reads.of_witnessing).result
  obtain ⟨running, ⟨checked, seen⟩, checks, rest⟩ := Reaches.of_bind rest
  have reading : (loadState : System (Result RuntimeState)).Calls LooksAway :=
    ⟨trivial, fun _ => trivial⟩
  have unobserved : checked.observedAbsent = world.observedAbsent :=
    (looksAway_reaches ((supervises_isManagedProcessRunning state).imp
      fun _ => looksAway_of_supervises) checks.of_witnessing).trans
      (looksAway_reaches reading reads.of_witnessing)
  have outcome := ((held_isManagedProcessRunning faithful state loaded held).of_reaches
    checks.of_witnessing).result
  obtain ⟨text, -, parsed⟩ := loads
  obtain ⟨named, bounds⟩ := sound_of_parseState parsed
  have unlooked : site.Unlooked state told :=
    unlooked_loadState ⟨fun _ none => (by cases none), fun _ none => (by cases none)⟩ reads
  have tells : site.CoreKnown state (running = .ok true) seen :=
    ((traces_isManagedProcessRunning faithful bounds named _ unlooked).of_reaches checks).result
  rcases running with failure | running
  · exact outcome.elim
  cases running with
  | true =>
      have observed := observes_stopRunning faithful sighted outcome rest.of_witnessing
      obtain ⟨⟨ticks, ticksSeen, showsTicks⟩, link, linkSeen, showsLink⟩ := tells.mpr rfl
      exact iff_of_true observed (Or.inr ⟨⟨ticks, rest.mem_traced ticksSeen, showsTicks⟩,
        link, rest.mem_traced linkSeen, showsLink⟩)
  | false =>
      have away : Setup.stopStale.Calls LooksAway :=
        calls_stopStale (fun _ => trivial) fun _ _ => trivial
      have same : later.observedAbsent = world.observedAbsent :=
        (looksAway_reaches away rest.of_witnessing).trans unobserved
      have unseen : site.CoreKnown state False seen :=
        Iff.trans tells (iff_false_intro fun impossible => by cases impossible)
      have unseen : site.CoreKnown state False moments := coreKnown_stopStale unseen rest
      rw [same]
      exact (or_iff_left unseen.mp).symm

/-- A stop on the machine that finds the core it has started running. -/
theorem stop_observes_absence_example :
    ∃ state moments, Loads (Machine.started {} {}).world.state state ∧
      Reaches (shippedSite faultless).around.traced
        (shippedSetup.stop, ((Machine.started {} {}).world, []))
        (.done (.ok ()), ((Machine.stopped {} (Machine.started {} {})).world, moments)) ∧
      (shippedSite faultless).CoreSeen state moments := by
  obtain ⟨-, -, serves⟩ := Machine.started_empty
  have stops : (follow (Machine.respond {}) shippedSetup.stop (Machine.started {} {})).1.result? =
        some (.ok ()) ∧
      (Machine.started {} {}).observedAbsent = false ∧
      (Machine.stopped {} (Machine.started {} {})).observedAbsent = true := by
    decide +kernel
  obtain ⟨stops, unseen, seen⟩ := stops
  have reachable := reachable_started within_faultless
  have reaches := Machine.reaches_stopped within_faultless stops
  generalize Machine.started {} {} = machine at *
  obtain ⟨state, process, loads, -⟩ := Machine.exists_of_coreServes serves
  obtain ⟨moments, traced⟩ := reaches.exists_witnessing []
  have known := (stop_observes_absence (shippedSite faultless) faithful_faultless rfl reachable
    loads traced).mp seen
  exact ⟨state, moments, loads, traced, known.resolve_left fun before =>
    absurd (unseen.symm.trans before) Bool.false_ne_true⟩

/-- The machine on which the TUN outlives the core, after a stop. -/
def lingered : Machine :=
  Machine.stopped { lingering := true } (Machine.started {} {})

/-- A stop fails because the TUN does not disappear, and the next one reports
success while the TUN is still there and was never seen to be absent. -/
theorem stop_repeated :
    ∃ failure state, Reachable (shippedSite faultless) Fresh Abandons lingered.world ∧
      Reaches (shippedSite faultless).around (shippedSetup.stop, (Machine.started {} {}).world)
        (.done (.error failure), lingered.world) ∧
      Loads lingered.world.state state ∧
      Reaches (shippedSite faultless).around (shippedSetup.stop, lingered.world)
        (.done (.ok ()), (lingered.stopped { lingering := true }).world) ∧
      (lingered.stopped { lingering := true }).world.tun = true ∧
      ¬ (lingered.stopped { lingering := true }).world.observedAbsent := by
  have runs : ((follow (Machine.respond { lingering := true }) shippedSetup.stop
        (Machine.started {} {})).1.outcome? = some false ∧
      lingered.unsaved = [] ∧ lingered.recorded.isOk = true) ∧
      (follow (Machine.respond { lingering := true }) shippedSetup.stop lingered).1.result? =
        some (.ok ()) ∧
      (lingered.stopped { lingering := true }).tun = true ∧
      (lingered.stopped { lingering := true }).observedAbsent = false := by
    decide +kernel
  obtain ⟨⟨fails, settled, recorded⟩, succeeds, present, unseen⟩ := runs
  have within : Mishaps.Within { lingering := true } faultless := ⟨nofun, fun _ _ => rfl, nofun⟩
  have reachable := reachable_started within_faultless
  obtain ⟨result, done, isError⟩ := Option.map_eq_some_iff.mp fails
  have first := Machine.reaches_stopped within done
  have second := Machine.reaches_stopped within succeeds
  have lingers : Reachable (shippedSite faultless) Fresh Abandons lingered.world :=
    .stop reachable ⟨_, _, first, Or.inl ⟨⟨result, rfl⟩,
      abandons_of_settled (settled_world settled)⟩⟩
  change Reaches _ _ (_, lingered.world) at first
  generalize lingered = machine at *
  cases result with
  | ok _ => cases isError
  | error failure =>
      cases loaded : machine.recorded with
      | error absent =>
          rw [loaded] at recorded
          cases recorded
      | ok state =>
          exact ⟨failure, state, lingers, first, Machine.loads_of_recorded loaded, second, present,
            fun observed => absurd (unseen.symm.trans observed) Bool.false_ne_true⟩

end Site

end TunProxy
