import TunProxy.ProxyRecovery

/-!
# Starting and reporting agree

After a failed start, `status` reports that nothing runs.  After a successful
one, `status` and further starts report exactly what the start returned, as
long as the core stays alive, and they change nothing.
-/

namespace TunProxy

open ByteText EffectProgram Relation

namespace Site

variable {site : Site} {α : Type}

/-! ## After a failed start -/

/-- No process with the recorded identity is alive. -/
def Dead (state : RuntimeState) (world : World) : Prop :=
  ∀ process, world.processes state.pid = some process → process.ticks = state.startTicks →
    process.alive = false

/-- Nothing that the state file records as running is alive. -/
def Quiescent (world : World) : Prop :=
  ∀ state, Loads world.state state → state.phase = ascii "running" → Dead state world

theorem Failed.quiescent {world : World} (failed : site.Failed True world) : Quiescent world := by
  rintro state loads running process found same
  rcases failed with ⟨content, idle⟩ | ⟨other, held, phase⟩ |
    ⟨-, child, ticks, pending, isPending, holds⟩
  · have identity := idle.tracked.named trivial state loads
    exact idle.noCore state.pid process found (identity.core process found same)
  · exact absurd (Loads.unique held.loads loads ▸ running) phase
  · obtain ⟨text, impossible, -⟩ := loads
    rw [holds.state] at impossible
    cases impossible

/-- The pid in the state file is not given to another process. -/
def KeepsPid (world next : World) : Prop :=
  ∀ state, Loads world.state state → ∀ later, next.processes state.pid = some later →
    ∃ process, world.processes state.pid = some process ∧ process.Becomes later

/-- The world during a call right after another: no pid is reused meanwhile. -/
def atOnce (site : Site) : Surroundings SystemAnswer World where
  answers := site.Answers
  drift world next := Drifts world next ∧ KeepsPid world next

/-- The recorded process, loaded from the state file, is not alive. -/
def DeadRecord (state : RuntimeState) (world : World) : Prop :=
  Loads world.state state ∧ Dead state world

/-- There is at most a zombie at the recorded pid. -/
def ZombieRecord (state : RuntimeState) (world : World) : Prop :=
  Loads world.state state ∧
    ∀ process, world.processes state.pid = some process → process.alive = false

theorem stable_deadRecord (state : RuntimeState) : Stable site.atOnce (DeadRecord state) := by
  rintro world next ⟨loads, dead⟩ ⟨drifts, keeps⟩
  refine ⟨drifts.tame.state ▸ loads, fun later found same => ?_⟩
  obtain ⟨process, present, becomes⟩ := keeps state loads later found
  have before := dead process present (becomes.ticks.symm.trans same)
  cases alive : later.alive with
  | false => rfl
  | true => exact absurd (becomes.alive alive) (by rw [before]; decide)

theorem stable_zombieRecord (state : RuntimeState) : Stable site.atOnce (ZombieRecord state) := by
  rintro world next ⟨loads, dead⟩ ⟨drifts, keeps⟩
  refine ⟨drifts.tame.state ▸ loads, fun later found => ?_⟩
  obtain ⟨process, present, becomes⟩ := keeps state loads later found
  have before := dead process present
  cases alive : later.alive with
  | false => rfl
  | true => exact absurd (becomes.alive alive) (by rw [before]; decide)

section Checked

variable {state : RuntimeState}

/-- A start time that was read tells apart the recorded process. -/
def TicksTold (state : RuntimeState) (ticks : Option Nat) (world : World) : Prop :=
  DeadRecord state world ∧ (ticks = some state.startTicks → ZombieRecord state world)

theorem stable_ticksTold (ticks : Option Nat) : Stable site.atOnce (TicksTold state ticks) :=
  fun world next told drifts => ⟨stable_deadRecord state world next told.1 drifts,
    fun same => stable_zombieRecord state world next (told.2 same) drifts⟩

theorem dead_processStartTicks (faithful : site.Faithful) :
    Triple site.atOnce unwatched (DeadRecord state) (processStartTicks state.pid)
      fun ticks => TicksTold state ticks.toOption := by
  have read : Triple site.atOnce unwatched (DeadRecord state)
      (readTextFile (.processStat state.pid)) fun content =>
        TicksTold state (parseStartTicks content).toOption := by
    refine Triple.perform (stable_deadRecord state) (fun _ _ => trivial) (fun _ _ => trivial)
      (fun _ => stable_ticksTold _) (fun _ _ _ => trivial) fun world answer next dead answers => ?_
    obtain ⟨answers, rfl⟩ := answers
    refine ⟨dead, fun told => ⟨dead.1, fun process found => ?_⟩⟩
    cases parsed : parseStartTicks answer with
    | error failure =>
        rw [parsed] at told
        cases told
    | ok ticks =>
        rw [parsed] at told
        obtain rfl : ticks = state.startTicks := Option.some.inj told
        obtain ⟨other, present, same, -⟩ := process_of_parseStartTicks faithful answers parsed
        obtain rfl := Option.some.inj (found.symm.trans present)
        exact dead.2 process found same
  exact read.bind fun content => Triple.done (stable_ticksTold _) (fun _ _ => trivial) fun _ => id

theorem zombie_readExecutableLink (faithful : site.Faithful) :
    Triple site.atOnce unwatched (ZombieRecord state) (readExecutableLink state.pid)
      fun executable world => executable = [] ∧ ZombieRecord state world := by
  refine Triple.perform (stable_zombieRecord state) (fun _ _ => trivial) (fun _ _ => trivial)
    (fun _ world next holds drifts =>
      ⟨holds.1, stable_zombieRecord state world next holds.2 drifts⟩)
    (fun _ _ _ => trivial) fun world answer next zombie answers => ?_
  obtain ⟨answers, rfl⟩ := answers
  refine ⟨?_, zombie⟩
  simp only [AnswersLink, faithful.processes, Bool.false_eq_true, false_and, false_or] at answers
  cases found : next.processes state.pid with
  | none => simpa only [found] using answers
  | some process => simpa [found, zombie.2 process found] using answers

theorem dead_done (pre : World → Prop) : Triple site.atOnce unwatched pre
    (.done (.ok false) : System (Result Bool)) fun result _ => result = .ok false :=
  fun _ _ _ _ => ⟨trivial, rfl⟩

/-- A process that is not alive does not have the recorded identity. -/
theorem dead_hasRecordedIdentity (faithful : site.Faithful) :
    Triple site.atOnce unwatched (DeadRecord state) (hasRecordedIdentity state)
      fun result _ => result = .ok false := by
  refine (dead_processStartTicks faithful).bind fun ticks => ?_
  split
  · exact dead_done _
  next same =>
    refine Triple.weaken ?_ fun world told => told.2 (Decidable.not_not.mp same)
    refine (zombie_readExecutableLink faithful).bind fun executable => ?_
    rintro world ⟨rfl, zombie⟩
    refine Triple.call (stable_zombieRecord state) (fun _ _ => trivial) (fun _ _ => trivial)
      (fun later expected next zombie answers => ?_) world zombie
    have other : expected ≠ some (stripDeleted []) := by
      obtain ⟨rfl | ⟨impossible, -⟩, -⟩ := answers
      · obtain ⟨text, -, parsed⟩ := zombie.1
        intro same
        exact site.canonicalPath _ (sound_of_parseState parsed).1 (Option.some.inj same)
      · rw [faithful.processes] at impossible
        cases impossible
    simp only [done_bind, other, ne_eq, not_false_eq_true, if_true]
    exact dead_done (fun _ => True) next trivial

/-- The identity check does not find a process that is not alive. -/
theorem dead_isManagedProcessRunning (faithful : site.Faithful) :
    Triple site.atOnce unwatched (DeadRecord state) (isManagedProcessRunning state)
      fun result _ => result = .ok false := by
  have probed : Triple site.atOnce unwatched (DeadRecord state) (kill state.pid .null)
      fun _ => DeadRecord state := by
    refine Triple.perform (stable_deadRecord state) (fun _ _ => trivial) (fun _ _ => trivial)
      (fun _ => stable_deadRecord state) (fun _ _ _ => trivial)
      fun world answer next dead answers => ?_
    simp only [atOnce, Answers, AnswersKill] at answers
    split at answers
    · exact answers.2 ▸ dead
    · rcases answers with ⟨-, ⟨rfl, -⟩ | ⟨impossible, -⟩⟩ | ⟨-, -, rfl, -⟩
      · exact dead
      · cases impossible
      · exact dead
  refine probed.bind fun probe => ?_
  cases probe with
  | noProcess => exact dead_done _
  | failed => exact dead_done _
  | delivered => exact dead_hasRecordedIdentity faithful
  | notPermitted => exact dead_hasRecordedIdentity faithful

end Checked

/-- A status that reports that nothing runs. -/
def ReportsIdle (result : Result ProxyStatus) : Prop :=
  ∃ status, result = .ok status ∧ status.running = false

theorem stable_quiescent : Stable site.atOnce Quiescent := by
  intro world next quiescent ⟨drifts, keeps⟩ state loads running
  rw [drifts.tame.state] at loads
  have stable : Stable site.atOnce (DeadRecord state) := stable_deadRecord state
  exact (stable world next ⟨loads, quiescent state loads running⟩ ⟨drifts, keeps⟩).2

theorem quiescent_loadState (faithful : site.Faithful) :
    Triple site.atOnce unwatched Quiescent loadState fun
      | .ok state => fun world => state.phase = ascii "running" → DeadRecord state world
      | .error _ => fun _ => True := by
  have read : Triple site.atOnce unwatched Quiescent (readTextFile .state)
      fun content world => Quiescent world ∧
        ∀ state, parseState content = .ok state → Loads world.state state := by
    refine Triple.perform stable_quiescent (fun _ _ => trivial) (fun _ _ => trivial)
      (fun _ world next holds drifts => ⟨stable_quiescent world next holds.1 drifts,
        fun state parsed => drifts.1.tame.state.symm ▸ holds.2 state parsed⟩)
      (fun _ _ _ => trivial) fun world answer next quiescent answers => ?_
    obtain ⟨answers, rfl⟩ := answers
    exact ⟨quiescent, fun state parsed => (parseState_read_iff faithful answers).mp parsed⟩
  refine read.bind fun content => ?_
  cases parsed : parseState content with
  | error failure => exact fun _ _ _ _ => ⟨trivial, trivial⟩
  | ok state =>
      refine Triple.done (fun world next holds drifts => ?_) (fun _ _ => trivial)
        fun world holds running => ⟨holds.2 state rfl, holds.1 state (holds.2 state rfl) running⟩
      exact ⟨stable_quiescent world next holds.1 drifts,
        fun other same => drifts.1.tame.state.symm ▸ holds.2 other same⟩

theorem quiescent_status (faithful : site.Faithful) :
    Triple site.atOnce unwatched Quiescent site.setup.status fun result _ =>
      ReportsIdle result := by
  have idles (pre : World → Prop) (configured : Result Upstream) (installed : Bool) :
      Triple site.atOnce unwatched pre (.done (.ok (site.setup.idleStatus configured installed)))
        fun result _ => ReportsIdle result :=
    fun _ _ _ _ => ⟨trivial, _, rfl, rfl⟩
  have passed (call : SystemCall)
      (same : ∀ world answer next, site.Answers world call answer next → next = world) :
      Triple site.atOnce unwatched Quiescent (.call call .done) fun _ => Quiescent :=
    Triple.perform stable_quiescent (fun _ _ => trivial) (fun _ _ => trivial)
      (fun _ => stable_quiescent) (fun _ _ _ => trivial)
      fun world answer next quiescent answers => same world answer next answers ▸ quiescent
  have configured : Triple site.atOnce unwatched Quiescent loadConfig fun _ => Quiescent :=
    (passed (.readTextFile .config) fun _ _ _ answers => answers.2).bind fun contents =>
      Triple.done stable_quiescent (fun _ _ => trivial) fun _ => id
  refine configured.bind fun configured => ?_
  refine (passed (.lstat _) fun _ _ _ answers => answers).bind fun installed => ?_
  refine (quiescent_loadState faithful).bind fun loaded => ?_
  cases loaded with
  | error failure => exact idles _ _ _
  | ok state =>
      by_cases running : state.phase = ascii "running"
      · refine Triple.weaken ?_ fun world known => known running
        refine (dead_isManagedProcessRunning faithful).bind fun result => ?_
        rintro world rfl
        exact idles (fun _ => True) _ _ world trivial
      · refine fun world _ => (safe_unwatched site.atOnce _ world).bind fun result later _ => ?_
        simp only [running, if_false]
        split
        · exact idles (fun _ => True) _ _ later trivial
        · exact idles (fun _ => True) _ _ later trivial

/-! ## After a successful start -/

/-- The process with an identity is alive. -/
def Alive (pid : Int) (ticks : Nat) (world : World) : Prop :=
  ∃ process, world.processes pid = some process ∧ process.ticks = ticks ∧ process.alive = true

/-- The world while a process stays alive. -/
def sparing (site : Site) (pid : Int) (ticks : Nat) : Surroundings SystemAnswer World where
  answers world call answer next := site.Answers world call answer next ∧ Alive pid ticks next
  drift world next := Drifts world next ∧ Alive pid ticks next

/-- Calls that only look. -/
def ReadsOnly : SystemCall → Prop
  | .readTextFile _ => True
  | .kill _ .null => True
  | .readExecutableLink _ => True
  | .weaklyCanonical _ => True
  | .lstat _ => True
  | _ => False

/-- Only looking is allowed, and there must be a result. -/
def looking : Watch SystemCall World where
  holds _ := True
  permits _ call := ReadsOnly call
  cuts := False

/-- The recorded core is alive and recorded as running. -/
structure Serving (site : Site) (state : RuntimeState) (world : World) : Prop where
  held : site.Held True state world
  alive : Alive state.pid state.startTicks world

section Serving

variable {state : RuntimeState}

theorem stable_serving : Stable (site.sparing state.pid state.startTicks) (site.Serving state) :=
  fun world next serving ⟨drifts, alive⟩ =>
    ⟨(robust_held state).tame world next serving.held drifts.tame, alive⟩

/-- The recorded process and what is known of it. -/
theorem Serving.process {world : World} (serving : site.Serving state world) :
    ∃ process, world.processes state.pid = some process ∧ process.alive = true ∧
      site.HeldBy state state.pid process := by
  obtain ⟨process, found, same, alive⟩ := serving.alive
  have core := (serving.held.named trivial).core process found same
  exact ⟨process, found, alive, serving.held.onlyHeld state.pid process found core alive⟩

/-- A call that only looks keeps the core and tells a fact. -/
theorem serving_look (call : SystemCall) (fact : SystemAnswer call → Prop)
    (looks : ReadsOnly call)
    (answered : ∀ world answer next, site.Serving state world →
      site.Answers world call answer next → next = world ∧ fact answer) :
    Triple (site.sparing state.pid state.startTicks) looking (site.Serving state)
      (.call call .done) fun answer world => site.Serving state world ∧ fact answer :=
  Triple.perform stable_serving (fun _ _ => trivial) (fun _ _ => looks)
    (fun _ world next holds drifts => ⟨stable_serving world next holds.1 drifts, holds.2⟩)
    (fun _ _ _ => trivial) fun world answer next serving answers => by
      obtain ⟨rfl, told⟩ := answered world answer next serving answers.1
      exact ⟨serving, told⟩

theorem serving_done {value : α} {post : α → World → Prop}
    (implies : ∀ world, site.Serving state world → post value world) :
    Triple (site.sparing state.pid state.startTicks) looking (site.Serving state)
      (.done value) post :=
  Triple.done stable_serving (fun _ _ => trivial) implies

theorem serving_loadState (faithful : site.Faithful) :
    Triple (site.sparing state.pid state.startTicks) looking (site.Serving state) loadState
      fun result world => site.Serving state world ∧ result = .ok state := by
  have read : Triple (site.sparing state.pid state.startTicks) looking (site.Serving state)
      (readTextFile .state) fun content world => site.Serving state world ∧
        parseState content = .ok state := by
    refine serving_look (.readTextFile .state) (fun content => parseState content = .ok state)
      trivial fun world answer next serving answers => ?_
    exact ⟨answers.2, (parseState_read_iff faithful answers.1).mpr serving.held.loads⟩
  refine read.bind fun content => ?_
  rintro world ⟨serving, parsed⟩
  rw [parsed]
  exact serving_done (fun _ serving => ⟨serving, rfl⟩) world serving

/-- The identity check finds the core that stays alive. -/
theorem serving_isManagedProcessRunning (faithful : site.Faithful) :
    Triple (site.sparing state.pid state.startTicks) looking (site.Serving state)
      (isManagedProcessRunning state) fun result world =>
        site.Serving state world ∧ result = .ok true := by
  have probed := serving_look (.kill state.pid .null)
    (fun answer => answer = .delivered) trivial
    fun world answer next (serving : site.Serving state world) answers => by
      obtain ⟨process, found, -, -⟩ := serving.process
      simp only [Answers, AnswersKill, found] at answers
      rcases answers with ⟨rfl, ⟨rfl, -⟩ | ⟨impossible, -⟩⟩ | ⟨-, impossible, -, -⟩
      · exact ⟨rfl, rfl⟩
      · cases impossible
      · exact absurd rfl impossible
  have timed := serving_look (.readTextFile (.processStat state.pid))
    (fun content => parseStartTicks content = .ok state.startTicks) trivial
    fun world answer next (serving : site.Serving state world) answers => by
      obtain ⟨process, found, -, held⟩ := serving.process
      exact ⟨answers.2, held.reads_ticks faithful found answers⟩
  have linked := serving_look (.readExecutableLink state.pid)
    (fun executable => stripDeleted executable = site.coreExecutable) trivial
    fun world answer next (serving : site.Serving state world) answers => by
      obtain ⟨process, found, alive, held⟩ := serving.process
      exact ⟨answers.2, held.reads_link faithful found alive answers⟩
  have resolved := serving_look (.weaklyCanonical state.executable)
    (fun expected => expected = some site.coreExecutable) trivial
    fun world answer next (serving : site.Serving state world) answers => by
      obtain ⟨process, -, -, held⟩ := serving.process
      exact ⟨answers.2, held.reads_path faithful answers⟩
  refine probed.bind fun probe => ?_
  rintro world ⟨serving, rfl⟩
  refine Safe.bind ((timed world serving).bind fun content later known => ?_) fun ticks later
    (known : site.Serving state later ∧ ticks = .ok state.startTicks) => ?_
  · exact serving_done (fun _ serving => ⟨serving, known.2⟩) later known.1
  obtain ⟨serving, rfl⟩ := known
  simp only [Except.toOption, ne_eq, not_true_eq_false, if_false]
  refine (linked later serving).bind fun executable after known => ?_
  refine (resolved after known.1).bind fun expected last found => ?_
  simp only [found.2, known.2, not_true_eq_false, if_false]
  exact serving_done (fun _ serving => ⟨serving, rfl⟩) last found.1

/-- A start answers at once with what the state file records. -/
theorem serving_start (faithful : site.Faithful)
    (phase : state.phase = ascii "running") (fuel : Nat) :
    Triple (site.sparing state.pid state.startTicks) looking (site.Serving state)
      (site.setup.start fuel) fun result world =>
        site.Serving state world ∧ result = .ok (statusFromState state) := by
  refine (serving_loadState faithful).bind fun loaded => ?_
  rintro world ⟨serving, rfl⟩
  refine (serving_isManagedProcessRunning faithful world serving).bind fun running later known => ?_
  obtain ⟨serving, rfl⟩ := known
  simp only [phase, if_true]
  exact serving_done (fun _ serving => ⟨serving, rfl⟩) later serving

theorem serving_status (faithful : site.Faithful)
    (phase : state.phase = ascii "running") :
    Triple (site.sparing state.pid state.startTicks) looking (site.Serving state)
      site.setup.status fun result world =>
        site.Serving state world ∧ result = .ok (statusFromState state) := by
  have looked (call : SystemCall) (looks : ReadsOnly call)
      (same : ∀ world answer next, site.Answers world call answer next → next = world) :
      Triple (site.sparing state.pid state.startTicks) looking (site.Serving state)
        (.call call .done) fun _ => site.Serving state :=
    (serving_look call (fun _ => True) looks fun world answer next _ answers =>
      ⟨same world answer next answers, trivial⟩).imp fun _ _ holds => holds.1
  have configured : Triple (site.sparing state.pid state.startTicks) looking
      (site.Serving state) loadConfig fun _ => site.Serving state :=
    (looked (.readTextFile .config) trivial fun _ _ _ answers => answers.2).bind
      fun contents => serving_done fun _ => id
  refine configured.bind fun configured => ?_
  refine (looked (.lstat _) trivial fun _ _ _ answers => answers).bind fun installed => ?_
  refine (serving_loadState faithful).bind fun loaded => ?_
  rintro world ⟨serving, rfl⟩
  refine (serving_isManagedProcessRunning faithful world serving).bind fun running later known => ?_
  obtain ⟨serving, rfl⟩ := known
  simp only [phase, if_true]
  exact serving_done (fun _ serving => ⟨serving, rfl⟩) later serving

end Serving

/-- Calls of `status` and `start` that follow each other while a process stays
alive. -/
inductive Serves (site : Site) (pid : Int) (ticks : Nat) (first : World) : World → Prop
  | refl : Serves site pid ticks first first
  | drift {world next : World} : Serves site pid ticks first world →
      (site.sparing pid ticks).drift world next → Serves site pid ticks first next
  | status {world next : World} {result : Result ProxyStatus} :
      Serves site pid ticks first world →
      Reaches (site.sparing pid ticks) (site.setup.status, world) (.done result, next) →
      Serves site pid ticks first next
  | start {world next : World} {result : Result ProxyStatus} (fuel : Nat) :
      Serves site pid ticks first world →
      Reaches (site.sparing pid ticks) (site.setup.start fuel, world) (.done result, next) →
      Serves site pid ticks first next

theorem Serves.serving (faithful : site.Faithful) {state : RuntimeState}
    (phase : state.phase = ascii "running") {first last : World}
    (serves : site.Serves state.pid state.startTicks first last)
    (serving : site.Serving state first) : site.Serving state last := by
  induction serves with
  | refl => exact serving
  | drift _ drifts ih => exact stable_serving _ _ ih drifts
  | status _ reaches ih =>
      exact (((serving_status faithful phase) _ ih).of_reaches reaches).result.1
  | start fuel _ reaches ih =>
      exact (((serving_start faithful phase fuel) _ ih).of_reaches reaches).result.1

/-- The program only looks, and what it returns is the given status. -/
def OnlyReports (site : Site) (pid : Int) (ticks : Nat) (status : ProxyStatus)
    (program : System (Result ProxyStatus)) (world : World) : Prop :=
  ∀ rest later, Reaches (site.sparing pid ticks) (program, world) (rest, later) →
    (∃ call next, rest = .call call next ∧ ReadsOnly call) ∨ rest = .done (.ok status)

theorem onlyReports_of_safe {pid : Int} {ticks : Nat} {status : ProxyStatus}
    {program : System (Result ProxyStatus)} {world : World}
    {post : Result ProxyStatus → World → Prop}
    (safe : Safe (site.sparing pid ticks) looking post program world)
    (reports : ∀ result later, post result later → result = .ok status) :
    site.OnlyReports pid ticks status program world := by
  intro rest later reaches
  have after := safe.of_reaches reaches
  cases rest with
  | done result => exact Or.inr (congrArg _ (reports result later after.result))
  | call call next => exact Or.inl ⟨call, next, rfl, after.permits⟩
  | cut => exact after.cuts.elim

/-- A failed start is followed by a status that reports that nothing runs.
After a start that succeeds, the state file can be loaded and tells what was
returned; and every later status and start returns the same, as long as the
core that the state file names stays alive, and only looks. -/
theorem on_and_status_agree (site : Site) (faithful : site.Faithful)
    {world later : World} (reachable : Reachable site Fresh Abandons world) (fuel : Nat) :
    (∀ failure, Reaches site.around (site.setup.start fuel, world) (.done (.error failure), later) →
        ∀ result last, Reaches site.atOnce (site.setup.status, later) (.done result, last) →
          ReportsIdle result) ∧
      ∀ status, Reaches site.around (site.setup.start fuel, world) (.done (.ok status), later) →
        ∃ state, Loads later.state state ∧ status = statusFromState state ∧
          (Alive state.pid state.startTicks later →
            ∀ last, site.Serves state.pid state.startTicks later last →
              site.OnlyReports state.pid state.startTicks status site.setup.status last ∧
                ∀ again, site.OnlyReports state.pid state.startTicks status
                  (site.setup.start again) last) := by
  have managed : site.Managed True world := reachable.managed faithful
  have starts := managed_start faithful fuel world managed
  refine ⟨fun failure reaches result last reported => ?_,
    fun status reaches => ?_⟩
  · have failed : site.Failed True later := (starts.of_reaches reaches).result
    exact ((quiescent_status faithful later failed.quiescent).of_reaches reported).result
  · obtain ⟨recorded, held, phase, same⟩ := (starts.of_reaches reaches).result
    refine ⟨recorded, held.loads, same, fun alive last serves => ?_⟩
    have serving := serves.serving faithful phase ⟨held, alive⟩
    refine ⟨onlyReports_of_safe (serving_status faithful phase last serving) ?_, fun again =>
      onlyReports_of_safe (serving_start faithful phase again last serving) ?_⟩
    · exact fun result later holds => same ▸ holds.2
    · exact fun result later holds => same ▸ holds.2

/-- After a start on the machine, every status and start reports its status. -/
theorem on_and_status_agree_example :
    ∃ status state, Loads (Machine.started {} {}).world.state state ∧
      Reaches (shippedSite faultless).around (shippedSetup.start 1, Machine.world {})
        (.done (.ok status), (Machine.started {} {}).world) ∧
      status = statusFromState state ∧
      ∀ last, (shippedSite faultless).Serves state.pid state.startTicks
          (Machine.started {} {}).world last →
        (shippedSite faultless).OnlyReports state.pid state.startTicks status
          shippedSetup.status last ∧
        ∀ again, (shippedSite faultless).OnlyReports state.pid state.startTicks status
          (shippedSetup.start again) last := by
  obtain ⟨ends, -, serves⟩ := Machine.started_empty
  obtain ⟨served, process, servedLoads, found, same, -, alive⟩ :=
    Machine.exists_of_coreServes serves
  obtain ⟨status, reaches⟩ := Machine.exists_reaches_ok within_faultless ends
  obtain ⟨state, loads, reported, agree⟩ := (on_and_status_agree (shippedSite faultless)
    faithful_faultless (.initial fresh_empty) 1).2 status reaches
  obtain rfl := Loads.unique servedLoads loads
  exact ⟨status, _, loads, reaches, reported, agree ⟨process, found, same, alive⟩⟩

end Site

end TunProxy
