import TunProxy.ProxyTracking

/-!
# Ending a core

The identity check finds every recorded core that is alive, so a check that
fails means that no core is.  Ending a core either leaves none alive or keeps
the situation, and it fails only on a core that outlives the kill signal for
as long as it is waited for.
-/

namespace TunProxy

open ByteText EffectProgram

namespace Site

variable {site : Site} {genuine : Prop}

/-! ## The identity check -/

theorem stripDeleted_of_plain {executable : Bytes} (plain : ¬ deletedSuffix <:+ executable) :
    stripDeleted executable = executable := by
  have unmarked : ¬ deletedSuffix.isSuffixOf executable = true := fun marked =>
    plain (List.isSuffixOf_iff_suffix.mp marked)
  rw [stripDeleted, if_neg unmarked]

theorem stripDeleted_append (executable : Bytes) :
    stripDeleted (executable ++ deletedSuffix) = executable := by
  have marked : deletedSuffix.isSuffixOf (executable ++ deletedSuffix) = true :=
    List.isSuffixOf_iff_suffix.mpr ⟨executable, rfl⟩
  rw [stripDeleted, if_pos marked, List.length_append, Nat.add_sub_cancel, List.take_left]

/-- The cores that are alive are all the one that a state records. -/
def OnlyHeld (site : Site) (state : RuntimeState) (world : World) : Prop :=
  ∀ pid process, world.processes pid = some process → process.core = true →
    process.alive = true → site.HeldBy state pid process

/-- If a core is alive, `fact` holds. -/
def WhileAlive (fact : Prop) (world : World) : Prop :=
  ∀ pid process, world.processes pid = some process → process.core = true →
    process.alive = true → fact

theorem stable_whileAlive (fact : Prop) : Stable site.around (WhileAlive fact) := by
  refine stable_of_tame fun world next holds tame => ?_
  intro pid later found core alive
  rcases tame.processes pid later found with ⟨process, present, becomes⟩ | ⟨-, -, -, foreign⟩
  · exact holds pid process present (becomes.core.symm.trans core) (becomes.alive alive)
  · rw [core] at foreign
    cases foreign

theorem noCore_of_whileAlive {fact : Prop} {world : World} (holds : WhileAlive fact world)
    (wrong : ¬ fact) : NoCore world := by
  intro pid process found core
  cases alive : process.alive with
  | false => rfl
  | true => exact absurd (holds pid process found core alive) wrong

/-- The probe of the check is answered by every process. -/
theorem keeps_probe {assertion : World → Prop} {state : RuntimeState}
    (steady : Steady site genuine assertion)
    (only : ∀ world, assertion world → site.OnlyHeld state world) :
    site.Keeps genuine assertion (kill state.pid .null) fun
      | .noProcess => fun world => assertion world ∧ NoCore world
      | .failed => fun _ => False
      | _ => assertion := by
  refine keeps_call trivial steady ?_ fun world answer next holds answers => ?_
  · intro answer
    cases answer with
    | noProcess => exact steady.and stable_noCore
    | failed => exact steady_false
    | delivered => exact steady
    | notPermitted => exact steady
  have cases' : (answer = .noProcess ∧ world.processes state.pid = none ∨ answer = .delivered) ∧
      next = world := by
    simp only [Answers, AnswersKill] at answers
    cases found : world.processes state.pid with
    | none =>
        simp only [found] at answers
        exact ⟨Or.inl ⟨answers.1, rfl⟩, answers.2⟩
    | some process =>
        simp only [found] at answers
        rcases answers with ⟨rfl, ⟨rfl, -⟩ | ⟨impossible, -⟩⟩ | ⟨-, impossible, -, -⟩
        · exact ⟨Or.inr rfl, rfl⟩
        · cases impossible
        · exact absurd rfl impossible
  obtain ⟨⟨rfl, absent⟩ | rfl, rfl⟩ := cases'
  · refine ⟨holds, fun pid process found core => ?_⟩
    cases alive : process.alive with
    | false => rfl
    | true =>
        have held := only next holds pid process found core alive
        rw [held.pid, absent] at found
        cases found
  · exact holds

section Read

variable {state : RuntimeState} {process : Process} {world next : World}

/-- The start time of the recorded core is read as recorded. -/
theorem HeldBy.reads_ticks (faithful : site.Faithful)
    (held : site.HeldBy state state.pid process) (found : world.processes state.pid = some process)
    {content : Result Bytes}
    (answers : site.Answers world (.readTextFile (.processStat state.pid)) content next) :
    parseStartTicks content = .ok state.startTicks := by
  have bounds := held.bounds
  have legible := held.legible
  rw [← held.ticks] at bounds legible ⊢
  exact parseStartTicks_read faithful found legible bounds.1 bounds.2 answers.1

/-- The link of the recorded core leads to the installed core. -/
theorem HeldBy.reads_link (faithful : site.Faithful)
    (held : site.HeldBy state state.pid process) (found : world.processes state.pid = some process)
    (alive : process.alive = true) {executable : Bytes}
    (answers : site.Answers world (.readExecutableLink state.pid) executable next) :
    stripDeleted executable = site.coreExecutable := by
  obtain ⟨answers, -⟩ := answers
  simp only [AnswersLink, faithful.processes, Bool.false_eq_true, false_and, false_or, found, alive,
    if_true] at answers
  rcases answers held.executed with rfl | rfl
  · rw [held.executable]
    exact stripDeleted_of_plain site.plainCore
  · rw [stripDeleted_append, held.executable]

/-- The recorded path is resolved to the installed core. -/
theorem HeldBy.reads_path (faithful : site.Faithful)
    (held : site.HeldBy state state.pid process) {expected : Option Bytes}
    (answers : site.Answers world (.weaklyCanonical state.executable) expected next) :
    expected = some site.coreExecutable := by
  obtain ⟨rfl | ⟨impossible, -⟩, -⟩ := answers
  · exact congrArg some held.recorded
  · rw [faithful.processes] at impossible
    cases impossible

end Read

section Recorded

variable {assertion : World → Prop} {state : RuntimeState}

/-- A call that only looks tells a fact of the recorded core, if it is alive. -/
theorem keeps_recorded (call : SystemCall) (fact : SystemAnswer call → Prop)
    (inWindow : InWindow call) (steady : Steady site genuine assertion)
    (only : ∀ world, assertion world → site.OnlyHeld state world)
    (looks : ∀ world answer next, site.Answers world call answer next → next = world)
    (told : ∀ world process answer next, site.HeldBy state state.pid process →
      world.processes state.pid = some process → process.alive = true →
        site.Answers world call answer next → fact answer) :
    site.Keeps genuine assertion (.call call .done) fun answer world =>
      assertion world ∧ WhileAlive (fact answer) world := by
  refine keeps_call inWindow steady (fun _ => steady.and (stable_whileAlive _))
    fun world answer next holds answers => ?_
  obtain rfl : next = world := looks world answer next answers
  refine ⟨holds, fun pid process found core alive => ?_⟩
  have held := only next holds pid process found core alive
  obtain rfl := held.pid
  exact told next process answer next held found alive answers

/-- The start time of a recorded core that is alive is the recorded one. -/
theorem keeps_recordedTicks (faithful : site.Faithful)
    (steady : Steady site genuine assertion)
    (only : ∀ world, assertion world → site.OnlyHeld state world) :
    site.Keeps genuine assertion (processStartTicks state.pid) fun ticks world =>
      assertion world ∧ WhileAlive (ticks.toOption = some state.startTicks) world := by
  have read : site.Keeps genuine assertion (readTextFile (.processStat state.pid))
      fun content world => assertion world ∧
        WhileAlive (parseStartTicks content = .ok state.startTicks) world := by
    apply keeps_recorded (.readTextFile (.processStat state.pid))
      (fun content => parseStartTicks content = .ok state.startTicks) trivial steady only
    · exact fun _ _ _ answers => answers.2
    · exact fun _ _ _ _ held found _ answers => held.reads_ticks faithful found answers
  refine read.bind fun content => ?_
  refine keeps_done (steady.and (stable_whileAlive _)) fun world holds =>
    ⟨holds.1, fun pid process found core alive => ?_⟩
  rw [holds.2 pid process found core alive]
  rfl

/-- The executable of a recorded core that is alive is the installed core. -/
theorem keeps_recordedLink (faithful : site.Faithful)
    (steady : Steady site genuine assertion)
    (only : ∀ world, assertion world → site.OnlyHeld state world) :
    site.Keeps genuine assertion (readExecutableLink state.pid) fun executable world =>
      assertion world ∧ WhileAlive (stripDeleted executable = site.coreExecutable) world := by
  apply keeps_recorded (.readExecutableLink state.pid)
    (fun executable => stripDeleted executable = site.coreExecutable) trivial steady only
  · exact fun _ _ _ answers => answers.2
  · exact fun _ _ _ _ held found alive answers => held.reads_link faithful found alive answers

theorem keeps_recordedPath (faithful : site.Faithful)
    (steady : Steady site genuine assertion)
    (only : ∀ world, assertion world → site.OnlyHeld state world) :
    site.Keeps genuine assertion (weaklyCanonical state.executable) fun expected world =>
      assertion world ∧ WhileAlive (expected = some site.coreExecutable) world := by
  apply keeps_recorded (.weaklyCanonical state.executable)
    (fun expected => expected = some site.coreExecutable) trivial steady only
  · exact fun _ _ _ answers => answers.2
  · exact fun _ _ _ _ held _ _ answers => held.reads_path faithful answers

end Recorded

/-- Where only the recorded core may be alive, a process with another identity
means that no core is alive. -/
theorem keeps_hasRecordedIdentity (faithful : site.Faithful)
    {assertion : World → Prop} {state : RuntimeState} (steady : Steady site genuine assertion)
    (only : ∀ world, assertion world → site.OnlyHeld state world) :
    site.Keeps genuine assertion (hasRecordedIdentity state) fun
      | .ok true => assertion
      | .ok false => fun world => assertion world ∧ NoCore world
      | .error _ => fun _ => False := by
  refine (keeps_recordedTicks faithful steady only).bind fun ticks => ?_
  split
  · next other =>
    exact keeps_done (steady.and (stable_whileAlive _)) fun world holds =>
      ⟨holds.1, noCore_of_whileAlive holds.2 other⟩
  refine Triple.weaken ?_ fun world holds => holds.1
  refine (keeps_recordedLink faithful steady only).bind fun executable => ?_
  have steady' := steady.and (stable_whileAlive (stripDeleted executable = site.coreExecutable))
  refine (keeps_recordedPath faithful steady' fun world holds => only world holds.1).bind
    fun expected => ?_
  split
  · next other =>
    refine keeps_done (steady'.and (stable_whileAlive _)) fun world holds => ?_
    have agree : WhileAlive (expected = some (stripDeleted executable)) world := by
      intro pid process present core alive
      rw [holds.2 pid process present core alive, holds.1.2 pid process present core alive]
    exact ⟨holds.1.1, noCore_of_whileAlive agree other⟩
  · exact keeps_done (steady'.and (stable_whileAlive _)) fun world holds => holds.1.1

/-- Where only the recorded core may be alive, a check that does not find it
means that no core is alive. -/
theorem keeps_isManagedProcessRunning (faithful : site.Faithful)
    {assertion : World → Prop} {state : RuntimeState} (steady : Steady site genuine assertion)
    (only : ∀ world, assertion world → site.OnlyHeld state world) :
    site.Keeps genuine assertion (isManagedProcessRunning state) fun
      | .ok true => assertion
      | .ok false => fun world => assertion world ∧ NoCore world
      | .error _ => fun _ => False := by
  refine (keeps_probe steady only).bind fun probe => ?_
  cases probe with
  | noProcess => exact keeps_done (steady.and stable_noCore) fun _ => id
  | failed => exact keeps_done steady_false fun _ impossible => impossible.elim
  | delivered => exact keeps_hasRecordedIdentity faithful steady only
  | notPermitted => exact keeps_hasRecordedIdentity faithful steady only

/-! ## Signals and waiting -/

/-- No core that the situation allows can outlive the kill signal for long. -/
def Situation.Mortal (situation : Situation site) : Prop :=
  ∀ hard pid process, situation.cores pid process → site.faults.stubborn hard = true →
    ¬ (hard = true ↔ situation.pending pid process.ticks)

/-- The cores that are alive end within so many polling intervals. -/
def Dying (attempts : Nat) (world : World) : Prop :=
  ∀ pid process, world.processes pid = some process → process.core = true →
    process.alive = true → ∃ left, process.doomed = some left ∧ left + 2 ≤ attempts

theorem stable_dying (attempts : Nat) : Stable site.around (Dying attempts) := by
  intro world next dying drifts pid later found core alive
  rcases drifts.tame.processes pid later found with ⟨process, present, becomes⟩ | ⟨-, -, -, foreign⟩
  · rw [drifts.doomed pid process later present found becomes]
    exact dying pid process present (becomes.core.symm.trans core) (becomes.alive alive)
  · rw [core] at foreign
    cases foreign

theorem dying_of_noCore {world : World} (none : NoCore world) (attempts : Nat) :
    Dying attempts world := by
  intro pid process found core alive
  rw [none pid process found core] at alive
  cases alive

theorem noCore_of_dying_zero {world : World} (dying : Dying 0 world) : NoCore world := by
  intro pid process found core
  cases alive : process.alive with
  | false => rfl
  | true =>
      obtain ⟨left, -, small⟩ := dying pid process found core alive
      omega

/-- A polling interval brings the cores closer to their end. -/
theorem Dying.tick {attempts : Nat} {world : World} (dying : Dying (attempts + 1) world) :
    Dying attempts world.tick := by
  intro pid later found core alive
  obtain ⟨process, present, rfl⟩ := Option.map_eq_some_iff.mp found
  have becomes := becomes_tick process
  obtain ⟨left, doomed, small⟩ :=
    dying pid process present (becomes.core.symm.trans core) (becomes.alive alive)
  cases left with
  | zero =>
      simp only [Process.tick, doomed] at alive
      cases alive
  | succ left =>
      refine ⟨left, ?_, by omega⟩
      simp only [Process.tick, doomed]

theorem noCore_of_reaped {world : World} {state : RuntimeState} (only : site.OnlyHeld state world) :
    NoCore (world.setProcess state.pid none) := by
  intro pid process found core
  cases alive : process.alive with
  | false => rfl
  | true =>
      simp only [World.setProcess] at found
      split at found
      · cases found
      · next other => exact absurd (only pid process found core alive).pid other

/-- What waiting without blocking for the recorded process tells. -/
theorem keeps_poll {assertion : World → Prop} {state : RuntimeState}
    (steady : Steady site genuine assertion)
    (only : ∀ world, assertion world → site.OnlyHeld state world)
    (reaped : ∀ world process, assertion world → world.processes state.pid = some process →
      assertion (world.setProcess state.pid none)) :
    site.Keeps genuine assertion (waitpid state.pid .noHang) fun
      | .reaped _ => fun world => assertion world ∧ NoCore world
      | _ => assertion := by
  refine keeps_call trivial steady ?_ fun world answer next holds answers => ?_
  · intro answer
    cases answer with
    | reaped status => exact steady.and stable_noCore
    | _ => exact steady
  cases answer with
  | reaped status =>
      obtain ⟨⟨process, present, -, -⟩, rfl⟩ := answers
      exact ⟨reaped world process holds present, noCore_of_reaped (only world holds)⟩
  | noChild => exact answers.2 ▸ holds
  | running => exact answers.2 ▸ holds
  | interrupted => exact answers.2 ▸ holds
  | failed => exact answers.2 ▸ holds

/-- One look at whether the process has gone. -/
theorem keeps_stillManaged (faithful : site.Faithful) {before : World → Prop}
    {state : RuntimeState} {rest : System (Option (Result Unit))}
    {post : Option (Result Unit) → World → Prop} (steady : Steady site genuine before)
    (only : ∀ world, before world → site.OnlyHeld state world)
    (gone : ∀ world, before world ∧ NoCore world → post (some (.ok ())) world)
    (onward : site.Keeps genuine before ((sleepFor kPollInterval).bind fun _ => rest) post) :
    site.Keeps genuine before ((isManagedProcessRunning state).bind fun managed =>
      match managed with
      | .error failure => .done (some (.error failure))
      | .ok false => .done (some (.ok ()))
      | .ok true => (sleepFor kPollInterval).bind fun _ => rest) post := by
  refine (keeps_isManagedProcessRunning faithful steady only).bind fun managed => ?_
  rcases managed with failure | managed
  · exact keeps_done steady_false fun _ => False.elim
  cases managed with
  | false => exact keeps_done (steady.and stable_noCore) gone
  | true => exact onward

/-- The polling loop keeps a family of assertions, one for every number of
attempts left. -/
theorem keeps_awaitExit (faithful : site.Faithful) {assertion : Nat → World → Prop}
    {state : RuntimeState} (steady : ∀ attempts, Steady site genuine (assertion attempts))
    (only : ∀ attempts world, assertion attempts world → site.OnlyHeld state world)
    (reaped : ∀ attempts world process, assertion attempts world →
      world.processes state.pid = some process →
        assertion attempts (world.setProcess state.pid none))
    (slept : ∀ attempts world, assertion (attempts + 1) world → assertion attempts world.tick)
    (attempts : Nat) :
    site.Keeps genuine (assertion attempts) (awaitExit state attempts) fun
      | none => assertion 0
      | some (.ok ()) => fun world => ∃ attempts, assertion attempts world ∧ NoCore world
      | some (.error _) => fun _ => False := by
  induction attempts with
  | zero => exact keeps_done (steady 0) fun _ => id
  | succ attempts ih =>
      have ended : ∀ world, assertion (attempts + 1) world ∧ NoCore world →
          ∃ attempts, assertion attempts world ∧ NoCore world := fun world holds =>
        ⟨attempts + 1, holds⟩
      have sleep : site.Keeps genuine (assertion (attempts + 1)) (sleepFor kPollInterval)
          fun _ => assertion attempts :=
        keeps_call trivial (steady _) (fun _ => steady _)
          fun world answer next holds answers => by
            obtain rfl : next = world.tick := answers
            exact slept attempts world holds
      have checked := keeps_stillManaged faithful (steady _) (only _) ended (sleep.bind fun _ => ih)
      refine (keeps_poll (steady _) (only _) (reaped _)).bind fun waited => ?_
      cases waited with
      | reaped status => exact keeps_done ((steady _).and stable_noCore) ended
      | running => exact checked
      | interrupted => exact checked
      | noChild => exact checked
      | failed => exact checked

/-! ## `terminateCore` -/

section Terminate

variable {situation : Situation site} {state : RuntimeState}

theorem Situation.Holds.onlyHeld {world : World} (holds : situation.Holds genuine world)
    (known : ∀ pid process, situation.cores pid process → site.HeldBy state pid process) :
    site.OnlyHeld state world :=
  fun pid process found core alive =>
    known pid process (holds.cores pid process found core alive)

theorem Situation.Holds.reaped {world : World} {pid : Int} {process : Process}
    (holds : situation.Holds genuine world) (present : world.processes pid = some process) :
    situation.Holds genuine (world.setProcess pid none) :=
  holds.tame (tame_setProcess present fun found same => by cases same)

/-- A core that the situation allows does not resist where all are mortal. -/
theorem Situation.Holds.not_resists {world : World} {pid : Int} {process : Process}
    (holds : situation.Holds genuine world) (mortal : situation.Mortal)
    (found : world.processes pid = some process) (core : process.core = true)
    (alive : process.alive = true) : ¬ site.Resists world pid process := by
  rintro ⟨hard, stubborn, isPending⟩
  rw [holds.pending] at isPending
  exact mortal hard pid process (holds.cores pid process found core alive) stubborn isPending

theorem Situation.Holds.noCore_of_resists {world : World} {process : Process}
    (holds : situation.Holds genuine world)
    (known : ∀ pid process, situation.cores pid process → site.HeldBy state pid process)
    (mortal : situation.Mortal) (present : world.processes state.pid = some process)
    (resists : process.alive = true → site.Resists world state.pid process) : NoCore world := by
  intro pid other found core
  cases alive : other.alive with
  | false => rfl
  | true =>
      have held := known pid other (holds.cores pid other found core alive)
      rw [held.pid] at found
      obtain rfl := Option.some.inj (found.symm.trans present)
      exact absurd (resists alive) (holds.not_resists mortal found core alive)

/-- The polling loop after a request to stop. -/
theorem keeps_awaitExit_requested (faithful : site.Faithful)
    (known : ∀ pid process, situation.cores pid process → site.HeldBy state pid process)
    (attempts : Nat) :
    site.Keeps genuine (situation.Holds genuine) (awaitExit state attempts) fun
      | none => situation.Holds genuine
      | some (.ok ()) => fun world => situation.Holds genuine world ∧ NoCore world
      | some (.error _) => fun _ => False := by
  refine (keeps_awaitExit faithful (fun _ => steady_holds situation)
    (fun _ _ holds => holds.onlyHeld known)
    (fun _ _ _ holds present => holds.reaped present)
    (fun _ world holds => holds.tame (tame_tick world)) attempts).imp fun result world holds => ?_
  rcases result with _ | failure | _
  · exact holds
  · exact holds
  · exact holds.choose_spec

/-- The polling loop after the kill signal. -/
theorem keeps_awaitExit_killed (faithful : site.Faithful)
    (known : ∀ pid process, situation.cores pid process → site.HeldBy state pid process)
    (attempts : Nat) :
    site.Keeps genuine
      (fun world => situation.Holds genuine world ∧ (situation.Mortal → Dying attempts world))
      (awaitExit state attempts) fun
      | none => fun world => situation.Holds genuine world ∧ (situation.Mortal → NoCore world)
      | some (.ok ()) => fun world => situation.Holds genuine world ∧ NoCore world
      | some (.error _) => fun _ => False := by
  have steady : ∀ attempts, Steady site genuine fun world =>
      situation.Holds genuine world ∧ (situation.Mortal → Dying attempts world) := fun attempts =>
    (steady_holds _).and fun world next dying drifts mortal =>
      stable_dying attempts world next (dying mortal) drifts
  refine (keeps_awaitExit faithful steady (fun _ _ holds => holds.1.onlyHeld known) ?_ ?_
    attempts).imp fun result world holds => ?_
  · intro attempts world process holds present
    exact ⟨holds.1.reaped present, fun _ => dying_of_noCore
      (noCore_of_reaped (holds.1.onlyHeld known)) attempts⟩
  · intro attempts world holds
    exact ⟨holds.1.tame (tame_tick world), fun mortal => (holds.2 mortal).tick⟩
  · rcases result with _ | failure | _
    · exact ⟨holds.1, fun mortal => noCore_of_dying_zero (holds.2 mortal)⟩
    · exact holds
    · obtain ⟨_, holds, none⟩ := holds
      exact ⟨holds.1, none⟩

/-- The kill signal reaches every mortal core. -/
theorem keeps_kill
    (known : ∀ pid process, situation.cores pid process → site.HeldBy state pid process) :
    site.Keeps genuine (situation.Holds genuine) (kill state.pid .kill) fun killed world =>
      situation.Holds genuine world ∧
        (situation.Mortal → if killed.sent then Dying 20 world else NoCore world) := by
  refine keeps_call trivial (steady_holds _) ?_ fun world answer next holds answers => ?_
  · intro answer
    refine (steady_holds _).and fun world next before drifts mortal => ?_
    have before := before mortal
    split at before
    · next sent =>
      rw [if_pos sent]
      exact stable_dying 20 world next before drifts
    · next sent =>
      rw [if_neg sent]
      exact stable_noCore world next before drifts
  refine ⟨holds.tame (tame_of_answersKill answers), fun mortal => ?_⟩
  simp only [Answers, AnswersKill] at answers
  cases present : world.processes state.pid with
  | none =>
      simp only [present] at answers
      obtain ⟨rfl, rfl⟩ := answers
      refine dying_of_noCore (fun pid process found core => ?_) 20
      cases alive : process.alive with
      | false => rfl
      | true =>
          have held := known pid process (holds.cores pid process found core alive)
          rw [held.pid, present] at found
          cases found
  | some process =>
      simp only [present] at answers
      rcases answers with ⟨rfl, ⟨rfl, resists⟩ | ⟨-, left, small, rfl⟩⟩ | ⟨unsent, -, rfl, resists⟩
      · exact dying_of_noCore
          (holds.noCore_of_resists known mortal present fun alive => resists trivial alive) 20
      · intro pid later found core alive
        simp only [World.setProcess] at found
        split at found
        · obtain rfl := Option.some.inj found
          exact ⟨left, rfl, by omega⟩
        · next other =>
          have held := known pid later (holds.cores pid later found core alive)
          exact absurd held.pid other
      · have none := holds.noCore_of_resists known mortal present fun _ => resists
        rcases unsent with rfl | rfl
        · exact none
        · exact none

theorem keeps_forceStop (faithful : site.Faithful)
    (known : ∀ pid process, situation.cores pid process → site.HeldBy state pid process) :
    site.Keeps genuine (situation.Holds genuine) (forceStop state) fun
      | .ok () => fun world => situation.Holds genuine world ∧ NoCore world
      | .error _ => fun world => situation.Holds genuine world ∧
          (situation.Mortal → NoCore world) := by
  refine (keeps_isManagedProcessRunning faithful (steady_holds situation)
    fun world holds => holds.onlyHeld known).bind fun managed => ?_
  rcases managed with failure | managed
  · exact keeps_done steady_false fun _ impossible => impossible.elim
  cases managed with
  | false => exact keeps_done ((steady_holds _).and stable_noCore) fun _ => id
  | true =>
      have logged (message : Bytes) : site.Keeps genuine (situation.Holds genuine)
          (emitLog .warning message) fun _ => situation.Holds genuine :=
        keeps_inWindow (lasting_holds situation) ⟨⟨trivial, trivial⟩, fun _ => trivial⟩
      refine (logged _).bind fun _ => ?_
      refine (keeps_kill known).bind fun killed => ?_
      cases sent : killed.sent with
      | false =>
          refine keeps_done ((steady_holds _).and ?_) fun world holds => ?_
          · simp only [Bool.false_eq_true, if_false]
            exact stable_noCore.imp _
          · simpa only [sent, Bool.false_eq_true, if_false] using holds
      | true =>
          simp only [if_true, Bool.not_true, Bool.false_eq_true, if_false]
          refine (keeps_awaitExit_killed faithful known 20).bind fun result => ?_
          rcases result with _ | failure | _
          · exact keeps_done ((steady_holds _).and (stable_noCore.imp _)) fun _ => id
          · exact keeps_done steady_false fun _ impossible => impossible.elim
          · exact keeps_done ((steady_holds _).and stable_noCore) fun _ => id

/-- The request to stop fails only on a core that resists. -/
theorem keeps_term
    (known : ∀ pid process, situation.cores pid process → site.HeldBy state pid process) :
    site.Keeps genuine (situation.Holds genuine) (kill state.pid .term) fun signalled world =>
      situation.Holds genuine world ∧
        (signalled.sent = false → situation.Mortal → NoCore world) := by
  refine keeps_call trivial (steady_holds _) ?_ fun world answer next holds answers => ?_
  · exact fun answer => (steady_holds _).and ((stable_noCore.imp _).imp _)
  refine ⟨holds.tame (tame_of_answersKill answers), fun unsent mortal => ?_⟩
  simp only [Answers, AnswersKill] at answers
  cases present : world.processes state.pid with
  | none =>
      simp only [present] at answers
      obtain ⟨rfl, -⟩ := answers
      cases unsent
  | some process =>
      simp only [present] at answers
      rcases answers with ⟨rfl, -⟩ | ⟨-, -, rfl, resists⟩
      · cases unsent
      · exact holds.noCore_of_resists known mortal present fun _ => resists

/-- Ending the core that a situation allows: success means that no core is
alive, and a failure leaves a core alive only if it is not mortal. -/
theorem keeps_terminateCore (faithful : site.Faithful)
    (known : ∀ pid process, situation.cores pid process → site.HeldBy state pid process) :
    site.Keeps genuine (situation.Holds genuine) (terminateCore state) fun
      | .ok () => (idle site situation.content situation.pending).Holds genuine
      | .error _ => fun world => situation.Holds genuine world ∧
          (situation.Mortal → NoCore world) := by
  have ended : ∀ world, situation.Holds genuine world ∧ NoCore world →
      (idle site situation.content situation.pending).Holds genuine world :=
    fun world holds => holds.1.idle holds.2
  unfold terminateCore
  split
  · next negative =>
    refine keeps_done (steady_holds _) fun world holds => ended world ⟨holds, ?_⟩
    intro pid process found core
    cases alive : process.alive with
    | false => rfl
    | true =>
        have held := known pid process (holds.cores pid process found core alive)
        have := held.positive
        omega
  refine (keeps_isManagedProcessRunning faithful (steady_holds situation)
    fun world holds => holds.onlyHeld known).bind fun managed => ?_
  rcases managed with failure | managed
  · exact keeps_done steady_false fun _ impossible => impossible.elim
  cases managed with
  | false => exact keeps_done ((steady_holds _).and stable_noCore) ended
  | true =>
      refine (keeps_term known).bind fun signalled => ?_
      cases sent : signalled.sent with
      | false =>
          exact keeps_done ((steady_holds _).and ((stable_noCore.imp _).imp _)) fun world holds =>
            ⟨holds.1, holds.2 rfl⟩
      | true =>
          refine Triple.weaken ?_ fun world holds => holds.1
          refine (keeps_awaitExit_requested faithful known _).bind fun result => ?_
          rcases result with _ | failure | _
          · refine (keeps_forceStop faithful known).imp fun result world holds => ?_
            rcases result with failure | _
            · exact holds
            · exact ended world holds
          · exact keeps_done steady_false fun _ impossible => impossible.elim
          · exact keeps_done ((steady_holds _).and stable_noCore) ended

end Terminate

end Site

end TunProxy
