import TunProxy.EffectProgramRuns
import TunProxy.OutputCapture

/-!
# Whether a capture comes to an end

The deadline of a capture is looked at between two readings of the pipes, and a
reading goes on until the pipe is empty.  As the clock advances, a capture comes
to an end exactly if each of its readings does.  A child that fills a pipe as
fast as it is read is captured for ever.
-/

namespace TunProxy

open ByteText EffectProgram Relation

namespace OutputCapture

variable {σ : Type}

/-! ## The child and the clock -/

/-- After finitely many reads in a row nothing is read. -/
inductive Drains (environment : Environment PipeAnswer σ) (stream : ProcessStream) : σ → Prop
  | empty {state : σ} (nothing : (environment state (.read stream)).1 = .nothing) :
      Drains environment stream state
  | chunk {state : σ} {first : UInt8} {more : Bytes}
      (some : (environment state (.read stream)).1 = .chunk first more)
      (further : Drains environment stream (environment state (.read stream)).2) :
      Drains environment stream state

/-- One state follows another by a call. -/
def Follows (environment : Environment PipeAnswer σ) (state next : σ) : Prop :=
  ∃ operation, next = (environment state operation).2

/-- A clock that never goes back, and that no infinite series of calls leaves below
a bound. -/
structure Advances (environment : Environment PipeAnswer σ) (clock : σ → Nat) : Prop where
  reads : ∀ state, (environment state (.other (.system .steadyClock))).1 = clock state
  monotone : ∀ state next, Follows environment state next → clock state ≤ clock next
  unbounded : ∀ bound, WellFounded fun next state =>
    Follows environment state next ∧ clock next < bound

/-- Every call is answered by its own run, a reading by a loop of reads. -/
def settled (environment : Environment PipeAnswer σ) : Surroundings CaptureAnswer σ where
  answers state operation answer next :=
    ∃ fuel, run environment (pipeCalls fuel operation) state = some (answer, next)
  drift _ _ := False

theorem still_settled (environment : Environment PipeAnswer σ) : Still (settled environment) :=
  fun _ _ => not_false

section Environment

variable {environment : Environment PipeAnswer σ} {state next : σ}

theorem run_iterate_readStep {stream : ProcessStream} (fuel : Nat) (received : Bytes) :
    run environment (iterate (readStep stream) (fuel + 1) received) state =
      match (environment state (.read stream)).1 with
      | .chunk first more => run environment (iterate (readStep stream) fuel
          (received ++ first :: more)) (environment state (.read stream)).2
      | .nothing => some (received, (environment state (.read stream)).2) := by
  simp only [iterate, readStep, call_bind, run]
  cases (environment state (.read stream)).1 with
  | chunk first more => rfl
  | nothing => rfl

theorem Drains.reading {stream : ProcessStream} (drains : Drains environment stream state)
    (received : Bytes) : ∃ fuel chunk last,
      run environment (iterate (readStep stream) fuel received) state = some (chunk, last) := by
  induction drains generalizing received with
  | empty nothing => exact ⟨1, _, _, by rw [run_iterate_readStep, nothing]⟩
  | @chunk state first more some further ih =>
      obtain ⟨fuel, chunk, last, ran⟩ := ih (received ++ first :: more)
      exact ⟨fuel + 1, chunk, last, by rw [run_iterate_readStep, some]; exact ran⟩

theorem drains_of_reading {stream : ProcessStream} {fuel : Nat} {received chunk : Bytes} {last : σ}
    (ran : run environment (iterate (readStep stream) fuel received) state = some (chunk, last)) :
    Drains environment stream state := by
  induction fuel generalizing received state with
  | zero => cases ran
  | succ fuel ih =>
      rw [run_iterate_readStep] at ran
      cases answer : (environment state (.read stream)).1 with
      | nothing => exact .empty answer
      | chunk first more =>
          rw [answer] at ran
          exact .chunk answer (ih ran)

/-- A reading has an answer exactly if the pipe gets empty. -/
theorem drains_iff {stream : ProcessStream} : Drains environment stream state ↔
    ∃ answer next, (settled environment).answers state (.system (.readAvailable stream)) answer
      next := by
  constructor
  · intro drains
    obtain ⟨fuel, chunk, last, ran⟩ := drains.reading []
    exact ⟨chunk, last, fuel, ran⟩
  · rintro ⟨chunk, last, fuel, ran⟩
    exact drains_of_reading ran

theorem shortens_pipeCalls {fuel fuel' : Nat} (more : fuel ≤ fuel') (operation : CaptureCall) :
    Shortens (pipeCalls fuel operation) (pipeCalls fuel' operation) := by
  unfold pipeCalls
  split
  · exact shortens_iterate _ more []
  · exact Shortens.refl _

/-- A call has one answer. -/
theorem settled_unique {operation : CaptureCall} {answer answer' : CaptureAnswer operation}
    {next' : σ} (first : (settled environment).answers state operation answer next)
    (second : (settled environment).answers state operation answer' next') :
    answer' = answer ∧ next' = next := by
  obtain ⟨fuel, ran⟩ := first
  obtain ⟨fuel', ran'⟩ := second
  have more := (shortens_pipeCalls (Nat.le_max_left fuel fuel') operation).run_eq ran
  have more' := (shortens_pipeCalls (Nat.le_max_right fuel fuel') operation).run_eq ran'
  have same := Option.some.inj (more'.symm.trans more)
  exact ⟨congrArg Prod.fst same, congrArg Prod.snd same⟩

/-! ## Runs of a capture -/

/-- A call is answered some time. -/
def Answered (environment : Environment PipeAnswer σ) (state : σ) (operation : CaptureCall) :
    Prop :=
  ∃ answer next, (settled environment).answers state operation answer next

/-- All calls of a program are answered. -/
def AllAnswered {α : Type} (environment : Environment PipeAnswer σ) (program : CaptureProgram α)
    (state : σ) : Prop :=
  Safe (settled environment) (calling (Answered environment)) (fun _ _ => True) program state

/-- All calls of a run that has come to an end have been answered. -/
theorem allAnswered_of_run {α : Type} {program : CaptureProgram α} {fuel : Nat} {ended : α × σ}
    (ran : run environment (program.expand (pipeCalls fuel)) state = some ended) :
    AllAnswered environment program state := by
  induction program generalizing state with
  | done value => exact (still_settled environment).safe_done trivial trivial
  | cut => cases ran
  | call operation rest ih =>
      rw [expand, run_bind] at ran
      obtain ⟨⟨answer, next⟩, first, second⟩ := Option.bind_eq_some_iff.mp ran
      refine (still_settled environment).safe_call trivial ⟨answer, next, fuel, first⟩ ?_
      intro answer' next' answers
      obtain ⟨rfl, rfl⟩ := settled_unique ⟨fuel, first⟩ answers
      exact ih answer' second

/-- A result that is reached over whole readings is that of a run with enough fuel. -/
theorem run_of_reaches {α : Type} {program : CaptureProgram α} {value : α} {last : σ}
    (reaches : Reaches (settled environment) (program, state) (.done value, last)) :
    ∃ fuel, run environment (program.expand (pipeCalls fuel)) state = some (value, last) := by
  induction program generalizing state with
  | done found =>
      rcases (still_settled environment).reaches_cases reaches with same | ⟨_, _, _, _, other, _⟩
      · cases same
        exact ⟨0, rfl⟩
      · cases other
  | cut =>
      rcases (still_settled environment).reaches_cases reaches with same | ⟨_, _, _, _, other, _⟩
      · cases same
      · cases other
  | call operation rest ih =>
      rcases (still_settled environment).reaches_cases reaches with
        same | ⟨_, _, answer, next, same, ⟨fuel, ran⟩, more⟩
      · cases same
      · cases same
        obtain ⟨fuel', ran'⟩ := ih answer more
        refine ⟨max fuel fuel', ?_⟩
        rw [expand, run_bind,
          (shortens_pipeCalls (Nat.le_max_left fuel fuel') operation).run_eq ran]
        exact (Shortens.expand (Shortens.refl _)
          (shortens_pipeCalls (Nat.le_max_right fuel fuel'))).run_eq ran'

theorem follows_of_run {α : Type} {program : PipeProgram α} {value : α} {last : σ}
    (ran : run environment program state = some (value, last)) :
    ReflTransGen (Follows environment) state last := by
  induction program generalizing state with
  | done found =>
      cases ran
      exact .refl
  | call operation rest ih => exact ReflTransGen.head ⟨operation, rfl⟩ (ih _ ran)
  | cut => cases ran

theorem follows_of_reaches {α : Type} {first last : CaptureProgram α × σ}
    (reaches : Reaches (settled environment) first last) :
    ReflTransGen (Follows environment) first.2 last.2 := by
  induction reaches with
  | refl => exact .refl
  | tail _ moves ih =>
      cases moves with
      | drift drift => exact drift.elim
      | answer answers =>
          obtain ⟨fuel, ran⟩ := answers
          exact ih.trans (follows_of_run ran)

/-- Going on with calls below a bound is well-founded. -/
theorem Advances.below {clock : σ → Nat} (advances : Advances environment clock) {bound : Nat}
    (follows : TransGen (Follows environment) state next) (below : clock next < bound) :
    TransGen (fun next state => Follows environment state next ∧ clock next < bound) next
      state := by
  induction follows with
  | single one => exact .single ⟨one, below⟩
  | tail _ one ih =>
      have earlier := advances.monotone _ _ one
      exact TransGen.head ⟨one, below⟩ (ih (by omega))

/-! ## The loop -/

theorem uncut_system {α : Type} {program : System α} (uncut : program.Uncut) :
    (system program).Uncut := by
  refine Uncut.expand ?_ uncut
  exact fun _ _ => trivial

theorem uncut_report (callback : Bool) (stream : ProcessStream) (chunk : Bytes) :
    (report callback stream chunk).Uncut := by
  unfold report
  split
  · exact fun _ => trivial
  · trivial

theorem uncut_readOutput (callback : Bool) (output : ProcessOutput) :
    (readOutput callback output).Uncut := by
  intro stdoutChunk stderrChunk
  exact (uncut_report _ _ _).bind fun _ => (uncut_report _ _ _).bind fun _ => trivial

theorem uncut_captureStep (callback : Bool) (child : Int) (deadline : Nat)
    (output : ProcessOutput) : (captureStep callback child deadline output).Uncut := by
  intro now
  simp only [expand, done_bind]
  split
  · trivial
  · refine (uncut_readOutput callback output).bind fun output waited => ?_
    cases waited with
    | reaped status => trivial
    | noChild => trivial
    | failed => trivial
    | running => exact fun _ => trivial
    | interrupted => exact fun _ => trivial

theorem uncut_killChild (child : Int) (failure : Error) :
    (system (killChild child failure)).Uncut :=
  uncut_system fun _ _ => trivial

theorem uncut_finishCapture (callback : Bool) (child : Int) (output : ProcessOutput)
    (exited : Option ExitStatus) : (finishCapture callback child output exited).Uncut := by
  cases exited with
  | none => exact uncut_killChild child _
  | some status => exact (uncut_readOutput callback output).bind fun _ => trivial

/-- Some unfolding of a program comes to a result. -/
def Ends {α : Type} (environment : Environment PipeAnswer σ) (program : Nat → CaptureProgram α)
    (state : σ) : Prop :=
  ∃ fuel value last, Reaches (settled environment) (program fuel, state) (.done value, last)

theorem AllAnswered.of_bind {α β : Type} {program : CaptureProgram α}
    {following : α → CaptureProgram β} {value : α}
    (all : AllAnswered environment (program.bind following) state)
    (reaches : Reaches (settled environment) (program, state) (.done value, next)) :
    AllAnswered environment (following value) next :=
  ((Safe.of_bind all).of_reaches reaches).result

/-- An uncut part is gone through, and the rest decides whether there is an end. -/
theorem ends_bind {α β : Type} {program : CaptureProgram α} {following : Nat → α → CaptureProgram β}
    (uncut : program.Uncut)
    (all : ∀ fuel, AllAnswered environment (program.bind (following fuel)) state)
    (ends : ∀ value last, (∀ fuel, AllAnswered environment (following fuel value) last) →
      Ends environment (fun fuel => following fuel value) last) :
    Ends environment (fun fuel => program.bind (following fuel)) state := by
  obtain ⟨value, middle, reaches⟩ := uncut.reaches (Safe.of_bind (all 0)) fun _ _ => id
  obtain ⟨fuel, result, last, more⟩ := ends value middle fun fuel => (all fuel).of_bind reaches
  exact ⟨fuel, result, last, (reaches.bind _).trans more⟩

section Loop

variable {clock : σ → Nat} {callback : Bool} {child : Int} {deadline : Nat}

/-- A turn of the loop takes at least one call, and when time is up it is the last. -/
theorem captureStep_reaches (advances : Advances environment clock) {output : ProcessOutput}
    {result : ProcessOutput ⊕ (ProcessOutput × Option ExitStatus)}
    (reaches : Reaches (settled environment) (captureStep callback child deadline output, state)
      (.done result, next)) :
    TransGen (Follows environment) state next ∧
      (deadline ≤ clock state → result = .inr (output, none)) := by
  rcases (still_settled environment).reaches_cases reaches with
    same | ⟨operation, rest, now, middle, same, ⟨fuel, ran⟩, more⟩
  · cases same
  change EffectProgram.call (CaptureCall.system .steadyClock) _ = _ at same
  cases same
  cases ran
  constructor
  · exact TransGen.head' ⟨_, rfl⟩ (follows_of_reaches more)
  · intro late
    simp only [expand, done_bind, advances.reads, Nat.not_lt, late, if_true] at more
    exact more.value_eq

/-- The loop ends if all its calls are answered. -/
theorem ends_loop (advances : Advances environment clock) (state : σ) :
    ∀ output : ProcessOutput,
      (∀ fuel, AllAnswered environment
        (iterate (captureStep callback child deadline) fuel output) state) →
      Ends environment (fun fuel => iterate (captureStep callback child deadline) fuel output)
        state := by
  induction state using (advances.unbounded deadline).transGen.induction with
  | _ state ih =>
      intro output all
      obtain ⟨result, middle, reaches⟩ :=
        (uncut_captureStep callback child deadline output).reaches
          (Safe.of_bind (all 1)) fun _ _ => id
      cases result with
      | inr value =>
          exact ⟨1, value, middle, reaches.bind _⟩
      | inl output' =>
          have all' (fuel : Nat) : AllAnswered environment
              (iterate (captureStep callback child deadline) fuel output') middle := by
            have unfolded := all (fuel + 1)
            rw [iterate] at unfolded
            exact unfolded.of_bind reaches
          have ends : Ends environment
              (fun fuel => iterate (captureStep callback child deadline) fuel output') middle := by
            by_cases late : deadline ≤ clock middle
            · obtain ⟨last, after, more⟩ :=
                (uncut_captureStep callback child deadline output').reaches
                  (Safe.of_bind (all' 1)) fun _ _ => id
              obtain rfl := (captureStep_reaches advances more).2 late
              exact ⟨1, (output', none), after, more.bind _⟩
            · have later := (captureStep_reaches advances reaches).1
              exact ih middle (advances.below later (by omega)) output' all'
          obtain ⟨fuel, value, last, more⟩ := ends
          exact ⟨fuel + 1, value, last, (reaches.bind _).trans more⟩

theorem ends_captureChild (advances : Advances environment clock) {command : UtilityCommand}
    (all : ∀ fuel, AllAnswered environment (captureChild fuel command callback child) state) :
    Ends environment (fun fuel => captureChild fuel command callback child) state := by
  have killed (failure : Error) (last : σ) (answered : ∀ fuel : Nat, AllAnswered environment
      (system (killChild child failure)) last) :
      Ends environment (fun _ => system (killChild child failure)) last := by
    obtain ⟨value, after, reaches⟩ := (uncut_killChild child failure).reaches (answered 0)
      fun _ _ => id
    exact ⟨0, value, after, reaches⟩
  refine ends_bind (fun _ => trivial) all ?_
  intro first last all
  cases first with
  | error detail => exact killed _ last all
  | ok value =>
      refine ends_bind (fun _ => trivial) all ?_
      intro second last all
      cases second with
      | error detail => exact killed _ last all
      | ok value =>
          refine ends_bind (fun _ => trivial) all ?_
          intro started last all
          have loop := ends_loop advances last {} fun fuel =>
            (Safe.of_bind (all fuel)).imp fun _ _ _ => trivial
          obtain ⟨fuel, ⟨output, exited⟩, middle, reaches⟩ := loop
          obtain ⟨value, after, more⟩ := (uncut_finishCapture callback child output exited).reaches
            ((all fuel).of_bind reaches) fun _ _ => id
          exact ⟨fuel, value, after, (reaches.bind _).trans more⟩

theorem ends_captureOutput (advances : Advances environment clock) {command : UtilityCommand}
    (all : ∀ fuel, AllAnswered environment (captureOutput fuel command callback) state) :
    Ends environment (fun fuel => captureOutput fuel command callback) state := by
  have failed (failure : Error) (last : σ) : Ends environment
      (fun _ => .done (.error failure) : Nat → CaptureProgram (Result ProcessOutput)) last :=
    ⟨0, _, last, .refl⟩
  unfold captureOutput at all ⊢
  split
  · exact failed _ state
  · next nonempty =>
    simp only [nonempty] at all
    have opens : (system openPipes).Uncut := by
      refine uncut_system fun first => ?_
      cases first with
      | error detail => trivial
      | ok value => exact fun _ => trivial
    refine ends_bind opens all ?_
    intro opened last all
    cases opened with
    | error detail => exact failed _ last
    | ok value =>
        refine ends_bind (fun _ => trivial) all ?_
        intro forked last all
        cases forked with
        | error detail => exact failed _ last
        | ok child => exact ends_captureChild advances all

end Loop

theorem shortens_captureOutput {command : UtilityCommand} {callback : Bool} {fuel fuel' : Nat}
    (more : fuel ≤ fuel') :
    Shortens (captureOutput fuel command callback) (captureOutput fuel' command callback) := by
  unfold captureOutput
  split
  · exact .refl _
  · refine (Shortens.refl _).bind fun opened => ?_
    cases opened with
    | error detail => exact .refl _
    | ok value =>
        refine .call fun forked => ?_
        cases forked with
        | error detail => exact .refl _
        | ok child =>
            refine .call fun first => ?_
            cases first with
            | error detail => exact .refl _
            | ok value =>
                refine .call fun second => ?_
                cases second with
                | error detail => exact .refl _
                | ok value =>
                    refine .call fun started => ?_
                    exact (shortens_iterate _ more _).bind fun _ => .refl _

theorem shortens_runCapture {command : UtilityCommand} {callback : Bool} {fuel fuel' calls : Nat}
    (more : fuel ≤ calls) (more' : fuel' ≤ calls) :
    Shortens ((captureOutput fuel command callback).expand (pipeCalls fuel'))
      (runCapture calls command callback) :=
  (shortens_captureOutput more).expand (shortens_pipeCalls more')

/-- A call that is not a reading is answered at once. -/
theorem answered_of_drains {operation : CaptureCall}
    (drains : ∀ stream, operation = .system (.readAvailable stream) →
      Drains environment stream state) : Answered environment state operation := by
  by_cases reading : ∃ stream, operation = .system (.readAvailable stream)
  · obtain ⟨stream, rfl⟩ := reading
    exact drains_iff.mp (drains stream rfl)
  · have alone : pipeCalls 0 operation = .call (.other operation) .done := by
      unfold pipeCalls
      split
      · exact absurd ⟨_, rfl⟩ reading
      · rfl
    exact ⟨(environment state (.other operation)).1, (environment state (.other operation)).2, 0,
      by rw [alone]; rfl⟩

/-- A run that comes to an end has all its calls answered, however far it is unfolded. -/
theorem allAnswered_of_runCapture {command : UtilityCommand} {callback : Bool} {fuel : Nat}
    (ran : (run environment (runCapture fuel command callback) state).isSome) (fuel' : Nat) :
    AllAnswered environment (captureOutput fuel' command callback) state := by
  obtain ⟨ended, ran⟩ := Option.isSome_iff_exists.mp ran
  have further := (shortens_runCapture (Nat.le_max_left fuel fuel')
    (Nat.le_max_left fuel fuel')).run_eq ran
  exact (allAnswered_of_run further).of_shortens
    (shortens_captureOutput (Nat.le_max_right fuel fuel'))

end Environment

/-! ## A child that runs for ever -/

/-- A child has been started and does not exit; what a capture does not ask for is
answered somehow. -/
def runningChild (time : Nat) : (operation : SystemCall) → SystemAnswer operation
  | .steadyClock => time
  | .pipe | .setNonBlocking _ => .ok ()
  | .fork _ => .ok (100 : Int)
  | .waitpid _ _ => .running
  | .kill _ _ => .delivered
  | .chmod _ _ | .writeFileAtomic _ _ _ | .exchangeGreeting _ => .ok ()
  | .emitLog _ _ | .sleepFor _ | .remove _ | .removeAll _ | .pollOutput => ()
  | .ifNameToIndex _ | .rename _ _ | .openCore _ | .openCoreLog | .pollHandshake _ => false
  | .geteuid | .getpid => (0 : Nat)
  | .readExecutableLink _ | .readAvailable _ => ([] : Bytes)
  | .weaklyCanonical _ | .listDirectory _ => none
  | .mkdir _ _ | .mknod _ _ _ => .present
  | .readTextFile _ => .ok []
  | .getaddrinfo _ _ => .ok []
  | .getifaddrs => .ok []
  | .runCapture _ => .ok {}
  | .removeFile _ => .absent
  | .lstat _ => .missing
  | .readHandshake _ => .closed

/-- Its pipes are found empty, or never.  Every call takes one unit of time. -/
def endlessChild (pauses : Bool) : Environment PipeAnswer Nat := fun time operation =>
  (match operation with
    | .read _ => if pauses then .nothing else .chunk 121 []
    | .other (.callback _ _) => ()
    | .other (.system operation) => runningChild time operation, time + 1)

theorem advances_endlessChild (pauses : Bool) : Advances (endlessChild pauses) id := by
  refine ⟨fun _ => rfl, ?_, fun bound => ?_⟩
  · rintro state next ⟨operation, rfl⟩
    exact Nat.le_succ state
  · refine Subrelation.wf ?_ (measure fun state => bound - state).wf
    rintro next state ⟨⟨operation, rfl⟩, below⟩
    have soon : state + 1 < bound := below
    change bound - (state + 1) < bound - state
    omega

/-- As the clock advances, a capture comes to an end exactly if the pipe gets empty
in each of its readings. -/
theorem runCapture_ends_iff {environment : Environment PipeAnswer σ} {clock : σ → Nat}
    (advances : Advances environment clock) (command : UtilityCommand) (callback : Bool)
    (state : σ) :
    (∃ fuel, (run environment (runCapture fuel command callback) state).isSome) ↔
      ∀ fuel stream rest later, Reaches (settled environment)
        (captureOutput fuel command callback, state)
        (.call (.system (.readAvailable stream)) rest, later) →
          Drains environment stream later := by
  constructor
  · rintro ⟨fuel, ran⟩ fuel' stream rest later reaches
    exact drains_iff.mpr ((allAnswered_of_runCapture ran fuel').of_reaches reaches).permits
  · intro drains
    have all (fuel : Nat) :
        AllAnswered environment (captureOutput fuel command callback) state := by
      refine (still_settled environment).safe_of_reaches fun operation rest last reaches => ?_
      apply answered_of_drains
      rintro stream rfl
      exact drains fuel stream rest last reaches
    obtain ⟨fuel, value, last, reaches⟩ := ends_captureOutput advances all
    obtain ⟨fuel', ran⟩ := run_of_reaches reaches
    have further := (shortens_runCapture (Nat.le_max_left fuel fuel')
      (Nat.le_max_right fuel fuel')).run_eq ran
    exact ⟨max fuel fuel', Option.isSome_iff_exists.mpr ⟨_, further⟩⟩

theorem runCapture_ends_iff_example :
    ∃ fuel, (run (endlessChild true) (runCapture fuel versionCommand true) 0).isSome := by
  refine (runCapture_ends_iff (advances_endlessChild true) versionCommand true 0).mpr ?_
  intro fuel stream rest later reaches
  exact .empty rfl

theorem not_drains_endlessChild {stream : ProcessStream} {state : Nat} :
    ¬ Drains (endlessChild false) stream state := by
  intro drains
  induction drains with
  | empty nothing => cases nothing
  | chunk _ _ ih => exact ih

/-- The capture of a child that never stops writing has no end, for all its timeout. -/
theorem runCapture_never_ends : Advances (endlessChild false) id ∧
    ¬ ∃ fuel, (run (endlessChild false) (runCapture fuel versionCommand false) 0).isSome := by
  refine ⟨advances_endlessChild false, ?_⟩
  rintro ⟨fuel, ran⟩
  have all : AllAnswered (endlessChild false) (captureOutput 1 versionCommand false) 0 :=
    allAnswered_of_runCapture ran 1
  have piped := (all.of_moves (Moves.answer ⟨0, rfl⟩)).of_moves (Moves.answer ⟨0, rfl⟩)
  have forked := piped.of_moves (Moves.answer ⟨0, rfl⟩)
  have prepared := (forked.of_moves (Moves.answer ⟨0, rfl⟩)).of_moves (Moves.answer ⟨0, rfl⟩)
  have inTime := (prepared.of_moves (Moves.answer ⟨0, rfl⟩)).of_moves (Moves.answer ⟨0, rfl⟩)
  exact not_drains_endlessChild (drains_iff.mpr inTime.permits)

end OutputCapture

end TunProxy
