import TunProxy.ProxySituation

/-!
# Tracking the cores

Every core that is alive is recorded in the state file or its first record is
still to be saved, and there is at most one.  A core is forked only while none
is alive, and the state file is removed only when the process it names is not.
The rules here say how the calls and loops that end a core keep this up, as
long as files are read faithfully.
-/

namespace TunProxy

open ByteText EffectProgram

namespace Site

/-- The cores that are alive are known. -/
structure Tracked (site : Site) (genuine : Prop) (world : World) : Prop where
  recorded : ∀ pid process, world.processes pid = some process → process.core = true →
    process.alive = true →
      site.RecordedIn world.state pid process ∧ ¬ world.pending pid process.ticks ∨
        world.state = none ∧ world.pending pid process.ticks
  single : ∀ pid other process otherProcess,
    world.processes pid = some process → process.core = true → process.alive = true →
    world.processes other = some otherProcess → otherProcess.core = true →
    otherProcess.alive = true → pid = other
  named : genuine → Genuine world.state world

/-- The process that the state file names is not alive. -/
def Forgettable (world : World) : Prop :=
  ∀ state process, Loads world.state state → world.processes state.pid = some process →
    process.ticks = state.startTicks → process.alive = false

/-- No core that is alive waits for its first record. -/
def Settled (world : World) : Prop :=
  ∀ pid process, world.processes pid = some process → process.core = true →
    process.alive = true → ¬ world.pending pid process.ticks

theorem settled_of_noCore {world : World} (none : NoCore world) : Settled world := by
  intro pid process found core alive
  rw [none pid process found core] at alive
  cases alive

/-- The calls from the fork of a core to its first record, or to the end of
its clean-up where a step up to there fails. -/
def InWindow : SystemCall → Prop
  | .pollHandshake _ => True
  | .readHandshake _ => True
  | .readTextFile (.processStat _) => True
  | .lstat _ => True
  | .mkdir _ _ => True
  | .chmod _ _ => True
  | .writeFileAtomic .state _ _ => True
  | .kill _ _ => True
  | .waitpid _ _ => True
  | .readExecutableLink _ => True
  | .weaklyCanonical _ => True
  | .sleepFor _ => True
  | .emitLog _ _ => True
  | _ => False

/-- What is watched while cores are managed. -/
def tracking (site : Site) (genuine : Prop) : Watch SystemCall World where
  holds := site.Tracked genuine
  permits world call :=
    (InWindow call ∨ Settled world) ∧
      match call with
      | .fork _ => NoCore world
      | .removeFile .state => genuine → Forgettable world
      | _ => True
  cuts := True

/-- From `pre` the program keeps the cores tracked and ends with `post`. -/
abbrev Keeps (site : Site) (genuine : Prop) {α : Type} (pre : World → Prop)
    (program : System α) (post : α → World → Prop) : Prop :=
  Triple site.around (site.tracking genuine) pre program post

variable {site : Site} {genuine : Prop} {α : Type}

theorem Situation.Holds.tracked {situation : Situation site} {world : World}
    (holds : situation.Holds genuine world) : site.Tracked genuine world where
  recorded := by
    intro pid process found core alive
    have known := situation.accounted pid process (holds.cores pid process found core alive)
    rwa [← holds.state, ← holds.pending] at known
  single := by
    intro pid other process otherProcess found core alive found' core' alive'
    exact situation.single pid other process otherProcess
      (holds.cores pid process found core alive)
      (holds.cores other otherProcess found' core' alive')
  named := fun assumed => holds.state ▸ holds.named assumed

/-! ## Assertions -/

/-- An assertion under which the cores are tracked, whatever the world does by
itself. -/
structure Steady (site : Site) (genuine : Prop) (assertion : World → Prop) : Prop where
  stable : Stable site.around assertion
  tracked : ∀ world, assertion world → site.Tracked genuine world

theorem stable_of_tame {assertion : World → Prop}
    (tame : ∀ world next, assertion world → Tame world next → assertion next) :
    Stable site.around assertion :=
  fun world next holds drifts => tame world next holds drifts.tame

/-- An assertion that also survives every quiet call. -/
structure Lasting (site : Site) (genuine : Prop) (assertion : World → Prop) : Prop where
  tame : ∀ world next, assertion world → Tame world next → assertion next
  tracked : ∀ world, assertion world → site.Tracked genuine world

/-- A lasting assertion under which every core that is alive is recorded. -/
structure Robust (site : Site) (genuine : Prop) (assertion : World → Prop) : Prop
    extends Lasting site genuine assertion where
  settled : ∀ world, assertion world → Settled world

theorem Lasting.steady {assertion : World → Prop} (lasting : Lasting site genuine assertion) :
    Steady site genuine assertion where
  stable := stable_of_tame lasting.tame
  tracked := lasting.tracked

theorem Robust.steady {assertion : World → Prop} (robust : Robust site genuine assertion) :
    Steady site genuine assertion :=
  robust.toLasting.steady

theorem lasting_holds (situation : Situation site) :
    Lasting site genuine (situation.Holds genuine) where
  tame := fun _ _ holds tame => holds.tame tame
  tracked := fun _ holds => holds.tracked

theorem steady_holds (situation : Situation site) :
    Steady site genuine (situation.Holds genuine) :=
  (lasting_holds situation).steady

theorem Robust.exists {ι : Sort*} {assertion : ι → World → Prop}
    (robust : ∀ index, Robust site genuine (assertion index)) :
    Robust site genuine fun world => ∃ index, assertion index world where
  tame := fun world next ⟨index, holds⟩ tame => ⟨index, (robust index).tame world next holds tame⟩
  tracked := fun world ⟨index, holds⟩ => (robust index).tracked world holds
  settled := fun world ⟨index, holds⟩ => (robust index).settled world holds

theorem steady_false : Steady site genuine fun _ => False where
  stable := fun _ _ impossible => impossible.elim
  tracked := fun _ impossible => impossible.elim

theorem Steady.and {assertion more : World → Prop} (steady : Steady site genuine assertion)
    (stable : Stable site.around more) :
    Steady site genuine fun world => assertion world ∧ more world where
  stable := fun world next holds drifts =>
    ⟨steady.stable world next holds.1 drifts, stable world next holds.2 drifts⟩
  tracked := fun world holds => steady.tracked world holds.1

theorem Steady.and_fact {assertion : World → Prop} (steady : Steady site genuine assertion)
    (fact : Prop) : Steady site genuine fun world => assertion world ∧ fact :=
  steady.and fun _ _ holds _ => holds

theorem Steady.exists {ι : Sort*} {assertion : ι → World → Prop}
    (steady : ∀ index, Steady site genuine (assertion index)) :
    Steady site genuine fun world => ∃ index, assertion index world where
  stable := fun world next ⟨index, holds⟩ drifts =>
    ⟨index, (steady index).stable world next holds drifts⟩
  tracked := fun world ⟨index, holds⟩ => (steady index).tracked world holds

theorem noCore_of_tame {world next : World} (none : NoCore world) (tame : Tame world next) :
    NoCore next := by
  intro pid later found core
  rcases tame.processes pid later found with ⟨process, present, becomes⟩ | ⟨-, -, -, foreign⟩
  · cases alive : later.alive with
    | false => rfl
    | true =>
        have dead := none pid process present (becomes.core.symm.trans core)
        rw [becomes.alive alive] at dead
        cases dead
  · rw [core] at foreign
    cases foreign

theorem stable_noCore : Stable site.around NoCore :=
  stable_of_tame fun _ _ none tame => noCore_of_tame none tame

/-! ## Rules -/

theorem keeps_done {assertion : World → Prop} {post : α → World → Prop} {value : α}
    (steady : Steady site genuine assertion)
    (implies : ∀ world, assertion world → post value world) :
    site.Keeps genuine assertion (.done value) post :=
  Triple.done steady.stable steady.tracked implies

theorem permits_of_quiet {world : World} {call : SystemCall} (quiet : Quiet call)
    (settled : Settled world) : (site.tracking genuine).permits world call := by
  refine ⟨Or.inr settled, ?_⟩
  cases call with
  | removeFile file =>
      cases file with
      | state => exact absurd quiet not_false
      | coreConfig | config => trivial
  | fork role => exact absurd quiet not_false
  | _ => trivial

theorem permits_of_inWindow {world : World} {call : SystemCall} (inWindow : InWindow call) :
    (site.tracking genuine).permits world call := by
  refine ⟨Or.inl inWindow, ?_⟩
  cases call with
  | removeFile file => exact absurd inWindow not_false
  | fork role => exact absurd inWindow not_false
  | _ => trivial

/-- A call of the window whose answer establishes the postcondition. -/
theorem keeps_call {call : SystemCall} {assertion : World → Prop}
    {post : SystemAnswer call → World → Prop} (inWindow : InWindow call)
    (steady : Steady site genuine assertion)
    (steadyPost : ∀ answer, Steady site genuine (post answer))
    (answered : ∀ world answer next, assertion world →
      site.Answers world call answer next → post answer next) :
    site.Keeps genuine assertion (.call call .done) post :=
  Triple.perform steady.stable steady.tracked (fun _ _ => permits_of_inWindow inWindow)
    (fun answer => (steadyPost answer).stable) (fun answer => (steadyPost answer).tracked) answered

/-- Programs of quiet calls of the window keep every lasting assertion. -/
theorem keeps_inWindow {program : System α} {assertion : World → Prop}
    (lasting : Lasting site genuine assertion)
    (calls : program.Calls fun call => Quiet call ∧ InWindow call) :
    site.Keeps genuine assertion program fun _ => assertion :=
  Triple.of_calls calls lasting.steady.stable lasting.tracked trivial
    (fun _ _ _ allowed => permits_of_inWindow allowed.2)
    fun world _ _ next holds allowed answers =>
      lasting.tame world next holds (tame_of_quiet allowed.1 answers)

/-- Programs of quiet calls keep every robust assertion. -/
theorem keeps_quiet {program : System α} {assertion : World → Prop}
    (robust : Robust site genuine assertion) (calls : program.Calls Quiet) :
    site.Keeps genuine assertion program fun _ => assertion :=
  Triple.of_calls calls robust.steady.stable robust.tracked trivial
    (fun world _ holds quiet => permits_of_quiet quiet (robust.settled world holds))
    fun world _ _ next holds quiet answers =>
      robust.tame world next holds (tame_of_quiet quiet answers)

theorem keeps_quiet_call {call : SystemCall} {assertion : World → Prop}
    (robust : Robust site genuine assertion) (quiet : Quiet call) :
    site.Keeps genuine assertion (.call call .done) fun _ => assertion :=
  keeps_quiet robust ⟨quiet, fun _ => trivial⟩

/-! ## Situations without a core -/

theorem Situation.Holds.noCore {content : Option Bytes} {pending : Int → Nat → Prop}
    {world : World} (holds : (idle site content pending).Holds genuine world) : NoCore world := by
  intro pid process found core
  cases alive : process.alive with
  | false => rfl
  | true => exact (holds.cores pid process found core alive).elim

theorem Situation.Holds.idle {situation : Situation site} {world : World}
    (holds : situation.Holds genuine world) (none : NoCore world) :
    (idle site situation.content situation.pending).Holds genuine world where
  state := holds.state
  pending := holds.pending
  cores := by
    intro pid process found core alive
    rw [none pid process found core] at alive
    cases alive
  named := holds.named

/-- With no core alive and only cores named, what is named is not alive. -/
theorem Situation.Holds.forgettable {content : Option Bytes} {pending : Int → Nat → Prop}
    {world : World} (holds : (Site.idle site content pending).Holds genuine world)
    (assumed : genuine) : Forgettable world := by
  intro state process loads found same
  rw [holds.state] at loads
  have identity := holds.named assumed state loads
  exact holds.noCore state.pid process found (identity.core process found same)

theorem idle_cleared {pending : Int → Nat → Prop} {content : Option Bytes} {world : World}
    (holds : (idle site content pending).Holds genuine world) :
    (idle site none pending).Holds genuine { world with state := none } where
  state := rfl
  pending := holds.pending
  cores := holds.cores
  named := fun _ _ ⟨_, impossible, _⟩ => by cases impossible

/-- The record is cleared, or it stays as it was. -/
theorem keeps_clearState (content : Option Bytes) (pending : Int → Nat → Prop) :
    site.Keeps genuine ((idle site content pending).Holds genuine) clearState fun
      | .ok () => (idle site none pending).Holds genuine
      | .error _ => (idle site content pending).Holds genuine := by
  refine Triple.call (steady_holds _).stable (fun _ holds => holds.tracked)
    (fun world holds => ⟨Or.inr (settled_of_noCore holds.noCore), holds.forgettable⟩)
    fun world answer next holds answers => ?_
  cases answer with
  | removed =>
      obtain rfl : next = _ := answers
      exact keeps_done (steady_holds _) (fun _ => id) _ (idle_cleared holds)
  | absent =>
      obtain ⟨absent, rfl⟩ := answers
      have gone : content = none := holds.state.symm.trans absent
      subst gone
      exact keeps_done (steady_holds _) (fun _ => id) _ holds
  | failed detail =>
      obtain rfl : next = _ := answers
      exact keeps_done (steady_holds _) (fun _ => id) _ holds

/-! ## Reading files -/

section Read

variable {world : World} {content : Result Bytes}

/-- Read faithfully, the state file says what it records, and nothing else. -/
theorem parseState_read_iff (faithful : site.Faithful)
    (answers : site.AnswersRead world .state content) {state : RuntimeState} :
    parseState content = .ok state ↔ Loads world.state state := by
  cases content with
  | ok text =>
      obtain ⟨written, present, rfl | ⟨impossible, -⟩⟩ := answers
      · rw [present]
        exact ⟨fun parsed => ⟨text, rfl, parsed⟩, fun ⟨other, same, parsed⟩ =>
          Option.some.inj same ▸ parsed⟩
      · rw [faithful.records] at impossible
        cases impossible
  | error failure =>
      rcases answers with absent | impossible
      · rw [absent]
        exact ⟨fun impossible => (by cases impossible),
          fun ⟨_, impossible, _⟩ => (by cases impossible)⟩
      · rw [faithful.records] at impossible
        cases impossible

/-- Read faithfully, the line of a process tells its start time, if it is told at all. -/
theorem parseStartTicks_read (faithful : site.Faithful) {pid : Int} {process : Process}
    (found : world.processes pid = some process)
    (legible : site.faults.hidden pid process.ticks = false) (positive : 0 < process.ticks)
    (fits : process.ticks < 2 ^ 63) (answers : site.AnswersRead world (.processStat pid) content) :
    parseStartTicks content = .ok process.ticks := by
  cases content with
  | ok text =>
      obtain ⟨other, line, present, -, stat, same⟩ := answers
      obtain rfl := Option.some.inj (found.symm.trans present)
      rcases same with rfl | ⟨impossible, -⟩
      · exact parseStartTicks_of_statText stat positive fits
      · rw [faithful.processes] at impossible
        cases impossible
  | error failure =>
      rcases answers with untold | impossible
      · rw [untold process found] at legible
        cases legible
      · rw [faithful.processes] at impossible
        cases impossible

/-- A start time that was read is that of the process. -/
theorem process_of_parseStartTicks (faithful : site.Faithful) {pid : Int} {ticks : Nat}
    (answers : site.AnswersRead world (.processStat pid) content)
    (parsed : parseStartTicks content = .ok ticks) :
    ∃ process, world.processes pid = some process ∧ process.ticks = ticks ∧
      site.faults.hidden pid ticks = false := by
  cases content with
  | error failure => cases parsed
  | ok text =>
      obtain ⟨process, line, present, legible, stat, same⟩ := answers
      rcases same with rfl | ⟨impossible, -⟩
      · obtain rfl := eq_of_parseStartTicks stat parsed
        exact ⟨process, present, rfl, legible⟩
      · rw [faithful.processes] at impossible
        cases impossible

end Read

/-- What is loaded is what the file records, and all that it records. -/
theorem keeps_loadState (faithful : site.Faithful) (situation : Situation site)
    (settled : ∀ world, situation.Holds genuine world → Settled world) :
    site.Keeps genuine (situation.Holds genuine) loadState fun
      | .ok state => fun world => situation.Holds genuine world ∧ Loads situation.content state
      | .error _ => fun world => situation.Holds genuine world ∧
          ∀ state, ¬ Loads situation.content state := by
  have read : site.Keeps genuine (situation.Holds genuine) (readTextFile .state)
      fun content world => situation.Holds genuine world ∧
        ∀ state, parseState content = .ok state ↔ Loads situation.content state := by
    refine Triple.perform (steady_holds _).stable (fun _ holds => holds.tracked)
      (fun world holds => permits_of_quiet trivial (settled world holds))
      (fun _ => ((steady_holds _).and_fact _).stable) (fun _ _ holds => holds.1.tracked)
      fun world answer next holds answers => ?_
    obtain ⟨answers, rfl⟩ := answers
    refine ⟨holds, fun state => ?_⟩
    rw [← holds.state]
    exact parseState_read_iff faithful answers
  refine read.bind fun content => ?_
  cases parsed : parseState content with
  | ok state =>
      exact keeps_done ((steady_holds _).and_fact _) fun world holds =>
        ⟨holds.1, (holds.2 state).mp rfl⟩
  | error failure =>
      exact keeps_done ((steady_holds _).and_fact _) fun world holds =>
        ⟨holds.1, fun state loads => by cases (holds.2 state).mpr loads⟩

end Site

end TunProxy
