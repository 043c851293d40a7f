import TunProxy.CoreRepair
import TunProxy.ReleaseDisk
import TunProxy.HarmlessCalls

/-!
# Only the release's core is executed

Whatever is in the directories at first and whatever the download and the
extraction give, a file is executed as core only while it is the release's one,
and a repair leaves the installed files as they are or replaces them by verified
ones.
-/

namespace TunProxy

open ByteText EffectProgram

/-! ## Calls beside the core's files -/

/-- Calls that remove and rename nothing, and execute no core but the given ones. -/
def LeavesCore (mayExecute : Path → Prop) : SystemCall → Prop
  | .remove _ | .removeAll _ | .rename _ _ => False
  | .runCapture command => ∃ executable, command.tool = .coreCheck executable ∧
      mayExecute executable
  | .fork role => ∃ executable arguments, role = .core executable arguments ∧
      mayExecute executable
  | _ => True

section LeavesCore

variable (mayExecute : Path → Prop)

variable {mayExecute} in
theorem leavesCore_of_prepares {operation : SystemCall} (prepares : Prepares operation) :
    LeavesCore mayExecute operation := by
  cases operation with
  | remove path => exact prepares.elim
  | removeAll path => exact prepares.elim
  | rename source destination => exact prepares.elim
  | runCapture command => exact prepares.elim
  | fork role => exact prepares.elim
  | _ => trivial

variable {mayExecute} in
theorem leavesCore_prepares {α : Type} {program : System α} (prepares : program.Calls Prepares) :
    program.Calls (LeavesCore mayExecute) :=
  prepares.imp fun _ => leavesCore_of_prepares

variable {mayExecute} in
theorem leavesCore_of_attends {operation : SystemCall} (attends : Attends operation) :
    LeavesCore mayExecute operation := by
  cases operation with
  | remove path => exact attends.elim
  | removeAll path => exact attends.elim
  | rename source destination => exact attends.elim
  | runCapture command => exact attends.elim
  | fork role => exact attends.elim
  | _ => trivial

variable {mayExecute} in
theorem leavesCore_attends {α : Type} {program : System α} (attends : program.Calls Attends) :
    program.Calls (LeavesCore mayExecute) :=
  attends.imp fun _ => leavesCore_of_attends

variable {mayExecute} in
theorem leavesCore_supervises {α : Type} {program : System α}
    (supervises : program.Calls Supervises) : program.Calls (LeavesCore mayExecute) :=
  leavesCore_attends (supervises.imp fun _ => attends_of_supervises)

theorem leavesCore_clearState : clearState.Calls (LeavesCore mayExecute) := by
  refine ⟨trivial, fun answer => ?_⟩
  cases answer with
  | removed => trivial
  | absent => trivial
  | failed detail => trivial

namespace Setup

variable (setup : Setup)

theorem leavesCore_saveState (state : RuntimeState) :
    (setup.saveState state).Calls (LeavesCore mayExecute) :=
  (leavesCore_prepares (prepares_ensureDirectory _ _)).andThen fun _ => ⟨trivial, fun _ => trivial⟩

theorem leavesCore_spawnCore {executable : Path} (may : mayExecute executable) :
    (setup.spawnCore executable).Calls (LeavesCore mayExecute) := by
  refine ⟨trivial, fun coreOpened => ?_⟩
  simp only [done_bind]
  split
  · trivial
  refine ⟨trivial, fun logOpened => ?_⟩
  simp only [done_bind]
  split
  · trivial
  refine ⟨trivial, fun piped => ?_⟩
  cases piped with
  | error detail => trivial
  | ok done =>
      refine ⟨⟨executable, _, rfl, may⟩, fun forked => ?_⟩
      cases forked with
      | error detail => trivial
      | ok child => exact leavesCore_attends (attends_awaitExec child)

theorem leavesCore_retryAfter (lastError : Error) :
    (setup.retryAfter lastError).Calls (LeavesCore mayExecute) := by
  refine (leavesCore_clearState mayExecute).bind fun cleared => ?_
  cases cleared with
  | error failure => trivial
  | ok done =>
      refine (leavesCore_prepares (setup.prepares_awaitTunRemoval _)).bind fun removed => ?_
      cases removed with
      | error failure => trivial
      | ok done => trivial

/-- Stopping a core, and what a start does then. -/
theorem leavesCore_terminated (state : RuntimeState) {next : System AttemptEnd}
    (calls : next.Calls (LeavesCore mayExecute)) :
    ((terminateCore state).bind fun
      | .error failure => .done (.inr (.error failure))
      | .ok () => next : System AttemptEnd).Calls (LeavesCore mayExecute) := by
  refine (leavesCore_supervises (supervises_terminateCore state)).bind fun stopped => ?_
  cases stopped with
  | error failure => trivial
  | ok done => exact calls

theorem leavesCore_superviseCore (fuel : Nat) (state : RuntimeState) :
    (setup.superviseCore fuel state).Calls (LeavesCore mayExecute) := by
  have removes : (setup.awaitTunRemoval .coreStartFailure).Calls (LeavesCore mayExecute) :=
    leavesCore_prepares (setup.prepares_awaitTunRemoval _)
  have clears {next : System AttemptEnd} (calls : next.Calls (LeavesCore mayExecute)) :
      (clearState.bind fun _ => next).Calls (LeavesCore mayExecute) :=
    (leavesCore_clearState mayExecute).bind fun _ => calls
  have removed {failure : Error} : ((setup.awaitTunRemoval .coreStartFailure).bind fun
      | .error other => .done (.inr (.error other))
      | .ok () => .done (.inr (.error failure)) : System AttemptEnd).Calls
        (LeavesCore mayExecute) := by
    refine removes.bind fun result => ?_
    cases result with
    | error failure => trivial
    | ok done => trivial
  refine (setup.leavesCore_saveState mayExecute state).bind fun saved => ?_
  cases saved with
  | error failure => exact leavesCore_terminated mayExecute state removed
  | ok done =>
      refine (leavesCore_attends (attends_waitForTun setup fuel state.pid _)).bind fun waited => ?_
      cases waited with
      | error failure =>
          exact leavesCore_terminated mayExecute state (clears (removes.bind fun _ => trivial))
      | ok ended =>
          cases ended with
          | coreExited => exact setup.leavesCore_retryAfter mayExecute _
          | timedOut =>
              exact leavesCore_terminated mayExecute state
                (setup.leavesCore_retryAfter mayExecute _)
          | ready =>
              refine (setup.leavesCore_saveState mayExecute _).bind fun recorded => ?_
              cases recorded with
              | ok done => trivial
              | error failure => exact leavesCore_terminated mayExecute _ (clears removed)

variable {plan : LaunchPlan}

theorem leavesCore_attempt (fuel : Nat) (may : mayExecute plan.core.executable)
    (autoRedirect : Bool) (lastError : Error) (routingFailure : Bool) :
    (setup.attempt fuel plan autoRedirect lastError routingFailure).Calls
      (LeavesCore mayExecute) := by
  have launched : (setup.launchCore fuel plan autoRedirect).Calls (LeavesCore mayExecute) := by
    refine (setup.leavesCore_spawnCore mayExecute may).bind fun spawned => ?_
    cases spawned with
    | error failure => trivial
    | ok child =>
        refine ⟨trivial, fun ticks => ?_⟩
        simp only [done_bind]
        split
        · exact (leavesCore_supervises (supervises_discardChild fuel child _)).bind fun _ => trivial
        · exact setup.leavesCore_superviseCore mayExecute fuel _
  refine ⟨trivial, fun present => ?_⟩
  simp only [done_bind]
  split
  · trivial
  refine Calls.bind (Calls.ite trivial ⟨trivial, fun _ => trivial⟩) fun _ => ?_
  split
  · trivial
  refine ⟨trivial, fun written => ?_⟩
  cases written with
  | error failure => trivial
  | ok done =>
      refine ⟨⟨plan.core.executable, rfl, may⟩, fun checked => ?_⟩
      simp only [done_bind]
      split
      · trivial
      · exact launched

theorem leavesCore_attempts (fuel : Nat) (may : mayExecute plan.core.executable) :
    (setup.attempts fuel plan).Calls (LeavesCore mayExecute) := by
  refine (setup.leavesCore_attempt mayExecute fuel may _ _ _).bind fun ended => ?_
  cases ended with
  | inr result => trivial
  | inl failed =>
      refine (setup.leavesCore_attempt mayExecute fuel may _ _ _).bind fun ended => ?_
      cases ended with
      | inr result => trivial
      | inl failed => trivial

end Setup

end LeavesCore

/-! ## Executions -/

namespace CoreDisk

variable {Content : Type} {disk : CoreDisk Content}

theorem Verified.of_same {tree next : Tree Content} (same : next = tree) {path : Path}
    (verified : disk.Verified tree path) : disk.Verified next path :=
  same ▸ verified

theorem Placed.grows {tree next : Tree Content} {path : Path} {node : FileNode Bytes Content}
    (placed : Placed tree path node next) : tree.Grows next := by
  obtain ⟨position, -, absent, placed⟩ := placed
  intro other present found
  have different : other ≠ position := by
    rintro rfl
    rw [absent] at found
    cases found
  rw [placed other, if_neg different, found]

theorem Verified.of_grows {tree next : Tree Content} (grows : tree.Grows next) {path : Path}
    (verified : disk.Verified tree path) : disk.Verified next path := by
  obtain ⟨content, found, isCore⟩ := verified
  exact ⟨content, grows.lookup found, isCore⟩

/-- The installed core stays where nothing is removed or renamed. -/
theorem Verified.of_leavesCore {mayExecute : Path → Prop} {tree next : Tree Content}
    {operation : SystemCall} {answer : SystemAnswer operation}
    (leaves : LeavesCore mayExecute operation)
    (answers : disk.Answers tree operation answer next)
    (verified : disk.Verified tree disk.setup.corePath) :
    disk.Verified next disk.setup.corePath := by
  have unchanged (same : disk.CoreUnchanged tree next) :
      disk.Verified next disk.setup.corePath := by
    obtain ⟨content, found, isCore⟩ := verified
    exact ⟨content, (same _ (.inl rfl)).1.trans found, isCore⟩
  cases operation with
  | remove path => exact leaves.elim
  | removeAll path => exact leaves.elim
  | rename source destination => exact leaves.elim
  | runCapture command =>
      obtain ⟨executable, checks, -⟩ := leaves
      have told : disk.ToolAnswers tree answer next command.tool := answers
      rw [checks] at told
      exact verified.of_same told
  | writeFileAtomic file contents mode => exact unchanged answers
  | removeFile file => exact unchanged answers
  | openCoreLog => exact unchanged answers
  | lstat path =>
      cases answer with
      | found status => exact verified.of_same answers.1
      | missing => exact verified.of_same answers.1
      | failed detail => exact verified.of_same answers
  | mkdir path mode =>
      cases answer with
      | created => exact verified.of_grows (Placed.grows answers)
      | present => exact verified.of_same answers
      | failed detail => exact verified.of_same answers
  | mknod path major minor =>
      cases answer with
      | created => exact verified.of_grows (Placed.grows answers)
      | present => exact verified.of_same answers
      | failed detail => exact verified.of_same answers
  | _ => exact verified.of_same answers

/-- What executes a core is what `LeavesCore` names. -/
theorem executes_of_leavesCore {mayExecute : Path → Prop} {operation : SystemCall} {path : Path}
    (leaves : LeavesCore mayExecute operation) (executes : operation.executes = some path) :
    mayExecute path := by
  cases operation with
  | runCapture command =>
      obtain ⟨executable, checks, may⟩ := leaves
      simp only [SystemCall.executes, checks] at executes
      exact Option.some.inj executes ▸ may
  | fork role =>
      obtain ⟨executable, arguments, rfl, may⟩ := leaves
      exact Option.some.inj executes ▸ may
  | _ => cases executes

variable {tree : Tree Content} {α : Type}

/-- What executes nothing is safe on every tree. -/
theorem safe_beside {program : System α}
    (calls : program.Calls (LeavesCore fun _ => False)) (tree : Tree Content) :
    Safe disk.surroundings (disk.guarded fun _ => True) (fun _ _ => True) program tree := by
  have safe : Triple disk.surroundings (disk.guarded fun _ => True) (fun _ => True) program
      fun _ _ => True := by
    refine Triple.of_calls calls (disk.still.stable _) (fun _ _ => trivial) trivial ?_
      (fun _ _ _ _ _ _ _ => trivial)
    intro world operation _ leaves path executes
    exact (executes_of_leavesCore leaves executes).elim
  exact safe tree trivial

/-- What executes only the installed core is safe once that is verified. -/
theorem safe_installed {program : System α}
    (calls : program.Calls (LeavesCore fun path => path = disk.setup.corePath))
    (verified : disk.Verified tree disk.setup.corePath) :
    Safe disk.surroundings (disk.guarded fun _ => True)
      (fun _ later => disk.Verified later disk.setup.corePath) program tree := by
  have safe : Triple disk.surroundings (disk.guarded fun _ => True)
      (fun later => disk.Verified later disk.setup.corePath) program
      fun _ later => disk.Verified later disk.setup.corePath := by
    refine Triple.of_calls calls (disk.still.stable _) (fun _ _ => trivial) trivial ?_ ?_
    · intro world operation holds leaves path executes
      exact executes_of_leavesCore leaves executes ▸ holds
    · intro world operation answer next holds leaves answers
      exact holds.of_leavesCore leaves answers
  exact safe tree verified

/-- A failure is passed on by what executes nothing. -/
theorem safe_besideThen {β : Type} {program : System (Result α)} {next : α → System (Result β)}
    {post : Result β → Tree Content → Prop} (failed : ∀ failure later, post (.error failure) later)
    (calls : program.Calls (LeavesCore fun _ => False))
    (rest : ∀ value later, Safe disk.surroundings (disk.guarded fun _ => True) post
      (next value) later) (tree : Tree Content) :
    Safe disk.surroundings (disk.guarded fun _ => True) post (program.andThen next) tree := by
  refine (safe_beside calls tree).bind fun result later _ => ?_
  cases result with
  | error failure => exact safe_value trivial (failed failure later)
  | ok value => exact rest value later

/-- A success of `ensureCore` names the installed core, which is verified. -/
def Ensured (disk : CoreDisk Content) (result : Result CoreInfo) (tree : Tree Content) : Prop :=
  ∀ core, result = .ok core → core.executable = disk.setup.corePath ∧
    disk.Verified tree disk.setup.corePath ∧ (disk.linksLicense = false → disk.Licensed tree)

theorem safe_ensured (separate : disk.setup.Separate) (tree : Tree Content) :
    Safe disk.surroundings (disk.guarded fun _ => True) disk.Ensured disk.setup.ensureCore
      tree := by
  refine ((safe_ensureCore separate fun _ _ => trivial).and_yields
    disk.setup.yields_ensureCore).imp ?_
  rintro result later ⟨⟨-, files⟩, installed⟩ core rfl
  have same : core = ⟨disk.setup.corePath, _, _⟩ := installed core rfl
  exact ⟨by rw [same], files rfl⟩

/-- The core of a plan is the installed one. -/
def Planned (disk : CoreDisk Content) (result : Result Setup.LaunchPlan) (tree : Tree Content) :
    Prop :=
  ∀ plan, result = .ok plan →
    plan.core.executable = disk.setup.corePath ∧ disk.Verified tree disk.setup.corePath

theorem safe_makePlan (separate : disk.setup.Separate) (tree : Tree Content) :
    Safe disk.surroundings (disk.guarded fun _ => True) disk.Planned disk.setup.makePlan tree := by
  have failed (failure : Error) (later : Tree Content) : disk.Planned (.error failure) later :=
    fun _ impossible => nomatch impossible
  have configured : loadConfig.Calls (LeavesCore fun _ => False) := ⟨trivial, fun _ => trivial⟩
  refine safe_besideThen failed (leavesCore_prepares disk.setup.prepares_ensureTunDevice)
    (fun _ later => ?_) tree
  refine safe_besideThen failed configured (fun configured later => ?_) later
  refine safe_besideThen failed
    (leavesCore_prepares (Setup.prepares_resolveAndProbeUpstream configured))
    (fun resolved later => ?_) later
  refine safe_quiet trivial rfl fun interfaces next same => ?_
  simp only [done_bind]
  split
  next => exact safe_value trivial (failed _ _)
  next =>
    refine (safe_ensured separate next).bind fun result found ensured => ?_
    cases result with
    | error failure => exact safe_value trivial (failed failure found)
    | ok core =>
        obtain ⟨executable, verified, -⟩ := ensured core rfl
        have directory : (ensureDirectory disk.setup.paths.runtimeDir 0o755).Calls
            (LeavesCore fun path => path = disk.setup.corePath) :=
          leavesCore_prepares (prepares_ensureDirectory _ _)
        refine (safe_installed directory verified).bind fun made last verified => ?_
        cases made with
        | error failure => exact safe_value trivial (failed failure last)
        | ok done =>
            refine safe_value trivial fun plan same => ?_
            obtain rfl := Except.ok.inj same
            exact ⟨executable, verified⟩

theorem safe_startFresh (separate : disk.setup.Separate) (fuel : Nat) (terminated : Bool)
    (tree : Tree Content) :
    Safe disk.surroundings (disk.guarded fun _ => True) (fun _ _ => True)
      (disk.setup.startFresh fuel terminated) tree := by
  have removed : (if terminated then disk.setup.awaitTunRemoval .coreStartFailure
      else .done (.ok ()) : System (Result Unit)).Calls (LeavesCore fun _ => False) := by
    split
    · exact leavesCore_prepares (disk.setup.prepares_awaitTunRemoval _)
    · trivial
  refine safe_besideThen (fun _ _ => trivial) (leavesCore_clearState _) (fun _ later => ?_) tree
  refine safe_besideThen (fun _ _ => trivial) removed (fun _ later => ?_) later
  refine (safe_makePlan separate later).bind fun result found planned => ?_
  cases result with
  | error failure => exact safe_value trivial trivial
  | ok plan =>
      obtain ⟨executable, verified⟩ := planned plan rfl
      have calls : (disk.setup.attempts fuel plan).Calls
          (LeavesCore fun path => path = disk.setup.corePath) :=
        disk.setup.leavesCore_attempts _ fuel executable
      exact (safe_installed calls verified).imp fun _ _ _ => trivial

theorem safe_start (separate : disk.setup.Separate) (fuel : Nat) (tree : Tree Content) :
    Safe disk.surroundings (disk.guarded fun _ => True) (fun _ _ => True)
      (disk.setup.start fuel) tree := by
  have fresh := safe_startFresh separate fuel
  refine safe_quiet trivial rfl fun loaded next same => ?_
  have loads (state : RuntimeState) (later : Tree Content) :
      Safe disk.surroundings (disk.guarded fun _ => True) (fun _ _ => True)
        (disk.setup.startOver fuel state) later := by
    refine (safe_beside (leavesCore_supervises
      (supervises_isManagedProcessRunning state)) later).bind
      fun running found _ => ?_
    split
    next =>
      split
      next => exact safe_value trivial trivial
      next =>
        refine safe_quiet trivial rfl fun _ last same => ?_
        exact safe_besideThen (fun _ _ => trivial)
          (leavesCore_supervises (supervises_terminateCore state))
          (fun _ after => fresh true after) last
    next => exact fresh false found
  simp only [done_bind]
  split
  next state _ => exact loads state next
  next => exact fresh false next

/-- No unverified core is executed, be it by `ensureCore` or by `start`: whenever
a file is, it is a regular one with the size and the digest of the manifest.  And
a success of `ensureCore` is one on the final files: it names the installed core,
which is verified, and the license is that of the release if `tar` has left no
link in its place. -/
theorem no_unverified_core (disk : CoreDisk Content) (separate : disk.setup.Separate) :
    (∀ tree operation rest last path,
      Reaches disk.surroundings (disk.setup.ensureCore, tree) (.call operation rest, last) →
      operation.executes = some path → disk.Verified last path) ∧
    (∀ fuel tree operation rest last path,
      Reaches disk.surroundings (disk.setup.start fuel, tree) (.call operation rest, last) →
      operation.executes = some path → disk.Verified last path) ∧
    ∀ tree core last,
      Reaches disk.surroundings (disk.setup.ensureCore, tree) (.done (.ok core), last) →
      core.executable = disk.setup.corePath ∧ disk.Verified last disk.setup.corePath ∧
        (disk.linksLicense = false → disk.Licensed last) := by
  refine ⟨?_, ?_, ?_⟩
  · intro tree operation rest last path reaches
    exact ((safe_ensured separate tree).of_reaches reaches).permits path
  · intro fuel tree operation rest last path reaches
    exact ((safe_start separate fuel tree).of_reaches reaches).permits path
  · intro tree core last reaches
    exact ((safe_ensured separate tree).of_reaches reaches).result core rfl

/-- A first installation on the shipped setup. -/
def firstInstallation : System (Result CoreInfo) × ReleaseTree :=
  follow (releaseRespond true) shippedSetup.ensureCore freshTree

theorem installs_firstInstallation : firstInstallation.1.outcome? = some true ∧
    firstInstallation.2.read shippedSetup.licensePath = none := by
  decide +kernel

/-- A success that is reached. -/
theorem reaches_firstInstallation : ∃ core,
    Reaches (releaseDisk true).surroundings (shippedSetup.ensureCore, freshTree)
      (.done (.ok core), firstInstallation.2) := by
  obtain ⟨succeeded, -⟩ := installs_firstInstallation
  cases ended : firstInstallation.1.result? with
  | none => simp [outcome?, ended] at succeeded
  | some result =>
      cases result with
      | error failure => simp [outcome?, ended, Except.isOk, Except.toBool] at succeeded
      | ok core => exact ⟨core, reaches_of_follow (within_releaseRespond true) ended⟩

theorem no_unverified_core_example : ∃ core,
    Reaches (releaseDisk true).surroundings (shippedSetup.ensureCore, freshTree)
      (.done (.ok core), firstInstallation.2) ∧
    core.executable = shippedSetup.corePath ∧
    (releaseDisk true).Verified firstInstallation.2 shippedSetup.corePath := by
  obtain ⟨core, reaches⟩ := reaches_firstInstallation
  obtain ⟨-, -, success⟩ := no_unverified_core (releaseDisk true) separate_shippedSetup
  obtain ⟨executable, verified, -⟩ := success freshTree core firstInstallation.2 reaches
  exact ⟨core, reaches, executable, verified⟩

/-- A license that `tar` staged as a link to another staged file passes every
check, and leads nowhere once the staging tree is removed: `ensureCore` succeeds
without a license that can be read. -/
theorem license_lost_after_success : ∃ core last,
    Reaches (releaseDisk true).surroundings (shippedSetup.ensureCore, freshTree)
      (.done (.ok core), last) ∧ ¬ (releaseDisk true).Licensed last := by
  obtain ⟨core, reaches⟩ := reaches_firstInstallation
  refine ⟨core, _, reaches, ?_⟩
  rintro ⟨content, read, -⟩
  cases installs_firstInstallation.2.symm.trans read

/-! ## Repairs -/

section Repairs

variable {first last : Tree Content}

/-- A name that is no link in a real directory was none before the directories
were made. -/
theorem unlinked_of_addsDirectories {start : Tree Content} {parent : List Bytes} {name : Bytes}
    (adds : first.AddsDirectories start) (real : start.Real parent)
    (unlinked : ∀ target, first.lookup (parent ++ [name]) ≠ some (.link target))
    (nonempty : parent ≠ []) (target : List Bytes) :
    start.node (parent ++ [name]) ≠ some (.link target) := by
  intro linked
  have before : first.node (parent ++ [name]) = some (.link target) := by
    cases old : first.node (parent ++ [name]) with
    | some node => rw [← linked, adds.grows _ _ old]
    | none =>
        rcases adds.added _ old with still | directory
        · rw [still] at linked
          cases linked
        · rw [directory] at linked
          cases linked
  have parentFound : first.node parent ≠ none := by
    intro missing
    rw [FileTree.node_append_none name nonempty (by simp [missing])] at before
    cases before
  have resolved : first.resolve (FileTree.maxLinks + 1) parent = some parent :=
    adds.resolve_old parentFound (real.resolve FileTree.maxLinks)
  apply unlinked target
  simp [FileTree.lookup, FileTree.locate, resolved, before]

/-- What a name in a real directory is read as depends on what is there only. -/
theorem read_of_node_eq {tree next : Tree Content} {parent : List Bytes} {name : Bytes}
    (real : tree.Real parent) (realNext : next.Real parent)
    (unlinked : ∀ target, tree.node (parent ++ [name]) ≠ some (.link target))
    (same : next.node (parent ++ [name]) = tree.node (parent ++ [name])) :
    next.read (parent ++ [name]) = tree.read (parent ++ [name]) := by
  rw [real.read unlinked, realNext.read (by rwa [same]), same]

/-- The core is read as at first, or is the verified one. -/
def CoreKept (disk : CoreDisk Content) (first last : Tree Content) : Prop :=
  (last.read disk.setup.corePath = first.read disk.setup.corePath ∨
    ∃ content, last.read disk.setup.corePath = some content ∧ disk.IsCore content) ∧
  (disk.Verified first disk.setup.corePath → disk.Verified last disk.setup.corePath)

/-- The license is read as at first, or is the verified one. -/
def LicenseKept (disk : CoreDisk Content) (first last : Tree Content) : Prop :=
  (last.read disk.setup.licensePath = first.read disk.setup.licensePath ∨ disk.Licensed last) ∧
  (disk.Licensed first → disk.Licensed last)

theorem coreDirectory_ne_nil (setup : Setup) : setup.coreDirectory ≠ [] := by
  simp [Setup.coreDirectory]

theorem Sound.coreKept (sound : disk.Sound first last)
    (unlinked : ∀ target, first.lookup disk.setup.corePath ≠ some (.link target)) :
    disk.CoreKept first last := by
  rcases sound with adds | ⟨start, adds, real, kept⟩
  · exact ⟨.inl (adds.read _), fun verified => verified.of_grows adds.grows⟩
  rcases kept.core with same | ⟨content, found, isCore⟩
  · constructor
    · have noLink := unlinked_of_addsDirectories adds real unlinked (coreDirectory_ne_nil _)
      exact .inl ((read_of_node_eq real kept.directory noLink same).trans (adds.read _))
    · rintro ⟨content, found, isCore⟩
      refine ⟨content, ?_, isCore⟩
      have before := adds.grows.lookup found
      rw [Setup.corePath, real.lookup] at before
      rw [Setup.corePath, kept.directory.lookup]
      exact same.trans before
  · have lookup : last.lookup disk.setup.corePath = some (.file content) :=
      (kept.directory.lookup _).trans found
    exact ⟨.inr ⟨content, FileTree.read_of_lookup lookup, isCore⟩, fun _ =>
      ⟨content, lookup, isCore⟩⟩

theorem Sound.licenseKept (sound : disk.Sound first last) (plain : disk.linksLicense = false)
    (unlinked : ∀ target, first.lookup disk.setup.licensePath ≠ some (.link target)) :
    disk.LicenseKept first last := by
  have asBefore (same : last.read disk.setup.licensePath = first.read disk.setup.licensePath) :
      disk.LicenseKept first last := by
    refine ⟨.inl same, ?_⟩
    rintro ⟨content, read, digest⟩
    exact ⟨content, same.trans read, digest⟩
  rcases sound with adds | ⟨start, adds, real, kept⟩
  · exact asBefore (adds.read _)
  rcases kept.license with same | inPlace
  · have noLink := unlinked_of_addsDirectories adds real unlinked (coreDirectory_ne_nil _)
    exact asBefore ((read_of_node_eq real kept.directory noLink same).trans (adds.read _))
  · obtain ⟨content, found, digest⟩ := inPlace plain
    have licensed : disk.Licensed last := by
      rw [Setup.licensePath] at found
      refine ⟨content, ?_, digest⟩
      rw [Setup.licensePath, kept.directory.read (by simp [found]), found]
      rfl
    exact ⟨.inr licensed, fun _ => licensed⟩

/-- A repair never damages what is installed, wherever it fails or is cut off:
at every step each of the two files is read as at first or is the verified one,
and a file that was right at first is still right, unless one of them is a link
at first or is staged as one. -/
theorem repair_keeps_files (disk : CoreDisk Content) (separate : disk.setup.Separate)
    (plain : disk.linksLicense = false) {first last : Tree Content}
    (coreUnlinked : ∀ target, first.lookup disk.setup.corePath ≠ some (.link target))
    (licenseUnlinked : ∀ target, first.lookup disk.setup.licensePath ≠ some (.link target))
    {program : System (Result CoreInfo)}
    (reaches : Reaches disk.surroundings (disk.setup.repairCore, first) (program, last)) :
    disk.CoreKept first last ∧ disk.LicenseKept first last := by
  have held (later : Tree Content) (sound : disk.Sound first later) : disk.Sound first later :=
    sound
  have sound : disk.Sound first last :=
    ((safe_repairCore separate held).of_reaches reaches).holds
  exact ⟨sound.coreKept coreUnlinked, sound.licenseKept plain licenseUnlinked⟩

/-- A repair whose download does not come to an end. -/
def interruptedRepair (tree : ReleaseTree) : System (Result CoreInfo) × ReleaseTree :=
  follow (releaseRespond false) shippedSetup.repairCore tree

theorem reaches_interruptedRepair (tree : ReleaseTree) :
    Reaches (releaseDisk false).surroundings (shippedSetup.repairCore, tree)
      (interruptedRepair tree) :=
  reaches_follow (within_releaseRespond false) _ tree

theorem repair_keeps_files_example :
    (releaseDisk false).CoreKept installedTree (interruptedRepair installedTree).2 ∧
    (releaseDisk false).LicenseKept installedTree (interruptedRepair installedTree).2 := by
  have core : installedTree.lookup shippedSetup.corePath = some (.file .core) := by decide +kernel
  have license : installedTree.lookup shippedSetup.licensePath = some (.file .license) := by
    decide +kernel
  refine repair_keeps_files (releaseDisk false) separate_shippedSetup rfl ?_ ?_
    (reaches_interruptedRepair installedTree)
  · intro target linked
    cases core.symm.trans linked
  · intro target linked
    cases license.symm.trans linked

/-- An installed license that is a link into an old staging tree, where it can be
read and is the release's, is lost by the repair's clean-up. -/
theorem license_lost_in_repair : ∃ program last,
    Reaches (releaseDisk false).surroundings (shippedSetup.repairCore, linkedTree)
      (program, last) ∧
    (releaseDisk false).Verified linkedTree shippedSetup.corePath ∧
    (releaseDisk false).Licensed linkedTree ∧ last.read shippedSetup.licensePath = none := by
  have core : linkedTree.lookup shippedSetup.corePath = some (.file .core) := by decide +kernel
  have license : linkedTree.read shippedSetup.licensePath = some .license := by decide +kernel
  have lost : (interruptedRepair linkedTree).2.read shippedSetup.licensePath = none := by
    decide +kernel
  exact ⟨_, _, reaches_interruptedRepair linkedTree, ⟨.core, core, rfl, rfl⟩,
    ⟨.license, license, rfl⟩, lost⟩

end Repairs

end CoreDisk

end TunProxy
