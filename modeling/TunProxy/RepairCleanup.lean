import TunProxy.HarmlessCalls
import TunProxy.ReleaseDisk
import TunProxy.StaleArtifacts

/-!
# What a repair leaves behind

A repair whose removals succeed leaves neither a staging tree nor a partial
download, of its own or of an earlier repair, and changes nothing else but the
installed files.  Symbolic links stay as they are, and what they lead to stays
there unless it is among what is removed or installed.
-/

namespace TunProxy

open ByteText EffectProgram

namespace CoreDisk

variable {Content : Type} {disk : CoreDisk Content} {process : Nat} {examined : Prop}
variable {first tree next : Tree Content} {position : List Bytes}

/-! ## Leftovers -/

/-- Leftovers of earlier repairs with all that is in them: real directories named as
staging trees, and regular files named as partial downloads. -/
def Stale (disk : CoreDisk Content) (first : Tree Content) (position : List Bytes) : Prop :=
  (∃ name, Setup.stagingPrefix.isPrefixOf name = true ∧
    first.node (disk.setup.coreDirectory ++ [name]) = some .directory ∧
    disk.setup.coreDirectory ++ [name] <+: position) ∨
  ∃ name content, disk.setup.partPrefix.isPrefixOf name = true ∧
    first.node (disk.setup.paths.cacheDir ++ [name]) = some (.file content) ∧
    disk.setup.paths.cacheDir ++ [name] <+: position

/-- The installed files and the entries named after a process, with all that is in
them. -/
def Own (setup : Setup) (process : Nat) (position : List Bytes) : Prop :=
  setup.corePath <+: position ∨ setup.licensePath <+: position ∨
    setup.stagingPath (formatNat process) <+: position ∨
    setup.archivePath (formatNat process) <+: position

/-- The directories of the core and of the downloads, and those above them. -/
def OnWay (setup : Setup) (position : List Bytes) : Prop :=
  position <+: setup.paths.cacheDir ∨ position <+: setup.coreDirectory

/-- How a repair leaves the disk. -/
structure CleanedUp (disk : CoreDisk Content) (process : Nat) (first last : Tree Content) :
    Prop where
  staging : ∀ name, Setup.stagingPrefix.isPrefixOf name = true →
    last.node (disk.setup.coreDirectory ++ [name]) ≠ some .directory
  parts : ∀ name content, disk.setup.partPrefix.isPrefixOf name = true →
    last.node (disk.setup.paths.cacheDir ++ [name]) ≠ some (.file content)
  kept : ∀ position, ¬ disk.Stale first position → ¬ Own disk.setup process position →
    ¬ OnWay disk.setup position → last.node position = first.node position
  /-- What is reached without passing through what is removed or installed. -/
  reached : ∀ part : Tree Content, part.Grows first →
    (∀ position, part.node position ≠ none →
      ¬ disk.Stale first position ∧ ¬ Own disk.setup process position) →
    ∀ path node, part.stat path = some node → last.stat path = some node

section Places

theorem not_onWay_core (separate : disk.setup.Separate) (name : Bytes) :
    ¬ OnWay disk.setup (disk.setup.coreDirectory ++ [name]) := by
  rintro (within | within)
  · exact separate.core ((List.prefix_append _ _).trans within)
  · exact not_prefix_of_length (by simp) within

theorem not_onWay_cache (separate : disk.setup.Separate) (name : Bytes) :
    ¬ OnWay disk.setup (disk.setup.paths.cacheDir ++ [name]) := by
  rintro (within | within)
  · exact not_prefix_of_length (by simp) within
  · exact separate.cache ((List.prefix_append _ _).trans within)

theorem OnWay.of_prefix {front : List Bytes} (onWay : OnWay disk.setup position)
    (within : front <+: position) : OnWay disk.setup front :=
  onWay.imp within.trans within.trans

/-- No entry of either directory is on the way to them. -/
theorem not_onWay_of_stale (separate : disk.setup.Separate) (stale : disk.Stale first position) :
    ¬ OnWay disk.setup position := by
  intro onWay
  rcases stale with ⟨name, -, -, below⟩ | ⟨name, content, -, -, below⟩
  · exact not_onWay_core separate name (onWay.of_prefix below)
  · exact not_onWay_cache separate name (onWay.of_prefix below)

theorem not_onWay_of_own (separate : disk.setup.Separate) (own : Own disk.setup process position) :
    ¬ OnWay disk.setup position := by
  intro onWay
  rcases own with below | below | below | below
  · exact not_onWay_core separate _ (onWay.of_prefix below)
  · exact not_onWay_core separate _ (onWay.of_prefix below)
  · exact not_onWay_core separate _ (onWay.of_prefix below)
  · exact not_onWay_cache separate _ (onWay.of_prefix below)

theorem eq_of_entry_prefix {directory : Path} {name other : Bytes}
    (within : directory ++ [name] <+: directory ++ [other]) : name = other := by
  simpa using within.eq_of_length (by simp)

theorem not_entry_prefix {first second : Path} {name other : Bytes} (different : first ≠ second)
    (outside : ¬ first ++ [name] <+: second) : ¬ first ++ [name] <+: second ++ [other] := by
  intro within
  rcases List.prefix_concat_iff.mp within with same | inside
  · have parents := congrArg List.dropLast same
    simp only [List.dropLast_concat] at parents
    exact different parents
  · exact outside inside

/-- No entry of one directory lies at or below one of the other. -/
theorem not_core_prefix_cache (separate : disk.setup.Separate) {name other : Bytes} :
    ¬ disk.setup.coreDirectory ++ [name] <+: disk.setup.paths.cacheDir ++ [other] := by
  apply not_entry_prefix
  · exact fun same => separate.core (same ▸ List.prefix_refl _)
  · exact fun inside => not_onWay_core separate name (.inl inside)

theorem not_cache_prefix_core (separate : disk.setup.Separate) {name other : Bytes} :
    ¬ disk.setup.paths.cacheDir ++ [name] <+: disk.setup.coreDirectory ++ [other] := by
  apply not_entry_prefix
  · exact fun same => separate.cache (same ▸ List.prefix_refl _)
  · exact fun inside => not_onWay_cache separate name (.inr inside)

end Places

/-! ## Before the staging directory is made -/

/-- Where nothing on the way to a directory changes, the directory stays real. -/
theorem real_of_onWay {start : Tree Content} {way : Path}
    (same : ∀ position, OnWay disk.setup position → tree.node position = start.node position)
    (onWay : OnWay disk.setup way) (real : start.Real way) : tree.Real way := by
  intro position nonempty within
  rw [same position (onWay.of_prefix within)]
  exact real position nonempty within

/-- Both directories are there, and besides the way to them all is as at first. -/
structure Prepared (disk : CoreDisk Content) (first tree : Tree Content) : Prop where
  cache : tree.Real disk.setup.paths.cacheDir
  directory : tree.Real disk.setup.coreDirectory
  grows : first.Grows tree
  same : ∀ position, ¬ OnWay disk.setup position → tree.node position = first.node position

theorem clears_ensureDirectory {path : Path} (mode : Nat)
    (elsewhere : ¬ disk.setup.stagingPath (formatNat process) <+: path) :
    Safe (disk.clearing process examined) unwatched
      (fun result later => later.2 = false ∧ tree.Paves later.1 path ∧
        (result = .ok () → later.1.Real path))
      (ensureDirectory path mode) (tree, false) := by
  have ensured : Safe disk.surroundings (disk.guarded fun _ => True)
      (fun result later => tree.Paves later path ∧ (result = .ok () → later.Real path))
      (ensureDirectory path mode) tree := safe_ensureDirectory (fun _ _ => trivial) path mode
  have none : (ensureDirectory path mode).Calls (MakesNone disk.setup process) := by
    refine (makesWay_ensureDirectory path mode).imp fun operation makes answer => ?_
    cases operation with
    | mkdir made mode =>
        cases answer with
        | created =>
            refine decide_eq_false ?_
            rintro rfl
            exact elsewhere makes
        | present => rfl
        | failed detail => rfl
    | _ => rfl
  exact ((clears_makesNone none).and (clears_of_safe process examined false ensured)).unwatch

/-- The directories are made, and a repair goes on, or it ends before its staging
directory is made. -/
theorem clears_ensures {post : Result CoreInfo → Tree Content × Bool → Prop} {path : Path}
    (mode : Nat) (elsewhere : ¬ disk.setup.stagingPath (formatNat process) <+: path)
    {rest : System (Result CoreInfo)}
    (failed : ∀ failure later, later.2 = false → post (.error failure) later)
    (goesOn : ∀ later, tree.Paves later path → later.Real path →
      Safe (disk.clearing process examined) unwatched post rest (later, false)) :
    Safe (disk.clearing process examined) unwatched post
      ((ensureDirectory path mode).andThen fun _ => rest) (tree, false) := by
  refine (clears_ensureDirectory mode elsewhere).bind fun result later => ?_
  obtain ⟨later, made⟩ := later
  rintro ⟨rfl, paves, real⟩
  cases result with
  | error failure => exact clears_value (failed failure _ rfl)
  | ok done => exact goesOn later paves (real rfl)

/-- The staging directory is in neither directory's way. -/
theorem not_stagingPath_prefix (separate : disk.setup.Separate) {path : Path}
    (onWay : OnWay disk.setup path) : ¬ disk.setup.stagingPath (formatNat process) <+: path :=
  fun within => not_onWay_core separate _ (onWay.of_prefix within)

theorem prepared_of_paves {second third : Tree Content}
    (cache : first.Paves second disk.setup.paths.cacheDir)
    (cores : second.Paves third (disk.setup.paths.dataDir ++ [ascii "cores"]))
    (core : third.Paves tree disk.setup.coreDirectory)
    (cacheReal : second.Real disk.setup.paths.cacheDir)
    (coreReal : tree.Real disk.setup.coreDirectory) : disk.Prepared first tree := by
  have front : disk.setup.paths.dataDir ++ [ascii "cores"] <+: disk.setup.coreDirectory :=
    ⟨[disk.setup.manifest.version], by simp [Setup.coreDirectory]⟩
  refine ⟨(cores.grows.trans core.grows).real cacheReal, coreReal,
    cache.grows.trans (cores.grows.trans core.grows), fun position off => ?_⟩
  rw [core.node_eq fun within => off (.inr within),
    cores.node_eq fun within => off (.inr (within.trans front)),
    cache.node_eq fun within => off (.inl within)]

/-- The leftovers are gone, and besides them and the way to both directories all is as
at first. -/
structure Emptied (disk : CoreDisk Content) (first tree : Tree Content) : Prop where
  cache : tree.Real disk.setup.paths.cacheDir
  directory : tree.Real disk.setup.coreDirectory
  staging : ∀ name, Setup.stagingPrefix.isPrefixOf name = true →
    tree.node (disk.setup.coreDirectory ++ [name]) ≠ some .directory
  parts : ∀ name content, disk.setup.partPrefix.isPrefixOf name = true →
    tree.node (disk.setup.paths.cacheDir ++ [name]) ≠ some (.file content)
  grows : ∀ position node, ¬ disk.Stale first position → first.node position = some node →
    tree.node position = some node
  same : ∀ position, ¬ disk.Stale first position → ¬ OnWay disk.setup position →
    tree.node position = first.node position

theorem emptied_of_cleared (separate : disk.setup.Separate) {middle : Tree Content}
    (prepared : disk.Prepared first tree)
    (core : Cleared disk.setup.coreDirectory Setup.stagingPrefix .directory tree middle)
    (cache : Cleared disk.setup.paths.cacheDir disk.setup.partPrefix .regular middle next)
    (noStaging : ∀ names,
      Rid disk.setup.coreDirectory Setup.stagingPrefix .directory names middle)
    (noParts : ∀ names, Rid disk.setup.paths.cacheDir disk.setup.partPrefix .regular names next) :
    disk.Emptied first next := by
  have same (position : List Bytes) (fresh : ¬ disk.Stale first position) :
      next.node position = tree.node position := by
    rw [cache.frame position ?_, core.frame position ?_]
    · intro name named below isKind
      rw [prepared.same _ (not_onWay_core separate name), isKind_directory] at isKind
      exact fresh (.inl ⟨name, named, isKind, below⟩)
    · intro name named below isKind
      rw [core.node_eq isKind, prepared.same _ (not_onWay_cache separate name),
        isKind_regular] at isKind
      obtain ⟨content, file⟩ := isKind
      exact fresh (.inr ⟨name, content, named, file, below⟩)
  have onWay (position : List Bytes) (onWay : OnWay disk.setup position) :
      next.node position = tree.node position :=
    same position fun stale => not_onWay_of_stale separate stale onWay
  constructor
  · exact real_of_onWay onWay (.inl (List.prefix_refl _)) prepared.cache
  · exact real_of_onWay onWay (.inr (List.prefix_refl _)) prepared.directory
  · intro name named left
    have isKind := isKind_directory.mpr left
    rw [cache.node_eq isKind] at isKind
    exact noStaging [name] name (by simp) named isKind
  · intro name content named left
    exact noParts [name] name (by simp) named (isKind_regular.mpr ⟨content, left⟩)
  · intro position node fresh present
    rw [same position fresh]
    exact prepared.grows position node present
  · intro position fresh off
    rw [same position fresh, prepared.same position off]

/-! ## While the staging directory is there -/

/-- The staging directory is there, and only the installed files and what is named
after the process may have changed. -/
structure Beside (disk : CoreDisk Content) (process : Nat) (start tree : Tree Content) : Prop where
  staging : tree.node (disk.setup.stagingPath (formatNat process)) = some .directory
  same : ∀ position, ¬ Own disk.setup process position → tree.node position = start.node position

section Beside

variable {start : Tree Content}

theorem Beside.of_change (beside : disk.Beside process start tree)
    (change : ∀ position, ¬ Own disk.setup process position ∨
      position = disk.setup.stagingPath (formatNat process) →
      next.node position = tree.node position) : disk.Beside process start next := by
  constructor
  · rw [change _ (.inr rfl)]
    exact beside.staging
  · intro position other
    rw [change position (.inl other)]
    exact beside.same position other

theorem Beside.real (separate : disk.setup.Separate) {way : Path} (onWay : OnWay disk.setup way)
    (real : start.Real way) (beside : disk.Beside process start tree) : tree.Real way := by
  refine real_of_onWay (fun position onWay => beside.same position fun own => ?_) onWay real
  exact not_onWay_of_own separate own onWay

/-- A change of the archive. -/
theorem Beside.of_archive (separate : disk.setup.Separate) (beside : disk.Beside process start tree)
    (change : ∀ position, ¬ disk.setup.archivePath (formatNat process) <+: position →
      next.node position = tree.node position) : disk.Beside process start next := by
  refine beside.of_change fun position place => change position fun below => ?_
  rcases place with other | rfl
  · exact other (.inr (.inr (.inr below)))
  · exact not_cache_prefix_core separate below

/-- A file is moved from the staging directory to its place. -/
theorem Beside.of_renamed {name target : Bytes} (real : tree.Real disk.setup.coreDirectory)
    (unstaged : Setup.stagingPrefix.isPrefixOf target = false)
    (own : ∀ position, disk.setup.coreDirectory ++ [target] <+: position →
      Own disk.setup process position)
    (renamed : Renamed tree (disk.setup.stagingPath (formatNat process) ++ [name])
      (disk.setup.coreDirectory ++ [target]) next) (beside : disk.Beside process start tree) :
    disk.Beside process start next := by
  have staging : tree.Real (disk.setup.stagingPath (formatNat process)) :=
    real.append beside.staging
  refine beside.of_change fun position place => renamed.apart staging real ?_ ?_
  · intro below
    rcases place with other | rfl
    · exact other (.inr (.inr (.inl ((List.prefix_append _ _).trans below))))
    · exact not_prefix_of_length (by simp) below
  · intro below
    rcases place with other | rfl
    · exact other (own position below)
    · have named : Setup.stagingPrefix.isPrefixOf
          (Setup.stagingPrefix ++ formatNat process) = true :=
        List.isPrefixOf_iff_prefix.mpr (List.prefix_append _ _)
      rw [← eq_of_entry_prefix below, unstaged] at named
      cases named

/-- The calls of a repair in its staging tree change nothing else. -/
theorem Beside.of_stages (separate : disk.setup.Separate)
    (cache : start.Real disk.setup.paths.cacheDir) (directory : start.Real disk.setup.coreDirectory)
    (beside : disk.Beside process start tree) {operation : SystemCall}
    {answer : SystemAnswer operation}
    (stages : disk.setup.Stages (disk.setup.archivePath (formatNat process))
      (disk.setup.stagingPath (formatNat process)) operation)
    (answers : disk.Answers tree operation answer next) : disk.Beside process start next := by
  have cacheReal : tree.Real disk.setup.paths.cacheDir :=
    beside.real separate (.inl (List.prefix_refl _)) cache
  have coreReal : tree.Real disk.setup.coreDirectory :=
    beside.real separate (.inr (List.prefix_refl _)) directory
  have archived : tree.locate (disk.setup.archivePath (formatNat process)) =
      some (disk.setup.archivePath (formatNat process)) := cacheReal.locate _
  have staged : tree.locate (disk.setup.stagingPath (formatNat process)) =
      some (disk.setup.stagingPath (formatNat process)) := coreReal.locate _
  have unchanged (same : next = tree) : disk.Beside process start next := same ▸ beside
  cases operation with
  | lstat path =>
      cases answer with
      | found status => exact unchanged answers.1
      | missing => exact unchanged answers.1
      | failed detail => exact unchanged answers
  | geteuid => exact unchanged answers
  | chmod path mode => exact unchanged answers
  | emitLog level message => exact unchanged answers
  | sleepFor milliseconds => exact unchanged answers
  | remove path =>
      obtain rfl : path = disk.setup.archivePath (formatNat process) := stages
      exact beside.of_archive separate fun position elsewhere =>
        Removed.apart cacheReal answers elsewhere
  | rename source destination =>
      obtain ⟨⟨name, rfl⟩, place⟩ := stages
      cases answer with
      | false => exact unchanged answers
      | true =>
          rcases place with rfl | rfl
          · exact beside.of_renamed coreReal (by decide) (fun _ => .inl) answers
          · exact beside.of_renamed coreReal (by decide) (fun _ below => .inr (.inl below)) answers
  | runCapture command =>
      obtain ⟨tool, arguments, timeout, progress⟩ := command
      cases tool with
      | sha256sum path => exact unchanged answers.1
      | coreVersion executable => exact unchanged answers
      | coreCheck executable => exact stages.elim
      | curl archive =>
          obtain rfl : archive = disk.setup.archivePath (formatNat process) := stages
          refine beside.of_archive separate fun position elsewhere => answers position ?_
          intro located
          rw [archived] at located
          exact elsewhere (Option.some.inj located ▸ List.prefix_refl _)
      | tar archive staging =>
          obtain rfl : staging = disk.setup.stagingPath (formatNat process) := stages
          refine beside.of_change fun position place => ?_
          rcases answers.1 position with same | ⟨top, located, below, different⟩
          · exact same
          · rw [staged] at located
            obtain rfl := Option.some.inj located
            rcases place with other | rfl
            · exact absurd (.inr (.inr (.inl below))) other
            · exact absurd rfl different
  | _ => exact stages.elim

theorem clears_repairStaged (separate : disk.setup.Separate)
    (cache : start.Real disk.setup.paths.cacheDir) (directory : start.Real disk.setup.coreDirectory)
    {made : Bool} (beside : disk.Beside process start tree) :
    Safe (disk.clearing process examined) unwatched
      (fun _ later => disk.Beside process start later.1)
      (disk.setup.repairStaged (disk.setup.archivePath (formatNat process))
        (disk.setup.stagingPath (formatNat process))) (tree, made) :=
  Triple.of_calls Setup.stages_repairStaged
    (still_clearing.stable fun world => disk.Beside process start world.1)
    (fun _ _ => trivial) trivial (fun _ _ _ _ => trivial)
    (fun _ _ _ _ beside stages answers =>
      beside.of_stages separate cache directory stages answers.possible) (tree, made) beside

end Beside

/-! ## After the temporary trees are removed -/

theorem cleanedUp_of_emptied (separate : disk.setup.Separate) {start last : Tree Content}
    (emptied : disk.Emptied first start)
    (same : ∀ position, ¬ Own disk.setup process position →
      last.node position = start.node position)
    (noStaging : last.node (disk.setup.stagingPath (formatNat process)) = none)
    (noArchive : last.node (disk.setup.archivePath (formatNat process)) = none) :
    disk.CleanedUp process first last := by
  constructor
  · intro name named left
    by_cases own : Own disk.setup process (disk.setup.coreDirectory ++ [name])
    · rcases own with below | below | below | below
      · obtain rfl := eq_of_entry_prefix below
        exact absurd named (by decide)
      · obtain rfl := eq_of_entry_prefix below
        exact absurd named (by decide)
      · obtain rfl := eq_of_entry_prefix below
        rw [Setup.stagingPath, left] at noStaging
        cases noStaging
      · exact not_cache_prefix_core separate below
    · rw [same _ own] at left
      exact emptied.staging name named left
  · intro name content named left
    by_cases own : Own disk.setup process (disk.setup.paths.cacheDir ++ [name])
    · rcases own with below | below | below | below
      · exact not_core_prefix_cache separate below
      · exact not_core_prefix_cache separate below
      · exact not_core_prefix_cache separate below
      · obtain rfl := eq_of_entry_prefix below
        rw [Setup.archivePath, left] at noArchive
        cases noArchive
    · rw [same _ own] at left
      exact emptied.parts name content named left
  · intro position fresh other off
    rw [same position other]
    exact emptied.same position fresh off
  · intro part within apart path node found
    have grows : part.Grows last := by
      intro position node present
      obtain ⟨fresh, other⟩ := apart position (by simp [present])
      rw [same position other]
      exact emptied.grows position node fresh (within position node present)
    exact grows.stat found

/-- What is removed with all that is in it is gone, and the rest stays. -/
theorem removed_of_clears {parent : List Bytes} {name : Bytes} (real : tree.Real parent)
    (removed : Removed tree (parent ++ [name]) next)
    (clears : Clears tree (.removeAll (parent ++ [name])) next) :
    next.node (parent ++ [name]) = none ∧
      ∀ position, ¬ parent ++ [name] <+: position → next.node position = tree.node position := by
  constructor
  · exact clears _ (real.locate name)
  · exact fun position => removed.apart real

/-- How a repair ends: where its staging directory was made, everything is cleaned up. -/
def EndsClean (disk : CoreDisk Content) (process : Nat) (first : Tree Content)
    (_ : Result CoreInfo) (last : Tree Content × Bool) : Prop :=
  last.2 = true → disk.CleanedUp process first last.1

theorem endsClean_unmade {result : Result CoreInfo} {last : Tree Content × Bool}
    (unmade : last.2 = false) : disk.EndsClean process first result last := by
  intro made
  rw [unmade] at made
  cases made

/-- Both temporary trees are removed, whatever has come out of the repair. -/
theorem clears_temporaryTrees (separate : disk.setup.Separate) {start : Tree Content}
    (emptied : disk.Emptied first start) (beside : disk.Beside process start tree) {made : Bool}
    (result : Result CoreInfo) :
    Safe (disk.clearing process examined) unwatched (disk.EndsClean process first)
      ((removeAll (disk.setup.archivePath (formatNat process))).bind fun _ =>
        (removeAll (disk.setup.stagingPath (formatNat process))).bind fun _ => .done result)
      (tree, made) := by
  have cacheReal : tree.Real disk.setup.paths.cacheDir :=
    beside.real separate (.inl (List.prefix_refl _)) emptied.cache
  refine clears_call fun _ cleared answers => ?_
  obtain ⟨archiveGone, archiveSame⟩ :=
    removed_of_clears cacheReal answers.possible answers.clears
  have besideCleared := beside.of_archive separate archiveSame
  have coreReal : cleared.1.Real disk.setup.coreDirectory :=
    besideCleared.real separate (.inr (List.prefix_refl _)) emptied.directory
  refine clears_call fun _ last answers => ?_
  obtain ⟨stagingGone, stagingSame⟩ :=
    removed_of_clears coreReal answers.possible answers.clears
  refine clears_value fun _ => cleanedUp_of_emptied separate emptied ?_ stagingGone ?_
  · intro position other
    rw [stagingSame position fun below => other (.inr (.inr (.inl below)))]
    exact besideCleared.same position other
  · exact (stagingSame _ (not_core_prefix_cache separate)).trans archiveGone

theorem clears_repairInStaging (separate : disk.setup.Separate)
    (emptied : disk.Emptied first tree) :
    Safe (disk.clearing process examined) unwatched (disk.EndsClean process first)
      disk.setup.repairInStaging (tree, false) := by
  refine clears_call fun found next answers => ?_
  obtain ⟨after, made⟩ := next
  obtain rfl : made = false := answers.made
  obtain rfl : after = tree := answers.possible
  obtain rfl : found = process := answers.isProcess
  refine clears_call fun answer last answers => ?_
  cases answer with
  | present => exact clears_value (endsClean_unmade answers.made)
  | failed detail => exact clears_value (endsClean_unmade answers.made)
  | created =>
      obtain ⟨position, located, -, placed⟩ := answers.possible
      rw [Setup.stagingPath, emptied.directory.locate] at located
      obtain rfl := Option.some.inj located
      have beside : disk.Beside found after last.1 := by
        refine ⟨(placed _).trans (if_pos rfl), fun position other => ?_⟩
        rw [placed position, if_neg]
        rintro rfl
        exact other (.inr (.inr (.inl (List.prefix_refl _))))
      obtain ⟨made, flag⟩ := last
      refine (clears_repairStaged separate emptied.cache emptied.directory beside).bind
        fun result later beside => ?_
      exact clears_temporaryTrees separate emptied beside result

theorem clears_repairCore (separate : disk.setup.Separate) :
    Safe (disk.clearing process True) unwatched (disk.EndsClean process first)
      disk.setup.repairCore (first, false) := by
  have fails (failure : Error) (later : Tree Content × Bool) (unmade : later.2 = false) :
      disk.EndsClean process first (.error failure) later := endsClean_unmade unmade
  have cores : OnWay disk.setup (disk.setup.paths.dataDir ++ [ascii "cores"]) :=
    .inr ⟨[disk.setup.manifest.version], by simp [Setup.coreDirectory]⟩
  have elsewhere {path : Path} (onWay : OnWay disk.setup path) :
      ¬ disk.setup.stagingPath (formatNat process) <+: path :=
    not_stagingPath_prefix separate onWay
  refine clears_ensures _ (elsewhere (.inl (List.prefix_refl _))) fails fun second cache real => ?_
  refine clears_ensures _ (elsewhere cores) fails fun third coresPaved _ => ?_
  refine clears_ensures _ (elsewhere (.inr (List.prefix_refl _))) fails
    fun fourth core coreReal => ?_
  have prepared := prepared_of_paves cache coresPaved core real coreReal
  have outside (name : Bytes) :
      ¬ disk.setup.coreDirectory ++ [name] <+: disk.setup.paths.cacheDir :=
    fun within => not_onWay_core separate name (.inl within)
  refine (clears_removeStaleArtifacts (.inl rfl) prepared.directory).bind fun _ later => ?_
  obtain ⟨fifth, made⟩ := later
  rintro ⟨rfl, coreCleared, noStaging⟩
  refine (clears_removeStaleArtifacts (.inr rfl) (coreCleared.real outside prepared.cache)).bind
    fun _ later => ?_
  obtain ⟨sixth, made⟩ := later
  rintro ⟨rfl, cacheCleared, noParts⟩
  exact clears_repairInStaging separate
    (emptied_of_cleared separate prepared coreCleared cacheCleared noStaging noParts)

/-- Where removals succeed and the leftovers could be listed and examined, a repair
whose staging directory was made leaves no staging tree and no partial download
behind, whether it succeeds or not, and besides the installed files and what is named
after its process it changes nothing but these. -/
theorem repairCore_cleansUp (separate : disk.setup.Separate) {result : Result CoreInfo}
    {last : Tree Content}
    (repaired : Reaches (disk.clearing process True) (disk.setup.repairCore, (first, false))
      (.done result, (last, true))) : disk.CleanedUp process first last :=
  ((clears_repairCore separate).of_reaches repaired).result rfl

end CoreDisk

/-! ## A disk that can be listed -/

/-- A tree with all names that occur in it. -/
structure ListedTree where
  tree : ReleaseTree
  names : List Bytes
  complete : ∀ position name, tree.node (position ++ [name]) ≠ none → name ∈ names

namespace ListedTree

def empty : ListedTree where
  tree := emptyTree
  names := []
  complete _ _ present := absurd rfl present

def place? (listed : ListedTree) (position : List Bytes) (node : FileNode Bytes ReleaseFile) :
    Option ListedTree :=
  match placed : listed.tree.place? position node with
  | none => none
  | some next => some
      { tree := next
        names := position.getLast?.toList ++ listed.names
        complete := by
          intro parent name present
          rw [(ReleaseTree.node_of_place? placed).2] at present
          split at present
          next same => simp [← same]
          next => exact List.mem_append_right _ (listed.complete parent name present) }

/-- The tree with one more node, or as it is where that does not fit. -/
def put (listed : ListedTree) (position : List Bytes) (node : FileNode Bytes ReleaseFile) :
    ListedTree :=
  (listed.place? position node).getD listed

def erase (listed : ListedTree) (position : List Bytes) : ListedTree where
  tree := listed.tree.erase position
  names := listed.names
  complete := by
    intro parent name present
    by_cases below : position <+: parent ++ [name]
    · exact absurd (if_pos below) present
    · exact listed.complete parent name fun absent => present ((if_neg below).trans absent)

/-- The entries of a directory. -/
def entries (listed : ListedTree) (directory : List Bytes) : List Bytes :=
  listed.names.filter fun name => (listed.tree.node (directory ++ [name])).isSome

/-- Take away what a path names. -/
def remove (listed : ListedTree) (path : Path) : ListedTree :=
  match listed.tree.locate path with
  | some position => listed.erase position
  | none => listed

end ListedTree

/-- A system of process 7 in which every download fails, and directories are listed or
not. -/
def cleanRespond (lists : Bool) : Responder SystemAnswer (ListedTree × Bool)
  | (listed, made), .lstat path =>
      match listed.tree.lookup path with
      | some node => some (.found (nodeStatus node), (listed, made))
      | none => some (.missing, (listed, made))
  | (listed, made), .mkdir path _ => do
      let position ← listed.tree.locate path
      let next ← listed.place? position .directory
      some (.created, (next, made || decide (path = shippedSetup.stagingPath (formatNat 7))))
  | (listed, made), .remove path => some ((), (listed.remove path, made))
  | (listed, made), .removeAll path => some ((), (listed.remove path, made))
  | state, .runCapture _ => some (exited 22 [], state)
  | state, .chmod _ _ => some (.ok (), state)
  | state, .emitLog _ _ => some ((), state)
  | state, .sleepFor _ => some ((), state)
  | state, .getpid => some (7, state)
  | (listed, made), .listDirectory path =>
      if lists then
        (listed.tree.resolve (FileTree.maxLinks + 1) path).map fun position =>
          (some (listed.entries position), (listed, made))
      else some (none, (listed, made))
  | _, _ => none

namespace CoreDisk

theorem removed_remove (listed : ListedTree) (path : Path) :
    Removed listed.tree path (listed.remove path).tree := by
  unfold ListedTree.remove
  split
  next position located => exact removed_erase located
  next => exact fun _ => .inl rfl

theorem node_remove {listed : ListedTree} {path : Path} {position : List Bytes}
    (located : listed.tree.locate path = some position) :
    (listed.remove path).tree.node position = none := by
  unfold ListedTree.remove
  rw [located]
  exact if_pos (List.prefix_refl _)

theorem eq_of_replied {α : Type} {answer answer' : α} {listed next : ListedTree} {made after : Bool}
    (replied : some (answer, listed, made) = some (answer', next, after)) :
    answer = answer' ∧ listed = next ∧ made = after := by
  simpa using replied

/-- What the responder does can happen. -/
theorem within_cleanRespond {lists : Bool} (listing : examined → lists = true) :
    (cleanRespond lists).Within ((releaseDisk true).clearing 7 examined)
      fun state => (state.1.tree, state.2) := by
  rintro ⟨listed, made⟩ operation answer ⟨next, after⟩ responded
  refine ⟨(listed.tree, made), .refl, ?_⟩
  cases operation with
  | lstat path =>
      simp only [cleanRespond] at responded
      split at responded
      next node found =>
        obtain ⟨rfl, rfl, rfl⟩ := eq_of_replied responded
        exact ⟨⟨rfl, node, found, describes_nodeStatus node⟩, trivial, fun _ _ => trivial, trivial,
          (Bool.or_false _).symm⟩
      next missing =>
        obtain ⟨rfl, rfl, rfl⟩ := eq_of_replied responded
        exact ⟨⟨rfl, missing⟩, trivial, fun _ _ => trivial, trivial, (Bool.or_false _).symm⟩
  | mkdir path mode =>
      obtain ⟨position, located, ran⟩ := Option.bind_eq_some_iff.mp responded
      obtain ⟨placedTree, placed, ran⟩ := Option.bind_eq_some_iff.mp ran
      obtain ⟨rfl, rfl, rfl⟩ := eq_of_replied ran
      unfold ListedTree.place? at placed
      split at placed
      next => cases placed
      next tree fits =>
        obtain rfl := Option.some.inj placed
        exact ⟨⟨position, located, ReleaseTree.node_of_place? fits⟩, trivial, fun _ _ => trivial,
          trivial, rfl⟩
  | remove path =>
      obtain ⟨-, rfl, rfl⟩ := eq_of_replied responded
      exact ⟨removed_remove listed path, fun _ located _ => node_remove located, fun _ _ => trivial,
        trivial, (Bool.or_false _).symm⟩
  | removeAll path =>
      obtain ⟨-, rfl, rfl⟩ := eq_of_replied responded
      exact ⟨removed_remove listed path, fun _ located => node_remove located, fun _ _ => trivial,
        trivial, (Bool.or_false _).symm⟩
  | runCapture command =>
      obtain ⟨rfl, rfl, rfl⟩ := eq_of_replied responded
      refine ⟨?_, trivial, fun _ _ => trivial, trivial, (Bool.or_false _).symm⟩
      obtain ⟨tool, arguments, timeout, progress⟩ := command
      cases tool with
      | sha256sum path =>
          refine ⟨rfl, fun output hash same code => ?_⟩
          obtain rfl := Except.ok.inj same
          cases code
      | curl archive => exact fun _ _ => rfl
      | tar archive staging => exact ⟨fun _ => .inl rfl, fun unlinked => nomatch unlinked⟩
      | coreVersion executable => rfl
      | coreCheck executable => rfl
  | listDirectory path =>
      simp only [cleanRespond] at responded
      split at responded
      next =>
        obtain ⟨position, resolved, reply⟩ := Option.map_eq_some_iff.mp responded
        obtain ⟨rfl, rfl, rfl⟩ := eq_of_replied (congrArg some reply)
        refine ⟨rfl, trivial, fun _ _ => ⟨_, rfl, fun other name there present => ?_⟩, trivial,
          (Bool.or_false _).symm⟩
        obtain rfl := Option.some.inj (resolved.symm.trans there)
        exact List.mem_filter.mpr ⟨listed.complete position name present,
          Option.isSome_iff_ne_none.mpr present⟩
      next silent =>
        obtain ⟨rfl, rfl, rfl⟩ := eq_of_replied responded
        exact ⟨rfl, trivial, fun examined => absurd (listing examined) silent, trivial,
          (Bool.or_false _).symm⟩
  | getpid =>
      obtain ⟨rfl, rfl, rfl⟩ := eq_of_replied responded
      exact ⟨rfl, trivial, fun _ _ => trivial, rfl, (Bool.or_false _).symm⟩
  | chmod path mode =>
      obtain ⟨rfl, rfl, rfl⟩ := eq_of_replied responded
      exact ⟨rfl, trivial, fun _ _ => trivial, trivial, (Bool.or_false _).symm⟩
  | emitLog level message =>
      obtain ⟨rfl, rfl, rfl⟩ := eq_of_replied responded
      exact ⟨rfl, trivial, fun _ _ => trivial, trivial, (Bool.or_false _).symm⟩
  | sleepFor milliseconds =>
      obtain ⟨rfl, rfl, rfl⟩ := eq_of_replied responded
      exact ⟨rfl, trivial, fun _ _ => trivial, trivial, (Bool.or_false _).symm⟩
  | _ => cases responded

/-! ## An interrupted repair -/

/-- A staging tree that process 5 has left. -/
def abandonedStaging : Path :=
  shippedSetup.stagingPath (formatNat 5)

/-- A link beside it. -/
def licenseLink : Path :=
  shippedSetup.coreDirectory ++ [ascii "license"]

/-- What process 5 has left, and a link to one of the files. -/
def abandonedTree : ListedTree :=
  let made : ListedTree :=
    releaseDirectories.foldl (fun listed position => listed.put position .directory) .empty
  let staged := (made.put abandonedStaging .directory).put (abandonedStaging ++ [ascii "LICENSE"])
    (.file .license)
  (staged.put licenseLink (.link (abandonedStaging ++ [ascii "LICENSE"]))).put
    (shippedSetup.archivePath (formatNat 5)) (.file .archive)

/-- The repair of process 7 after that. -/
def repairedAfter (lists : Bool) : System (Result CoreInfo) × (ListedTree × Bool) :=
  follow (cleanRespond lists) shippedSetup.repairCore (abandonedTree, false)

theorem repairedAfter_ends (lists : Bool) :
    (repairedAfter lists).1.outcome? = some false ∧ (repairedAfter lists).2.2 = true := by
  cases lists with
  | _ => decide +kernel

/-- The repair is a run on the disk. -/
theorem reaches_repairedAfter {lists : Bool} (listing : examined → lists = true) : ∃ result,
    Reaches ((releaseDisk true).clearing 7 examined)
      (shippedSetup.repairCore, (abandonedTree.tree, false))
      (.done result, ((repairedAfter lists).2.1.tree, true)) := by
  obtain ⟨ends, made⟩ := repairedAfter_ends lists
  obtain ⟨result, done, -⟩ := Option.map_eq_some_iff.mp ends
  have reaches := reaches_of_follow (within_cleanRespond listing) done
  change Reaches _ _ (_, ((repairedAfter lists).2.1.tree, (repairedAfter lists).2.2)) at reaches
  rw [made] at reaches
  exact ⟨result, reaches⟩

/-- The leftovers of process 5 are cleaned up by process 7. -/
theorem repairCore_cleansUp_example :
    (releaseDisk true).CleanedUp 7 abandonedTree.tree (repairedAfter true).2.1.tree := by
  obtain ⟨result, reaches⟩ := reaches_repairedAfter fun _ : True => rfl
  have separate : (releaseDisk true).setup.Separate := separate_shippedSetup
  exact repairCore_cleansUp separate reaches

/-- A link into a leftover leads nowhere after the repair, and where the directories
cannot be listed the leftovers stay. -/
theorem repairCore_unlinks :
    (∃ result last, Reaches ((releaseDisk true).clearing 7 True)
        (shippedSetup.repairCore, (abandonedTree.tree, false)) (.done result, (last, true)) ∧
      last.node licenseLink = abandonedTree.tree.node licenseLink ∧
      abandonedTree.tree.stat licenseLink = some (.file .license) ∧
      last.stat licenseLink = none) ∧
    ∃ result last, Reaches ((releaseDisk true).clearing 7 False)
        (shippedSetup.repairCore, (abandonedTree.tree, false)) (.done result, (last, true)) ∧
      last.node abandonedStaging = some .directory := by
  obtain ⟨result, reaches⟩ := reaches_repairedAfter fun _ : True => rfl
  obtain ⟨other, silent⟩ :=
    @reaches_repairedAfter False false fun impossible => impossible.elim
  refine ⟨⟨result, _, reaches, ?_⟩, other, _, silent, ?_⟩
  · decide +kernel
  · decide +kernel

end CoreDisk

end TunProxy
