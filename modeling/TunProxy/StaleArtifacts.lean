import TunProxy.CoreRepair

/-!
# Removing stale artifacts

What `removeStaleArtifacts` does to a directory where its removals succeed and
where the entries are listed and examined without error: the real directories, or
the regular files, of the given names are gone, and everything else is as it was,
whatever the entries that are links lead to.
-/

namespace TunProxy

open ByteText EffectProgram

namespace CoreDisk

variable {Content : Type} {disk : CoreDisk Content} {process : Nat} {examined : Prop}
variable {tree : Tree Content} {made : Bool}

/-! ## Disks on which removals succeed -/

/-- A removal succeeds.  `remove` takes no directory away that is not empty. -/
def Clears (tree : Tree Content) (operation : SystemCall) (next : Tree Content) : Prop :=
  match operation with
  | .remove path => ∀ position, tree.locate path = some position →
      tree.node position ≠ some .directory → next.node position = none
  | .removeAll path => ∀ position, tree.locate path = some position → next.node position = none
  | _ => True

/-- A directory is listed in full, and an entry is examined without error. -/
def Examines (tree : Tree Content) : (operation : SystemCall) → SystemAnswer operation → Prop
  | .listDirectory path, names => ∃ entries, names = some entries ∧ ∀ position name,
      tree.resolve (FileTree.maxLinks + 1) path = some position →
      tree.node (position ++ [name]) ≠ none → name ∈ entries
  | .lstat path, .failed _ => tree.lookup path = none
  | _, _ => True

/-- The process has the given identifier. -/
def IsProcess (process : Nat) : (operation : SystemCall) → SystemAnswer operation → Prop
  | .getpid, answer => answer = process
  | _, _ => True

/-- Whether a call has made the staging directory of the process. -/
def makesStaging (setup : Setup) (process : Nat) :
    (operation : SystemCall) → SystemAnswer operation → Bool
  | .mkdir path _, .created => decide (path = setup.stagingPath (formatNat process))
  | _, _ => false

/-- An answer where removals succeed; what is listed and examined before the staging
directory is made is listed and examined without error where `examined` says so. -/
structure ClearingAnswers (disk : CoreDisk Content) (process : Nat) (examined : Prop)
    (world : Tree Content × Bool) (operation : SystemCall) (answer : SystemAnswer operation)
    (next : Tree Content × Bool) : Prop where
  possible : disk.Answers world.1 operation answer next.1
  clears : Clears world.1 operation next.1
  examines : examined → world.2 = false → Examines world.1 operation answer
  isProcess : IsProcess process operation answer
  made : next.2 = (world.2 || makesStaging disk.setup process operation answer)

/-- A disk on which removals succeed, and whether the staging directory has been made. -/
def clearing (disk : CoreDisk Content) (process : Nat) (examined : Prop) :
    Surroundings SystemAnswer (Tree Content × Bool) where
  answers := disk.ClearingAnswers process examined
  drift _ _ := False

theorem still_clearing : Still (disk.clearing process examined) :=
  fun _ _ => not_false

section Rules

variable {α : Type} {post : α → Tree Content × Bool → Prop} {world : Tree Content × Bool}

theorem clears_value {value : α} (result : post value world) :
    Safe (disk.clearing process examined) unwatched post (.done value) world :=
  still_clearing.safe_done trivial result

theorem clears_call {operation : SystemCall} {rest : SystemAnswer operation → System α}
    (answered : ∀ answer next, disk.ClearingAnswers process examined world operation answer next →
      Safe (disk.clearing process examined) unwatched post (rest answer) next) :
    Safe (disk.clearing process examined) unwatched post (.call operation rest) world :=
  still_clearing.safe_call trivial trivial answered

/-- What is known of the disk alone. -/
theorem clears_of_safe (process : Nat) (examined : Prop) (made : Bool) {program : System α}
    {post : α → Tree Content → Prop}
    (safe : Safe disk.surroundings (disk.guarded fun _ => True) post program tree) :
    Safe (disk.clearing process examined) unwatched (fun value later => post value later.1)
      program (tree, made) :=
  (Safe.of_view still_clearing (fun _ _ _ _ answers => answers.possible) safe).unwatch

/-- Calls that do not make the staging directory. -/
def MakesNone (setup : Setup) (process : Nat) (operation : SystemCall) : Prop :=
  ∀ answer, makesStaging setup process operation answer = false

theorem clears_makesNone {program : System α}
    (calls : program.Calls (MakesNone disk.setup process)) :
    Safe (disk.clearing process examined) unwatched (fun _ later => later.2 = world.2)
      program world := by
  refine Triple.of_calls calls (still_clearing.stable fun later => later.2 = world.2)
    (fun _ _ => trivial) trivial (fun _ _ _ _ => trivial) ?_ world rfl
  intro before operation answer next same none answers
  rw [answers.made, same, none answer, Bool.or_false]

end Rules

/-! ## What is cleared from a directory -/

/-- The node is what `lstat` calls the expected kind. -/
def IsKind (expected : FileKind) : Option (FileNode Bytes Content) → Prop
  | some .directory => expected = .directory
  | some (.file _) => expected = .regular
  | some (.link _) => expected = .symbolicLink
  | _ => False

theorem Describes.isKind {status : FileStatus} {node : FileNode Bytes Content}
    (describes : disk.Describes status node) (special : node ≠ .special) :
    IsKind status.kind (some node) := by
  cases node with
  | directory => exact describes
  | file content => exact describes.1
  | link target => exact describes
  | special => exact absurd rfl special

theorem IsKind.kind_eq {status : FileStatus} {expected : FileKind} {node : FileNode Bytes Content}
    (isKind : IsKind expected (some node)) (describes : disk.Describes status node) :
    status.kind = expected := by
  cases node with
  | directory => exact Eq.trans describes (Eq.symm isKind)
  | file content => exact Eq.trans describes.1 (Eq.symm isKind)
  | link target => exact Eq.trans describes (Eq.symm isKind)
  | special => exact isKind.elim

theorem isKind_directory {node : Option (FileNode Bytes Content)} :
    IsKind .directory node ↔ node = some .directory := by
  rcases node with _ | node
  · simp [IsKind]
  · cases node with
    | _ => simp [IsKind]

theorem isKind_regular {node : Option (FileNode Bytes Content)} :
    IsKind .regular node ↔ ∃ content, node = some (.file content) := by
  rcases node with _ | node
  · simp [IsKind]
  · cases node with
    | _ => simp [IsKind]

/-- Nothing but entries of a kind, with names that begin in one way, has been taken
out of a directory. -/
structure Cleared (directory : Path) (namePrefix : Bytes) (expected : FileKind)
    (start tree : Tree Content) : Prop where
  less : ∀ position, tree.node position = start.node position ∨ tree.node position = none
  frame : ∀ position,
    (∀ name, namePrefix.isPrefixOf name = true → directory ++ [name] <+: position →
      ¬ IsKind expected (start.node (directory ++ [name]))) →
    tree.node position = start.node position

section Cleared

variable {directory : Path} {namePrefix : Bytes} {expected : FileKind}
variable {start next : Tree Content}

theorem Cleared.refl (tree : Tree Content) : Cleared directory namePrefix expected tree tree :=
  ⟨fun _ => .inl rfl, fun _ _ => rfl⟩

/-- What is of a kind has been so from the start. -/
theorem Cleared.node_eq (cleared : Cleared directory namePrefix expected start tree)
    {kind : FileKind} {position : List Bytes} (isKind : IsKind kind (tree.node position)) :
    tree.node position = start.node position := by
  rcases cleared.less position with same | none
  · exact same
  · rw [none] at isKind
    exact isKind.elim

theorem Cleared.trans (first : Cleared directory namePrefix expected start tree)
    (second : Cleared directory namePrefix expected tree next) :
    Cleared directory namePrefix expected start next := by
  constructor
  · intro position
    rcases second.less position with same | none
    · rw [same]
      exact first.less position
    · exact .inr none
  · intro position spared
    rw [second.frame position ?_, first.frame position spared]
    intro name named below isKind
    exact spared name named below (first.node_eq isKind ▸ isKind)

/-- Directories that are not inside stay real. -/
theorem Cleared.real (cleared : Cleared directory namePrefix expected start tree) {way : Path}
    (outside : ∀ name, ¬ directory ++ [name] <+: way) (real : start.Real way) : tree.Real way := by
  intro position nonempty within
  rw [cleared.frame position]
  · exact real position nonempty within
  · exact fun name named below => absurd (below.trans within) (outside name)

/-- One entry of the kind is removed. -/
theorem Cleared.of_removed (real : tree.Real directory) {name : Bytes}
    (named : namePrefix.isPrefixOf name = true)
    (isKind : IsKind expected (tree.node (directory ++ [name])))
    (removed : Removed tree (directory ++ [name]) next) :
    Cleared directory namePrefix expected tree next := by
  constructor
  · exact fun position => (removed position).imp id And.left
  · intro position spared
    apply removed.apart real
    intro below
    exact spared name named below isKind

/-- No entry of the kind with one of the names is left. -/
def Rid (directory : Path) (namePrefix : Bytes) (expected : FileKind) (names : List Bytes)
    (tree : Tree Content) : Prop :=
  ∀ name ∈ names, namePrefix.isPrefixOf name = true →
    ¬ IsKind expected (tree.node (directory ++ [name]))

theorem Cleared.rid_cons (cleared : Cleared directory namePrefix expected tree next) {name : Bytes}
    {names : List Bytes} (rid : Rid directory namePrefix expected names next)
    (gone : namePrefix.isPrefixOf name = true →
      ¬ IsKind expected (tree.node (directory ++ [name]))) :
    Rid directory namePrefix expected (name :: names) next := by
  intro other member named isKind
  rcases List.mem_cons.mp member with rfl | later
  · exact gone named (cleared.node_eq isKind ▸ isKind)
  · exact rid other later named isKind

/-- An entry with such a name is removed when it is of the kind, and else left
alone. -/
theorem clears_staleEntry (removable : expected = .directory ∨ expected = .regular)
    (real : tree.Real directory) {name : Bytes} {names : List Bytes}
    (named : namePrefix.isPrefixOf name = true) {post : Unit → Tree Content × Bool → Prop}
    (stays : ¬ IsKind expected (tree.node (directory ++ [name])) →
      Safe (disk.clearing process True) unwatched post
        (removeStaleEntries directory namePrefix expected names) (tree, false))
    (goesOn : ∀ after, IsKind expected (tree.node (directory ++ [name])) →
      Removed tree (directory ++ [name]) after → after.node (directory ++ [name]) = none →
        Safe (disk.clearing process True) unwatched post
          (removeStaleEntries directory namePrefix expected names) (after, false)) :
    Safe (disk.clearing process True) unwatched post
      (removeStaleEntries directory namePrefix expected (name :: names)) (tree, false) := by
  have missing (absent : tree.lookup (directory ++ [name]) = none) :
      ¬ IsKind expected (tree.node (directory ++ [name])) := by
    rw [real.lookup] at absent
    rw [absent]
    exact id
  rw [removeStaleEntries, if_neg (by simp [named])]
  refine clears_call fun answer next answers => ?_
  obtain ⟨after, made⟩ := next
  obtain rfl : made = false := answers.made
  cases answer with
  | missing =>
      obtain ⟨rfl, absent⟩ := answers.possible
      exact stays (missing absent)
  | failed detail =>
      obtain rfl : after = tree := answers.possible
      exact stays (missing (answers.examines trivial rfl))
  | found status =>
      obtain ⟨rfl, node, found, describes⟩ := answers.possible
      dsimp only at found describes
      rw [real.lookup] at found
      simp only [done_bind]
      split
      next differs =>
        apply stays
        intro isKind
        rw [found] at isKind
        exact differs (isKind.kind_eq describes)
      next same =>
        have kind : status.kind = expected := not_not.mp same
        have ordinary : node ≠ .special := by
          rintro rfl
          rcases removable with rfl | rfl
          · rcases describes with other | other <;> cases kind.symm.trans other
          · rcases describes with other | other <;> cases kind.symm.trans other
        have isKind : IsKind expected (after.node (directory ++ [name])) := by
          rw [found, ← kind]
          exact describes.isKind ordinary
        split
        next =>
          refine clears_call fun _ next answers => ?_
          obtain ⟨cleared, made⟩ := next
          obtain rfl : made = false := answers.made
          exact goesOn cleared isKind answers.possible (answers.clears _ (real.locate name))
        next notDirectory =>
          refine clears_call fun _ next answers => ?_
          obtain ⟨cleared, made⟩ := next
          obtain rfl : made = false := answers.made
          have file : after.node (directory ++ [name]) ≠ some .directory := by
            intro directory
            rw [directory] at isKind
            exact notDirectory isKind
          exact goesOn cleared isKind answers.possible (answers.clears _ (real.locate name) file)

/-- The entries of the kind are removed one after the other. -/
theorem clears_removeStaleEntries (removable : expected = .directory ∨ expected = .regular)
    (names : List Bytes) (real : tree.Real directory) :
    Safe (disk.clearing process True) unwatched
      (fun _ later => later.2 = false ∧ Cleared directory namePrefix expected tree later.1 ∧
        Rid directory namePrefix expected names later.1)
      (removeStaleEntries directory namePrefix expected names) (tree, false) := by
  induction names generalizing tree with
  | nil => exact clears_value ⟨rfl, Cleared.refl tree, fun _ impossible => nomatch impossible⟩
  | cons name names ih =>
      have goesOn {after : Tree Content}
          (cleared : Cleared directory namePrefix expected tree after)
          (gone : namePrefix.isPrefixOf name = true →
            ¬ IsKind expected (after.node (directory ++ [name]))) :
          Safe (disk.clearing process True) unwatched
            (fun _ later => later.2 = false ∧ Cleared directory namePrefix expected tree later.1 ∧
              Rid directory namePrefix expected (name :: names) later.1)
            (removeStaleEntries directory namePrefix expected names) (after, false) := by
        have outside (name : Bytes) : ¬ directory ++ [name] <+: directory :=
          not_prefix_of_length (by simp)
        refine (ih (cleared.real outside real)).imp fun _ later => ?_
        rintro ⟨unmade, more, rid⟩
        exact ⟨unmade, cleared.trans more, more.rid_cons rid gone⟩
      by_cases named : namePrefix.isPrefixOf name = true
      · apply clears_staleEntry removable real named
        · exact fun other => goesOn (Cleared.refl tree) fun _ => other
        · intro after isKind removed none
          refine goesOn (Cleared.of_removed real named isKind removed) fun _ left => ?_
          rw [none] at left
          exact left.elim
      · rw [removeStaleEntries, if_pos (by simp [named])]
        exact goesOn (Cleared.refl tree) fun matching => absurd matching named

/-- No entry of the kind with a name that begins so is left, and nothing else is
changed. -/
theorem clears_removeStaleArtifacts (removable : expected = .directory ∨ expected = .regular)
    (real : tree.Real directory) :
    Safe (disk.clearing process True) unwatched
      (fun _ later => later.2 = false ∧ Cleared directory namePrefix expected tree later.1 ∧
        ∀ names, Rid directory namePrefix expected names later.1)
      (removeStaleArtifacts directory namePrefix expected) (tree, false) := by
  refine clears_call fun listed next answers => ?_
  obtain ⟨after, made⟩ := next
  obtain rfl : made = false := answers.made
  obtain rfl : after = tree := answers.possible
  obtain ⟨entries, rfl, complete⟩ := answers.examines trivial rfl
  refine (clears_removeStaleEntries removable entries real).imp fun _ later => ?_
  rintro ⟨unmade, cleared, rid⟩
  refine ⟨unmade, cleared, fun names name member named isKind => ?_⟩
  have present : after.node (directory ++ [name]) ≠ none := by
    intro absent
    rw [cleared.node_eq isKind, absent] at isKind
    exact isKind.elim
  exact rid name (complete directory name (real.resolve _) present) named isKind

end Cleared

end CoreDisk

end TunProxy
