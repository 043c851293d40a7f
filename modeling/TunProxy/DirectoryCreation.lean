import TunProxy.EffectProgramSafety
import TunProxy.FileTree
import TunProxy.Filesystem
import TunProxy.PathText

/-!
# Creating a directory

`ensureDirectory` on a path as it is given, and what it does to a file tree:
it acts through no symbolic link and changes nothing off its way, and when it
refuses a path for what the path is, it has done nothing but create the
directories in front of a `.` or `..`.
-/

namespace TunProxy

open ByteText EffectProgram PathText

namespace DirectoryCreation

/-! ## The program -/

/-- The system calls, on paths as they are written. -/
inductive DirectoryCall
  | currentPath
  | lstat (path : Bytes)
  | mkdir (path : Bytes) (mode : Nat)
  | chmod (path : Bytes) (mode : Nat)

abbrev DirectoryAnswer : DirectoryCall → Type
  | .currentPath => Except Bytes Bytes
  | .lstat _ => LstatAnswer
  | .mkdir _ _ => CreateAnswer
  | .chmod _ _ => Except Bytes Unit

abbrev DirectoryProgram (α : Type) : Type :=
  EffectProgram DirectoryAnswer α

def emptyPath : Error :=
  makeError .generic (ascii "directory path is empty")

def rootPath : Error :=
  makeError .generic (ascii "refusing to change root directory permissions")

def traversal : Error :=
  makeError .generic (ascii "directory path contains traversal components")

def notDirectory (path : Bytes) : Error :=
  makeError .generic (ascii "path component is not a real directory: " ++ path)

def notCreated (path : Bytes) : Error :=
  makeError .generic (ascii "created path component is not a real directory: " ++ path)

def IsAbsolute (path : Bytes) : Prop :=
  path.head? = some slash

instance (path : Bytes) : Decidable (IsAbsolute path) :=
  inferInstanceAs (Decidable (_ = _))

def IsTraversal (component : Bytes) : Prop :=
  component = ascii "." ∨ component = ascii ".."

/-- `std::filesystem::absolute`, where it is needed. -/
def absolutePath (path : Bytes) : DirectoryProgram (Result Bytes) :=
  if IsAbsolute path then .done (.ok path)
  else .call .currentPath fun
    | .ok workingDirectory => .done (.ok (joinPath workingDirectory path))
    | .error detail => .done (.error (makeError .generic detail))

/-- After `mkdir`, go on if there is a directory now. -/
def confirmCreated (next : Bytes) (onward : DirectoryProgram (Result Unit)) :
    DirectoryProgram (Result Unit) :=
  .call (.lstat next) fun
  | .found status =>
      if status.kind = .directory then onward else .done (.error (notCreated next))
  | _ => .done (.error (notCreated next))

/-- The walk over the components that are left, from `current` on. -/
def ensureComponents (mode : Nat) : Bytes → List Bytes → DirectoryProgram (Result Unit)
  | _, [] => .done (.ok ())
  | current, component :: rest =>
      if component = ascii "." ∨ component = ascii ".." then .done (.error traversal)
      else
        let next := joinPath current component
        .call (.lstat next) fun
        | .found status =>
            if status.kind = .directory then ensureComponents mode next rest
            else .done (.error (notDirectory next))
        | .failed detail => .done (.error (makeError .generic (ascii "stat directory: " ++ detail)))
        | .missing => .call (.mkdir next mode) fun
          | .failed detail =>
              .done (.error (makeError .generic (ascii "create directory: " ++ detail)))
          | _ => confirmCreated next (ensureComponents mode next rest)

def setPermissions (absolute : Bytes) (mode : Nat) : DirectoryProgram (Result Unit) :=
  .call (.chmod absolute mode) fun
  | .ok () => .done (.ok ())
  | .error detail => .done (.error (makeError .generic (ascii "chmod directory: " ++ detail)))

def ensureDirectory (path : Bytes) (mode : Nat) : DirectoryProgram (Result Unit) :=
  if path = [] then .done (.error emptyPath)
  else
    (absolutePath path).andThen fun absolute =>
    -- `absolute_path == absolute_path.root_path()` compares the components.
    if components absolute = [] then .done (.error rootPath)
    else
      (ensureComponents mode [slash] (components absolute)).andThen fun _ =>
        setPermissions absolute mode

/-! ## On paths given by their names -/

/-- The calls on the names in a path; only a relative path asks for the working
directory. -/
def byNames : (operation : DirectoryCall) → System (DirectoryAnswer operation)
  | .currentPath => .done (.error [])
  | .lstat path => TunProxy.lstat (names path)
  | .mkdir path mode => TunProxy.mkdir (names path) mode
  | .chmod path mode => TunProxy.chmod (names path) mode

theorem expand_ensureComponents {walked rest : Path} (mode : Nat)
    (allNames : ∀ name ∈ walked ++ rest, IsName name) :
    (ensureComponents mode walked.text rest).expand byNames =
      TunProxy.ensureComponents mode walked rest := by
  induction rest generalizing walked with
  | nil => rfl
  | cons component rest ih =>
      have below : ∀ name ∈ (walked ++ [component]) ++ rest, IsName name := by simpa using allNames
      have walkedNames : ∀ name ∈ walked ++ [component], IsName name :=
        fun name member => below name (List.mem_append_left _ member)
      have joined : joinPath walked.text component = Path.text (walked ++ [component]) :=
        joinPath_text (fun name member => walkedNames name (by simp [member])) component
      have found : names (Path.text (walked ++ [component])) = walked ++ [component] :=
        names_text walkedNames
      by_cases traverses : component = ascii "." ∨ component = ascii ".."
      · rw [ensureComponents, if_pos traverses, TunProxy.ensureComponents, if_pos traverses]
        rfl
      · rw [ensureComponents, if_neg traverses, TunProxy.ensureComponents, if_neg traverses]
        dsimp only
        rw [joined]
        simp only [expand, byNames, TunProxy.lstat, call_bind, done_bind]
        rw [found]
        refine congrArg _ (funext fun answer => ?_)
        cases answer with
        | found status =>
            by_cases directory : status.kind = .directory
            · simpa [directory] using ih below
            · simp [directory, expand, notDirectory, notRealDirectory]
        | failed detail => rfl
        | missing =>
            simp only [expand, byNames, TunProxy.mkdir, call_bind, done_bind]
            rw [found]
            refine congrArg _ (funext fun outcome => ?_)
            cases outcome
            case failed detail => rfl
            all_goals
              simp only [confirmCreated, expand, byNames, TunProxy.lstat, call_bind, done_bind]
              rw [found]
              refine congrArg _ (funext fun answer => ?_)
              cases answer with
              | found status =>
                  by_cases directory : status.kind = .directory
                  · simpa [directory] using ih below
                  · simp [directory, expand, notCreated, notRealDirectory]
              | failed detail => rfl
              | missing => rfl

/-- On a path given by its names it is the program the other modules use. -/
theorem expand_ensureDirectory {path : Path} (mode : Nat) (allNames : ∀ name ∈ path, IsName name) :
    (ensureDirectory path.text mode).expand byNames = TunProxy.ensureDirectory path mode := by
  have absolute : IsAbsolute path.text := head?_text path
  have nonempty : path.text ≠ [] := fun empty => by simp [IsAbsolute, empty] at absolute
  have start : [slash] = Path.text [] := ascii_slash.symm
  rw [ensureDirectory, if_neg nonempty, absolutePath, if_pos absolute, TunProxy.ensureDirectory]
  simp only [andThen, done_bind, components_text allNames, List.isEmpty_iff]
  split
  next => rfl
  next =>
    rw [expand_bind, start, expand_ensureComponents mode (by simpa using allNames)]
    congr
    ext result
    cases result with
    | error failure => rfl
    | ok value =>
        simp only [setPermissions, expand, byNames, TunProxy.chmod, call_bind, done_bind]
        rw [names_text allNames]
        refine congrArg _ (funext fun answer => ?_)
        cases answer with
        | ok value => rfl
        | error detail => rfl

/-! ## The files -/

/-- The bits of a mode that `chmod` sets. -/
def permissions (mode : Nat) : Nat :=
  mode % 0o10000

/-- A file tree with the permissions at its positions, seen by a process that
works in one of them. -/
@[ext] structure Files (Content : Type) where
  tree : FileTree Bytes Content
  mode : Path → Nat
  workingDirectory : Path

variable {Content : Type}

namespace Files

/-- The position of what a path names; a slash behind a link leads through it. -/
def locate (files : Files Content) (path : Bytes) : Option Path :=
  if path.getLast? = some slash then files.tree.resolve (FileTree.maxLinks + 1) (names path)
  else files.tree.locate (names path)

/-- What is seen at a path, which is a directory if a slash is at the end. -/
def lookup (files : Files Content) (path : Bytes) : Option (FileNode Bytes Content) :=
  match (files.locate path).bind files.tree.node with
  | some .directory => some .directory
  | some node => if path.getLast? = some slash then none else some node
  | none => none

/-- A directory is put where nothing was, with some permissions. -/
def Makes (files : Files Content) (path : Bytes) (next : Files Content) : Prop :=
  ∃ position, files.tree.locate (names path) = some position ∧
    files.tree.node position = none ∧
    (∀ other, next.tree.node other =
      if other = position then some .directory else files.tree.node other) ∧
    (∀ other, other ≠ position → next.mode other = files.mode other) ∧
    next.workingDirectory = files.workingDirectory

/-- The absolute path that a path stands for. -/
def absolute (files : Files Content) (path : Bytes) : Bytes :=
  if IsAbsolute path then path else joinPath files.workingDirectory.text path

def target (files : Files Content) (path : Bytes) : Path :=
  names (files.absolute path)

end Files

def HasKind : FileNode Bytes Content → FileKind → Prop
  | .directory, kind => kind = .directory
  | .file _, kind => kind = .regular
  | .link _, kind => kind = .symbolicLink
  | .special, kind => kind = .characterDevice ∨ kind = .other

/-- A path is refused for what it is. -/
def Refuses (failure : Error) : Prop :=
  failure = emptyPath ∨ failure = rootPath ∨ failure = traversal ∨
    ∃ path, failure = notDirectory path

/-- Every call may fail; the system's error texts are not those of a refusal.  The
names `.` and `..` are looked up like others: no call has them. -/
def Answers (files : Files Content) (operation : DirectoryCall)
    (answer : DirectoryAnswer operation) (next : Files Content) : Prop :=
  match operation, answer with
  | .currentPath, .ok path => next = files ∧ path = files.workingDirectory.text
  | .currentPath, .error detail => next = files ∧ ¬ Refuses (makeError .generic detail)
  | .lstat path, .found status =>
      next = files ∧ ∃ node, files.lookup path = some node ∧ HasKind node status.kind
  | .lstat path, .missing => next = files ∧ files.lookup path = none
  | .mkdir path _, .created => files.Makes path next
  | .mkdir path _, .present => next = files ∧ files.tree.lookup (names path) ≠ none
  | .chmod path mode, .ok () => ∃ position,
      files.tree.resolve (FileTree.maxLinks + 1) (names path) = some position ∧
      next = { files with mode := Function.update files.mode position (permissions mode) }
  | _, _ => next = files

def surroundings (Content : Type) : Surroundings DirectoryAnswer (Files Content) where
  answers := Answers
  drift _ _ := False

theorem still : Still (surroundings Content) :=
  fun _ _ => not_false

/-! ## Where calls act -/

/-- No component of the path is a link. -/
def Unlinked (tree : FileTree Bytes Content) (path : Path) : Prop :=
  ∀ position, position ≠ [] → position <+: path → ∀ target, tree.node position ≠ some (.link target)

/-- A change is made at the path itself, which no link is part of, and no path
has a `.` or `..`. -/
def ActsInPlace (files : Files Content) : DirectoryCall → Prop
  | .currentPath => True
  | .lstat path => ∀ name ∈ names path, ¬ IsTraversal name
  | .mkdir path _ =>
      (∀ name ∈ names path, ¬ IsTraversal name) ∧ Unlinked files.tree (names path) ∧
        files.tree.locate (names path) = some (names path)
  | .chmod path _ =>
      (∀ name ∈ names path, ¬ IsTraversal name) ∧ Unlinked files.tree (names path) ∧
        files.tree.resolve (FileTree.maxLinks + 1) (names path) = some (names path)

/-- Only directories on the way to the target are new, and of what was there only
the target's permissions may differ. -/
structure Confined (first : Files Content) (target : Path) (files : Files Content) : Prop where
  outside : ∀ position, ¬ position <+: target →
    files.tree.node position = first.tree.node position ∧ files.mode position = first.mode position
  kept : ∀ position, first.tree.node position ≠ none →
    files.tree.node position = first.tree.node position
  added : ∀ position, first.tree.node position = none →
    files.tree.node position = none ∨ files.tree.node position = some .directory
  modes : ∀ position, position ≠ target → position = [] ∨ first.tree.node position ≠ none →
    files.mode position = first.mode position

/-- The directories down to a path are real; those that were missing are new, and
everything else is as it was. -/
structure Built (first : Files Content) (path : Path) (files : Files Content) : Prop where
  real : files.tree.Real path
  same : ∀ position, (position <+: path → position = [] ∨ first.tree.node position ≠ none) →
    files.tree.node position = first.tree.node position ∧ files.mode position = first.mode position
  workingDirectory : files.workingDirectory = first.workingDirectory

/-! ## What has been built -/

namespace Built

variable {first files next : Files Content} {path : Path} {name : Bytes}

theorem refl (first : Files Content) : Built first [] first :=
  ⟨FileTree.real_nil, fun _ _ => ⟨rfl, rfl⟩, rfl⟩

theorem same_below (built : Built first path files) (name : Bytes) :
    files.tree.node (path ++ [name]) = first.tree.node (path ++ [name]) :=
  (built.same _ fun within => absurd within.length_le (by simp)).1

/-- A directory that is there is walked into. -/
theorem enter (built : Built first path files)
    (directory : files.tree.node (path ++ [name]) = some .directory) :
    Built first (path ++ [name]) files where
  real := built.real.append directory
  same position there :=
    built.same position fun within => there (within.trans (List.prefix_append _ _))
  workingDirectory := built.workingDirectory

/-- A directory that is not there is made. -/
theorem make {text : Bytes} (built : Built first path files)
    (named : names text = path ++ [name]) (made : files.Makes text next) :
    Built first (path ++ [name]) next := by
  obtain ⟨position, located, absent, node, mode, workingDirectory⟩ := made
  rw [named, built.real.locate] at located
  obtain rfl := Option.some.inj located
  refine ⟨?_, ?_, workingDirectory.trans built.workingDirectory⟩
  · intro position nonempty within
    rw [node]
    split
    next => rfl
    next other =>
      exact built.real position nonempty ((List.prefix_concat_iff.mp within).resolve_left other)
  · intro position there
    have other : position ≠ path ++ [name] := by
      rintro rfl
      rw [built.same_below] at absent
      exact (there (List.prefix_refl _)).elim (by simp) fun present => present absent
    rw [node, if_neg other, mode position other]
    exact built.same position fun within => there (within.trans (List.prefix_append _ _))

/-- Where everything was there, nothing has changed. -/
theorem eq_of_present (built : Built first path files)
    (present : ∀ position, position ≠ [] → position <+: path → first.tree.node position ≠ none) :
    files = first := by
  have same (position : Path) := built.same position fun within =>
    or_iff_not_imp_left.mpr fun nonempty => present position nonempty within
  apply Files.ext
  · exact FileTree.eq_of_node fun position => (same position).1
  · ext1 position
    exact (same position).2
  · exact built.workingDirectory

theorem eq_of_below (built : Built first path files)
    (present : files.tree.node (path ++ [name]) ≠ none) : files = first := by
  rw [built.same_below] at present
  exact built.eq_of_present fun position nonempty within =>
    FileTree.node_ne_none_of_prefix nonempty (within.trans (List.prefix_append _ _)) present

theorem confined {target : Path} (built : Built first path files) (within : path <+: target) :
    Confined first target files where
  outside position off := built.same position fun below => absurd (below.trans within) off
  kept position present := (built.same position fun _ => .inr present).1
  added position absent := by
    by_cases below : position ≠ [] ∧ position <+: path
    · exact .inr (built.real position below.1 below.2)
    · refine .inl ((built.same position fun within => ?_).1.trans absent)
      exact .inl (not_not.mp fun nonempty => below ⟨nonempty, within⟩)
  modes position _ there := (built.same position fun _ => there).2

end Built

/-! ## The walk -/

/-- After a refusal everything is as it was, but after one for a `.` or `..` the
directories in front of the first one are there: those that were missing are new. -/
structure Refused (first : Files Content) (absolute : Bytes) (failure : Error)
    (last : Files Content) : Prop where
  other : failure ≠ traversal → last = first
  traverses : failure = traversal → ∃ front component rest,
    components absolute = front ++ component :: rest ∧
      IsTraversal component ∧ (∀ name ∈ front, ¬ IsTraversal name) ∧ Built first front last ∧
      ((∀ position, position ≠ [] → position <+: front → first.tree.node position ≠ none) →
        last = first)

theorem Refused.of_eq {first last : Files Content} {absolute : Bytes} {failure : Error}
    (same : last = first) (other : failure ≠ traversal) : Refused first absolute failure last :=
  ⟨fun _ => same, fun traverses => absurd traverses other⟩

theorem head?_append_of_head? {text : Bytes} {byte : UInt8} (begins : text.head? = some byte)
    (rest : Bytes) : (text ++ rest).head? = some byte := by
  simp [List.head?_append, begins]

theorem notDirectory_ne_traversal (path : Bytes) : notDirectory path ≠ traversal := by
  intro same
  have begins : (notDirectory path).message.head? = some 112 :=
    head?_append_of_head? (by decide) path
  rw [same] at begins
  revert begins
  decide

/-- The texts of the other failures begin with other letters. -/
theorem not_refuses {text : Bytes} (begins : text.head? = some 115 ∨ text.head? = some 99) :
    ¬ Refuses (makeError .generic text) := by
  rintro (same | same | same | ⟨path, same⟩)
  all_goals
    obtain rfl : text = _ := congrArg Error.message same
    revert begins
  · decide
  · decide
  · decide
  · have begins : (notDirectory path).message.head? = some 112 :=
      head?_append_of_head? (by decide) path
    rw [begins]
    decide

theorem not_refuses_stat (detail : Bytes) :
    ¬ Refuses (makeError .generic (ascii "stat directory: " ++ detail)) :=
  not_refuses (.inl (head?_append_of_head? (by decide) detail))

theorem not_refuses_create (detail : Bytes) :
    ¬ Refuses (makeError .generic (ascii "create directory: " ++ detail)) :=
  not_refuses (.inr (head?_append_of_head? (by decide) detail))

theorem not_refuses_notCreated (path : Bytes) : ¬ Refuses (notCreated path) :=
  not_refuses (.inr (head?_append_of_head? (by decide) path))

theorem not_refuses_chmod (detail : Bytes) :
    ¬ Refuses (makeError .generic (ascii "chmod directory: " ++ detail)) :=
  not_refuses (.inr (head?_append_of_head? (by decide) detail))

/-- What is watched: the changes are confined to the way, and made in place. -/
def watch (first : Files Content) (path : Bytes) : Watch DirectoryCall (Files Content) where
  holds := Confined first (first.target path)
  permits := ActsInPlace
  cuts := False

/-- How a walk along the components of a path ends. -/
def WalkEnds (first : Files Content) (absolute : Bytes) : Result Unit → Files Content → Prop
  | .ok (), last =>
      (∀ name ∈ names absolute, ¬ IsTraversal name) ∧ Built first (names absolute) last
  | .error failure, last => Refuses failure → Refused first absolute failure last

section Walk

variable {first files : Files Content} {path absolute current component : Bytes}
variable {front rest : List Bytes} {mode : Nat}

theorem lookup_joinPath (real : files.tree.Real front) (isName : IsName component)
    (here : names current = front) :
    files.lookup (joinPath current component) = files.tree.node (front ++ [component]) := by
  have noSlash : (joinPath current component).getLast? ≠ some slash := getLast?_joinPath isName
  have located : files.locate (joinPath current component) = some (front ++ [component]) := by
    rw [Files.locate, if_neg noSlash, names_joinPath, here, names_of_isName isName, real.locate]
  rw [Files.lookup, located, Option.bind_some]
  split
  next directory => exact directory.symm
  next node _ present => rw [if_neg noSlash, present]
  next absent => exact absent.symm

theorem lookup_joinPath_nil (real : files.tree.Real front) (nonempty : front ≠ [])
    (started : current ≠ []) (here : names current = front) :
    files.lookup (joinPath current []) = some .directory := by
  have slashed : (joinPath current []).getLast? = some slash := by
    unfold joinPath
    split
    next separated => simpa using separated.resolve_left started
    next => simp
  have located : files.locate (joinPath current []) = some front := by
    rw [Files.locate, if_pos slashed, names_joinPath, here]
    exact (congrArg _ (List.append_nil front)).trans (real.resolve FileTree.maxLinks)
  rw [Files.lookup, located, Option.bind_some, real front nonempty (List.prefix_refl front)]

theorem node_of_kind {node : FileNode Bytes Content} {kind : FileKind}
    (hasKind : HasKind node kind) (directory : kind = .directory) : node = .directory := by
  subst directory
  cases node with
  | directory => rfl
  | file content => cases hasKind
  | link target => cases hasKind
  | special => rcases hasKind with impossible | impossible <;> cases impossible

/-- After `mkdir`, the walk goes on in a directory only. -/
theorem safe_confirmCreated {onward : DirectoryProgram (Result Unit)}
    (confined : Confined first (first.target path) files) (real : files.tree.Real front)
    (isName : IsName component) (here : names current = front)
    (plain : ∀ name ∈ names (joinPath current component), ¬ IsTraversal name)
    (goesOn : files.tree.node (front ++ [component]) = some .directory →
      Safe (surroundings Content) (watch first path) (WalkEnds first absolute) onward files) :
    Safe (surroundings Content) (watch first path) (WalkEnds first absolute)
      (confirmCreated (joinPath current component) onward) files := by
  apply still.safe_call confined plain
  intro answer last answers
  have failed (same : last = files) : Safe (surroundings Content) (watch first path)
      (WalkEnds first absolute)
      (.done (.error (notCreated (joinPath current component)))) last := by
    subst same
    exact still.safe_done confined fun refuses => absurd refuses (not_refuses_notCreated _)
  cases answer with
  | failed detail => exact failed answers
  | missing => exact failed answers.1
  | found status =>
      obtain ⟨same, node, seen, kind⟩ := answers
      rw [lookup_joinPath real isName here] at seen
      dsimp only
      split
      next directory =>
        subst same
        exact goesOn (node_of_kind kind directory ▸ seen)
      next => exact failed same

/-- The walk over a name, which is there or is made. -/
theorem safe_name (built : Built first front files) (isName : IsName component)
    (here : names current = front) (within : front ++ [component] <+: first.target path)
    (plain : ∀ name ∈ front ++ [component], ¬ IsTraversal name)
    (onward : ∀ next, Built first (front ++ [component]) next →
      Safe (surroundings Content) (watch first path) (WalkEnds first absolute)
        (ensureComponents mode (joinPath current component) rest) next) :
    Safe (surroundings Content) (watch first path) (WalkEnds first absolute)
      (ensureComponents mode current (component :: rest)) files := by
  have confined : Confined first (first.target path) files :=
    built.confined ((List.prefix_append _ _).trans within)
  have named : names (joinPath current component) = front ++ [component] := by
    rw [names_joinPath, here, names_of_isName isName]
  have plainNames : ∀ name ∈ names (joinPath current component), ¬ IsTraversal name := by
    rwa [named]
  have sees : files.lookup (joinPath current component) = files.tree.node (front ++ [component]) :=
    lookup_joinPath built.real isName here
  have noTraversal : ¬ (component = ascii "." ∨ component = ascii "..") := plain component (by simp)
  rw [ensureComponents, if_neg noTraversal]
  apply still.safe_call confined plainNames
  intro answer next answers
  cases answer with
  | failed detail =>
      obtain rfl : next = files := answers
      exact still.safe_done confined fun refuses => absurd refuses (not_refuses_stat detail)
  | found status =>
      obtain ⟨rfl, node, seen, kind⟩ := answers
      rw [sees] at seen
      dsimp only
      split
      next directory =>
        exact onward next (built.enter (node_of_kind kind directory ▸ seen))
      next =>
        have present : next.tree.node (front ++ [component]) ≠ none := by simp [seen]
        have nothing : next = first := built.eq_of_below present
        exact still.safe_done confined fun _ =>
          Refused.of_eq nothing (notDirectory_ne_traversal _)
  | missing =>
      obtain ⟨rfl, unseen⟩ := answers
      have absent : next.tree.node (front ++ [component]) = none := sees.symm.trans unseen
      have unlinked : Unlinked next.tree (front ++ [component]) := by
        intro position nonempty below target
        rcases List.prefix_concat_iff.mp below with rfl | above
        · simp [absent]
        · simp [built.real position nonempty above]
      have inPlace : ActsInPlace next (.mkdir (joinPath current component) mode) := by
        refine ⟨plainNames, ?_, ?_⟩
        · rwa [named]
        · rw [named, built.real.locate]
      apply still.safe_call confined inPlace
      intro outcome last outcomes
      cases outcome with
      | failed detail =>
          obtain rfl : last = next := outcomes
          exact still.safe_done confined fun refuses => absurd refuses (not_refuses_create detail)
      | created =>
          have made : Built first (front ++ [component]) last := built.make named outcomes
          have real : last.tree.Real front := made.real.of_prefix (List.prefix_append _ _)
          exact safe_confirmCreated (made.confined within) real isName here plainNames
            fun _ => onward last made
      | present =>
          obtain ⟨rfl, _⟩ := outcomes
          exact safe_confirmCreated confined built.real isName here plainNames
            fun entered => onward last (built.enter entered)

/-- The walk over the slash at the end of a path. -/
theorem safe_slash (built : Built first front files) (nonempty : front ≠ [])
    (started : current ≠ []) (here : names current = front)
    (within : front <+: first.target path) (plain : ∀ name ∈ front, ¬ IsTraversal name)
    (onward : Safe (surroundings Content) (watch first path) (WalkEnds first absolute)
        (ensureComponents mode (joinPath current []) rest) files) :
    Safe (surroundings Content) (watch first path) (WalkEnds first absolute)
      (ensureComponents mode current ([] :: rest)) files := by
  have confined : Confined first (first.target path) files := built.confined within
  have plainNames : ∀ name ∈ names (joinPath current []), ¬ IsTraversal name := by
    rw [names_joinPath, here]
    simpa [names, namesFrom] using plain
  have noTraversal : ¬ (([] : Bytes) = ascii "." ∨ [] = ascii "..") := by decide
  have sees := lookup_joinPath_nil built.real nonempty started here
  rw [ensureComponents, if_neg noTraversal]
  apply still.safe_call confined plainNames
  intro answer next answers
  cases answer with
  | failed detail =>
      obtain rfl : next = files := answers
      exact still.safe_done confined fun refuses => absurd refuses (not_refuses_stat detail)
  | found status =>
      obtain ⟨rfl, node, seen, kind⟩ := answers
      obtain rfl := Option.some.inj (sees.symm.trans seen)
      have directory : status.kind = .directory := kind
      dsimp only
      rw [if_pos directory]
      exact onward
  | missing =>
      obtain ⟨rfl, unseen⟩ := answers
      cases sees.symm.trans unseen

theorem Refused.of_traversal (built : Built first front files)
    (split : components absolute = front ++ component :: rest) (isTraversal : IsTraversal component)
    (plain : ∀ name ∈ front, ¬ IsTraversal name) : Refused first absolute traversal files where
  other impossible := absurd rfl impossible
  traverses _ := ⟨front, component, rest, split, isTraversal, plain, built, built.eq_of_present⟩

/-- The walk, with `front` of the components behind it. -/
theorem safe_ensureComponents (mode : Nat) (target : first.target path = names absolute)
    (whole : components absolute = front ++ rest) (started : current ≠ [])
    (here : names current = named front) (plain : ∀ component ∈ front, ¬ IsTraversal component)
    (built : Built first (named front) files) :
    Safe (surroundings Content) (watch first path) (WalkEnds first absolute)
      (ensureComponents mode current rest) files := by
  have way : named front ++ named rest = first.target path := by
    rw [target, ← named_components, whole, named_append]
  have within : named front <+: first.target path := ⟨named rest, way⟩
  induction rest generalizing front current files with
  | nil =>
      have arrived : named front = names absolute := by
        rw [← named_components, whole, List.append_nil]
      rw [arrived] at built
      have plainNames : ∀ name ∈ names absolute, ¬ IsTraversal name := by
        intro name member
        rw [← arrived] at member
        exact plain name (List.mem_filter.mp member).1
      rw [arrived] at within
      exact still.safe_done (built.confined within) ⟨plainNames, built⟩
  | cons component rest ih =>
      obtain ⟨allNames, atEnd⟩ := components_split whole
      have namedFront : named front = front := named_eq_self allNames
      rw [namedFront] at here built within way
      by_cases traverses : component = ascii "." ∨ component = ascii ".."
      · rw [ensureComponents, if_pos traverses]
        exact still.safe_done (built.confined within) fun _ =>
          Refused.of_traversal built whole traverses plain
      · have plainOn : ∀ name ∈ front ++ [component], ¬ IsTraversal name := by
          intro name member
          rcases List.mem_append.mp member with before | last
          · exact plain name before
          · obtain rfl := List.mem_singleton.mp last
            exact traverses
        have wholeOn : components absolute = (front ++ [component]) ++ rest := by simpa using whole
        have startedOn := joinPath_ne_nil component started
        have wayOn : named (front ++ [component]) ++ named rest = first.target path := by
          rw [named_append, List.append_assoc, ← named_append, namedFront]
          exact way
        have withinOn : named (front ++ [component]) <+: first.target path := ⟨named rest, wayOn⟩
        by_cases empty : component = []
        · subst empty
          obtain ⟨-, -, nonempty⟩ := atEnd rfl
          have same : named (front ++ [[]]) = front := by simpa [named] using namedFront
          have hereOn : names (joinPath current []) = named (front ++ [[]]) := by
            rw [names_joinPath, here, same]
            exact List.append_nil front
          have builtOn : Built first (named (front ++ [[]])) files := by rwa [same]
          exact safe_slash built nonempty started here within plain
            (ih wholeOn startedOn hereOn plainOn builtOn wayOn withinOn)
        · have member : component ∈ components absolute := by simp [whole]
          have isName : IsName component := isName_of_mem_components member empty
          have same : named (front ++ [component]) = front ++ [component] := by
            rw [named_append, namedFront, named_cons_of_ne_nil empty, named_nil]
          have hereOn : names (joinPath current component) = named (front ++ [component]) := by
            rw [names_joinPath, here, names_of_isName isName, same]
          refine safe_name built isName here (same ▸ withinOn) plainOn fun next builtOn => ?_
          rw [← same] at builtOn
          exact ih wholeOn startedOn hereOn plainOn builtOn wayOn withinOn

end Walk

/-! ## Whole runs -/

/-- How `ensureDirectory` ends. -/
def Ends (first : Files Content) (path : Bytes) (mode : Nat) :
    Result Unit → Files Content → Prop
  | .ok (), last => last.tree.Real (first.target path) ∧
      last.mode (first.target path) = permissions mode
  | .error failure, last => Refuses failure → Refused first (first.absolute path) failure last

theorem Confined.refl (first : Files Content) (target : Path) : Confined first target first :=
  (Built.refl first).confined List.nil_prefix

theorem Built.safe_setPermissions {first files : Files Content} {path absolute : Bytes} {mode : Nat}
    (target : first.target path = names absolute) (built : Built first (names absolute) files)
    (plain : ∀ name ∈ names absolute, ¬ IsTraversal name) :
    Safe (surroundings Content) (watch first path) (Ends first path mode)
      (setPermissions absolute mode) files := by
  have confined : Confined first (first.target path) files :=
    built.confined (target ▸ List.prefix_refl _)
  have unlinked : Unlinked files.tree (names absolute) := by
    intro position nonempty within target
    simp [built.real position nonempty within]
  have inPlace : ActsInPlace files (.chmod absolute mode) :=
    ⟨plain, unlinked, built.real.resolve FileTree.maxLinks⟩
  apply still.safe_call confined inPlace
  intro answer next answers
  cases answer with
  | error detail =>
      obtain rfl : next = files := answers
      exact still.safe_done confined fun refuses => absurd refuses (not_refuses_chmod detail)
  | ok value =>
      obtain ⟨position, resolved, rfl⟩ := answers
      rw [built.real.resolve] at resolved
      obtain rfl := Option.some.inj resolved
      refine still.safe_done ⟨?_, confined.kept, confined.added, ?_⟩ ⟨target ▸ built.real, ?_⟩
      · intro position off
        have other : position ≠ names absolute := by
          rintro rfl
          exact off (target ▸ List.prefix_refl _)
        exact ⟨(confined.outside position off).1,
          (Function.update_of_ne other _ _).trans (confined.outside position off).2⟩
      · intro position other there
        exact (Function.update_of_ne (target ▸ other) _ _).trans
          (confined.modes position other there)
      · rw [target]
        exact Function.update_self ..

theorem safe_absolutePath {first : Files Content} {path : Bytes} :
    Safe (surroundings Content) (watch first path)
      (fun result last => last = first ∧
        match result with
        | .ok found => found = first.absolute path
        | .error failure => ¬ Refuses failure)
      (absolutePath path) first := by
  have confined : Confined first (first.target path) first := Confined.refl first _
  unfold absolutePath Files.absolute
  split
  next isAbsolute =>
    exact still.safe_done confined ⟨rfl, rfl⟩
  next relative =>
    apply still.safe_call confined trivial
    intro answer next answers
    cases answer with
    | ok text =>
        obtain ⟨rfl, rfl⟩ := answers
        exact still.safe_done confined ⟨rfl, rfl⟩
    | error detail =>
        obtain ⟨rfl, noRefusal⟩ := answers
        exact still.safe_done confined ⟨rfl, noRefusal⟩

theorem safe_ensureDirectory (path : Bytes) (mode : Nat) (first : Files Content) :
    Safe (surroundings Content) (watch first path) (Ends first path mode)
      (ensureDirectory path mode) first := by
  have confined : Confined first (first.target path) first := Confined.refl first _
  unfold ensureDirectory
  split
  next => exact still.safe_done confined fun _ => Refused.of_eq rfl (by decide)
  next =>
    refine safe_absolutePath.bind ?_
    rintro (failure | absolute) last ⟨rfl, found⟩
    · exact still.safe_done confined fun refuses => absurd refuses found
    · obtain rfl : absolute = last.absolute path := found
      dsimp only
      split
      next => exact still.safe_done confined fun _ => Refused.of_eq rfl (by decide)
      next =>
        have walk : Safe (surroundings Content) (watch last path)
            (WalkEnds last (last.absolute path))
            (ensureComponents mode [slash] (components (last.absolute path))) last :=
          safe_ensureComponents mode rfl (List.nil_append _).symm (by simp) rfl (by simp)
            (Built.refl last)
        refine walk.and_holds.bind fun result next ⟨ends, confined⟩ => ?_
        cases result with
        | error failure => exact still.safe_done confined ends
        | ok value => exact ends.2.safe_setPermissions rfl ends.1

/-- Every `mkdir` and the `chmod` act at a path that no link is part of, and change
nothing off the way to the target; after a success the target is a real directory
with the mode asked for. -/
theorem ensureDirectory_in_place {path : Bytes} {mode : Nat} {first last : Files Content}
    {program : DirectoryProgram (Result Unit)}
    (reaches : Reaches (surroundings Content) (ensureDirectory path mode, first) (program, last)) :
    (∀ operation rest, program = .call operation rest → ActsInPlace last operation) ∧
    Confined first (first.target path) last ∧
    (program = .done (.ok ()) → last.tree.Real (first.target path) ∧
      last.mode (first.target path) = permissions mode) := by
  have safe := (safe_ensureDirectory path mode first).of_reaches reaches
  refine ⟨?_, safe.holds, ?_⟩
  · rintro operation rest rfl
    exact safe.permits
  · rintro rfl
    exact safe.result

/-! ### Files to compute with -/

def kindOf : FileNode Bytes Content → FileKind
  | .directory => .directory
  | .file _ => .regular
  | .link _ => .symbolicLink
  | .special => .other

theorem hasKind_kindOf (node : FileNode Bytes Content) : HasKind node (kindOf node) := by
  cases node with
  | directory => rfl
  | file content => rfl
  | link target => rfl
  | special => exact .inr rfl

section Machine

variable [DecidableEq Content]

def Files.make? (files : Files Content) (path : Bytes) (mode : Nat) : Option (Files Content) :=
  (files.tree.locate (names path)).bind fun position =>
  if fits : (position.dropLast = [] ∨ files.tree.node position.dropLast = some .directory) ∧
      files.tree.node position = none then
    some { files with
      tree := files.tree.place position .directory fits.1 fits.2
      mode := Function.update files.mode position (permissions mode) }
  else none

theorem makes_of_make? {files next : Files Content} {path : Bytes} {mode : Nat}
    (made : files.make? path mode = some next) : files.Makes path next := by
  obtain ⟨position, located, made⟩ := Option.bind_eq_some_iff.mp made
  split at made
  next fits =>
    obtain rfl := Option.some.inj made
    exact ⟨position, located, fits.2, fun _ => rfl,
      fun other different => Function.update_of_ne different _ _, rfl⟩
  next => cases made

/-- Every call is answered as the files are, and nothing fails. -/
def respond : Responder DirectoryAnswer (Files Content)
  | files, .currentPath => some (.ok files.workingDirectory.text, files)
  | files, .lstat path =>
      match files.lookup path with
      | some node => some (.found ⟨kindOf node, 0, 0⟩, files)
      | none => some (.missing, files)
  | files, .mkdir path mode => (files.make? path mode).map fun next => (.created, next)
  | files, .chmod path mode =>
      (files.tree.resolve (FileTree.maxLinks + 1) (names path)).map fun position =>
        (.ok (), { files with mode := Function.update files.mode position (permissions mode) })

theorem within_respond : respond.Within (surroundings Content) id := by
  intro files operation answer next responded
  refine ⟨files, .refl, ?_⟩
  cases operation with
  | currentPath =>
      obtain ⟨rfl, rfl⟩ := Prod.ext_iff.mp (Option.some.inj responded)
      exact ⟨rfl, rfl⟩
  | lstat path =>
      simp only [respond] at responded
      split at responded
      next node seen =>
        obtain ⟨rfl, rfl⟩ := Prod.ext_iff.mp (Option.some.inj responded)
        exact ⟨rfl, node, seen, hasKind_kindOf node⟩
      next unseen =>
        obtain ⟨rfl, rfl⟩ := Prod.ext_iff.mp (Option.some.inj responded)
        exact ⟨rfl, unseen⟩
  | mkdir path mode =>
      obtain ⟨made, makes, same⟩ := Option.map_eq_some_iff.mp responded
      obtain ⟨rfl, rfl⟩ := Prod.ext_iff.mp same
      exact makes_of_make? makes
  | chmod path mode =>
      obtain ⟨position, resolved, same⟩ := Option.map_eq_some_iff.mp responded
      obtain ⟨rfl, rfl⟩ := Prod.ext_iff.mp same
      exact ⟨position, resolved, rfl⟩

end Machine

/-- A directory `/a` beside a link `/b` to it. -/
def linkedFiles : Files Unit where
  tree :=
    { node := fun position =>
        if position = [] ∨ position = [ascii "a"] then some .directory
        else if position = [ascii "b"] then some (.link [ascii "a"])
        else none
      rooted := by
        intro position name present
        by_cases root : position = []
        · exact .inl root
        · have deep (other : Bytes) : position ++ [name] ≠ [other] := by
            intro same
            exact root (by simpa using congrArg List.dropLast same)
          simp [deep] at present }
  mode _ := 0o755
  workingDirectory := [ascii "a"]

theorem ensureDirectory_in_place_example : ∃ last : Files Unit,
    Confined linkedFiles [ascii "a", ascii "c", ascii "d"] last ∧
    last.tree.Real [ascii "a", ascii "c", ascii "d"] ∧
    last.mode [ascii "a", ascii "c", ascii "d"] = 0o750 := by
  have made : Reaches (surroundings Unit) (ensureDirectory (ascii "c//d/") 0o750, linkedFiles)
      (.done (.ok ()), _) := reaches_of_follow within_respond (by decide +kernel)
  obtain ⟨-, confined, result⟩ := ensureDirectory_in_place made
  have target : linkedFiles.target (ascii "c//d/") = [ascii "a", ascii "c", ascii "d"] := by
    decide +kernel
  rw [target] at confined result
  exact ⟨_, confined, result rfl⟩

/-- A path that is refused for what it is leaves everything as it was, unless a `.` or
`..` stands behind a name that is missing: then exactly the names in front of the
first one have been made where they were missing. -/
theorem ensureDirectory_refused {path : Bytes} {mode : Nat} {first last : Files Content}
    {failure : Error}
    (reaches : Reaches (surroundings Content) (ensureDirectory path mode, first)
      (.done (.error failure), last))
    (refuses : Refuses failure) : Refused first (first.absolute path) failure last :=
  ((safe_ensureDirectory path mode first).of_reaches reaches).result refuses

/-- `/a/c/..` is refused, but `/a/c` is there then. -/
theorem refused_path_has_effect : ¬ ∀ (path : Bytes) (mode : Nat) (first last : Files Unit)
    (failure : Error),
    Reaches (surroundings Unit) (ensureDirectory path mode, first)
      (.done (.error failure), last) → Refuses failure → last = first := by
  intro unchanged
  have refused : Reaches (surroundings Unit)
      (ensureDirectory (ascii "/a/c/..") 0o750, linkedFiles) (.done (.error traversal), _) :=
    reaches_of_follow within_respond (by decide +kernel)
  have same := unchanged _ _ _ _ _ refused (.inr (.inr (.inl rfl)))
  have sameNode := congrArg (fun files => files.tree.node [ascii "a", ascii "c"]) same
  exact absurd sameNode (by decide +kernel)

theorem ensureDirectory_refused_example : ∃ last : Files Unit,
    Refused linkedFiles (ascii "/a/c/..") traversal last ∧
      last.tree.node [ascii "a", ascii "c"] = some .directory := by
  have refused : Reaches (surroundings Unit)
      (ensureDirectory (ascii "/a/c/..") 0o750, linkedFiles) (.done (.error traversal), _) :=
    reaches_of_follow within_respond (by decide +kernel)
  exact ⟨_, ensureDirectory_refused refused (.inr (.inr (.inl rfl))), by decide +kernel⟩

end DirectoryCreation

end TunProxy
