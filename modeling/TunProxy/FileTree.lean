import Mathlib.Data.List.Basic
import Mathlib.Tactic.Common

/-!
# File trees with symbolic links

A file tree says what is at each position, a position being the names from the
root on.  A path is a list of names, too, but it may lead through symbolic
links to another position, and not at all when it runs into too many of them.
A tree with real directories down to some point is read there without links,
and a change elsewhere is not seen there.
-/

inductive FileNode (Name Content : Type)
  | directory
  | file (content : Content)
  /-- A symbolic link, by the path from the root that it stands for. -/
  | link (target : List Name)
  | special
  deriving DecidableEq

/-- What is at each position.  Nothing is below what is not a directory. -/
structure FileTree (Name Content : Type) where
  node : List Name → Option (FileNode Name Content)
  rooted : ∀ position name, node (position ++ [name]) ≠ none →
    position = [] ∨ node position = some .directory

namespace FileTree

variable {Name Content : Type}

/-! ## Following paths -/

/-- Walk down the names from a position; at a link, go on with `jump`. -/
def descend (tree : FileTree Name Content) (jump : List Name → Option (List Name)) :
    List Name → List Name → Option (List Name)
  | position, [] => some position
  | position, name :: rest =>
      match tree.node (position ++ [name]) with
      | some .directory => descend tree jump (position ++ [name]) rest
      | some (.link target) => jump (target ++ rest)
      | some _ => if rest.isEmpty then some (position ++ [name]) else none
      | none => none

/-- The position that a path leads to, through fewer links than given. -/
def resolve (tree : FileTree Name Content) : Nat → List Name → Option (List Name)
  | 0, _ => none
  | links + 1, path => tree.descend (tree.resolve links) [] path

/-- More links than these are not followed. -/
def maxLinks : Nat := 40

/-- The position of what a path names, a link at its end not followed. -/
def locate (tree : FileTree Name Content) (path : List Name) : Option (List Name) :=
  match path.getLast? with
  | none => some []
  | some name => (tree.resolve (maxLinks + 1) path.dropLast).map fun parent => parent ++ [name]

/-- What a path names. -/
def lookup (tree : FileTree Name Content) (path : List Name) : Option (FileNode Name Content) :=
  (tree.locate path).bind tree.node

def FileNode.content? : FileNode Name Content → Option Content
  | .file content => some content
  | _ => none

/-- The content of the file that a path leads to. -/
def read (tree : FileTree Name Content) (path : List Name) : Option Content :=
  ((tree.resolve (maxLinks + 1) path).bind tree.node).bind FileNode.content?

/-- What a path leads to. -/
def stat (tree : FileTree Name Content) (path : List Name) : Option (FileNode Name Content) :=
  (tree.resolve (maxLinks + 1) path).bind tree.node

theorem node_append_none {tree : FileTree Name Content} {position : List Name} (name : Name)
    (nonempty : position ≠ []) (noDirectory : tree.node position ≠ some .directory) :
    tree.node (position ++ [name]) = none := by
  by_contra present
  rcases tree.rooted position name present with root | directory
  · exact nonempty root
  · exact noDirectory directory

/-- What is above something is there. -/
theorem node_ne_none_of_prefix {tree : FileTree Name Content} {front position : List Name}
    (nonempty : front ≠ []) (within : front <+: position) (present : tree.node position ≠ none) :
    tree.node front ≠ none := by
  obtain ⟨back, rfl⟩ := within
  induction back generalizing front with
  | nil => simpa using present
  | cons name back ih =>
      have below : tree.node (front ++ [name]) ≠ none := ih (by simp) (by simpa using present)
      rcases tree.rooted front name below with root | directory
      · exact absurd root nonempty
      · simp [directory]

theorem eq_of_node {tree next : FileTree Name Content}
    (same : ∀ position, tree.node position = next.node position) : tree = next := by
  cases tree
  cases next
  congr
  ext1 position
  exact same position

/-! ## Names at the end of a path -/

variable {tree next : FileTree Name Content}

/-- A path to a directory can be gone on with a name that is no link. -/
theorem descend_append {jump : List Name → Option (List Name)} {position parent names : List Name}
    {name : Name} {node : FileNode Name Content}
    (present : tree.node (parent ++ [name]) = some node) (noLink : ∀ target, node ≠ .link target)
    (jumps : ∀ path, jump path = some parent → jump (path ++ [name]) = some (parent ++ [name]))
    (found : tree.descend jump position names = some parent) :
    tree.descend jump position (names ++ [name]) = some (parent ++ [name]) := by
  induction names generalizing position with
  | nil =>
      obtain rfl := Option.some.inj found
      simp only [List.nil_append, descend, present]
      cases node with
      | directory => rfl
      | file content => rfl
      | link target => exact absurd rfl (noLink target)
      | special => rfl
  | cons first rest ih =>
      simp only [List.cons_append, descend] at found ⊢
      split at found
      next at_ => exact ih found
      next target at_ =>
        rw [← List.append_assoc]
        exact jumps _ found
      next other notDirectory notLink at_ =>
        split at found
        next last =>
          obtain rfl := Option.some.inj found
          have nothing := node_append_none name (List.append_ne_nil_of_right_ne_nil _
            (List.cons_ne_nil first [])) fun directory => notDirectory
              (Option.some.inj (at_.symm.trans directory))
          rw [nothing] at present
          cases present
        · cases found
      · cases found

theorem resolve_append {links : Nat} {path parent : List Name} {name : Name}
    {node : FileNode Name Content} (present : tree.node (parent ++ [name]) = some node)
    (noLink : ∀ target, node ≠ .link target) (found : tree.resolve links path = some parent) :
    tree.resolve links (path ++ [name]) = some (parent ++ [name]) := by
  induction links generalizing path with
  | zero => cases found
  | succ links ih => exact descend_append present noLink (fun _ => ih) found

/-- What is a regular file without following a link is read as such. -/
theorem read_of_lookup {path : List Name} {content : Content}
    (found : tree.lookup path = some (.file content)) : tree.read path = some content := by
  obtain ⟨position, located, node⟩ := Option.bind_eq_some_iff.mp found
  unfold locate at located
  split at located
  next empty =>
    obtain rfl := Option.some.inj located
    obtain rfl := List.getLast?_eq_none_iff.mp empty
    simp [read, resolve, descend, node, FileNode.content?]
  next name last =>
    obtain ⟨parent, resolved, rfl⟩ := Option.map_eq_some_iff.mp located
    have reached := resolve_append node (by simp) resolved
    rw [List.dropLast_append_getLast? name last] at reached
    simp [read, reached, node, FileNode.content?]

/-! ## Real directories -/

/-- A path whose components are all directories, none a link. -/
def Real (tree : FileTree Name Content) (path : List Name) : Prop :=
  ∀ position, position ≠ [] → position <+: path → tree.node position = some .directory

theorem real_nil : tree.Real [] := by
  intro position nonempty within
  exact absurd (List.prefix_nil.mp within) nonempty

theorem Real.of_prefix {path front : List Name} (real : tree.Real path) (within : front <+: path) :
    tree.Real front :=
  fun position nonempty below => real position nonempty (below.trans within)

theorem Real.append {path : List Name} {name : Name} (real : tree.Real path)
    (directory : tree.node (path ++ [name]) = some .directory) : tree.Real (path ++ [name]) := by
  intro position nonempty within
  rcases List.prefix_concat_iff.mp within with rfl | below
  · exact directory
  · exact real position nonempty below

/-- Real directories are walked through to where they are. -/
theorem Real.descend {jump : List Name → Option (List Name)} {position path rest : List Name}
    (real : tree.Real (position ++ path)) :
    tree.descend jump position (path ++ rest) = tree.descend jump (position ++ path) rest := by
  induction path generalizing position with
  | nil => simp
  | cons name path ih =>
      have directory : tree.node (position ++ [name]) = some .directory :=
        real _ (by simp) ⟨path, by simp⟩
      have below : tree.Real ((position ++ [name]) ++ path) := by simpa using real
      rw [List.cons_append, FileTree.descend]
      simp only [directory]
      rw [ih below]
      simp

theorem Real.resolve {path : List Name} (real : tree.Real path) (links : Nat) :
    tree.resolve (links + 1) path = some path := by
  have walked : tree.descend (tree.resolve links) [] (path ++ []) =
      tree.descend (tree.resolve links) ([] ++ path) [] := Real.descend real
  simpa [FileTree.resolve, FileTree.descend] using walked

theorem Real.locate {parent : List Name} (real : tree.Real parent) (name : Name) :
    tree.locate (parent ++ [name]) = some (parent ++ [name]) := by
  simp [FileTree.locate, real.resolve]

theorem Real.lookup {parent : List Name} (real : tree.Real parent) (name : Name) :
    tree.lookup (parent ++ [name]) = tree.node (parent ++ [name]) := by
  simp [FileTree.lookup, real.locate]

/-- What is in a real directory and no link is read where it is. -/
theorem Real.read {parent : List Name} (real : tree.Real parent) {name : Name}
    (noLink : ∀ target, tree.node (parent ++ [name]) ≠ some (.link target)) :
    tree.read (parent ++ [name]) = (tree.node (parent ++ [name])).bind FileNode.content? := by
  have walked : tree.descend (tree.resolve maxLinks) [] (parent ++ [name]) =
      tree.descend (tree.resolve maxLinks) ([] ++ parent) [name] := Real.descend real
  rw [FileTree.read, FileTree.resolve, walked, List.nil_append, FileTree.descend]
  cases found : tree.node (parent ++ [name]) with
  | none => rfl
  | some node =>
      cases node with
      | directory => simp [FileTree.descend, found]
      | file content => simp [found]
      | link target => exact absurd found (noLink target)
      | special => simp [found]

/-! ## Growing trees -/

/-- Everything that was there is still there. -/
def Grows (tree next : FileTree Name Content) : Prop :=
  ∀ position node, tree.node position = some node → next.node position = some node

theorem Grows.refl (tree : FileTree Name Content) : tree.Grows tree :=
  fun _ _ => id

theorem Grows.trans {last : FileTree Name Content} (first : tree.Grows next)
    (second : next.Grows last) : tree.Grows last :=
  fun position node present => second position node (first position node present)

theorem Grows.descend {jump jump' : List Name → Option (List Name)} (grows : tree.Grows next)
    (jumps : ∀ path position, jump path = some position → jump' path = some position)
    {position path found : List Name} (walked : tree.descend jump position path = some found) :
    next.descend jump' position path = some found := by
  induction path generalizing position with
  | nil => exact walked
  | cons name path ih =>
      rw [FileTree.descend] at walked ⊢
      cases present : tree.node (position ++ [name]) with
      | none =>
          rw [present] at walked
          cases walked
      | some node =>
          rw [grows _ _ present]
          rw [present] at walked
          cases node with
          | directory => exact ih walked
          | file content => exact walked
          | link target => exact jumps _ _ walked
          | special => exact walked

theorem Grows.resolve (grows : tree.Grows next) {links : Nat} {path found : List Name}
    (resolved : tree.resolve links path = some found) :
    next.resolve links path = some found := by
  induction links generalizing path found with
  | zero => cases resolved
  | succ links ih => exact grows.descend (fun _ _ => ih) resolved

theorem Grows.lookup (grows : tree.Grows next) {path : List Name} {node : FileNode Name Content}
    (found : tree.lookup path = some node) : next.lookup path = some node := by
  obtain ⟨position, located, present⟩ := Option.bind_eq_some_iff.mp found
  refine Option.bind_eq_some_iff.mpr ⟨position, ?_, grows _ _ present⟩
  unfold FileTree.locate at located ⊢
  split at located
  next => exact located
  next name last =>
    obtain ⟨parent, resolved, rfl⟩ := Option.map_eq_some_iff.mp located
    rw [grows.resolve resolved]
    rfl

theorem Grows.stat (grows : tree.Grows next) {path : List Name} {node : FileNode Name Content}
    (found : tree.stat path = some node) : next.stat path = some node := by
  obtain ⟨position, resolved, present⟩ := Option.bind_eq_some_iff.mp found
  have reached := grows.resolve resolved
  simp [FileTree.stat, reached, grows _ _ present]

theorem Grows.read (grows : tree.Grows next) {path : List Name} {content : Content}
    (found : tree.read path = some content) : next.read path = some content := by
  obtain ⟨node, present, same⟩ := Option.bind_eq_some_iff.mp found
  exact Option.bind_eq_some_iff.mpr ⟨node, grows.stat present, same⟩

theorem Grows.real (grows : tree.Grows next) {path : List Name} (real : tree.Real path) :
    next.Real path :=
  fun position nonempty within => grows _ _ (real position nonempty within)

/-- Only directories are new. -/
structure AddsDirectories (tree next : FileTree Name Content) : Prop where
  grows : tree.Grows next
  added : ∀ position, tree.node position = none →
    next.node position = none ∨ next.node position = some .directory

theorem AddsDirectories.refl (tree : FileTree Name Content) : tree.AddsDirectories tree :=
  ⟨Grows.refl tree, fun _ => .inl⟩

theorem AddsDirectories.trans {last : FileTree Name Content} (first : tree.AddsDirectories next)
    (second : next.AddsDirectories last) : tree.AddsDirectories last := by
  refine ⟨first.grows.trans second.grows, fun position absent => ?_⟩
  rcases first.added position absent with still | directory
  · exact second.added position still
  · exact .inr (second.grows _ _ directory)

/-- In a new directory there are only new directories. -/
theorem AddsDirectories.descend_new (adds : tree.AddsDirectories next)
    {jump : List Name → Option (List Name)} {position path found : List Name}
    (nonempty : position ≠ []) (absent : tree.node position = none)
    (walked : next.descend jump position path = some found) : tree.node found = none := by
  induction path generalizing position with
  | nil =>
      obtain rfl := Option.some.inj walked
      exact absent
  | cons name path ih =>
      have below : tree.node (position ++ [name]) = none :=
        node_append_none name nonempty (by simp [absent])
      rw [FileTree.descend] at walked
      rcases adds.added _ below with still | directory
      · rw [still] at walked
        cases walked
      · rw [directory] at walked
        exact ih (by simp) below walked

theorem AddsDirectories.descend_old (adds : tree.AddsDirectories next)
    {jump jump' : List Name → Option (List Name)} {position path found : List Name}
    (jumps : ∀ path, jump' path = some found → jump path = some found)
    (present : tree.node found ≠ none) (walked : next.descend jump' position path = some found) :
    tree.descend jump position path = some found := by
  induction path generalizing position with
  | nil => exact walked
  | cons name path ih =>
      rw [FileTree.descend] at walked ⊢
      cases old : tree.node (position ++ [name]) with
      | none =>
          rcases adds.added _ old with still | directory
          · rw [still] at walked
            cases walked
          · rw [directory] at walked
            exact absurd (adds.descend_new (by simp) old walked) present
      | some node =>
          rw [adds.grows _ _ old] at walked
          cases node with
          | directory => exact ih walked
          | file content => exact walked
          | link target => exact jumps _ walked
          | special => exact walked

theorem AddsDirectories.resolve_old (adds : tree.AddsDirectories next) {links : Nat}
    {path found : List Name} (present : tree.node found ≠ none)
    (resolved : next.resolve links path = some found) : tree.resolve links path = some found := by
  induction links generalizing path with
  | zero => cases resolved
  | succ links ih => exact adds.descend_old (fun _ => ih) present resolved

/-- New directories change nothing that is read. -/
theorem AddsDirectories.read (adds : tree.AddsDirectories next) (path : List Name) :
    next.read path = tree.read path := by
  cases before : tree.read path with
  | some content => exact adds.grows.read before
  | none =>
      by_contra changed
      obtain ⟨content, after⟩ := Option.ne_none_iff_exists'.mp changed
      obtain ⟨node, present, same⟩ := Option.bind_eq_some_iff.mp after
      obtain ⟨position, resolved, there⟩ := Option.bind_eq_some_iff.mp present
      have old : tree.node position = some node := by
        cases earlier : tree.node position with
        | some other => rw [← there, adds.grows _ _ earlier]
        | none =>
            rcases adds.added _ earlier with still | directory
            · rw [still] at there
              cases there
            · obtain rfl := Option.some.inj (directory.symm.trans there)
              cases same
      have reached := adds.resolve_old (by simp [old]) resolved
      rw [FileTree.read, reached] at before
      simp [old, same] at before

/-- Only directories on the way to a position are new. -/
structure Paves (tree next : FileTree Name Content) (way : List Name) : Prop
    extends tree.AddsDirectories next where
  onWay : ∀ position, tree.node position = none → next.node position ≠ none → position <+: way

theorem Paves.refl (tree : FileTree Name Content) (way : List Name) : tree.Paves tree way :=
  ⟨AddsDirectories.refl tree, fun _ absent present => absurd absent present⟩

theorem Paves.trans {last : FileTree Name Content} {way : List Name} (first : tree.Paves next way)
    (second : next.Paves last way) : tree.Paves last way := by
  refine ⟨first.toAddsDirectories.trans second.toAddsDirectories, fun position absent present => ?_⟩
  by_cases already : next.node position = none
  · exact second.onWay position already present
  · exact first.onWay position absent already

/-- What is off the way is as it was. -/
theorem Paves.node_eq {way position : List Name} (paves : tree.Paves next way)
    (off : ¬ position <+: way) : next.node position = tree.node position := by
  cases before : tree.node position with
  | some node => exact paves.grows position node before
  | none =>
      by_contra present
      exact off (paves.onWay position before present)

/-! ## Changing a tree -/

section Change

variable [DecidableEq Name]

/-- Put a node where nothing was, into a directory. -/
def place (tree : FileTree Name Content) (position : List Name) (node : FileNode Name Content)
    (parent : position.dropLast = [] ∨ tree.node position.dropLast = some .directory)
    (absent : tree.node position = none) : FileTree Name Content where
  node other := if other = position then some node else tree.node other
  rooted := by
    intro above name present
    by_cases same : above ++ [name] = position
    · subst same
      rw [List.dropLast_concat] at parent
      rcases parent with root | directory
      · exact .inl root
      · refine .inr ?_
        rw [if_neg (by simp), directory]
    · rw [if_neg same] at present
      rcases tree.rooted above name present with root | directory
      · exact .inl root
      · refine .inr ?_
        rw [if_neg, directory]
        rintro rfl
        rw [absent] at directory
        cases directory

/-- Take away what is at a position and below it. -/
def erase (tree : FileTree Name Content) (position : List Name) : FileTree Name Content where
  node other := if position <+: other then none else tree.node other
  rooted := by
    intro above name present
    by_cases below : position <+: above ++ [name]
    · exact absurd (if_pos below) present
    · rw [if_neg below] at present
      rcases tree.rooted above name present with root | directory
      · exact .inl root
      · refine .inr ?_
        rw [if_neg, directory]
        exact fun within => below (within.trans (List.prefix_append _ _))

/-- Put what is at a position, with everything below it, in the place of another
that lies in a directory beside it. -/
def move (tree : FileTree Name Content) (old new : List Name) (source : old ≠ [])
    (parent : new.dropLast = [] ∨ tree.node new.dropLast = some .directory)
    (beside : ¬ old <+: new.dropLast) : FileTree Name Content where
  node other :=
    if new <+: other then tree.node (old ++ other.drop new.length)
    else if old <+: other then none
    else tree.node other
  rooted := by
    intro above name present
    by_cases within : new <+: above
    · have below : new <+: above ++ [name] := within.trans (List.prefix_append _ _)
      rw [if_pos below, List.drop_append_of_le_length within.length_le, ← List.append_assoc]
        at present
      rcases tree.rooted _ name present with root | directory
      · exact absurd (List.append_eq_nil_iff.mp root).1 source
      · exact .inr (by rw [if_pos within, directory])
    · by_cases below : new <+: above ++ [name]
      · rcases List.prefix_concat_iff.mp below with same | inside
        · rw [same, List.dropLast_concat] at parent beside
          rcases parent with root | directory
          · exact .inl root
          · exact .inr (by rw [if_neg within, if_neg beside, directory])
        · exact absurd inside within
      · rw [if_neg below] at present
        by_cases gone : old <+: above ++ [name]
        · exact absurd (if_pos gone) present
        · rw [if_neg gone] at present
          have stays : ¬ old <+: above := fun more => gone (more.trans (List.prefix_append _ _))
          rcases tree.rooted above name present with root | directory
          · exact .inl root
          · exact .inr (by rw [if_neg within, if_neg stays, directory])

end Change

end FileTree
