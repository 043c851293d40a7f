import TunProxy.CoreDisk

/-!
# A disk to compute with

The shipped setup on a file tree that can be evaluated: a download succeeds, and
`tar` stages the license as a link to another staged file; or a download is not
answered at all.
-/

namespace TunProxy

open ByteText EffectProgram CoreDisk

/-- The contents that matter. -/
inductive ReleaseFile
  | core
  | license
  | archive
  deriving DecidableEq

namespace ReleaseFile

def size : ReleaseFile → Nat
  | .core => kSingBoxRelease.binarySize
  | .license => 0
  | .archive => kSingBoxRelease.archiveSize

def digest : ReleaseFile → Bytes
  | .core => kSingBoxRelease.binarySha256
  | .license => kSingBoxRelease.licenseSha256
  | .archive => kSingBoxRelease.archiveSha256

/-- A line of `sha256sum`. -/
def digestLine (file : ReleaseFile) : Bytes :=
  file.digest ++ ascii "  -"

theorem parseDigest_digestLine (file : ReleaseFile) :
    parseDigest file.digestLine = .ok file.digest := by
  cases file <;> decide +kernel

end ReleaseFile

/-- The shipped setup, with a `tar` that leaves a link or is not run. -/
def releaseDisk (links : Bool) : CoreDisk ReleaseFile where
  setup := shippedSetup
  size := ReleaseFile.size
  digest := ReleaseFile.digest
  linksLicense := links

abbrev ReleaseTree : Type :=
  CoreDisk.Tree ReleaseFile

namespace ReleaseTree

/-- The tree with one more node, if it can be put there. -/
def place? (tree : ReleaseTree) (position : List Bytes) (node : FileNode Bytes ReleaseFile) :
    Option ReleaseTree :=
  if fits : (position.dropLast = [] ∨ tree.node position.dropLast = some .directory) ∧
      tree.node position = none then some (tree.place position node fits.1 fits.2)
  else none

/-- The tree with a part moved, if it can be moved there. -/
def move? (tree : ReleaseTree) (old new : List Bytes) : Option ReleaseTree :=
  if fits : old ≠ [] ∧ (new.dropLast = [] ∨ tree.node new.dropLast = some .directory) ∧
      ¬ old <+: new.dropLast then some (tree.move old new fits.1 fits.2.1 fits.2.2)
  else none

/-- What `tar` stages. -/
def extract? (tree : ReleaseTree) (staging : List Bytes) : Option ReleaseTree :=
  let hidden := staging ++ [ascii ".license"]
  (tree.place? (staging ++ [ascii "sing-box"]) (.file .core)).bind fun first =>
  (first.place? hidden (.file .license)).bind fun second =>
  second.place? (staging ++ [ascii "LICENSE"]) (.link hidden)

theorem node_of_place? {tree next : ReleaseTree} {position : List Bytes}
    {node : FileNode Bytes ReleaseFile} (placed : tree.place? position node = some next) :
    tree.node position = none ∧
      ∀ other, next.node other = if other = position then some node else tree.node other := by
  unfold place? at placed
  split at placed
  next fits =>
    obtain rfl := Option.some.inj placed
    exact ⟨fits.2, fun _ => rfl⟩
  next => cases placed

theorem node_of_extract? {tree next : ReleaseTree} {staging : List Bytes}
    (extracted : tree.extract? staging = some next) (other : List Bytes) :
    next.node other = tree.node other ∨ staging <+: other ∧ staging ≠ other := by
  obtain ⟨first, placedFirst, extracted⟩ := Option.bind_eq_some_iff.mp extracted
  obtain ⟨second, placedSecond, placedThird⟩ := Option.bind_eq_some_iff.mp extracted
  have below (name : Bytes) : staging <+: staging ++ [name] ∧ staging ≠ staging ++ [name] :=
    ⟨List.prefix_append _ _, by simp⟩
  rw [(node_of_place? placedThird).2 other]
  split
  next same => exact .inr (same ▸ below _)
  next =>
    rw [(node_of_place? placedSecond).2 other]
    split
    next same => exact .inr (same ▸ below _)
    next =>
      rw [(node_of_place? placedFirst).2 other]
      split
      next same => exact .inr (same ▸ below _)
      next => exact .inl rfl

end ReleaseTree

/-! ## Answers -/

/-- What `lstat` tells about a node. -/
def nodeStatus : FileNode Bytes ReleaseFile → FileStatus
  | .directory => ⟨.directory, 0, 0⟩
  | .file content => ⟨.regular, 0, content.size⟩
  | .link _ => ⟨.symbolicLink, 0, 0⟩
  | .special => ⟨.other, 0, 0⟩

def exited (code : Int) (text : Bytes) : Result ProcessOutput :=
  .ok { exitCode := code, stdoutText := text }

def releaseTool (links : Bool) (tree : ReleaseTree) :
    Tool → Option (Result ProcessOutput × ReleaseTree)
  | .sha256sum path =>
      match tree.read path with
      | some content => some (exited 0 content.digestLine, tree)
      | none => some (exited 1 [], tree)
  | .curl archive => do
      guard links
      let position ← tree.locate archive
      let next ← tree.place? position (.file .archive)
      some (exited 0 [], next)
  | .tar _ staging => do
      guard links
      let position ← tree.locate staging
      let next ← tree.extract? position
      some (exited 0 [], next)
  | .coreVersion _ =>
      some (exited 0 (shippedSetup.expectedVersion ++ newline :: shippedSetup.expectedRevision),
        tree)
  | .coreCheck _ => none

/-- A system in which everything succeeds.  The only entry of every directory
that is listed is a staging tree of an earlier process. -/
def releaseRespond (links : Bool) : Responder SystemAnswer ReleaseTree
  | tree, .lstat path =>
      match tree.lookup path with
      | some node => some (.found (nodeStatus node), tree)
      | none => some (.missing, tree)
  | tree, .mkdir path _ => do
      let position ← tree.locate path
      let next ← tree.place? position .directory
      some (.created, next)
  | tree, .remove path =>
      match tree.locate path with
      | some position => some ((), tree.erase position)
      | none => some ((), tree)
  | tree, .removeAll path =>
      match tree.locate path with
      | some position => some ((), tree.erase position)
      | none => some ((), tree)
  | tree, .rename source destination => do
      let old ← tree.locate source
      let new ← tree.locate destination
      let next ← tree.move? old new
      some (true, next)
  | tree, .runCapture command => releaseTool links tree command.tool
  | tree, .chmod _ _ => some (.ok (), tree)
  | tree, .emitLog _ _ => some ((), tree)
  | tree, .getpid => some (7, tree)
  | tree, .listDirectory _ => some (some [ascii ".staging.6"], tree)
  | _, _ => none

theorem describes_nodeStatus {links : Bool} (node : FileNode Bytes ReleaseFile) :
    (releaseDisk links).Describes (nodeStatus node) node := by
  cases node with
  | directory => rfl
  | file content => exact ⟨rfl, rfl⟩
  | link target => rfl
  | special => exact .inr rfl

theorem toolAnswers_releaseTool {links : Bool} {tree next : ReleaseTree} {tool : Tool}
    {result : Result ProcessOutput} (ran : releaseTool links tree tool = some (result, next)) :
    (releaseDisk links).ToolAnswers tree result next tool := by
  cases tool with
  | sha256sum path =>
      simp only [releaseTool] at ran
      split at ran
      next content read =>
        obtain ⟨rfl, rfl⟩ := Prod.mk.inj (Option.some.inj ran)
        refine ⟨rfl, fun output hash same _ parsed => ⟨content, read, ?_⟩⟩
        obtain rfl := Except.ok.inj same
        exact (Except.ok.inj (content.parseDigest_digestLine.symm.trans parsed)).symm
      next =>
        obtain ⟨rfl, rfl⟩ := Prod.mk.inj (Option.some.inj ran)
        refine ⟨rfl, fun output hash same code => ?_⟩
        obtain rfl := Except.ok.inj same
        cases code
  | curl archive =>
      obtain ⟨-, -, ran⟩ := Option.bind_eq_some_iff.mp ran
      obtain ⟨position, located, ran⟩ := Option.bind_eq_some_iff.mp ran
      obtain ⟨after, placed, ran⟩ := Option.bind_eq_some_iff.mp ran
      obtain ⟨rfl, rfl⟩ := Prod.mk.inj (Option.some.inj ran)
      intro other elsewhere
      rw [(ReleaseTree.node_of_place? placed).2, if_neg]
      rintro rfl
      exact elsewhere located
  | tar archive staging =>
      obtain ⟨⟨⟩, allowed, ran⟩ := Option.bind_eq_some_iff.mp ran
      obtain ⟨position, located, ran⟩ := Option.bind_eq_some_iff.mp ran
      obtain ⟨after, extracted, ran⟩ := Option.bind_eq_some_iff.mp ran
      obtain ⟨rfl, rfl⟩ := Prod.mk.inj (Option.some.inj ran)
      refine ⟨fun other => ?_, fun unlinked => ?_⟩
      · rcases ReleaseTree.node_of_extract? extracted other with same | below
        · exact .inl same
        · exact .inr ⟨position, located, below⟩
      · obtain rfl : links = false := unlinked
        cases allowed
  | coreVersion executable =>
      obtain ⟨rfl, rfl⟩ := Prod.mk.inj (Option.some.inj ran)
      rfl
  | coreCheck executable => cases ran

theorem removed_erase {tree : ReleaseTree} {path position : Path}
    (located : tree.locate path = some position) : Removed tree path (tree.erase position) := by
  intro other
  by_cases below : position <+: other
  · exact .inr ⟨if_pos below, position, located, below⟩
  · exact .inl (if_neg below)

/-- What the responder does can happen. -/
theorem within_releaseRespond (links : Bool) :
    (releaseRespond links).Within (releaseDisk links).surroundings id := by
  intro tree operation answer next responded
  refine ⟨tree, .refl, ?_⟩
  have removes {path : Path} {answer : Unit}
      (responded : (match tree.locate path with
        | some position => some ((), tree.erase position)
        | none => some ((), tree)) = some (answer, next)) : Removed tree path next := by
    split at responded
    next position located =>
      obtain ⟨-, rfl⟩ := Prod.mk.inj (Option.some.inj responded)
      exact removed_erase located
    next =>
      obtain ⟨-, rfl⟩ := Prod.mk.inj (Option.some.inj responded)
      exact fun other => .inl rfl
  cases operation with
  | lstat path =>
      simp only [releaseRespond] at responded
      split at responded
      next node found =>
        obtain ⟨rfl, rfl⟩ := Prod.mk.inj (Option.some.inj responded)
        exact ⟨rfl, node, found, describes_nodeStatus node⟩
      next missing =>
        obtain ⟨rfl, rfl⟩ := Prod.mk.inj (Option.some.inj responded)
        exact ⟨rfl, missing⟩
  | mkdir path mode =>
      obtain ⟨position, located, ran⟩ := Option.bind_eq_some_iff.mp responded
      obtain ⟨after, placed, ran⟩ := Option.bind_eq_some_iff.mp ran
      obtain ⟨rfl, rfl⟩ := Prod.mk.inj (Option.some.inj ran)
      exact ⟨position, located, ReleaseTree.node_of_place? placed⟩
  | remove path => exact removes responded
  | removeAll path => exact removes responded
  | rename source destination =>
      obtain ⟨old, sourceLocated, ran⟩ := Option.bind_eq_some_iff.mp responded
      obtain ⟨new, goalLocated, ran⟩ := Option.bind_eq_some_iff.mp ran
      obtain ⟨after, moved, ran⟩ := Option.bind_eq_some_iff.mp ran
      obtain ⟨rfl, rfl⟩ := Prod.mk.inj (Option.some.inj ran)
      refine ⟨old, new, sourceLocated, goalLocated, ?_⟩
      unfold ReleaseTree.move? at moved
      split at moved
      next fits =>
        obtain rfl := Option.some.inj moved
        exact fun other => rfl
      next => cases moved
  | runCapture command => exact toolAnswers_releaseTool responded
  | chmod path mode =>
      obtain ⟨rfl, rfl⟩ := Prod.mk.inj (Option.some.inj responded)
      rfl
  | emitLog level message =>
      obtain ⟨rfl, rfl⟩ := Prod.mk.inj (Option.some.inj responded)
      rfl
  | getpid =>
      obtain ⟨rfl, rfl⟩ := Prod.mk.inj (Option.some.inj responded)
      rfl
  | listDirectory path =>
      obtain ⟨rfl, rfl⟩ := Prod.mk.inj (Option.some.inj responded)
      rfl
  | _ => cases responded

/-! ## Trees -/

/-- The directories of the shipped setup. -/
def releaseDirectories : List (List Bytes) :=
  [[ascii "var"], [ascii "var", ascii "cache"], [ascii "var", ascii "cache", ascii "tunproxy"],
    [ascii "var", ascii "lib"], [ascii "var", ascii "lib", ascii "tunproxy"],
    [ascii "var", ascii "lib", ascii "tunproxy", ascii "cores"], shippedSetup.coreDirectory]

def emptyTree : ReleaseTree where
  node _ := none
  rooted _ _ present := absurd rfl present

/-- The tree with one more node, or as it is where that does not fit. -/
def ReleaseTree.with (tree : ReleaseTree) (position : List Bytes)
    (node : FileNode Bytes ReleaseFile) : ReleaseTree :=
  (tree.place? position node).getD tree

/-- Nothing is installed yet. -/
def freshTree : ReleaseTree :=
  releaseDirectories.foldl (fun tree position => tree.with position .directory) emptyTree

/-- The release is installed, its license as a link into an old staging tree. -/
def linkedTree : ReleaseTree :=
  let old := shippedSetup.coreDirectory ++ [ascii ".staging.6"]
  (((freshTree.with shippedSetup.corePath (.file .core)).with old .directory).with
    (old ++ [ascii "LICENSE"]) (.file .license)).with
      shippedSetup.licensePath (.link (old ++ [ascii "LICENSE"]))

/-- The release is installed. -/
def installedTree : ReleaseTree :=
  (freshTree.with shippedSetup.corePath (.file .core)).with shippedSetup.licensePath
    (.file .license)

end TunProxy
