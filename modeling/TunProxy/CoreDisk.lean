import TunProxy.FileTree
import TunProxy.LaunchPlans

/-!
# The core's files on a disk

The calls of the core manager on a file tree with symbolic links.  The
utilities may fail and may write anything to what they are told to write;
`sha256sum` reports the digest of the file that it reads, and nothing else
changes the core's files.
-/

namespace TunProxy

open ByteText EffectProgram

/-- A disk for the core's files: how large contents are, and what `sha256sum`
reports for them. -/
structure CoreDisk (Content : Type) where
  setup : Setup
  size : Content → Nat
  digest : Content → Bytes
  /-- Whether `tar` may leave a symbolic link as the license. -/
  linksLicense : Bool

/-- The file that a call executes as a core. -/
def SystemCall.executes : SystemCall → Option Path
  | .runCapture command =>
      match command.tool with
      | .coreVersion executable | .coreCheck executable => some executable
      | _ => none
  | .fork (.core executable _) => some executable
  | _ => none

/-- What the core's directories are to be: neither lies within the other. -/
structure Setup.Separate (setup : Setup) : Prop where
  cache : ¬ setup.paths.cacheDir <+: setup.coreDirectory
  core : ¬ setup.coreDirectory <+: setup.paths.cacheDir

theorem separate_shippedSetup : shippedSetup.Separate :=
  ⟨by decide, by decide⟩

namespace CoreDisk

variable {Content : Type} (disk : CoreDisk Content)

abbrev Tree (Content : Type) : Type :=
  FileTree Bytes Content

/-! ## What the files are -/

/-- The content is that of the release's core. -/
def IsCore (content : Content) : Prop :=
  disk.size content = disk.setup.manifest.binarySize ∧
    disk.digest content = disk.setup.manifest.binarySha256

/-- The path is that of a regular file with the release's core. -/
def Verified (tree : Tree Content) (path : Path) : Prop :=
  ∃ content, tree.lookup path = some (.file content) ∧ disk.IsCore content

/-- The license can be read and is that of the release. -/
def Licensed (tree : Tree Content) : Prop :=
  ∃ content, tree.read disk.setup.licensePath = some content ∧
    disk.digest content = disk.setup.manifest.licenseSha256

/-! ## How calls are answered -/

/-- What `lstat` tells about a node; its owner is not kept. -/
def Describes (status : FileStatus) : FileNode Bytes Content → Prop
  | .directory => status.kind = .directory
  | .file content => status.kind = .regular ∧ status.size = disk.size content
  | .link _ => status.kind = .symbolicLink
  | .special => status.kind = .characterDevice ∨ status.kind = .other

/-- The node is put where nothing was. -/
def Placed (tree : Tree Content) (path : Path) (node : FileNode Bytes Content)
    (next : Tree Content) : Prop :=
  ∃ position, tree.locate path = some position ∧ tree.node position = none ∧
    ∀ other, next.node other = if other = position then some node else tree.node other

/-- A part of what is at a path, or below it, is gone. -/
def Removed (tree : Tree Content) (path : Path) (next : Tree Content) : Prop :=
  ∀ other, next.node other = tree.node other ∨ next.node other = none ∧
    ∃ position, tree.locate path = some position ∧ position <+: other

/-- What was at the source, with everything below it, replaces the destination. -/
def Renamed (tree : Tree Content) (source destination : Path) (next : Tree Content) : Prop :=
  ∃ old new, tree.locate source = some old ∧ tree.locate destination = some new ∧
    ∀ other, next.node other =
      if new <+: other then tree.node (old ++ other.drop new.length)
      else if old <+: other then none
      else tree.node other

/-- The core's files are as they were, seen from their paths. -/
def CoreUnchanged (tree next : Tree Content) : Prop :=
  ∀ path, path = disk.setup.corePath ∨ path = disk.setup.licensePath →
    next.lookup path = tree.lookup path ∧ next.read path = tree.read path

def ToolAnswers (tree : Tree Content) (result : Result ProcessOutput) (next : Tree Content) :
    Tool → Prop
  | .sha256sum path => next = tree ∧ ∀ output hash, result = .ok output → output.exitCode = 0 →
      parseDigest output.stdoutText = .ok hash →
      ∃ content, tree.read path = some content ∧ hash = disk.digest content
  | .curl archive => ∀ other, tree.locate archive ≠ some other →
      next.node other = tree.node other
  | .tar _ staging =>
      (∀ other, next.node other = tree.node other ∨
        ∃ position, tree.locate staging = some position ∧ position <+: other ∧ position ≠ other) ∧
      (disk.linksLicense = false →
        ∀ target, next.lookup (staging ++ [ascii "LICENSE"]) ≠ some (.link target))
  | .coreVersion _ | .coreCheck _ => next = tree

/-- The answers of a disk.  The files that are written whole, and the core's log,
are none of the core's files. -/
def Answers (tree : Tree Content) (operation : SystemCall) (answer : SystemAnswer operation)
    (next : Tree Content) : Prop :=
  match operation, answer with
  | .lstat path, .found status =>
      next = tree ∧ ∃ node, tree.lookup path = some node ∧ disk.Describes status node
  | .lstat path, .missing => next = tree ∧ tree.lookup path = none
  | .mkdir path _, .created => Placed tree path .directory next
  | .mknod path _ _, .created => Placed tree path .special next
  | .remove path, _ => Removed tree path next
  | .removeAll path, _ => Removed tree path next
  | .rename source destination, true => Renamed tree source destination next
  | .runCapture command, result => disk.ToolAnswers tree result next command.tool
  | .writeFileAtomic _ _ _, _ | .removeFile _, _ | .openCoreLog, _ => disk.CoreUnchanged tree next
  | _, _ => next = tree

def surroundings : Surroundings SystemAnswer (Tree Content) where
  answers := disk.Answers
  drift _ _ := False

theorem still : Still disk.surroundings :=
  fun _ _ => not_false

/-- A condition on every tree, and that only verified files are executed. -/
def guarded (holds : Tree Content → Prop) : Watch SystemCall (Tree Content) where
  holds := holds
  permits tree operation := ∀ path, operation.executes = some path → disk.Verified tree path
  cuts := True

end CoreDisk

end TunProxy
