import TunProxy.EffectProgramSafety
import TunProxy.ErrorResult

/-!
# Atomic replacement of a file

A file is written under a temporary name beside its target and renamed onto
it.  Whatever the system calls return, the target holds its old content or
all of the new one at every step, and a failure takes the temporary file back.
-/

namespace TunProxy

open ByteText EffectProgram

namespace AtomicWrite

/-! ## The program -/

/-- The two parts of a path that a write uses. -/
structure TargetPath where
  parentPath : Bytes
  filename : Bytes

/-- The system calls on the temporary file, its directory and `errno`.  Files are
called by their names in the directory. -/
inductive FileCall
  /-- `open` with `O_WRONLY | O_CREAT | O_EXCL | O_NOFOLLOW`. -/
  | openTemporary (name : Bytes) (mode : Nat)
  | fchmod (mode : Nat)
  | write (data : Bytes)
  | fsync
  | close
  | rename (old new : Bytes)
  | unlink (name : Bytes)
  /-- `open` with `O_RDONLY | O_DIRECTORY | O_CLOEXEC`. -/
  | openDirectory (path : Bytes)
  | fsyncDirectory
  | closeDirectory
  | strerror

/-- What `write` returns: a count, which may be zero, or a failure with `EINTR`
or with another `errno`. -/
inductive WriteAnswer
  | wrote (count : Nat)
  | interrupted
  | failed
  deriving DecidableEq

abbrev FileAnswer : FileCall → Type
  | .write _ => WriteAnswer
  | .strerror => Bytes
  | _ => Bool

abbrev FileProgram (α : Type) : Type :=
  EffectProgram FileAnswer α

/-- The failure of an operation, with the text of the current `errno`. -/
def failWith (operation : Bytes) : FileProgram (Result Unit) :=
  .call .strerror fun detail =>
    .done (.error (makeError .generic (operation ++ ascii ": " ++ detail)))

/-- The name of the temporary file, from the next number of the generator. -/
def temporaryName (target : TargetPath) (draw : UInt64) : Bytes :=
  target.filename ++ ascii ".tmp." ++ formatNat draw.toNat

/-- Give up on an open temporary file. -/
def abandon (temporary operation : Bytes) : FileProgram (Result Unit) :=
  .call .close fun _ => .call (.unlink temporary) fun _ => failWith operation

/-- One turn of the writing loop, with the bytes that remain. -/
def writeStep (temporary remaining : Bytes) : FileProgram (Bytes ⊕ Result Unit) :=
  if remaining.isEmpty then .done (.inr (.ok ()))
  else .call (.write remaining) fun
    | .interrupted => .done (.inl remaining)
    | .wrote (count + 1) => .done (.inl (remaining.drop (count + 1)))
    | _ => (abandon temporary (ascii "write")).bind fun result => .done (.inr result)

/-- `fsync(fd) != 0 || close(fd) != 0`, the other way round. -/
def syncAndClose : FileProgram Bool :=
  .call .fsync fun
    | true => .call .close .done
    | false => .done false

/-- Sync the directory, if it can be opened. -/
def syncDirectory (target : TargetPath) : FileProgram (Result Unit) :=
  .call (.openDirectory target.parentPath) fun
    | true => .call .fsyncDirectory fun _ => .call .closeDirectory fun _ => .done (.ok ())
    | false => .done (.ok ())

def writeFileAtomic (fuel : Nat) (target : TargetPath) (draw : UInt64) (contents : Bytes)
    (mode : Nat) : FileProgram (Result Unit) :=
  if target.parentPath.isEmpty then
    .done (.error (makeError .generic (ascii "target has no parent directory")))
  else
    let temporary := temporaryName target draw
    .call (.openTemporary temporary mode) fun
    | false => failWith (ascii "create temporary file")
    | true => .call (.fchmod mode) fun
      | false => abandon temporary (ascii "chmod")
      | true => (iterate (writeStep temporary) fuel contents).andThen fun _ =>
        syncAndClose.bind fun
        | false => .call (.unlink temporary) fun _ => failWith (ascii "sync")
        | true => .call (.rename temporary target.filename) fun
          | false => .call (.unlink temporary) fun _ => failWith (ascii "rename")
          | true => syncDirectory target

theorem temporaryName_ne (target : TargetPath) (draw : UInt64) :
    temporaryName target draw ≠ target.filename := by
  intro same
  have lengths := congrArg List.length same
  have dots : (ascii ".tmp.").length = 5 := by decide
  simp only [temporaryName, List.length_append] at lengths
  omega

/-! ## The directory -/

/-- The contents of the directory's files and the file that is open.  It is kept
which calls failed: an `unlink`, or one that the write depends on, that is any
but an interrupted write and the calls on the directory. -/
structure Directory where
  files : Bytes → Option Bytes
  descriptor : Option Bytes
  interruptions : Nat
  failed : Bool
  unlinkFailed : Bool

namespace Directory

/-- A directory before a write in which `write` is interrupted so many times. -/
def fresh (files : Bytes → Option Bytes) (interruptions : Nat) : Directory :=
  ⟨files, none, interruptions, false, false⟩

/-- Append to the open file. -/
def append (world : Directory) (part : Bytes) : Directory :=
  match world.descriptor with
  | none => world
  | some name => { world with
      files := Function.update world.files name ((world.files name).map (· ++ part)) }

def renamed (world : Directory) (old new : Bytes) : Directory :=
  { world with
    files := Function.update (Function.update world.files new (world.files old)) old none }

/-- What can be answered.  Any call may fail. -/
def Possible (world : Directory) (operation : FileCall) (answer : FileAnswer operation) : Prop :=
  match operation, answer with
  | .openTemporary name _, true => world.files name = none
  | .write data, .wrote count => count ≤ data.length
  | .write _, .interrupted => 0 < world.interruptions
  | .rename old _, true => world.files old ≠ none
  | _, _ => True

/-- The directory after an answer.  A failed call changes no file. -/
def after (world : Directory) (operation : FileCall) (answer : FileAnswer operation) : Directory :=
  match operation, answer with
  | .openTemporary name _, true => { world with
      files := Function.update world.files name (some []), descriptor := some name }
  | .write data, .wrote count =>
      { world.append (data.take count) with failed := world.failed || count == 0 }
  | .write _, .interrupted => { world with interruptions := world.interruptions - 1 }
  | .close, succeeded =>
      { world with descriptor := none, failed := world.failed || !succeeded }
  | .rename old new, true => world.renamed old new
  | .unlink name, true => { world with files := Function.update world.files name none }
  | .unlink _, false => { world with unlinkFailed := true }
  | .openTemporary _ _, false | .write _, .failed | .rename _ _, false =>
      { world with failed := true }
  | .fchmod _, succeeded | .fsync, succeeded =>
      { world with failed := world.failed || !succeeded }
  | .openDirectory _, _ | .fsyncDirectory, _ | .closeDirectory, _ | .strerror, _ => world

end Directory

/-- Nothing else changes the directory during a write. -/
def directory : Surroundings FileAnswer Directory where
  answers world operation answer next :=
    world.Possible operation answer ∧ next = world.after operation answer
  drift _ _ := False

theorem still_directory : Still directory :=
  fun _ _ => not_false

/-! ## Every state of a write -/

/-- A failed write has left the directory as it was, but for a temporary file that
could not be removed. -/
structure Undone (files : Bytes → Option Bytes) (target : TargetPath) (world : Directory) :
    Prop where
  failed : target.parentPath = [] ∨ world.failed = true
  target_eq : world.files target.filename = files target.filename
  files_eq : world.unlinkFailed = false → world.files = files

/-- The target has its old content or the new one, and a run is cut off only
where it has too little fuel for the bytes and the interruptions. -/
def atomic (files : Bytes → Option Bytes) (target : TargetPath) (contents : Bytes)
    (enough : Prop) : Watch FileCall Directory where
  holds world := world.files target.filename = files target.filename ∨
    world.files target.filename = some contents
  permits _ _ := True
  cuts := ¬ enough

/-- The temporary file is there with this content, and nothing else has changed. -/
structure Draft (files : Bytes → Option Bytes) (target : TargetPath) (temporary written : Bytes)
    (world : Directory) : Prop where
  absent : files temporary = none
  beside : temporary ≠ target.filename
  files_eq : world.files = Function.update files temporary (some written)

section Write

variable {files : Bytes → Option Bytes} {target : TargetPath} {contents temporary : Bytes}
variable {enough : Prop} {world : Directory} {written : Bytes}

theorem Draft.of_files {next : Directory} (draft : Draft files target temporary written world)
    (same : next.files = world.files) : Draft files target temporary written next :=
  ⟨draft.absent, draft.beside, same.trans draft.files_eq⟩

theorem Draft.target_eq (draft : Draft files target temporary written world) :
    world.files target.filename = files target.filename := by
  rw [draft.files_eq, Function.update_of_ne draft.beside.symm]

theorem Draft.holds (draft : Draft files target temporary written world) :
    (atomic files target contents enough).holds world :=
  .inl draft.target_eq

theorem Draft.unlinked (draft : Draft files target temporary written world) :
    Function.update world.files temporary none = files := by
  rw [draft.files_eq, Function.update_idem, ← draft.absent, Function.update_eq_self]

section Failures

variable {post : Result Unit → Directory → Prop}
variable (undone : ∀ failure world, Undone files target world → post (.error failure) world)

include undone

/-- Reading `errno` ends a write that has failed. -/
theorem Undone.safe_failWith (left : Undone files target world) (operation : Bytes) :
    Safe directory (atomic files target contents enough) post (failWith operation) world := by
  have unchanged : (atomic files target contents enough).holds world := .inl left.target_eq
  apply still_directory.safe_call unchanged trivial
  rintro detail next ⟨-, rfl⟩
  exact still_directory.safe_done unchanged (undone _ _ left)

/-- A failure behind the creation of the temporary file takes it back. -/
theorem Draft.safe_unlink (draft : Draft files target temporary written world)
    (failed : world.failed = true) (operation : Bytes) :
    Safe directory (atomic files target contents enough) post
      (.call (.unlink temporary) fun _ => failWith operation) world := by
  apply still_directory.safe_call draft.holds trivial
  intro succeeded next answers
  cases succeeded with
  | true =>
      obtain ⟨-, rfl⟩ := answers
      have left : Undone files target
          { world with files := Function.update world.files temporary none } :=
        ⟨.inr failed, congrFun draft.unlinked target.filename, fun _ => draft.unlinked⟩
      exact left.safe_failWith undone operation
  | false =>
      obtain ⟨-, rfl⟩ := answers
      have left : Undone files target { world with unlinkFailed := true } :=
        ⟨.inr failed, draft.target_eq, fun removed => Bool.noConfusion removed⟩
      exact left.safe_failWith undone operation

theorem Draft.safe_abandon (draft : Draft files target temporary written world)
    (failed : world.failed = true) (operation : Bytes) :
    Safe directory (atomic files target contents enough) post (abandon temporary operation)
      world := by
  apply still_directory.safe_call draft.holds trivial
  rintro succeeded next ⟨-, rfl⟩
  have closed : Draft files target temporary written
      { world with descriptor := none, failed := world.failed || !succeeded } :=
    draft.of_files rfl
  exact closed.safe_unlink undone (by simp [failed]) operation

end Failures

/-- What the writing loop ends with. -/
def Written (files : Bytes → Option Bytes) (target : TargetPath) (temporary contents : Bytes) :
    Result Unit → Directory → Prop
  | .ok _, world => Draft files target temporary contents world
  | .error _, world => Undone files target world

/-- Putting the front of what remains into the file. -/
theorem Draft.append (draft : Draft files target temporary written world)
    (opened : world.descriptor = some temporary) (part : Bytes) :
    Draft files target temporary (written ++ part) (world.append part) := by
  refine ⟨draft.absent, draft.beside, ?_⟩
  simp [Directory.append, opened, draft.files_eq]

theorem Written.holds {result : Result Unit}
    (ends : Written files target temporary contents result world) :
    (atomic files target contents enough).holds world := by
  cases result with
  | ok value => exact Draft.holds ends
  | error failure => exact .inl (Undone.target_eq ends)

/-- Giving up in the writing loop. -/
theorem Draft.safe_giveUp (draft : Draft files target temporary written world)
    (failed : world.failed = true) (again : Bytes → FileProgram (Result Unit)) :
    Safe directory (atomic files target contents enough)
      (Written files target temporary contents)
      (((abandon temporary (ascii "write")).bind fun result => .done (Sum.inr result)).bind fun
        | .inl next => again next
        | .inr value => .done value) world := by
  rw [bind_assoc]
  have abandoned : Safe directory (atomic files target contents enough)
      (Written files target temporary contents) (abandon temporary (ascii "write")) world :=
    draft.safe_abandon (fun _ _ => id) failed (ascii "write")
  exact abandoned.bind fun result last ends => still_directory.safe_done ends.holds ends

/-- However the bytes are taken, the loop puts all of them into the file, once
and in order, or gives up. -/
theorem Draft.safe_writeLoop {fuel : Nat} {remaining : Bytes}
    (draft : Draft files target temporary written world)
    (opened : world.descriptor = some temporary) (whole : written ++ remaining = contents)
    (fueled : enough → remaining.length + world.interruptions < fuel) :
    Safe directory (atomic files target contents enough)
      (Written files target temporary contents)
      (iterate (writeStep temporary) fuel remaining) world := by
  induction fuel generalizing world written remaining with
  | zero =>
      intro later drifts
      rw [still_directory.eq_of_drifts drifts]
      exact ⟨draft.holds, fun some => absurd (fueled some) (Nat.not_lt_zero _)⟩
  | succ fuel ih =>
      by_cases finished : remaining = []
      · subst remaining
        rw [List.append_nil] at whole
        subst written
        exact still_directory.safe_done draft.holds draft
      · simp only [iterate, writeStep, List.isEmpty_iff, finished, if_false, call_bind]
        apply still_directory.safe_call draft.holds trivial
        intro answer next answers
        cases answer with
        | wrote count =>
            obtain ⟨possible, rfl⟩ := answers
            have within : count ≤ remaining.length := possible
            have more := draft.append opened (remaining.take count)
            cases count with
            | zero =>
                rw [List.take_zero, List.append_nil] at more
                have kept : Draft files target temporary written
                    { world.append [] with failed := world.failed || true } := more.of_files rfl
                exact kept.safe_giveUp (Bool.or_true _) (iterate (writeStep temporary) fuel)
            | succ count =>
                refine ih (more.of_files rfl) ?_ ?_ ?_
                · simp [Directory.after, Directory.append, opened]
                · rw [List.append_assoc, List.take_append_drop, whole]
                · intro some
                  have := fueled some
                  simp only [Directory.after, Directory.append, opened, List.length_drop]
                  omega
        | interrupted =>
            obtain ⟨patient, rfl⟩ := answers
            refine ih (draft.of_files rfl) opened whole fun some => ?_
            have := fueled some
            have : 0 < world.interruptions := patient
            simp only [Directory.after]
            omega
        | failed =>
            obtain ⟨-, rfl⟩ := answers
            have kept : Draft files target temporary written { world with failed := true } :=
              draft.of_files rfl
            exact kept.safe_giveUp rfl (iterate (writeStep temporary) fuel)

/-- The rename puts the draft in the place of the target. -/
theorem Draft.renamed (draft : Draft files target temporary contents world) :
    (world.renamed temporary target.filename).files =
      Function.update files target.filename (some contents) := by
  ext1 name
  by_cases old : name = temporary
  · subst name
    simp [Directory.renamed, draft.absent, draft.beside]
  · simp [Directory.renamed, draft.files_eq, Function.update_apply, old]

/-- What a write from a directory with these files may end with. -/
def Outcome (files : Bytes → Option Bytes) (target : TargetPath) (contents : Bytes) :
    Result Unit → Directory → Prop
  | .ok _, world => world.files = Function.update files target.filename (some contents)
  | .error _, world => Undone files target world

theorem safe_syncDirectory
    (replaced : world.files = Function.update files target.filename (some contents)) :
    Safe directory (atomic files target contents enough) (Outcome files target contents)
      (syncDirectory target) world := by
  have holds : (atomic files target contents enough).holds world := by
    right
    rw [replaced, Function.update_self]
  apply still_directory.safe_call holds trivial
  rintro opened next ⟨-, rfl⟩
  cases opened with
  | false => exact still_directory.safe_done holds replaced
  | true =>
      apply still_directory.safe_call holds trivial
      rintro synced next ⟨-, rfl⟩
      apply still_directory.safe_call holds trivial
      rintro closed next ⟨-, rfl⟩
      exact still_directory.safe_done holds replaced

/-- From the complete draft on. -/
theorem Draft.safe_finish (draft : Draft files target temporary contents world) :
    Safe directory (atomic files target contents enough) (Outcome files target contents)
      (syncAndClose.bind fun
        | false => .call (.unlink temporary) fun _ => failWith (ascii "sync")
        | true => .call (.rename temporary target.filename) fun
          | false => .call (.unlink temporary) fun _ => failWith (ascii "rename")
          | true => syncDirectory target) world := by
  have giveUp {next : Directory} (same : next.files = world.files) (failed : next.failed = true)
      (operation : Bytes) :
      Safe directory (atomic files target contents enough) (Outcome files target contents)
        (.call (.unlink temporary) fun _ => failWith operation) next :=
    (draft.of_files same).safe_unlink (fun _ _ => id) failed operation
  have goOn {next : Directory} {operation : FileCall}
      {rest : FileAnswer operation → FileProgram (Result Unit)} (same : next.files = world.files)
      (answered : ∀ answer last, directory.answers next operation answer last →
        Safe directory (atomic files target contents enough) (Outcome files target contents)
          (rest answer) last) :
      Safe directory (atomic files target contents enough) (Outcome files target contents)
        (.call operation rest) next :=
    still_directory.safe_call (draft.of_files same).holds trivial answered
  apply goOn rfl
  rintro synced next ⟨-, rfl⟩
  cases synced with
  | false =>
      apply giveUp
      · rfl
      · exact Bool.or_true _
  | true =>
      apply goOn
      · rfl
      rintro closed next ⟨-, rfl⟩
      cases closed with
      | false =>
          apply giveUp
          · rfl
          · exact Bool.or_true _
      | true =>
          apply goOn
          · rfl
          intro renamed next answers
          cases renamed with
          | false =>
              obtain ⟨-, rfl⟩ := answers
              apply giveUp
              · rfl
              · rfl
          | true =>
              obtain ⟨-, rfl⟩ := answers
              exact safe_syncDirectory draft.renamed

theorem safe_writeFileAtomic (fuel : Nat) (target : TargetPath) (draw : UInt64) (contents : Bytes)
    (mode : Nat) (files : Bytes → Option Bytes) (interruptions : Nat) :
    Safe directory (atomic files target contents (contents.length + interruptions < fuel))
      (Outcome files target contents) (writeFileAtomic fuel target draw contents mode)
      (.fresh files interruptions) := by
  have fresh : (atomic files target contents (contents.length + interruptions < fuel)).holds
      (.fresh files interruptions) := .inl rfl
  unfold writeFileAtomic
  split
  next noParent =>
    have noPath : target.parentPath = [] := List.isEmpty_iff.mp noParent
    exact still_directory.safe_done fresh ⟨.inl noPath, rfl, fun _ => rfl⟩
  next =>
    apply still_directory.safe_call fresh trivial
    intro created next answers
    cases created with
    | false =>
        obtain ⟨-, rfl⟩ := answers
        have left : Undone files target
            { Directory.fresh files interruptions with failed := true } :=
          ⟨.inr rfl, rfl, fun _ => rfl⟩
        exact left.safe_failWith (fun _ _ => id) (ascii "create temporary file")
    | true =>
        obtain ⟨absent, rfl⟩ := answers
        have draft {next : Directory} (same : next.files =
            Function.update files (temporaryName target draw) (some [])) :
            Draft files target (temporaryName target draw) [] next :=
          ⟨absent, temporaryName_ne target draw, same⟩
        refine still_directory.safe_call (draft rfl).holds trivial ?_
        rintro changed next ⟨-, rfl⟩
        cases changed with
        | false =>
            apply Draft.safe_abandon (fun _ _ => id) (draft rfl)
            rfl
        | true =>
            refine Safe.bind (Draft.safe_writeLoop (draft (by rfl)) (by rfl) rfl id) ?_
            intro result last ends
            cases result with
            | error failure => exact still_directory.safe_done ends.holds ends
            | ok value => exact Draft.safe_finish ends

end Write

/-- Whatever the calls of a write return, the target has its old content or the
new one at every step.  The new content is there exactly after a success, which
there is unless a call failed that the write depends on; nothing else is left
different unless the temporary file could not be removed. -/
theorem writeFileAtomic_atomic {fuel : Nat} {target : TargetPath} {draw : UInt64}
    {contents : Bytes} {mode : Nat} {files : Bytes → Option Bytes} {interruptions : Nat}
    {program : FileProgram (Result Unit)} {last : Directory}
    (reaches : Reaches directory
      (writeFileAtomic fuel target draw contents mode, .fresh files interruptions)
      (program, last)) :
    (last.files target.filename = files target.filename ∨
      last.files target.filename = some contents) ∧
    (program = .cut → fuel ≤ contents.length + interruptions) ∧
    ∀ result, program = .done result →
      (result = .ok () → last.files target.filename = some contents) ∧
      (result ≠ .ok () → last.files target.filename = files target.filename) ∧
      (target.parentPath ≠ [] → last.failed = false → result = .ok ()) ∧
      (last.unlinkFailed = false →
        ∀ name, name ≠ target.filename → last.files name = files name) := by
  have safe := safe_writeFileAtomic fuel target draw contents mode files interruptions
  have there := safe.of_reaches reaches
  refine ⟨there.holds, ?_, ?_⟩
  · rintro rfl
    exact Nat.not_lt.mp there.cuts
  · rintro result rfl
    have outcome := there.result
    cases result with
    | ok value =>
        have replaced : last.files = Function.update files target.filename (some contents) :=
          outcome
        refine ⟨fun _ => ?_, fun failure => absurd rfl failure, fun _ _ => rfl, ?_⟩
        · rw [replaced, Function.update_self]
        · intro _ name other
          rw [replaced, Function.update_of_ne other]
    | error failure =>
        have undone : Undone files target last := outcome
        refine ⟨(nomatch ·), fun _ => undone.target_eq, ?_, ?_⟩
        · intro parent successful
          rcases undone.failed with noParent | failed
          · exact absurd noParent parent
          · simp [successful] at failed
        · intro removed name _
          rw [undone.files_eq removed]

/-- Interrupted writes at first, then writes of a byte each; nothing else fails but
the directory's sync. -/
def bytewise (world : Directory) : (operation : FileCall) → FileAnswer operation
  | .write _ => if 0 < world.interruptions then .interrupted else .wrote 1
  | .strerror => []
  | .fsyncDirectory => false
  | .openTemporary _ _ | .fchmod _ | .fsync | .close | .rename _ _ | .unlink _
  | .openDirectory _ | .closeDirectory => true

instance (world : Directory) (operation : FileCall) (answer : FileAnswer operation) :
    Decidable (world.Possible operation answer) := by
  unfold Directory.Possible
  split <;> infer_instance

/-- Give the chosen answers as far as they are possible. -/
def respond (choose : Directory → (operation : FileCall) → FileAnswer operation) :
    Responder FileAnswer Directory := fun world operation =>
  if world.Possible operation (choose world operation) then
    some (choose world operation, world.after operation (choose world operation))
  else none

theorem within_respond (choose : Directory → (operation : FileCall) → FileAnswer operation) :
    (respond choose).Within directory id := by
  intro world operation answer next responded
  unfold respond at responded
  split at responded
  next possible =>
    obtain ⟨rfl, rfl⟩ := Option.some.inj responded
    exact ⟨world, .refl, possible, rfl⟩
  next => cases responded

theorem writeFileAtomic_atomic_example : ∃ last : Directory,
    last.failed = false ∧ last.files (ascii "config") = some (ascii "mode=tun") ∧
    (last.files (ascii "config") = some (ascii "old") ∨
      last.files (ascii "config") = some (ascii "mode=tun")) := by
  have written : Reaches directory
      (writeFileAtomic 12 ⟨ascii "/etc/tunproxy", ascii "config"⟩ 7 (ascii "mode=tun") 0o600,
        .fresh (Function.update (fun _ => none) (ascii "config") (some (ascii "old"))) 3)
      (.done (.ok ()), _) :=
    reaches_of_follow (within_respond bytewise) (by decide +kernel)
  exact ⟨_, by decide +kernel, by decide +kernel, (writeFileAtomic_atomic written).1⟩

end AtomicWrite

end TunProxy
