import Mathlib.Data.Option.Basic
import Mathlib.Logic.Function.Basic

/-!
# Tables of file descriptors

A process has a table of the files that it has open.  Descriptors that it opened
for itself are kept apart from those of a table that it began with: they are
closed again, they are given to a child, or they end when a program is executed.
-/

namespace DescriptorTable

structure Descriptor (File : Type) where
  file : File
  closesOnExec : Bool
  deriving DecidableEq, Repr

abbrev Table (File : Type) : Type :=
  Nat → Option (Descriptor File)

variable {File : Type}

/-- The table with further descriptors. -/
def withOwn (table : Table File) (own : List (Nat × Descriptor File)) : Table File :=
  own.foldr (fun entry rest => Function.update rest entry.1 (some entry.2)) table

/-- What is left of a table when a program is executed. -/
def onExec (table : Table File) : Table File :=
  fun fd => (table fd).filter fun descriptor => !descriptor.closesOnExec

/-- `dup2`, which does nothing where the descriptors are the same. -/
def dup (table : Table File) (old new : Nat) : Table File :=
  match table old with
  | some descriptor =>
      if old = new then table
      else Function.update table new (some ⟨descriptor.file, false⟩)
  | none => table

/-- The file is open in the table. -/
def Has (file : File) (table : Table File) : Prop :=
  ∃ fd descriptor, table fd = some descriptor ∧ descriptor.file = file

section Tables

variable {table : Table File} {own : List (Nat × Descriptor File)} {fd : Nat}

theorem withOwn_cons {entry : Nat × Descriptor File} : withOwn table (entry :: own) =
    Function.update (withOwn table own) entry.1 (some entry.2) :=
  rfl

/-- A descriptor that is free in a table is none of the further ones. -/
theorem free_withOwn :
    withOwn table own fd = none ↔ table fd = none ∧ ∀ entry ∈ own, entry.1 ≠ fd := by
  induction own with
  | nil => simp [withOwn]
  | cons entry own ih =>
      rw [withOwn_cons]
      by_cases same : fd = entry.1
      · simp [same]
      · rw [Function.update_of_ne same, ih]
        simp [Ne.symm same]

/-- Closing a descriptor takes it out of the further ones. -/
theorem close_withOwn (free : table fd = none) :
    Function.update (withOwn table own) fd none =
      withOwn table (own.filter fun entry => entry.1 ≠ fd) := by
  induction own with
  | nil =>
      ext other
      by_cases same : other = fd
      · simp [withOwn, same, free]
      · simp [withOwn, same]
  | cons entry own ih =>
      rw [withOwn_cons]
      by_cases same : entry.1 = fd
      · rw [same, Function.update_idem, ih]
        simp [same]
      · rw [Function.update_comm same, ih]
        simp [same, withOwn]

/-- A change of a descriptor that is none of the further ones. -/
theorem update_withOwn (absent : ∀ entry ∈ own, entry.1 ≠ fd)
    (value : Option (Descriptor File)) :
    Function.update (withOwn table own) fd value =
      withOwn (Function.update table fd value) own := by
  induction own with
  | nil => rfl
  | cons entry own ih =>
      have different : entry.1 ≠ fd := absent entry List.mem_cons_self
      have rest := ih fun other member => absent other (List.mem_cons_of_mem entry member)
      rw [withOwn_cons, withOwn_cons, Function.update_comm different, rest]

/-- A file of a further descriptor takes the place of another file. -/
theorem dup_withOwn {new : Nat} {descriptor : Descriptor File}
    (found : withOwn table own fd = some descriptor) (different : fd ≠ new)
    (absent : ∀ entry ∈ own, entry.1 ≠ new) :
    dup (withOwn table own) fd new =
      withOwn (Function.update table new (some ⟨descriptor.file, false⟩)) own := by
  unfold dup
  rw [found]
  simp only
  rw [if_neg different, update_withOwn absent]

/-- A descriptor is one of the further ones or is as it was. -/
theorem withOwn_cases :
    (∃ entry ∈ own, entry.1 = fd ∧ withOwn table own fd = some entry.2) ∨
      (∀ entry ∈ own, entry.1 ≠ fd) ∧ withOwn table own fd = table fd := by
  induction own with
  | nil => exact Or.inr ⟨by simp, rfl⟩
  | cons entry own ih =>
      by_cases same : entry.1 = fd
      · left
        refine ⟨entry, List.mem_cons_self, same, ?_⟩
        rw [withOwn_cons, same]
        exact Function.update_self ..
      · rw [withOwn_cons, Function.update_of_ne (Ne.symm same)]
        rcases ih with ⟨other, member, eq, found⟩ | ⟨absent, found⟩
        · exact Or.inl ⟨other, List.mem_cons_of_mem entry member, eq, found⟩
        · exact Or.inr ⟨List.forall_mem_cons.mpr ⟨same, absent⟩, found⟩

/-- Further descriptors that are closed on `exec` are not there afterwards. -/
theorem onExec_withOwn (closes : ∀ entry ∈ own, entry.2.closesOnExec = true)
    (free : ∀ entry ∈ own, table entry.1 = none) : onExec (withOwn table own) = onExec table := by
  funext fd
  unfold onExec
  rcases @withOwn_cases _ table own fd with found | ⟨-, found⟩
  · obtain ⟨entry, member, rfl, found⟩ := found
    simp [found, free entry member, closes entry member]
  · rw [found]

end Tables

end DescriptorTable
