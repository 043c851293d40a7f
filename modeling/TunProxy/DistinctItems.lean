import Mathlib.Data.List.Basic
import Mathlib.Data.List.Nodup
import Mathlib.Data.List.Perm.Basic
import Mathlib.Tactic.Common

/-!
# Collecting distinct items

The distinct items of a list, in the order in which they occur first, and a
collection of them that gives up beyond a limit.  Neither whether it gives up
nor the set that it collects depends on the order of the list or on
repetitions.
-/

namespace DistinctItems

variable {α : Type} [DecidableEq α]

/-- Add an item behind those that were found before, if it is new. -/
def add (found : List α) (item : α) : List α :=
  if item ∈ found then found else found ++ [item]

/-- The distinct items, in the order in which they occur first. -/
def distinct (items : List α) : List α :=
  items.foldl add []

/-- Collect distinct items behind those that were found before, or give up where
there are more than the limit. -/
def collect (limit : Nat) : List α → List α → Option (List α)
  | found, [] => some found
  | found, item :: rest =>
      if item ∈ found then collect limit found rest
      else if limit ≤ found.length then none
      else collect limit (found ++ [item]) rest

theorem mem_add {found : List α} {item other : α} :
    other ∈ add found item ↔ other ∈ found ∨ other = item := by
  unfold add
  split
  next present =>
    refine ⟨Or.inl, ?_⟩
    rintro (member | rfl)
    · exact member
    · exact present
  next => simp

theorem nodup_add {found : List α} (item : α) (nodup : found.Nodup) : (add found item).Nodup := by
  unfold add
  split
  next => exact nodup
  next absent => exact List.nodup_append.mpr ⟨nodup, List.nodup_singleton item, by grind⟩

theorem length_le_add (found : List α) (item : α) : found.length ≤ (add found item).length := by
  unfold add
  split
  · exact Nat.le_refl _
  · simp

theorem mem_foldl_add {found items : List α} {other : α} :
    other ∈ items.foldl add found ↔ other ∈ found ∨ other ∈ items := by
  induction items generalizing found with
  | nil => simp
  | cons item items ih =>
      rw [List.foldl_cons, ih, mem_add, List.mem_cons]
      exact or_assoc

theorem nodup_foldl_add {found : List α} (items : List α) (nodup : found.Nodup) :
    (items.foldl add found).Nodup := by
  induction items generalizing found with
  | nil => exact nodup
  | cons item items ih => exact ih (nodup_add item nodup)

theorem length_le_foldl_add (found items : List α) :
    found.length ≤ (items.foldl add found).length := by
  induction items generalizing found with
  | nil => exact Nat.le_refl _
  | cons item items ih => exact Nat.le_trans (length_le_add found item) (ih _)

@[simp] theorem mem_distinct {items : List α} {other : α} :
    other ∈ distinct items ↔ other ∈ items := by
  simp [distinct, mem_foldl_add]

theorem nodup_distinct (items : List α) : (distinct items).Nodup :=
  nodup_foldl_add items List.nodup_nil

/-- As long as the limit has not been passed, all distinct items are collected or
there are too many of them. -/
theorem collect_eq {limit : Nat} {found : List α} (items : List α)
    (within : found.length ≤ limit) :
    collect limit found items =
      if (items.foldl add found).length ≤ limit then some (items.foldl add found) else none := by
  induction items generalizing found with
  | nil => simp [collect, within]
  | cons item items ih =>
      rw [collect, List.foldl_cons]
      by_cases present : item ∈ found
      · rw [if_pos present, ih within]
        simp [add, present]
      · have grown : add found item = found ++ [item] := if_neg present
        rw [if_neg present]
        by_cases full : limit ≤ found.length
        · have more := length_le_foldl_add (add found item) items
          rw [grown, List.length_append, List.length_singleton] at more
          rw [if_pos full, grown, if_neg (by omega)]
        · rw [if_neg full, ih (by simp; omega), grown]

theorem collect_distinct (limit : Nat) (items : List α) :
    collect limit [] items =
      if (distinct items).length ≤ limit then some (distinct items) else none :=
  collect_eq items (Nat.zero_le _)

/-- Lists with the same members have as many distinct ones. -/
theorem length_distinct_eq {first second : List α}
    (same : ∀ item, item ∈ first ↔ item ∈ second) :
    (distinct first).length = (distinct second).length := by
  apply List.Perm.length_eq
  apply (List.perm_ext_iff_of_nodup (nodup_distinct first) (nodup_distinct second)).mpr
  intro item
  simp only [mem_distinct, same]

end DistinctItems
