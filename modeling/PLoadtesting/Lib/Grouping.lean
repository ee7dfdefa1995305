import PLoadtesting.Lib.Table
import Mathlib.Combinatorics.Enumerative.DoubleCounting

/-!
Grouping a list by a key, and counting it by groups and by partners.

A loop that appends every element to the list of its key leaves the elements of
each key in their order (`groupBy_getD`). Over keys that cover the list the
counts of the groups sum to the count of the whole (`sum_countP_groups`). Two
kinds of elements that find partners in each other are equally many
(`countP_eq_of_partners`).
-/

namespace Grouping

open Keyed

variable {α : Type} {xs : List α} {p q : α → Bool}

/-! ### Groups -/

/-- The elements under their keys, each group in the order of the list. -/
def groupBy (keyOf : α → String) (xs : List α) : Dict (List α) :=
  xs.foldl (fun groups x => groups.set (keyOf x) ((groups.get? (keyOf x)).getD [] ++ [x]))
    Table.empty

theorem foldl_group_getD {keyOf : α → String} (groups : Dict (List α)) (k : String) :
    ((xs.foldl (fun groups x => groups.set (keyOf x) ((groups.get? (keyOf x)).getD [] ++ [x]))
        groups).get? k).getD [] =
      (groups.get? k).getD [] ++ xs.filter fun x => decide (keyOf x = k) := by
  induction xs generalizing groups with
  | nil => simp
  | cons x xs ih =>
      rw [List.foldl_cons, ih, Dict.get?_set]
      by_cases here : k = keyOf x
      · subst here
        simp
      · simp [here, Ne.symm here]

theorem groupBy_getD (keyOf : α → String) (xs : List α) (k : String) :
    ((groupBy keyOf xs).get? k).getD [] = xs.filter fun x => decide (keyOf x = k) := by
  unfold groupBy
  rw [foldl_group_getD]
  rfl

/-- Over keys that cover the list, the counts of the groups sum to the count of
the whole list. -/
theorem sum_countP_groups {K : Type} [DecidableEq K] {keyOf : α → K} {keys : List K}
    (nodup : keys.Nodup) (covered : ∀ x ∈ xs, keyOf x ∈ keys) :
    (keys.map fun k => (xs.filter fun x => decide (keyOf x = k)).countP p).sum = xs.countP p := by
  induction keys generalizing xs with
  | nil =>
      cases xs with
      | nil => rfl
      | cons x xs => exact absurd (covered x List.mem_cons_self) List.not_mem_nil
  | cons k keys ih =>
      obtain ⟨fresh, nodup⟩ := List.nodup_cons.mp nodup
      have others : ∀ x ∈ xs.filter (fun x => !decide (keyOf x = k)), keyOf x ∈ keys := by
        intro x mem
        obtain ⟨inList, other⟩ := List.mem_filter.mp mem
        exact List.mem_of_ne_of_mem (by simpa using other) (covered x inList)
      have sameGroups : (keys.map fun k' =>
            (xs.filter fun x => decide (keyOf x = k')).countP p) =
          keys.map fun k' => ((xs.filter fun x => !decide (keyOf x = k)).filter
            fun x => decide (keyOf x = k')).countP p := by
        refine List.map_congr_left ?_
        intro k' mem
        have ne : k' ≠ k := fun same => fresh (same ▸ mem)
        rw [List.filter_filter]
        congr 1
        refine List.filter_congr ?_
        intro x _
        by_cases here : keyOf x = k'
        · simp [here, ne]
        · simp [here]
      rw [List.map_cons, List.sum_cons, sameGroups, ih nodup others]
      exact (List.countP_eq_countP_filter_add xs p _).symm

/-! ### Partners -/

/-- Where every element of one kind finds a partner of the other kind, and no
element is the partner of two, the first kind is not more frequent. -/
theorem countP_le_of_partners {R : α → α → Prop} (nodup : xs.Nodup)
    (finds : ∀ x ∈ xs, p x = true → ∃ y ∈ xs, q y = true ∧ R x y)
    (unique : ∀ x ∈ xs, ∀ x' ∈ xs, ∀ y, R x y → R x' y → x = x') : xs.countP p ≤ xs.countP q := by
  classical
  have matched : (xs.filter p).toFinset.card ≤ (xs.filter q).toFinset.card := by
    refine Finset.card_le_card_of_forall_subsingleton R ?_ ?_
    · intro x mem
      obtain ⟨inList, first⟩ := List.mem_filter.mp (List.mem_toFinset.mp mem)
      obtain ⟨y, yMem, second, related⟩ := finds x inList first
      exact ⟨y, List.mem_toFinset.mpr (List.mem_filter.mpr ⟨yMem, second⟩), related⟩
    · rintro y _ x ⟨xMem, xRelated⟩ x' ⟨xMem', xRelated'⟩
      have inList := (List.mem_filter.mp (List.mem_toFinset.mp xMem)).1
      have inList' := (List.mem_filter.mp (List.mem_toFinset.mp xMem')).1
      exact unique x inList x' inList' y xRelated xRelated'
  rw [List.toFinset_card_of_nodup (nodup.filter p), List.toFinset_card_of_nodup (nodup.filter q)]
    at matched
  rwa [List.countP_eq_length_filter, List.countP_eq_length_filter]

/-- Two kinds of elements that find partners in each other are equally many. -/
theorem countP_eq_of_partners {R : α → α → Prop} (nodup : xs.Nodup)
    (finds : ∀ x ∈ xs, p x = true → ∃ y ∈ xs, q y = true ∧ R x y)
    (found : ∀ x ∈ xs, q x = true → ∃ y ∈ xs, p y = true ∧ R x y)
    (unique : ∀ x ∈ xs, ∀ x' ∈ xs, ∀ y, R x y → R x' y → x = x') : xs.countP p = xs.countP q :=
  Nat.le_antisymm (countP_le_of_partners nodup finds unique)
    (countP_le_of_partners nodup found unique)

end Grouping
