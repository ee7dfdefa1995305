import Mathlib.Algebra.Order.BigOperators.Group.List
import Mathlib.Algebra.Order.Field.Rat
import Mathlib.Data.List.Sort
import Mathlib.Tactic.Linarith

/-!
Order statistics of a list: the element at a place of the sorted list, and how
much of the list lies on either side of it.

The `q`-th percentile (`percentileOf`) is the element at the index `n * q / 100`
of the sorted list, at most the last one. For every length at least `q` percent
of the list are at most it and at least `100 - q` percent at least it
(`percentileOf_share`, `percentileOf_share_ge`); it grows with `q`, the
hundredth is the greatest element, and the order of the list does not matter
(`percentileOf_perm`).
-/

namespace OrderStatistics

variable {α : Type} [LinearOrder α] {xs ys : List α} {x y : α}

/-! ### Counting around a place -/

/-- The first `i + 1` elements of a sorted list are at most the one at place
`i`. -/
theorem succ_le_countP (sorted : xs.Pairwise (· ≤ ·)) {i : Nat} (place : xs[i]? = some x) :
    i + 1 ≤ xs.countP fun y => y ≤ x := by
  obtain ⟨inside, rfl⟩ := List.getElem?_eq_some_iff.mp place
  have first : ∀ y ∈ xs.take (i + 1), decide (y ≤ xs[i]) = true := by
    intro y mem
    obtain ⟨j, hj, rfl⟩ := List.mem_take_iff_getElem.mp mem
    have before : j < i ∨ j = i := by omega
    refine decide_eq_true ?_
    rcases before with before | rfl
    · exact List.pairwise_iff_getElem.mp sorted j i (by omega) inside before
    · exact le_rfl
  have counted := (List.take_sublist (i + 1) xs).countP_le (p := fun y => y ≤ xs[i])
  rw [List.countP_eq_length.mpr first, List.length_take] at counted
  omega

/-- The elements of a sorted list from place `i` on are at least the one
there. -/
theorem length_sub_le_countP (sorted : xs.Pairwise (· ≤ ·)) {i : Nat} (place : xs[i]? = some x) :
    xs.length - i ≤ xs.countP fun y => x ≤ y := by
  obtain ⟨inside, rfl⟩ := List.getElem?_eq_some_iff.mp place
  have last : ∀ y ∈ xs.drop i, decide (xs[i] ≤ y) = true := by
    intro y mem
    obtain ⟨j, hj, rfl⟩ := List.mem_drop_iff_getElem.mp mem
    have after : 0 < j ∨ j = 0 := by omega
    refine decide_eq_true ?_
    rcases after with after | rfl
    · exact List.pairwise_iff_getElem.mp sorted i (i + j) inside (by omega) (by omega)
    · exact le_rfl
  have counted := (List.drop_sublist i xs).countP_le (p := fun y => xs[i] ≤ y)
  rwa [List.countP_eq_length.mpr last, List.length_drop] at counted

/-! ### Sorting -/

/-- A list and its rearrangements sort to the same list. -/
theorem mergeSort_eq_of_perm (perm : xs.Perm ys) :
    xs.mergeSort (· ≤ ·) = ys.mergeSort (· ≤ ·) := by
  have same : (xs.mergeSort (· ≤ ·)).Perm (ys.mergeSort (· ≤ ·)) :=
    ((List.mergeSort_perm xs _).trans perm).trans (List.mergeSort_perm ys _).symm
  exact same.eq_of_pairwise' (List.pairwise_mergeSort' (· ≤ ·) xs)
    (List.pairwise_mergeSort' (· ≤ ·) ys)

theorem exists_min? (nonempty : xs ≠ []) :
    ∃ least, xs.min? = some least ∧ least ∈ xs ∧ ∀ x ∈ xs, least ≤ x := by
  obtain ⟨least, isLeast⟩ := Option.ne_none_iff_exists'.mp (mt List.min?_eq_none_iff.mp nonempty)
  exact ⟨least, isLeast, List.min?_eq_some_iff.mp isLeast⟩

theorem exists_max? (nonempty : xs ≠ []) :
    ∃ greatest, xs.max? = some greatest ∧ greatest ∈ xs ∧ ∀ x ∈ xs, x ≤ greatest := by
  obtain ⟨greatest, isGreatest⟩ :=
    Option.ne_none_iff_exists'.mp (mt List.max?_eq_none_iff.mp nonempty)
  exact ⟨greatest, isGreatest, List.max?_eq_some_iff.mp isGreatest⟩

/-- Rearrangements have the same least and the same greatest element. -/
theorem min?_eq_of_perm (perm : xs.Perm ys) : xs.min? = ys.min? := by
  cases least : ys.min? with
  | none =>
      rw [List.min?_eq_none_iff] at least ⊢
      exact (least ▸ perm).eq_nil
  | some x =>
      obtain ⟨mem, below⟩ := List.min?_eq_some_iff.mp least
      exact List.min?_eq_some_iff.mpr
        ⟨perm.mem_iff.mpr mem, fun y inXs => below y (perm.mem_iff.mp inXs)⟩

theorem max?_eq_of_perm (perm : xs.Perm ys) : xs.max? = ys.max? := by
  cases greatest : ys.max? with
  | none =>
      rw [List.max?_eq_none_iff] at greatest ⊢
      exact (greatest ▸ perm).eq_nil
  | some x =>
      obtain ⟨mem, above⟩ := List.max?_eq_some_iff.mp greatest
      exact List.max?_eq_some_iff.mpr
        ⟨perm.mem_iff.mpr mem, fun y inXs => above y (perm.mem_iff.mp inXs)⟩

/-! ### Percentiles -/

/-- The index of the `q`-th percentile in a sorted list of `n` elements. -/
def percentileIndex (n q : Nat) : Nat := min (n * q / 100) (n - 1)

theorem percentileIndex_lt {n : Nat} (nonempty : 0 < n) (q : Nat) : percentileIndex n q < n := by
  unfold percentileIndex
  omega

theorem percentileIndex_mono (n : Nat) {p q : Nat} (le : p ≤ q) :
    percentileIndex n p ≤ percentileIndex n q := by
  have scaled : n * p / 100 ≤ n * q / 100 := Nat.div_le_div_right (Nat.mul_le_mul_left n le)
  unfold percentileIndex
  omega

/-- The `q`-th percentile of a list that is not empty. -/
def percentileOf (xs : List α) (q : Nat) : Option α :=
  (xs.mergeSort (· ≤ ·))[percentileIndex xs.length q]?

theorem exists_percentileOf (nonempty : xs ≠ []) (q : Nat) : ∃ x, percentileOf xs q = some x := by
  have inside : percentileIndex xs.length q < (xs.mergeSort (· ≤ ·)).length := by
    rw [List.length_mergeSort]
    exact percentileIndex_lt (List.length_pos_iff.mpr nonempty) q
  exact ⟨_, List.getElem?_eq_getElem inside⟩

theorem percentileOf_perm (perm : xs.Perm ys) (q : Nat) :
    percentileOf xs q = percentileOf ys q := by
  rw [percentileOf, percentileOf, mergeSort_eq_of_perm perm, perm.length_eq]

section Percentile

variable {q : Nat}

theorem percentileOf_mem (found : percentileOf xs q = some x) : x ∈ xs :=
  List.mem_mergeSort.mp (List.mem_of_getElem? found)

/-- At least `q` percent of the list are at most its `q`-th percentile. -/
theorem percentileOf_share (percent : q ≤ 100) (found : percentileOf xs q = some x) :
    xs.length * q ≤ 100 * xs.countP fun y => y ≤ x := by
  have counted := succ_le_countP (List.pairwise_mergeSort' (· ≤ ·) xs) found
  rw [(List.mergeSort_perm xs _).countP_eq] at counted
  have share : xs.length * q ≤ xs.length * 100 := Nat.mul_le_mul_left _ percent
  have covered : xs.length * q ≤ 100 * (percentileIndex xs.length q + 1) := by
    unfold percentileIndex
    omega
  omega

/-- At least `100 - q` percent of the list are at least its `q`-th
percentile. -/
theorem percentileOf_share_ge (percent : q ≤ 100) (found : percentileOf xs q = some x) :
    xs.length * (100 - q) ≤ 100 * xs.countP fun y => x ≤ y := by
  have counted := length_sub_le_countP (List.pairwise_mergeSort' (· ≤ ·) xs) found
  rw [(List.mergeSort_perm xs _).countP_eq, List.length_mergeSort] at counted
  have split : xs.length * (100 - q) + xs.length * q = xs.length * 100 := by
    rw [← Nat.mul_add, Nat.sub_add_cancel percent]
  have covered : xs.length * (100 - q) ≤ 100 * (xs.length - percentileIndex xs.length q) := by
    unfold percentileIndex
    omega
  omega

theorem percentileOf_mono {p : Nat} (le : p ≤ q) (found : percentileOf xs p = some x)
    (found' : percentileOf xs q = some y) : x ≤ y := by
  obtain ⟨_, rfl⟩ := List.getElem?_eq_some_iff.mp found
  obtain ⟨_, rfl⟩ := List.getElem?_eq_some_iff.mp found'
  rcases Nat.eq_or_lt_of_le (percentileIndex_mono xs.length le) with same | before
  · simp only [same, le_refl]
  · exact List.pairwise_iff_getElem.mp (List.pairwise_mergeSort' (· ≤ ·) xs) _ _ _ _ before

/-- The hundredth percentile is the greatest element. -/
theorem le_percentileOf_hundred (found : percentileOf xs 100 = some x) : ∀ y ∈ xs, y ≤ x := by
  have share := percentileOf_share le_rfl found
  have all : xs.countP (fun y => y ≤ x) = xs.length :=
    Nat.le_antisymm List.countP_le_length (by omega)
  exact fun y mem => of_decide_eq_true (List.countP_eq_length.mp all y mem)

end Percentile

/-- The hundredth percentile is the last element of the sorted list. -/
theorem percentileOf_hundred : percentileOf xs 100 = (xs.mergeSort (· ≤ ·)).getLast? := by
  have last : percentileIndex xs.length 100 = xs.length - 1 := by
    unfold percentileIndex
    omega
  rw [percentileOf, last, List.getLast?_eq_getElem?, List.length_mergeSort]

/-! ### The mean -/

/-- The mean lies between any two bounds of the list. -/
theorem mean_mem_bounds {xs : List Rat} (nonempty : xs ≠ []) {low high : Rat}
    (above : ∀ x ∈ xs, low ≤ x) (below : ∀ x ∈ xs, x ≤ high) :
    low ≤ xs.sum / xs.length ∧ xs.sum / xs.length ≤ high := by
  have positive : (0 : Rat) < xs.length := by
    exact_mod_cast List.length_pos_iff.mpr nonempty
  have atLeast := List.card_nsmul_le_sum xs low above
  have atMost := List.sum_le_card_nsmul xs high below
  rw [nsmul_eq_mul] at atLeast atMost
  exact ⟨(le_div_iff₀ positive).mpr (by linarith), (div_le_iff₀ positive).mpr (by linarith)⟩

end OrderStatistics
