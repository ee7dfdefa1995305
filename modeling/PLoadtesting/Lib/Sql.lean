import Mathlib.Data.List.Infix
import Mathlib.Data.List.Sort
import Mathlib.Data.List.TakeWhile
import Mathlib.Data.String.Basic

/-!
SQLite's `LIKE`, `ORDER BY`, `LIMIT` and `OFFSET`.

`LIKE` compares two texts up to their first NUL, as `patternCompare` does: `%`
matches any text and `_` any character, and the letters of ASCII match in either
case. Between two `%`, a text without these characters is looked for as it is
(`like_contains_iff`). Rows in order are split into pages at multiples of the limit
(`pages_flatten`).
-/

namespace Sql

/-! ### `LIKE` -/

/-- `patternCompare`. -/
def like : List Char → List Char → Bool
  | [], text => text.isEmpty
  | c :: pattern, text =>
      if c = '%' then text.tails.any (like pattern)
      else
        match text with
        | [] => false
        | d :: text => (c = '_' || c.toLower = d.toLower) && like pattern text

/-- What a function of SQLite reads of a text: it ends at the first NUL. -/
def cText (s : String) : List Char := s.toList.takeWhile (· ≠ '\x00')

/-- `text LIKE pattern`. -/
def isLike (text pattern : String) : Bool := like (cText pattern) (cText text)

/-- The characters that a pattern does not stand for itself with. -/
def special (c : Char) : Bool := c = '%' || c = '_' || c = '\x00'

/-- The first text contains the second one, letters of ASCII in either case. -/
def Contains (text part : String) : Prop :=
  part.toList.map Char.toLower <:+: text.toList.map Char.toLower

section Like

variable {c d : Char} {pattern rest text text' : List Char}

theorem like_percent : like ('%' :: pattern) text = true ↔ ∃ s, s <:+ text ∧ like pattern s := by
  simp [like, List.mem_tails]

theorem like_cons (notPercent : c ≠ '%') : like (c :: pattern) (d :: text) = true ↔
    (c = '_' ∨ c.toLower = d.toLower) ∧ like pattern text = true := by
  simp [like, notPercent]

theorem like_cons_nil (notPercent : c ≠ '%') : like (c :: pattern) [] = false := by
  simp [like, notPercent]

theorem like_percent_end : like ['%'] text = true :=
  like_percent.mpr ⟨[], List.nil_suffix, rfl⟩

/-- Small letters are not special. -/
theorem toLower_of_special (found : special c.toLower = true) : c.toLower = c := by
  by_cases upper : c.val ≥ 'A'.val ∧ c.val ≤ 'Z'.val
  · have letter : 97 ≤ c.toLower.toNat := by
      have least : 65 ≤ c.val.toNat := upper.1
      have most : c.val.toNat ≤ 90 := upper.2
      unfold Char.toLower
      rw [dif_pos upper]
      show 97 ≤ (c.val + 32).toNat
      rw [UInt32.toNat_add]
      have shift : (32 : UInt32).toNat = 32 := rfl
      omega
    simp only [special, Bool.or_eq_true, decide_eq_true_eq] at found
    rcases found with (same | same) | same
    all_goals
      rw [same] at letter
      exact absurd letter (by decide)
  · exact dif_neg upper

/-- A pattern without special characters that `%` follows: the text begins with it. -/
theorem like_prefix_iff (plain : ∀ c ∈ pattern, special c = false) :
    like (pattern ++ ['%']) text = true ↔ pattern.map Char.toLower <+: text.map Char.toLower := by
  induction pattern generalizing text with
  | nil => simp [like_percent_end]
  | cons c pattern ih =>
      have head := plain c List.mem_cons_self
      simp only [special, Bool.or_eq_false_iff, decide_eq_false_iff_not] at head
      cases text with
      | nil => simp [like_cons_nil head.1.1]
      | cons d text =>
          have rest := @ih text fun x mem => plain x (List.mem_cons_of_mem _ mem)
          rw [List.cons_append, like_cons head.1.1, rest]
          simp [head.1.2, List.cons_prefix_cons]

/-- Part of a mapped list is the beginning of a mapped end. -/
theorem infix_map_iff {part : List Char} (f : Char → Char) :
    part <:+: text.map f ↔ ∃ s, s <:+ text ∧ part <+: s.map f := by
  constructor
  · rintro ⟨before, after, split⟩
    refine ⟨text.drop before.length, List.drop_suffix _ _, after, ?_⟩
    rw [List.map_drop, ← split, List.append_assoc, List.drop_left]
  · rintro ⟨s, ⟨before, rfl⟩, start⟩
    rw [List.map_append]
    exact start.isInfix.trans (List.suffix_append _ _).isInfix

/-- Between two `%`, a text without special characters is looked for as it is. -/
theorem like_contains_iff (plain : ∀ c ∈ pattern, special c = false) :
    like ('%' :: (pattern ++ ['%'])) text = true ↔
      pattern.map Char.toLower <:+: text.map Char.toLower := by
  rw [like_percent, infix_map_iff]
  simp only [like_prefix_iff plain]

/-! ### Texts that a pattern with special characters matches -/

theorem like_append (first : like pattern text = true) (second : like rest text' = true) :
    like (pattern ++ rest) (text ++ text') = true := by
  induction pattern generalizing text with
  | nil =>
      cases List.isEmpty_iff.mp first
      exact second
  | cons c pattern ih =>
      by_cases percent : c = '%'
      · subst percent
        obtain ⟨s, ⟨before, rfl⟩, matched⟩ := like_percent.mp first
        refine like_percent.mpr ⟨s ++ text', ⟨before, ?_⟩, ih matched⟩
        rw [List.append_assoc]
      · cases text with
        | nil =>
            rw [like_cons_nil percent] at first
            cases first
        | cons d text =>
            obtain ⟨here, matched⟩ := (like_cons percent).mp first
            exact (like_cons percent).mpr ⟨here, ih matched⟩

/-- The pattern with a letter for each special character. -/
def fill (pattern : List Char) : List Char := pattern.map fun c => if special c then 'a' else c

theorem like_fill (pattern : List Char) (noNul : '\x00' ∉ pattern) :
    like pattern (fill pattern) = true := by
  induction pattern with
  | nil => rfl
  | cons c pattern ih =>
      have matched := ih fun mem => noNul (List.mem_cons_of_mem _ mem)
      by_cases percent : c = '%'
      · subst percent
        exact like_percent.mpr ⟨fill pattern, List.suffix_cons _ _, matched⟩
      · refine (like_cons percent).mpr ⟨?_, matched⟩
        by_cases underscore : c = '_'
        · exact .inl underscore
        · have notNul : c ≠ '\x00' := fun same => noNul (same ▸ List.mem_cons_self)
          simp [special, percent, underscore, notNul]

theorem not_special_of_mem_fill (mem : c ∈ fill pattern) : special c = false := by
  obtain ⟨d, _, rfl⟩ := List.mem_map.mp mem
  split
  · decide
  · rename_i plain
    simpa using plain

/-- A text with special characters is not part of one without. -/
theorem not_contains_of_special {text part : String} (found : c ∈ part.toList)
    (isSpecial : special c = true) (plain : ∀ d ∈ text.toList, special d = false) :
    ¬ Contains text part := by
  intro contained
  have same : c.toLower = c := by
    simp only [special, Bool.or_eq_true, decide_eq_true_eq] at isSpecial
    rcases isSpecial with (rfl | rfl) | rfl <;> rfl
  obtain ⟨d, mem, lower⟩ := List.mem_map.mp (contained.subset (List.mem_map_of_mem found))
  rw [same] at lower
  have unchanged : d.toLower = d := toLower_of_special (lower.symm ▸ isSpecial)
  have here := plain d mem
  rw [← unchanged, lower, isSpecial] at here
  cases here

end Like

/-! ### Texts up to their first NUL -/

theorem cText_eq {s : String} (noNul : '\x00' ∉ s.toList) : cText s = s.toList := by
  refine List.takeWhile_eq_self_iff.mpr fun c mem => ?_
  have other : c ≠ '\x00' := fun same => noNul (same ▸ mem)
  simpa using other

theorem nul_not_mem_cText (s : String) : '\x00' ∉ cText s := by
  intro mem
  have other := List.mem_takeWhile_imp mem
  simp at other

theorem toList_between (q : String) : ("%" ++ q ++ "%").toList = '%' :: (q.toList ++ ['%']) := by
  simp

/-- The pattern for a substring, up to its first NUL. -/
theorem cText_between (q : String) :
    ∃ rest, like rest [] = true ∧ cText ("%" ++ q ++ "%") = '%' :: (cText q ++ rest) := by
  unfold cText
  rw [toList_between, List.takeWhile_cons_of_pos (by decide), List.takeWhile_append]
  split
  · rename_i whole
    refine ⟨['%'], like_percent_end, ?_⟩
    rw [(List.takeWhile_prefix _).eq_of_length whole]
    rfl
  · exact ⟨[], rfl, by rw [List.append_nil]⟩

/-- Without special characters the pattern finds the texts that contain `q`. -/
theorem isLike_between_iff {text q : String} (plain : ∀ c ∈ q.toList, special c = false)
    (noNul : '\x00' ∉ text.toList) :
    isLike text ("%" ++ q ++ "%") = true ↔ Contains text q := by
  have noNul' : '\x00' ∉ ("%" ++ q ++ "%").toList := by
    rw [toList_between]
    intro mem
    simp only [List.mem_cons, List.mem_append, List.not_mem_nil, or_false] at mem
    rcases mem with same | inside | same
    · exact absurd same (by decide)
    · cases plain _ inside
    · exact absurd same (by decide)
  rw [isLike, cText_eq noNul, cText_eq noNul', toList_between, like_contains_iff plain]
  rfl

/-- A text that the pattern for `q` finds, with letters for the special characters. -/
def sample (q : String) : String :=
  String.ofList (if cText q = [] then ['a'] else fill (cText q))

theorem not_special_of_mem_sample {q : String} {c : Char} (mem : c ∈ (sample q).toList) :
    special c = false := by
  rw [sample, String.toList_ofList] at mem
  split at mem
  · rw [List.mem_singleton.mp mem]
    rfl
  · exact not_special_of_mem_fill mem

theorem isLike_sample (q : String) : isLike (sample q) ("%" ++ q ++ "%") = true := by
  have noNul : '\x00' ∉ (sample q).toList := fun mem => by cases not_special_of_mem_sample mem
  obtain ⟨rest, ends, pattern⟩ := cText_between q
  rw [isLike, cText_eq noNul, pattern]
  have found : like (cText q ++ rest) (fill (cText q) ++ []) = true :=
    like_append (like_fill (cText q) (nul_not_mem_cText q)) ends
  rw [List.append_nil] at found
  refine like_percent.mpr ⟨fill (cText q), ?_, found⟩
  rw [sample, String.toList_ofList]
  split
  · rename_i empty
    rw [empty]
    exact List.nil_suffix
  · exact List.suffix_rfl

theorem length_sample (q : String) :
    1 ≤ (sample q).length ∧ (sample q).length ≤ max 1 q.length := by
  rw [sample, String.length_ofList]
  split
  · exact ⟨Nat.le_refl 1, Nat.le_max_left 1 _⟩
  · rename_i nonempty
    have some := List.length_pos_of_ne_nil nonempty
    have most : (cText q).length ≤ q.length := (List.takeWhile_prefix _).length_le
    rw [fill, List.length_map]
    omega

/-! ### `ORDER BY` -/

inductive SortOrder where
  | asc
  | desc
  deriving DecidableEq

/-- `ORDER BY key order, tie ASC`. -/
def Precedes {α κ : Type} [LinearOrder κ] (key : α → κ) (order : SortOrder) (tie : α → Nat)
    (x y : α) : Prop :=
  match order with
  | .asc => key x < key y ∨ (key x = key y ∧ tie x ≤ tie y)
  | .desc => key y < key x ∨ (key x = key y ∧ tie x ≤ tie y)

section OrderBy

variable {α κ : Type} [LinearOrder κ] {key : α → κ} {order : SortOrder} {tie : α → Nat}

instance : DecidableRel (Precedes key order tie) := fun _ _ =>
  match order with
  | .asc => inferInstanceAs (Decidable (_ ∨ _))
  | .desc => inferInstanceAs (Decidable (_ ∨ _))

instance : Std.Total (Precedes key order tie) where
  total x y := by
    rcases lt_trichotomy (key x) (key y) with less | same | more
    all_goals rcases le_total (tie x) (tie y) with first | second
    all_goals cases order <;> simp [Precedes, *]

instance : IsTrans α (Precedes key order tie) where
  trans x y z first second := by
    cases order with
    | asc =>
        rcases first with less | ⟨same, first⟩
        · rcases second with less' | ⟨same', _⟩
          · exact .inl (less.trans less')
          · exact .inl (same' ▸ less)
        · rcases second with less' | ⟨same', second⟩
          · exact .inl (same ▸ less')
          · exact .inr ⟨same.trans same', first.trans second⟩
    | desc =>
        rcases first with more | ⟨same, first⟩
        · rcases second with more' | ⟨same', _⟩
          · exact .inl (more'.trans more)
          · exact .inl (same' ▸ more)
        · rcases second with more' | ⟨same', second⟩
          · exact .inl (same ▸ more')
          · exact .inr ⟨same.trans same', first.trans second⟩

/-- The rows in their order. -/
def orderBy (key : α → κ) (order : SortOrder) (tie : α → Nat) (rows : List α) : List α :=
  rows.insertionSort (Precedes key order tie)

theorem orderBy_perm (rows : List α) : (orderBy key order tie rows).Perm rows :=
  List.perm_insertionSort _ rows

theorem pairwise_orderBy (rows : List α) :
    (orderBy key order tie rows).Pairwise (Precedes key order tie) :=
  List.pairwise_insertionSort _ rows

end OrderBy

/-! ### `LIMIT` and `OFFSET` -/

/-- `LIMIT limit OFFSET offset`. -/
def page {α : Type} (limit offset : Nat) (rows : List α) : List α := (rows.drop offset).take limit

/-- The pages at the first multiples of the limit are the first rows. -/
theorem pages_flatten {α : Type} (limit n : Nat) (rows : List α) :
    ((List.range n).flatMap fun k => page limit (k * limit) rows) = rows.take (n * limit) := by
  induction n with
  | zero => simp
  | succ n ih =>
      rw [List.range_succ, List.flatMap_append, ih, List.flatMap_singleton, Nat.succ_mul,
        List.take_add]
      rfl

end Sql
