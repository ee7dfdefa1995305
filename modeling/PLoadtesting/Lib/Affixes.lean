import Mathlib.Data.List.Basic
import Mathlib.Data.List.Forall2

/-!
Taking a known beginning or end off a text, and replacing one character by
another.

A beginning that is taken off is taken once: `dropPrefix` of `p ++ p ++ r` is
`p ++ r`. What is left is described without the function by `Unprefixed`.
-/

namespace Affixes

section Lists

variable {α : Type} [DecidableEq α] {p s r : List α}

/-- `if s.startswith(p): s = s[len(p):]`. -/
def dropPrefix (p s : List α) : List α := if p.isPrefixOf s then s.drop p.length else s

/-- `if s.endswith(p): s = s[:-len(p)]`, for a `p` that is not empty. -/
def dropSuffix (p s : List α) : List α :=
  if p.isSuffixOf s then s.take (s.length - p.length) else s

/-- `r` is what is left of `s` without `p` in front. -/
inductive Unprefixed (p : List α) : List α → List α → Prop where
  | dropped (r : List α) : Unprefixed p (p ++ r) r
  | kept {s : List α} (other : ¬ p <+: s) : Unprefixed p s s

theorem dropPrefix_eq_iff : dropPrefix p s = r ↔ Unprefixed p s r := by
  unfold dropPrefix
  by_cases starts : p.isPrefixOf s = true
  · rw [if_pos starts]
    obtain ⟨rest, rfl⟩ := List.isPrefixOf_iff_prefix.mp starts
    rw [List.drop_left]
    constructor
    · rintro rfl
      exact .dropped rest
    · intro left
      generalize whole : p ++ rest = s at left
      cases left with
      | dropped r => exact List.append_cancel_left whole
      | kept other => exact absurd ⟨rest, whole⟩ other
  · rw [if_neg starts]
    have other : ¬ p <+: s := fun h => starts (List.isPrefixOf_iff_prefix.mpr h)
    constructor
    · rintro rfl
      exact .kept other
    · intro left
      cases left with
      | dropped r => exact absurd (List.prefix_append p r) other
      | kept _ => rfl

/-- `r` is what is left of `s` without `p` at the end. -/
inductive Unsuffixed (p : List α) : List α → List α → Prop where
  | dropped (r : List α) : Unsuffixed p (r ++ p) r
  | kept {s : List α} (other : ¬ p <:+ s) : Unsuffixed p s s

theorem dropSuffix_eq_iff : dropSuffix p s = r ↔ Unsuffixed p s r := by
  unfold dropSuffix
  by_cases ends : p.isSuffixOf s = true
  · rw [if_pos ends]
    obtain ⟨rest, rfl⟩ := List.isSuffixOf_iff_suffix.mp ends
    rw [List.length_append, Nat.add_sub_cancel, List.take_left]
    constructor
    · rintro rfl
      exact .dropped rest
    · intro left
      generalize whole : rest ++ p = s at left
      cases left with
      | dropped r => exact List.append_cancel_right whole
      | kept other => exact absurd ⟨rest, whole⟩ other
  · rw [if_neg ends]
    have other : ¬ p <:+ s := fun h => ends (List.isSuffixOf_iff_suffix.mpr h)
    constructor
    · rintro rfl
      exact .kept other
    · intro left
      cases left with
      | dropped r => exact absurd (List.suffix_append r p) other
      | kept _ => rfl

theorem dropPrefix_append (p r : List α) : dropPrefix p (p ++ r) = r :=
  dropPrefix_eq_iff.mpr (.dropped r)

end Lists

/-! ### Text -/

/-- `s.removeprefix(p)`. -/
def removePrefix (p s : String) : String := String.ofList (dropPrefix p.toList s.toList)

/-- `s.removesuffix(p)`. -/
def removeSuffix (p s : String) : String := String.ofList (dropSuffix p.toList s.toList)

theorem removePrefix_eq_iff {p s r : String} :
    removePrefix p s = r ↔ Unprefixed p.toList s.toList r.toList := by
  rw [← dropPrefix_eq_iff, removePrefix, ← String.toList_inj, String.toList_ofList]

theorem removeSuffix_eq_iff {p s r : String} :
    removeSuffix p s = r ↔ Unsuffixed p.toList s.toList r.toList := by
  rw [← dropSuffix_eq_iff, removeSuffix, ← String.toList_inj, String.toList_ofList]

theorem removePrefix_append (p r : String) : removePrefix p (p ++ r) = r := by
  rw [removePrefix, String.toList_append, dropPrefix_append, String.ofList_toList]

theorem removePrefix_eq_self {p s : String} (other : ¬ p.toList <+: s.toList) :
    removePrefix p s = s :=
  removePrefix_eq_iff.mpr (.kept other)

/-- `s.replace(a, b)`. -/
def replaceChar (a b : Char) (s : String) : String :=
  String.ofList (s.toList.map fun c => if c = a then b else c)

/-- The texts differ in nothing but the choice between `a` and `b`. -/
def AlikeUpTo (a b : Char) (s t : String) : Prop :=
  List.Forall₂ (fun c d => c = d ∨ ((c = a ∨ c = b) ∧ (d = a ∨ d = b))) s.toList t.toList

theorem replaceChar_eq_iff {a b : Char} {s t : String} :
    replaceChar a b s = replaceChar a b t ↔ AlikeUpTo a b s t := by
  have pointwise (c d : Char) : (if c = a then b else c) = (if d = a then b else d) ↔
      (c = d ∨ ((c = a ∨ c = b) ∧ (d = a ∨ d = b))) := by
    by_cases hc : c = a
    · by_cases hd : d = a
      · simp [hc, hd]
      · simp [hc, hd, Ne.symm hd, eq_comm]
    · by_cases hd : d = a
      · simp [hc, hd]
      · rw [if_neg hc, if_neg hd]
        constructor
        · exact Or.inl
        · rintro (same | ⟨left, right⟩)
          · exact same
          · exact (left.resolve_left hc).trans (right.resolve_left hd).symm
  unfold replaceChar AlikeUpTo
  rw [String.ofList_inj, ← List.forall₂_eq_eq_eq, List.forall₂_map_left_iff,
    List.forall₂_map_right_iff]
  simp only [pointwise]

end Affixes
