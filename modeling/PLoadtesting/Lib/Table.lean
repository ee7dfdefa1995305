import Mathlib.Data.List.Nodup

/-!
Keyed tables: lists of rows in which no key occurs twice.

Two readings are used. A database table is keyed by its primary key, and
`modify` is an `UPDATE … WHERE pk = k`. An insertion-ordered dictionary is the
table of its items keyed by `Prod.fst`, and `upsert` is `d[k] = v`: an existing
key keeps its place, a new one goes to the end.

Every lookup is characterized by membership (`find?_eq_some_iff`), and every
operation by the lookups it leaves (`find?_modify`, `find?_upsert`,
`find?_insert`), so no later proof opens the row list.
-/

namespace Keyed

/-- Rows in order, no two with the same key. -/
structure Table {K R : Type} (key : R → K) where
  rows : List R
  keysNodup : (rows.map key).Nodup

namespace Table

variable {K R : Type} {key : R → K}

@[ext] theorem ext {s t : Table key} (h : s.rows = t.rows) : s = t := by
  cases s
  cases t
  cases h
  rfl

/-- The table with no rows. -/
def empty : Table key := ⟨[], List.nodup_nil⟩

instance : Membership R (Table key) := ⟨fun t r => r ∈ t.rows⟩

theorem mem_def {t : Table key} {r : R} : r ∈ t ↔ r ∈ t.rows := Iff.rfl

@[simp] theorem not_mem_empty {r : R} : r ∉ (empty : Table key) := List.not_mem_nil

/-- A row is determined by its key. -/
theorem eq_of_key_eq {t : Table key} {r s : R} (hr : r ∈ t) (hs : s ∈ t)
    (h : key r = key s) : r = s :=
  List.inj_on_of_nodup_map t.keysNodup hr hs h

variable [DecidableEq K]

/-- The row with key `k`. -/
def find? (t : Table key) (k : K) : Option R :=
  t.rows.find? fun r => decide (key r = k)

/-- Lookup is membership: keys identify rows. -/
theorem find?_eq_some_iff {t : Table key} {k : K} {r : R} :
    t.find? k = some r ↔ r ∈ t ∧ key r = k := by
  unfold find?
  constructor
  · intro h
    exact ⟨List.mem_of_find?_eq_some h, by simpa using List.find?_some h⟩
  · rintro ⟨mem, rfl⟩
    cases found : t.rows.find? fun x => decide (key x = key r) with
    | none => exact absurd (List.find?_eq_none.mp found r mem) (by simp)
    | some s =>
        have hs : key s = key r := by simpa using List.find?_some found
        rw [eq_of_key_eq (t := t) (List.mem_of_find?_eq_some found) mem hs]

theorem find?_eq_none_iff {t : Table key} {k : K} :
    t.find? k = none ↔ ∀ r ∈ t, key r ≠ k := by
  simp [find?, mem_def]

theorem find?_key {t : Table key} {r : R} (h : r ∈ t) : t.find? (key r) = some r :=
  find?_eq_some_iff.mpr ⟨h, rfl⟩

/-! ### Updating one row -/

/-- Apply `f` to the row with key `k`, if there is one. The update may not
touch the key. -/
def modify (t : Table key) (k : K) (f : R → R) (keeps : ∀ r, key (f r) = key r) : Table key where
  rows := t.rows.map fun r => if key r = k then f r else r
  keysNodup := by
    have same : (fun r => key (if key r = k then f r else r)) = key := by
      funext r
      split
      · exact keeps r
      · rfl
    simpa [Function.comp_def, same] using t.keysNodup

section Modify

variable {t : Table key} {k : K} {f : R → R} {keeps : ∀ r, key (f r) = key r}

theorem mem_modify {r : R} :
    r ∈ t.modify k f keeps ↔ ∃ s ∈ t, (if key s = k then f s else s) = r := by
  simp [modify, mem_def]

/-- A row of the updated table is the updated row or an old row with another
key. -/
theorem mem_modify_cases {r : R} (h : r ∈ t.modify k f keeps) :
    (∃ s ∈ t, key s = k ∧ r = f s) ∨ (r ∈ t ∧ key r ≠ k) := by
  obtain ⟨s, mem, eq⟩ := mem_modify.mp h
  split at eq
  · rename_i hk
    exact .inl ⟨s, mem, hk, eq.symm⟩
  · rename_i hk
    subst eq
    exact .inr ⟨mem, hk⟩

@[simp] theorem find?_modify (k' : K) :
    (t.modify k f keeps).find? k' =
      if k' = k then (t.find? k).map f else t.find? k' := by
  split
  · rename_i hk
    subst hk
    cases found : t.find? k' with
    | none =>
        refine find?_eq_none_iff.mpr ?_
        intro r mem
        obtain ⟨s, hs, rfl⟩ := mem_modify.mp mem
        have hne := find?_eq_none_iff.mp found s hs
        rwa [if_neg hne]
    | some r =>
        obtain ⟨mem, hr⟩ := find?_eq_some_iff.mp found
        refine find?_eq_some_iff.mpr ⟨mem_modify.mpr ⟨r, mem, by rw [if_pos hr]⟩, ?_⟩
        rw [keeps, hr]
  · rename_i hk
    cases found : t.find? k' with
    | none =>
        refine find?_eq_none_iff.mpr ?_
        intro r mem
        rcases mem_modify_cases mem with ⟨s, _, hs, rfl⟩ | ⟨mem, _⟩
        · rw [keeps, hs]
          exact Ne.symm hk
        · exact find?_eq_none_iff.mp found r mem
    | some r =>
        obtain ⟨mem, hr⟩ := find?_eq_some_iff.mp found
        have hne : key r ≠ k := fun h => hk (hr.symm.trans h)
        exact find?_eq_some_iff.mpr ⟨mem_modify.mpr ⟨r, mem, by rw [if_neg hne]⟩, hr⟩

end Modify

/-! ### Updating the rows that meet a condition -/

/-- `UPDATE … WHERE p`. -/
def updateWhere (t : Table key) (p : R → Bool) (f : R → R) (keeps : ∀ r, key (f r) = key r) :
    Table key where
  rows := t.rows.map fun r => if p r then f r else r
  keysNodup := by
    have same : (fun r => key (if p r then f r else r)) = key := by
      funext r
      split
      · exact keeps r
      · rfl
    simpa [Function.comp_def, same] using t.keysNodup

section UpdateWhere

variable {t : Table key} {p : R → Bool} {f : R → R} {keeps : ∀ r, key (f r) = key r}

omit [DecidableEq K] in
/-- A row of the updated table is an updated row or an old one that does not
meet the condition. -/
theorem mem_updateWhere {r : R} : r ∈ t.updateWhere p f keeps ↔
    (∃ s ∈ t, p s = true ∧ r = f s) ∨ (r ∈ t ∧ p r = false) := by
  simp only [updateWhere, mem_def, List.mem_map]
  constructor
  · rintro ⟨s, mem, rfl⟩
    cases hp : p s with
    | true => exact .inl ⟨s, mem, hp, if_pos rfl⟩
    | false => exact .inr ⟨by simpa using mem, by simpa using hp⟩
  · rintro (⟨s, mem, hp, rfl⟩ | ⟨mem, hp⟩)
    · exact ⟨s, mem, if_pos hp⟩
    · exact ⟨r, mem, by simp [hp]⟩

omit [DecidableEq K] in
theorem updateWhere_eq_self (none : ∀ r ∈ t, p r = false) : t.updateWhere p f keeps = t := by
  refine Table.ext ((List.map_congr_left ?_).trans (List.map_id _))
  intro r mem
  simp [none r mem]

/-- The row of a key after the update. -/
theorem find?_updateWhere {r : R} (mem : r ∈ t) :
    (t.updateWhere p f keeps).find? (key r) = some (if p r then f r else r) := by
  refine find?_eq_some_iff.mpr ⟨?_, ?_⟩
  · cases hp : p r with
    | true => exact mem_updateWhere.mpr (.inl ⟨r, mem, hp, if_pos rfl⟩)
    | false => exact mem_updateWhere.mpr (.inr ⟨by simpa using mem, by simpa using hp⟩)
  · split
    · exact keeps r
    · rfl

end UpdateWhere

/-! ### Removing a row -/

/-- `DELETE … WHERE pk = k`. -/
def delete (t : Table key) (k : K) : Table key where
  rows := t.rows.filter fun r => decide (key r ≠ k)
  keysNodup := (List.filter_sublist.map key).nodup t.keysNodup

theorem mem_delete {t : Table key} {k : K} {r : R} : r ∈ t.delete k ↔ r ∈ t ∧ key r ≠ k := by
  simp [delete, mem_def]

@[simp] theorem find?_delete (t : Table key) (k k' : K) :
    (t.delete k).find? k' = if k' = k then none else t.find? k' := by
  split
  · rename_i same
    exact find?_eq_none_iff.mpr fun r mem => same ▸ (mem_delete.mp mem).2
  · rename_i other
    cases found : t.find? k' with
    | none =>
        exact find?_eq_none_iff.mpr fun r mem => find?_eq_none_iff.mp found r (mem_delete.mp mem).1
    | some r =>
        obtain ⟨mem, own⟩ := find?_eq_some_iff.mp found
        exact find?_eq_some_iff.mpr ⟨mem_delete.mpr ⟨mem, own.trans_ne other⟩, own⟩

/-! ### Adding rows -/

/-- `d[key r] = r`: a row with the same key is replaced in place, otherwise `r`
goes to the end. -/
def upsert (t : Table key) (r : R) : Table key where
  rows :=
    if key r ∈ t.rows.map key then t.rows.map fun s => if key s = key r then r else s
    else t.rows ++ [r]
  keysNodup := by
    split
    · have same : (fun s => key (if key s = key r then r else s)) = key := by
        funext s
        split
        · rename_i h
          exact h.symm
        · rfl
      simpa [Function.comp_def, same] using t.keysNodup
    · rename_i fresh
      rw [List.map_append, List.nodup_append]
      refine ⟨t.keysNodup, by simp, ?_⟩
      intro a ha b hb eq
      simp only [List.map_cons, List.map_nil, List.mem_singleton] at hb
      exact fresh (hb ▸ eq ▸ ha)

/-- `INSERT`: the row is added unless its key is taken. -/
def insert? (t : Table key) (r : R) : Option (Table key) :=
  if key r ∈ t.rows.map key then none else some (t.upsert r)

section Upsert

variable {t : Table key} {r : R}

/-- The rows after an upsert: the new row, and the old ones with another key. -/
theorem mem_upsert {s : R} : s ∈ t.upsert r ↔ s = r ∨ (s ∈ t ∧ key s ≠ key r) := by
  have absent : key r ∉ t.rows.map key → ∀ x ∈ t.rows, key x ≠ key r :=
    fun h x hx eq => h (List.mem_map.mpr ⟨x, hx, eq⟩)
  simp only [mem_def, upsert]
  split
  · rename_i taken
    rw [List.mem_map]
    constructor
    · rintro ⟨x, hx, rfl⟩
      by_cases hk : key x = key r
      · exact .inl (if_pos hk)
      · rw [if_neg hk]
        exact .inr ⟨hx, hk⟩
    · rintro (rfl | ⟨mem, hk⟩)
      · obtain ⟨x, hx, eq⟩ := List.mem_map.mp taken
        exact ⟨x, hx, if_pos eq⟩
      · exact ⟨s, mem, if_neg hk⟩
  · rename_i fresh
    rw [List.mem_append, List.mem_singleton]
    constructor
    · rintro (mem | rfl)
      · exact .inr ⟨mem, absent fresh s mem⟩
      · exact .inl rfl
    · rintro (rfl | ⟨mem, _⟩)
      · exact .inr rfl
      · exact .inl mem

@[simp] theorem find?_upsert (k : K) :
    (t.upsert r).find? k = if k = key r then some r else t.find? k := by
  split
  · rename_i hk
    exact find?_eq_some_iff.mpr ⟨mem_upsert.mpr (.inl rfl), hk.symm⟩
  · rename_i hk
    cases found : t.find? k with
    | none =>
        refine find?_eq_none_iff.mpr ?_
        intro s mem
        rcases mem_upsert.mp mem with rfl | ⟨hs, _⟩
        · exact Ne.symm hk
        · exact find?_eq_none_iff.mp found s hs
    | some s =>
        obtain ⟨mem, hs⟩ := find?_eq_some_iff.mp found
        exact find?_eq_some_iff.mpr
          ⟨mem_upsert.mpr (.inr ⟨mem, fun h => hk (hs.symm.trans h)⟩), hs⟩

/-- Updating the row that was just set is setting the updated row. -/
theorem modify_upsert {f : R → R} {keeps : ∀ s, key (f s) = key s} :
    (t.upsert r).modify (key r) f keeps = t.upsert (f r) := by
  refine Table.ext ?_
  simp only [modify, upsert, keeps]
  split
  · rw [List.map_map]
    refine List.map_congr_left ?_
    intro s _
    by_cases hk : key s = key r
    · simp [hk]
    · simp [hk]
  · rename_i fresh
    have unmoved : (t.rows.map fun s => if key s = key r then f s else s) = t.rows := by
      refine (List.map_congr_left fun s mem => if_neg fun hk => ?_).trans (List.map_id _)
      exact fresh (List.mem_map.mpr ⟨s, mem, hk⟩)
    rw [List.map_append, unmoved, List.map_singleton, if_pos rfl]

theorem insert?_eq_some_iff {t' : Table key} :
    t.insert? r = some t' ↔ t.find? (key r) = none ∧ t' = t.upsert r := by
  have taken_iff : key r ∈ t.rows.map key ↔ t.find? (key r) ≠ none := by
    rw [List.mem_map]
    constructor
    · rintro ⟨x, hx, eq⟩ hnone
      exact find?_eq_none_iff.mp hnone x hx eq
    · intro h
      obtain ⟨x, hx⟩ := Option.ne_none_iff_exists'.mp h
      obtain ⟨mem, eq⟩ := find?_eq_some_iff.mp hx
      exact ⟨x, mem, eq⟩
  unfold insert?
  by_cases h : t.find? (key r) = none
  · rw [if_neg (fun taken => taken_iff.mp taken h)]
    simp [h, eq_comm]
  · rw [if_pos (taken_iff.mpr h)]
    simp [h]

end Upsert

/-! ### Writes that keep parts of the row they replace -/

/-- The last value of a key. -/
theorem find?_reverse_eq_some_iff {V K : Type} [DecidableEq K] {keyOf : V → K} {vs : List V}
    {v : V} {k : K} : (vs.reverse.find? fun w => decide (keyOf w = k)) = some v ↔
      keyOf v = k ∧ ∃ before after, vs = before ++ v :: after ∧ ∀ w ∈ after, keyOf w ≠ k := by
  rw [List.find?_eq_some_iff_append, decide_eq_true_eq]
  refine and_congr_right fun _ => ?_
  constructor
  · rintro ⟨after, before, reversed, others⟩
    refine ⟨before.reverse, after.reverse, ?_, ?_⟩
    · rw [← List.reverse_reverse vs, reversed]
      simp
    · intro w mem
      simpa using others w (List.mem_reverse.mp mem)
  · rintro ⟨before, after, rfl, others⟩
    refine ⟨after.reverse, before.reverse, by simp, ?_⟩
    intro w mem
    simpa using others w (List.mem_reverse.mp mem)

section Merging

variable {V : Type} {keyOf : V → K} {combine : Option R → V → R}

/-- Write the row that `combine` makes of the value and of the row under its key. -/
def merge (keyOf : V → K) (combine : Option R → V → R) (t : Table key) (v : V) : Table key :=
  t.upsert (combine (t.find? (keyOf v)) v)

theorem find?_merge (keyed : ∀ old v, key (combine old v) = keyOf v) (t : Table key) (v : V)
    (k : K) : (t.merge keyOf combine v).find? k =
      if k = keyOf v then some (combine (t.find? k) v) else t.find? k := by
  unfold merge
  rw [find?_upsert, keyed]
  split
  · rename_i same
    rw [same]
  · rfl

/-- Where a later write keeps what an earlier one under the same key kept, a key
ends with its last value, combined with the row from before all writes. -/
theorem find?_mergeAll (keyed : ∀ old v, key (combine old v) = keyOf v) {vs : List V}
    (absorbs : ∀ v ∈ vs, ∀ w ∈ vs, keyOf v = keyOf w →
      ∀ old, combine (some (combine old v)) w = combine old w) (t : Table key) (k : K) :
    (vs.foldl (merge keyOf combine) t).find? k =
      ((vs.reverse.find? fun v => decide (keyOf v = k)).map (combine (t.find? k))).or
        (t.find? k) := by
  induction vs generalizing t with
  | nil => rfl
  | cons v vs ih =>
      have absorbsRest := fun v mem w mem' =>
        absorbs v (List.mem_cons_of_mem _ mem) w (List.mem_cons_of_mem _ mem')
      rw [List.foldl_cons, ih absorbsRest, find?_merge keyed, List.reverse_cons, List.find?_append]
      cases found : vs.reverse.find? fun w => decide (keyOf w = k) with
      | none =>
          by_cases here : keyOf v = k
          · simp [here]
          · simp [here, Ne.symm here]
      | some w =>
          have last : keyOf w = k := by simpa using List.find?_some found
          have mem : w ∈ vs := List.mem_reverse.mp (List.mem_of_find?_eq_some found)
          by_cases here : keyOf v = k
          · have absorbed := absorbs v List.mem_cons_self w (List.mem_cons_of_mem _ mem)
              (here.trans last.symm)
            simp [here, absorbed]
          · simp [Ne.symm here]

/-- A key ends with the last row that is set, else with the old one. -/
theorem find?_upsertAll (rows : List R) (t : Table key) (k : K) :
    (rows.foldl upsert t).find? k =
      (rows.reverse.find? fun r => decide (key r = k)).or (t.find? k) := by
  have merged := @find?_mergeAll _ _ key _ _ key (fun _ r => r) (fun _ _ => rfl) rows
    (fun _ _ _ _ _ _ => rfl) t k
  rwa [Option.map_id'] at merged

/-- A row after rows are set is one of them or an old one. -/
theorem mem_upsertAll {rows : List R} {t : Table key} {r : R}
    (mem : r ∈ rows.foldl upsert t) : r ∈ rows ∨ r ∈ t := by
  have stored := find?_key mem
  rw [find?_upsertAll, Option.or_eq_some_iff] at stored
  rcases stored with last | ⟨_, old⟩
  · exact .inl (List.mem_reverse.mp (List.mem_of_find?_eq_some last))
  · exact .inr (find?_eq_some_iff.mp old).1

/-- Setting the rows of another table gives its rows, and the old ones under its
other keys. -/
theorem find?_update (t u : Table key) (k : K) :
    (u.rows.foldl upsert t).find? k = (u.find? k).or (t.find? k) := by
  rw [find?_upsertAll]
  congr 1
  cases found : u.rows.reverse.find? fun r => decide (key r = k) with
  | none =>
      refine (find?_eq_none_iff.mpr fun r mem same => ?_).symm
      exact absurd (decide_eq_true same)
        (List.find?_eq_none.mp found r (List.mem_reverse.mpr mem))
  | some r =>
      have same : key r = k := by simpa using List.find?_some found
      have mem : r ∈ u := List.mem_reverse.mp (List.mem_of_find?_eq_some found)
      exact (find?_eq_some_iff.mpr ⟨mem, same⟩).symm

/-- Setting rows whose keys are all new appends them. -/
theorem rows_upsertAll_of_fresh {t : Table key} (rows : List R) (nodup : (rows.map key).Nodup)
    (fresh : ∀ r ∈ rows, key r ∉ t.rows.map key) : (rows.foldl upsert t).rows = t.rows ++ rows := by
  induction rows generalizing t with
  | nil => simp
  | cons r rest ih =>
      have appended : (t.upsert r).rows = t.rows ++ [r] := if_neg (fresh r List.mem_cons_self)
      have nodup' := List.nodup_cons.mp nodup
      rw [List.foldl_cons, ih nodup'.2 ?_, appended, List.append_assoc, List.singleton_append]
      intro q hq
      rw [appended, List.map_append, List.mem_append]
      rintro (old | new)
      · exact fresh q (List.mem_cons_of_mem _ hq) old
      · simp only [List.map_cons, List.map_nil, List.mem_singleton] at new
        exact nodup'.1 (new ▸ List.mem_map_of_mem hq)

end Merging

/-! ### The table of another view of the rows -/

section Mapping

variable {R' : Type} {key' : R' → K}

/-- The rows as another type sees them, under the same keys. -/
def map (t : Table key) (f : R → R') (same : ∀ r, key' (f r) = key r) : Table key' where
  rows := t.rows.map f
  keysNodup := by simpa [Function.comp_def, same] using t.keysNodup

theorem find?_map (t : Table key) (f : R → R') (same : ∀ r, key' (f r) = key r) (k : K) :
    (t.map f same).find? k = (t.find? k).map f := by
  unfold map find?
  simp only [List.find?_map, Function.comp_def, same]

theorem map_upsert (t : Table key) (f : R → R') (same : ∀ r, key' (f r) = key r) (r : R) :
    (t.upsert r).map f same = (t.map f same).upsert (f r) := by
  have keys : (t.rows.map f).map key' = t.rows.map key := by simp [Function.comp_def, same]
  refine Table.ext ?_
  simp only [map, upsert, keys, same]
  split
  · rw [List.map_map, List.map_map]
    refine List.map_congr_left ?_
    intro s _
    simp only [Function.comp_def, same, apply_ite f]
  · rw [List.map_append, List.map_singleton]

end Mapping

end Table

/-! ### Insertion-ordered dictionaries -/

/-- A dictionary with string keys: the table of its items. -/
abbrev Dict (α : Type) := Table (Prod.fst : String × α → String)

namespace Dict

variable {α : Type} {d : Dict α} {k k' : String} {v : α}

/-- `d.get(k)`. -/
def get? (d : Dict α) (k : String) : Option α := (d.find? k).map Prod.snd

/-- `d[k] = v`. -/
def set (d : Dict α) (k : String) (v : α) : Dict α := d.upsert (k, v)

/-- `d.pop(k, None)`. -/
def pop (d : Dict α) (k : String) : Dict α := d.delete k

/-- `d.setdefault(k, v)`. -/
def setdefault (d : Dict α) (k : String) (v : α) : Dict α :=
  match d.get? k with
  | some _ => d
  | none => d.set k v

/-- `d.update(items)`: the items are set one after another. -/
def update (d : Dict α) (items : List (String × α)) : Dict α :=
  items.foldl Table.upsert d

/-- The dictionary of a list of items; a repeated key keeps its first place and
its last value. -/
def ofItems (items : List (String × α)) : Dict α := update Table.empty items

/-- `k in d`. -/
def contains (d : Dict α) (k : String) : Bool := (d.get? k).isSome

theorem get?_eq_some_iff : d.get? k = some v ↔ (k, v) ∈ d := by
  unfold get?
  rw [Option.map_eq_some_iff]
  constructor
  · rintro ⟨⟨k', v'⟩, found, rfl⟩
    obtain ⟨mem, rfl⟩ := Table.find?_eq_some_iff.mp found
    exact mem
  · intro mem
    exact ⟨(k, v), Table.find?_eq_some_iff.mpr ⟨mem, rfl⟩, rfl⟩

theorem get?_eq_none_iff : d.get? k = none ↔ ∀ p ∈ d, p.1 ≠ k := by
  rw [get?, Option.map_eq_none_iff, Table.find?_eq_none_iff]

@[simp] theorem get?_empty : get? (Table.empty : Dict α) k = none := rfl

@[simp] theorem get?_set : (d.set k v).get? k' = if k' = k then some v else d.get? k' := by
  unfold get? set
  rw [Table.find?_upsert]
  split <;> rfl

/-- Setting a key that is there adds no item. -/
theorem length_set_of_stored {v' : α} (found : d.get? k = some v') :
    (d.set k v).rows.length = d.rows.length := by
  have mem : k ∈ d.rows.map Prod.fst :=
    List.mem_map.mpr ⟨(k, v'), get?_eq_some_iff.mp found, rfl⟩
  simp only [set, Table.upsert]
  rw [if_pos mem, List.length_map]

/-- Setting a key adds at most one item and drops none. -/
theorem length_set_bounds :
    d.rows.length ≤ (d.set k v).rows.length ∧ (d.set k v).rows.length ≤ d.rows.length + 1 := by
  simp only [set, Table.upsert]
  split
  · rw [List.length_map]
    omega
  · rw [List.length_append, List.length_singleton]
    omega

@[simp] theorem get?_pop : (d.pop k).get? k' = if k' = k then none else d.get? k' := by
  unfold get? pop
  rw [Table.find?_delete]
  split <;> rfl

/-- Setting the value that is there changes nothing. -/
theorem set_eq_self (found : d.get? k = some v) : d.set k v = d := by
  have mem : (k, v) ∈ d := get?_eq_some_iff.mp found
  refine Table.ext ?_
  simp only [set, Table.upsert]
  rw [if_pos (List.mem_map.mpr ⟨_, mem, rfl⟩)]
  refine (List.map_congr_left fun item inRows => ?_).trans (List.map_id _)
  split
  · rename_i same
    exact Table.eq_of_key_eq mem inRows same.symm
  · rfl

@[simp] theorem get?_setdefault :
    (d.setdefault k v).get? k' = if k' = k then (d.get? k).or (some v) else d.get? k' := by
  unfold setdefault
  cases found : d.get? k with
  | none => simp
  | some w =>
      by_cases hk : k' = k
      · subst hk
        simpa using found
      · simp [hk]

/-- The value an update leaves is the last one the items give, else the old
one. -/
theorem get?_update (items : List (String × α)) :
    (d.update items).get? k =
      ((items.reverse.find? fun p => decide (p.1 = k)).map Prod.snd).or (d.get? k) := by
  induction items generalizing d with
  | nil => simp [update]
  | cons p rest ih =>
      have step : d.update (p :: rest) = (d.set p.1 p.2).update rest := rfl
      rw [step, ih, get?_set, List.reverse_cons, List.find?_append]
      cases found : rest.reverse.find? fun q => decide (q.1 = k) with
      | some q => simp
      | none =>
          by_cases hk : k = p.1
          · subst hk
            simp
          · simp [hk, Ne.symm hk]

theorem get?_ofItems (items : List (String × α)) :
    (ofItems items).get? k = (items.reverse.find? fun p => decide (p.1 = k)).map Prod.snd := by
  rw [ofItems, get?_update, get?_empty, Option.or_none]

/-- An update reads as the dictionary of its items, over the old one. -/
theorem get?_update_ofItems (items : List (String × α)) :
    (d.update items).get? k = ((ofItems items).get? k).or (d.get? k) := by
  rw [get?_update, get?_ofItems]

/-- Only the empty list of items gives the empty dictionary. -/
theorem ofItems_rows_eq_nil_iff {items : List (String × α)} :
    (ofItems items).rows = [] ↔ items = [] := by
  refine ⟨?_, fun h => by rw [h]; rfl⟩
  intro noRows
  refine List.eq_nil_iff_forall_not_mem.mpr ?_
  intro p mem
  have absent : (ofItems items).get? p.1 = none := by
    refine get?_eq_none_iff.mpr ?_
    intro q hq
    rw [Table.mem_def, noRows] at hq
    exact absurd hq List.not_mem_nil
  rw [get?_ofItems, Option.map_eq_none_iff, List.find?_eq_none] at absent
  exact absent p (List.mem_reverse.mpr mem) (decide_eq_true rfl)

/-- Setting items whose keys are all new appends them. -/
theorem rows_update_of_fresh (items : List (String × α)) (nodup : (items.map Prod.fst).Nodup)
    (fresh : ∀ p ∈ items, p.1 ∉ d.rows.map Prod.fst) : (d.update items).rows = d.rows ++ items :=
  Table.rows_upsertAll_of_fresh items nodup fresh

/-- A dictionary has no other items than the list. -/
theorem mem_of_mem_ofItems {items : List (String × α)} {p : String × α} (mem : p ∈ ofItems items) :
    p ∈ items :=
  (Table.mem_upsertAll mem).resolve_right List.not_mem_nil

/-- Items with distinct keys are the items of their dictionary. -/
theorem mem_ofItems_of_nodup {items : List (String × α)} (nodup : (items.map Prod.fst).Nodup)
    {p : String × α} : p ∈ ofItems items ↔ p ∈ items := by
  have rows : (ofItems items).rows = items := by
    have appended := rows_update_of_fresh (d := Table.empty) items nodup (by simp [Table.empty])
    simpa [ofItems, Table.empty] using appended
  rw [Table.mem_def, rows]

/-- Rebuilding a dictionary from its items gives it back. -/
@[simp] theorem ofItems_rows (e : Dict α) : ofItems e.rows = e := by
  refine Table.ext ?_
  have := rows_update_of_fresh (d := Table.empty) e.rows e.keysNodup (by simp [Table.empty])
  simpa [ofItems, Table.empty] using this

/-! ### Renaming keys -/

/-- The values found under the source keys, under their target keys. -/
def renamed (keys : List (String × String)) (read : String → Option α) : List (String × α) :=
  keys.filterMap fun key => (read key.1).map fun v => (key.2, v)

theorem mem_renamed {keys : List (String × String)} {read : String → Option α} {target : String}
    {v : α} : (target, v) ∈ renamed keys read ↔
      ∃ source, (source, target) ∈ keys ∧ read source = some v := by
  rw [renamed, List.mem_filterMap]
  constructor
  · rintro ⟨⟨source, target'⟩, mem, h⟩
    obtain ⟨w, found, eq⟩ := Option.map_eq_some_iff.mp h
    cases eq
    exact ⟨source, mem, found⟩
  · rintro ⟨source, mem, found⟩
    exact ⟨(source, target), mem, by rw [found]; rfl⟩

theorem renamed_nodup {keys : List (String × String)} (nodup : (keys.map Prod.snd).Nodup)
    (read : String → Option α) : ((renamed keys read).map Prod.fst).Nodup := by
  induction keys with
  | nil => exact List.nodup_nil
  | cons key keys ih =>
      obtain ⟨fresh, nodup⟩ := List.nodup_cons.mp nodup
      have rest := ih nodup
      cases found : read key.1 with
      | none => simpa [renamed, found] using rest
      | some v =>
          have head : (renamed (key :: keys) read) = (key.2, v) :: renamed keys read := by
            simp [renamed, found]
          rw [head, List.map_cons, List.nodup_cons]
          refine ⟨?_, rest⟩
          intro mem
          obtain ⟨⟨target, w⟩, mem, rfl⟩ := List.mem_map.mp mem
          obtain ⟨source, mem, _⟩ := mem_renamed.mp mem
          exact fresh (List.mem_map.mpr ⟨_, mem, rfl⟩)

/-- A target key reads as its source. -/
theorem get?_ofItems_renamed {keys : List (String × String)} (nodup : (keys.map Prod.snd).Nodup)
    (read : String → Option α) {source target : String} (mem : (source, target) ∈ keys) :
    (ofItems (renamed keys read)).get? target = read source := by
  ext v
  rw [get?_eq_some_iff, mem_ofItems_of_nodup (renamed_nodup nodup read), mem_renamed]
  constructor
  · rintro ⟨source', mem', found⟩
    have same := List.inj_on_of_nodup_map nodup mem mem' rfl
    cases same
    exact found
  · intro found
    exact ⟨source, mem, found⟩

/-- Other keys are not there. -/
theorem get?_ofItems_renamed_eq_none {keys : List (String × String)}
    {read : String → Option α} {k : String} (other : k ∉ keys.map Prod.snd) :
    (ofItems (renamed keys read)).get? k = none := by
  rw [get?_ofItems, Option.map_eq_none_iff, List.find?_eq_none]
  rintro ⟨target, v⟩ mem same
  obtain ⟨source, mem, _⟩ := mem_renamed.mp (List.mem_reverse.mp mem)
  have target_eq : target = k := of_decide_eq_true same
  exact other (List.mem_map.mpr ⟨_, mem, target_eq⟩)

/-! ### Writes under a list of keys -/

/-- `e` is `d` after any number of writes under the given keys. -/
inductive Written (keys : List String) (d : Dict α) : Dict α → Prop where
  | refl : Written keys d d
  | set {e : Dict α} {k : String} (w : Written keys d e) (mem : k ∈ keys) (v : α) :
      Written keys d (e.set k v)

/-- The items of the other keys stay where they are. -/
theorem filter_rows_set (p : String → Bool) (hk : p k = false) :
    ((d.set k v).rows.filter fun item => p item.1) = d.rows.filter fun item => p item.1 := by
  simp only [set, Table.upsert]
  split
  · rw [List.filter_map]
    have unseen : ∀ item : String × α,
        p (if item.1 = k then (k, v) else item).1 = p item.1 := by
      intro item
      split
      · rename_i same
        rw [same]
      · rfl
    simp only [Function.comp_def, unseen]
    refine (List.map_congr_left fun item mem => ?_).trans (List.map_id _)
    have seen := (List.mem_filter.mp mem).2
    rw [if_neg, id_eq]
    rintro rfl
    exact absurd (hk.symm.trans seen) Bool.false_ne_true
  · rw [List.filter_append, List.filter_cons_of_neg (by simp [hk]), List.filter_nil,
      List.append_nil]

namespace Written

variable {keys : List String} {e : Dict α}

/-- Writes compose. -/
theorem trans {f : Dict α} (w : Written keys d e) (w' : Written keys e f) : Written keys d f := by
  induction w' with
  | refl => exact w
  | set _ mem v ih => exact .set ih mem v

/-- Writes under some of the keys are writes under all of them. -/
theorem mono {keys' : List String} (w : Written keys d e) (sub : keys ⊆ keys') :
    Written keys' d e := by
  induction w with
  | refl => exact .refl
  | set _ mem v ih => exact .set ih (sub mem) v

/-- The other keys read as before. -/
theorem get?_eq (w : Written keys d e) (other : k ∉ keys) : e.get? k = d.get? k := by
  induction w with
  | refl => rfl
  | set _ mem v ih =>
      rw [get?_set, if_neg, ih]
      rintro rfl
      exact other mem

/-- Any class of other keys keeps its items and their order. -/
theorem filter_rows_eq (w : Written keys d e) (p : String → Bool)
    (others : ∀ k ∈ keys, p k = false) :
    (e.rows.filter fun item => p item.1) = d.rows.filter fun item => p item.1 := by
  induction w with
  | refl => rfl
  | set _ mem v ih => rw [filter_rows_set p (others _ mem), ih]

end Written

end Dict

end Keyed
