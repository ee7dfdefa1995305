import PLoadtesting.TargetApps.Records

/-!
What `list_records` returns page by page.

The pages in the order of their offsets are the selected rows in order
(`listsExactly_iff_perm`), so a listing is exact if and only if the pattern for `q`
selects the names that contain `q`. It does for every content of the table when `q`
has no wildcard and no NUL, and only then (`listsExactly_iff`).
-/

namespace PLoadtesting.TargetApps.DbApi

open Keyed Sql

/-! ### What a listing is for -/

/-- The record has the category and the status, and its name contains `q`. -/
def Wanted (query : ListQuery) (r : Record) : Prop :=
  (∀ category ∈ given query.category, r.category = category) ∧
    (∀ status ∈ given query.status, r.status = status) ∧
    ∀ q ∈ given query.q, Contains r.name q

instance (query : ListQuery) : DecidablePred (Wanted query) := fun r =>
  have (q : String) : Decidable (Contains r.name q) := inferInstanceAs (Decidable (_ <:+: _))
  inferInstanceAs (Decidable (_ ∧ _ ∧ _))

/-- The records that are asked for. -/
def wanted (query : ListQuery) (records : Records) : List Record :=
  records.table.rows.filter (Wanted query)

/-- The rows are in the order of the column, those with the same value by their id. -/
def InOrder (query : ListQuery) (rows : List Record) : Prop :=
  match query.sortBy with
  | .id => rows.Pairwise (Precedes Record.id query.sortOrder Record.id)
  | .name => rows.Pairwise (Precedes Record.name query.sortOrder Record.id)
  | .value => rows.Pairwise (Precedes Record.value query.sortOrder Record.id)
  | .status => rows.Pairwise (Precedes Record.status query.sortOrder Record.id)

/-- The pages are, one after the other, the records asked for, each once and in
order, and every page tells how many they are. -/
def ListsExactly (query : ListQuery) (records : Records) : Prop :=
  ∃ pages, readPages query records = some pages ∧
    (∀ p ∈ pages, p.total = (wanted query records).length) ∧
    (pages.flatMap RecordPage.items).Perm (wanted query records) ∧
    InOrder query (pages.flatMap RecordPage.items)

/-- On the records of the category and the status, the pattern finds the names that
contain `q`. -/
def Agrees (query : ListQuery) (records : Records) : Prop :=
  ∀ q ∈ given query.q, ∀ r ∈ records.table, (∀ category ∈ given query.category,
    r.category = category) → (∀ status ∈ given query.status, r.status = status) →
    (isLike r.name ("%" ++ q ++ "%") = true ↔ Contains r.name q)

section Listing

variable {query : ListQuery} {records : Records}

/-! ### The rows that are selected -/

theorem mem_given {text : Option String} {s : String} :
    s ∈ given text ↔ text = some s ∧ s ≠ "" := by
  simp [given, Option.mem_def]

theorem all_optional {c : Option (Record → Bool)} {r : Record} :
    (c.toList.all fun clause => clause r) = true ↔ ∀ clause ∈ c, clause r = true := by
  cases c <;> simp

theorem selects_iff {r : Record} : ((whereClauses query).all fun clause => clause r) = true ↔
    (∀ category ∈ given query.category, r.category = category) ∧
      (∀ status ∈ given query.status, r.status = status) ∧
      ∀ q ∈ given query.q, isLike r.name ("%" ++ q ++ "%") = true := by
  unfold whereClauses
  rw [List.all_append, List.all_append, Bool.and_eq_true, Bool.and_eq_true, all_optional,
    all_optional, all_optional, and_assoc]
  simp

/-- Two selections from the table are the same rows exactly if they agree on each. -/
theorem filter_perm_iff {p p' : Record → Bool} {rows : List Record} :
    (rows.filter p).Perm (rows.filter p') ↔ ∀ r ∈ rows, (p r = true ↔ p' r = true) := by
  constructor
  · intro perm r mem
    have same := perm.mem_iff (a := r)
    simpa only [List.mem_filter, mem, true_and] using same
  · intro same
    rw [List.filter_congr fun r mem => Bool.eq_iff_iff.mpr (same r mem)]

theorem selected_perm_iff :
    (selected query records).Perm (wanted query records) ↔ Agrees query records := by
  rw [selected, wanted, filter_perm_iff]
  simp only [selects_iff, decide_eq_true_eq]
  unfold Wanted
  constructor
  · intro same q given r mem category status
    have same := same r mem
    constructor
    · intro found
      refine (same.mp ⟨category, status, fun q' given' => ?_⟩).2.2 q given
      cases Option.mem_unique given given'
      exact found
    · intro part
      refine (same.mpr ⟨category, status, fun q' given' => ?_⟩).2.2 q given
      cases Option.mem_unique given given'
      exact part
  · intro agrees r mem
    constructor
    · rintro ⟨category, status, found⟩
      exact ⟨category, status, fun q given =>
        (agrees q given r mem category status).mp (found q given)⟩
    · rintro ⟨category, status, part⟩
      exact ⟨category, status, fun q given =>
        (agrees q given r mem category status).mpr (part q given)⟩

/-! ### The pages -/

theorem inOrder_perm (rows : List Record) : (inOrder query rows).Perm rows := by
  unfold inOrder
  split <;> exact orderBy_perm rows

theorem inOrder_inOrder (rows : List Record) : InOrder query (inOrder query rows) := by
  unfold InOrder inOrder
  cases query.sortBy <;> exact pairwise_orderBy rows

/-- The page at the offset `k * limit`. -/
def pageAt (query : ListQuery) (records : Records) (k : Nat) : RecordPage :=
  let rows := page query.limit (k * query.limit) (inOrder query (selected query records))
  { items := rows
    count := rows.length
    total := (selected query records).length
    limit := query.limit
    offset := k * query.limit }

theorem limit_pos (accepted : query.accepted = true) : 0 < query.limit := by
  simp only [ListQuery.accepted, between, Bool.and_eq_true, decide_eq_true_eq] at accepted
  omega

theorem listRecords_at (accepted : query.accepted = true) {k : Nat}
    (inside : k ≤ maxTotalRows / query.limit) :
    listRecords { query with offset := k * query.limit } records =
      some (pageAt query records k) := by
  have bound : k * query.limit ≤ maxTotalRows :=
    (Nat.mul_le_mul_right _ inside).trans (Nat.div_mul_le_self _ _)
  have here : ({ query with offset := k * query.limit } : ListQuery).accepted = true := by
    simp only [ListQuery.accepted, between, Bool.and_eq_true, decide_eq_true_eq] at accepted ⊢
    obtain ⟨⟨⟨⟨limit, _⟩, category⟩, status⟩, q⟩ := accepted
    exact ⟨⟨⟨⟨limit, by omega, by exact_mod_cast bound⟩, category⟩, status⟩, q⟩
  rw [listRecords, if_pos here]
  rfl

theorem mapM_eq_some {α β : Type} {f : α → Option β} {g : α → β} {xs : List α}
    (same : ∀ x ∈ xs, f x = some (g x)) : xs.mapM f = some (xs.map g) := by
  induction xs with
  | nil => rfl
  | cons x xs ih =>
      have rest := ih fun y mem => same y (List.mem_cons_of_mem _ mem)
      rw [List.mapM_cons, same x List.mem_cons_self, rest]
      rfl

theorem readPages_eq (accepted : query.accepted = true) : readPages query records =
    some ((List.range (maxTotalRows / query.limit + 1)).map (pageAt query records)) :=
  mapM_eq_some fun _ mem =>
    listRecords_at accepted (Nat.le_of_lt_succ (List.mem_range.mp mem))

/-- The pages are all rows that are selected, in order. -/
theorem pages_items (accepted : query.accepted = true) :
    ((List.range (maxTotalRows / query.limit + 1)).map (pageAt query records)).flatMap
      RecordPage.items = inOrder query (selected query records) := by
  rw [List.flatMap_map]
  have pages := pages_flatten query.limit (maxTotalRows / query.limit + 1)
    (inOrder query (selected query records))
  refine pages.trans (List.take_of_length_le ?_)
  have few : (selected query records).length ≤ maxTotalRows :=
    (List.length_filter_le _ _).trans records.capped
  have enough := Nat.lt_mul_div_succ maxTotalRows (limit_pos accepted)
  rw [(inOrder_perm _).length_eq, Nat.mul_comm]
  omega

/-- A listing is exact if the rows that are selected are the ones asked for. -/
theorem listsExactly_iff_perm (accepted : query.accepted = true) :
    ListsExactly query records ↔ (selected query records).Perm (wanted query records) := by
  constructor
  · rintro ⟨pages, reads, _, perm, _⟩
    cases (readPages_eq accepted).symm.trans reads
    rw [pages_items accepted] at perm
    exact (inOrder_perm _).symm.trans perm
  · intro perm
    refine ⟨_, readPages_eq accepted, ?_, ?_, ?_⟩
    · intro p mem
      obtain ⟨k, _, rfl⟩ := List.mem_map.mp mem
      exact perm.length_eq
    · rw [pages_items accepted]
      exact (inOrder_perm _).trans perm
    · rw [pages_items accepted]
      exact inOrder_inOrder _

/-! ### Texts with wildcards -/

/-- No name contains a NUL. -/
def NulFree (records : Records) : Prop := ∀ r ∈ records.table, '\x00' ∉ r.name.toList

/-- `q` has no wildcard and no NUL. -/
def Plain (query : ListQuery) : Prop :=
  ∀ q ∈ given query.q, ∀ c ∈ q.toList, special c = false

theorem agrees_of_plain (plain : Plain query) (nulFree : NulFree records) :
    Agrees query records :=
  fun q given r mem _ _ => isLike_between_iff (plain q given) (nulFree r mem)

/-- A value that fits a filter. -/
theorem getD_given {text : Option String} {most : Nat} (other : String)
    (short : text.all (lengthBetween 0 most) = true) (fits : lengthBetween 1 most other = true) :
    lengthBetween 1 most ((given text).getD other) = true := by
  cases here : given text with
  | none => exact fits
  | some s =>
      obtain ⟨rfl, nonempty⟩ := mem_given.mp here
      have least : 1 ≤ s.length := Nat.one_le_iff_ne_zero.mpr fun zero =>
        nonempty (String.length_eq_zero_iff.mp zero)
      simpa [lengthBetween, least] using short

/-- A table with one record of the category and the status. -/
def single (query : ListQuery) (accepted : query.accepted = true) (name : String)
    (bounds : lengthBetween 1 maxNameLength name = true) : Records where
  table :=
    { rows := [⟨1, name, (given query.category).getD "general", 0,
        (given query.status).getD "new"⟩]
      keysNodup := List.nodup_singleton _ }
  sequence := 1
  bounds r mem := by
    rw [List.mem_singleton.mp mem]
    simp only [ListQuery.accepted, Bool.and_eq_true] at accepted
    have category := getD_given "general" accepted.1.1.2 rfl
    have status := getD_given "new" accepted.1.2 rfl
    simp only [Record.withinBounds, bounds, category, status]
    rfl
  numbered r mem := by
    rw [List.mem_singleton.mp mem]
  capped := by
    rw [List.length_singleton]
    decide

/-- A special character in `q` makes the pattern find a name that does not contain
`q`. -/
theorem exists_disagreement (accepted : query.accepted = true) (notPlain : ¬ Plain query) :
    ∃ records, NulFree records ∧ ¬ Agrees query records := by
  simp only [Plain, not_forall, Bool.not_eq_false] at notPlain
  obtain ⟨q, here, c, mem, isSpecial⟩ := notPlain
  have bounds : lengthBetween 1 maxNameLength (sample q) = true := by
    obtain ⟨least, most⟩ := length_sample q
    simp only [ListQuery.accepted, Bool.and_eq_true, (mem_given.mp here).1, Option.all_some,
      lengthBetween, decide_eq_true_eq] at accepted ⊢
    refine ⟨least, most.trans (Nat.max_le.mpr ⟨by decide, accepted.2.2⟩)⟩
  refine ⟨single query accepted (sample q) bounds, ?_, ?_⟩
  · intro r found
    rw [List.mem_singleton.mp found]
    exact fun nul => by cases not_special_of_mem_sample nul
  · intro agrees
    have letters : ∀ d ∈ (sample q).toList, special d = false := fun _ =>
      not_special_of_mem_sample
    refine not_contains_of_special mem isSpecial letters ?_
    refine (agrees q here _ (List.mem_singleton.mpr rfl) ?_ ?_).mp (isLike_sample q)
    · intro category found
      rw [Option.mem_def.mp found]
      rfl
    · intro status found
      rw [Option.mem_def.mp found]
      rfl

/-- The pages of a listing are exactly the records asked for if and only if the
pattern for `q` finds, in the category and the status, the names that contain `q`.
All contents of the table without NULs in names are listed so if and only if `q` is
plain. -/
theorem listsExactly_iff (query : ListQuery) (accepted : query.accepted = true) :
    (∀ records, ListsExactly query records ↔ Agrees query records) ∧
      ((∀ records, NulFree records → ListsExactly query records) ↔ Plain query) := by
  have exact_iff (records : Records) : ListsExactly query records ↔ Agrees query records :=
    (listsExactly_iff_perm accepted).trans selected_perm_iff
  refine ⟨exact_iff, ?_⟩
  constructor
  · intro always
    by_contra notPlain
    obtain ⟨records, nulFree, disagrees⟩ := exists_disagreement accepted notPlain
    exact disagrees ((exact_iff records).mp (always records nulFree))
  · intro plain records nulFree
    exact (exact_iff records).mpr (agrees_of_plain plain nulFree)

end Listing

/-- A search by name, in any case. -/
def searchTA : ListQuery := { limit := 2, q := some "TA", sortBy := .name, sortOrder := .desc }

theorem searchTA_exact : ListsExactly searchTA seeded ∧
    (listRecords searchTA seeded).map RecordPage.items =
      some [⟨4, "delta", "finance", 40, "archived"⟩, ⟨2, "beta", "ops", 20, "ready"⟩] := by
  have plain : Plain searchTA := by
    intro q here
    cases here
    have letters : "TA".toList.all (fun c => !special c) = true := by
      decide
    simpa using letters
  have nulFree : NulFree seeded := by
    unfold NulFree
    decide
  refine ⟨(listsExactly_iff searchTA (by decide)).2.mpr plain seeded nulFree, ?_⟩
  decide +kernel

/-- A search for an underscore, which is in no name. -/
def searchUnderscore : ListQuery := { limit := 50, q := some "_" }

theorem searchUnderscore_inexact :
    ¬ ∀ query records, query.accepted = true → ListsExactly query records := by
  intro exact_
  obtain ⟨pages, reads, totals, _⟩ := exact_ searchUnderscore seeded (by decide)
  have found : (readPages searchUnderscore seeded).map (fun pages => pages.map RecordPage.total) =
      some (List.replicate 11 5) := by
    decide +kernel
  have none : (wanted searchUnderscore seeded).length = 0 := by
    decide +kernel
  rw [reads, Option.map_some, Option.some.injEq] at found
  rw [none] at totals
  have five : 5 ∈ pages.map RecordPage.total := by
    rw [found]
    decide
  obtain ⟨p, mem, total⟩ := List.mem_map.mp five
  rw [totals p mem] at total
  cases total

end PLoadtesting.TargetApps.DbApi
