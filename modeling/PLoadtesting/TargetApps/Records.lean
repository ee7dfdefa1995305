import PLoadtesting.Lib.Sql
import PLoadtesting.Lib.Table
import PLoadtesting.TargetApps.Common

/-!
`db_api.py`: the table of records, and its listing by pages.

A value of `Records` is a content that the table can have: the operations keep
its bounds. `list_records` filters, sorts and pages with the semantics of SQLite,
and looks for `q` with `LIKE` and a pattern made of `q` as it is.
-/

namespace PLoadtesting.TargetApps.DbApi

open Keyed Sql

def maxPageSize : Nat := 50
def maxTotalRows : Nat := 500
def maxNameLength : Nat := 128
def maxCategoryLength : Nat := 64
def maxStatusLength : Nat := 32
def defaultPageSize : Nat := 20

/-! ### The table -/

structure Record where
  id : Nat
  name : String
  category : String
  value : Int
  status : String
  deriving DecidableEq

/-- The bounds of the request bodies. -/
def Record.withinBounds (r : Record) : Bool :=
  lengthBetween 1 maxNameLength r.name && lengthBetween 1 maxCategoryLength r.category &&
    between 0 1000000 r.value && lengthBetween 1 maxStatusLength r.status

/-- A content of the table, with the last id that was given out. -/
structure Records where
  table : Table Record.id
  sequence : Nat
  bounds : ∀ r ∈ table, r.withinBounds = true
  numbered : ∀ r ∈ table, r.id ≤ sequence
  capped : table.rows.length ≤ maxTotalRows

/-- `_seed_rows`, as `ensure_initialized` inserts them. -/
def seeded : Records where
  table :=
    { rows :=
        [⟨1, "alpha", "ops", 10, "new"⟩, ⟨2, "beta", "ops", 20, "ready"⟩,
          ⟨3, "gamma", "sales", 30, "ready"⟩, ⟨4, "delta", "finance", 40, "archived"⟩,
          ⟨5, "epsilon", "sales", 50, "new"⟩]
      keysNodup := by decide }
  sequence := 5
  bounds := by decide
  numbered := by decide
  capped := by decide

/-- `RecordCreate`. -/
structure RecordCreate where
  name : String
  category : String := "general"
  value : Int := 0
  status : String := "new"
  bounds : Record.withinBounds ⟨0, name, category, value, status⟩ = true

/-- `RecordUpdate`. -/
structure RecordUpdate where
  name : Option String := none
  category : Option String := none
  value : Option Int := none
  status : Option String := none
  bounds : (name.all (lengthBetween 1 maxNameLength) &&
    category.all (lengthBetween 1 maxCategoryLength) && value.all (between 0 1000000) &&
      status.all (lengthBetween 1 maxStatusLength)) = true

/-- `_get_record_or_404`. -/
def getRecordOr404 (recordId : Nat) (records : Records) : Except HTTPException Record :=
  match records.table.find? recordId with
  | none => .error ⟨404, s!"Record {recordId} not found."⟩
  | some row => .ok row

/-- The table with a row of the next id. -/
def Records.insert (records : Records) (body : RecordCreate)
    (space : records.table.rows.length < maxTotalRows) : Records where
  table :=
    { rows := records.table.rows ++
        [⟨records.sequence + 1, body.name, body.category, body.value, body.status⟩]
      keysNodup := by
        rw [List.map_append, List.map_singleton]
        refine List.nodup_append.mpr ⟨records.table.keysNodup, List.nodup_singleton _, ?_⟩
        intro k old k' new same
        obtain ⟨r, mem, rfl⟩ := List.mem_map.mp old
        have known := records.numbered r mem
        have next : k' = records.sequence + 1 := List.mem_singleton.mp new
        omega }
  sequence := records.sequence + 1
  bounds r mem := by
    rcases List.mem_append.mp mem with old | new
    · exact records.bounds r old
    · rw [List.mem_singleton.mp new]
      exact body.bounds
  numbered r mem := by
    rcases List.mem_append.mp mem with old | new
    · exact Nat.le_succ_of_le (records.numbered r old)
    · rw [List.mem_singleton.mp new]
  capped := by
    rw [List.length_append]
    exact space

/-- `create_record`. -/
def createRecord (body : RecordCreate) (records : Records) :
    Except HTTPException Record × Records :=
  if space : records.table.rows.length < maxTotalRows then
    let records := records.insert body space
    (getRecordOr404 records.sequence records, records)
  else (.error ⟨422, s!"record count exceeds safe cap of {maxTotalRows}."⟩, records)

/-- `{**current, **values}`. -/
def RecordUpdate.merge (body : RecordUpdate) (current : Record) : Record where
  id := current.id
  name := body.name.getD current.name
  category := body.category.getD current.category
  value := body.value.getD current.value
  status := body.status.getD current.status

theorem RecordUpdate.withinBounds_merge (body : RecordUpdate) {current : Record}
    (bounds : current.withinBounds = true) : (body.merge current).withinBounds = true := by
  have given := body.bounds
  simp only [Record.withinBounds, RecordUpdate.merge, Bool.and_eq_true, Option.all_eq_true]
    at given bounds ⊢
  obtain ⟨⟨⟨name, category⟩, value⟩, status⟩ := given
  obtain ⟨⟨⟨name', category'⟩, value'⟩, status'⟩ := bounds
  refine ⟨⟨⟨?_, ?_⟩, ?_⟩, ?_⟩
  · cases same : body.name with
    | none => exact name'
    | some s => exact name s same
  · cases same : body.category with
    | none => exact category'
    | some s => exact category s same
  · cases same : body.value with
    | none => exact value'
    | some n => exact value n same
  · cases same : body.status with
    | none => exact status'
    | some s => exact status s same

/-- The table after `UPDATE records SET ... WHERE id = ?`. -/
def Records.update (records : Records) (recordId : Nat) (body : RecordUpdate) : Records where
  table := records.table.modify recordId body.merge fun _ => rfl
  sequence := records.sequence
  bounds r mem := by
    rcases Table.mem_modify_cases mem with ⟨s, old, _, rfl⟩ | ⟨old, _⟩
    · exact body.withinBounds_merge (records.bounds s old)
    · exact records.bounds r old
  numbered r mem := by
    rcases Table.mem_modify_cases mem with ⟨s, old, _, rfl⟩ | ⟨old, _⟩
    · exact records.numbered s old
    · exact records.numbered r old
  capped := by
    simpa [Table.modify] using records.capped

/-- `update_record`. -/
def updateRecord (recordId : Nat) (body : RecordUpdate) (records : Records) :
    Except HTTPException Record × Records :=
  if body.name.isNone && body.category.isNone && body.value.isNone && body.status.isNone then
    (.error ⟨422, "At least one field must be provided."⟩, records)
  else
    match getRecordOr404 recordId records with
    | .error e => (.error e, records)
    | .ok _ =>
        let records := records.update recordId body
        (getRecordOr404 recordId records, records)

/-! ### What the operations leave -/

section Operations

variable {records : Records}

theorem find?_insert (body : RecordCreate) (space : records.table.rows.length < maxTotalRows)
    (recordId : Nat) : (records.insert body space).table.find? recordId =
      if recordId = records.sequence + 1 then
        some ⟨records.sequence + 1, body.name, body.category, body.value, body.status⟩
      else records.table.find? recordId := by
  unfold Records.insert Table.find?
  rw [List.find?_append]
  split
  · rename_i new
    have unused : records.table.rows.find? (fun r => decide (r.id = recordId)) = none := by
      refine List.find?_eq_none.mpr fun r mem same => ?_
      have known := records.numbered r mem
      have same := of_decide_eq_true same
      omega
    rw [unused, new]
    simp
  · rename_i other
    simp [Ne.symm other]

/-- A creation is refused and changes nothing, or it adds one row with a new id. -/
theorem createRecord_cases (body : RecordCreate) (records : Records) :
    (records.table.rows.length = maxTotalRows ∧ (createRecord body records).1.isOk = false ∧
      (createRecord body records).2 = records) ∨
    ∃ row, (createRecord body records).1 = .ok row ∧ records.table.find? row.id = none ∧
      row = ⟨row.id, body.name, body.category, body.value, body.status⟩ ∧
      ∀ recordId, (createRecord body records).2.table.find? recordId =
        if recordId = row.id then some row else records.table.find? recordId := by
  unfold createRecord
  split
  · rename_i space
    have row := find?_insert body space (records.sequence + 1)
    rw [if_pos rfl] at row
    have created : getRecordOr404 (records.insert body space).sequence
        (records.insert body space) =
          .ok ⟨records.sequence + 1, body.name, body.category, body.value, body.status⟩ := by
      rw [getRecordOr404]
      simp only [Records.insert] at row ⊢
      rw [row]
    refine .inr ⟨_, created, ?_, rfl, ?_⟩
    · refine Table.find?_eq_none_iff.mpr fun r mem same => ?_
      have known := records.numbered r mem
      dsimp only at same
      omega
    · exact find?_insert body space
  · rename_i full
    exact .inl ⟨Nat.le_antisymm records.capped (Nat.not_lt.mp full), rfl, rfl⟩

theorem find?_update (recordId : Nat) (body : RecordUpdate) (other : Nat) :
    (records.update recordId body).table.find? other =
      if other = recordId then (records.table.find? recordId).map body.merge
      else records.table.find? other :=
  @Table.find?_modify _ _ _ _ records.table recordId body.merge (fun _ => rfl) other

/-- An update is refused and changes nothing, or it merges its fields into one row. -/
theorem updateRecord_cases (recordId : Nat) (body : RecordUpdate) (records : Records) :
    ((updateRecord recordId body records).1.isOk = false ∧
      (updateRecord recordId body records).2 = records) ∨
    ∃ row, records.table.find? recordId = some row ∧
      (updateRecord recordId body records).1 = .ok (body.merge row) ∧
      ∀ other, (updateRecord recordId body records).2.table.find? other =
        if other = recordId then some (body.merge row) else records.table.find? other := by
  unfold updateRecord
  split
  · exact .inl ⟨rfl, rfl⟩
  · cases found : records.table.find? recordId with
    | none =>
        rw [getRecordOr404, found]
        exact .inl ⟨rfl, rfl⟩
    | some row =>
        have after (other : Nat) : (records.update recordId body).table.find? other =
            if other = recordId then some (body.merge row) else records.table.find? other := by
          rw [find?_update, found, Option.map_some]
        simp only [getRecordOr404, found, after, if_true]
        exact .inr ⟨row, rfl, rfl, fun _ => rfl⟩

end Operations

/-! ### The listing -/

/-- `pattern="^(id|name|value|status)$"`. -/
inductive SortBy where
  | id
  | name
  | value
  | status
  deriving DecidableEq

/-- The query parameters. -/
structure ListQuery where
  limit : Nat := defaultPageSize
  offset : Nat := 0
  category : Option String := none
  status : Option String := none
  q : Option String := none
  sortBy : SortBy := .id
  sortOrder : SortOrder := .asc

/-- The bounds of the parameters. -/
def ListQuery.accepted (query : ListQuery) : Bool :=
  between 1 maxPageSize query.limit && between 0 maxTotalRows query.offset &&
    query.category.all (lengthBetween 0 maxCategoryLength) &&
    query.status.all (lengthBetween 0 maxStatusLength) &&
    query.q.all (lengthBetween 0 maxNameLength)

/-- `if category:`: an empty text is none. -/
def given (text : Option String) : Option String := text.filter (· ≠ "")

/-- `where_clauses`. -/
def whereClauses (query : ListQuery) : List (Record → Bool) :=
  ((given query.category).map fun category r => decide (r.category = category)).toList ++
    ((given query.status).map fun status r => decide (r.status = status)).toList ++
    ((given query.q).map fun q r => isLike r.name ("%" ++ q ++ "%")).toList

/-- The records that the `WHERE` clause selects. -/
def selected (query : ListQuery) (records : Records) : List Record :=
  records.table.rows.filter fun r => (whereClauses query).all fun clause => clause r

/-- `ORDER BY {sort_by} {sort_order}, id ASC`. -/
def inOrder (query : ListQuery) (rows : List Record) : List Record :=
  match query.sortBy with
  | .id => orderBy Record.id query.sortOrder Record.id rows
  | .name => orderBy Record.name query.sortOrder Record.id rows
  | .value => orderBy Record.value query.sortOrder Record.id rows
  | .status => orderBy Record.status query.sortOrder Record.id rows

structure RecordPage where
  items : List Record
  count : Nat
  total : Nat
  limit : Nat
  offset : Nat
  deriving DecidableEq

/-- `list_records`; `none` when a parameter is out of its bounds. -/
def listRecords (query : ListQuery) (records : Records) : Option RecordPage :=
  if query.accepted then
    let rows := page query.limit query.offset (inOrder query (selected query records))
    some
      { items := rows
        count := rows.length
        total := (selected query records).length
        limit := query.limit
        offset := query.offset }
  else none

/-- The pages at the offsets 0, `limit`, 2 * `limit` and so on, up to the largest
that is allowed. -/
def readPages (query : ListQuery) (records : Records) : Option (List RecordPage) :=
  (List.range (maxTotalRows / query.limit + 1)).mapM fun k =>
    listRecords { query with offset := k * query.limit } records

end PLoadtesting.TargetApps.DbApi
