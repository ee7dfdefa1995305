import PLoadtesting.TargetApps.Records
import Mathlib.Algebra.Ring.Int.Defs

/-!
Sequences of requests to `db_api.py`.

Rows are never deleted, so the ids are the places of the rows, and the table never
gets smaller: of the creations in a sequence of requests, the first ones succeed
until the table has `MAX_TOTAL_ROWS` rows, and no other one
(`created_count`).
-/

namespace PLoadtesting.TargetApps.DbApi

open Keyed

inductive Request where
  | health
  | create (body : RecordCreate)
  | get (recordId : Int)
  | update (recordId : Int) (body : RecordUpdate)
  | list (query : ListQuery)

inductive Reply where
  | refused (error : HTTPException)
  | healthy (seededRows : Nat)
  | created (record : Record)
  | record (record : Record)
  | page (page : RecordPage)
  deriving DecidableEq

def Reply.statusCode : Reply → Nat
  | .refused error => error.statusCode
  | .created _ => 201
  | _ => 200

/-- FastAPI's answer to a request whose parameters do not validate. -/
def unprocessable : Reply := .refused ⟨422, "Unprocessable Entity"⟩

/-- The answer after an exception that no handler takes. -/
def serverError : Reply := .refused ⟨500, "Internal Server Error"⟩

/-- What an endpoint sends for its result. -/
def reply (send : Record → Reply) : Except HTTPException Record → Reply
  | .ok record => send record
  | .error error => .refused error

/-- The endpoint for a row, with the id in the path. SQLite has integers of 64 bits,
and the driver raises `OverflowError` for others. -/
def withRow (recordId : Int) (endpoint : Nat → Reply × Records) (records : Records) :
    Reply × Records :=
  if recordId < -2 ^ 63 ∨ 2 ^ 63 ≤ recordId then (serverError, records)
  else
    match recordId with
    | .ofNat n => endpoint n
    | .negSucc _ => (.refused ⟨404, s!"Record {recordId} not found."⟩, records)

/-- `if not values:`. -/
def RecordUpdate.isEmpty (body : RecordUpdate) : Bool :=
  body.name.isNone && body.category.isNone && body.value.isNone && body.status.isNone

/-- The reply to a request, and the table after it. -/
def Request.handle (request : Request) (records : Records) : Reply × Records :=
  match request with
  | .health => (.healthy records.table.rows.length, records)
  | .create body =>
      let (row, records) := createRecord body records
      (reply .created row, records)
  | .get recordId =>
      withRow recordId (fun n => (reply .record (getRecordOr404 n records), records)) records
  | .update recordId body =>
      if body.isEmpty then (.refused ⟨422, "At least one field must be provided."⟩, records)
      else
        withRow recordId (fun n =>
          let (row, records) := updateRecord n body records
          (reply .record row, records)) records
  | .list query =>
      match listRecords query records with
      | some page => (.page page, records)
      | none => (unprocessable, records)

/-- The table after a sequence of requests. -/
def after (records : Records) : List Request → Records
  | [] => records
  | request :: requests => after (request.handle records).2 requests

/-- The replies to a sequence of requests. -/
def replies (records : Records) : List Request → List Reply
  | [] => []
  | request :: requests => (request.handle records).1 :: replies (request.handle records).2 requests

/-! ### What a request does to the table -/

def Request.isCreate : Request → Bool
  | .create _ => true
  | _ => false

def Reply.isCreated : Reply → Bool
  | .created _ => true
  | _ => false

/-- The id of a row that was created. -/
def Reply.createdId? : Reply → Option Nat
  | .created r => some r.id
  | _ => none

/-- The ids are the places of the rows. -/
def Records.Dense (records : Records) : Prop :=
  records.table.rows.map Record.id = List.range' 1 records.table.rows.length ∧
    records.sequence = records.table.rows.length

theorem seeded_dense : seeded.Dense := by
  unfold Records.Dense
  decide

section Requests

variable {records : Records}

theorem createRecord_of_lt (body : RecordCreate)
    (space : records.table.rows.length < maxTotalRows) :
    createRecord body records =
      (.ok ⟨records.sequence + 1, body.name, body.category, body.value, body.status⟩,
        records.insert body space) := by
  have row := find?_insert body space (records.sequence + 1)
  rw [if_pos rfl] at row
  rw [createRecord, dif_pos space, Prod.mk.injEq]
  refine ⟨?_, rfl⟩
  change getRecordOr404 (records.sequence + 1) (records.insert body space) = _
  rw [getRecordOr404, row]

theorem createRecord_of_le (body : RecordCreate)
    (full : maxTotalRows ≤ records.table.rows.length) :
    createRecord body records =
      (.error ⟨422, s!"record count exceeds safe cap of {maxTotalRows}."⟩, records) := by
  rw [createRecord, dif_neg (Nat.not_lt.mpr full)]

theorem Records.Dense.insert (dense : records.Dense) (body : RecordCreate)
    (space : records.table.rows.length < maxTotalRows) : (records.insert body space).Dense := by
  obtain ⟨ids, last⟩ := dense
  constructor
  · simp only [Records.insert, List.map_append, ids, List.map_singleton, List.length_append,
      List.length_singleton, List.range'_concat, last, Nat.one_mul, Nat.add_comm 1]
  · simp only [Records.insert, last, List.length_append, List.length_singleton]

/-- An update keeps the ids. -/
theorem map_id_updateRecord (recordId : Nat) (body : RecordUpdate) (records : Records) :
    (updateRecord recordId body records).2.table.rows.map Record.id =
        records.table.rows.map Record.id ∧
      (updateRecord recordId body records).2.sequence = records.sequence := by
  unfold updateRecord
  split
  · exact ⟨rfl, rfl⟩
  · split
    · exact ⟨rfl, rfl⟩
    · refine ⟨?_, rfl⟩
      simp only [Records.update, Table.modify, List.map_map]
      refine List.map_congr_left fun r _ => ?_
      simp only [Function.comp_apply]
      split <;> rfl

theorem withRow_cases (recordId : Int) (endpoint : Nat → Reply × Records) (records : Records) :
    (∃ error, withRow recordId endpoint records = (.refused error, records)) ∨
      ∃ n : Nat, recordId = n ∧ withRow recordId endpoint records = endpoint n := by
  unfold withRow
  split
  · exact .inl ⟨_, rfl⟩
  · split
    · exact .inr ⟨_, rfl, rfl⟩
    · exact .inl ⟨_, rfl⟩

theorem isCreated_reply_record (row : Except HTTPException Record) :
    (reply .record row).isCreated = false := by
  cases row <;> rfl

/-- A request other than a successful creation keeps the ids, and answers no
creation. -/
theorem handle_cases (request : Request) (records : Records) :
    (∃ body, ∃ space : records.table.rows.length < maxTotalRows, request = .create body ∧
      request.handle records =
        (.created ⟨records.sequence + 1, body.name, body.category, body.value, body.status⟩,
          records.insert body space)) ∨
    ((request.isCreate = true → maxTotalRows ≤ records.table.rows.length) ∧
      (request.handle records).1.isCreated = false ∧
      (request.handle records).2.table.rows.map Record.id = records.table.rows.map Record.id ∧
      (request.handle records).2.sequence = records.sequence) := by
  cases request with
  | create body =>
      rcases Nat.lt_or_ge records.table.rows.length maxTotalRows with space | full
      · refine .inl ⟨body, space, rfl, ?_⟩
        simp only [Request.handle, createRecord_of_lt body space, reply]
      · refine .inr ⟨fun _ => full, ?_⟩
        rw [Request.handle, createRecord_of_le body full]
        exact ⟨rfl, rfl, rfl⟩
  | health => exact .inr ⟨fun creates => absurd creates Bool.false_ne_true, rfl, rfl, rfl⟩
  | get recordId =>
      refine .inr ⟨fun creates => absurd creates Bool.false_ne_true, ?_⟩
      rcases withRow_cases recordId (fun n => (reply .record (getRecordOr404 n records), records))
        records with ⟨error, same⟩ | ⟨n, _, same⟩
      · rw [Request.handle, same]
        exact ⟨rfl, rfl, rfl⟩
      · rw [Request.handle, same]
        exact ⟨isCreated_reply_record _, rfl, rfl⟩
  | update recordId body =>
      refine .inr ⟨fun creates => absurd creates Bool.false_ne_true, ?_⟩
      rw [Request.handle]
      split
      · exact ⟨rfl, rfl, rfl⟩
      · rcases withRow_cases recordId (fun n => (reply .record (updateRecord n body records).1,
          (updateRecord n body records).2)) records with ⟨error, same⟩ | ⟨n, _, same⟩
        · rw [same]
          exact ⟨rfl, rfl, rfl⟩
        · rw [same]
          exact ⟨isCreated_reply_record _, map_id_updateRecord n body records⟩
  | list query =>
      refine .inr ⟨fun creates => absurd creates Bool.false_ne_true, ?_⟩
      simp only [Request.handle]
      split <;> exact ⟨rfl, rfl, rfl⟩

theorem Records.Dense.handle (dense : records.Dense) (request : Request) :
    (request.handle records).2.Dense := by
  rcases handle_cases request records with ⟨body, space, _, same⟩ | ⟨_, _, ids, last⟩
  · rw [same]
    exact dense.insert body space
  · have rows := congrArg List.length ids
    simp only [List.length_map] at rows
    exact ⟨by rw [ids, rows, dense.1], by rw [last, rows, dense.2]⟩

theorem Records.Dense.after (dense : records.Dense) (requests : List Request) :
    (after records requests).Dense := by
  induction requests generalizing records with
  | nil => exact dense
  | cons request requests ih => exact ih (dense.handle request)

/-- The creations that succeed are the first ones, until the table is full, and each
adds a row. -/
theorem count_created (requests : List Request) (records : Records) :
    (replies records requests).countP Reply.isCreated =
        min (maxTotalRows - records.table.rows.length) (requests.countP Request.isCreate) ∧
      (after records requests).table.rows.length =
        records.table.rows.length + (replies records requests).countP Reply.isCreated := by
  induction requests generalizing records with
  | nil => simp [replies, DbApi.after]
  | cons request requests ih =>
      obtain ⟨count, rows⟩ := ih (request.handle records).2
      rw [replies, DbApi.after, List.countP_cons, List.countP_cons, rows, count]
      rcases handle_cases request records with ⟨body, space, rfl, same⟩ | ⟨full, refused, ids, _⟩
      · rw [same]
        simp only [Reply.isCreated, Request.isCreate, Records.insert, List.length_append,
          List.length_singleton, if_true]
        omega
      · have length := congrArg List.length ids
        simp only [List.length_map] at length
        rw [refused, length]
        cases creates : request.isCreate with
        | false => exact ⟨rfl, rfl⟩
        | true =>
            have := full creates
            simp only [Bool.false_eq_true, if_false, if_true]
            omega

/-- The rows that are created are the next places, in order. -/
theorem createdIds (dense : records.Dense) (requests : List Request) :
    (replies records requests).filterMap Reply.createdId? =
      List.range' (records.table.rows.length + 1)
        ((replies records requests).countP Reply.isCreated) := by
  induction requests generalizing records with
  | nil => rfl
  | cons request requests ih =>
      have later := ih (dense.handle request)
      rw [replies, List.countP_cons]
      rcases handle_cases request records with ⟨body, space, rfl, same⟩ | ⟨_, refused, ids, _⟩
      · rw [same] at later ⊢
        have length : (records.insert body space).table.rows.length =
            records.table.rows.length + 1 := List.length_append
        rw [length] at later
        have next : records.sequence + 1 = records.table.rows.length + 1 :=
          congrArg Nat.succ dense.2
        simp only [List.filterMap_cons, Reply.createdId?, Reply.isCreated, later, next, if_true]
        exact List.range'_succ.symm
      · have length := congrArg List.length ids
        simp only [List.length_map] at length
        rw [length] at later
        have other : (request.handle records).1.createdId? = none := by
          cases answer : (request.handle records).1 with
          | created record =>
              rw [answer] at refused
              cases refused
          | _ => rfl
        rw [List.filterMap_cons_none other, later, refused]
        rfl

end Requests

/-- After any sequence of requests to the seeded table, the ids are the places of the
rows, the creations that succeeded are the first ones that the cap has room for, and
their replies name the rows after the seeds, in order. -/
theorem created_count (requests : List Request) :
    (after seeded requests).Dense ∧
      (replies seeded requests).countP Reply.isCreated =
        min (maxTotalRows - 5) (requests.countP Request.isCreate) ∧
      (after seeded requests).table.rows.length =
        5 + (replies seeded requests).countP Reply.isCreated ∧
      (replies seeded requests).filterMap Reply.createdId? =
        List.range' 6 ((replies seeded requests).countP Reply.isCreated) := by
  obtain ⟨created, rows⟩ := count_created requests seeded
  exact ⟨seeded_dense.after requests, created, rows, createdIds seeded_dense requests⟩

end PLoadtesting.TargetApps.DbApi
