import PLoadtesting.Engine.RecordScripts

/-!
Virtual users of the CRUD app and of the DB app.

A user creates a row and reads it back. Ids are not given out twice and rows are not
removed, so users cannot disturb one another, except by giving a row of the DB app
another name and by taking the last place in its table.
-/

namespace PLoadtesting.Load

open Keyed Transition Clients TargetApps Engine

/-! ### The CRUD app -/

section Items

open CrudApi

/-- The counter is ahead of every id. -/
def Ahead (s : CrudApi.Store) : Prop := ∀ item ∈ s.items, item.id < s.counter

theorem ahead_initial : Ahead CrudApi.initial := fun _ mem => absurd mem Table.not_mem_empty

theorem find?_createItem (body : ItemCreate) (s : CrudApi.Store) (n : Nat) :
    (CrudApi.createItem body s).2.items.find? n =
      if n = s.counter then some ⟨s.counter, body.name, body.value⟩ else s.items.find? n :=
  Table.find?_upsert n

/-- An item stays what it is. -/
theorem item_stays {request : Option CrudApi.Request} {s : CrudApi.Store} (ahead : Ahead s)
    {item : Item} (held : s.items.find? item.id = some item) :
    (receiveItem request s).2.items.find? item.id = some item := by
  rcases request with _ | request
  · exact held
  · cases request with
    | createItem body =>
        have other : item.id ≠ s.counter := (ahead item (Table.find?_eq_some_iff.mp held).1).ne
        exact (find?_createItem body s item.id).trans ((if_neg other).trans held)
    | _ => exact held

theorem ahead_receiveItem {request : Option CrudApi.Request} {s : CrudApi.Store}
    (ahead : Ahead s) : Ahead (receiveItem request s).2 := by
  rcases request with _ | request
  · exact ahead
  · cases request with
    | createItem body =>
        intro item mem
        rcases Table.mem_upsert.mp mem with rfl | ⟨old, _⟩
        · exact Nat.lt_succ_self _
        · exact Nat.lt_succ_of_lt (ahead item old)
    | _ => exact ahead

/-- The id of a new item is the next one. -/
theorem id_of_created {request : Option CrudApi.Request} {s : CrudApi.Store} {item : Item}
    (created : (receiveItem request s).1 = .created item) : item.id = s.counter := by
  rcases request with _ | request
  · cases created
  · cases request with
    | createItem body =>
        cases created
        rfl
    | getItem itemId =>
        simp only [receiveItem, Request.handle, CrudApi.getItem, notFound] at created
        split at created
        · split at created <;> cases created
        · cases created
    | _ => cases created

/-- Users of the CRUD app own the items that they created. -/
def itemOwners : Discipline receiveItem Item Nat where
  inv := Ahead
  regular _ _ := True
  ready request _ := request.isSome = true
  holds s item := s.items.find? item.id = some item
  key := Item.id
  touches _ _ := False
  grants reply k := ∃ item, reply = .created item ∧ item.id = k
  preserved ahead _ := ahead_receiveItem ahead
  frame ahead _ held _ := item_stays ahead held
  fresh := by
    rintro request s item ahead _ held ⟨new, created, same⟩
    have known := ahead item (Table.find?_eq_some_iff.mp held).1
    have next := id_of_created created
    omega

theorem sound_crudFlow (env : Dict String) : itemOwners.Sound [] (crudFlow env) := by
  rw [crudFlow]
  refine Discipline.Sound.ask [] (by simp [itemOwners]) (by simp) ?_ ?_
  · intro s _ _ unready
    cases body : itemCreate? (envText env "ITEM_NAME" "demo-item")
        (envNumber env "ITEM_VALUE" "42") with
    | none => exact ⟨("crud create returns 201", false), List.mem_cons_self, rfl⟩
    | some body' => exact absurd (by simp [itemOwners, body]) unready
  · intro s _ _ ready
    obtain ⟨body, valid⟩ := Option.isSome_iff_exists.mp ready
    obtain ⟨create, _, rfl⟩ := Option.map_eq_some_iff.mp valid
    have held := (find?_createItem create s s.counter).trans (if_pos rfl)
    rw [valid]
    refine ⟨[⟨s.counter, create.name, create.value⟩], _, _, rfl, ?_, rfl, ?_⟩
    · intro item mem
      rw [List.mem_singleton.mp mem]
      exact ⟨held, .inr ⟨_, rfl, rfl⟩⟩
    · refine Discipline.Sound.ask [_] (by simp [itemOwners]) (by simp)
        (fun _ _ _ unready => absurd rfl unready) ?_
      intro s' _ holds _
      have stored : s'.items.find? s.counter = some ⟨s.counter, create.name, create.value⟩ :=
        holds _ (List.mem_singleton.mpr rfl)
      have fetched : receiveItem (some (.getItem s.counter)) s' =
          (.item ⟨s.counter, create.name, create.value⟩, s') := by
        simp only [receiveItem, Request.handle, getItem_of_find? stored]
      exact ⟨[], _, s', fetched, by simp, rfl, decide_eq_true rfl, trivial⟩

/-- Users of the CRUD app run its script, each in an environment of its own. -/
def CrudUsers : Event (Option CrudApi.Request) CrudApi.Reply → Prop
  | .arrive script => ∃ env, script = crudFlow env
  | _ => True

/-- The request of a user has a body and a path that validate. -/
def Validates (t : State CrudApi.Store (Option CrudApi.Request) CrudApi.Reply) :
    Event (Option CrudApi.Request) CrudApi.Reply → Prop
  | .serve client => ∀ request next, t.clients[client]? = some (.ask request next) →
      request.isSome = true
  | _ => True

/-- Any number of users of the CRUD app, in any environments and any interleaving with
other requests: all checks pass exactly if every request of a user validates. -/
theorem crudLoad_passed_iff {server : CrudApi.Store} (ahead : Ahead server)
    {es : List (Event (Option CrudApi.Request) CrudApi.Reply)}
    {s : State CrudApi.Store (Option CrudApi.Request) CrudApi.Reply}
    (run : Run (Clients.step receiveItem) (fun _ e => CrudUsers e) (Clients.start server) es s) :
    s.Passed ↔ Run (Clients.step receiveItem) (fun t e => CrudUsers e ∧ Validates t e)
      (Clients.start server) es s := by
  have admits (t : State CrudApi.Store (Option CrudApi.Request) CrudApi.Reply)
      (e : Event (Option CrudApi.Request) CrudApi.Reply) :
      itemOwners.Admits (fun script => ∃ env, script = crudFlow env) t e ↔ CrudUsers e := by
    cases e with
    | arrive script => exact Iff.rfl
    | serve client => exact iff_of_true (fun _ _ _ => trivial) trivial
    | other request => exact iff_of_true ⟨trivial, fun _ _ _ _ => id⟩ trivial
  have ready (t : State CrudApi.Store (Option CrudApi.Request) CrudApi.Reply)
      (e : Event (Option CrudApi.Request) CrudApi.Reply) :
      itemOwners.Ready t e ↔ Validates t e := by
    cases e <;> exact Iff.rfl
  have sound : ∀ script, (∃ env, script = crudFlow env) → itemOwners.Sound [] script := by
    rintro _ ⟨env, rfl⟩
    exact sound_crudFlow env
  rw [itemOwners.passed_iff sound ahead (run.mono fun t e users => (admits t e).mpr users)]
  simp only [admits, ready]

/-- Two users of the CRUD app, one with an item of its own, and a listing between them. -/
def twoItems : List (Event (Option CrudApi.Request) CrudApi.Reply) :=
  [.arrive (crudFlow Table.empty),
    .arrive (crudFlow (Dict.ofItems [("ITEM_NAME", "lamp"), ("ITEM_VALUE", "7")])),
    .serve 0, .serve 1, .other (some .listItems), .serve 1, .serve 0]

theorem crudLoad_passed_twoItems :
    ∃ s : State CrudApi.Store (Option CrudApi.Request) CrudApi.Reply,
      s.checks = [("crud create returns 201", true), ("crud create returns 201", true),
        ("crud get returns 200", true), ("crud get returns same id", true),
        ("crud get returns 200", true), ("crud get returns same id", true)] ∧
      s.server.items.rows = [⟨1, "demo-item", 42⟩, ⟨2, "lamp", 7⟩] ∧
      Run (Clients.step receiveItem) (fun t e => CrudUsers e ∧ Validates t e)
        (Clients.start CrudApi.initial) twoItems s := by
  refine ⟨_, ?checks, ?rows, (crudLoad_passed_iff ahead_initial (.next ?_ rfl (.next ?_ rfl
    (.next ?_ rfl (.next ?_ rfl (.next ?_ rfl (.next ?_ rfl (.next ?_ rfl
      (.done _))))))))).mp ?_⟩
  case checks => decide +kernel
  case rows => decide +kernel
  · exact ⟨_, rfl⟩
  · exact ⟨_, rfl⟩
  · trivial
  · trivial
  · trivial
  · trivial
  · trivial
  · unfold State.Passed
    decide +kernel

end Items

/-! ### The DB app -/

section Rows

open DbApi

variable {request : Option DbApi.Request} {records : Records}

/-- A row of a user: its id and its name. -/
abbrev OwnRow := Nat × String

def Named (records : Records) (row : OwnRow) : Prop :=
  ∃ r, records.table.find? row.1 = some r ∧ r.name = row.2

/-- The service has room for a request that needs a row. -/
def HasRow (records : Records) : Option DbApi.Request → Prop
  | some (.create _) => records.table.rows.length < maxTotalRows
  | some _ => True
  | none => False

theorem dense_receiveRecord (dense : records.Dense) : (receiveRecord request records).2.Dense := by
  rcases request with _ | request
  · exact dense
  · exact dense.handle request

/-- A new row has the next id. -/
theorem id_of_createdRecord {r : Record}
    (created : (receiveRecord request records).1 = .created r) : r.id = records.sequence + 1 := by
  rcases request with _ | request
  · cases created
  · rcases handle_cases request records with ⟨body, space, _, same⟩ | ⟨_, other, _⟩
    · rw [receiveRecord, same] at created
      cases created
      rfl
    · rw [receiveRecord] at created
      rw [created] at other
      cases other

/-- The ids of the rows have been given out. -/
theorem le_sequence {n : Nat} {r : Record} (stored : records.table.find? n = some r) :
    n ≤ records.sequence := by
  obtain ⟨mem, rfl⟩ := Table.find?_eq_some_iff.mp stored
  exact records.numbered r mem

/-- The request gives the row another name. -/
def Renames (request : Option DbApi.Request) (row : OwnRow) : Prop :=
  ∃ body name, request = some (.update row.1 body) ∧ body.name = some name ∧ name ≠ row.2

/-- A row keeps its name unless a request gives it another one. -/
theorem named_stays {row : OwnRow} (held : Named records row) (other : ¬ Renames request row) :
    Named (receiveRecord request records).2 row := by
  obtain ⟨r, stored, name⟩ := held
  rcases request with _ | request
  · exact ⟨r, stored, name⟩
  · cases request with
    | create body =>
        rcases createRecord_cases body records with ⟨_, _, same⟩ | ⟨new, _, unused, _, rows⟩
        · exact ⟨r, (congrArg (·.table.find? row.1) same).trans stored, name⟩
        · have different : row.1 ≠ new.id := by
            intro same
            rw [same, unused] at stored
            cases stored
          exact ⟨r, (rows row.1).trans ((if_neg different).trans stored), name⟩
    | update recordId body =>
        have kept : ((Request.update recordId body).handle records).2.table.find? row.1 =
            records.table.find? row.1 ∨
            ∃ r', ((Request.update recordId body).handle records).2.table.find? row.1 = some r' ∧
              r'.name = row.2 := by
          rw [Request.handle]
          split
          · exact .inl rfl
          · rcases withRow_cases recordId (fun n => (reply .record (updateRecord n body records).1,
              (updateRecord n body records).2)) records with ⟨error, same⟩ | ⟨n, rfl, same⟩
            · rw [same]
              exact .inl rfl
            · rw [same]
              rcases updateRecord_cases n body records with ⟨_, same⟩ | ⟨old, found, _, rows⟩
              · rw [same]
                exact .inl rfl
              · by_cases own : row.1 = n
                · refine .inr ⟨body.merge old, (rows row.1).trans (if_pos own), ?_⟩
                  rw [own, found] at stored
                  cases stored
                  subst own
                  rw [← name]
                  cases given : body.name with
                  | none => simp [RecordUpdate.merge, given]
                  | some new =>
                      by_contra renamed
                      refine other ⟨body, new, rfl, given, fun same => renamed ?_⟩
                      simp [RecordUpdate.merge, given, same, name]
                · exact .inl ((rows row.1).trans (if_neg own))
        rcases kept with kept | ⟨r', stored', name'⟩
        · exact ⟨r, kept.trans stored, name⟩
        · exact ⟨r', stored', name'⟩
    | get recordId =>
        have kept : ((Request.get recordId).handle records).2 = records := by
          rw [Request.handle]
          rcases withRow_cases recordId
            (fun n => (reply .record (getRecordOr404 n records), records)) records with
            ⟨error, same⟩ | ⟨n, _, same⟩ <;> rw [same]
        exact ⟨r, (congrArg (·.table.find? row.1) kept).trans stored, name⟩
    | list query =>
        have kept : ((Request.list query).handle records).2 = records := by
          rw [Request.handle]
          split <;> rfl
        exact ⟨r, (congrArg (·.table.find? row.1) kept).trans stored, name⟩
    | health => exact ⟨r, stored, name⟩

/-- Users of the DB app own the rows that they created. -/
def rowOwners : Discipline receiveRecord OwnRow OwnRow where
  inv := Records.Dense
  regular _ _ := True
  ready request records := HasRow records request
  holds := Named
  key := id
  touches := Renames
  grants reply row := ∃ r, reply = .created r ∧ (r.id, r.name) = row
  preserved dense _ := dense_receiveRecord dense
  frame _ _ held untouched := named_stays held untouched
  fresh := by
    rintro request records row _ _ ⟨r, stored, _⟩ ⟨new, created, same⟩
    have known := le_sequence stored
    have next := id_of_createdRecord created
    rw [show row.1 = new.id from congrArg Prod.fst same.symm] at known
    omega

theorem recordCreate?_name {name category status : String} {value : Python.Double}
    {body : RecordCreate} (valid : recordCreate? name category status value = some body) :
    body.name = name := by
  obtain ⟨n, _, valid⟩ := Option.bind_eq_some_iff.mp valid
  split at valid
  · cases valid
    rfl
  · cases valid

/-- Ids fit SQLite's integers: there are at most as many as rows. -/
theorem get_named (dense : records.Dense) {row : OwnRow} (held : Named records row) : ∃ r,
    receiveRecord (some (.get row.1)) records = (.record r, records) ∧ r.name = row.2 := by
  obtain ⟨r, stored, name⟩ := held
  refine ⟨r, ?_, name⟩
  have small : row.1 ≤ 500 := (le_sequence stored).trans (dense.2.trans_le records.capped)
  have inside : ¬ ((row.1 : Int) < -2 ^ 63 ∨ 2 ^ 63 ≤ (row.1 : Int)) := by omega
  have found : getRecordOr404 row.1 records = .ok r := by
    rw [getRecordOr404, stored]
  simp only [receiveRecord, Request.handle]
  unfold withRow
  rw [if_neg inside]
  exact congrArg (fun row => (reply .record row, records)) found

theorem sound_dbCrudFlow (env : Dict String) : rowOwners.Sound [] (dbCrudFlow env) := by
  rw [dbCrudFlow]
  cases body : recordCreate? (envText env "DB_RECORD_NAME" "smoke-record")
    (envText env "DB_RECORD_CATEGORY" "smoke") (envText env "DB_RECORD_STATUS" "ready")
    (envNumber env "DB_RECORD_VALUE" "17") with
  | none =>
      refine Discipline.Sound.ask [] (by simp [rowOwners, Renames]) (by simp) ?_
        (fun _ _ _ ready => absurd ready id)
      intro records _ _ _
      exact ⟨("db create status is 201", false), List.mem_cons_self, rfl⟩
  | some create =>
      refine Discipline.Sound.ask [] (by simp [rowOwners, Renames]) (by simp) ?_ ?_
      · intro records _ _ full
        refine ⟨("db create status is 201", false), ?_, rfl⟩
        simp only [Option.map_some, receiveRecord, Request.handle,
          createRecord_of_le create (Nat.not_lt.mp full)]
        exact List.mem_cons_self
      · intro records _ _ space
        have created : receiveRecord (some (.create create)) records = (.created
            ⟨records.sequence + 1, create.name, create.category, create.value, create.status⟩,
            records.insert create space) := by
          simp only [receiveRecord, Request.handle, createRecord_of_lt create space, reply]
        have row := (find?_insert create space (records.sequence + 1)).trans (if_pos rfl)
        refine ⟨[(records.sequence + 1, create.name)], _, _, created, ?_, rfl, ?_, ?_⟩
        · intro own mem
          rw [List.mem_singleton.mp mem]
          exact ⟨⟨_, row, rfl⟩, .inr ⟨_, rfl, rfl⟩⟩
        · simp [recordId?]
        · refine Discipline.Sound.ask [_] (by simp [rowOwners, Renames, recordId?]) (by simp)
            (fun _ _ _ unready => absurd trivial unready) ?_
          intro records' dense holds _
          obtain ⟨r, fetched, name⟩ := get_named dense (holds _ (List.mem_singleton.mpr rfl))
          refine ⟨[], _, _, fetched, by simp, rfl, ?_, trivial⟩
          refine decide_eq_true ?_
          rw [recordName?, name, recordCreate?_name body]

/-- Users of the DB app run its script, each in an environment of its own, and no other
request gives a row of theirs another name. -/
def DbUsers (t : State Records (Option DbApi.Request) DbApi.Reply) :
    Event (Option DbApi.Request) DbApi.Reply → Prop
  | .arrive script => ∃ env, script = dbCrudFlow env
  | .serve _ => True
  | .other request => ∀ r, .created r ∈ t.replies → ¬ Renames request (r.id, r.name)

/-- The request of a user validates, and the table has room for it. -/
def FindsRoom (t : State Records (Option DbApi.Request) DbApi.Reply) :
    Event (Option DbApi.Request) DbApi.Reply → Prop
  | .serve client => ∀ request next, t.clients[client]? = some (.ask request next) →
      HasRow t.server request
  | _ => True

/-- Any number of users of the DB app, in any environments and any interleaving with
requests that give no row of theirs another name: all checks pass exactly if every creation of a
user validates and finds fewer than `MAX_TOTAL_ROWS` rows. -/
theorem dbLoad_passed_iff {server : Records} (dense : server.Dense)
    {es : List (Event (Option DbApi.Request) DbApi.Reply)}
    {s : State Records (Option DbApi.Request) DbApi.Reply}
    (run : Run (Clients.step receiveRecord) DbUsers (Clients.start server) es s) :
    s.Passed ↔ Run (Clients.step receiveRecord) (fun t e => DbUsers t e ∧ FindsRoom t e)
      (Clients.start server) es s := by
  have admits (t : State Records (Option DbApi.Request) DbApi.Reply)
      (e : Event (Option DbApi.Request) DbApi.Reply) :
      rowOwners.Admits (fun script => ∃ env, script = dbCrudFlow env) t e ↔ DbUsers t e := by
    cases e with
    | arrive script => exact Iff.rfl
    | serve client => exact iff_of_true (fun _ _ _ => trivial) trivial
    | other request =>
        constructor
        · rintro ⟨_, foreign⟩ r mem
          exact foreign _ mem _ ⟨r, rfl, rfl⟩
        · intro foreign
          refine ⟨trivial, ?_⟩
          rintro _ mem _ ⟨r, rfl, rfl⟩
          exact foreign r mem
  have ready (t : State Records (Option DbApi.Request) DbApi.Reply)
      (e : Event (Option DbApi.Request) DbApi.Reply) :
      rowOwners.Ready t e ↔ FindsRoom t e := by
    cases e <;> exact Iff.rfl
  have sound : ∀ script, (∃ env, script = dbCrudFlow env) → rowOwners.Sound [] script := by
    rintro _ ⟨env, rfl⟩
    exact sound_dbCrudFlow env
  rw [rowOwners.passed_iff sound dense (run.mono fun t e users => (admits t e).mpr users)]
  simp only [admits, ready]

/-- Two users of the DB app, with an update of another field of the first one's row
between them. -/
def twoRecords : List (Event (Option DbApi.Request) DbApi.Reply) :=
  [.arrive (dbCrudFlow Table.empty),
    .arrive (dbCrudFlow (Dict.ofItems [("DB_RECORD_NAME", "zeta")])), .serve 0, .serve 1,
    .other (some (.update 6 { value := some 18, bounds := by decide })), .serve 1, .serve 0]

theorem dbLoad_passed_twoRecords : ∃ s : State Records (Option DbApi.Request) DbApi.Reply,
    s.checks = [("db create status is 201", true), ("db create returns id", true),
      ("db create status is 201", true), ("db create returns id", true),
      ("db fetch status is 200", true), ("db fetch returns created name", true),
      ("db fetch status is 200", true), ("db fetch returns created name", true)] ∧
    Run (Clients.step receiveRecord) (fun t e => DbUsers t e ∧ FindsRoom t e)
      (Clients.start seeded) twoRecords s := by
  refine ⟨_, ?checks, (dbLoad_passed_iff seeded_dense (.next ?_ rfl (.next ?_ rfl (.next ?_ rfl
    (.next ?_ rfl (.next ?_ rfl (.next ?_ rfl (.next ?_ rfl (.done _))))))))).mp ?_⟩
  case checks => decide +kernel
  · exact ⟨_, rfl⟩
  · exact ⟨_, rfl⟩
  · trivial
  · trivial
  · rintro r _ ⟨body, name, same, named, _⟩
    have isBody := (Request.update.inj (Option.some.inj same)).2
    rw [← isBody] at named
    cases named
  · trivial
  · trivial
  · unfold State.Passed
    decide +kernel

end Rows

end PLoadtesting.Load
