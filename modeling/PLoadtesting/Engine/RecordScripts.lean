import PLoadtesting.Engine.AuthScripts
import PLoadtesting.TargetApps.Crud
import PLoadtesting.TargetApps.RecordRequests

/-!
The k6 scripts that create a row and read it back: `target_apps_crud_flow.js` and
`target_apps_db_crud_flow.js`.

As in the scripts for the auth-flow app, a request is `none` when FastAPI answers it
without running the endpoint.
-/

namespace PLoadtesting.Engine

open Keyed Python Clients TargetApps

/-! ### `target_apps_crud_flow.js` -/

/-- A body of `create_item` when it validates. -/
def itemCreate? (name : String) (value : Double) : Option CrudApi.ItemCreate := do
  let value ← integer? value
  if bounds : (lengthBetween 1 128 name && between 0 1000000 value) = true then
    some { name, value, bounds }
  else none

def receiveItem (request : Option CrudApi.Request) (s : CrudApi.Store) :
    CrudApi.Reply × CrudApi.Store :=
  match request with
  | none => (.refused ⟨422, "Unprocessable Entity"⟩, s)
  | some request => request.handle s

/-- `r.json('id')`. -/
def itemId? : CrudApi.Reply → Option Nat
  | .created item | .item item => some item.id
  | _ => none

def crudFlow (env : Dict String) : Script (Option CrudApi.Request) CrudApi.Reply :=
  let name := envText env "ITEM_NAME" "demo-item"
  let value := envNumber env "ITEM_VALUE" "42"
  .ask ((itemCreate? name value).map .createItem) fun created =>
  .check "crud create returns 201" (created.statusCode = 201) <|
  .ask ((itemId? created).map fun itemId => .getItem itemId) fun fetched =>
  .check "crud get returns 200" (fetched.statusCode = 200) <|
  .check "crud get returns same id" (itemId? fetched = itemId? created)
  .done

/-! ### `target_apps_db_crud_flow.js` -/

/-- A body of `create_record` when it validates. -/
def recordCreate? (name category status : String) (value : Double) :
    Option DbApi.RecordCreate := do
  let value ← integer? value
  if bounds : DbApi.Record.withinBounds ⟨0, name, category, value, status⟩ = true then
    some { name, category, value, status, bounds }
  else none

def receiveRecord (request : Option DbApi.Request) (records : DbApi.Records) :
    DbApi.Reply × DbApi.Records :=
  match request with
  | none => (DbApi.unprocessable, records)
  | some request => request.handle records

/-- `r.json('id')`. -/
def recordId? : DbApi.Reply → Option Nat
  | .created record | .record record => some record.id
  | _ => none

/-- `r.json('name')`. -/
def recordName? : DbApi.Reply → Option String
  | .created record | .record record => some record.name
  | _ => none

def dbCrudFlow (env : Dict String) : Script (Option DbApi.Request) DbApi.Reply :=
  let name := envText env "DB_RECORD_NAME" "smoke-record"
  let category := envText env "DB_RECORD_CATEGORY" "smoke"
  let status := envText env "DB_RECORD_STATUS" "ready"
  let value := envNumber env "DB_RECORD_VALUE" "17"
  .ask ((recordCreate? name category status value).map .create) fun created =>
  .check "db create status is 201" (created.statusCode = 201) <|
  .check "db create returns id" ((recordId? created).any fun id => 0 < id) <|
  .ask ((recordId? created).map fun recordId => .get recordId) fun fetched =>
  .check "db fetch status is 200" (fetched.statusCode = 200) <|
  .check "db fetch returns created name" (recordName? fetched = some name)
  .done

end PLoadtesting.Engine
