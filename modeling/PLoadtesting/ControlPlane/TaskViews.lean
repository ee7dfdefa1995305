import PLoadtesting.ControlPlane.Serializers
import PLoadtesting.ControlPlane.Dispatch
import PLoadtesting.ControlPlane.Permissions

/-!
`POST /api/tasks/` (`apps/tasks/views.py`): creation with the shared token, and
the demo creation that needs none.

A demo request passes three checks, on the raw payload, on the validated data
and, when it is read back, on the stored task. They are separate definitions, as
in the source.
-/

namespace PLoadtesting.ControlPlane

open Keyed Python

def demoTaskOperationMode : String := "deployment_smoke"

def safeDemoTargetAppId : String := "echo-api"

def safeDemoProfileIds : List String := ["echo-k6-smoke", "echo-jmeter-smoke"]

def allowedDemoCreateFields : List String :=
  ["target_app_id", "target_profile_id", "name", "created_by"]

def maxDemoDurationSeconds : Int := 30

def maxDemoRunSeconds : Int := 60

/-! ### The demo checks -/

/-- `_is_safe_demo_profile`. The second test is not made when the first fails. -/
def isSafeDemoProfile (targetAppId targetProfileId : Json) : Except Exc Bool :=
  if targetAppId.eqStr safeDemoTargetAppId then targetProfileId.inSet safeDemoProfileIds
  else .ok false

/-- `_demo_create_payload_allowed`. -/
def demoCreatePayloadAllowed (data : Json) : Except Exc Bool :=
  match data.asDict? with
  | none => .ok false
  | some data =>
      if data.rows.isEmpty || data.rows.any (fun p => !allowedDemoCreateFields.contains p.1) then
        .ok false
      else
        isSafeDemoProfile ((data.get? "target_app_id").getD .null)
          ((data.get? "target_profile_id").getD .null)

/-- `_execution_within_demo_bounds`. -/
def executionWithinDemoBounds (execution : Dict Json) : Except Exc Bool := do
  match ← ((execution.get? "duration_seconds").getD .null).caughtInt with
  | none => return false
  | some durationSeconds =>
      match ← ((execution.get? "max_run_seconds").getD .null).caughtInt with
      | none => return false
      | some maxRunSeconds =>
          return decide (durationSeconds ≤ maxDemoDurationSeconds)
            && decide (maxRunSeconds ≤ maxDemoRunSeconds)

/-- The comparison with the template that ends both later checks: the target,
the script and the engine are the template's, and the execution is bounded. -/
def matchesDemoTemplate [Runtime] (catalog : Catalog) (targetAppId targetProfileId : String)
    (targetUrl scriptPath engine : String) (parameters : Dict Json) : Except Exc Bool :=
  match getTaskTemplate catalog targetAppId targetProfileId with
  | .error _ => .ok false
  | .ok template =>
      if targetUrl = template.targetUrl ∧ scriptPath = template.scriptPath ∧
          engine = template.engine then
        executionWithinDemoBounds ((parameters.get? "execution").getD .null).dictOrEmpty
      else .ok false

/-- `_validated_demo_data_is_safe`. -/
def validatedDemoDataIsSafe [Runtime] (catalog : Catalog) (data : ValidatedData) :
    Except Exc Bool := do
  if ← isSafeDemoProfile (optionalStr data.targetAppId) (optionalStr data.targetProfileId) then
    matchesDemoTemplate catalog (data.targetAppId.getD "") (data.targetProfileId.getD "")
      data.targetUrl data.scriptPath data.engine data.parameters
  else return false

/-- The text of a value that is known to be a string. -/
def textOf : Json → String
  | .str s => s
  | _ => ""

/-- `_is_safe_demo_task`. -/
def isSafeDemoTask [Runtime] (catalog : Catalog) (task : LoadTestTask) : Except Exc Bool := do
  let parameters := task.parameters.dictOrEmpty
  if ((parameters.get? "task_operation_mode").getD .null).eqStr demoTaskOperationMode then
    let targetAppId := (parameters.get? "target_app_id").getD .null
    let targetProfileId := (parameters.get? "target_profile_id").getD .null
    if ← isSafeDemoProfile targetAppId targetProfileId then
      matchesDemoTemplate catalog (textOf targetAppId) (textOf targetProfileId) task.targetUrl
        task.scriptPath task.engine parameters
    else return false
  else return false

/-- `_mark_demo_task`, on the task that `create` returned. -/
def markDemoTask (db : Database) (task : LoadTestTask) (now : Timestamp) : Database :=
  let parameters :=
    task.parameters.dictOrEmpty.set "task_operation_mode" (.str demoTaskOperationMode)
  db.saveParameters task.id (dictJson parameters) now

/-! ### The endpoint -/

/-- What the endpoint reads besides the request and the database. -/
structure Deployment where
  settings : Settings
  catalog : Catalog
  fields : FieldLayer

/-- The part of a request that the world contributes: the new id, the clock and
the fate of a demo task's delivery. -/
structure Occasion where
  id : TaskId
  now : Timestamp
  delivery : WorkerNode → Delivery

/-- The answers of the endpoint. -/
inductive CreateResponse where
  | created (task : TaskId)
  | badRequest (detail : Json)
  | accessDenied
  | serverError (e : Exc)

/-- HTTP 201. -/
def CreateResponse.isCreated : CreateResponse → Bool
  | .created _ => true
  | _ => false

/-- An exception of the serializer: a validation error is a client error. -/
def CreateResponse.ofExc : Exc → CreateResponse
  | .validationError detail => .badRequest detail
  | e => .serverError e

/-- What follows the creation of a demo task: it is marked and dispatched once. -/
def finishDemoCreate [Runtime] (db : Database) (task : LoadTestTask) (occasion : Occasion) :
    CreateResponse × Database :=
  let db := markDemoTask db task occasion.now
  match dispatchTaskOnce db task.id occasion.delivery occasion.now with
  | (.error e, db) => (.serverError e, db)
  | (.ok _, db) => (.created task.id, db)

/-- The creation of a task whose request may be served, as a demo or not. -/
def createServed [Runtime] (deployment : Deployment) (demoCreate : Bool) (db : Database)
    (body : Json) (occasion : Occasion) : CreateResponse × Database :=
  match validatedData deployment.fields deployment.catalog body with
  | .error e => (.ofExc e, db)
  | .ok data =>
      match (if demoCreate then validatedDemoDataIsSafe deployment.catalog data else .ok true) with
      | .error e => (.serverError e, db)
      | .ok false => (.accessDenied, db)
      | .ok true =>
          match create db data occasion.id occasion.now with
          | (.error e, db) => (.serverError e, db)
          | (.ok task, db) =>
              if demoCreate then finishDemoCreate db task occasion else (.created task.id, db)

/-- `TaskListCreateView.create`. -/
def createTask [Runtime] (deployment : Deployment) (headers : Headers) (db : Database)
    (body : Json) (occasion : Occasion) : CreateResponse × Database :=
  if hasSharedApiToken deployment.settings headers then
    createServed deployment false db body occasion
  else if deployment.settings.enableDemoTaskApi then
    match demoCreatePayloadAllowed body with
    | .error e => (.serverError e, db)
    | .ok false => (.accessDenied, db)
    | .ok true => createServed deployment true db body occasion
  else (.accessDenied, db)

end PLoadtesting.ControlPlane
