import PLoadtesting.ControlPlane.TaskViews

/-!
What a create request leaves in the database.

`create` inserts the row before the shard plan is built, and the plan is built
from whatever the stored parameters hold under `distribution`. A request with a
free-form value there that is no shard list fails after the INSERT
(`Validated.planBuildable_iff`).

Every result about a creation goes through its outcomes (`createServed_cases`).
-/

namespace PLoadtesting.ControlPlane

open Keyed Python

/-- The database after the INSERT of a new task. -/
def Database.insertTask (db : Database) (task : LoadTestTask) : Database :=
  { db with tasks := db.tasks.upsert task }

/-- A save that follows the INSERT of the same task is an INSERT of the saved
row. -/
theorem insertTask_saveParameters {db : Database} {task : LoadTestTask} {parameters : Json}
    {now : Timestamp} : (db.insertTask task).saveParameters task.id parameters now =
      db.insertTask { task with parameters, updatedAt := now } := by
  simp only [Database.insertTask, Database.saveParameters, Database.updateTask, Table.modify_upsert]

/-- The parameters that `create` leaves: with the plan, if one has to be built
and can be. -/
def ValidatedData.storedParameters (data : ValidatedData) (id : TaskId) : Dict Json :=
  if data.storedDistribution.truthy then
    match data.plan id with
    | .ok plan => data.parameters.set "shard_execution_plan" plan
    | .error _ => data.parameters
  else data.parameters

/-- The row that `create` leaves. -/
def storedTask (data : ValidatedData) (id : TaskId) (now : Timestamp) : LoadTestTask :=
  { newTask data id now with parameters := dictJson (data.storedParameters id) }

/-- A plan is not asked for or can be built. -/
def ValidatedData.Planned (data : ValidatedData) (id : TaskId) : Prop :=
  data.storedDistribution.truthy = false ∨ ∃ plan, data.plan id = .ok plan

/-- The outcomes of `create`. -/
inductive CreateCase (db : Database) (data : ValidatedData) (id : TaskId) (now : Timestamp) :
    Except Exc LoadTestTask × Database → Prop where
  | refused (e : Exc) (taken : db.tasks.find? id ≠ none) : CreateCase db data id now (.error e, db)
  | unplanned (e : Exc) (fresh : db.tasks.find? id = none) (unplanned : ¬ data.Planned id) :
      CreateCase db data id now (.error e, db.insertTask (storedTask data id now))
  | stored (fresh : db.tasks.find? id = none) (planned : data.Planned id) :
      CreateCase db data id now
        (.ok (storedTask data id now), db.insertTask (storedTask data id now))

/-- Without a plan the row stays as it was inserted. -/
theorem storedTask_of_unplanned {data : ValidatedData} {id : TaskId} {now : Timestamp}
    (h : data.storedDistribution.truthy = true → ∀ plan, data.plan id ≠ .ok plan) :
    storedTask data id now = newTask data id now := by
  have kept : data.storedParameters id = data.parameters := by
    unfold ValidatedData.storedParameters
    split
    · rename_i truthy
      cases builds : data.plan id with
      | error e => rfl
      | ok plan => exact absurd builds (h truthy plan)
    · rfl
  rw [storedTask, kept, newTask]

theorem storedTask_of_planned {data : ValidatedData} {id : TaskId} {plan : Json} (now : Timestamp)
    (truthy : data.storedDistribution.truthy = true) (builds : data.plan id = .ok plan) :
    storedTask data id now = { newTask data id now with
      parameters := dictJson (data.parameters.set "shard_execution_plan" plan)
      updatedAt := now } := by
  simp [storedTask, ValidatedData.storedParameters, truthy, builds, newTask]

theorem create_cases (db : Database) (data : ValidatedData) (id : TaskId) (now : Timestamp) :
    CreateCase db data id now (create db data id now) := by
  unfold create
  cases inserted : db.tasks.insert? (newTask data id now) with
  | none =>
      simp only [inserted]
      refine .refused _ ?_
      intro fresh
      have inserts := Table.insert?_eq_some_iff.mpr
        (show db.tasks.find? (newTask data id now).id = none ∧ _ from ⟨fresh, rfl⟩)
      rw [inserted] at inserts
      cases inserts
  | some tasks =>
      simp only [inserted]
      obtain ⟨fresh, rfl⟩ := Table.insert?_eq_some_iff.mp inserted
      cases truthy : data.storedDistribution.truthy with
      | false =>
          have row : storedTask data id now = newTask data id now :=
            storedTask_of_unplanned (by simp [truthy])
          have outcome : CreateCase db data id now _ := .stored fresh (.inl truthy)
          rwa [row] at outcome
      | true =>
          cases builds : data.plan id with
          | error e =>
              have row : storedTask data id now = newTask data id now :=
                storedTask_of_unplanned (by simp [builds])
              have outcome : CreateCase db data id now _ :=
                .unplanned e fresh (by simp [ValidatedData.Planned, truthy, builds])
              rwa [row] at outcome
          | ok plan =>
              have row := storedTask_of_planned now truthy builds
              have outcome : CreateCase db data id now _ := .stored fresh (.inr ⟨plan, builds⟩)
              rw [row, ← insertTask_saveParameters] at outcome
              exact outcome

/-! ### Free-form keys -/

section FreeForm

variable [Runtime]

/-- The request's template, if it names one. -/
def templateOf (catalog : Catalog) (attrs : Attrs) : Option TaskTemplate :=
  match requestedTemplate catalog attrs with
  | .ok template => template
  | .error _ => none

/-- The free-form value of a parameter: the request's own, else the
template's. -/
def Attrs.free? (catalog : Catalog) (attrs : Attrs) (k : String) : Option Json :=
  (attrs.own? k).or ((templateOf catalog attrs).bind (·.parameters.get? k))

/-- The request has a distribution of its own. -/
def Attrs.distributes (attrs : Attrs) : Prop := attrs.distribution.getD .null ≠ .null

/-- The fields read the body as `attrs`, and `validate` turns that into `data`. -/
structure Accepts (deployment : Deployment) (body : Json) (attrs : Attrs) (data : ValidatedData) :
    Prop where
  read : deployment.fields.toInternalValue body = .ok attrs
  validated : validate deployment.catalog attrs = .ok data

/-- A body is accepted in one way only. -/
theorem Accepts.unique {deployment : Deployment} {body : Json} {attrs attrs' : Attrs}
    {data data' : ValidatedData} (accepts : Accepts deployment body attrs data)
    (accepts' : Accepts deployment body attrs' data') : attrs' = attrs ∧ data' = data := by
  cases accepts.read.symm.trans accepts'.read
  cases accepts.validated.symm.trans accepts'.validated
  exact ⟨rfl, rfl⟩

/-- The body is accepted by the fields as `attrs`, and `attrs` by `validate`. -/
def PassesValidation (deployment : Deployment) (body : Json) (attrs : Attrs) : Prop :=
  ∃ data, Accepts deployment body attrs data

variable {catalog : Catalog} {attrs : Attrs} {data : ValidatedData}
  {template : Option TaskTemplate} {execution : Option (Dict Json)} {distribution : Option Json}

theorem Validated.templateOf_eq
    (v : Validated catalog attrs data template execution distribution) :
    templateOf catalog attrs = template := by
  simp [templateOf, v.template_eq]

theorem Validated.distributes_iff
    (v : Validated catalog attrs data template execution distribution) :
    attrs.distributes ↔ distribution ≠ none := by
  rw [Attrs.distributes, ne_eq, ← validateDistribution_none_iff, v.distribution_eq, ne_eq,
    Except.ok.injEq]

/-- The stored distribution is what the request distributes, which a plan can be
built from, or the free-form value. -/
theorem Validated.planShaped_or_free
    (v : Validated catalog attrs data template execution distribution) :
    (attrs.distributes ∧ PlanShaped data.storedDistribution) ∨
      (¬ attrs.distributes ∧
        data.storedDistribution = (attrs.free? catalog "distribution").getD .null) := by
  rw [v.distributes_iff, ValidatedData.storedDistribution, v.get?_distribution, Attrs.free?,
    v.templateOf_eq]
  cases distribution with
  | none => exact .inr ⟨fun h => h rfl, rfl⟩
  | some validated =>
      exact .inl ⟨Option.some_ne_none _, validateDistribution_planShaped v.distribution_eq⟩

theorem accepts_of_validatedData {deployment : Deployment} {body : Json}
    (h : validatedData deployment.fields deployment.catalog body = .ok data) :
    ∃ attrs, Accepts deployment body attrs data := by
  obtain ⟨attrs, read, validated⟩ := bind_ok_iff.mp h
  exact ⟨attrs, read, validated⟩

/-! ### The outcomes of a creation -/

/-- The outcomes of a creation that is served. -/
inductive ServedCase (deployment : Deployment) (demoCreate : Bool) (db : Database) (body : Json)
    (occasion : Occasion) : CreateResponse × Database → Prop where
  | invalid {response : CreateResponse} (notCreated : response.isCreated = false)
      (invalid : ∀ attrs, ¬ PassesValidation deployment body attrs) :
      ServedCase deployment demoCreate db body occasion (response, db)
  | denied {response : CreateResponse} {attrs : Attrs} {data : ValidatedData}
      (notCreated : response.isCreated = false) (accepts : Accepts deployment body attrs data)
      (demo : demoCreate = true)
      (notSafe : validatedDemoDataIsSafe deployment.catalog data ≠ .ok true) :
      ServedCase deployment demoCreate db body occasion (response, db)
  | taken (e : Exc) (taken : db.tasks.find? occasion.id ≠ none) :
      ServedCase deployment demoCreate db body occasion (.serverError e, db)
  | unplanned {attrs : Attrs} {data : ValidatedData} (e : Exc)
      (accepts : Accepts deployment body attrs data) (fresh : db.tasks.find? occasion.id = none)
      (unplanned : ¬ data.Planned occasion.id)
      (safe : demoCreate = true → validatedDemoDataIsSafe deployment.catalog data = .ok true) :
      ServedCase deployment demoCreate db body occasion
        (.serverError e, db.insertTask (storedTask data occasion.id occasion.now))
  | stored {attrs : Attrs} {data : ValidatedData} (accepts : Accepts deployment body attrs data)
      (fresh : db.tasks.find? occasion.id = none) (planned : data.Planned occasion.id)
      (shared : demoCreate = false) :
      ServedCase deployment demoCreate db body occasion
        (.created occasion.id, db.insertTask (storedTask data occasion.id occasion.now))
  | demo {attrs : Attrs} {data : ValidatedData} (accepts : Accepts deployment body attrs data)
      (fresh : db.tasks.find? occasion.id = none) (planned : data.Planned occasion.id)
      (demo : demoCreate = true)
      (safe : validatedDemoDataIsSafe deployment.catalog data = .ok true) :
      ServedCase deployment demoCreate db body occasion
        (finishDemoCreate (db.insertTask (storedTask data occasion.id occasion.now))
          (storedTask data occasion.id occasion.now) occasion)

theorem servedCase_create {deployment : Deployment} {demoCreate : Bool} {body : Json}
    {occasion : Occasion} {attrs : Attrs} {data : ValidatedData} (db : Database)
    (accepts : Accepts deployment body attrs data)
    (safe : demoCreate = true → validatedDemoDataIsSafe deployment.catalog data = .ok true) :
    ServedCase deployment demoCreate db body occasion
      (match create db data occasion.id occasion.now with
        | (.error e, db) => (.serverError e, db)
        | (.ok task, db) =>
            if demoCreate then finishDemoCreate db task occasion else (.created task.id, db)) := by
  have outcome := create_cases db data occasion.id occasion.now
  generalize create db data occasion.id occasion.now = result at outcome
  cases outcome with
  | refused e taken => exact .taken e taken
  | unplanned e fresh unplanned => exact .unplanned e accepts fresh unplanned safe
  | stored fresh planned =>
      cases demoCreate with
      | true => exact .demo accepts fresh planned rfl (safe rfl)
      | false => exact .stored accepts fresh planned rfl

theorem createServed_cases (deployment : Deployment) (demoCreate : Bool) (db : Database)
    (body : Json) (occasion : Occasion) :
    ServedCase deployment demoCreate db body occasion
      (createServed deployment demoCreate db body occasion) := by
  unfold createServed
  cases validated : validatedData deployment.fields deployment.catalog body with
  | error e =>
      refine .invalid (by cases e <;> rfl) ?_
      rintro attrs ⟨data, read, accepted⟩
      rw [validatedData, read] at validated
      cases accepted.symm.trans validated
  | ok data =>
      obtain ⟨attrs, accepts⟩ := accepts_of_validatedData validated
      dsimp only
      cases demoCreate with
      | false => exact servedCase_create db accepts fun demo => absurd demo Bool.false_ne_true
      | true =>
          rw [if_pos rfl]
          cases checked : validatedDemoDataIsSafe deployment.catalog data with
          | error e => exact .denied rfl accepts rfl (by simp [checked])
          | ok safe =>
              cases safe with
              | false => exact .denied rfl accepts rfl (by simp [checked])
              | true => exact servedCase_create db accepts fun _ => checked

/-- The row after `_mark_demo_task`. -/
def markedTask (task : LoadTestTask) (now : Timestamp) : LoadTestTask :=
  { task with
    parameters := dictJson
      (task.parameters.dictOrEmpty.set "task_operation_mode" (.str demoTaskOperationMode))
    updatedAt := now }

omit [Runtime] in
/-- Marking a task that was just inserted is inserting the marked row. -/
theorem markDemoTask_insertTask {db : Database} {task : LoadTestTask} {now : Timestamp} :
    markDemoTask (db.insertTask task) task now = db.insertTask (markedTask task now) :=
  insertTask_saveParameters

/-- A demo creation ends with the attempt to dispatch the marked task. -/
theorem finishDemoCreate_snd (db : Database) (task : LoadTestTask) (occasion : Occasion) :
    (finishDemoCreate (db.insertTask task) task occasion).2 =
      (dispatchTaskOnce (db.insertTask (markedTask task occasion.now)) task.id occasion.delivery
        occasion.now).2 := by
  simp only [finishDemoCreate, markDemoTask_insertTask]
  split
  · rename_i dispatched
    rw [dispatched]
  · rename_i dispatched
    rw [dispatched]

end FreeForm

/-- A deployment with a token and an empty catalog. -/
def tokenDeployment : Deployment where
  settings := ⟨"secret", false⟩
  catalog := Table.empty
  fields := @plainFields asciiRuntime

def tokenHeaders : Headers := ⟨"secret", ""⟩

/-- A k6 task with the given free-form parameters. -/
def k6Body (parameters : List (String × Json)) : Json :=
  .obj [("name", .str "smoke"), ("engine", .str "k6"), ("script_path", .str "engines/k6/smoke.js"),
    ("target_url", .str "http://echo-api:8000"), ("parameters", .obj parameters)]

def emptyDatabase : Database := ⟨Table.empty, Table.empty, Table.empty⟩

def firstOccasion : Occasion := ⟨"t", 0, fun _ => .answered⟩

end PLoadtesting.ControlPlane
