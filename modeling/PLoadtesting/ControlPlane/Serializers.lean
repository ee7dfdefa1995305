import PLoadtesting.ControlPlane.Models
import PLoadtesting.ControlPlane.Execution
import PLoadtesting.ControlPlane.Distribution
import PLoadtesting.ControlPlane.TemplateRegistry

/-!
Task creation (`apps/tasks/serializers.py`): `validate` merges the catalog
template, the request and the execution defaults into the data of one row, and
`create` stores it.

`create` writes twice and outside a transaction: the row is inserted first, and
the shard plan is built from the stored parameters and saved afterwards. A
failure of the plan builder therefore comes back together with the database that
already holds the row.

The conversion of a request body into `Attrs` is the work of the field classes
of Django REST framework. It is the parameter `FieldLayer`, with the one
property that the code relies on.
-/

namespace PLoadtesting.ControlPlane

open Keyed Python

/-- The converted fields of a create request; a field that is left out is
`none`. -/
structure Attrs where
  name : Option String
  engine : Option String
  scriptPath : Option String
  parameters : Option Json
  targetUrl : Option String
  scheduledAt : Option (Option Timestamp)
  createdBy : Option String
  targetAppId : Option String
  targetProfileId : Option String
  execution : Option Json
  distribution : Option Json

/-- Whether a field is given, by its name. -/
def Attrs.given (attrs : Attrs) : String → Bool
  | "name" => attrs.name.isSome
  | "engine" => attrs.engine.isSome
  | "script_path" => attrs.scriptPath.isSome
  | "parameters" => attrs.parameters.isSome
  | "target_url" => attrs.targetUrl.isSome
  | "scheduled_at" => attrs.scheduledAt.isSome
  | "created_by" => attrs.createdBy.isSome
  | "target_app_id" => attrs.targetAppId.isSome
  | "target_profile_id" => attrs.targetProfileId.isSome
  | "execution" => attrs.execution.isSome
  | "distribution" => attrs.distribution.isSome
  | _ => false

/-- The field classes of the create serializer. Every field is declared with
`required=False` and without a default: what the body leaves out stays out. -/
structure FieldLayer where
  toInternalValue : Json → Except Exc Attrs
  given_mem : ∀ body attrs, toInternalValue body = .ok attrs →
    ∀ field, attrs.given field = true → body.dictOrEmpty.contains field = true

/-! ### A field layer

The field classes written out, but for `scheduled_at`, of which only null is
read. -/

section PlainFields

variable [Runtime]

/-- `{field: message}`. -/
def fieldError (field message : String) : Exc := .validationError (.obj [(field, .str message)])

/-- A `CharField`: text and numbers are taken, and trimmed. -/
def charField (field : String) (maxLength : Option Nat) (allowBlank : Bool) (value : Json) :
    Except Exc String := do
  require (value matches .str _ | .int _ | .float _) (fieldError field "Not a valid string.")
  let text := strip value.toStr
  require (allowBlank || text ≠ "") (fieldError field "This field may not be blank.")
  require (maxLength.all fun most => decide (text.length ≤ most))
    (fieldError field "Ensure this field has no more characters.")
  return text

/-- The `ChoiceField` of the engines. -/
def engineField (value : Json) : Except Exc String := do
  require (["k6", "jmeter", "loadrunner"].contains value.toStr)
    (fieldError "engine" "Not a valid choice.")
  return value.toStr

/-- A `JSONField` that is not nullable. -/
def jsonField (field : String) : Json → Except Exc Json
  | .null => .error (fieldError field "This field may not be null.")
  | value => .ok value

/-- The `DateTimeField`, which is nullable. -/
def dateTimeField (field : String) : Json → Except Exc (Option Timestamp)
  | .null => .ok none
  | _ => .error (fieldError field "Datetime has wrong format.")

omit [Runtime] in
/-- A field with `required=False`. -/
def optionalField {α : Type} (data : Dict Json) (field : String) (read : Json → Except Exc α) :
    Except Exc (Option α) :=
  match data.get? field with
  | none => .ok none
  | some value => (read value).map some

def readFields (data : Dict Json) : Except Exc Attrs := do
  let name ← optionalField data "name" (charField "name" (some 256) false)
  let engine ← optionalField data "engine" engineField
  let scriptPath ← optionalField data "script_path" (charField "script_path" (some 512) false)
  let parameters ← optionalField data "parameters" (jsonField "parameters")
  let targetUrl ← optionalField data "target_url" (charField "target_url" (some 512) false)
  let scheduledAt ← optionalField data "scheduled_at" (dateTimeField "scheduled_at")
  let createdBy ← optionalField data "created_by" (charField "created_by" (some 128) true)
  let targetAppId ← optionalField data "target_app_id" (charField "target_app_id" none false)
  let targetProfileId ←
    optionalField data "target_profile_id" (charField "target_profile_id" none false)
  let execution ← optionalField data "execution" (jsonField "execution")
  let distribution ← optionalField data "distribution" (jsonField "distribution")
  return ⟨name, engine, scriptPath, parameters, targetUrl, scheduledAt, createdBy, targetAppId,
    targetProfileId, execution, distribution⟩

omit [Runtime] in
theorem contains_of_optionalField {α : Type} {data : Dict Json} {field : String}
    {read : Json → Except Exc α} {x : Option α} (h : optionalField data field read = .ok x)
    (given : x.isSome = true) : data.contains field = true := by
  unfold optionalField at h
  unfold Dict.contains
  cases found : data.get? field with
  | none =>
      rw [found] at h
      cases h
      cases given
  | some value => rfl

theorem readFields_given {data : Dict Json} {attrs : Attrs} (h : readFields data = .ok attrs)
    (field : String) (given : attrs.given field = true) : data.contains field = true := by
  obtain ⟨_, name, h⟩ := bind_ok_iff.mp h
  obtain ⟨_, engine, h⟩ := bind_ok_iff.mp h
  obtain ⟨_, scriptPath, h⟩ := bind_ok_iff.mp h
  obtain ⟨_, parameters, h⟩ := bind_ok_iff.mp h
  obtain ⟨_, targetUrl, h⟩ := bind_ok_iff.mp h
  obtain ⟨_, scheduledAt, h⟩ := bind_ok_iff.mp h
  obtain ⟨_, createdBy, h⟩ := bind_ok_iff.mp h
  obtain ⟨_, targetAppId, h⟩ := bind_ok_iff.mp h
  obtain ⟨_, targetProfileId, h⟩ := bind_ok_iff.mp h
  obtain ⟨_, execution, h⟩ := bind_ok_iff.mp h
  obtain ⟨_, distribution, h⟩ := bind_ok_iff.mp h
  cases h
  unfold Attrs.given at given
  split at given
  · exact contains_of_optionalField name given
  · exact contains_of_optionalField engine given
  · exact contains_of_optionalField scriptPath given
  · exact contains_of_optionalField parameters given
  · exact contains_of_optionalField targetUrl given
  · exact contains_of_optionalField scheduledAt given
  · exact contains_of_optionalField createdBy given
  · exact contains_of_optionalField targetAppId given
  · exact contains_of_optionalField targetProfileId given
  · exact contains_of_optionalField execution given
  · exact contains_of_optionalField distribution given
  · cases given

/-- The field layer of JSON bodies. -/
def plainFields : FieldLayer where
  toInternalValue body :=
    match body.asDict? with
    | none => .error (fieldError "non_field_errors" "Invalid data. Expected a dictionary.")
    | some data => readFields data
  given_mem body attrs h field given := by
    cases object : body.asDict? with
    | none => simp [object] at h
    | some data =>
        simp only [object] at h
        simpa [Json.dictOrEmpty, object] using readFields_given h field given

end PlainFields

/-- The data that `validate` hands to `create`: the columns of the new row, and
the two ids kept under `_target_app_id` and `_target_profile_id`. -/
structure ValidatedData where
  name : String
  engine : String
  scriptPath : String
  targetUrl : String
  parameters : Dict Json
  scheduledAt : Option Timestamp
  createdBy : String
  targetAppId : Option String
  targetProfileId : Option String

/-- `bool(value)` for an optional string. -/
def truthyStr (s : Option String) : Bool := s.getD "" ≠ ""

/-- `attrs.get("parameters") or {}`. -/
def Attrs.parametersOrEmpty (attrs : Attrs) : Json := (attrs.parameters.getD .null).orEmpty

/-- The template fills the fields that the request leaves out, and the request's
parameters are laid over the template's. -/
def applyTemplate [Runtime] (attrs : Attrs) (template : TaskTemplate) : Except Exc Attrs := do
  let targetUrl := attrs.targetUrl.getD template.targetUrl
  let mergedParameters := template.parameters.update (← attrs.parametersOrEmpty.asItems)
  return { attrs with
    name := some (attrs.name.getD template.displayName)
    engine := some (attrs.engine.getD template.engine)
    scriptPath := some (attrs.scriptPath.getD template.scriptPath)
    targetUrl := some targetUrl
    parameters := some (dictJson (mergedParameters.set "target_url" (.str targetUrl))) }

/-- The fields after the template, if there is one. -/
def mergeTemplate [Runtime] (attrs : Attrs) : Option TaskTemplate → Except Exc Attrs
  | none => .ok attrs
  | some template => applyTemplate attrs template

/-- The request's template, if it names one. Both ids have to be given. -/
def requestedTemplate [Runtime] (catalog : Catalog) (attrs : Attrs) :
    Except Exc (Option TaskTemplate) :=
  if truthyStr attrs.targetAppId || truthyStr attrs.targetProfileId then
    if truthyStr attrs.targetAppId && truthyStr attrs.targetProfileId then
      match getTaskTemplate catalog (attrs.targetAppId.getD "") (attrs.targetProfileId.getD "") with
      | .ok template => .ok (some template)
      | .error e => .error (.validationError (.arr [.str e.text]))
    else
      .error (.validationError
        (.arr [.str "target_app_id and target_profile_id must be provided together."]))
  else .ok none

/-- The required fields that are missing or empty. -/
def missingFields (attrs : Attrs) : List String :=
  ([("name", attrs.name), ("engine", attrs.engine), ("script_path", attrs.scriptPath),
    ("target_url", attrs.targetUrl)].filter fun field => !truthyStr field.2).map Prod.fst

/-- Write the two ids of the template into the parameters. -/
def setTemplateIds (attrs : Attrs) (parameters : Dict Json) : Dict Json :=
  let parameters :=
    if truthyStr attrs.targetAppId then
      parameters.set "target_app_id" (.str (attrs.targetAppId.getD ""))
    else parameters
  if truthyStr attrs.targetProfileId then
    parameters.set "target_profile_id" (.str (attrs.targetProfileId.getD ""))
  else parameters

/-- `parameters[key] = value` when there is a value. -/
def setIfSome (parameters : Dict Json) (key : String) : Option Json → Dict Json
  | none => parameters
  | some value => parameters.set key value

/-- `LoadTestTaskCreateSerializer.validate`. -/
def validate [Runtime] (catalog : Catalog) (attrs : Attrs) : Except Exc ValidatedData := do
  let template ← requestedTemplate catalog attrs
  let merged ← mergeTemplate attrs template
  require (missingFields merged).isEmpty
    (.validationError (.arr [.str
      ("Missing required task fields: " ++ ", ".intercalate (missingFields merged) ++ ".")]))
  let parameters ← merged.parametersOrEmpty.toDict
  let parameters := setTemplateIds attrs parameters
  let execution ← resolveExecution (merged.engine.getD "") (template.bind (·.execution))
    attrs.execution
  let parameters := setIfSome parameters "execution" (execution.map dictJson)
  let distribution ← validateDistribution (attrs.distribution.getD .null)
  let parameters := setIfSome parameters "distribution" distribution
  return {
    name := merged.name.getD ""
    engine := merged.engine.getD ""
    scriptPath := merged.scriptPath.getD ""
    targetUrl := merged.targetUrl.getD ""
    parameters
    scheduledAt := attrs.scheduledAt.getD none
    createdBy := attrs.createdBy.getD ""
    targetAppId := attrs.targetAppId
    targetProfileId := attrs.targetProfileId }

/-- The validated data of a request body: `is_valid(raise_exception=True)`. -/
def validatedData [Runtime] (fields : FieldLayer) (catalog : Catalog) (body : Json) :
    Except Exc ValidatedData := do
  validate catalog (← fields.toInternalValue body)

/-! ### What validation returns -/

/-- The items of the request's own parameters. -/
def Attrs.ownItems [Runtime] (attrs : Attrs) : List (String × Json) :=
  match attrs.parametersOrEmpty.asItems with
  | .ok items => items
  | .error _ => []

/-- The request's own value of a parameter. -/
def Attrs.own? [Runtime] (attrs : Attrs) (k : String) : Option Json :=
  (Dict.ofItems attrs.ownItems).get? k

/-- The free-form parameters: what the request and the template give, before
anything validated is written over it. -/
def freeForm [Runtime] (template : Option TaskTemplate) (attrs : Attrs) (targetUrl : String) :
    Dict Json :=
  match template with
  | none => Dict.ofItems attrs.ownItems
  | some template =>
      (template.parameters.update attrs.ownItems).set "target_url" (.str targetUrl)

/-- The free-form value of a key other than `target_url`: the request's own,
else the template's. -/
theorem freeForm_get? [Runtime] {template : Option TaskTemplate} {attrs : Attrs}
    {targetUrl k : String} (hk : k ≠ "target_url") : (freeForm template attrs targetUrl).get? k =
      (attrs.own? k).or (template.bind (·.parameters.get? k)) := by
  cases template with
  | none => simp [freeForm, Attrs.own?]
  | some t => simp [freeForm, hk, Dict.get?_update_ofItems, Attrs.own?]

/-- How validated data comes about. -/
structure Validated [Runtime] (catalog : Catalog) (attrs : Attrs) (data : ValidatedData)
    (template : Option TaskTemplate) (execution : Option (Dict Json)) (distribution : Option Json) :
    Prop where
  template_eq : requestedTemplate catalog attrs = .ok template
  engine_eq : data.engine = attrs.engine.getD ((template.map (·.engine)).getD "")
  scriptPath_eq : data.scriptPath = attrs.scriptPath.getD ((template.map (·.scriptPath)).getD "")
  targetUrl_eq : data.targetUrl = attrs.targetUrl.getD ((template.map (·.targetUrl)).getD "")
  execution_eq : resolveExecution data.engine (template.bind (·.execution)) attrs.execution =
    .ok execution
  distribution_eq : validateDistribution (attrs.distribution.getD .null) = .ok distribution
  parameters_eq : data.parameters =
    setIfSome (setIfSome (setTemplateIds attrs
      (freeForm template attrs data.targetUrl)) "execution"
        (execution.map dictJson)) "distribution" distribution
  targetAppId_eq : data.targetAppId = attrs.targetAppId
  targetProfileId_eq : data.targetProfileId = attrs.targetProfileId
  targetUrl_ne : data.targetUrl ≠ ""
  engine_ne : data.engine ≠ ""
  scriptPath_ne : data.scriptPath ≠ ""

theorem missingFields_isEmpty_iff {attrs : Attrs} : (missingFields attrs).isEmpty = true ↔
    attrs.name.getD "" ≠ "" ∧ attrs.engine.getD "" ≠ "" ∧ attrs.scriptPath.getD "" ≠ "" ∧
      attrs.targetUrl.getD "" ≠ "" := by
  simp [missingFields, truthyStr, List.filter_eq_nil_iff]

/-- The fields after the template is applied. -/
theorem mergeTemplate_ok [Runtime] {attrs merged : Attrs} {template : Option TaskTemplate}
    (h : mergeTemplate attrs template = .ok merged) :
    merged.engine.getD "" = attrs.engine.getD ((template.map (·.engine)).getD "") ∧
    merged.scriptPath.getD "" = attrs.scriptPath.getD ((template.map (·.scriptPath)).getD "") ∧
    merged.targetUrl.getD "" = attrs.targetUrl.getD ((template.map (·.targetUrl)).getD "") ∧
    ∀ parameters, merged.parametersOrEmpty.toDict = .ok parameters →
      parameters = freeForm template attrs (merged.targetUrl.getD "") := by
  cases template with
  | none =>
      cases h
      refine ⟨rfl, rfl, rfl, ?_⟩
      intro parameters h
      obtain ⟨items, hitems, rfl⟩ := map_ok_iff.mp h
      simp [freeForm, Attrs.ownItems, hitems]
  | some t =>
      obtain ⟨items, hitems, h⟩ := bind_ok_iff.mp h
      cases h
      refine ⟨rfl, rfl, rfl, ?_⟩
      intro parameters h
      simp only [Attrs.parametersOrEmpty, Option.getD_some, toDict_orEmpty_dictJson,
        Except.ok.injEq] at h
      simp [← h, freeForm, Attrs.ownItems, hitems]

theorem validate_ok [Runtime] {catalog : Catalog} {attrs : Attrs} {data : ValidatedData}
    (h : validate catalog attrs = .ok data) :
    ∃ template execution distribution,
      Validated catalog attrs data template execution distribution := by
  obtain ⟨template, template_eq, h⟩ := bind_ok_iff.mp h
  obtain ⟨merged, merged_eq, h⟩ := bind_ok_iff.mp h
  obtain ⟨_, complete, h⟩ := bind_ok_iff.mp h
  obtain ⟨parameters, parameters_eq, h⟩ := bind_ok_iff.mp h
  obtain ⟨execution, execution_eq, h⟩ := bind_ok_iff.mp h
  obtain ⟨distribution, distribution_eq, h⟩ := bind_ok_iff.mp h
  obtain ⟨engine_eq, scriptPath_eq, targetUrl_eq, freeForm_eq⟩ := mergeTemplate_ok merged_eq
  obtain ⟨_, engine_ne, scriptPath_ne, targetUrl_ne⟩ :=
    missingFields_isEmpty_iff.mp (require_ok_iff.mp complete)
  cases h
  refine ⟨template, execution, distribution, ?_⟩
  constructor
  · exact template_eq
  · exact engine_eq
  · exact scriptPath_eq
  · exact targetUrl_eq
  · exact execution_eq
  · exact distribution_eq
  · rw [← freeForm_eq parameters parameters_eq]
  · rfl
  · rfl
  · exact targetUrl_ne
  · exact engine_ne
  · exact scriptPath_ne

@[simp] theorem setIfSome_get? {parameters : Dict Json} {key k : String} {value : Option Json} :
    (setIfSome parameters key value).get? k =
      if k = key then value.or (parameters.get? key) else parameters.get? k := by
  cases value with
  | none =>
      by_cases hk : k = key
      · simp [setIfSome, hk]
      · simp [setIfSome, hk]
  | some v => simp [setIfSome]

/-- The template ids are written under their own two keys. -/
theorem setTemplateIds_get? {attrs : Attrs} {parameters : Dict Json} {k : String}
    (hk : k ≠ "target_app_id") (hk' : k ≠ "target_profile_id") :
    (setTemplateIds attrs parameters).get? k = parameters.get? k := by
  unfold setTemplateIds
  split <;> split <;> simp [hk, hk']

namespace Validated

variable [Runtime] {catalog : Catalog} {attrs : Attrs} {data : ValidatedData}
  {template : Option TaskTemplate} {execution : Option (Dict Json)} {distribution : Option Json}

/-- A key that validation does not write keeps its free-form value. -/
theorem get?_other (v : Validated catalog attrs data template execution distribution)
    {k : String} (hk : k ∉ ["target_url", "target_app_id", "target_profile_id", "execution",
      "distribution"]) :
    data.parameters.get? k = (attrs.own? k).or (template.bind (·.parameters.get? k)) := by
  simp only [List.mem_cons, List.not_mem_nil, or_false, not_or] at hk
  obtain ⟨notUrl, notApp, notProfile, notExecution, notDistribution⟩ := hk
  rw [v.parameters_eq, setIfSome_get?, if_neg notDistribution, setIfSome_get?, if_neg notExecution,
    setTemplateIds_get? notApp notProfile, freeForm_get? notUrl]

/-- `execution` holds what was resolved, and is free-form when nothing was. -/
theorem get?_execution (v : Validated catalog attrs data template execution distribution) :
    data.parameters.get? "execution" = (execution.map dictJson).or
      ((attrs.own? "execution").or (template.bind (·.parameters.get? "execution"))) := by
  rw [v.parameters_eq, setIfSome_get?, if_neg (by decide), setIfSome_get?, if_pos rfl,
    setTemplateIds_get? (by decide) (by decide), freeForm_get? (by decide)]

/-- `distribution` holds what was validated, and is free-form when the request
has no distribution of its own. -/
theorem get?_distribution (v : Validated catalog attrs data template execution distribution) :
    data.parameters.get? "distribution" = distribution.or
      ((attrs.own? "distribution").or (template.bind (·.parameters.get? "distribution"))) := by
  rw [v.parameters_eq, setIfSome_get?, if_pos rfl, setIfSome_get?, if_neg (by decide),
    setTemplateIds_get? (by decide) (by decide), freeForm_get? (by decide)]

end Validated

/-! ### Storing the task -/

/-- The row of a new task, in status PENDING. -/
def newTask (data : ValidatedData) (id : TaskId) (now : Timestamp) : LoadTestTask where
  id
  name := data.name
  engine := data.engine
  scriptPath := data.scriptPath
  parameters := dictJson data.parameters
  targetUrl := data.targetUrl
  scheduledAt := data.scheduledAt
  startedAt := none
  finishedAt := none
  status := .pending
  worker := none
  errorMessage := ""
  createdBy := data.createdBy
  createdAt := now
  updatedAt := now

/-- `save(update_fields=["parameters", "updated_at"])`. -/
def Database.saveParameters (db : Database) (id : TaskId) (parameters : Json) (now : Timestamp) :
    Database :=
  db.updateTask id (fun row => { row with parameters, updatedAt := now }) fun _ => rfl

/-- What the shard plan takes over from the task. -/
def planSubject (data : ValidatedData) (id : TaskId) : PlanSubject where
  taskId := id
  engine := data.engine
  scriptPath := data.scriptPath
  targetUrl := data.targetUrl
  targetAppId := data.targetAppId
  targetProfileId := data.targetProfileId

/-- `parameters.get("distribution")` of the stored parameters. -/
def ValidatedData.storedDistribution (data : ValidatedData) : Json :=
  (data.parameters.get? "distribution").getD .null

/-- `parameters.get("execution")` of the stored parameters. -/
def ValidatedData.storedExecution (data : ValidatedData) : Json :=
  (data.parameters.get? "execution").getD .null

/-- The plan for the stored distribution. -/
def ValidatedData.plan (data : ValidatedData) (id : TaskId) : Except Exc Json :=
  buildShardExecutionPlan (planSubject data id) data.storedDistribution data.storedExecution

/-- `LoadTestTaskCreateSerializer.create`. The row is in the database before the
plan is built. -/
def create (db : Database) (data : ValidatedData) (id : TaskId) (now : Timestamp) :
    Except Exc LoadTestTask × Database :=
  let task := newTask data id now
  match db.tasks.insert? task with
  | none => (.error (.integrityError "UNIQUE constraint failed: tasks_loadtesttask.id"), db)
  | some tasks =>
      let db := { db with tasks }
      if data.storedDistribution.truthy then
        match data.plan id with
        | .error e => (.error e, db)
        | .ok plan =>
            let parameters := dictJson (data.parameters.set "shard_execution_plan" plan)
            (.ok { task with parameters, updatedAt := now }, db.saveParameters id parameters now)
      else (.ok task, db)

end PLoadtesting.ControlPlane
