import PLoadtesting.ControlPlane.Creation

/-!
What a stored task holds under the three keys that validation and the plan
builder write: `execution`, `distribution` and `shard_execution_plan`.

The keys live in the dictionary that also carries the free-form parameters of
the request and of the template, and each is written on some requests only:
`execution` when one of the three layers has settings, `distribution` when the
request distributes itself, the plan when the stored distribution is truthy. On
the other requests the free-form value stays (`createTask_validated_iff`).
-/

namespace PLoadtesting.ControlPlane

open Keyed Python

variable [Runtime]

/-! ### The row of a new task -/

/-- The row of `data` in the database, whatever was marked or dispatched
since. -/
structure StoredRow (data : ValidatedData) (id : TaskId) (row : LoadTestTask) : Prop where
  id_eq : row.id = id
  engine_eq : row.engine = data.engine
  scriptPath_eq : row.scriptPath = data.scriptPath
  targetUrl_eq : row.targetUrl = data.targetUrl
  marked : ∃ mark, row.parameters =
    dictJson (setIfSome (data.storedParameters id) "task_operation_mode" mark)

section

omit [Runtime]

variable {data : ValidatedData} {id : TaskId} {row row' : LoadTestTask} {now : Timestamp}

theorem storedRow_storedTask (data : ValidatedData) (id : TaskId) (now : Timestamp) :
    StoredRow data id (storedTask data id now) where
  id_eq := rfl
  engine_eq := rfl
  scriptPath_eq := rfl
  targetUrl_eq := rfl
  marked := ⟨none, rfl⟩

theorem storedRow_markedTask (data : ValidatedData) (id : TaskId) (now : Timestamp) :
    StoredRow data id (markedTask (storedTask data id now) now) where
  id_eq := rfl
  engine_eq := rfl
  scriptPath_eq := rfl
  targetUrl_eq := rfl
  marked := ⟨some (.str demoTaskOperationMode), by simp [markedTask, storedTask, setIfSome]⟩

theorem StoredRow.sameWork (stored : StoredRow data id row) (same : SameWork row row')
    (sameId : row'.id = row.id) : StoredRow data id row' where
  id_eq := sameId.trans stored.id_eq
  engine_eq := same.engine.trans stored.engine_eq
  scriptPath_eq := same.scriptPath.trans stored.scriptPath_eq
  targetUrl_eq := same.targetUrl.trans stored.targetUrl_eq
  marked := by
    rw [same.parameters]
    exact stored.marked

/-- The mark is written under its own key. -/
theorem StoredRow.parameters_eq (stored : StoredRow data id row) {k : String}
    (hk : k ≠ "task_operation_mode") :
    row.parameters.dictOrEmpty.get? k = (data.storedParameters id).get? k := by
  obtain ⟨mark, parameters⟩ := stored.marked
  rw [parameters, dictOrEmpty_dictJson, setIfSome_get?, if_neg hk]

/-- After an INSERT of a row its id finds it. -/
theorem find?_insertTask {db : Database} (h : row.id = id) :
    (db.insertTask row).tasks.find? id = some row := by
  simp [Database.insertTask, h]

end

/-- A row that is there after a creation, and was not before, is the row of the
accepted request. -/
theorem createTask_storedRow {deployment : Deployment} {headers : Headers} {db : Database}
    {body : Json} {occasion : Occasion} {row : LoadTestTask}
    (fresh : db.tasks.find? occasion.id = none)
    (found : (createTask deployment headers db body occasion).2.tasks.find? occasion.id =
      some row) :
    ∃ attrs data, Accepts deployment body attrs data ∧ StoredRow data occasion.id row := by
  have unwritten : db.tasks.find? occasion.id ≠ some row := by
    rw [fresh]
    nofun
  have served : ∀ demoCreate,
      (createServed deployment demoCreate db body occasion).2.tasks.find? occasion.id = some row →
        ∃ attrs data, Accepts deployment body attrs data ∧ StoredRow data occasion.id row := by
    intro demoCreate found
    have outcome := createServed_cases deployment demoCreate db body occasion
    generalize createServed deployment demoCreate db body occasion = result at outcome found
    cases outcome with
    | invalid notCreated invalid => exact absurd found unwritten
    | denied notCreated accepts demo notSafe => exact absurd found unwritten
    | taken e taken => exact absurd found unwritten
    | unplanned e accepts fresh unplanned safe =>
        cases (find?_insertTask rfl).symm.trans found
        exact ⟨_, _, accepts, storedRow_storedTask _ _ _⟩
    | stored accepts fresh planned shared =>
        cases (find?_insertTask rfl).symm.trans found
        exact ⟨_, _, accepts, storedRow_storedTask _ _ _⟩
    | @demo attrs data accepts fresh planned demo safe =>
        obtain ⟨f, keeps, dispatched, same⟩ := dispatchTaskOnce_keepsWork
          (db.insertTask (markedTask (storedTask data occasion.id occasion.now) occasion.now))
          occasion.id occasion.delivery occasion.now
        have marked := storedRow_markedTask data occasion.id occasion.now
        rw [finishDemoCreate_snd] at found
        change (dispatchTaskOnce _ occasion.id _ _).2.tasks.find? occasion.id = some row at found
        rw [dispatched, Database.find?_updateTask, if_pos rfl,
          find?_insertTask marked.id_eq] at found
        cases found
        exact ⟨attrs, data, accepts, marked.sameWork (same _) (keeps _)⟩
  unfold createTask at found
  split at found
  · exact served false found
  · split at found
    · split at found
      · exact absurd found unwritten
      · exact absurd found unwritten
      · exact served true found
    · exact absurd found unwritten

/-! ### Validated and free-form values -/

/-- An output of `validate_execution`. -/
def IsValidatedExecution (value : Json) : Prop :=
  ∃ execution r, validateExecution execution = .ok r ∧ value = dictJson r

omit [Runtime] in
/-- An output of `validate_distribution`; for `None` it returns `None`. -/
def IsValidatedDistribution (value : Json) : Prop :=
  ∃ distribution r, validateDistribution distribution = .ok r ∧ value = r.getD .null

/-- The value a task stores under a parameter. -/
def LoadTestTask.parameter? (task : LoadTestTask) (k : String) : Option Json :=
  task.parameters.dictOrEmpty.get? k

/-- A shard plan for the stored distribution of the task, over its id, engine,
script and target. -/
def LoadTestTask.IsOwnPlan (task : LoadTestTask) (plan : Json) : Prop :=
  ∃ targetAppId targetProfileId,
    buildShardExecutionPlan
      ⟨task.id, task.engine, task.scriptPath, task.targetUrl, targetAppId, targetProfileId⟩
      ((task.parameter? "distribution").getD .null) ((task.parameter? "execution").getD .null) =
        .ok plan

/-- What the task stores under the three keys has been validated or built. -/
structure ParametersValidated (task : LoadTestTask) : Prop where
  execution : ∀ value ∈ task.parameter? "execution", IsValidatedExecution value
  distribution : ∀ value ∈ task.parameter? "distribution", IsValidatedDistribution value
  plan : ∀ value ∈ task.parameter? "shard_execution_plan", task.IsOwnPlan value

/-- None of the three layers of settings has any: the engine is one without a
default, and neither the template nor the request has an execution. -/
def Attrs.LacksExecution (catalog : Catalog) (attrs : Attrs) : Prop :=
  engineDefaultExecution
      (attrs.engine.getD (((templateOf catalog attrs).map (·.engine)).getD "")) = none ∧
    ((templateOf catalog attrs).bind (·.execution)).getD .null = .null ∧
    attrs.execution.getD .null = .null

/-- No free-form value stays under one of the three keys, but for one that
validation could have returned. -/
structure NothingBypasses (catalog : Catalog) (attrs : Attrs) : Prop where
  execution : attrs.LacksExecution catalog →
    ∀ value ∈ attrs.free? catalog "execution", IsValidatedExecution value
  distribution : ¬ attrs.distributes →
    ∀ value ∈ attrs.free? catalog "distribution", IsValidatedDistribution value
  plan : ¬ attrs.distributes →
    ¬ PlanShaped ((attrs.free? catalog "distribution").getD .null) →
      attrs.free? catalog "shard_execution_plan" = none

/-! ### The plan -/

section Plan

variable {catalog : Catalog} {attrs : Attrs} {data : ValidatedData}
  {template : Option TaskTemplate} {execution : Option (Dict Json)} {distribution : Option Json}
  {id : TaskId} {row : LoadTestTask}

section

omit [Runtime]

/-- A distribution a plan can be built from is not falsy. -/
theorem PlanShaped.truthy {j : Json} (shaped : PlanShaped j) : j.truthy = true := by
  obtain ⟨⟨d, object, has⟩, _⟩ := shaped
  cases j with
  | obj items =>
      cases items with
      | nil =>
          cases object
          cases has "mode" List.mem_cons_self
      | cons item items => rfl
  | _ => cases object

/-- The plan is written under its own key. -/
theorem storedParameters_get? {k : String} (hk : k ≠ "shard_execution_plan") :
    (data.storedParameters id).get? k = data.parameters.get? k := by
  unfold ValidatedData.storedParameters
  split
  · split
    · simp [hk]
    · rfl
  · rfl

/-- A plan is written when one can be built from the stored distribution. -/
theorem storedParameters_plan_of_shaped (id : TaskId)
    (shaped : PlanShaped data.storedDistribution) :
    ∃ plan, data.plan id = .ok plan ∧
      (data.storedParameters id).get? "shard_execution_plan" = some plan := by
  obtain ⟨plan, builds⟩ := buildShardExecutionPlan_ok_iff.mpr shaped
  refine ⟨plan, builds, ?_⟩
  have written : data.plan id = .ok plan := builds
  simp [ValidatedData.storedParameters, shaped.truthy, written]

/-- Otherwise what was under the key stays. -/
theorem storedParameters_of_not_shaped (unshaped : ¬ PlanShaped data.storedDistribution) :
    data.storedParameters id = data.parameters := by
  unfold ValidatedData.storedParameters
  split
  · split
    · rename_i builds
      exact absurd (buildShardExecutionPlan_ok_iff.mp ⟨_, builds⟩) unshaped
    · rfl
  · rfl

/-! ### The three keys of the row -/

theorem StoredRow.parameter?_eq (stored : StoredRow data id row) {k : String}
    (hk : k ∉ ["task_operation_mode", "shard_execution_plan"]) :
    row.parameter? k = data.parameters.get? k := by
  simp only [List.mem_cons, List.not_mem_nil, or_false, not_or] at hk
  rw [LoadTestTask.parameter?, stored.parameters_eq hk.1, storedParameters_get? hk.2]

theorem StoredRow.isOwnPlan_imp (stored : StoredRow data id row) {plan : Json}
    (own : row.IsOwnPlan plan) : PlanShaped data.storedDistribution := by
  obtain ⟨_, _, builds⟩ := own
  rw [stored.parameter?_eq (by decide)] at builds
  exact buildShardExecutionPlan_ok_iff.mp ⟨plan, builds⟩

theorem StoredRow.isOwnPlan_of_plan (stored : StoredRow data id row) {plan : Json}
    (builds : data.plan id = .ok plan) : row.IsOwnPlan plan := by
  refine ⟨data.targetAppId, data.targetProfileId, ?_⟩
  rw [stored.parameter?_eq (by decide), stored.parameter?_eq (by decide), stored.id_eq,
    stored.engine_eq, stored.scriptPath_eq, stored.targetUrl_eq]
  exact builds

end

/-- Nothing is resolved exactly when there are no settings. -/
theorem Validated.lacksExecution_iff
    (v : Validated catalog attrs data template execution distribution) :
    attrs.LacksExecution catalog ↔ execution = none := by
  rw [Attrs.LacksExecution, v.templateOf_eq, ← v.engine_eq, ← resolveExecution_none_iff,
    v.execution_eq, Except.ok.injEq]

theorem Validated.execution_iff (v : Validated catalog attrs data template execution distribution)
    (stored : StoredRow data id row) :
    (∀ value ∈ row.parameter? "execution", IsValidatedExecution value) ↔
      (attrs.LacksExecution catalog →
        ∀ value ∈ attrs.free? catalog "execution", IsValidatedExecution value) := by
  rw [stored.parameter?_eq (by decide), v.get?_execution, v.lacksExecution_iff, Attrs.free?,
    v.templateOf_eq]
  cases execution with
  | none => simp
  | some r =>
      refine iff_of_true ?_ fun lacks => absurd lacks (Option.some_ne_none r)
      intro value mem
      cases mem
      obtain ⟨x, valid⟩ := resolveExecution_some v.execution_eq
      exact ⟨x, r, valid, rfl⟩

theorem Validated.distribution_iff
    (v : Validated catalog attrs data template execution distribution)
    (stored : StoredRow data id row) :
    (∀ value ∈ row.parameter? "distribution", IsValidatedDistribution value) ↔
      (¬ attrs.distributes →
        ∀ value ∈ attrs.free? catalog "distribution", IsValidatedDistribution value) := by
  rw [stored.parameter?_eq (by decide), v.get?_distribution, v.distributes_iff, Attrs.free?,
    v.templateOf_eq]
  cases distribution with
  | none => simp
  | some validated =>
      refine iff_of_true ?_ fun notOwn => absurd (Option.some_ne_none validated) notOwn
      intro value mem
      cases mem
      exact ⟨_, _, v.distribution_eq, rfl⟩

theorem Validated.plan_iff (v : Validated catalog attrs data template execution distribution)
    (stored : StoredRow data id row) :
    (∀ value ∈ row.parameter? "shard_execution_plan", row.IsOwnPlan value) ↔
      (¬ attrs.distributes → ¬ PlanShaped ((attrs.free? catalog "distribution").getD .null) →
        attrs.free? catalog "shard_execution_plan" = none) := by
  have value_eq : row.parameter? "shard_execution_plan" =
      (data.storedParameters id).get? "shard_execution_plan" :=
    stored.parameters_eq (by decide)
  rw [value_eq]
  by_cases shaped : PlanShaped data.storedDistribution
  · obtain ⟨plan, builds, written⟩ := storedParameters_plan_of_shaped id shaped
    refine iff_of_true ?_ ?_
    · intro value mem
      cases mem.symm.trans written
      exact stored.isOwnPlan_of_plan builds
    · intro notOwn unshaped
      rcases v.planShaped_or_free with ⟨own, _⟩ | ⟨_, free⟩
      · exact absurd own notOwn
      · exact absurd (free ▸ shaped) unshaped
  · rcases v.planShaped_or_free with ⟨_, shaped'⟩ | ⟨notOwn, free⟩
    · exact absurd shaped' shaped
    · rw [storedParameters_of_not_shaped shaped, v.get?_other (by decide)]
      have kept : attrs.free? catalog "shard_execution_plan" =
          (attrs.own? "shard_execution_plan").or
            (template.bind (·.parameters.get? "shard_execution_plan")) := by
        rw [Attrs.free?, v.templateOf_eq]
      rw [← kept]
      constructor
      · intro all _ _
        refine Option.eq_none_iff_forall_not_mem.mpr ?_
        intro value mem
        exact shaped (stored.isOwnPlan_imp (all value mem))
      · intro bypass value mem
        rw [bypass notOwn (free ▸ shaped)] at mem
        cases mem

/-- A row that a creation adds holds validated values under the three keys if
and only if nothing bypasses validation. -/
theorem createTask_validated_iff (deployment : Deployment) (headers : Headers) (db : Database)
    (body : Json) (occasion : Occasion) (row : LoadTestTask)
    (fresh : db.tasks.find? occasion.id = none)
    (found : (createTask deployment headers db body occasion).2.tasks.find? occasion.id =
      some row) :
    ∃ attrs, PassesValidation deployment body attrs ∧
      (ParametersValidated row ↔ NothingBypasses deployment.catalog attrs) := by
  obtain ⟨attrs, data, accepts, stored⟩ := createTask_storedRow fresh found
  obtain ⟨template, execution, distribution, v⟩ := validate_ok accepts.validated
  refine ⟨attrs, ⟨data, accepts⟩, ?_⟩
  constructor
  · rintro ⟨validExecution, validDistribution, ownPlan⟩
    exact ⟨(v.execution_iff stored).mp validExecution,
      (v.distribution_iff stored).mp validDistribution, (v.plan_iff stored).mp ownPlan⟩
  · rintro ⟨noExecution, noDistribution, noPlan⟩
    exact ⟨(v.execution_iff stored).mpr noExecution,
      (v.distribution_iff stored).mpr noDistribution, (v.plan_iff stored).mpr noPlan⟩

end Plan

/-- Whatever is stored under the three keys has been validated or built. -/
def StoredParametersValidated : Prop :=
  ∀ (deployment : Deployment) (headers : Headers) (db : Database) (body : Json)
    (occasion : Occasion) (row : LoadTestTask), db.tasks.find? occasion.id = none →
    (createTask deployment headers db body occasion).2.tasks.find? occasion.id = some row →
    ParametersValidated row

omit [Runtime]

/-- A k6 task that brings a shard plan of its own and no distribution. -/
def forgedPlanBody : Json := k6Body [("shard_execution_plan", .str "forged")]

/-- What the creation stores for it. -/
def forgedPlanRow : Option LoadTestTask :=
  (@createTask asciiRuntime tokenDeployment tokenHeaders emptyDatabase forgedPlanBody
    firstOccasion).2.tasks.find? firstOccasion.id

/-- The plan of the request is stored as it came. -/
theorem forgedPlan_bypasses : ¬ @StoredParametersValidated asciiRuntime := by
  let _ := asciiRuntime
  intro validated
  have created : forgedPlanRow.isSome = true := by decide +kernel
  obtain ⟨row, found⟩ := Option.isSome_iff_exists.mp created
  have stored : (forgedPlanRow.bind fun row =>
      row.parameter? "shard_execution_plan").any (·.eqStr "forged") = true := by decide +kernel
  have unsharded : (forgedPlanRow.bind fun row => row.parameter? "distribution").isNone = true := by
    decide +kernel
  rw [found, Option.bind_some, Option.any_eq_true] at stored
  rw [found, Option.bind_some, Option.isNone_iff_eq_none] at unsharded
  obtain ⟨plan, mem, _⟩ := stored
  obtain ⟨_, _, builds⟩ := (validated _ _ _ _ _ row rfl found).plan plan mem
  rw [unsharded] at builds
  obtain ⟨⟨_, object, _⟩, _⟩ := buildShardExecutionPlan_ok_iff.mp ⟨plan, builds⟩
  cases object

/-- The iff at the same request without the plan, which stores validated
settings only. -/
theorem plainRequest_validated :
    ∃ row, (@createTask asciiRuntime tokenDeployment tokenHeaders emptyDatabase (k6Body [])
        firstOccasion).2.tasks.find? "t" = some row ∧ @ParametersValidated asciiRuntime row := by
  let _ := asciiRuntime
  have created : ((createTask tokenDeployment tokenHeaders emptyDatabase (k6Body [])
      firstOccasion).2.tasks.find? "t").isSome = true := by decide +kernel
  obtain ⟨row, found⟩ := Option.isSome_iff_exists.mp created
  obtain ⟨attrs, ⟨data, accepts⟩, validated⟩ :=
    createTask_validated_iff tokenDeployment tokenHeaders emptyDatabase (k6Body []) firstOccasion
      row rfl found
  have noFreeForm : (match tokenDeployment.fields.toInternalValue (k6Body []) with
      | .ok attrs => ["execution", "distribution", "shard_execution_plan"].all fun k =>
          (attrs.free? tokenDeployment.catalog k).isNone
      | .error _ => false) = true := by decide +kernel
  rw [accepts.read] at noFreeForm
  simp only [List.all_cons, List.all_nil, Bool.and_true, Bool.and_eq_true,
    Option.isNone_iff_eq_none] at noFreeForm
  obtain ⟨noExecution, noDistribution, noPlan⟩ := noFreeForm
  refine ⟨row, found, validated.mpr ⟨?_, ?_, fun _ _ => noPlan⟩⟩
  · rw [noExecution]
    nofun
  · rw [noDistribution]
    nofun

end PLoadtesting.ControlPlane
