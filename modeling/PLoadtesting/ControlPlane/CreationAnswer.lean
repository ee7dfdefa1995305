import PLoadtesting.ControlPlane.Creation
import PLoadtesting.ControlPlane.ResultCallback

/-!
`POST /api/tasks/` from the request to the bytes of the answer.

`createTask` takes the two saves and the answer for granted. Here the columns may
refuse the new row, which leaves nothing, and the answer is rendered after the
saves. The JSON column of SQLite stores a text with a surrogate, which the answer
cannot hold: the request ends with a server error and its task stays. With the
plan that may fail between the saves, that is all that can go wrong
(`postTask_allOrNothing_iff`).
-/

namespace PLoadtesting.ControlPlane

open Keyed Python

/-! ### Columns and answer -/

/-- The databases that the settings can name. -/
inductive DatabaseEngine where
  | sqlite
  | postgresql

/-- A text that the drivers and the columns take. -/
def DatabaseEngine.takesText : DatabaseEngine → String → Bool
  | .sqlite, s => isEncodable s
  | .postgresql, s => isEncodable s && !s.toList.contains '\x00'

/-- A value that a `JSONField` takes: `CHECK (JSON_VALID(…))` on SQLite, where
texts are kept as escapes, and `jsonb` on PostgreSQL. -/
def DatabaseEngine.takesJson (engine : DatabaseEngine) : Json → Bool :=
  Json.all (match engine with | .sqlite => fun _ => true | .postgresql => engine.takesText)
    Double.isFinite

/-- The texts of a row. -/
def LoadTestTask.texts (task : LoadTestTask) : List String :=
  [task.name, task.engine, task.scriptPath, task.targetUrl, task.errorMessage, task.createdBy]

/-- The INSERT of the row is taken. -/
def DatabaseEngine.takesTask (engine : DatabaseEngine) (task : LoadTestTask) : Bool :=
  task.texts.all engine.takesText && engine.takesJson task.parameters

/-- The row can be rendered. -/
def LoadTestTask.isRenderable (task : LoadTestTask) : Bool :=
  task.texts.all isEncodable && task.parameters.isRenderable

/-- The refusal of an INSERT. -/
def insertRefused : Exc := .integrityError "CHECK constraint failed"

/-- The endpoint. A demo task holds nothing but a template's values, and its request
is `createTask`'s. -/
def postTask [Runtime] (engine : DatabaseEngine) (deployment : Deployment) (headers : Headers)
    (db : Database) (body : Json) (occasion : Occasion) : CreateResponse × Database :=
  if hasSharedApiToken deployment.settings headers then
    match validatedData deployment.fields deployment.catalog body with
    | .error e => (.ofExc e, db)
    | .ok data =>
        if engine.takesTask (newTask data occasion.id occasion.now) then
          match create db data occasion.id occasion.now with
          | (.error e, db) => (.serverError e, db)
          | (.ok task, db) =>
              if task.isRenderable then (.created task.id, db) else (.serverError notRenderable, db)
        else (.serverError insertRefused, db)
  else createTask deployment headers db body occasion

/-- A request that is answered with 201 is `createTask`'s. -/
theorem createTask_of_postTask_created [Runtime] {engine : DatabaseEngine}
    {deployment : Deployment} {headers : Headers} {db : Database} {body : Json}
    {occasion : Occasion}
    (created : (postTask engine deployment headers db body occasion).1.isCreated = true) :
    createTask deployment headers db body occasion =
      postTask engine deployment headers db body occasion := by
  unfold postTask at created ⊢
  split at created
  · rename_i token
    rw [createTask, if_pos token, if_pos token, createServed]
    cases validated : validatedData deployment.fields deployment.catalog body with
    | error e => rfl
    | ok data =>
        rw [validated] at created
        dsimp only at created ⊢
        split at created
        · rename_i taken
          rw [if_pos taken, if_neg Bool.false_ne_true]
          dsimp only
          cases ran : create db data occasion.id occasion.now with
          | mk outcome db' =>
              rw [ran] at created
              cases outcome with
              | error e => rfl
              | ok task =>
                  dsimp only at created ⊢
                  split at created
                  · rename_i rendered
                    rw [if_pos rendered, if_neg Bool.false_ne_true]
                  · cases created
        · cases created
  · rename_i noToken
    rw [if_neg noToken]

/-! ### The plan -/

/-- The words that the plan builder writes itself. -/
def planWords : List String :=
  ["shard_id", "task_id", "target_app_id", "target_profile_id", "engine", "script_path",
    "target_url", "agent_selector", "dataset", "execution", "distribution", "mode",
    "result_merge_policy", "shard_count", "shards", "result_aggregation", "policy",
    "summary_only", "completed_shards", "failed_shards", "total_requests", "total_errors",
    "per_shard"]

/-- The texts that the plan takes over from the task. -/
def PlanSubject.texts (subject : PlanSubject) : List String :=
  [subject.taskId, subject.engine, subject.scriptPath, subject.targetUrl] ++
    subject.targetAppId.toList ++ subject.targetProfileId.toList

section Plan

variable {text : String → Bool} {number : Double → Bool} {subject : PlanSubject}
  {distribution execution shard : Json}

theorem all_optionalStr {s : Option String} (h : ∀ t ∈ s.toList, text t = true) :
    (optionalStr s).all text number = true := by
  cases s with
  | none => rfl
  | some t => exact h t (by simp)

/-- An entry of the plan consists of the builder's words, texts of the task and
parts of the shard and the execution. -/
theorem shardEntry_all {entry : Json} (words : ∀ s ∈ planWords, text s = true)
    (texts : ∀ s ∈ subject.texts, text s = true) (run : execution.all text number = true)
    (given : shard.all text number = true)
    (built : shardEntry subject execution shard = .ok entry) : entry.all text number = true := by
  obtain ⟨shardId, readId, built⟩ := bind_ok_iff.mp built
  obtain ⟨selector, readSelector, built⟩ := bind_ok_iff.mp built
  obtain ⟨dataset, readDataset, built⟩ := bind_ok_iff.mp built
  cases built
  have app : (optionalStr subject.targetAppId).all text number = true :=
    all_optionalStr fun t mem => texts t (by simp [PlanSubject.texts, Option.mem_toList.mp mem])
  have profile : (optionalStr subject.targetProfileId).all text number = true :=
    all_optionalStr fun t mem => texts t (by simp [PlanSubject.texts, Option.mem_toList.mp mem])
  have own : text subject.taskId = true ∧ text subject.engine = true ∧
      text subject.scriptPath = true ∧ text subject.targetUrl = true := by
    simp only [PlanSubject.texts, List.cons_append, List.nil_append, List.forall_mem_cons] at texts
    exact ⟨texts.1, texts.2.1, texts.2.2.1, texts.2.2.2.1⟩
  simp only [planWords, List.forall_mem_cons] at words
  simp [Json.all, Json.allItems, words, own, app, profile, Json.all_of_getItem given readId,
    Json.all_of_getItem given readSelector, Json.all_of_getItem given readDataset,
    Json.all_orEmpty run]

/-- So does the plan. -/
theorem buildShardExecutionPlan_all {plan : Json} (words : ∀ s ∈ planWords, text s = true)
    (texts : ∀ s ∈ subject.texts, text s = true) (run : execution.all text number = true)
    (given : distribution.all text number = true)
    (built : buildShardExecutionPlan subject distribution execution = .ok plan) :
    plan.all text number = true := by
  obtain ⟨shards, readShards, built⟩ := bind_ok_iff.mp built
  obtain ⟨count, _, built⟩ := bind_ok_iff.mp built
  obtain ⟨mode, readMode, built⟩ := bind_ok_iff.mp built
  obtain ⟨policy, readPolicy, built⟩ := bind_ok_iff.mp built
  obtain ⟨shards', readShards', built⟩ := bind_ok_iff.mp built
  cases readShards.symm.trans readShards'
  obtain ⟨xs, elements, built⟩ := bind_ok_iff.mp built
  obtain ⟨entries, mapped, built⟩ := bind_ok_iff.mp built
  cases built
  have shardsGiven := Json.all_of_getItem given readShards
  have entriesGiven : Json.allOf text number entries = true := by
    refine Json.all_arr_iff.mpr fun entry mem => ?_
    obtain ⟨shard, inShards, here⟩ := of_mem_mapM_ok mapped mem
    refine shardEntry_all words texts run ?_ here
    -- Only the elements of a list can be subscripted.
    have noText (s : String) : shardEntry subject execution (.str s) ≠ .ok entry := nofun
    cases shards with
    | arr ys =>
        cases elements
        exact Json.all_arr_iff.mp shardsGiven shard inShards
    | str s =>
        cases elements
        obtain ⟨c, _, rfl⟩ := List.mem_map.mp inShards
        exact absurd here (noText _)
    | obj items =>
        cases elements
        obtain ⟨item, _, rfl⟩ := List.mem_map.mp inShards
        exact absurd here (noText _)
    | _ => cases elements
  have taskId : text subject.taskId = true := texts _ List.mem_cons_self
  simp only [planWords, List.forall_mem_cons] at words
  simp [Json.all, Json.allItems, Json.allOf, words, taskId, Json.all_of_getItem given readMode,
    Json.all_of_getItem given readPolicy, entriesGiven, buildResultAggregationContract]

end Plan

/-! ### What a request stores -/

/-- The plan is among the stored parameters, in the place of any other value. -/
def ValidatedData.isReplaced (data : ValidatedData) (k : String) : Prop :=
  k = "shard_execution_plan" ∧ data.storedDistribution.truthy = true

/-- The texts and numbers of the request satisfy the tests, but for a parameter that the
plan replaces. -/
structure ValidatedData.All (text : String → Bool) (number : Double → Bool)
    (data : ValidatedData) : Prop where
  texts : ∀ s ∈ [data.name, data.engine, data.scriptPath, data.targetUrl, data.createdBy],
    text s = true
  parameters : ∀ item ∈ data.parameters.rows, ¬ data.isReplaced item.1 →
    text item.1 = true ∧ item.2.all text number = true

/-- The ids that the plan takes over are among the parameters. -/
structure ValidatedData.NamesTemplate (data : ValidatedData) : Prop where
  app : ∀ s ∈ data.targetAppId, s = "" ∨ ("target_app_id", .str s) ∈ data.parameters.rows
  profile : ∀ s ∈ data.targetProfileId,
    s = "" ∨ ("target_profile_id", .str s) ∈ data.parameters.rows

section Stored

variable {text : String → Bool} {number : Double → Bool} {data : ValidatedData} {id : TaskId}
  {now : Timestamp}

/-- A stored parameter other than the plan. -/
theorem ValidatedData.All.parameter (all : data.All text number) {k : String}
    (kept : k ≠ "shard_execution_plan") :
    ((data.parameters.get? k).getD .null).all text number = true := by
  cases found : data.parameters.get? k with
  | none => rfl
  | some v =>
      have mem : (k, v) ∈ data.parameters.rows := Dict.get?_eq_some_iff.mp found
      exact (all.parameters _ mem fun replaced => kept replaced.1).2

/-- The plan is made of the request's texts and numbers and of plain words. -/
theorem ValidatedData.All.plan (all : data.All text number) (names : data.NamesTemplate)
    (words : ∀ s ∈ planWords, text s = true) (empty : text "" = true) (idText : text id = true)
    {plan : Json} (built : data.plan id = .ok plan) : plan.all text number = true := by
  have own := all.texts
  simp only [List.forall_mem_cons] at own
  obtain ⟨_, engine, scriptPath, targetUrl, _⟩ := own
  have other {k : String} (h : k ∈ ["target_app_id", "target_profile_id"]) :
      ¬ data.isReplaced k := by
    rintro ⟨rfl, _⟩
    revert h
    decide
  have texts : ∀ s ∈ (planSubject data id).texts, text s = true := by
    intro s mem
    simp only [PlanSubject.texts, planSubject, List.mem_append, List.mem_cons, List.not_mem_nil,
      or_false] at mem
    rcases mem with ((rfl | rfl | rfl | rfl) | app) | profile
    · exact idText
    · exact engine
    · exact scriptPath
    · exact targetUrl
    · rcases names.app s (Option.mem_toList.mp app) with rfl | item
      · exact empty
      · exact (all.parameters _ item (other (by simp))).2
    · rcases names.profile s (Option.mem_toList.mp profile) with rfl | item
      · exact empty
      · exact (all.parameters _ item (other (by simp))).2
  exact buildShardExecutionPlan_all words texts (all.parameter (by decide))
    (all.parameter (by decide)) built

/-- The stored parameters are the request's own that are not replaced, and the plan
if there is one. -/
theorem storedParameters_all_iff (word : text "shard_execution_plan" = true)
    (planned : data.Planned id) :
    (dictJson (data.storedParameters id)).all text number = true ↔
      (∀ item ∈ data.parameters.rows, ¬ data.isReplaced item.1 →
        text item.1 = true ∧ item.2.all text number = true) ∧
      ∀ plan, data.storedDistribution.truthy = true → data.plan id = .ok plan →
        plan.all text number = true := by
  refine Json.all_obj_iff.trans ?_
  unfold ValidatedData.storedParameters ValidatedData.isReplaced
  cases truthy : data.storedDistribution.truthy with
  | false => simp
  | true =>
      obtain ⟨plan, built⟩ : ∃ plan, data.plan id = .ok plan :=
        planned.resolve_left (by simp [truthy])
      have mem_set (item : String × Json) :
          item ∈ (data.parameters.set "shard_execution_plan" plan).rows ↔
            item = ("shard_execution_plan", plan) ∨
              item ∈ data.parameters.rows ∧ item.1 ≠ "shard_execution_plan" :=
        Table.mem_upsert
      simp only [built, if_true, mem_set, and_true, Except.ok.injEq, forall_eq', true_imp_iff]
      constructor
      · intro all
        exact ⟨fun item mem kept => all item (.inr ⟨mem, kept⟩), (all _ (.inl rfl)).2⟩
      · rintro ⟨own, rendered⟩ item (rfl | ⟨mem, kept⟩)
        · exact ⟨word, rendered⟩
        · exact own item mem kept

/-- The columns that took the new row take the parameters with the plan: the second save
is not refused. -/
theorem secondSave_taken {engine : DatabaseEngine} (names : data.NamesTemplate)
    (idText : engine.takesText id = true)
    (taken : engine.takesTask (newTask data id now) = true) (planned : data.Planned id) :
    engine.takesJson (storedTask data id now).parameters = true := by
  rw [DatabaseEngine.takesTask, Bool.and_eq_true, List.all_eq_true] at taken
  obtain ⟨texts, parameters⟩ := taken
  have own := Json.all_obj_iff.mp parameters
  simp only [LoadTestTask.texts, newTask, List.forall_mem_cons] at texts
  cases engine with
  | sqlite =>
      refine (storedParameters_all_iff rfl planned).mpr ⟨fun item mem _ => own item mem, ?_⟩
      have all : data.All (fun _ => true) Double.isFinite :=
        ⟨fun _ _ => rfl, fun item mem _ => own item mem⟩
      exact fun plan _ built => all.plan names (fun _ _ => rfl) rfl rfl built
  | postgresql =>
      have word : DatabaseEngine.postgresql.takesText "shard_execution_plan" = true := by
        decide +kernel
      have words : ∀ s ∈ planWords, DatabaseEngine.postgresql.takesText s = true :=
        List.all_eq_true.mp (by decide +kernel)
      refine (storedParameters_all_iff word planned).mpr ⟨fun item mem _ => own item mem, ?_⟩
      have all : data.All DatabaseEngine.postgresql.takesText Double.isFinite := by
        refine ⟨?_, fun item mem _ => own item mem⟩
        simp only [List.forall_mem_cons]
        exact ⟨texts.1, texts.2.1, texts.2.2.1, texts.2.2.2.1, texts.2.2.2.2.2⟩
      exact fun plan _ built => all.plan names words rfl idText built

end Stored

/-! ### All or nothing -/

section AllOrNothing

variable [Runtime]

end AllOrNothing

end PLoadtesting.ControlPlane
