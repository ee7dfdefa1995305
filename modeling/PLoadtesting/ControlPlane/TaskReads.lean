import PLoadtesting.ControlPlane.ArtifactListing
import PLoadtesting.ControlPlane.TaskHistory

/-!
The reads of one task (`apps/tasks/views.py`): its detail, its shard plan, its result
summary, its artifacts and the download placeholder.

The first four share their beginning (`readTask`): the task is loaded, so a missing
one is reported to every client, and only then the view asks whether the client may
read it. What a client without the token sees of a task that is no safe demo is
therefore its `verdict` and nothing else (`tokenlessReads_agree_iff`).

A result draws an `id` of its own when it is created, and only the detail of its task
names it: `resultId` is the `id` of the result of each task.
-/

namespace PLoadtesting.ControlPlane

open Keyed Python

/-! ### The read models -/

/-- `isinstance(parameters.get(key), dict)`. -/
def holdsObject (parameters : Dict Json) (key : String) : Bool :=
  ((parameters.get? key).getD .null).asDict?.isSome

structure ParameterSummary where
  keys : List String
  hasExecution : Bool
  hasDistribution : Bool
  hasShardExecutionPlan : Bool

/-- `task_parameter_summary`. -/
def taskParameterSummary (task : LoadTestTask) : ParameterSummary :=
  let parameters := task.parameters.dictOrEmpty
  let visibleKeys := (parameters.rows.map Prod.fst).filter fun key =>
    !(["execution", "distribution", "shard_execution_plan"].contains key)
  { keys := visibleKeys.insertionSort (· ≤ ·)
    hasExecution := holdsObject parameters "execution"
    hasDistribution := holdsObject parameters "distribution"
    hasShardExecutionPlan := holdsObject parameters "shard_execution_plan" }

/-- `task_result_status`. -/
inductive TaskResultStatus where
  | notAvailable
  | available (resultId : String) (collectedAt : Timestamp) (thresholdsPassed : Option Bool)

def taskResultStatus (resultId : TaskId → String) (db : Database) (task : LoadTestTask) :
    TaskResultStatus :=
  match db.results.find? task.id with
  | none => .notAvailable
  | some result =>
      .available (resultId task.id) result.collectedAt result.fields.thresholdsPassed

structure TaskDetail where
  id : TaskId
  name : String
  status : String
  engine : String
  scriptPath : String
  targetUrl : String
  targetAppId : Json
  targetProfileId : Json
  createdAt : Timestamp
  updatedAt : Timestamp
  scheduledAt : Option Timestamp
  startedAt : Option Timestamp
  finishedAt : Option Timestamp
  errorMessage : String
  parameters : ParameterSummary
  execution : Dict Json
  distribution : Dict Json
  result : TaskResultStatus
  warnings : List ReadModelWarning

/-- `task_detail_read_model`. -/
def taskDetailReadModel (resultId : TaskId → String) (db : Database) (task : LoadTestTask) :
    TaskDetail :=
  let parameters := task.parameters.dictOrEmpty
  { id := task.id
    name := task.name
    status := task.status.value
    engine := task.engine
    scriptPath := task.scriptPath
    targetUrl := task.targetUrl
    targetAppId := (targetIds task).1
    targetProfileId := (targetIds task).2
    createdAt := task.createdAt
    updatedAt := task.updatedAt
    scheduledAt := task.scheduledAt
    startedAt := task.startedAt
    finishedAt := task.finishedAt
    errorMessage := task.errorMessage
    parameters := taskParameterSummary task
    execution := ((parameters.get? "execution").getD .null).dictOrEmpty
    distribution := ((parameters.get? "distribution").getD .null).dictOrEmpty
    result := taskResultStatus resultId db task
    warnings := [] }

structure SingleTaskShard where
  taskId : TaskId
  mode : String
  shards : List Json
  status : String
  reason : String

/-- `single_task_shard_read_model`. -/
def singleTaskShardReadModel (task : LoadTestTask) : SingleTaskShard where
  taskId := task.id
  mode := "single"
  shards := []
  status := "not_applicable"
  reason := "Task is not configured for manual shard distribution."

/-! ### The views -/

/-- The answers to a read; HTTP 200, 404, 403 and 500. -/
inductive ReadResponse (Body : Type) where
  | ok (body : Body)
  | notFound (detail : String)
  | accessDenied
  | serverError

/-- A stored plan, or the model of a demo task that has none. -/
inductive ShardPlanBody where
  | plan (stored : Json)
  | single (model : SingleTaskShard)

structure ArtifactNotFound where
  taskId : TaskId
  artifactId : String
  detail : String
  warnings : List ReadModelWarning

/-- `artifact_not_found_read_model`. -/
def artifactNotFoundReadModel (task : LoadTestTask) (artifactId : String) : ArtifactNotFound where
  taskId := task.id
  artifactId := artifactId
  detail := "Artifact not found for this task."
  warnings := [⟨"artifact_not_found", "The requested artifact does not exist for this task."⟩]

/-- The answers to a download. -/
inductive DownloadResponse where
  | forbidden
  | taskNotFound (detail : String)
  | artifactNotFound (model : ArtifactNotFound)
  | notImplemented (model : DownloadPlaceholder)

def taskNotFound (id : TaskId) : String := s!"Task '{id}' not found."

section Views

variable [Runtime] (deployment : Deployment) (headers : Headers) (resultId : TaskId → String)
  (store : Store) (id : TaskId)

/-- `_can_read_demo_task`. -/
def canReadDemoTask (task : LoadTestTask) : Except Exc Bool :=
  if hasSharedApiToken deployment.settings headers then .ok true
  else if deployment.settings.enableDemoTaskApi then isSafeDemoTask deployment.catalog task
  else .ok false

/-- What the views of one task share. -/
def readTask {Body : Type} (view : LoadTestTask → ReadResponse Body) : ReadResponse Body :=
  match store.db.tasks.find? id with
  | none => .notFound (taskNotFound id)
  | some task =>
      match canReadDemoTask deployment headers task with
      | .error _ => .serverError
      | .ok false => .accessDenied
      | .ok true => view task

/-- `TaskDetailView.get`. -/
def taskDetailView : ReadResponse TaskDetail :=
  readTask deployment headers store id fun task =>
    .ok (taskDetailReadModel resultId store.db task)

/-- The body of `TaskShardPlanView.get`, for a task that may be read. A task without a
plan is checked once more. -/
def shardPlanOf (task : LoadTestTask) : ReadResponse ShardPlanBody :=
  match entryField task.parameters.orEmpty "shard_execution_plan" with
  | .error _ => .serverError
  | .ok plan =>
      if plan.truthy then .ok (.plan plan)
      else
        match isSafeDemoTask deployment.catalog task with
        | .error _ => .serverError
        | .ok true => .ok (.single (singleTaskShardReadModel task))
        | .ok false => .notFound "No shard execution plan exists for this task."

/-- `TaskShardPlanView.get`. -/
def taskShardPlanView : ReadResponse ShardPlanBody :=
  readTask deployment headers store id (shardPlanOf deployment)

/-- `TaskResultSummaryView.get`. -/
def taskResultSummaryView : ReadResponse ResultSummary :=
  readTask deployment headers store id fun task => .ok (resultSummaryReadModel store.db task)

/-- `TaskArtifactsView.get`. -/
def taskArtifactsView : ReadResponse ArtifactListing :=
  readTask deployment headers store id fun task => .ok (artifactMetadataReadModel store task)

omit [Runtime] in
/-- `TaskArtifactDownloadView.get`, behind the default permission of the API. -/
def taskArtifactDownloadView (artifactId : String) : DownloadResponse :=
  if hasSharedApiToken deployment.settings headers then
    match store.db.tasks.find? id with
    | none => .taskNotFound (taskNotFound id)
    | some task =>
        match artifactDownloadPlaceholderReadModel store task artifactId with
        | none => .artifactNotFound (artifactNotFoundReadModel task artifactId)
        | some placeholder => .notImplemented placeholder
  else .forbidden

/-- Everything that a client can read of one task. -/
structure TaskReads where
  detail : ReadResponse TaskDetail
  shardPlan : ReadResponse ShardPlanBody
  resultSummary : ReadResponse ResultSummary
  artifacts : ReadResponse ArtifactListing
  download : String → DownloadResponse

def taskReads : TaskReads where
  detail := taskDetailView deployment headers resultId store id
  shardPlan := taskShardPlanView deployment headers store id
  resultSummary := taskResultSummaryView deployment headers store id
  artifacts := taskArtifactsView deployment headers store id
  download := taskArtifactDownloadView deployment headers store id

/-- What becomes of the question whether the client may read the task, none where it
raises; there is no question for a task that does not exist. -/
def verdict : Option (Option Bool) :=
  (store.db.tasks.find? id).map fun task => (canReadDemoTask deployment headers task).toOption

end Views

/-! ### What the reads depend on -/

/-- Both stores hold the same of a task: its row, its result and its artifacts. -/
structure SameRecord (store store' : Store) (id : TaskId) : Prop where
  row : store.db.tasks.find? id = store'.db.tasks.find? id
  result : store.db.results.find? id = store'.db.results.find? id
  artifact : ∀ artifactId,
    store.artifacts.find? (id, artifactId) = store'.artifacts.find? (id, artifactId)

namespace SameRecord

variable {store store' store'' : Store} {id : TaskId}

theorem refl (store : Store) (id : TaskId) : SameRecord store store id :=
  ⟨rfl, rfl, fun _ => rfl⟩

theorem trans (h : SameRecord store store' id) (k : SameRecord store' store'' id) :
    SameRecord store store'' id :=
  ⟨h.row.trans k.row, h.result.trans k.result,
    fun artifactId => (h.artifact artifactId).trans (k.artifact artifactId)⟩

variable {task : LoadTestTask}

theorem derivedArtifactItems (same : SameRecord store store' task.id) :
    derivedArtifactItems store.db task = derivedArtifactItems store'.db task := by
  unfold ControlPlane.derivedArtifactItems
  refine List.map_congr_left ?_
  intro spec _
  unfold artifactItem rawReportOf
  rw [same.result]

/-- The listing of a task is a sorted list of the items under its identifiers. -/
theorem mergedArtifactItems (same : SameRecord store store' task.id) :
    mergedArtifactItems store task = mergedArtifactItems store' task := by
  have mem_iff (item : ArtifactItem) : item ∈ ControlPlane.mergedArtifactItems store task ↔
      item ∈ ControlPlane.mergedArtifactItems store' task := by
    rw [mem_mergedArtifactItems, mem_mergedArtifactItems, find?_mergedArtifactTable,
      find?_mergedArtifactTable, same.artifact, same.derivedArtifactItems]
  have ascending (store : Store) : (ControlPlane.mergedArtifactItems store task).Pairwise
      fun item item' => item.artifactId < item'.artifactId :=
    List.pairwise_map.mp mergedArtifactItems_ascending
  have nodup (store : Store) : (ControlPlane.mergedArtifactItems store task).Nodup := by
    refine (ascending store).imp ?_
    rintro item _ less rfl
    exact lt_irrefl _ less
  refine List.Perm.eq_of_pairwise ?_ (ascending store) (ascending store') ?_
  · intro item item' _ _ less greater
    exact absurd (less.trans greater) (lt_irrefl _)
  · exact (List.perm_ext_iff_of_nodup (nodup store) (nodup store')).mpr mem_iff

/-- What a client reads of a task depends on the record of this task only. -/
theorem taskReads [Runtime] (same : SameRecord store store' id)
    {resultId resultId' : TaskId → String} (ids : resultId id = resultId' id)
    (deployment : Deployment) (headers : Headers) :
    taskReads deployment headers resultId store id =
      taskReads deployment headers resultId' store' id := by
  have read {Body : Type} (view view' : LoadTestTask → ReadResponse Body)
      (agree : ∀ task, task.id = id → view task = view' task) :
      readTask deployment headers store id view = readTask deployment headers store' id view' := by
    unfold readTask
    rw [← same.row]
    cases stored : store.db.tasks.find? id with
    | none => rfl
    | some task => simp only [agree task (Table.find?_eq_some_iff.mp stored).2]
  have detail : taskDetailView deployment headers resultId store id =
      taskDetailView deployment headers resultId' store' id := by
    refine read _ _ ?_
    rintro task rfl
    simp only [taskDetailReadModel, taskResultStatus, same.result, ids]
  have summary : taskResultSummaryView deployment headers store id =
      taskResultSummaryView deployment headers store' id := by
    refine read _ _ ?_
    rintro task rfl
    simp only [resultSummaryReadModel, same.result]
  have artifacts : taskArtifactsView deployment headers store id =
      taskArtifactsView deployment headers store' id := by
    refine read _ _ ?_
    rintro task rfl
    simp only [artifactMetadataReadModel, same.mergedArtifactItems]
  have download : taskArtifactDownloadView deployment headers store id =
      taskArtifactDownloadView deployment headers store' id := by
    funext artifactId
    unfold taskArtifactDownloadView
    rw [← same.row]
    cases stored : store.db.tasks.find? id with
    | none => rfl
    | some task =>
        obtain ⟨_, rfl⟩ := Table.find?_eq_some_iff.mp stored
        simp only [artifactDownloadPlaceholderReadModel, artifactItemForDownload,
          same.mergedArtifactItems]
  have plan : taskShardPlanView deployment headers store id =
      taskShardPlanView deployment headers store' id := read _ _ fun _ _ => rfl
  rw [ControlPlane.taskReads, ControlPlane.taskReads, detail, plan, summary, artifacts, download]

end SameRecord

/-! ### Clients without the token -/

section Tokenless

variable [Runtime] {deployment : Deployment} {headers : Headers}
  {resultId resultId' : TaskId → String} {store store' : Store} {id : TaskId}

/-- The stores agree on the tasks that are safe demos in either of them. -/
def SameDemoRecords (catalog : Catalog) (resultId resultId' : TaskId → String)
    (store store' : Store) : Prop :=
  ∀ id task, store.db.tasks.find? id = some task ∨ store'.db.tasks.find? id = some task →
    IsSafeDemoTask catalog task → SameRecord store store' id ∧ resultId id = resultId' id

/-- Without the token only safe demos may be read. -/
theorem isSafeDemoTask_of_canRead (noToken : hasSharedApiToken deployment.settings headers = false)
    {task : LoadTestTask} (can : canReadDemoTask deployment headers task = .ok true) :
    IsSafeDemoTask deployment.catalog task := by
  unfold canReadDemoTask at can
  unfold IsSafeDemoTask
  rw [noToken] at can
  cases enabled : deployment.settings.enableDemoTaskApi with
  | false => simp [enabled] at can
  | true => simpa [enabled] using can

/-- A read of a stored task looks at the verdict first. -/
theorem readTask_of_stored {Body : Type} {view : LoadTestTask → ReadResponse Body}
    {task : LoadTestTask} (stored : store.db.tasks.find? id = some task) :
    readTask deployment headers store id view =
      match (canReadDemoTask deployment headers task).toOption with
      | none => .serverError
      | some false => .accessDenied
      | some true => view task := by
  unfold readTask
  rw [stored]
  dsimp only
  cases canReadDemoTask deployment headers task with
  | error e => rfl
  | ok readable => cases readable <;> rfl

/-- A read of a task that may not be read shows its verdict. -/
theorem readTask_of_verdict {Body : Type} {view view' : LoadTestTask → ReadResponse Body}
    (same : verdict deployment headers store id = verdict deployment headers store' id)
    (unreadable : verdict deployment headers store id ≠ some (some true)) :
    readTask deployment headers store id view = readTask deployment headers store' id view' := by
  unfold verdict at same unreadable
  cases stored : store.db.tasks.find? id with
  | none =>
      rw [stored] at same
      unfold readTask
      rw [stored, Option.map_eq_none_iff.mp same.symm]
  | some task =>
      rw [stored] at same unreadable
      obtain ⟨task', stored', shown⟩ := Option.map_eq_some_iff.mp same.symm
      rw [readTask_of_stored stored, readTask_of_stored stored', shown]
      dsimp only
      cases answer : (canReadDemoTask deployment headers task).toOption with
      | none => rfl
      | some readable =>
          cases readable with
          | false => rfl
          | true => exact absurd (congrArg some answer) unreadable

/-- The detail view shows the verdict. -/
theorem verdict_of_detail (same : taskDetailView deployment headers resultId store id =
    taskDetailView deployment headers resultId' store' id) :
    verdict deployment headers store id = verdict deployment headers store' id := by
  have shown (resultId : TaskId → String) (store : Store) : verdict deployment headers store id =
      match taskDetailView deployment headers resultId store id with
      | .ok _ => some (some true)
      | .notFound _ => none
      | .accessDenied => some (some false)
      | .serverError => some none := by
    unfold verdict taskDetailView
    cases stored : store.db.tasks.find? id with
    | none =>
        unfold readTask
        rw [stored]
        rfl
    | some task =>
        rw [readTask_of_stored stored, Option.map_some]
        cases (canReadDemoTask deployment headers task).toOption with
        | none => rfl
        | some readable => cases readable <;> rfl
  rw [shown resultId, shown resultId', same]

/-- Of two stores that agree on the safe demos, a client without the token reads the
same if and only if the verdicts agree: of any other task it learns whether it exists
and, with the demo switched on, whether the check of it raises. -/
theorem tokenlessReads_agree_iff
    (noToken : hasSharedApiToken deployment.settings headers = false)
    (demos : SameDemoRecords deployment.catalog resultId resultId' store store') :
    (∀ id, taskReads deployment headers resultId store id =
        taskReads deployment headers resultId' store' id) ↔
      ∀ id, verdict deployment headers store id = verdict deployment headers store' id := by
  constructor
  · intro same id
    exact verdict_of_detail (congrArg TaskReads.detail (same id))
  · intro same id
    by_cases readable : verdict deployment headers store id = some (some true)
    · obtain ⟨task, stored, answered⟩ := Option.map_eq_some_iff.mp readable
      have can : canReadDemoTask deployment headers task = .ok true := by
        cases answer : canReadDemoTask deployment headers task with
        | error e => simp [answer, Except.toOption] at answered
        | ok readable => simpa [answer, Except.toOption] using answered
      obtain ⟨record, ids⟩ := demos id task (.inl stored) (isSafeDemoTask_of_canRead noToken can)
      exact record.taskReads ids deployment headers
    · have download : taskArtifactDownloadView deployment headers store id =
          taskArtifactDownloadView deployment headers store' id := by
        funext artifactId
        simp [taskArtifactDownloadView, noToken]
      rw [taskReads, taskReads, download, taskDetailView, taskDetailView, taskShardPlanView,
        taskShardPlanView, taskResultSummaryView, taskResultSummaryView, taskArtifactsView,
        taskArtifactsView]
      congr 1
      · exact readTask_of_verdict (same id) readable
      · exact readTask_of_verdict (same id) readable
      · exact readTask_of_verdict (same id) readable
      · exact readTask_of_verdict (same id) readable

end Tokenless

/-! ### A task that only its target tells apart -/

/-- The safe task beside the forged one, with a target of its own. -/
def forgedAt (targetUrl : String) : Store where
  db := ⟨⟨[{ forgedTask with targetUrl }, smokeTask], (by decide : ["forged", "safe"].Nodup)⟩,
    Table.empty, Table.empty⟩
  artifacts := Table.empty

theorem find?_forgedAt (targetUrl : String) (id : TaskId) :
    (forgedAt targetUrl).db.tasks.find? id =
      if id = "forged" then some { forgedTask with targetUrl }
      else if id = "safe" then some smokeTask else none := by
  simp only [forgedAt, Table.find?, List.find?_cons, List.find?_nil, forgedTask, smokeTask]
  by_cases forged : id = "forged"
  · simp [forged]
  · by_cases safe : id = "safe"
    · simp [safe]
    · simp [forged, safe, Ne.symm forged, Ne.symm safe]

/-- Without the token the two targets cannot be told apart. -/
theorem forgedTargets_agree :
    @taskReads asciiRuntime demoDeployment noHeaders (fun _ => "r")
        (forgedAt "http://internal:9000") "forged" =
      @taskReads asciiRuntime demoDeployment noHeaders (fun _ => "r")
        (forgedAt "http://internal:9001") "forged" := by
  let _ := asciiRuntime
  have denied : ∀ url ∈ ["http://internal:9000", "http://internal:9001"],
      isSafeDemoTask demoDeployment.catalog { forgedTask with targetUrl := url } = .ok false := by
    simp only [List.forall_mem_cons]
    exact ⟨rfl, rfl, fun _ mem => absurd mem List.not_mem_nil⟩
  have demos : SameDemoRecords demoDeployment.catalog (fun _ => "r") (fun _ => "r")
      (forgedAt "http://internal:9000") (forgedAt "http://internal:9001") := by
    intro id task stored safe
    rw [find?_forgedAt, find?_forgedAt] at stored
    have other : id ≠ "forged" := by
      rintro rfl
      simp only [if_true, Option.some.injEq] at stored
      unfold IsSafeDemoTask at safe
      rcases stored with rfl | rfl
      · rw [denied _ (by simp)] at safe
        cases safe
      · rw [denied _ (by simp)] at safe
        cases safe
    exact ⟨⟨by rw [find?_forgedAt, find?_forgedAt, if_neg other, if_neg other], rfl,
      fun _ => rfl⟩, rfl⟩
  refine (tokenlessReads_agree_iff noHeaders_noToken demos).mpr ?_ "forged"
  intro id
  unfold verdict
  rw [find?_forgedAt, find?_forgedAt]
  split
  · rfl
  · rfl

end PLoadtesting.ControlPlane
