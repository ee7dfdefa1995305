import PLoadtesting.ControlPlane.DemoAccess

/-!
`GET /api/tasks/` (`apps/tasks/views.py`): the task history, which a deployment
with the demo switched on also gives without the token.

The demo reading filters twice. The database keeps the tasks that carry the demo
marks, the slice and the count are taken of those, and only the sliced rows are
then checked against the template. A task with forged marks is therefore counted
and takes a place in the slice. `sameHistory_iff` says when nothing of it shows.
-/

namespace PLoadtesting.ControlPlane

open Keyed Python

/-- The values of `LoadTestTask.Status`. -/
def TaskStatus.value : TaskStatus → String
  | .pending => "pending"
  | .scheduled => "scheduled"
  | .dispatched => "dispatched"
  | .running => "running"
  | .completed => "completed"
  | .failed => "failed"
  | .cancelled => "cancelled"

/-- The two query parameters. -/
structure HistoryQuery where
  status : Option String
  limit : Option String

/-! ### The read model -/

/-- `a or b`. -/
def orElse (a b : Json) : Json := if a.truthy then a else b

/-- `_target_ids`: the ids among the parameters, or the first shard's. -/
def targetIds (task : LoadTestTask) : Json × Json :=
  let parameters := task.parameters.dictOrEmpty
  let plan := ((parameters.get? "shard_execution_plan").getD .null).dictOrEmpty
  let firstShard : Dict Json :=
    match (plan.get? "shards").getD .null with
    | .arr (shard :: _) => shard.dictOrEmpty
    | _ => Table.empty
  (orElse ((parameters.get? "target_app_id").getD .null)
      ((firstShard.get? "target_app_id").getD .null),
    orElse ((parameters.get? "target_profile_id").getD .null)
      ((firstShard.get? "target_profile_id").getD .null))

/-- `task_history_item`. -/
structure HistoryItem where
  id : TaskId
  status : String
  targetAppId : Json
  targetProfileId : Json
  engine : String
  createdAt : Timestamp
  updatedAt : Timestamp

def taskHistoryItem (task : LoadTestTask) : HistoryItem where
  id := task.id
  status := task.status.value
  targetAppId := (targetIds task).1
  targetProfileId := (targetIds task).2
  engine := task.engine
  createdAt := task.createdAt
  updatedAt := task.updatedAt

/-- `summary`. -/
structure HistorySummary where
  count : Nat
  limit : Nat
  totalAvailable : Nat
deriving DecidableEq

/-- The answers of the endpoint. -/
inductive HistoryResponse where
  | ok (summary : HistorySummary) (items : List HistoryItem)
  | accessDenied
  | serverError (e : Exc)

/-! ### The query -/

/-- `ordering = ["-created_at"]`. -/
def newestFirst (tasks : List LoadTestTask) : List LoadTestTask :=
  tasks.insertionSort fun s t => t.createdAt ≤ s.createdAt

/-- The rows that `_demo_task_queryset` keeps. -/
def LoadTestTask.isMarkedDemo (task : LoadTestTask) : Bool :=
  let parameters := task.parameters.dictOrEmpty
  ((parameters.get? "task_operation_mode").getD .null).eqStr demoTaskOperationMode &&
    ((parameters.get? "target_app_id").getD .null).eqStr safeDemoTargetAppId &&
    safeDemoProfileIds.any ((parameters.get? "target_profile_id").getD .null).eqStr

/-- `queryset.filter(status=status_filter)`, for a filter that is not empty. -/
def HistoryQuery.admits (query : HistoryQuery) (task : LoadTestTask) : Bool :=
  match query.status with
  | none => true
  | some status => status = "" || decide (task.status.value = status)

/-- `int(limit)`, clamped; what is no integer is 20. -/
def HistoryQuery.limitValue (query : HistoryQuery) (demoRead : Bool) : Nat :=
  let limit := (parseInt (query.limit.getD "20")).getD 20
  (max 1 (min limit (if demoRead then 20 else 100))).toNat

section Reading

variable [Runtime]

/-- `[task for task in tasks if _is_safe_demo_task(task)]`. -/
def keepSafeDemoTasks (catalog : Catalog) : List LoadTestTask → Except Exc (List LoadTestTask)
  | [] => .ok []
  | task :: tasks => do
      let safe ← isSafeDemoTask catalog task
      let rest ← keepSafeDemoTasks catalog tasks
      return if safe then task :: rest else rest

/-- `TaskListCreateView.list`. -/
def listTasks (deployment : Deployment) (headers : Headers) (db : Database)
    (query : HistoryQuery) : HistoryResponse :=
  let sharedAccess := hasSharedApiToken deployment.settings headers
  if !sharedAccess && !deployment.settings.enableDemoTaskApi then .accessDenied
  else
    let demoRead := !sharedAccess
    let queryset := newestFirst db.tasks.rows
    let queryset := if demoRead then queryset.filter LoadTestTask.isMarkedDemo else queryset
    let queryset := queryset.filter query.admits
    let limit := query.limitValue demoRead
    let tasks := queryset.take limit
    match (if demoRead then keepSafeDemoTasks deployment.catalog tasks else .ok tasks) with
    | .error e => .serverError e
    | .ok tasks =>
        .ok ⟨tasks.length, limit, queryset.length⟩ (tasks.map taskHistoryItem)

/-! ### The history of the safe tasks -/

/-- `_is_safe_demo_task` says yes. -/
def IsSafeDemoTask (catalog : Catalog) (task : LoadTestTask) : Prop :=
  isSafeDemoTask catalog task = .ok true

instance (catalog : Catalog) (task : LoadTestTask) : Decidable (IsSafeDemoTask catalog task) :=
  match h : isSafeDemoTask catalog task with
  | .ok true => .isTrue h
  | .ok false => .isFalse (by simp [IsSafeDemoTask, h])
  | .error _ => .isFalse (by simp [IsSafeDemoTask, h])

/-- The safe demo tasks of the database, the newest first. -/
def safeDemoTasks (catalog : Catalog) (db : Database) : List LoadTestTask :=
  (newestFirst db.tasks.rows).filter fun task => decide (IsSafeDemoTask catalog task)

/-- Databases with the same safe demo tasks have them in the same order, if no
two of them were created at one instant. -/
theorem safeDemoTasks_eq {catalog : Catalog} {db db' : Database}
    (same : ∀ task, IsSafeDemoTask catalog task → (task ∈ db.tasks ↔ task ∈ db'.tasks))
    (distinct : ∀ s ∈ db.tasks, ∀ t ∈ db.tasks, IsSafeDemoTask catalog s →
      IsSafeDemoTask catalog t → s.createdAt = t.createdAt → s = t) :
    safeDemoTasks catalog db = safeDemoTasks catalog db' := by
  have mem_iff : ∀ (db : Database) (task : LoadTestTask),
      task ∈ safeDemoTasks catalog db ↔ task ∈ db.tasks ∧ IsSafeDemoTask catalog task := by
    intro db task
    simp only [safeDemoTasks, newestFirst, List.mem_filter, List.mem_insertionSort,
      decide_eq_true_eq, Table.mem_def]
  have nodup : ∀ db : Database, (safeDemoTasks catalog db).Nodup := by
    intro db
    refine List.Nodup.filter _ ?_
    rw [newestFirst, List.Perm.nodup_iff (List.perm_insertionSort _ _)]
    exact List.Nodup.of_map _ db.tasks.keysNodup
  have sorted : ∀ db : Database,
      (safeDemoTasks catalog db).Pairwise fun s t => t.createdAt ≤ s.createdAt := by
    intro db
    let total : Std.Total fun s t : LoadTestTask => t.createdAt ≤ s.createdAt :=
      ⟨fun s t => Int.le_total t.createdAt s.createdAt⟩
    let trans : IsTrans LoadTestTask fun s t => t.createdAt ≤ s.createdAt :=
      ⟨fun _ _ _ h k => Int.le_trans k h⟩
    exact (List.pairwise_insertionSort _ _).filter _
  refine List.Perm.eq_of_pairwise ?_ (sorted db) (sorted db') ?_
  · intro s t hs ht le ge
    obtain ⟨sMem, sSafe⟩ := (mem_iff db s).mp hs
    obtain ⟨tMem, tSafe⟩ := (mem_iff db' t).mp ht
    exact distinct s sMem t ((same t tSafe).mpr tMem) sSafe tSafe (Int.le_antisymm ge le)
  · refine (List.perm_ext_iff_of_nodup (nodup db) (nodup db')).mpr ?_
    intro task
    rw [mem_iff, mem_iff]
    constructor
    · rintro ⟨mem, safe⟩
      exact ⟨(same task safe).mp mem, safe⟩
    · rintro ⟨mem, safe⟩
      exact ⟨(same task safe).mpr mem, safe⟩

/-- What the history of these tasks is, when there are no others. -/
def safeHistory (safe : List LoadTestTask) (query : HistoryQuery) : HistoryResponse :=
  let matching := safe.filter query.admits
  let tasks := matching.take (query.limitValue true)
  .ok ⟨tasks.length, query.limitValue true, matching.length⟩ (tasks.map taskHistoryItem)

/-- Every stored task that carries the demo marks and matches the filter is a
safe demo task. -/
def NothingHidden (catalog : Catalog) (db : Database) (query : HistoryQuery) : Prop :=
  ∀ task ∈ db.tasks, task.isMarkedDemo = true → query.admits task = true →
    IsSafeDemoTask catalog task

section History

variable {catalog : Catalog} {db : Database} {query : HistoryQuery}

/-- A safe demo task carries the demo marks. -/
theorem isMarkedDemo_of_isSafe {task : LoadTestTask} (safe : IsSafeDemoTask catalog task) :
    task.isMarkedDemo = true := by
  unfold IsSafeDemoTask isSafeDemoTask at safe
  dsimp only at safe
  split at safe
  · rename_i mode
    obtain ⟨profiled, profile_eq, safe⟩ := bind_ok_iff.mp safe
    cases profiled with
    | false => cases safe
    | true =>
        obtain ⟨app, profile, mem, sameProfile⟩ := isSafeDemoProfile_true_iff.mp profile_eq
        simp only [LoadTestTask.isMarkedDemo, Bool.and_eq_true, List.any_eq_true]
        exact ⟨⟨mode, Json.eqStr_iff.mpr app⟩, profile, mem, Json.eqStr_iff.mpr sameProfile⟩
  · cases safe

theorem keepSafeDemoTasks_of_safe {tasks : List LoadTestTask}
    (safe : ∀ task ∈ tasks, IsSafeDemoTask catalog task) :
    keepSafeDemoTasks catalog tasks = .ok tasks := by
  induction tasks with
  | nil => rfl
  | cons task tasks ih =>
      have first : isSafeDemoTask catalog task = .ok true := safe task List.mem_cons_self
      have rest := ih fun other mem => safe other (List.mem_cons_of_mem _ mem)
      unfold keepSafeDemoTasks
      rw [first, rest]
      rfl

/-- The rows that the demo reading slices and counts. -/
def markedTasks (db : Database) (query : HistoryQuery) : List LoadTestTask :=
  ((newestFirst db.tasks.rows).filter LoadTestTask.isMarkedDemo).filter query.admits

omit [Runtime] in
theorem mem_markedTasks {task : LoadTestTask} : task ∈ markedTasks db query ↔
    task ∈ db.tasks ∧ task.isMarkedDemo = true ∧ query.admits task = true := by
  simp only [markedTasks, newestFirst, List.mem_filter, List.mem_insertionSort, Table.mem_def,
    and_assoc]

/-- The safe ones among them are all the safe tasks that match the filter. -/
theorem filter_markedTasks :
    (markedTasks db query).filter (fun task => decide (IsSafeDemoTask catalog task)) =
      (safeDemoTasks catalog db).filter query.admits := by
  unfold markedTasks safeDemoTasks
  rw [List.filter_filter, List.filter_filter, List.filter_filter]
  refine List.filter_congr ?_
  intro task _
  by_cases safe : IsSafeDemoTask catalog task
  · simp [safe, isMarkedDemo_of_isSafe safe]
  · simp [safe]

theorem nothingHidden_iff : NothingHidden catalog db query ↔
    ∀ task ∈ markedTasks db query, IsSafeDemoTask catalog task := by
  constructor
  · intro nothing task mem
    obtain ⟨stored, marked, admitted⟩ := mem_markedTasks.mp mem
    exact nothing task stored marked admitted
  · intro safe task stored marked admitted
    exact safe task (mem_markedTasks.mpr ⟨stored, marked, admitted⟩)

/-- Without the token the history is the safe tasks' history if and only if
nothing is hidden. -/
theorem listTasks_eq_iff {deployment : Deployment} {headers : Headers}
    (noToken : hasSharedApiToken deployment.settings headers = false)
    (enabled : deployment.settings.enableDemoTaskApi = true) (db : Database)
    (query : HistoryQuery) :
    listTasks deployment headers db query =
        safeHistory (safeDemoTasks deployment.catalog db) query ↔
      NothingHidden deployment.catalog db query := by
  have unfolded : listTasks deployment headers db query =
      match keepSafeDemoTasks deployment.catalog
          ((markedTasks db query).take (query.limitValue true)) with
      | .error e => .serverError e
      | .ok tasks => .ok ⟨tasks.length, query.limitValue true, (markedTasks db query).length⟩
          (tasks.map taskHistoryItem) := by
    simp [listTasks, noToken, enabled, markedTasks]
  rw [unfolded, nothingHidden_iff]
  have safeOnes := @filter_markedTasks _ deployment.catalog db query
  constructor
  · intro same
    split at same
    · cases same
    · -- The counts agree, so no marked task is dropped by the check.
      rename_i tasks kept
      have counted : (markedTasks db query).length =
          ((safeDemoTasks deployment.catalog db).filter query.admits).length := by
        injection same with summary
        exact congrArg HistorySummary.totalAvailable summary
      rw [← safeOnes, eq_comm, List.length_filter_eq_length_iff] at counted
      intro task mem
      exact of_decide_eq_true (counted task mem)
  · intro safe
    have all : markedTasks db query =
        (safeDemoTasks deployment.catalog db).filter query.admits := by
      rw [← safeOnes, eq_comm, List.filter_eq_self]
      intro task mem
      exact decide_eq_true (safe task mem)
    have kept : keepSafeDemoTasks deployment.catalog
        ((markedTasks db query).take (query.limitValue true)) = .ok _ :=
      keepSafeDemoTasks_of_safe fun task mem => safe task (List.mem_of_mem_take mem)
    rw [kept, safeHistory, all]

/-- Two databases with the same safe demo tasks show the same history, that of
the safe tasks, if and only if neither hides anything. -/
theorem sameHistory_iff {deployment : Deployment} {headers : Headers}
    (noToken : hasSharedApiToken deployment.settings headers = false)
    (enabled : deployment.settings.enableDemoTaskApi = true) {db db' : Database}
    (sameSafe : safeDemoTasks deployment.catalog db = safeDemoTasks deployment.catalog db')
    (query : HistoryQuery) :
    (listTasks deployment headers db query = listTasks deployment headers db' query ∧
        listTasks deployment headers db query =
          safeHistory (safeDemoTasks deployment.catalog db) query) ↔
      NothingHidden deployment.catalog db query ∧ NothingHidden deployment.catalog db' query := by
  rw [← listTasks_eq_iff noToken enabled db query, ← listTasks_eq_iff noToken enabled db' query,
    ← sameSafe]
  constructor
  · rintro ⟨same, history⟩
    exact ⟨history, same ▸ history⟩
  · rintro ⟨history, history'⟩
    exact ⟨history.trans history'.symm, history⟩

/-- The history without the token depends on the safe demo tasks only. -/
def HistoryNoninterference : Prop :=
  ∀ (deployment : Deployment) (headers : Headers) (db db' : Database) (query : HistoryQuery),
    hasSharedApiToken deployment.settings headers = false →
    deployment.settings.enableDemoTaskApi = true →
    safeDemoTasks deployment.catalog db = safeDemoTasks deployment.catalog db' →
    listTasks deployment headers db query = listTasks deployment headers db' query ∧
      listTasks deployment headers db query =
        safeHistory (safeDemoTasks deployment.catalog db) query

end History

end Reading

/-! ### A forged mark -/

/-- A demo task of the smoke profile. -/
def smokeTask : LoadTestTask where
  id := "safe"
  name := "Echo Smoke via k6"
  engine := "k6"
  scriptPath := "engines/k6/target_apps_echo_smoke.js"
  parameters := .obj [("target_app_id", .str "echo-api"),
    ("target_profile_id", .str "echo-k6-smoke"),
    ("task_operation_mode", .str "deployment_smoke"),
    ("execution", .obj [("duration_seconds", .int 10), ("max_run_seconds", .int 30)])]
  targetUrl := "http://echo-api:8000"
  scheduledAt := none
  startedAt := none
  finishedAt := none
  status := .pending
  worker := none
  errorMessage := ""
  createdBy := ""
  createdAt := 0
  updatedAt := 0

/-- A task of a client with the token that carries the demo marks among its free
parameters and another target. -/
def forgedTask : LoadTestTask :=
  { smokeTask with id := "forged", targetUrl := "http://internal:9000", createdAt := 1 }

/-- The safe task alone, and beside the forged one. -/
def safeOnly : Database := ⟨⟨[smokeTask], by decide⟩, Table.empty, Table.empty⟩

def withForged : Database := ⟨⟨[forgedTask, smokeTask], by decide⟩, Table.empty, Table.empty⟩

def anyTask : HistoryQuery := ⟨none, none⟩

/-- The forged task is counted in `total_available`. -/
theorem forgedTask_shows : @listTasks asciiRuntime demoDeployment noHeaders safeOnly anyTask ≠
    @listTasks asciiRuntime demoDeployment noHeaders withForged anyTask := by
  let _ := asciiRuntime
  intro same
  have one : listTasks demoDeployment noHeaders safeOnly anyTask =
      .ok ⟨1, 20, 1⟩ [taskHistoryItem smokeTask] := rfl
  have two : listTasks demoDeployment noHeaders withForged anyTask =
      .ok ⟨1, 20, 2⟩ [taskHistoryItem smokeTask] := rfl
  rw [one, two] at same
  injection same with summary
  exact absurd summary (by decide)

theorem sameSafe_withForged : @safeDemoTasks asciiRuntime demoDeployment.catalog safeOnly =
    @safeDemoTasks asciiRuntime demoDeployment.catalog withForged := rfl

theorem noHeaders_noToken : hasSharedApiToken demoDeployment.settings noHeaders = false := by
  decide

theorem forgedTask_interferes : ¬ @HistoryNoninterference asciiRuntime := by
  intro noninterference
  exact forgedTask_shows (@noninterference demoDeployment noHeaders safeOnly withForged anyTask
    noHeaders_noToken rfl sameSafe_withForged).1

/-- The iff for that pair: the second database hides a task. -/
theorem forgedTask_hidden : ¬ (@NothingHidden asciiRuntime demoDeployment.catalog safeOnly anyTask ∧
    @NothingHidden asciiRuntime demoDeployment.catalog withForged anyTask) := by
  let _ := asciiRuntime
  intro nothing
  exact forgedTask_shows
    ((sameHistory_iff noHeaders_noToken rfl sameSafe_withForged anyTask).mpr nothing).1

end PLoadtesting.ControlPlane
