import PLoadtesting.ControlPlane.TaskReads
import PLoadtesting.System.Evidence
import PLoadtesting.System.TaskRecord

/-!
The life of one task over runs of the whole store, artifacts included.

Whichever request is served, the record of a task (its row and its result) takes one
of five steps (`RecordStep`). Two of the writes need a pending row and the other two a
task without a result, so a finished task stays as it is in all reads
(`finished_frozen`); and none of them touches a column that the request filled, so what
was accepted can be read back in every later state (`accepted_shown`).
-/

namespace PLoadtesting.System

open Keyed Python Transaction ControlPlane Transition

/-! ### The steps of a record -/

/-- The row of a task, and its result. -/
def recordOf (db : Database) (id : TaskId) : Option (LoadTestTask × Option TestResult) :=
  (db.tasks.find? id).map fun row => (row, db.results.find? id)

/-- What a request can do to the record of a task that is stored. -/
inductive RecordStep (now : Timestamp) :
    LoadTestTask × Option TestResult → LoadTestTask × Option TestResult → Prop where
  | kept (record : LoadTestTask × Option TestResult) : RecordStep now record record
  /-- A dispatch without a worker, or one that was not delivered. -/
  | noted {row : LoadTestTask} {result : Option TestResult} (errorMessage : String)
      (pending : row.status = .pending) :
      RecordStep now (row, result) ({ row with errorMessage, updatedAt := now }, result)
  | dispatched {row : LoadTestTask} {result : Option TestResult} (worker : WorkerId)
      (pending : row.status = .pending) :
      RecordStep now (row, result)
        ({ row with
          worker := some worker
          status := .dispatched
          errorMessage := ""
          updatedAt := now }, result)
  | started (row : LoadTestTask) :
      RecordStep now (row, none)
        ({ row with
          status := .running
          errorMessage := ""
          startedAt := row.startedAt.or (some now)
          updatedAt := now }, none)
  | finished (row : LoadTestTask) (report : Report) :
      RecordStep now (row, none)
        ({ row with
          status := if report.failed then .failed else .completed
          errorMessage := if report.failed then report.errorMessage else ""
          startedAt := row.startedAt.or (some now)
          finishedAt := some now
          updatedAt := now }, some ⟨row.id, report.fields, now⟩)

/-- The columns of a request are the same in both rows. -/
structure SameRequest (row row' : LoadTestTask) : Prop where
  id : row'.id = row.id
  name : row'.name = row.name
  work : SameWork row row'
  scheduledAt : row'.scheduledAt = row.scheduledAt
  createdBy : row'.createdBy = row.createdBy
  createdAt : row'.createdAt = row.createdAt

theorem SameRequest.refl (row : LoadTestTask) : SameRequest row row :=
  ⟨rfl, rfl, ⟨rfl, rfl, rfl, rfl⟩, rfl, rfl, rfl⟩

theorem SameRequest.trans {row row' row'' : LoadTestTask} (h : SameRequest row row')
    (k : SameRequest row' row'') : SameRequest row row'' where
  id := k.id.trans h.id
  name := k.name.trans h.name
  work := ⟨k.work.engine.trans h.work.engine, k.work.scriptPath.trans h.work.scriptPath,
    k.work.targetUrl.trans h.work.targetUrl, k.work.parameters.trans h.work.parameters⟩
  scheduledAt := k.scheduledAt.trans h.scheduledAt
  createdBy := k.createdBy.trans h.createdBy
  createdAt := k.createdAt.trans h.createdAt

theorem RecordStep.sameRequest {now : Timestamp} {record record' : LoadTestTask × Option TestResult}
    (step : RecordStep now record record') : SameRequest record.1 record'.1 := by
  cases step with
  | kept => exact .refl record.1
  | noted => exact ⟨rfl, rfl, ⟨rfl, rfl, rfl, rfl⟩, rfl, rfl, rfl⟩
  | dispatched => exact ⟨rfl, rfl, ⟨rfl, rfl, rfl, rfl⟩, rfl, rfl, rfl⟩
  | started => exact ⟨rfl, rfl, ⟨rfl, rfl, rfl, rfl⟩, rfl, rfl, rfl⟩
  | finished => exact ⟨rfl, rfl, ⟨rfl, rfl, rfl, rfl⟩, rfl, rfl, rfl⟩

/-- A finished task is not pending, so nothing is left to do with it. -/
theorem RecordStep.eq_of_finished {now clock : Timestamp} {row : LoadTestTask}
    {result : TestResult} {record' : LoadTestTask × Option TestResult}
    (stage : Stage clock row true) (step : RecordStep now (row, some result) record') :
    record' = (row, some result) := by
  cases step with
  | kept => rfl
  | noted errorMessage pending => exact absurd (stage.of_pending pending).1 (by simp)
  | dispatched worker pending => exact absurd (stage.of_pending pending).1 (by simp)

section Records

variable {db : Database} {id other : TaskId} {now : Timestamp}
  {record : LoadTestTask × Option TestResult}

theorem recordOf_eq_some_iff : recordOf db id = some record ↔
    db.tasks.find? id = some record.1 ∧ db.results.find? id = record.2 := by
  unfold recordOf
  rw [Option.map_eq_some_iff]
  constructor
  · rintro ⟨row, found, rfl⟩
    exact ⟨found, rfl⟩
  · rintro ⟨found, result⟩
    exact ⟨record.1, found, by rw [result]⟩

theorem recordOf_updateTask {f : LoadTestTask → LoadTestTask}
    {keeps : ∀ task, (f task).id = task.id}
    (stored : recordOf db id = some record) :
    recordOf (db.updateTask other f keeps) id =
      some (if id = other then f record.1 else record.1, record.2) := by
  obtain ⟨found, result⟩ := recordOf_eq_some_iff.mp stored
  refine recordOf_eq_some_iff.mpr ⟨?_, result⟩
  rw [Database.find?_updateTask]
  split
  · rename_i same
    rw [← same, found, Option.map_some]
  · exact found

/-- A write to the row of one task is a step of its record, and keeps the others. -/
theorem recordStep_updateTask {f : LoadTestTask → LoadTestTask}
    {keeps : ∀ task, (f task).id = task.id} (stored : recordOf db id = some record)
    (step : id = other → RecordStep now record (f record.1, record.2)) :
    ∃ record', recordOf (db.updateTask other f keeps) id = some record' ∧
      RecordStep now record record' := by
  refine ⟨_, recordOf_updateTask stored, ?_⟩
  split
  · rename_i same
    exact step same
  · exact .kept record

theorem recordStep_dispatch [Runtime] (stored : recordOf db id = some record) (other : TaskId)
    (delivery : WorkerNode → Delivery) :
    ∃ record', recordOf (dispatchTaskOnce db other delivery now).2 id = some record' ∧
      RecordStep now record record' := by
  obtain ⟨found, _⟩ := recordOf_eq_some_iff.mp stored
  have outcome := dispatchTaskOnce_cases db other delivery now
  generalize dispatchTaskOnce db other delivery now = result at outcome ⊢
  cases outcome with
  | kept notDispatched => exact ⟨record, stored, .kept record⟩
  | noted errorMessage read pending =>
      refine recordStep_updateTask stored ?_
      rintro rfl
      cases found.symm.trans read
      exact .noted errorMessage pending
  | @dispatched task worker read pending =>
      refine recordStep_updateTask stored ?_
      rintro rfl
      cases found.symm.trans read
      exact .dispatched worker.id pending

theorem recordOf_insertTask {task : LoadTestTask} (stored : recordOf db id = some record)
    (fresh : db.tasks.find? task.id = none) : recordOf (db.insertTask task) id = some record := by
  obtain ⟨found, result⟩ := recordOf_eq_some_iff.mp stored
  have different : id ≠ task.id := by
    rintro rfl
    cases found.symm.trans fresh
  refine recordOf_eq_some_iff.mpr ⟨?_, result⟩
  show (db.tasks.upsert task).find? id = some record.1
  rw [Table.find?_upsert, if_neg different, found]

/-- A creation keeps the records of the tasks that are there. -/
theorem recordStep_create [Runtime] (stored : recordOf db id = some record)
    (deployment : Deployment) (headers : Headers) (body : Json) (occasion : Occasion) :
    ∃ record', recordOf (createTask deployment headers db body occasion).2 id = some record' ∧
      RecordStep occasion.now record record' := by
  have same : ∃ record', recordOf db id = some record' ∧ RecordStep occasion.now record record' :=
    ⟨record, stored, .kept record⟩
  have served (demoCreate : Bool) :
      ∃ record', recordOf (createServed deployment demoCreate db body occasion).2 id =
        some record' ∧ RecordStep occasion.now record record' := by
    have outcome := createServed_cases deployment demoCreate db body occasion
    generalize createServed deployment demoCreate db body occasion = result at outcome ⊢
    cases outcome with
    | invalid => exact same
    | denied => exact same
    | taken => exact same
    | unplanned e accepts fresh => exact ⟨record, recordOf_insertTask stored fresh, .kept record⟩
    | stored accepts fresh => exact ⟨record, recordOf_insertTask stored fresh, .kept record⟩
    | @demo attrs data accepts fresh =>
        rw [finishDemoCreate_snd]
        exact recordStep_dispatch (recordOf_insertTask stored fresh) occasion.id occasion.delivery
  unfold createTask
  split
  · exact served false
  · split
    · split
      · exact same
      · exact same
      · exact served true
    · exact same

theorem recordStep_callback (stored : recordOf db id = some record) (layer : ReportLayer)
    (other : TaskId) (body : Json) :
    ∃ record', recordOf (postResult layer db other body now).2 id = some record' ∧
      RecordStep now record record' := by
  obtain ⟨found, result⟩ := recordOf_eq_some_iff.mp stored
  have outcome := postResult_cases layer db other body now
  -- The record of a task without a result.
  have unfinished {task : LoadTestTask} (read : db.tasks.find? other = some task)
      (first : db.hasResult other = false) (same : id = other) : record = (task, none) := by
    subst same
    cases found.symm.trans read
    have none : db.results.find? id = none := by simpa [Database.hasResult] using first
    exact Prod.ext rfl (result.symm.trans none)
  generalize postResult layer db other body now = answer at outcome ⊢
  cases outcome with
  | missing => exact ⟨record, stored, .kept record⟩
  | conflict => exact ⟨record, stored, .kept record⟩
  | refused => exact ⟨record, stored, .kept record⟩
  | @started task read first =>
      obtain ⟨_, rfl⟩ := Table.find?_eq_some_iff.mp read
      refine recordStep_updateTask stored fun same => ?_
      rw [unfinished read first same]
      exact .started task
  | @finished task report read first =>
      obtain ⟨_, rfl⟩ := Table.find?_eq_some_iff.mp read
      by_cases same : id = task.id
      · subst same
        rw [unfinished read first rfl]
        refine ⟨_, recordOf_eq_some_iff.mpr ⟨?_, ?_⟩, .finished task report⟩
        · exact (Database.find?_updateTask task.id).trans
            (by rw [if_pos rfl, read, Option.map_some])
        · exact (Table.find?_upsert task.id).trans (if_pos rfl)
      · refine ⟨record, recordOf_eq_some_iff.mpr ⟨?_, ?_⟩, .kept record⟩
        · exact (Database.find?_updateTask id).trans ((if_neg same).trans found)
        · exact (Table.find?_upsert id).trans ((if_neg same).trans result)

/-- Every request is a step of every record. -/
theorem recordStep_apply [Runtime] (stored : recordOf db id = some record)
    (deployment : Deployment) (layer : ReportLayer) (operation : TaskOperation) :
    ∃ record', recordOf (operation.apply deployment layer db now) id = some record' ∧
      RecordStep now record record' := by
  cases operation with
  | create headers body created delivery =>
      exact recordStep_create stored deployment headers body ⟨created, now, delivery⟩
  | request step =>
      cases step with
      | dispatch other delivery => exact recordStep_dispatch stored other delivery
      | callback other body => exact recordStep_callback stored layer other body
  | workers table => exact ⟨record, stored, .kept record⟩

end Records

/-! ### Runs of the store -/

section Store

variable [Runtime] {deployment : Deployment} {serializer : ResultSerializer} {columns : Columns}

/-- What a request does to the store: a result callback registers the manifest too. -/
def TaskOperation.applyStore (deployment : Deployment) (serializer : ResultSerializer)
    (columns : Columns) (store : Store) (now : Timestamp) : TaskOperation → Store
  | .request (.callback id body) => (postCallback serializer columns store id body now).2
  | operation =>
      { store with db :=
        operation.apply deployment (reportLayerAt serializer columns now) store.db now }

variable {store : Store} {clock now : Timestamp} {id : TaskId}

theorem db_applyStore (operation : TaskOperation) :
    (operation.applyStore deployment serializer columns store now).db =
      operation.apply deployment (reportLayerAt serializer columns now) store.db now := by
  cases operation with
  | create headers body created delivery => rfl
  | request step =>
      cases step with
      | dispatch other delivery => rfl
      | callback other body => exact postCallback_db
  | workers table => rfl

theorem staged_applyStore (h : Staged store.db clock) (le : clock ≤ now)
    (operation : TaskOperation) :
    Staged (operation.applyStore deployment serializer columns store now).db now := by
  rw [db_applyStore]
  exact (staged_apply h le operation).1

/-- The artifacts of a task with a result stay as they are. -/
theorem artifacts_applyStore (finished : store.db.hasResult id = true) (operation : TaskOperation)
    (artifactId : String) : store.artifacts.find? (id, artifactId) =
      (operation.applyStore deployment serializer columns store now).artifacts.find?
        (id, artifactId) := by
  cases operation with
  | create headers body created delivery => rfl
  | workers table => rfl
  | request step =>
      cases step with
      | dispatch other delivery => rfl
      | callback other body =>
          change _ = (postCallback serializer columns store other body now).2.artifacts.find? _
          rcases @postCallback_results _ serializer columns store other body now with
            ⟨same, _⟩ | ⟨task, report, manifest, found, first, _, ran⟩
          · rw [same]
          · obtain ⟨_, rfl⟩ := Table.find?_eq_some_iff.mp found
            obtain ⟨⟨before, after, same, registers, written⟩, _⟩ := storeReport_ok first ran
            obtain ⟨version, items, _, rfl⟩ := registers
            rw [written, find?_upsertAll_of_other, same]
            intro row mem key
            obtain ⟨entry, _, rfl⟩ := List.mem_map.mp mem
            have sameTask : task.id = id := congrArg Prod.fst key
            rw [← sameTask, first] at finished
            cases finished

/-- One request leaves everything of a finished task as it is. -/
theorem sameRecord_applyStore (h : Staged store.db clock)
    (finished : store.db.hasResult id = true) (operation : TaskOperation) :
    SameRecord store (operation.applyStore deployment serializer columns store now) id := by
  obtain ⟨result, found⟩ := Option.isSome_iff_exists.mp finished
  obtain ⟨mem, rfl⟩ := Table.find?_eq_some_iff.mp found
  obtain ⟨row, stored, owns⟩ := h.owned result mem
  have there : recordOf store.db result.task = some (row, some result) :=
    recordOf_eq_some_iff.mpr ⟨Table.find?_eq_some_iff.mpr ⟨stored, owns⟩, found⟩
  have stage : Stage clock row true := by
    rw [← finished, ← owns]
    exact h.stage row stored
  obtain ⟨record', after, step⟩ := @recordStep_apply _ _ now _ _ there deployment
    (reportLayerAt serializer columns now) operation
  rw [step.eq_of_finished stage, ← db_applyStore] at after
  obtain ⟨row_eq, result_eq⟩ := recordOf_eq_some_iff.mp after
  exact ⟨(recordOf_eq_some_iff.mp there).1.trans row_eq.symm, found.trans result_eq.symm,
    artifacts_applyStore finished operation⟩

/-- In every run from empty tables, a task that has a result at some instant is read the
same at every later one, by every client. -/
theorem finished_frozen {start s t : Timed Store} {es fs : List (Timestamp × TaskOperation)}
    (noTasks : start.state.db.tasks = Table.empty)
    (noResults : start.state.db.results = Table.empty)
    (run : exec (Timed.take (TaskOperation.applyStore deployment serializer columns)) start es =
      some s)
    (rest : exec (Timed.take (TaskOperation.applyStore deployment serializer columns)) s fs =
      some t)
    (finished : s.state.db.hasResult id = true) :
    SameRecord s.state t.state id ∧ ∀ readers headers resultId,
      taskReads readers headers resultId t.state id =
        taskReads readers headers resultId s.state id := by
  have preserved : ∀ (store : Store) (clock now : Timestamp) (operation : TaskOperation),
      clock ≤ now → Staged store.db clock →
        Staged (operation.applyStore deployment serializer columns store now).db now :=
    fun _ _ _ operation le h => staged_applyStore h le operation
  have start_staged : Staged start.state.db start.clock := by
    constructor
    · intro task mem
      rw [noTasks] at mem
      exact absurd mem Table.not_mem_empty
    · intro result mem
      rw [noResults] at mem
      exact absurd mem Table.not_mem_empty
  have staged : Staged s.state.db s.clock := (run_iff_exec.mpr run).invariant
    (I := fun store clock => Staged store.db clock) preserved start_staged
  have frozen : ∀ id, s.state.db.hasResult id = true → SameRecord s.state t.state id := by
    refine (run_iff_exec.mpr rest).relates
      (I := fun store clock => Staged store.db clock)
      (R := fun store store' => ∀ id, store.db.hasResult id = true → SameRecord store store' id)
      (fun store id _ => .refl store id) ?_ preserved ?_ staged
    · intro x y z first second id finished
      have still : y.db.hasResult id = true := by
        rw [Database.hasResult, ← (first id finished).result]
        exact finished
      exact (first id finished).trans (second id still)
    · intro store clock now operation le h id finished
      exact sameRecord_applyStore h finished operation
  exact ⟨frozen id finished, fun readers headers _ =>
    ((frozen id finished).taskReads rfl readers headers).symm⟩

end Store

/-! ### What was accepted -/

/-- The row of an accepted request, whatever was served since. -/
structure AcceptedRow (data : ValidatedData) (id : TaskId) (now : Timestamp) (row : LoadTestTask) :
    Prop where
  stored : StoredRow data id row
  name_eq : row.name = data.name
  scheduledAt_eq : row.scheduledAt = data.scheduledAt
  createdBy_eq : row.createdBy = data.createdBy
  createdAt_eq : row.createdAt = now

theorem AcceptedRow.sameRequest {data : ValidatedData} {id : TaskId} {now : Timestamp}
    {row row' : LoadTestTask} (accepted : AcceptedRow data id now row)
    (same : SameRequest row row') : AcceptedRow data id now row' where
  stored := accepted.stored.sameWork same.work same.id
  name_eq := same.name.trans accepted.name_eq
  scheduledAt_eq := same.scheduledAt.trans accepted.scheduledAt_eq
  createdBy_eq := same.createdBy.trans accepted.createdBy_eq
  createdAt_eq := same.createdAt.trans accepted.createdAt_eq

/-- What the detail and the shard plan show to a client that may read the task. -/
structure ShowsRequest [Runtime] (deployment : Deployment) (reader : Headers) (store : Store)
    (data : ValidatedData) (id : TaskId) (now : Timestamp) : Prop where
  detail : ∀ resultId, ∃ detail, taskDetailView deployment reader resultId store id =
      .ok detail ∧
    detail.id = id ∧ detail.name = data.name ∧ detail.engine = data.engine ∧
    detail.scriptPath = data.scriptPath ∧ detail.targetUrl = data.targetUrl ∧
    detail.scheduledAt = data.scheduledAt ∧ detail.createdAt = now ∧
    detail.execution = data.storedExecution.dictOrEmpty ∧
    detail.distribution = data.storedDistribution.dictOrEmpty
  plan : data.storedDistribution.truthy = true → ∃ plan, data.plan id = .ok plan ∧
    taskShardPlanView deployment reader store id = .ok (.plan plan)

section Accepted

variable [Runtime] {deployment : Deployment} {serializer : ResultSerializer} {columns : Columns}
  {data : ValidatedData} {id : TaskId} {now : Timestamp}

omit [Runtime] in
theorem entryField_orEmpty_dictJson (d : Dict Json) (key : String) :
    entryField (dictJson d).orEmpty key = .ok ((d.get? key).getD .null) := by
  unfold Json.orEmpty
  split
  · rw [entryField, asDict?_dictJson]
  · rename_i empty
    have rows : d.rows = [] := by simpa [dictJson, Json.truthy] using empty
    have absent : d.get? key = none := by simp [Dict.get?, Table.find?, rows]
    rw [absent]
    rfl

omit [Runtime] in
/-- A plan is an object with members. -/
theorem truthy_plan {plan : Json} (built : data.plan id = .ok plan) : plan.truthy = true := by
  unfold ValidatedData.plan buildShardExecutionPlan at built
  obtain ⟨_, _, built⟩ := bind_ok_iff.mp built
  obtain ⟨_, _, built⟩ := bind_ok_iff.mp built
  obtain ⟨_, _, built⟩ := bind_ok_iff.mp built
  obtain ⟨_, _, built⟩ := bind_ok_iff.mp built
  obtain ⟨_, _, built⟩ := bind_ok_iff.mp built
  obtain ⟨_, _, built⟩ := bind_ok_iff.mp built
  obtain ⟨_, _, built⟩ := bind_ok_iff.mp built
  cases built
  rfl

/-- The request that a stored row was made of can be read from it. -/
theorem AcceptedRow.shows {store : Store} {row : LoadTestTask} {reader : Headers}
    (accepted : AcceptedRow data id now row) (found : store.db.tasks.find? id = some row)
    (planned : data.Planned id) (token : hasSharedApiToken deployment.settings reader = true) :
    ShowsRequest deployment reader store data id now := by
  have stored := accepted.stored
  have can : canReadDemoTask deployment reader row = .ok true := by simp [canReadDemoTask, token]
  have parameter (k : String) (mode : k ≠ "task_operation_mode")
      (plan : k ≠ "shard_execution_plan") :
      row.parameters.dictOrEmpty.get? k = data.parameters.get? k := by
    rw [stored.parameters_eq mode, storedParameters_get? plan]
  constructor
  · intro resultId
    refine ⟨taskDetailReadModel resultId store.db row, ?_, stored.id_eq, accepted.name_eq,
      stored.engine_eq, stored.scriptPath_eq, stored.targetUrl_eq, accepted.scheduledAt_eq,
      accepted.createdAt_eq, ?_, ?_⟩
    · simp only [taskDetailView, readTask, found, can]
    · simp only [taskDetailReadModel]
      rw [parameter "execution" (by decide) (by decide), ValidatedData.storedExecution]
    · simp only [taskDetailReadModel]
      rw [parameter "distribution" (by decide) (by decide), ValidatedData.storedDistribution]
  · intro distributed
    rcases planned with undistributed | ⟨plan, built⟩
    · rw [distributed] at undistributed
      cases undistributed
    · refine ⟨plan, built, ?_⟩
      obtain ⟨mark, parameters⟩ := stored.marked
      have written : (data.storedParameters id).get? "shard_execution_plan" = some plan := by
        simp [ValidatedData.storedParameters, distributed, built]
      have read : entryField row.parameters.orEmpty "shard_execution_plan" = .ok plan := by
        rw [parameters, entryField_orEmpty_dictJson, setIfSome_get?, if_neg (by decide), written,
          Option.getD_some]
      simp only [taskShardPlanView, readTask, found, can, shardPlanOf, read, truthy_plan built,
        if_true]

/-- A creation that ends with 201 has stored what it accepted. -/
theorem createTask_accepted {db : Database} {headers : Headers} {body : Json} {occasion : Occasion}
    (created : (createTask deployment headers db body occasion).1.isCreated = true) :
    ∃ attrs data record, Accepts deployment body attrs data ∧ data.Planned occasion.id ∧
      recordOf (createTask deployment headers db body occasion).2 occasion.id = some record ∧
      AcceptedRow data occasion.id occasion.now record.1 := by
  have served (demoCreate : Bool)
      (created : (createServed deployment demoCreate db body occasion).1.isCreated = true) :
      ∃ attrs data record, Accepts deployment body attrs data ∧ data.Planned occasion.id ∧
        recordOf (createServed deployment demoCreate db body occasion).2 occasion.id =
          some record ∧ AcceptedRow data occasion.id occasion.now record.1 := by
    have outcome := createServed_cases deployment demoCreate db body occasion
    generalize createServed deployment demoCreate db body occasion = result at outcome created ⊢
    cases outcome with
    | invalid notCreated => exact absurd created (by simp [notCreated])
    | denied notCreated => exact absurd created (by simp [notCreated])
    | taken e => cases created
    | unplanned e => cases created
    | @stored attrs data accepts fresh planned =>
        exact ⟨attrs, data, (storedTask data occasion.id occasion.now,
          db.results.find? occasion.id), accepts, planned,
          recordOf_eq_some_iff.mpr ⟨find?_insertTask rfl, rfl⟩,
          ⟨storedRow_storedTask _ _ _, rfl, rfl, rfl, rfl⟩⟩
    | @demo attrs data accepts fresh planned =>
        have inserted : recordOf (db.insertTask
            (markedTask (storedTask data occasion.id occasion.now) occasion.now)) occasion.id =
              some (_, db.results.find? occasion.id) :=
          recordOf_eq_some_iff.mpr ⟨find?_insertTask rfl, rfl⟩
        obtain ⟨record', found, step⟩ :=
          recordStep_dispatch inserted occasion.id occasion.delivery
        have accepted : AcceptedRow data occasion.id occasion.now
            (markedTask (storedTask data occasion.id occasion.now) occasion.now) :=
          ⟨storedRow_markedTask _ _ _, rfl, rfl, rfl, rfl⟩
        rw [finishDemoCreate_snd]
        exact ⟨attrs, data, record', accepts, planned, found,
          accepted.sameRequest step.sameRequest⟩
  unfold createTask at created ⊢
  split at created
  · rename_i token
    rw [if_pos token]
    exact served false created
  · rename_i noToken
    rw [if_neg noToken]
    split at created
    · rename_i enabled
      rw [if_pos enabled]
      split at created
      · cases created
      · cases created
      · exact served true created
    · cases created

/-- In every run that goes on from a creation with 201, the accepted request can be read
back with the token at every instant. -/
theorem accepted_shown {s : Timed Store} {headers reader : Headers} {body : Json}
    {delivery : WorkerNode → Delivery} {t u : Timed Store} {fs : List (Timestamp × TaskOperation)}
    (created : (createTask deployment headers s.state.db body ⟨id, now, delivery⟩).1.isCreated =
      true)
    (taken : Timed.take (TaskOperation.applyStore deployment serializer columns) s
      (now, .create headers body id delivery) = some t)
    (rest : exec (Timed.take (TaskOperation.applyStore deployment serializer columns)) t fs =
      some u)
    (token : hasSharedApiToken deployment.settings reader = true) :
    ∃ attrs data, Accepts deployment body attrs data ∧
      ShowsRequest deployment reader u.state data id now := by
  obtain ⟨attrs, data, record, accepts, planned, found, accepted⟩ := createTask_accepted created
  obtain ⟨_, rfl⟩ := Timed.take_eq_some_iff.mp taken
  have kept : ∀ record, recordOf (createTask deployment headers s.state.db body
      ⟨id, now, delivery⟩).2 id = some record →
        ∃ record', recordOf u.state.db id = some record' ∧ SameRequest record.1 record'.1 := by
    refine (run_iff_exec.mpr rest).relates (I := fun _ _ => True)
      (R := fun store store' => ∀ record, recordOf store.db id = some record →
        ∃ record', recordOf store'.db id = some record' ∧ SameRequest record.1 record'.1)
      (fun _ record found => ⟨record, found, .refl record.1⟩) ?_ (fun _ _ _ _ _ _ => trivial) ?_
      trivial
    · intro x y z first second record found
      obtain ⟨record', found', same⟩ := first record found
      obtain ⟨record'', found'', same'⟩ := second record' found'
      exact ⟨record'', found'', same.trans same'⟩
    · intro store clock now operation _ _ record found
      obtain ⟨record', found', step⟩ := recordStep_apply found deployment
        (reportLayerAt serializer columns now) operation
      rw [← db_applyStore] at found'
      exact ⟨record', found', step.sameRequest⟩
  obtain ⟨record', found', same⟩ := kept record found
  exact ⟨attrs, data, accepts, (accepted.sameRequest same).shows
    (recordOf_eq_some_iff.mp found').1 planned token⟩

end Accepted

/-! ### One task from its creation to late callbacks -/

def emptyStore : Store := ⟨emptyDatabase, Table.empty⟩

/-- A report with its output, and one that comes too late with another. -/
def reportBody (stdout : String) : Json :=
  .obj [("raw_report", .obj [("stdout", .str stdout)])]

/-- The task is created, dispatched, started and finished. -/
def reportedRun : List (Timestamp × TaskOperation) :=
  [(0, .workers oneTask.db.workers), (1, .create tokenHeaders (k6Body []) "t" fun _ => .answered),
    (2, .request (.dispatch "t" fun _ => .answered)), (3, .request (.callback "t" runningBody)),
    (4, .request (.callback "t" (reportBody "done")))]

/-- Another task, and callbacks and a dispatch of the finished one. -/
def lateRequests : List (Timestamp × TaskOperation) :=
  [(5, .create tokenHeaders (k6Body []) "u" fun _ => .answered),
    (6, .request (.callback "t" runningBody)), (7, .request (.callback "t" (reportBody "other"))),
    (8, .request (.dispatch "t" fun _ => .answered))]

theorem reportedRun_frozen :
    let apply := @TaskOperation.applyStore asciiRuntime tokenDeployment plainSerializer openColumns
    ∃ s t, exec (Timed.take apply) ⟨emptyStore, 0⟩ reportedRun = some s ∧
      exec (Timed.take apply) s lateRequests = some t ∧ t.state.db.tasks.rows.length = 2 ∧
      SameRecord s.state t.state "t" := by
  let _ := asciiRuntime
  intro apply
  have replays : (exec (Timed.take apply) ⟨emptyStore, 0⟩ reportedRun).map (fun s =>
      (s.state.db.hasResult "t", (exec (Timed.take apply) s lateRequests).map
        fun t => t.state.db.tasks.rows.length)) = some (true, some 2) := by
    decide +kernel
  obtain ⟨s, run, ends⟩ := Option.map_eq_some_iff.mp replays
  obtain ⟨finished, late⟩ := Prod.mk.inj ends
  obtain ⟨t, rest, tasks⟩ := Option.map_eq_some_iff.mp late
  exact ⟨s, t, run, rest, tasks, (finished_frozen rfl rfl run rest finished).1⟩

theorem reportedRun_shown :
    let apply := @TaskOperation.applyStore asciiRuntime tokenDeployment plainSerializer openColumns
    let later := reportedRun.drop 2
    ∃ s t u, Timed.take apply s (1, .create tokenHeaders (k6Body []) "t" fun _ => .answered) =
        some t ∧ exec (Timed.take apply) t later = some u ∧
      ∃ attrs data, @Accepts asciiRuntime tokenDeployment (k6Body []) attrs data ∧
        @ShowsRequest asciiRuntime tokenDeployment tokenHeaders u.state data "t" 1 := by
  let _ := asciiRuntime
  intro apply later
  let start : Timed Store := ⟨{ emptyStore with db := { emptyDatabase with
    workers := oneTask.db.workers } }, 0⟩
  have created : (createTask tokenDeployment tokenHeaders start.state.db (k6Body [])
      ⟨"t", 1, fun _ => .answered⟩).1.isCreated = true := by
    decide +kernel
  have replays : ((Timed.take apply start
      (1, .create tokenHeaders (k6Body []) "t" fun _ => .answered)).map fun t =>
        (exec (Timed.take apply) t later).isSome) = some true := by
    decide +kernel
  obtain ⟨t, taken, ends⟩ := Option.map_eq_some_iff.mp replays
  obtain ⟨u, rest⟩ := Option.isSome_iff_exists.mp ends
  exact ⟨start, t, u, taken, rest, accepted_shown created taken rest rfl⟩

end PLoadtesting.System
