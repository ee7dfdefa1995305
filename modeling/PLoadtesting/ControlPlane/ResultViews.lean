import PLoadtesting.ControlPlane.Models
import PLoadtesting.ControlPlane.Permissions

/-!
The callbacks of a worker (`apps/results/views.py`): `running`, which moves a
task to RUNNING, and the result, which creates the `TestResult` and ends the
task in one transaction.

Each callback loads the task, checks for a result and then writes columns of the
copy it loaded. The parts are separate definitions, `postResult` is their
sequence, and `System.Interleaving` runs the same parts one by one.

The fields of `TestResultCreateSerializer` are converted by the framework, the
parameter `ReportLayer`. Of `register_task_artifacts` only the outcome matters
here: an exception in it undoes the transaction.
-/

namespace PLoadtesting.ControlPlane

open Keyed Python

/-- The validated body of a result callback. -/
structure Report where
  fields : ResultFields
  failed : Bool
  errorMessage : String

/-- `TestResultCreateSerializer`, and what registering the report's artifacts
comes to. -/
structure ReportLayer where
  toInternalValue : Json → Except Exc Report
  registerTaskArtifacts : LoadTestTask → Json → Except Exc Unit

/-- The running callback's save: the columns of the loaded copy `task`. -/
def Database.saveRunning (db : Database) (task : LoadTestTask) (now : Timestamp) : Database :=
  db.updateTask task.id
    (fun row => { row with
      status := .running
      errorMessage := ""
      startedAt := task.startedAt.or (some now)
      updatedAt := now })
    fun _ => rfl

/-- The columns that the result callback saves. -/
def Database.saveFinished (db : Database) (task : LoadTestTask) (report : Report)
    (now : Timestamp) : Database :=
  db.updateTask task.id
    (fun row => { row with
      status := if report.failed then .failed else .completed
      errorMessage := if report.failed then report.errorMessage else ""
      startedAt := task.startedAt.or (some now)
      finishedAt := some now
      updatedAt := now })
    fun _ => rfl

/-- The transaction of the result callback. A task has at most one result, and
an exception leaves the database as it was. -/
def Database.commitResult (db : Database) (task : LoadTestTask) (report : Report)
    (registered : Except Exc Unit) (now : Timestamp) : Except Exc Database :=
  match db.results.insert? ⟨task.id, report.fields, now⟩ with
  | none => .error (.integrityError "UNIQUE constraint failed: results_testresult.task_id")
  | some results =>
      match registered with
      | .error e => .error e
      | .ok () => .ok ({ db with results }.saveFinished task report now)

/-- The answers of the callback endpoint. -/
inductive CallbackResponse where
  | created (task : TaskId)
  | accepted (task : TaskId)
  | notFound
  | conflict
  | badRequest (e : Exc)
  | forbidden
  | serverError (e : Exc)

/-- `request.data.get("execution_status")`. -/
def executionStatus (body : Json) : Except Exc Json :=
  match body.asDict? with
  | some data => .ok ((data.get? "execution_status").getD .null)
  | none => .error (body.noAttribute "get")

/-- The result branch of the view, after the task is loaded. -/
def reportResult (layer : ReportLayer) (db : Database) (task : LoadTestTask) (body : Json)
    (now : Timestamp) : CallbackResponse × Database :=
  match layer.toInternalValue body with
  | .error (.validationError detail) => (.badRequest (.validationError detail), db)
  | .error e => (.serverError e, db)
  | .ok report =>
      match db.commitResult task report (layer.registerTaskArtifacts task body) now with
      | .ok db => (.created task.id, db)
      | .error (.valueError text) => (.badRequest (.valueError text), db)
      | .error e => (.serverError e, db)

/-- `TaskResultCreateView.post`. -/
def postResult (layer : ReportLayer) (db : Database) (taskId : TaskId) (body : Json)
    (now : Timestamp) : CallbackResponse × Database :=
  match db.tasks.find? taskId with
  | none => (.notFound, db)
  | some task =>
      match executionStatus body with
      | .error e => (.serverError e, db)
      | .ok status =>
          if db.hasResult taskId then (.conflict, db)
          else if status.eqStr "running" then (.accepted task.id, db.saveRunning task now)
          else reportResult layer db task body now

/-- A transaction that commits adds the first result of its task and ends the
task. -/
theorem commitResult_ok {db db' : Database} {task : LoadTestTask} {report : Report}
    {registered : Except Exc Unit} {now : Timestamp}
    (h : db.commitResult task report registered now = .ok db') :
    db.hasResult task.id = false ∧
      db' = { db with results := db.results.upsert ⟨task.id, report.fields, now⟩ }.saveFinished
        task report now := by
  unfold Database.commitResult at h
  split at h
  · cases h
  · rename_i results inserted
    split at h
    · cases h
    · cases h
      obtain ⟨fresh, rfl⟩ := Table.insert?_eq_some_iff.mp inserted
      exact ⟨by simp [Database.hasResult, fresh], rfl⟩

/-- The first result of a task commits unless its artifacts are refused. -/
theorem commitResult_of_first {db : Database} {task : LoadTestTask}
    (first : db.hasResult task.id = false) (report : Report) (registered : Except Exc Unit)
    (now : Timestamp) :
    db.commitResult task report registered now = registered.map fun _ =>
      { db with results := db.results.upsert ⟨task.id, report.fields, now⟩ }.saveFinished
        task report now := by
  have fresh : db.results.find? task.id = none := by
    unfold Database.hasResult at first
    simpa using first
  have inserted := Table.insert?_eq_some_iff.mpr
    (show db.results.find? (⟨task.id, report.fields, now⟩ : TestResult).task = none ∧ _ from
      ⟨fresh, rfl⟩)
  unfold Database.commitResult
  rw [inserted]
  cases registered with
  | error e => rfl
  | ok _ => rfl

/-- Then that task has a result, and the others have theirs as before. -/
theorem hasResult_saveFinished {db : Database} {task : LoadTestTask} {report : Report}
    {now : Timestamp} (id : TaskId) :
    ({ db with results := db.results.upsert ⟨task.id, report.fields, now⟩ }.saveFinished
      task report now).hasResult id = (decide (id = task.id) || db.hasResult id) := by
  rw [Database.saveFinished, Database.hasResult_updateTask]
  by_cases same : id = task.id
  · simp [Database.hasResult, same]
  · simp [Database.hasResult, same]

/-! ### The outcomes of a callback -/

/-- The body is a running callback's. -/
def IsRunning (body : Json) : Prop :=
  ∃ status, executionStatus body = .ok status ∧ status.eqStr "running" = true

/-- The body is a result callback's that validates to `report` and whose
artifacts are registered. -/
structure Reports (layer : ReportLayer) (task : LoadTestTask) (body : Json) (report : Report) :
    Prop where
  notRunning : ¬ IsRunning body
  readable : ∃ status, executionStatus body = .ok status
  read : layer.toInternalValue body = .ok report
  registered : layer.registerTaskArtifacts task body = .ok ()

/-- The status in which a report ends its task. -/
def Report.outcome (report : Report) : TaskStatus :=
  if report.failed then .failed else .completed

theorem Report.outcome_hasEnded (report : Report) : report.outcome.hasEnded = true := by
  unfold Report.outcome
  cases report.failed with
  | true => rfl
  | false => rfl

/-- A report that completes its task leaves no error message. -/
theorem Report.errorMessage_of_completed {report : Report}
    (completed : report.outcome = .completed) :
    (if report.failed then report.errorMessage else "") = "" := by
  unfold Report.outcome at completed
  cases failed : report.failed with
  | true =>
      rw [failed] at completed
      cases completed
  | false => rfl

/-- HTTP 201 or 202. -/
def CallbackResponse.isAccepted : CallbackResponse → Bool
  | .created _ | .accepted _ => true
  | _ => false

/-- The outcomes of a callback. -/
inductive CallbackCase (layer : ReportLayer) (db : Database) (id : TaskId) (body : Json)
    (now : Timestamp) : CallbackResponse × Database → Prop where
  | missing (missing : db.tasks.find? id = none) : CallbackCase layer db id body now (.notFound, db)
  | conflict {task : LoadTestTask} (stored : db.tasks.find? id = some task)
      (had : db.hasResult id = true) : CallbackCase layer db id body now (.conflict, db)
  | started {task : LoadTestTask} (stored : db.tasks.find? id = some task)
      (first : db.hasResult id = false) (running : IsRunning body) :
      CallbackCase layer db id body now (.accepted task.id, db.saveRunning task now)
  | refused {response : CallbackResponse} {task : LoadTestTask}
      (stored : db.tasks.find? id = some task) (notAccepted : response.isAccepted = false)
      (notRunning : ¬ IsRunning body) (noReport : ∀ report, ¬ Reports layer task body report) :
      CallbackCase layer db id body now (response, db)
  | finished {task : LoadTestTask} {report : Report} (stored : db.tasks.find? id = some task)
      (first : db.hasResult id = false) (reports : Reports layer task body report) :
      CallbackCase layer db id body now
        (.created task.id,
          { db with results := db.results.upsert ⟨task.id, report.fields, now⟩ }.saveFinished
            task report now)

theorem reportResult_cases {layer : ReportLayer} {db : Database} {id : TaskId} {body : Json}
    {now : Timestamp} {task : LoadTestTask} (stored : db.tasks.find? id = some task)
    (first : db.hasResult id = false) (notRunning : ¬ IsRunning body)
    (readable : ∃ status, executionStatus body = .ok status) :
    CallbackCase layer db id body now (reportResult layer db task body now) := by
  obtain ⟨mem, rfl⟩ := Table.find?_eq_some_iff.mp stored
  unfold reportResult
  cases read : layer.toInternalValue body with
  | error e =>
      have noReport : ∀ report, ¬ Reports layer task body report := by
        intro report reports
        cases read.symm.trans reports.read
      cases e with
      | _ => exact .refused stored rfl notRunning noReport
  | ok report =>
      dsimp only
      rw [commitResult_of_first first]
      cases registered : layer.registerTaskArtifacts task body with
      | ok _ => exact .finished stored first ⟨notRunning, readable, read, registered⟩
      | error e =>
          have noReport : ∀ report, ¬ Reports layer task body report := by
            intro report reports
            cases registered.symm.trans reports.registered
          cases e with
          | _ => exact .refused stored rfl notRunning noReport

theorem postResult_cases (layer : ReportLayer) (db : Database) (id : TaskId) (body : Json)
    (now : Timestamp) : CallbackCase layer db id body now (postResult layer db id body now) := by
  unfold postResult
  cases stored : db.tasks.find? id with
  | none => exact .missing stored
  | some task =>
      dsimp only
      cases read : executionStatus body with
      | error e =>
          refine .refused stored rfl ?_ ?_
          · rintro ⟨status, readable, _⟩
            cases read.symm.trans readable
          · intro report reports
            obtain ⟨status, readable⟩ := reports.readable
            cases read.symm.trans readable
      | ok status =>
          dsimp only
          cases had : db.hasResult id with
          | true => exact .conflict stored had
          | false =>
              cases isRunning : status.eqStr "running" with
              | true => exact .started stored had ⟨status, read, isRunning⟩
              | false =>
                  refine reportResult_cases stored had ?_ ⟨status, read⟩
                  rintro ⟨status', readable, running⟩
                  cases read.symm.trans readable
                  rw [isRunning] at running
                  cases running

end PLoadtesting.ControlPlane
