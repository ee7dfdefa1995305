import PLoadtesting.Lib.Python

/-!
The tables of the Control Plane: `LoadTestTask` (`apps/tasks/models.py`),
`WorkerNode` (`apps/workers/models.py`) and `TestResult`
(`apps/results/models.py`).

A `Database` holds the three tables, keyed by primary key; `TestResult` is keyed
by its task, its one-to-one relation. UUIDs are their canonical text, instants
are microseconds. `save(update_fields=…)` is an `UPDATE` of the named columns of
one row and leaves every other column as the database has it.
-/

namespace PLoadtesting.ControlPlane

open Keyed Python

abbrev TaskId := String

abbrev WorkerId := String

/-- Microseconds since the epoch. -/
abbrev Timestamp := Int

/-- `LoadTestTask.Status`. -/
inductive TaskStatus where
  | pending | scheduled | dispatched | running | completed | failed | cancelled
deriving DecidableEq, Repr

/-- The states that end a task with a result. -/
def TaskStatus.hasEnded : TaskStatus → Bool
  | .completed | .failed => true
  | _ => false

/-- The states in which a task occupies its worker. -/
def TaskStatus.isActive : TaskStatus → Bool
  | .dispatched | .running => true
  | _ => false

/-- `LoadTestTask`. -/
structure LoadTestTask where
  id : TaskId
  name : String
  engine : String
  scriptPath : String
  parameters : Json
  targetUrl : String
  scheduledAt : Option Timestamp
  startedAt : Option Timestamp
  finishedAt : Option Timestamp
  status : TaskStatus
  worker : Option WorkerId
  errorMessage : String
  createdBy : String
  createdAt : Timestamp
  updatedAt : Timestamp

/-- `WorkerNode.Status`. -/
inductive WorkerStatus where
  | online | busy | offline | draining
deriving DecidableEq, Repr

/-- `WorkerNode`. -/
structure WorkerNode where
  id : WorkerId
  name : String
  ipAddress : String
  port : Nat
  status : WorkerStatus
  capabilities : Json
  lastHeartbeatAt : Option Timestamp
  resourceSnapshot : Json
  activeTaskCount : Nat
  registeredAt : Timestamp
  updatedAt : Timestamp

/-- The columns of `TestResult` that a worker posts. -/
structure ResultFields where
  rawReport : Json
  totalRequests : Nat
  failedRequests : Nat
  errorRatePct : Double
  avgResponseMs : Double
  p90ResponseMs : Double
  p95ResponseMs : Double
  p99ResponseMs : Double
  maxResponseMs : Double
  throughputRps : Double
  peakVus : Nat
  thresholdsPassed : Option Bool
  thresholdsDetail : Json

/-- `TestResult`. -/
structure TestResult where
  task : TaskId
  fields : ResultFields
  collectedAt : Timestamp

/-- The tables. -/
structure Database where
  tasks : Table LoadTestTask.id
  workers : Table WorkerNode.id
  results : Table TestResult.task

namespace Database

/-- `LoadTestTask.objects.get(pk=id)`. -/
def getTask (db : Database) (id : TaskId) : Except Exc LoadTestTask :=
  match db.tasks.find? id with
  | some task => .ok task
  | none => .error (.doesNotExist "LoadTestTask matching query does not exist.")

theorem getTask_ok_iff {db : Database} {id : TaskId} {task : LoadTestTask} :
    db.getTask id = .ok task ↔ db.tasks.find? id = some task := by
  unfold Database.getTask
  cases db.tasks.find? id with
  | none => simp
  | some t => simp

/-- `hasattr(task, "result")`: a `TestResult` row refers to the task. -/
def hasResult (db : Database) (id : TaskId) : Bool := (db.results.find? id).isSome

/-- `UPDATE` one task row. -/
def updateTask (db : Database) (id : TaskId) (f : LoadTestTask → LoadTestTask)
    (keeps : ∀ task, (f task).id = task.id) : Database :=
  { db with tasks := db.tasks.modify id f keeps }

section

variable {db : Database} {id : TaskId} {f : LoadTestTask → LoadTestTask}
  {keeps : ∀ task, (f task).id = task.id}

@[simp] theorem hasResult_updateTask (id' : TaskId) :
    (db.updateTask id f keeps).hasResult id' = db.hasResult id' := rfl

@[simp] theorem find?_updateTask (id' : TaskId) :
    (db.updateTask id f keeps).tasks.find? id' =
      if id' = id then (db.tasks.find? id).map f else db.tasks.find? id' := by
  simp only [updateTask, Table.find?_modify]

/-- A task row after an update is an updated row or another task's row. -/
theorem mem_updateTask_cases {task : LoadTestTask} (h : task ∈ (db.updateTask id f keeps).tasks) :
    (∃ row ∈ db.tasks, row.id = id ∧ task = f row) ∨ (task ∈ db.tasks ∧ task.id ≠ id) :=
  @Table.mem_modify_cases _ _ _ _ _ _ _ keeps _ h

/-- A stored row is updated if it has the id, and stays otherwise. -/
theorem mem_updateTask_of_mem {task : LoadTestTask} (mem : task ∈ db.tasks) :
    (if task.id = id then f task else task) ∈ (db.updateTask id f keeps).tasks :=
  (@Table.mem_modify _ _ _ _ _ _ _ keeps _).mpr ⟨task, mem, rfl⟩

end

end Database

end PLoadtesting.ControlPlane
