import PLoadtesting.ControlPlane.Models
import Mathlib.Data.List.Sort

/-!
Dispatch (`apps/tasks/tasks.py`): worker selection, delivery of one task, and
the scheduler tick over the due pending tasks.

What happens on the wire is the parameter `Delivery`: a request can be refused,
accepted and answered, or accepted with the answer lost, and the dispatcher sees
the last one as a failure.
-/

namespace PLoadtesting.ControlPlane

open Keyed Python

/-! ### Worker selection -/

/-- `_worker_supports_engine`: `engine in (worker.capabilities or [])`. -/
def workerSupportsEngine (worker : WorkerNode) (engine : String) : Except Exc Bool :=
  worker.capabilities.orEmpty.hasElem engine

/-- Online and idle by its own last report. -/
def WorkerNode.isIdle (worker : WorkerNode) : Bool :=
  decide (worker.status = .online) && decide (worker.activeTaskCount = 0)

/-- The order of `order_by("last_heartbeat_at")`, null first. -/
def heartbeatBefore (v w : WorkerNode) : Prop :=
  match v.lastHeartbeatAt, w.lastHeartbeatAt with
  | none, _ => True
  | some _, none => False
  | some s, some t => s ≤ t

instance (v w : WorkerNode) : Decidable (heartbeatBefore v w) := by
  unfold heartbeatBefore
  split <;> infer_instance

/-- The idle workers, the longest silent first. -/
def idleWorkers (db : Database) : List WorkerNode :=
  (db.workers.rows.filter WorkerNode.isIdle).insertionSort heartbeatBefore

/-- The first worker that advertises the engine. -/
def firstSupporting (engine : String) : List WorkerNode → Except Exc (Option WorkerNode)
  | [] => .ok none
  | worker :: workers =>
      match workerSupportsEngine worker engine with
      | .error e => .error e
      | .ok true => .ok (some worker)
      | .ok false => firstSupporting engine workers

/-- `_select_available_worker`. -/
def selectAvailableWorker (db : Database) (task : LoadTestTask) : Except Exc (Option WorkerNode) :=
  firstSupporting task.engine (idleWorkers db)

theorem mem_idleWorkers {db : Database} {worker : WorkerNode} :
    worker ∈ idleWorkers db ↔ worker ∈ db.workers ∧ worker.isIdle = true := by
  unfold idleWorkers
  rw [List.mem_insertionSort, List.mem_filter, Table.mem_def]

theorem firstSupporting_mem {engine : String} {workers : List WorkerNode} {worker : WorkerNode}
    (h : firstSupporting engine workers = .ok (some worker)) :
    worker ∈ workers ∧ workerSupportsEngine worker engine = .ok true := by
  induction workers with
  | nil => cases h
  | cons first workers ih =>
      unfold firstSupporting at h
      split at h
      · cases h
      · rename_i supports
        cases h
        exact ⟨List.mem_cons_self, supports⟩
      · obtain ⟨mem, supports⟩ := ih h
        exact ⟨List.mem_cons_of_mem _ mem, supports⟩

/-- A selected worker is a stored worker that is idle by its last report and
advertises the engine. -/
theorem selectAvailableWorker_some {db : Database} {task : LoadTestTask} {worker : WorkerNode}
    (h : selectAvailableWorker db task = .ok (some worker)) :
    db.workers.find? worker.id = some worker ∧ worker.isIdle = true ∧
      workerSupportsEngine worker task.engine = .ok true := by
  obtain ⟨mem, supports⟩ := firstSupporting_mem h
  obtain ⟨stored, idle⟩ := mem_idleWorkers.mp mem
  exact ⟨Table.find?_key stored, idle, supports⟩

/-- A value that `in` can search. -/
def IsCollection : Json → Prop
  | .arr _ | .str _ | .obj _ => True
  | _ => False

theorem hasElem_ok_iff {needle : String} {j : Json} :
    (∃ b, j.hasElem needle = .ok b) ↔ IsCollection j := by
  cases j <;> simp [Json.hasElem, IsCollection]

/-- Every worker that is asked before one supports the engine has capabilities
that can be searched. -/
def AsksCollections (engine : String) (workers : List WorkerNode) : Prop :=
  ∀ before worker after, workers = before ++ worker :: after →
    (∀ w ∈ before, workerSupportsEngine w engine ≠ .ok true) →
      IsCollection worker.capabilities.orEmpty

theorem firstSupporting_ok_iff {engine : String} {workers : List WorkerNode} :
    (∃ found, firstSupporting engine workers = .ok found) ↔ AsksCollections engine workers := by
  induction workers with
  | nil =>
      refine iff_of_true ⟨none, rfl⟩ ?_
      intro before worker after split
      cases before <;> cases split
  | cons first workers ih =>
      have head : AsksCollections engine (first :: workers) →
          IsCollection first.capabilities.orEmpty :=
        fun asks => asks [] first workers rfl (by simp)
      unfold firstSupporting
      cases supports : workerSupportsEngine first engine with
      | error e =>
          refine iff_of_false (by simp) ?_
          intro asks
          obtain ⟨b, found⟩ := hasElem_ok_iff.mpr (head asks)
          cases supports.symm.trans found
      | ok b =>
          have searchable : IsCollection first.capabilities.orEmpty :=
            hasElem_ok_iff.mp ⟨b, supports⟩
          cases b with
          | true =>
              refine iff_of_true ⟨_, rfl⟩ ?_
              intro before worker after split unsupported
              cases before with
              | nil =>
                  cases split
                  exact searchable
              | cons w before =>
                  cases split
                  exact absurd supports (unsupported _ List.mem_cons_self)
          | false =>
              refine ih.trans ⟨?_, ?_⟩
              · intro asks before worker after split unsupported
                cases before with
                | nil =>
                    cases split
                    exact searchable
                | cons w before =>
                    cases split
                    exact asks before worker after rfl fun v mem =>
                      unsupported v (List.mem_cons_of_mem _ mem)
              · intro asks before worker after split unsupported
                refine asks (first :: before) worker after (by rw [split]; rfl) ?_
                intro v mem
                rcases List.mem_cons.mp mem with rfl | mem
                · rw [supports]
                  nofun
                · exact unsupported v mem

/-! ### Delivery -/

/-- The JSON body of `POST /execute`. -/
structure ExecuteRequest where
  taskId : TaskId
  engine : String
  scriptPath : String
  parameters : Dict Json

/-- The body as JSON. -/
def ExecuteRequest.payload (request : ExecuteRequest) : Json :=
  .obj [("task_id", .str request.taskId), ("engine", .str request.engine),
    ("script_path", .str request.scriptPath), ("parameters", dictJson request.parameters)]

/-- What became of a request to a worker. -/
inductive Delivery where
  /-- A 2xx answer in time. -/
  | answered
  /-- The worker accepted the request, but the answer was lost or came after the
  timeout. -/
  | answerLost (text : String)
  /-- The worker did not accept the request. -/
  | refused (text : String)
deriving DecidableEq, Repr

/-- The worker took the request. -/
def Delivery.accepted : Delivery → Bool
  | .answered | .answerLost _ => true
  | .refused _ => false

/-- What the dispatcher sees. -/
def Delivery.outcome : Delivery → Except String Unit
  | .answered => .ok ()
  | .answerLost text | .refused text => .error text

/-- The request that `_dispatch_to_worker` builds. -/
def executeRequest [Runtime] (task : LoadTestTask) : Except Exc ExecuteRequest := do
  let parameters ← task.parameters.orEmpty.toDict
  return {
    taskId := task.id
    engine := task.engine
    scriptPath := task.scriptPath
    parameters :=
      if task.targetUrl ≠ "" then parameters.setdefault "TARGET_URL" (.str task.targetUrl)
      else parameters }

/-- `_dispatch_to_worker`. An exception while the request is built is caught
together with the failures of the delivery. -/
def dispatchToWorker [Runtime] (task : LoadTestTask) (delivery : Delivery) : Except String Unit :=
  match executeRequest task with
  | .error e => .error e.text
  | .ok _ => delivery.outcome

/-- The request reached a worker that took it. -/
def delivers [Runtime] (task : LoadTestTask) (delivery : Delivery) : Bool :=
  (executeRequest task matches .ok _) && delivery.accepted

/-- The dispatcher sees a success only if the worker answered. -/
theorem dispatchToWorker_ok [Runtime] {task : LoadTestTask} {delivery : Delivery}
    (h : dispatchToWorker task delivery = .ok ()) :
    delivery = .answered ∧ delivers task delivery = true := by
  unfold dispatchToWorker at h
  cases built : executeRequest task with
  | error e => simp [built] at h
  | ok request =>
      rw [built] at h
      cases delivery with
      | answered => exact ⟨rfl, by simp [delivers, built, Delivery.accepted]⟩
      | answerLost text => cases h
      | refused text => cases h

/-! ### One task -/

/-- `save(update_fields=["error_message", "updated_at"])`. -/
def Database.saveErrorMessage (db : Database) (id : TaskId) (errorMessage : String)
    (now : Timestamp) : Database :=
  db.updateTask id (fun row => { row with errorMessage, updatedAt := now }) fun _ => rfl

/-- `save(update_fields=["worker", "status", "error_message", "updated_at"])`. -/
def Database.saveDispatched (db : Database) (id : TaskId) (worker : WorkerId) (now : Timestamp) :
    Database :=
  db.updateTask id
    (fun row => { row with
      worker := some worker
      status := .dispatched
      errorMessage := ""
      updatedAt := now })
    fun _ => rfl

def noIdleWorkerMessage : String := "No compatible idle worker is currently available."

def dispatchFailedMessage (worker : WorkerNode) (text : String) : String :=
  "Dispatch to worker '" ++ worker.name ++ "' failed: " ++ text

/-- `dispatch_task_once`. Exceptions of the row lookup and of the selection are
not caught. -/
def dispatchTaskOnce [Runtime] (db : Database) (id : TaskId) (delivery : WorkerNode → Delivery)
    (now : Timestamp) : Except Exc Bool × Database :=
  match db.getTask id with
  | .error e => (.error e, db)
  | .ok task =>
      if task.status ≠ .pending then (.ok false, db)
      else
        match selectAvailableWorker db task with
        | .error e => (.error e, db)
        | .ok none => (.ok false, db.saveErrorMessage id noIdleWorkerMessage now)
        | .ok (some worker) =>
            match dispatchToWorker task (delivery worker) with
            | .error text =>
                (.ok false, db.saveErrorMessage id (dispatchFailedMessage worker text) now)
            | .ok () => (.ok true, db.saveDispatched id worker.id now)

/-- The outcomes of a dispatch. -/
inductive DispatchCase [Runtime] (db : Database) (id : TaskId) (delivery : WorkerNode → Delivery)
    (now : Timestamp) : Except Exc Bool × Database → Prop where
  | kept {result : Except Exc Bool} (notDispatched : result ≠ .ok true) :
      DispatchCase db id delivery now (result, db)
  | noted {task : LoadTestTask} (errorMessage : String) (stored : db.tasks.find? id = some task)
      (pending : task.status = .pending) :
      DispatchCase db id delivery now (.ok false, db.saveErrorMessage id errorMessage now)
  | dispatched {task : LoadTestTask} {worker : WorkerNode} (stored : db.tasks.find? id = some task)
      (pending : task.status = .pending)
      (selected : selectAvailableWorker db task = .ok (some worker))
      (delivered : dispatchToWorker task (delivery worker) = .ok ()) :
      DispatchCase db id delivery now (.ok true, db.saveDispatched id worker.id now)

theorem dispatchTaskOnce_cases [Runtime] (db : Database) (id : TaskId)
    (delivery : WorkerNode → Delivery) (now : Timestamp) :
    DispatchCase db id delivery now (dispatchTaskOnce db id delivery now) := by
  unfold dispatchTaskOnce
  cases found : db.getTask id with
  | error e => exact .kept (by simp)
  | ok task =>
      have stored := Database.getTask_ok_iff.mp found
      dsimp only
      split
      · exact .kept (by simp)
      · rename_i notLeft
        have pending : task.status = .pending := of_not_not notLeft
        split
        · exact .kept (by simp)
        · exact .noted _ stored pending
        · rename_i worker selected
          split
          · exact .noted _ stored pending
          · rename_i delivered
            exact .dispatched stored pending selected delivered

/-- Dispatching a pending task fails exactly when the selection does. -/
theorem dispatchTaskOnce_ok_iff [Runtime] {db : Database} {id : TaskId} {task : LoadTestTask}
    (delivery : WorkerNode → Delivery) (now : Timestamp) (found : db.tasks.find? id = some task)
    (pending : task.status = .pending) :
    (∃ dispatched, (dispatchTaskOnce db id delivery now).1 = .ok dispatched) ↔
      AsksCollections task.engine (idleWorkers db) := by
  rw [← firstSupporting_ok_iff]
  simp only [dispatchTaskOnce, Database.getTask_ok_iff.mpr found, pending, ne_eq, not_true,
    if_false, selectAvailableWorker]
  cases firstSupporting task.engine (idleWorkers db) with
  | error e => simp
  | ok worker? =>
      cases worker? with
      | none => simp
      | some worker =>
          refine iff_of_true ?_ ⟨_, rfl⟩
          dsimp only
          split
          · exact ⟨_, rfl⟩
          · exact ⟨_, rfl⟩

/-- The columns that describe the work of a task. -/
structure SameWork (row row' : LoadTestTask) : Prop where
  engine : row'.engine = row.engine
  scriptPath : row'.scriptPath = row.scriptPath
  targetUrl : row'.targetUrl = row.targetUrl
  parameters : row'.parameters = row.parameters

/-- `db'` is `db` but for the row of one task, whose work is the same. -/
def Database.KeepsWork (db db' : Database) (id : TaskId) : Prop :=
  ∃ f keeps, db' = db.updateTask id f keeps ∧ ∀ row, SameWork row (f row)

theorem Database.KeepsWork.refl (db : Database) (id : TaskId) : db.KeepsWork db id :=
  ⟨fun row => row, fun _ => rfl, by simp [Database.updateTask, Table.modify],
    fun _ => ⟨rfl, rfl, rfl, rfl⟩⟩

theorem keepsWork_saveErrorMessage (db : Database) (id : TaskId) (errorMessage : String)
    (now : Timestamp) : db.KeepsWork (db.saveErrorMessage id errorMessage now) id := by
  refine ⟨fun row => { row with errorMessage, updatedAt := now }, fun _ => rfl, rfl, ?_⟩
  intro row
  exact ⟨rfl, rfl, rfl, rfl⟩

theorem keepsWork_saveDispatched (db : Database) (id : TaskId) (worker : WorkerId)
    (now : Timestamp) : db.KeepsWork (db.saveDispatched id worker now) id := by
  refine ⟨fun row => { row with
    worker := some worker
    status := .dispatched
    errorMessage := ""
    updatedAt := now }, fun _ => rfl, rfl, fun row => ?_⟩
  exact ⟨rfl, rfl, rfl, rfl⟩

/-- Dispatching a task writes its own row only, and nothing that describes its
work. -/
theorem dispatchTaskOnce_keepsWork [Runtime] (db : Database) (id : TaskId)
    (delivery : WorkerNode → Delivery) (now : Timestamp) :
    db.KeepsWork (dispatchTaskOnce db id delivery now).2 id := by
  have outcome := dispatchTaskOnce_cases db id delivery now
  generalize dispatchTaskOnce db id delivery now = result at outcome ⊢
  cases outcome with
  | kept notDispatched => exact .refl db id
  | noted errorMessage stored pending => exact keepsWork_saveErrorMessage db id errorMessage now
  | dispatched stored pending selected delivered => exact keepsWork_saveDispatched db id _ now

/-! ### The scheduler tick -/

/-- `scheduled_at__lte=now` or null. -/
def LoadTestTask.isDue (task : LoadTestTask) (now : Timestamp) : Bool :=
  match task.scheduledAt with
  | none => true
  | some at_ => decide (at_ ≤ now)

/-- The due pending tasks, the newest first. -/
def pendingTasks (db : Database) (now : Timestamp) : List LoadTestTask :=
  (db.tasks.rows.filter fun task => decide (task.status = .pending) && task.isDue now).insertionSort
    fun s t => t.createdAt ≤ s.createdAt

/-- The loop of `dispatch_pending_tasks`. An exception ends the tick. -/
def dispatchEach [Runtime] (delivery : TaskId → WorkerNode → Delivery) (now : Timestamp) :
    Database → List TaskId → Except Exc Nat × Database
  | db, [] => (.ok 0, db)
  | db, id :: ids =>
      match dispatchTaskOnce db id (delivery id) now with
      | (.error e, db) => (.error e, db)
      | (.ok dispatched, db) =>
          match dispatchEach delivery now db ids with
          | (.error e, db) => (.error e, db)
          | (.ok count, db) => (.ok (count + if dispatched then 1 else 0), db)

def dispatchPendingTasks [Runtime] (db : Database) (delivery : TaskId → WorkerNode → Delivery)
    (now : Timestamp) : Except Exc Nat × Database :=
  dispatchEach delivery now db ((pendingTasks db now).map (·.id))

end PLoadtesting.ControlPlane
