import PLoadtesting.Lib.Transition
import PLoadtesting.ControlPlane.Dispatch
import PLoadtesting.ControlPlane.ResultViews
import PLoadtesting.ControlPlane.WorkerViews

/-!
The Control Plane as a system of concurrent requests.

Dispatch calls, worker callbacks and heartbeats are `Process`es over one
database. A step of a process is one of its database accesses or its delivery;
between two steps of a process any others may run. The copies of rows that a
process has read are part of its state, so a stale copy is visible.

`Process.step` is the code; `Move` says what a step can do, guard and effect,
and every invariant is proved by cases on it. The sequential functions are runs
of the same steps (`dispatchTaskOnce_runs`, `dispatchPendingTasks_runs`).
-/

namespace PLoadtesting.System

open Keyed Python ControlPlane Transition

/-- A request in progress, with the rows it has read. -/
inductive Process where
  /-- `dispatch_task_once`, before `refresh_from_db`. -/
  | dispatch (id : TaskId)
  /-- The row was read and is PENDING. -/
  | dispatchRefreshed (task : LoadTestTask)
  /-- A worker is selected; the delivery comes next. -/
  | dispatchSelected (task : LoadTestTask) (worker : WorkerNode)
  /-- The worker answered; the final save comes next. -/
  | dispatchAnswered (task : LoadTestTask) (worker : WorkerNode)
  /-- There is no worker, or the delivery failed; the message is saved next. -/
  | dispatchFailed (task : LoadTestTask) (message : String)
  /-- The running callback. -/
  | running (id : TaskId)
  | runningLoaded (task : LoadTestTask)
  /-- The task had no result; the save comes next. -/
  | runningChecked (task : LoadTestTask)
  /-- The result callback. -/
  | result (id : TaskId) (report : Report)
  | resultLoaded (task : LoadTestTask) (report : Report)
  /-- The task had no result; the transaction comes next. -/
  | resultChecked (task : LoadTestTask) (report : Report)
  | heartbeat (worker : WorkerId) (body : Heartbeat)
  | heartbeatLoaded (node : WorkerNode) (body : Heartbeat)
  | finished

/-- What the environment contributes to a step: the clock, the fate of the
delivery, the outcome of registering the report's artifacts. -/
structure Input where
  now : Timestamp
  delivery : Delivery
  registered : Except Exc Unit

variable [Runtime]

/-- The next step of a process; `finished` has none. -/
def Process.step (db : Database) (input : Input) : Process → Option (Process × Database)
  | .dispatch id =>
      match db.getTask id with
      | .error _ => some (.finished, db)
      | .ok task =>
          if task.status ≠ .pending then some (.finished, db)
          else some (.dispatchRefreshed task, db)
  | .dispatchRefreshed task =>
      match selectAvailableWorker db task with
      | .error _ => some (.finished, db)
      | .ok none => some (.dispatchFailed task noIdleWorkerMessage, db)
      | .ok (some worker) => some (.dispatchSelected task worker, db)
  | .dispatchSelected task worker =>
      match dispatchToWorker task input.delivery with
      | .error text => some (.dispatchFailed task (dispatchFailedMessage worker text), db)
      | .ok () => some (.dispatchAnswered task worker, db)
  | .dispatchAnswered task worker =>
      some (.finished, db.saveDispatched task.id worker.id input.now)
  | .dispatchFailed task message =>
      some (.finished, db.saveErrorMessage task.id message input.now)
  | .running id =>
      match db.tasks.find? id with
      | none => some (.finished, db)
      | some task => some (.runningLoaded task, db)
  | .runningLoaded task =>
      if db.hasResult task.id then some (.finished, db) else some (.runningChecked task, db)
  | .runningChecked task => some (.finished, db.saveRunning task input.now)
  | .result id report =>
      match db.tasks.find? id with
      | none => some (.finished, db)
      | some task => some (.resultLoaded task report, db)
  | .resultLoaded task report =>
      if db.hasResult task.id then some (.finished, db) else some (.resultChecked task report, db)
  | .resultChecked task report =>
      match db.commitResult task report input.registered input.now with
      | .error _ => some (.finished, db)
      | .ok db => some (.finished, db)
  | .heartbeat worker body =>
      match db.workers.find? worker with
      | none => some (.finished, db)
      | some node => some (.heartbeatLoaded node body, db)
  | .heartbeatLoaded node body => some (.finished, db.saveHeartbeat node body input.now)
  | .finished => none

/-- The requests that may end at their next step without a write: a row is
missing, a check fails, or an exception goes up. -/
def Process.mayEnd : Process → Bool
  | .dispatch _ | .dispatchRefreshed _ | .running _ | .runningLoaded _ | .result _ _
  | .resultLoaded _ _ | .resultChecked _ _ | .heartbeat _ _ => true
  | _ => false

/-- What a step can do. -/
inductive Move (db : Database) (input : Input) : Process → Process → Database → Prop where
  | ended {p : Process} (may : p.mayEnd = true) : Move db input p .finished db
  | refreshed {id : TaskId} {task : LoadTestTask} (stored : db.tasks.find? id = some task)
      (pending : task.status = .pending) :
      Move db input (.dispatch id) (.dispatchRefreshed task) db
  | unavailable (task : LoadTestTask) :
      Move db input (.dispatchRefreshed task) (.dispatchFailed task noIdleWorkerMessage) db
  | selected {task : LoadTestTask} {worker : WorkerNode}
      (found : selectAvailableWorker db task = .ok (some worker)) :
      Move db input (.dispatchRefreshed task) (.dispatchSelected task worker) db
  | undelivered {task : LoadTestTask} {worker : WorkerNode} {text : String}
      (failed : dispatchToWorker task input.delivery = .error text) :
      Move db input (.dispatchSelected task worker)
        (.dispatchFailed task (dispatchFailedMessage worker text)) db
  | answered {task : LoadTestTask} {worker : WorkerNode}
      (delivered : dispatchToWorker task input.delivery = .ok ()) :
      Move db input (.dispatchSelected task worker) (.dispatchAnswered task worker) db
  | dispatched (task : LoadTestTask) (worker : WorkerNode) :
      Move db input (.dispatchAnswered task worker) .finished
        (db.saveDispatched task.id worker.id input.now)
  | noted (task : LoadTestTask) (message : String) :
      Move db input (.dispatchFailed task message) .finished
        (db.saveErrorMessage task.id message input.now)
  | runningLoaded {id : TaskId} {task : LoadTestTask} (stored : db.tasks.find? id = some task) :
      Move db input (.running id) (.runningLoaded task) db
  | runningChecked {task : LoadTestTask} (noResult : db.hasResult task.id = false) :
      Move db input (.runningLoaded task) (.runningChecked task) db
  | started (task : LoadTestTask) :
      Move db input (.runningChecked task) .finished (db.saveRunning task input.now)
  | resultLoaded {id : TaskId} {task : LoadTestTask} {report : Report}
      (stored : db.tasks.find? id = some task) :
      Move db input (.result id report) (.resultLoaded task report) db
  | resultChecked {task : LoadTestTask} {report : Report}
      (noResult : db.hasResult task.id = false) :
      Move db input (.resultLoaded task report) (.resultChecked task report) db
  | committed {task : LoadTestTask} {report : Report} {db' : Database}
      (commits : db.commitResult task report input.registered input.now = .ok db') :
      Move db input (.resultChecked task report) .finished db'
  | heartbeatLoaded {worker : WorkerId} {node : WorkerNode} {body : Heartbeat}
      (stored : db.workers.find? worker = some node) :
      Move db input (.heartbeat worker body) (.heartbeatLoaded node body) db
  | heartbeatSaved (node : WorkerNode) (body : Heartbeat) :
      Move db input (.heartbeatLoaded node body) .finished (db.saveHeartbeat node body input.now)

theorem Process.step_move {db db' : Database} {input : Input} {p q : Process}
    (h : p.step db input = some (q, db')) : Move db input p q db' := by
  cases p with
  | dispatch id =>
      simp only [Process.step] at h
      split at h
      · cases h
        exact .ended rfl
      · rename_i task stored
        split at h
        · cases h
          exact .ended rfl
        · rename_i pending
          cases h
          exact .refreshed (Database.getTask_ok_iff.mp stored) (not_not.mp pending)
  | dispatchRefreshed task =>
      simp only [Process.step] at h
      split at h
      · cases h
        exact .ended rfl
      · cases h
        exact .unavailable task
      · rename_i found
        cases h
        exact .selected found
  | dispatchSelected task worker =>
      simp only [Process.step] at h
      split at h
      · rename_i failed
        cases h
        exact .undelivered failed
      · rename_i delivered
        cases h
        exact .answered delivered
  | dispatchAnswered task worker =>
      cases h
      exact .dispatched task worker
  | dispatchFailed task message =>
      cases h
      exact .noted task message
  | running id =>
      simp only [Process.step] at h
      split at h
      · cases h
        exact .ended rfl
      · rename_i stored
        cases h
        exact .runningLoaded stored
  | runningLoaded task =>
      simp only [Process.step] at h
      split at h
      · cases h
        exact .ended rfl
      · rename_i noResult
        cases h
        exact .runningChecked (Bool.not_eq_true _ ▸ noResult)
  | runningChecked task =>
      cases h
      exact .started task
  | result id report =>
      simp only [Process.step] at h
      split at h
      · cases h
        exact .ended rfl
      · rename_i stored
        cases h
        exact .resultLoaded stored
  | resultLoaded task report =>
      simp only [Process.step] at h
      split at h
      · cases h
        exact .ended rfl
      · rename_i noResult
        cases h
        exact .resultChecked (Bool.not_eq_true _ ▸ noResult)
  | resultChecked task report =>
      simp only [Process.step] at h
      split at h
      · cases h
        exact .ended rfl
      · rename_i commits
        cases h
        exact .committed commits
  | heartbeat worker body =>
      simp only [Process.step] at h
      split at h
      · cases h
        exact .ended rfl
      · rename_i stored
        cases h
        exact .heartbeatLoaded stored
  | heartbeatLoaded node body =>
      cases h
      exact .heartbeatSaved node body
  | finished => cases h

/-! ### The system -/

/-- A request that has not begun. -/
def Process.isNew : Process → Bool
  | .dispatch _ | .running _ | .result _ _ | .heartbeat _ _ => true
  | _ => false

/-- The task whose callback the process is. -/
def Process.callback? : Process → Option TaskId
  | .running id | .result id _ => some id
  | _ => none

/-- The database, the requests, and the `/execute` requests that a worker has
accepted, in order. Requests keep their index; a finished one stays in place. -/
structure State where
  db : Database
  processes : List Process
  accepted : List (TaskId × WorkerId)

/-- What can happen. -/
inductive Event where
  /-- A request arrives. A scheduler tick and a demo create arrive as the
  dispatch calls they make. -/
  | arrive (process : Process)
  /-- The request with this index takes its next step. -/
  | advance (index : Nat) (input : Input)

/-- The acceptance that a step amounts to. -/
def acceptance (input : Input) : Process → List (TaskId × WorkerId)
  | .dispatchSelected task worker =>
      if delivers task input.delivery then [(task.id, worker.id)] else []
  | _ => []

/-- A worker posts callbacks for a task only after it accepted the task. -/
def mayArrive (s : State) (p : Process) : Bool :=
  p.isNew && p.callback?.all fun id => s.accepted.any fun a => decide (a.1 = id)

/-- One event. -/
def step (s : State) : Event → Option State
  | .arrive p =>
      if mayArrive s p then some { s with processes := s.processes ++ [p] } else none
  | .advance index input =>
      (s.processes[index]?).bind fun p =>
        (p.step s.db input).map fun (q, db) =>
          { db
            processes := s.processes.set index q
            accepted := s.accepted ++ acceptance input p }

/-- Nothing is in progress. -/
def State.Quiet (s : State) : Prop := s.processes = [] ∧ s.accepted = []

/-- The state after a step of the process `p` at `index`, which became `q`. -/
structure Advanced (s : State) (index : Nat) (input : Input) (p q : Process) (t : State) :
    Prop where
  current : s.processes[index]? = some p
  move : Move s.db input p q t.db
  processes_eq : t.processes = s.processes.set index q
  accepted_eq : t.accepted = s.accepted ++ acceptance input p

/-- What one event can do. -/
theorem step_cases {s t : State} {e : Event} (h : step s e = some t) :
    (∃ p, e = .arrive p ∧ mayArrive s p = true ∧
      t = { s with processes := s.processes ++ [p] }) ∨
    (∃ index input p q, e = .advance index input ∧ Advanced s index input p q t) := by
  cases e with
  | arrive p =>
      simp only [step] at h
      split at h
      · rename_i may
        cases h
        exact .inl ⟨p, rfl, may, rfl⟩
      · cases h
  | advance index input =>
      obtain ⟨p, current, h⟩ := Option.bind_eq_some_iff.mp h
      obtain ⟨⟨q, db⟩, moves, h⟩ := Option.map_eq_some_iff.mp h
      cases h
      exact .inr ⟨index, input, p, q, rfl, current, Process.step_move moves, rfl, rfl⟩

/-- A process after a step is the one that moved, or was there before. -/
theorem Advanced.mem {s t : State} {index : Nat} {input : Input} {p q r : Process}
    (a : Advanced s index input p q t) (h : r ∈ t.processes) : r = q ∨ r ∈ s.processes := by
  rw [a.processes_eq] at h
  exact (List.mem_or_eq_of_mem_set h).symm

theorem Advanced.mem_current {s t : State} {index : Nat} {input : Input} {p q : Process}
    (a : Advanced s index input p q t) : p ∈ s.processes :=
  List.mem_of_getElem? a.current

/-! ### The sequential functions are runs -/

/-- Successive steps of one process: what becomes of it, of the database, and the
acceptances on the way. -/
def Process.drive (p : Process) (db : Database) :
    List Input → Option (Process × Database × List (TaskId × WorkerId))
  | [] => some (p, db, [])
  | input :: inputs =>
      (p.step db input).bind fun (q, db) =>
        (q.drive db inputs).map fun (r, db, accepted) => (r, db, acceptance input p ++ accepted)

/-- Driving the last process of a system is a run of the system. -/
theorem exec_of_drive {p q : Process} {ps : List Process} {db db' : Database} {inputs : List Input}
    {before accepted : List (TaskId × WorkerId)} (h : p.drive db inputs = some (q, db', accepted)) :
    exec step ⟨db, ps ++ [p], before⟩ (inputs.map (.advance ps.length)) =
      some ⟨db', ps ++ [q], before ++ accepted⟩ := by
  induction inputs generalizing p db before accepted with
  | nil =>
      cases h
      simp [exec]
  | cons input inputs ih =>
      obtain ⟨⟨r, db₁⟩, moves, h⟩ := Option.bind_eq_some_iff.mp h
      obtain ⟨⟨q', db₂, rest⟩, driven, h⟩ := Option.map_eq_some_iff.mp h
      cases h
      have first : step ⟨db, ps ++ [p], before⟩ (.advance ps.length input) =
          some ⟨db₁, ps ++ [r], before ++ acceptance input p⟩ := by
        simp [step, moves]
      rw [List.map_cons, exec, first, Option.bind_some, ih driven, List.append_assoc]

/-- `dispatch_task_once` is its steps taken one after another. -/
theorem dispatchTaskOnce_drive (db : Database) (id : TaskId) (delivery : WorkerNode → Delivery)
    (now : Timestamp) : ∃ inputs accepted, (Process.dispatch id).drive db inputs =
      some (.finished, (dispatchTaskOnce db id delivery now).2, accepted) := by
  let plain : Input := ⟨now, .answered, .ok ()⟩
  unfold dispatchTaskOnce
  cases stored : db.getTask id with
  | error e => exact ⟨[plain], [], by simp [Process.drive, Process.step, stored, acceptance]⟩
  | ok task =>
      have same := (Table.find?_eq_some_iff.mp (Database.getTask_ok_iff.mp stored)).2
      by_cases pending : task.status = .pending
      · cases found : selectAvailableWorker db task with
        | error e =>
            refine ⟨[plain, plain], [], ?_⟩
            simp [Process.drive, Process.step, stored, pending, found, acceptance]
        | ok selected =>
            cases selected with
            | none =>
                refine ⟨[plain, plain, plain], [], ?_⟩
                simp [Process.drive, Process.step, stored, pending, found, acceptance, same, plain]
            | some worker =>
                let sent : Input := ⟨now, delivery worker, .ok ()⟩
                refine ⟨[plain, plain, sent, plain],
                  acceptance sent (.dispatchSelected task worker), ?_⟩
                cases outcome : dispatchToWorker task (delivery worker) with
                | error text =>
                    simp [Process.drive, Process.step, stored, pending, found, outcome, same,
                      acceptance, plain, sent]
                | ok u =>
                    simp [Process.drive, Process.step, stored, pending, found, outcome, same,
                      acceptance, plain, sent]
      · refine ⟨[plain], [], ?_⟩
        simp [Process.drive, Process.step, stored, pending, acceptance]

/-- A dispatch call that arrives and runs to its end is `dispatch_task_once`. -/
theorem dispatchTaskOnce_runs (s : State) (id : TaskId) (delivery : WorkerNode → Delivery)
    (now : Timestamp) : ∃ es t, exec step s es = some t ∧
      t.db = (dispatchTaskOnce s.db id delivery now).2 ∧
      t.processes = s.processes ++ [.finished] := by
  obtain ⟨inputs, accepted, driven⟩ := dispatchTaskOnce_drive s.db id delivery now
  have arrives : step s (.arrive (.dispatch id)) =
      some ⟨s.db, s.processes ++ [.dispatch id], s.accepted⟩ := rfl
  have runs : exec step s (.arrive (.dispatch id) :: inputs.map (.advance s.processes.length)) =
      some ⟨(dispatchTaskOnce s.db id delivery now).2, s.processes ++ [.finished],
        s.accepted ++ accepted⟩ := by
    rw [exec, arrives, Option.bind_some, exec_of_drive driven]
  exact ⟨_, _, runs, rfl, rfl⟩

/-- The calls of the scheduler's loop, one after another, are a run. -/
theorem dispatchEach_runs (delivery : TaskId → WorkerNode → Delivery) (now : Timestamp)
    (ids : List TaskId) (s : State) : ∃ es t, exec step s es = some t ∧
      t.db = (dispatchEach delivery now s.db ids).2 := by
  induction ids generalizing s with
  | nil => exact ⟨[], s, rfl, rfl⟩
  | cons id ids ih =>
      obtain ⟨es, t, run, db_eq, _⟩ := dispatchTaskOnce_runs s id (delivery id) now
      unfold dispatchEach
      cases called : dispatchTaskOnce s.db id (delivery id) now with
      | mk outcome db =>
          rw [called] at db_eq
          cases outcome with
          | error e => exact ⟨es, t, run, db_eq⟩
          | ok dispatched =>
              obtain ⟨fs, u, rest, db_eq'⟩ := ih t
              have whole := ((run_iff_exec.mpr run).append (run_iff_exec.mpr rest)).exec
              refine ⟨es ++ fs, u, whole, ?_⟩
              rw [db_eq', db_eq]
              dsimp only
              split <;> simp [*]

/-- A scheduler tick is a run: `dispatch_pending_tasks` and nothing in between. -/
theorem dispatchPendingTasks_runs (delivery : TaskId → WorkerNode → Delivery) (now : Timestamp)
    (s : State) : ∃ es t, exec step s es = some t ∧
      t.db = (dispatchPendingTasks s.db delivery now).2 :=
  dispatchEach_runs delivery now _ s

/-! ### A small deployment

One online k6 worker and pending k6 tasks, for schedules that are replayed. -/

/-- A pending k6 task. -/
def pendingTask (id : TaskId) : LoadTestTask where
  id
  name := "smoke"
  engine := "k6"
  scriptPath := "engines/k6/smoke.js"
  parameters := .obj []
  targetUrl := "http://echo-api:8000"
  scheduledAt := none
  startedAt := none
  finishedAt := none
  status := .pending
  worker := none
  errorMessage := ""
  createdBy := ""
  createdAt := 0
  updatedAt := 0

/-- An idle k6 worker. -/
def idleWorker : WorkerNode where
  id := "w"
  name := "worker-1"
  ipAddress := "10.0.0.1"
  port := 8100
  status := .online
  capabilities := .arr [.str "k6"]
  lastHeartbeatAt := some 0
  resourceSnapshot := .obj []
  activeTaskCount := 0
  registeredAt := 0
  updatedAt := 0

/-- A result report with all metrics zero. -/
def emptyReport : Report where
  fields :=
    { rawReport := .obj []
      totalRequests := 0
      failedRequests := 0
      errorRatePct := .finite 0
      avgResponseMs := .finite 0
      p90ResponseMs := .finite 0
      p95ResponseMs := .finite 0
      p99ResponseMs := .finite 0
      maxResponseMs := .finite 0
      throughputRps := .finite 0
      peakVus := 0
      thresholdsPassed := none
      thresholdsDetail := .arr [] }
  failed := false
  errorMessage := ""

/-- One idle worker and one pending task. -/
def oneTask : State where
  db := ⟨⟨[pendingTask "t"], by decide⟩, ⟨[idleWorker], by decide⟩, Table.empty⟩
  processes := []
  accepted := []

/-- One idle worker and two pending tasks. -/
def twoTasks : State where
  db := ⟨⟨[pendingTask "t", pendingTask "u"], by decide⟩, ⟨[idleWorker], by decide⟩, Table.empty⟩
  processes := []
  accepted := []

/-- The request `index` takes a step, and a delivery is answered. -/
def go (index : Nat) : Event := .advance index ⟨1, .answered, .ok ()⟩

end PLoadtesting.System
