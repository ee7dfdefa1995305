import PLoadtesting.System.TaskLife
import PLoadtesting.System.Interleaving

/-!
What a dispatch call sends is built from the rows that it read, and other requests go on
between the read and the delivery. The copies get stale in the status, the times and the
message only: no step changes what a task asks for, or where a worker listens and what
it supports (`KeepsRequests.move`). Nothing registers a worker here.
-/

namespace PLoadtesting.System

open Keyed Python ControlPlane Transition

/-- `worker_url`. -/
def workerUrl (worker : WorkerNode) : String :=
  "http://" ++ worker.ipAddress ++ ":" ++ toString worker.port ++ "/execute"

/-- A later row of the same worker. -/
structure SameNode (node node' : WorkerNode) : Prop where
  id : node'.id = node.id
  name : node'.name = node.name
  ipAddress : node'.ipAddress = node.ipAddress
  port : node'.port = node.port
  capabilities : node'.capabilities = node.capabilities
  registeredAt : node'.registeredAt = node.registeredAt

/-- The rows of `db` are in `db'`, with the same requests, addresses and
capabilities. -/
structure KeepsRequests (db db' : Database) : Prop where
  tasks : ∀ id row, db.tasks.find? id = some row →
    ∃ row', db'.tasks.find? id = some row' ∧ SameRequest row row'
  workers : ∀ id node, db.workers.find? id = some node →
    ∃ node', db'.workers.find? id = some node' ∧ SameNode node node'

theorem SameNode.refl (node : WorkerNode) : SameNode node node := ⟨rfl, rfl, rfl, rfl, rfl, rfl⟩

theorem SameNode.trans {node node' node'' : WorkerNode} (h : SameNode node node')
    (k : SameNode node' node'') : SameNode node node'' :=
  ⟨k.id.trans h.id, k.name.trans h.name, k.ipAddress.trans h.ipAddress, k.port.trans h.port,
    k.capabilities.trans h.capabilities, k.registeredAt.trans h.registeredAt⟩

theorem KeepsRequests.refl (db : Database) : KeepsRequests db db :=
  ⟨fun _ row stored => ⟨row, stored, .refl row⟩, fun _ node stored => ⟨node, stored, .refl node⟩⟩

theorem KeepsRequests.trans {db db' db'' : Database} (h : KeepsRequests db db')
    (k : KeepsRequests db' db'') : KeepsRequests db db'' := by
  constructor
  · intro id row stored
    obtain ⟨row', stored', same⟩ := h.tasks id row stored
    obtain ⟨row'', stored'', same'⟩ := k.tasks id row' stored'
    exact ⟨row'', stored'', same.trans same'⟩
  · intro id node stored
    obtain ⟨node', stored', same⟩ := h.workers id node stored
    obtain ⟨node'', stored'', same'⟩ := k.workers id node' stored'
    exact ⟨node'', stored'', same.trans same'⟩

/-! ### Steps -/

section Steps

variable {db db' : Database}

theorem KeepsRequests.updateTask {id : TaskId} {f : LoadTestTask → LoadTestTask}
    {keeps : ∀ task, (f task).id = task.id} (same : ∀ row, SameRequest row (f row)) :
    KeepsRequests db (db.updateTask id f keeps) := by
  refine ⟨?_, fun _ node stored => ⟨node, stored, .refl node⟩⟩
  intro other row stored
  rw [Database.find?_updateTask]
  split
  · rename_i own
    subst own
    rw [stored]
    exact ⟨f row, rfl, same row⟩
  · exact ⟨row, stored, .refl row⟩

theorem keepsRequests_saveHeartbeat (node : WorkerNode) (heartbeat : Heartbeat)
    (now : Timestamp) : KeepsRequests db (db.saveHeartbeat node heartbeat now) := by
  refine ⟨fun _ row stored => ⟨row, stored, .refl row⟩, ?_⟩
  intro other row stored
  rw [Database.saveHeartbeat, Table.find?_modify]
  split
  · rename_i own
    subst own
    rw [stored]
    exact ⟨_, rfl, rfl, rfl, rfl, rfl, rfl, rfl⟩
  · exact ⟨row, stored, .refl row⟩

variable [Runtime] {input : Input} {p q : Process}

/-- No step changes what a task asks for, or the address and the capabilities of a
worker. -/
theorem KeepsRequests.move (move : Move db input p q db') : KeepsRequests db db' := by
  cases move with
  | dispatched => exact .updateTask fun _ => ⟨rfl, rfl, ⟨rfl, rfl, rfl, rfl⟩, rfl, rfl, rfl⟩
  | noted => exact .updateTask fun _ => ⟨rfl, rfl, ⟨rfl, rfl, rfl, rfl⟩, rfl, rfl, rfl⟩
  | started => exact .updateTask fun _ => ⟨rfl, rfl, ⟨rfl, rfl, rfl, rfl⟩, rfl, rfl, rfl⟩
  | @committed task report _ commits =>
      obtain ⟨_, rfl⟩ := commitResult_ok commits
      have stored : KeepsRequests db
          { db with results := db.results.upsert ⟨task.id, report.fields, input.now⟩ } :=
        ⟨(KeepsRequests.refl db).tasks, (KeepsRequests.refl db).workers⟩
      exact stored.trans (.updateTask fun _ => ⟨rfl, rfl, ⟨rfl, rfl, rfl, rfl⟩, rfl, rfl, rfl⟩)
  | heartbeatSaved node body => exact keepsRequests_saveHeartbeat node body input.now
  | _ => exact .refl db

end Steps

/-! ### Copies -/

/-- The rows that a dispatch call holds differ from the stored ones in nothing that it
sends. -/
def Copied [Runtime] (db : Database) : Process → Prop
  | .dispatchRefreshed task =>
      ∃ row, db.tasks.find? task.id = some row ∧ SameRequest task row
  | .dispatchSelected task worker =>
      (∃ row, db.tasks.find? task.id = some row ∧ SameRequest task row) ∧
        ∃ node, db.workers.find? worker.id = some node ∧ SameNode worker node ∧
          workerSupportsEngine worker task.engine = .ok true
  | _ => True

/-- What a dispatch call is about to send, and where to, is what the stored rows say; the
worker supports the engine of the stored task. -/
def SendsStored [Runtime] (db : Database) (task : LoadTestTask) (worker : WorkerNode) : Prop :=
  ∃ row node, db.tasks.find? task.id = some row ∧ db.workers.find? worker.id = some node ∧
    executeRequest task = executeRequest row ∧ workerUrl worker = workerUrl node ∧
    workerSupportsEngine node row.engine = .ok true

section Copies

variable [Runtime] {db db' : Database} {s t : State}

theorem Copied.keep {p : Process} (h : Copied db p) (keeps : KeepsRequests db db') :
    Copied db' p := by
  have task (task : LoadTestTask)
      (copy : ∃ row, db.tasks.find? task.id = some row ∧ SameRequest task row) :
      ∃ row, db'.tasks.find? task.id = some row ∧ SameRequest task row := by
    obtain ⟨row, stored, same⟩ := copy
    obtain ⟨row', stored', same'⟩ := keeps.tasks _ row stored
    exact ⟨row', stored', same.trans same'⟩
  cases p with
  | dispatchRefreshed copy => exact task copy h
  | dispatchSelected copy worker =>
      obtain ⟨ofTask, node, stored, same, supports⟩ := h
      obtain ⟨node', stored', same'⟩ := keeps.workers _ node stored
      exact ⟨task copy ofTask, node', stored', same.trans same', supports⟩
  | _ => trivial

/-- The process that moved has fresh copies, or those that it had. -/
theorem Copied.move {input : Input} {p q : Process} (h : Copied db p)
    (move : Move db input p q db') : Copied db' q := by
  cases move with
  | @refreshed id task stored pending =>
      obtain ⟨_, rfl⟩ := Table.find?_eq_some_iff.mp stored
      exact ⟨task, stored, .refl task⟩
  | @selected task worker found =>
      obtain ⟨stored, _, supports⟩ := selectAvailableWorker_some found
      exact ⟨h, worker, stored, .refl worker, supports⟩
  | _ => trivial

theorem copied_of_isNew {p : Process} (new : p.isNew = true) : Copied db p := by
  cases p with
  | dispatchRefreshed task => cases new
  | dispatchSelected task worker => cases new
  | _ => trivial

/-- Every process has copies of the stored rows. -/
def AllCopied (s : State) : Prop := ∀ p ∈ s.processes, Copied s.db p

theorem AllCopied.step (h : AllCopied s) {e : Event} (moves : step s e = some t) :
    AllCopied t ∧ KeepsRequests s.db t.db := by
  rcases step_cases moves with ⟨p, rfl, may, rfl⟩ | ⟨index, input, p, q, rfl, a⟩
  · refine ⟨?_, .refl s.db⟩
    intro r mem
    rcases List.mem_append.mp mem with old | new
    · exact h r old
    · rw [List.mem_singleton.mp new]
      exact copied_of_isNew (Bool.and_eq_true_iff.mp may).1
  · have keeps := KeepsRequests.move a.move
    refine ⟨?_, keeps⟩
    intro r mem
    rcases a.mem mem with rfl | old
    · exact (h p a.mem_current).move a.move
    · exact (h r old).keep keeps

/-- What a row asks for is all that its request is made of. -/
theorem executeRequest_congr {task row : LoadTestTask} (same : SameRequest task row) :
    executeRequest task = executeRequest row := by
  unfold executeRequest
  rw [same.id, same.work.engine, same.work.scriptPath, same.work.targetUrl, same.work.parameters]

theorem Copied.sendsStored {task : LoadTestTask} {worker : WorkerNode}
    (h : Copied db (.dispatchSelected task worker)) : SendsStored db task worker := by
  obtain ⟨⟨row, storedRow, sameRow⟩, node, storedNode, sameNode, supports⟩ := h
  refine ⟨row, node, storedRow, storedNode, executeRequest_congr sameRow, ?_, ?_⟩
  · rw [workerUrl, workerUrl, sameNode.ipAddress, sameNode.port]
  · rw [workerSupportsEngine, sameNode.capabilities, sameRow.work.engine]
    exact supports

/-- In every run of interleaved requests, rows keep what they ask for and where they
listen, and whatever a dispatch call is about to send, from however stale copies, is the
request of the stored task, for a stored worker that supports its engine. -/
theorem run_sendsStored {start : State} {es fs : List Event} (quiet : start.Quiet)
    (first : exec step start es = some s) (later : exec step s fs = some t) :
    KeepsRequests s.db t.db ∧ ∀ task worker, .dispatchSelected task worker ∈ t.processes →
      SendsStored t.db task worker := by
  have copied : AllCopied start := by
    intro p mem
    rw [quiet.1] at mem
    exact absurd mem List.not_mem_nil
  have soFar : AllCopied s :=
    (run_iff_exec.mpr first).preserves (fun _ _ _ _ moves h => (h.step moves).1) copied
  have both : AllCopied t ∧ KeepsRequests s.db t.db := by
    refine (run_iff_exec.mpr later).preserves
      (I := fun u => AllCopied u ∧ KeepsRequests s.db u.db) ?_ ⟨soFar, .refl s.db⟩
    rintro u e v _ moves ⟨all, kept⟩
    obtain ⟨next, keeps⟩ := all.step moves
    exact ⟨next, kept.trans keeps⟩
  exact ⟨both.2, fun task worker mem => (both.1 _ mem).sendsStored⟩

end Copies

/-- The status in the copy of the worker that a dispatch call holds. -/
def Process.heldStatus? : Process → Option WorkerStatus
  | .dispatchSelected _ worker => some worker.status
  | _ => none

/-- A dispatch call selects the worker. -/
def selectedOnline : List Event := [.arrive (.dispatch "t"), go 0, go 0]

/-- The worker drains before the delivery. -/
def drainedMeanwhile : List Event :=
  [.arrive (.heartbeat "w" ⟨.draining, none, none⟩), go 1, go 1]

theorem drainedMeanwhile_sendsStored :
    ∃ s t, @exec _ _ (@step asciiRuntime) oneTask selectedOnline = some s ∧
      @exec _ _ (@step asciiRuntime) s drainedMeanwhile = some t ∧
      t.db.workers.rows.map (·.status) = [.draining] ∧
      ∃ task worker, .dispatchSelected task worker ∈ t.processes ∧ worker.status = .online ∧
        @SendsStored asciiRuntime t.db task worker := by
  let _ := asciiRuntime
  have replays : ((exec step oneTask selectedOnline).bind fun s =>
      (exec step s drainedMeanwhile).map fun t =>
        (t.db.workers.rows.map (·.status), t.processes.head?.bind Process.heldStatus?)) =
      some ([.draining], some .online) := by
    decide +kernel
  obtain ⟨s, first, rest⟩ := Option.bind_eq_some_iff.mp replays
  obtain ⟨t, later, ends⟩ := Option.map_eq_some_iff.mp rest
  obtain ⟨stored, held⟩ := Prod.mk.injEq .. ▸ ends
  obtain ⟨p, head, online⟩ := Option.bind_eq_some_iff.mp held
  have mem : p ∈ t.processes := List.mem_of_mem_head? head
  cases p with
  | dispatchSelected task worker =>
      have sends := (run_sendsStored ⟨rfl, rfl⟩ first later).2 task worker mem
      exact ⟨s, t, first, later, stored, task, worker, mem, Option.some.inj online, sends⟩
  | _ => cases online

end PLoadtesting.System
