import PLoadtesting.ControlPlane.WorkerViews

/-!
The patrol over the registered workers (`apps/workers/tasks.py`), and the test
of a heartbeat's age that the API reports (`WorkerNode.is_alive`).

The patrol compares in the database, where a null heartbeat meets no bound, and
`is_alive` compares in Python, where it is dead. On a worker with a heartbeat
they are each other's negation (`isStale_iff`).
-/

namespace PLoadtesting.ControlPlane

open Keyed Python

/-- `timedelta(seconds=30)`. -/
def heartbeatTimeout : Timestamp := 30_000_000

/-- `WorkerNode.is_alive`. -/
def WorkerNode.isAlive (worker : WorkerNode) (now : Timestamp) : Bool :=
  match worker.lastHeartbeatAt with
  | none => false
  | some heartbeat => decide (now - heartbeatTimeout ≤ heartbeat)

/-- `last_heartbeat_at__lt=timeout_threshold` on a worker that is not OFFLINE. -/
def WorkerNode.isStale (worker : WorkerNode) (now : Timestamp) : Bool :=
  decide (worker.status ≠ .offline) &&
    match worker.lastHeartbeatAt with
    | none => false
    | some heartbeat => decide (heartbeat < now - heartbeatTimeout)

/-- A worker marked OFFLINE. -/
def WorkerNode.markedOffline (worker : WorkerNode) : WorkerNode :=
  { worker with status := .offline }

theorem markedOffline_id (worker : WorkerNode) : worker.markedOffline.id = worker.id := rfl

/-- `.update(status=OFFLINE)`, which leaves `updated_at` alone. -/
def Database.saveOffline (db : Database) (stale : WorkerNode → Bool) : Database :=
  { db with workers := db.workers.updateWhere stale WorkerNode.markedOffline markedOffline_id }

/-- `mark_stale_workers`. -/
def markStaleWorkers (db : Database) (now : Timestamp) : Nat × Database :=
  let count := db.workers.rows.countP fun worker => worker.isStale now
  (count, if 0 < count then db.saveOffline fun worker => worker.isStale now else db)

/-! ### What the patrol does -/

theorem mem_saveOffline {db : Database} {stale : WorkerNode → Bool} {node : WorkerNode} :
    node ∈ (db.saveOffline stale).workers ↔
      (∃ row ∈ db.workers, stale row = true ∧ node = row.markedOffline) ∨
        (node ∈ db.workers ∧ stale node = false) :=
  @Table.mem_updateWhere _ _ _ _ _ _ markedOffline_id _

theorem find?_saveOffline {db : Database} {stale : WorkerNode → Bool} {node : WorkerNode}
    (mem : node ∈ db.workers) : (db.saveOffline stale).workers.find? node.id =
      some (if stale node then node.markedOffline else node) :=
  @Table.find?_updateWhere _ _ _ _ _ _ _ markedOffline_id _ mem

/-- The patrol writes when there is nothing to write as well: the rows are the
same. -/
theorem markStaleWorkers_snd (db : Database) (now : Timestamp) :
    (markStaleWorkers db now).2 = db.saveOffline fun worker => worker.isStale now := by
  unfold markStaleWorkers
  dsimp only
  split
  · rfl
  · rename_i none
    have noStale : ∀ worker ∈ db.workers, worker.isStale now = false := by
      intro worker mem
      have notStale := List.countP_eq_zero.mp (Nat.eq_zero_of_not_pos none) worker mem
      simpa using notStale
    rw [Database.saveOffline, Table.updateWhere_eq_self noStale]

/-- A node after a patrol was marked OFFLINE, or is an old one that is not
stale. -/
theorem mem_markStaleWorkers {db : Database} {now : Timestamp} {node : WorkerNode} :
    node ∈ (markStaleWorkers db now).2.workers ↔
      (∃ row ∈ db.workers, row.isStale now = true ∧ node = row.markedOffline) ∨
        (node ∈ db.workers ∧ node.isStale now = false) := by
  rw [markStaleWorkers_snd]
  exact mem_saveOffline

/-- With a heartbeat, stale is not OFFLINE and not alive. -/
theorem isStale_iff {worker : WorkerNode} {now : Timestamp}
    (heard : worker.lastHeartbeatAt ≠ none) :
    worker.isStale now = true ↔ worker.status ≠ .offline ∧ worker.isAlive now = false := by
  unfold WorkerNode.isStale WorkerNode.isAlive
  cases heartbeat : worker.lastHeartbeatAt with
  | none => exact absurd heartbeat heard
  | some at_ =>
      simp only [Bool.and_eq_true, decide_eq_true_eq, decide_eq_false_iff_not, Int.not_le]

/-- A living worker is not stale. -/
theorem isStale_of_isAlive {worker : WorkerNode} {now : Timestamp}
    (alive : worker.isAlive now = true) : worker.isStale now = false := by
  unfold WorkerNode.isAlive at alive
  unfold WorkerNode.isStale
  cases heartbeat : worker.lastHeartbeatAt with
  | none => simp
  | some at_ =>
      rw [heartbeat] at alive
      have recent : now - heartbeatTimeout ≤ at_ := of_decide_eq_true alive
      simp only [Bool.and_eq_false_iff, decide_eq_false_iff_not]
      exact .inr (Int.not_lt.mpr recent)

end PLoadtesting.ControlPlane
