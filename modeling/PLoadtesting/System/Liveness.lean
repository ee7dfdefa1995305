import PLoadtesting.System.WorkerRegistry
import PLoadtesting.System.Interleaving

/-!
Which workers a task is delivered to. The dispatcher selects by status, and only
the patrol takes the status of a silent worker away, so a worker that fell silent
after the last patrol still gets tasks (`silentWorker_receives`).

`delivered_heardFrom` bounds the silence: the worker was alive at the last
patrol or was heard from since.
-/

namespace PLoadtesting.System

open Keyed Python ControlPlane Transition

/-- The database and the instant of the last patrol. -/
structure Watched where
  db : Database
  patrolledAt : Timestamp

/-- The period of `mark_stale_workers` in the beat schedule. -/
def patrolPeriod : Timestamp := 60_000_000

section Deliveries

variable [Runtime]

def Watched.apply (layer : WorkerLayer) (watched : Watched) (now : Timestamp)
    (operation : WorkerOperation) : Watched where
  db := operation.apply layer watched.db now
  patrolledAt :=
    match operation with
    | .patrol => now
    | _ => watched.patrolledAt

/-- `dispatch_task_once` sends the task to the worker, which takes it. -/
structure DeliversTo (db : Database) (id : TaskId) (delivery : WorkerNode → Delivery)
    (task : LoadTestTask) (worker : WorkerNode) : Prop where
  stored : db.tasks.find? id = some task
  pending : task.status = .pending
  selected : selectAvailableWorker db task = .ok (some worker)
  delivered : delivers task (delivery worker) = true

/-- A dispatch that succeeds has delivered its task to the worker that it
saves. -/
theorem dispatchTaskOnce_deliversTo {db : Database} {id : TaskId}
    {delivery : WorkerNode → Delivery} {now : Timestamp}
    (dispatched : (dispatchTaskOnce db id delivery now).1 = .ok true) :
    ∃ task worker, DeliversTo db id delivery task worker ∧
      (dispatchTaskOnce db id delivery now).2 = db.saveDispatched id worker.id now := by
  have outcome := dispatchTaskOnce_cases db id delivery now
  generalize dispatchTaskOnce db id delivery now = result at outcome dispatched ⊢
  cases outcome with
  | kept notDispatched => exact absurd dispatched notDispatched
  | noted errorMessage stored pending => cases dispatched
  | dispatched stored pending selected answered =>
      exact ⟨_, _, ⟨stored, pending, selected, (dispatchToWorker_ok answered).2⟩, rfl⟩

/-! ### Ticks -/

/-- A scheduler tick is a run of dispatch calls at one instant, which an
exception may cut short. -/
theorem tick_runs (layer : WorkerLayer) (delivery : TaskId → WorkerNode → Delivery)
    (now : Timestamp) (ids : List TaskId) (s : Timed Watched) (later : s.clock ≤ now) :
    ∃ es t, exec (Timed.take (Watched.apply layer)) s es = some t ∧
      t.state.db = (dispatchEach delivery now s.state.db ids).2 := by
  induction ids generalizing s with
  | nil => exact ⟨[], s, rfl, rfl⟩
  | cons id ids ih =>
      let u : Timed Watched :=
        ⟨s.state.apply layer now (.dispatch id (delivery id)), now⟩
      have takes : Timed.take (Watched.apply layer) s (now, .dispatch id (delivery id)) = some u :=
        Timed.take_eq_some_iff.mpr ⟨later, rfl⟩
      have db_eq : u.state.db = (dispatchTaskOnce s.state.db id (delivery id) now).2 := rfl
      unfold dispatchEach
      cases called : dispatchTaskOnce s.state.db id (delivery id) now with
      | mk outcome db =>
          rw [called] at db_eq
          cases outcome with
          | error e =>
              refine ⟨[(now, .dispatch id (delivery id))], u, ?_, db_eq⟩
              rw [exec, takes]
              rfl
          | ok dispatched =>
              obtain ⟨es, t, run, db_eq'⟩ := ih u (Int.le_refl now)
              refine ⟨(now, .dispatch id (delivery id)) :: es, t, ?_, ?_⟩
              · rw [exec, takes]
                exact run
              · rw [db_eq', db_eq]
                dsimp only
                split <;> simp [*]

/-! ### The bound -/

/-- Every worker that is not OFFLINE was heard from less than the timeout before
the last patrol, and the last patrol is past. -/
structure Patrolled (watched : Watched) (clock : Timestamp) : Prop where
  past : watched.patrolledAt ≤ clock
  heard : ∀ worker ∈ watched.db.workers, worker.status ≠ .offline →
    ∃ heartbeat, worker.lastHeartbeatAt = some heartbeat ∧
      watched.patrolledAt - heartbeatTimeout ≤ heartbeat

variable {layer : WorkerLayer}

omit [Runtime] in
/-- A worker that is not stale and not OFFLINE was heard from in time, if at
all. -/
theorem heard_of_not_stale {worker : WorkerNode} {now heartbeat : Timestamp}
    (notOffline : worker.status ≠ .offline) (fresh : worker.isStale now = false)
    (heard : worker.lastHeartbeatAt = some heartbeat) : now - heartbeatTimeout ≤ heartbeat := by
  unfold WorkerNode.isStale at fresh
  simp only [notOffline, heard, ne_eq, not_false_eq_true, decide_true, Bool.true_and,
    decide_eq_false_iff_not] at fresh
  exact Int.not_lt.mp fresh

/-- A step preserves the bound: a patrol leaves only the workers that it finds
alive, and any other step leaves the old heartbeats or new ones. -/
theorem Patrolled.apply {watched : Watched} {clock now : Timestamp} (h : Patrolled watched clock)
    (le : clock ≤ now) (operation : WorkerOperation) :
    Patrolled (watched.apply layer now operation) now := by
  have timeout : now - heartbeatTimeout ≤ now := Int.sub_le_self now (by decide)
  have patrolled : (watched.apply layer now operation).patrolledAt ≤ now ∧
      (operation = .patrol ∨
        (watched.apply layer now operation).patrolledAt = watched.patrolledAt) := by
    cases operation with
    | patrol => exact ⟨Int.le_refl now, .inl rfl⟩
    | _ => exact ⟨h.past.trans le, .inr rfl⟩
  obtain ⟨past, same⟩ := patrolled
  refine ⟨past, ?_⟩
  intro worker mem notOffline
  cases mem_apply operation mem with
  | kept old fresh =>
      obtain ⟨heartbeat, heard, recent⟩ := h.heard worker old notOffline
      refine ⟨heartbeat, heard, ?_⟩
      rcases same with isPatrol | same
      · subst isPatrol
        exact heard_of_not_stale notOffline (fresh rfl) heard
      · rw [same]
        exact recent
  | heard _ _ _ heartbeat =>
      exact ⟨now, heartbeat, (Int.sub_le_sub_right past heartbeatTimeout).trans timeout⟩
  | added _ _ heartbeat =>
      exact ⟨now, heartbeat, (Int.sub_le_sub_right past heartbeatTimeout).trans timeout⟩
  | marked old => exact absurd rfl notOffline

omit [Runtime] in
/-- The silence at an instant, from the silence at the last patrol. -/
theorem silence_le {patrolledAt heartbeat timeout period now : Int}
    (recent : patrolledAt - timeout ≤ heartbeat) : patrolledAt - heartbeat ≤ timeout ∧
      (now ≤ patrolledAt + period → now - heartbeat ≤ timeout + period) := by
  constructor
  · omega
  · intro punctual
    omega

/-- Runs start with an empty registry. -/
def Starts (s : Timed Watched) : Prop :=
  s.state.db.workers = Table.empty ∧ s.state.patrolledAt = s.clock

/-- In every run, a worker that gets a task was heard from at most the timeout
before the last patrol. With a patrol in the last period, its silence is at most
the timeout and the period together. -/
theorem delivered_heardFrom {s t : Timed Watched} {es : List (Timestamp × WorkerOperation)}
    (start : Starts s) (run : exec (Timed.take (Watched.apply layer)) s es = some t)
    {id : TaskId} {delivery : WorkerNode → Delivery} {task : LoadTestTask} {worker : WorkerNode}
    (delivers : DeliversTo t.state.db id delivery task worker) (now : Timestamp) :
    ∃ heartbeat, worker.lastHeartbeatAt = some heartbeat ∧
      t.state.patrolledAt - heartbeat ≤ heartbeatTimeout ∧
      (now ≤ t.state.patrolledAt + patrolPeriod →
        now - heartbeat ≤ heartbeatTimeout + patrolPeriod) := by
  have initially : Patrolled s.state s.clock := by
    refine ⟨le_of_eq start.2, ?_⟩
    intro worker mem
    rw [start.1] at mem
    exact absurd mem Table.not_mem_empty
  have patrolled : Patrolled t.state t.clock :=
    (run_iff_exec.mpr run).invariant (fun _ _ _ operation le h => h.apply le operation) initially
  obtain ⟨stored, idle, _⟩ := selectAvailableWorker_some delivers.selected
  have online : worker.status = .online := by
    unfold WorkerNode.isIdle at idle
    simp only [Bool.and_eq_true, decide_eq_true_eq] at idle
    exact idle.1
  obtain ⟨heartbeat, heard, recent⟩ :=
    patrolled.heard worker (Table.find?_eq_some_iff.mp stored).1 (by simp [online])
  exact ⟨heartbeat, heard, silence_le recent⟩

/-- The next step comes at most a period after the last patrol. -/
def PatrolDue (s : Timed Watched) (e : Timestamp × WorkerOperation) : Prop :=
  e.1 ≤ s.state.patrolledAt + patrolPeriod

/-- With a patrol every period, every worker that gets a task is alive. -/
def OnlyLiveWorkers : Prop :=
  ∀ (layer : WorkerLayer) (s t : Timed Watched) (es : List (Timestamp × WorkerOperation)),
    Starts s → Run (Timed.take (Watched.apply layer)) PatrolDue s es t →
    ∀ (now : Timestamp) (id : TaskId) (delivery : WorkerNode → Delivery) (task : LoadTestTask)
      (worker : WorkerNode), t.clock ≤ now → PatrolDue t (now, .dispatch id delivery) →
      DeliversTo t.state.db id delivery task worker → worker.isAlive now = true

end Deliveries

instance (s : Timed Watched) (e : Timestamp × WorkerOperation) : Decidable (PatrolDue s e) :=
  inferInstanceAs (Decidable (e.1 ≤ s.state.patrolledAt + patrolPeriod))

/-- One pending task and the given workers, last patrolled at 0. -/
def waitingFor (workers : Table WorkerNode.id) : Watched :=
  ⟨{ oneTask.db with workers }, 0⟩

/-- A worker registers a second after the patrol and is not heard from again. -/
def registersOnce : List (Timestamp × WorkerOperation) :=
  [(0, .patrol), (1_000_000, .register workerBody "w")]

/-- The row of that worker. -/
def registeredWorker : WorkerNode :=
  newWorker ⟨"worker-1", "10.0.0.1", none, some (.arr [.str "k6"])⟩ "w" 1_000_000

/-- Forty seconds later it gets the task. -/
theorem silentWorker_receives : ¬ @OnlyLiveWorkers asciiRuntime := by
  let _ := asciiRuntime
  intro onlyLive
  let registered := waitingFor ⟨[registeredWorker], by decide⟩
  have replays : exec (restrict (Timed.take (Watched.apply plainWorkerLayer)) PatrolDue)
      ⟨waitingFor Table.empty, 0⟩ registersOnce = some ⟨registered, 1_000_000⟩ := rfl
  have delivers : DeliversTo registered.db "t" (fun _ => .answered) (pendingTask "t")
      registeredWorker := ⟨rfl, rfl, rfl, rfl⟩
  have alive := onlyLive plainWorkerLayer ⟨waitingFor Table.empty, 0⟩ ⟨registered, 1_000_000⟩
    registersOnce ⟨rfl, rfl⟩ (run_iff_exec_restrict.mpr replays) 41_000_000 "t" _ _ _ (by decide)
    (by decide) delivers
  exact absurd alive (by decide)

/-- The bound for that delivery: the worker's silence counts from its
registration. -/
theorem silentWorker_heardFrom :
    let registered := waitingFor ⟨[registeredWorker], by decide⟩
    ∃ heartbeat, registeredWorker.lastHeartbeatAt = some heartbeat ∧
      registered.patrolledAt - heartbeat ≤ heartbeatTimeout ∧
      (41_000_000 ≤ registered.patrolledAt + patrolPeriod →
        41_000_000 - heartbeat ≤ heartbeatTimeout + patrolPeriod) := by
  let _ := asciiRuntime
  intro registered
  have replays : exec (Timed.take (Watched.apply plainWorkerLayer)) ⟨waitingFor Table.empty, 0⟩
      registersOnce = some ⟨registered, 1_000_000⟩ := rfl
  have delivers : DeliversTo registered.db "t" (fun _ => .answered) (pendingTask "t")
      registeredWorker := ⟨rfl, rfl, rfl, rfl⟩
  exact delivered_heardFrom (s := ⟨waitingFor Table.empty, 0⟩) ⟨rfl, rfl⟩ replays delivers
    41_000_000

end PLoadtesting.System
