import PLoadtesting.ControlPlane.WorkerPatrol
import PLoadtesting.ControlPlane.Dispatch
import PLoadtesting.Lib.Transition

/-!
The worker registry over whole runs: registrations, heartbeats, dispatches and
patrols, each as one step at an instant of a clock that does not go back.

The patrol is exact (`PatrolExact`) because no worker that is not OFFLINE is
without a heartbeat: its comparison drops such a row, and `is_alive` calls it
dead.
-/

namespace PLoadtesting.System

open Keyed Python ControlPlane Transition

/-- What reads or writes the worker registry. The task table may become any
table between two requests. -/
inductive WorkerOperation where
  | register (body : Json) (id : WorkerId)
  | heartbeat (worker : WorkerId) (body : Json)
  | dispatch (id : TaskId) (delivery : WorkerNode → Delivery)
  | patrol
  | tasks (table : Table LoadTestTask.id)

def WorkerOperation.apply [Runtime] (layer : WorkerLayer) (db : Database) (now : Timestamp) :
    WorkerOperation → Database
  | .register body id => (registerWorker layer db body id now).2
  | .heartbeat worker body => (postHeartbeat layer db worker body now).2
  | .dispatch id delivery => (dispatchTaskOnce db id delivery now).2
  | .patrol => (markStaleWorkers db now).2
  | .tasks table => { db with tasks := table }

/-! ### What the registry guarantees -/

/-- A node after a registration under its name. -/
structure Reregistered (registration : Registration) (node node' : WorkerNode) : Prop where
  id : node'.id = node.id
  registeredAt : node'.registeredAt = node.registeredAt
  resourceSnapshot : node'.resourceSnapshot = node.resourceSnapshot
  port : registration.port = none → node'.port = node.port
  capabilities : registration.capabilities = none → node'.capabilities = node.capabilities
  status : node'.status = .online
  activeTaskCount : node'.activeTaskCount = 0

/-- The number of rows with another status in `db'`. -/
def statusChanges (db db' : Database) : Nat :=
  db.workers.rows.countP fun node =>
    decide ((db'.workers.find? node.id).map (·.status) ≠ some node.status)

/-- The patrol marks the dead workers and no others. -/
structure PatrolExact (db : Database) (now : Timestamp) : Prop where
  alive : ∀ node ∈ (markStaleWorkers db now).2.workers,
    node.status ≠ .offline → node.isAlive now = true
  unchanged : ∀ node ∈ db.workers, node.isAlive now = true →
    (markStaleWorkers db now).2.workers.find? node.id = some node
  count : (markStaleWorkers db now).1 = statusChanges db (markStaleWorkers db now).2

/-- What holds of the registry at every instant. -/
structure RegistryRecord (layer : WorkerLayer) (db : Database) : Prop where
  oneRow : ∀ v ∈ db.workers, ∀ w ∈ db.workers, v.name = w.name → v = w
  heard : ∀ node ∈ db.workers, node.status ≠ .offline → node.lastHeartbeatAt ≠ none
  reregisters : ∀ (body : Json) (registration : Registration) (id : WorkerId) (now : Timestamp),
    layer.registration body = .ok registration →
    ∀ node ∈ db.workers, node.name = registration.name →
      ∃ node', (registerWorker layer db body id now).2.workers.find? node.id = some node' ∧
        Reregistered registration node node'
  patrols : ∀ now, PatrolExact db now

/-! ### The invariant -/

/-- A name has one row, and a worker that is not OFFLINE was heard from. -/
structure Registered (db : Database) : Prop where
  oneRow : ∀ v ∈ db.workers, ∀ w ∈ db.workers, v.name = w.name → v = w
  heard : ∀ node ∈ db.workers, node.status ≠ .offline → node.lastHeartbeatAt ≠ none

/-- A row of the registry after an operation: an old one, one that was just
heard from, a new one, or one that the patrol marked. A stale row does not
outlive a patrol. -/
inductive WorkerMove (db : Database) (now : Timestamp) (operation : WorkerOperation) :
    WorkerNode → Prop where
  | kept {node : WorkerNode} (mem : node ∈ db.workers)
      (fresh : operation = .patrol → node.isStale now = false) : WorkerMove db now operation node
  | heard {node old : WorkerNode} (mem : old ∈ db.workers) (sameName : node.name = old.name)
      (sameId : node.id = old.id) (heartbeat : node.lastHeartbeatAt = some now) :
      WorkerMove db now operation node
  | added {node : WorkerNode} {body : Json} (registers : operation = .register body node.id)
      (newName : ∀ old ∈ db.workers, old.name ≠ node.name)
      (heartbeat : node.lastHeartbeatAt = some now) : WorkerMove db now operation node
  | marked {node : WorkerNode} (mem : node ∈ db.workers) :
      WorkerMove db now operation node.markedOffline

section Moves

variable [Runtime] {layer : WorkerLayer} {db : Database} {now : Timestamp}

theorem dispatchTaskOnce_workers (db : Database) (id : TaskId) (delivery : WorkerNode → Delivery)
    (now : Timestamp) : (dispatchTaskOnce db id delivery now).2.workers = db.workers := by
  obtain ⟨f, keeps, eq, _⟩ := dispatchTaskOnce_keepsWork db id delivery now
  rw [eq]
  rfl

theorem mem_apply (operation : WorkerOperation) {node : WorkerNode}
    (mem : node ∈ (operation.apply layer db now).workers) : WorkerMove db now operation node := by
  cases operation with
  | register body id =>
      rcases mem_registerWorker mem with
        old | ⟨registration, read, ⟨existing, stored, _, rfl⟩ | ⟨newName, rfl⟩⟩
      · exact .kept old nofun
      · exact .heard stored rfl rfl rfl
      · exact .added rfl newName rfl
  | heartbeat worker body =>
      have outcome := postHeartbeat_cases layer db worker body now
      dsimp only [WorkerOperation.apply] at mem
      generalize postHeartbeat layer db worker body now = result at outcome mem
      cases outcome with
      | refused response => exact .kept mem nofun
      | saved stored read =>
          rcases mem_saveHeartbeat_cases mem with
            ⟨row, old, sameName, sameId, heartbeat⟩ | old
          · exact .heard old sameName sameId heartbeat
          · exact .kept old nofun
  | dispatch id delivery =>
      dsimp only [WorkerOperation.apply] at mem
      rw [dispatchTaskOnce_workers] at mem
      exact .kept mem nofun
  | patrol =>
      rcases mem_markStaleWorkers.mp mem with ⟨row, stored, _, rfl⟩ | ⟨old, fresh⟩
      · exact .marked stored
      · exact .kept old fun _ => fresh
  | tasks table => exact .kept mem nofun

omit [Runtime] in
/-- A row is one of the old rows by name and id, or a new registration's. -/
theorem WorkerMove.origin {operation : WorkerOperation} {node : WorkerNode}
    (move : WorkerMove db now operation node) :
    (∃ old ∈ db.workers, node.name = old.name ∧ node.id = old.id) ∨
      (∃ body, operation = .register body node.id) ∧ ∀ old ∈ db.workers, old.name ≠ node.name := by
  cases move with
  | kept mem fresh => exact .inl ⟨node, mem, rfl, rfl⟩
  | heard mem sameName sameId heartbeat => exact .inl ⟨_, mem, sameName, sameId⟩
  | added registers newName heartbeat => exact .inr ⟨⟨_, registers⟩, newName⟩
  | marked mem => exact .inl ⟨_, mem, rfl, rfl⟩

/-- A step preserves the invariant. -/
theorem Registered.apply (h : Registered db) (operation : WorkerOperation) :
    Registered (operation.apply layer db now) := by
  constructor
  · intro v vMem w wMem sameName
    refine Table.eq_of_key_eq vMem wMem ?_
    rcases (mem_apply operation vMem).origin with
      ⟨v', vOld, vName, vId⟩ | ⟨⟨body, vNew⟩, vName⟩ <;>
      rcases (mem_apply operation wMem).origin with
        ⟨w', wOld, wName, wId⟩ | ⟨⟨body', wNew⟩, wName⟩
    · have same := h.oneRow v' vOld w' wOld (by rw [← vName, ← wName, sameName])
      rw [vId, wId, same]
    · exact absurd (vName.symm.trans sameName) (wName v' vOld)
    · exact absurd (wName.symm.trans sameName.symm) (vName w' wOld)
    · rw [vNew] at wNew
      injection wNew
  · intro node mem notOffline
    cases mem_apply operation mem with
    | kept old fresh => exact h.heard node old notOffline
    | heard _ _ _ heartbeat => simp [heartbeat]
    | added _ _ heartbeat => simp [heartbeat]
    | marked old => exact absurd rfl notOffline

/-! ### The guarantees -/

omit [Runtime] in
/-- A name is found under its one row. -/
theorem Registered.reregisters (h : Registered db) {body : Json} {registration : Registration}
    (id : WorkerId) (now : Timestamp) (read : layer.registration body = .ok registration)
    {node : WorkerNode} (mem : node ∈ db.workers) (sameName : node.name = registration.name) :
    ∃ node', (registerWorker layer db body id now).2.workers.find? node.id = some node' ∧
      Reregistered registration node node' := by
  have outcome := registerWorker_cases layer db body id now
  generalize registerWorker layer db body id now = result at outcome ⊢
  cases outcome with
  | refused refuses => exact absurd sameName ((refuses registration read).1 node mem)
  | added read' newName fresh =>
      cases read.symm.trans read'
      exact absurd sameName (newName node mem)
  | again read' existingMem existingName =>
      cases read.symm.trans read'
      cases h.oneRow _ existingMem node mem (existingName.trans sameName.symm)
      refine ⟨node.reregister registration now, ?_, ?_⟩
      · simp [WorkerNode.reregister]
      · refine ⟨rfl, rfl, rfl, ?_, ?_, rfl, rfl⟩
        · intro noPort
          simp [WorkerNode.reregister, noPort]
        · intro noCapabilities
          simp [WorkerNode.reregister, noCapabilities]

omit [Runtime] in
/-- The patrol of a registry without silent workers is exact. -/
theorem Registered.patrolExact (h : Registered db) (now : Timestamp) : PatrolExact db now := by
  have stale_iff : ∀ node ∈ db.workers, node.status ≠ .offline →
      (node.isStale now = false ↔ node.isAlive now = true) := by
    intro node mem notOffline
    have marked : node.isStale now = true ↔ node.status ≠ .offline ∧ node.isAlive now = false :=
      isStale_iff (h.heard node mem notOffline)
    cases alive : node.isAlive now with
    | true => simp [isStale_of_isAlive alive]
    | false => simp [marked.mpr ⟨notOffline, alive⟩]
  constructor
  · intro node mem notOffline
    rcases mem_markStaleWorkers.mp mem with ⟨row, _, _, rfl⟩ | ⟨old, fresh⟩
    · exact absurd rfl notOffline
    · exact (stale_iff node old notOffline).mp fresh
  · intro node mem alive
    rw [markStaleWorkers_snd, find?_saveOffline mem]
    simp [isStale_of_isAlive alive]
  · unfold statusChanges
    rw [markStaleWorkers_snd]
    refine List.countP_congr ?_
    intro node mem
    rw [find?_saveOffline mem]
    cases stale : node.isStale now with
    | true =>
        have notOffline : node.status ≠ .offline := by
          unfold WorkerNode.isStale at stale
          simp only [Bool.and_eq_true, decide_eq_true_eq] at stale
          exact stale.1
        simp [WorkerNode.markedOffline, notOffline.symm]
    | false => simp

/-- In every run from an empty registry: one row for a name, a heartbeat of
every worker that is not OFFLINE, registrations that keep the row, and exact
patrols. -/
theorem run_registryRecord {s t : Timed Database} {es : List (Timestamp × WorkerOperation)}
    (noWorkers : s.state.workers = Table.empty)
    (run : exec (Timed.take (WorkerOperation.apply layer)) s es = some t) :
    RegistryRecord layer t.state := by
  have start : Registered s.state := by
    constructor
    · intro v vMem
      rw [noWorkers] at vMem
      exact absurd vMem Table.not_mem_empty
    · intro node mem
      rw [noWorkers] at mem
      exact absurd mem Table.not_mem_empty
  have registered : Registered t.state :=
    (run_iff_exec.mpr run).invariant (I := fun db _ => Registered db)
      (fun _ _ _ operation _ h => h.apply operation) start
  refine ⟨registered.oneRow, registered.heard, ?_, registered.patrolExact⟩
  intro body registration id now read node mem sameName
  exact registered.reregisters id now read mem sameName

end Moves

/-! ### A small registry -/

/-- `{"detail": "invalid"}`. -/
def invalidBody : Exc := .validationError (.obj [("detail", .str "invalid")])

/-- The worker fields for well-formed bodies: text is taken as it is, and a
heartbeat without fields is an online one. -/
def plainWorkerLayer : WorkerLayer where
  registration body :=
    match body.dictOrEmpty.get? "name", body.dictOrEmpty.get? "ip_address" with
    | some (.str name), some (.str ipAddress) =>
        let port := match body.dictOrEmpty.get? "port" with
          | some (.int (.ofNat port)) => some port
          | _ => none
        .ok ⟨name, ipAddress, port, body.dictOrEmpty.get? "capabilities"⟩
    | _, _ => .error invalidBody
  heartbeat body :=
    if body.dictOrEmpty.rows.isEmpty then .ok ⟨.online, none, none⟩ else .error invalidBody

/-- The registration of a k6 worker. -/
def workerBody : Json :=
  .obj [("name", .str "worker-1"), ("ip_address", .str "10.0.0.1"),
    ("capabilities", .arr [.str "k6"])]

/-- A registration, a silence that the patrol notices, and a heartbeat. -/
def silentMinute : List (Timestamp × WorkerOperation) :=
  [(0, .register workerBody "w"), (60_000_000, .patrol), (61_000_000, .heartbeat "w" (.obj []))]

theorem silentMinute_registryRecord :
    let apply := @WorkerOperation.apply asciiRuntime plainWorkerLayer
    ∃ t, exec (Timed.take apply) ⟨⟨Table.empty, Table.empty, Table.empty⟩, 0⟩ silentMinute =
        some t ∧
      t.state.workers.rows.map (·.status) = [.online] ∧
      RegistryRecord plainWorkerLayer t.state := by
  let _ := asciiRuntime
  intro apply
  have replays : (exec (Timed.take apply) ⟨⟨Table.empty, Table.empty, Table.empty⟩, 0⟩
      silentMinute).map (fun t => t.state.workers.rows.map (·.status)) = some [.online] := by
    decide +kernel
  obtain ⟨t, run, ends⟩ := Option.map_eq_some_iff.mp replays
  exact ⟨t, run, ends, run_registryRecord rfl run⟩

end PLoadtesting.System
