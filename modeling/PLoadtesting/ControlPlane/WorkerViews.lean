import PLoadtesting.ControlPlane.Models
import PLoadtesting.ControlPlane.Permissions

/-!
The worker endpoints (`apps/workers/views.py`): registration, which creates a
node or brings an existing one of the same name back online, and the heartbeat.

The field conversion of the two serializers is the parameter `WorkerLayer`. A
heartbeat loads the node and saves four columns of the copy, so two overlapping
heartbeats can overwrite each other; the parts are separate for that reason.
Saves that the database refuses, of a name that is too long for its column or of a
resource snapshot with a number that is not finite, are left out.
-/

namespace PLoadtesting.ControlPlane

open Keyed Python

/-- The validated body of a registration; `port` and `capabilities` are
optional. -/
structure Registration where
  name : String
  ipAddress : String
  port : Option Nat
  capabilities : Option Json

/-- The validated body of a heartbeat. -/
structure Heartbeat where
  status : WorkerStatus
  activeTaskCount : Option Nat
  resourceSnapshot : Option Json

/-- `WorkerRegistrationSerializer` and `HeartbeatSerializer`. -/
structure WorkerLayer where
  registration : Json → Except Exc Registration
  heartbeat : Json → Except Exc Heartbeat

/-- The existing node after a registration under its name. -/
def WorkerNode.reregister (node : WorkerNode) (registration : Registration) (now : Timestamp) :
    WorkerNode :=
  { node with
    ipAddress := registration.ipAddress
    port := registration.port.getD node.port
    capabilities := registration.capabilities.getD node.capabilities
    status := .online
    lastHeartbeatAt := some now
    activeTaskCount := 0
    updatedAt := now }

/-- The node of a first registration. -/
def newWorker (registration : Registration) (id : WorkerId) (now : Timestamp) : WorkerNode where
  id
  name := registration.name
  ipAddress := registration.ipAddress
  port := registration.port.getD 8100
  status := .online
  capabilities := registration.capabilities.getD (.arr [])
  lastHeartbeatAt := some now
  resourceSnapshot := .obj []
  activeTaskCount := 0
  registeredAt := now
  updatedAt := now

/-- The answers of the worker endpoints. -/
inductive WorkerResponse where
  | ok (worker : WorkerId)
  | created (worker : WorkerId)
  | notFound
  | badRequest (e : Exc)
  | forbidden
  | serverError (e : Exc)

/-- `WorkerListCreateView.create`. `existing.save()` writes every column. -/
def registerWorker (layer : WorkerLayer) (db : Database) (body : Json) (id : WorkerId)
    (now : Timestamp) : WorkerResponse × Database :=
  match layer.registration body with
  | .error (.validationError detail) => (.badRequest (.validationError detail), db)
  | .error e => (.serverError e, db)
  | .ok registration =>
      match db.workers.rows.find? fun node => decide (node.name = registration.name) with
      | some existing =>
          (.ok existing.id,
            { db with workers := db.workers.upsert (existing.reregister registration now) })
      | none =>
          match db.workers.insert? (newWorker registration id now) with
          | some workers => (.created id, { db with workers })
          | none => (.serverError
              (.integrityError "UNIQUE constraint failed: workers_workernode.id"), db)

/-- The heartbeat's save: four columns, two of them from the loaded copy unless
the body gives them. -/
def Database.saveHeartbeat (db : Database) (worker : WorkerNode) (heartbeat : Heartbeat)
    (now : Timestamp) : Database :=
  { db with
    workers := db.workers.modify worker.id
      (fun row => { row with
        lastHeartbeatAt := some now
        status := heartbeat.status
        activeTaskCount := heartbeat.activeTaskCount.getD worker.activeTaskCount
        resourceSnapshot := heartbeat.resourceSnapshot.getD worker.resourceSnapshot
        updatedAt := now })
      fun _ => rfl }

/-- A node after a heartbeat's save is one that was just heard from or another
one. -/
theorem mem_saveHeartbeat_cases {db : Database} {worker node : WorkerNode} {heartbeat : Heartbeat}
    {now : Timestamp} (mem : node ∈ (db.saveHeartbeat worker heartbeat now).workers) :
    (∃ row ∈ db.workers, node.name = row.name ∧ node.id = row.id ∧
        node.lastHeartbeatAt = some now) ∨ node ∈ db.workers := by
  obtain ⟨row, stored, same⟩ := List.mem_map.mp mem
  split at same
  · subst same
    exact .inl ⟨row, stored, rfl, rfl, rfl⟩
  · exact .inr (same ▸ stored)

/-- `WorkerHeartbeatView.post`. -/
def postHeartbeat (layer : WorkerLayer) (db : Database) (worker : WorkerId) (body : Json)
    (now : Timestamp) : WorkerResponse × Database :=
  match db.workers.find? worker with
  | none => (.notFound, db)
  | some node =>
      match layer.heartbeat body with
      | .error (.validationError detail) => (.badRequest (.validationError detail), db)
      | .error e => (.serverError e, db)
      | .ok heartbeat => (.ok node.id, db.saveHeartbeat node heartbeat now)

/-! ### The outcomes -/

/-- The outcomes of a registration. -/
inductive RegisterCase (layer : WorkerLayer) (db : Database) (body : Json) (id : WorkerId)
    (now : Timestamp) : WorkerResponse × Database → Prop where
  | refused {response : WorkerResponse}
      (refuses : ∀ registration, layer.registration body = .ok registration →
        (∀ node ∈ db.workers, node.name ≠ registration.name) ∧ db.workers.find? id ≠ none) :
      RegisterCase layer db body id now (response, db)
  | again {registration : Registration} {existing : WorkerNode}
      (read : layer.registration body = .ok registration) (mem : existing ∈ db.workers)
      (sameName : existing.name = registration.name) :
      RegisterCase layer db body id now
        (.ok existing.id,
          { db with workers := db.workers.upsert (existing.reregister registration now) })
  | added {registration : Registration} (read : layer.registration body = .ok registration)
      (newName : ∀ node ∈ db.workers, node.name ≠ registration.name)
      (fresh : db.workers.find? id = none) :
      RegisterCase layer db body id now
        (.created id, { db with workers := db.workers.upsert (newWorker registration id now) })

theorem registerWorker_cases (layer : WorkerLayer) (db : Database) (body : Json) (id : WorkerId)
    (now : Timestamp) :
    RegisterCase layer db body id now (registerWorker layer db body id now) := by
  unfold registerWorker
  cases read : layer.registration body with
  | error e =>
      have refuses : ∀ registration, layer.registration body = .ok registration →
          (∀ node ∈ db.workers, node.name ≠ registration.name) ∧ db.workers.find? id ≠ none := by
        intro registration read'
        cases read.symm.trans read'
      cases e with
      | _ => exact .refused refuses
  | ok registration =>
      dsimp only
      cases found : db.workers.rows.find? fun node => decide (node.name = registration.name) with
      | some existing =>
          have sameName : existing.name = registration.name := by
            simpa using List.find?_some found
          exact .again read (List.mem_of_find?_eq_some found) sameName
      | none =>
          have newName : ∀ node ∈ db.workers, node.name ≠ registration.name := by
            intro node mem
            simpa using List.find?_eq_none.mp found node mem
          dsimp only
          cases inserted : db.workers.insert? (newWorker registration id now) with
          | some workers =>
              obtain ⟨fresh, rfl⟩ := Table.insert?_eq_some_iff.mp inserted
              exact .added read newName fresh
          | none =>
              refine .refused ?_
              intro registration' read'
              cases read.symm.trans read'
              refine ⟨newName, ?_⟩
              intro fresh
              have inserts := Table.insert?_eq_some_iff.mpr
                (show db.workers.find? (newWorker registration id now).id = none ∧ _ from
                  ⟨fresh, rfl⟩)
              rw [inserted] at inserts
              cases inserts

/-- A node after a registration is an old one, or the one that registered. -/
theorem mem_registerWorker {layer : WorkerLayer} {db : Database} {body : Json} {id : WorkerId}
    {now : Timestamp} {node : WorkerNode}
    (mem : node ∈ (registerWorker layer db body id now).2.workers) :
    node ∈ db.workers ∨ ∃ registration, layer.registration body = .ok registration ∧
      ((∃ existing ∈ db.workers, existing.name = registration.name ∧
          node = existing.reregister registration now) ∨
        ((∀ old ∈ db.workers, old.name ≠ registration.name) ∧
          node = newWorker registration id now)) := by
  have outcome := registerWorker_cases layer db body id now
  generalize registerWorker layer db body id now = result at outcome mem
  cases outcome with
  | refused refuses => exact .inl mem
  | again read existing sameName =>
      rcases Table.mem_upsert.mp mem with rfl | ⟨old, _⟩
      · exact .inr ⟨_, read, .inl ⟨_, existing, sameName, rfl⟩⟩
      · exact .inl old
  | added read newName fresh =>
      rcases Table.mem_upsert.mp mem with rfl | ⟨old, _⟩
      · exact .inr ⟨_, read, .inr ⟨newName, rfl⟩⟩
      · exact .inl old

/-- The outcomes of a heartbeat. -/
inductive HeartbeatCase (layer : WorkerLayer) (db : Database) (worker : WorkerId) (body : Json)
    (now : Timestamp) : WorkerResponse × Database → Prop where
  | refused (response : WorkerResponse) : HeartbeatCase layer db worker body now (response, db)
  | saved {node : WorkerNode} {heartbeat : Heartbeat} (mem : node ∈ db.workers)
      (read : layer.heartbeat body = .ok heartbeat) :
      HeartbeatCase layer db worker body now (.ok node.id, db.saveHeartbeat node heartbeat now)

theorem postHeartbeat_cases (layer : WorkerLayer) (db : Database) (worker : WorkerId)
    (body : Json) (now : Timestamp) :
    HeartbeatCase layer db worker body now (postHeartbeat layer db worker body now) := by
  unfold postHeartbeat
  cases stored : db.workers.find? worker with
  | none => exact .refused _
  | some node =>
      dsimp only
      cases read : layer.heartbeat body with
      | error e =>
          cases e with
          | _ => exact .refused _
      | ok heartbeat => exact .saved (Table.find?_eq_some_iff.mp stored).1 read

/-! ### The endpoints -/

/-- Registration behind the default permission of the API. -/
def registrationEndpoint (settings : Settings) (headers : Headers) (layer : WorkerLayer)
    (db : Database) (body : Json) (id : WorkerId) (now : Timestamp) : WorkerResponse × Database :=
  if hasSharedApiToken settings headers then registerWorker layer db body id now
  else (.forbidden, db)

/-- The heartbeat behind the default permission of the API. -/
def heartbeatEndpoint (settings : Settings) (headers : Headers) (layer : WorkerLayer)
    (db : Database) (worker : WorkerId) (body : Json) (now : Timestamp) :
    WorkerResponse × Database :=
  if hasSharedApiToken settings headers then postHeartbeat layer db worker body now
  else (.forbidden, db)

end PLoadtesting.ControlPlane
