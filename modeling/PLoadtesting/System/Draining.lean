import PLoadtesting.System.Interleaving
import PLoadtesting.System.WorkerRegistry
import PLoadtesting.Worker.BusyCounter

/-!
Draining a worker: an operator sets the status of a node to DRAINING at the
admin site, and the agent on it keeps sending heartbeats.

A heartbeat writes the status that the agent reports, and an agent reports
`busy` or `online`. DRAINING is therefore lost at the next heartbeat; what keeps
the worker from new tasks afterwards is only that it is not ONLINE, which holds
for as long as no heartbeat counts 0 active tasks (`run_keepsDrained`). The
first one that does puts the worker back among the idle ones
(`idleHeartbeat_mem_idleWorkers`).
-/

namespace PLoadtesting.System

open Keyed Python ControlPlane Transition

/-! ### The operator -/

/-- What reads or writes the worker registry, the operator included. An operator
may leave any table of workers behind. -/
inductive RegistryStep where
  | operator (table : Table WorkerNode.id)
  | service (operation : WorkerOperation)

def RegistryStep.apply [Runtime] (layer : WorkerLayer) (db : Database) (now : Timestamp) :
    RegistryStep → Database
  | .operator table => { db with workers := table }
  | .service operation => operation.apply layer db now

/-- The registry lists the worker as DRAINING. -/
def IsDraining (db : Database) (worker : WorkerId) : Prop :=
  ∃ node ∈ db.workers, node.id = worker ∧ node.status = .draining

/-- `_select_available_worker` picks the worker for the task. -/
def Selects (db : Database) (task : LoadTestTask) (worker : WorkerId) : Prop :=
  ∃ node, selectAvailableWorker db task = .ok (some node) ∧ node.id = worker

/-- The registration writes the row of the worker. -/
def RegistersAgain (layer : WorkerLayer) (db : Database) (worker : WorkerId) (body : Json)
    (id : WorkerId) : Prop :=
  id = worker ∨ ∃ registration, layer.registration body = .ok registration ∧
    ∃ node ∈ db.workers, node.id = worker ∧ node.name = registration.name

/-- Neither an operator nor a registration sets the status of the worker, and
its heartbeats are those of its agent, with any count of active tasks. -/
def Undisturbed (layer : WorkerLayer) (worker : WorkerId) (db : Database) : RegistryStep → Prop
  | .operator table => ∀ row ∈ table, row.id = worker →
      ∃ old ∈ db.workers, old.id = worker ∧ old.status = row.status
  | .service (.register body id) => ¬ RegistersAgain layer db worker body id
  | .service (.heartbeat id body) => id = worker →
      ∃ count usage, body = Worker.heartbeatPayload count usage
  | .service _ => True

/-- A heartbeat of the worker that counts 0 active tasks. -/
def ReportsIdle (worker : WorkerId) : RegistryStep → Prop
  | .service (.heartbeat id body) => id = worker ∧ ∃ usage, body = Worker.heartbeatPayload 0 usage
  | _ => False

/-- The worker is left to its agent, which has a task to count. -/
def LeftBusy (layer : WorkerLayer) (worker : WorkerId) (s : Timed Database)
    (e : Timestamp × RegistryStep) : Prop :=
  Undisturbed layer worker s.state e.2 ∧ ¬ ReportsIdle worker e.2

/-- `HeartbeatSerializer` on what an agent posts: `ChoiceField` reads the status
as it is spelled, and `IntegerField(min_value=0)` reads the count or refuses
it. -/
structure ReadsAgent (layer : WorkerLayer) : Prop where
  status : ∀ count usage heartbeat,
    layer.heartbeat (Worker.heartbeatPayload count usage) = .ok heartbeat →
      heartbeat.status = if count > 0 then .busy else .online
  activeTaskCount : ∀ count usage heartbeat,
    layer.heartbeat (Worker.heartbeatPayload count usage) = .ok heartbeat →
      ∃ n : Nat, heartbeat.activeTaskCount = some n ∧ (n : Int) = count

/-! ### One heartbeat -/

section Heartbeats

variable {layer : WorkerLayer} {db : Database} {worker : WorkerId} {body : Json} {now : Timestamp}

/-- A row after a heartbeat is an old one or the reporting worker's, with the
status that it reports. -/
theorem mem_postHeartbeat {row : WorkerNode}
    (mem : row ∈ (postHeartbeat layer db worker body now).2.workers) :
    row ∈ db.workers ∨
      (row.id = worker ∧ ∃ heartbeat, layer.heartbeat body = .ok heartbeat ∧
        row.status = heartbeat.status) := by
  unfold postHeartbeat at mem
  cases stored : db.workers.find? worker with
  | none =>
      rw [stored] at mem
      exact .inl mem
  | some node =>
      rw [stored] at mem
      dsimp only at mem
      cases read : layer.heartbeat body with
      | error e =>
          rw [read] at mem
          cases e with
          | _ => exact .inl mem
      | ok heartbeat =>
          rw [read] at mem
          obtain ⟨_, rfl⟩ := Table.find?_eq_some_iff.mp stored
          obtain ⟨old, oldMem, same⟩ := List.mem_map.mp mem
          split at same
          · rename_i sameId
            subst same
            exact .inr ⟨sameId, heartbeat, rfl, rfl⟩
          · exact .inl (same ▸ oldMem)

/-- A heartbeat that counts 0 active tasks makes the worker an idle one,
whatever its status was. -/
theorem idleHeartbeat_mem_idleWorkers (reads : ReadsAgent layer) {node : WorkerNode}
    (mem : node ∈ db.workers) {usage : Worker.ResourceUsage} {heartbeat : Heartbeat}
    (read : layer.heartbeat (Worker.heartbeatPayload 0 usage) = .ok heartbeat) :
    ∃ row ∈ idleWorkers
        (postHeartbeat layer db node.id (Worker.heartbeatPayload 0 usage) now).2,
      row.id = node.id := by
  have online : heartbeat.status = .online := reads.status 0 usage heartbeat read
  obtain ⟨n, counted, zero⟩ := reads.activeTaskCount 0 usage heartbeat read
  obtain rfl : n = 0 := Int.ofNat_eq_zero.mp zero
  have saved : (postHeartbeat layer db node.id (Worker.heartbeatPayload 0 usage) now).2 =
      db.saveHeartbeat node heartbeat now := by
    unfold postHeartbeat
    rw [Table.find?_key mem, read]
  rw [saved]
  refine ⟨_, mem_idleWorkers.mpr ⟨List.mem_map.mpr ⟨node, mem, if_pos rfl⟩, ?_⟩, rfl⟩
  simp [WorkerNode.isIdle, online, counted]

end Heartbeats

/-! ### Runs -/

/-- No row of the worker is ONLINE. -/
def NotOnline (worker : WorkerId) (db : Database) : Prop :=
  ∀ row ∈ db.workers, row.id = worker → row.status ≠ .online

theorem NotOnline.not_selects {worker : WorkerId} {db : Database} (h : NotOnline worker db)
    (task : LoadTestTask) : ¬ Selects db task worker := by
  rintro ⟨node, selected, rfl⟩
  obtain ⟨stored, idle, _⟩ := selectAvailableWorker_some selected
  have online : node.status = .online := by
    unfold WorkerNode.isIdle at idle
    simp only [Bool.and_eq_true, decide_eq_true_eq] at idle
    exact idle.1
  exact h node (Table.find?_eq_some_iff.mp stored).1 rfl online

theorem IsDraining.notOnline {worker : WorkerId} {db : Database} (h : IsDraining db worker) :
    NotOnline worker db := by
  obtain ⟨node, mem, rfl, draining⟩ := h
  intro row rowMem sameId
  rw [Table.eq_of_key_eq rowMem mem sameId, draining]
  exact WorkerStatus.noConfusion

section Runs

variable [Runtime] {layer : WorkerLayer} {worker : WorkerId}

/-- One step keeps the worker from ONLINE: only a heartbeat that counts 0 active
tasks would set it. -/
theorem NotOnline.apply (reads : ReadsAgent layer) {db : Database} (h : NotOnline worker db)
    (now : Timestamp) {step : RegistryStep} (undisturbed : Undisturbed layer worker db step)
    (notIdle : ¬ ReportsIdle worker step) : NotOnline worker (step.apply layer db now) := by
  intro row mem sameId
  cases step with
  | operator table =>
      obtain ⟨old, oldMem, oldId, sameStatus⟩ := undisturbed row mem sameId
      rw [← sameStatus]
      exact h old oldMem oldId
  | service operation =>
      cases operation with
      | register body id =>
          rcases mem_registerWorker mem with
            old | ⟨registration, read, ⟨existing, stored, sameName, rfl⟩ | ⟨_, rfl⟩⟩
          · exact h row old sameId
          · exact absurd (.inr ⟨registration, read, existing, stored, sameId, sameName⟩)
              undisturbed
          · exact absurd (.inl sameId) undisturbed
      | heartbeat id body =>
          rcases mem_postHeartbeat mem with old | ⟨reporter, heartbeat, read, status⟩
          · exact h row old sameId
          · have isWorker : id = worker := reporter.symm.trans sameId
            obtain ⟨count, usage, rfl⟩ := undisturbed isWorker
            obtain ⟨n, _, counted⟩ := reads.activeTaskCount count usage heartbeat read
            have busy : count > 0 := by
              rcases Nat.eq_zero_or_pos n with rfl | positive
              · exact absurd ⟨isWorker, usage, by rw [← counted]; rfl⟩ notIdle
              · omega
            rw [status, reads.status count usage heartbeat read, if_pos busy]
            exact WorkerStatus.noConfusion
      | dispatch id delivery =>
          dsimp only [RegistryStep.apply, WorkerOperation.apply] at mem
          rw [dispatchTaskOnce_workers] at mem
          exact h row mem sameId
      | patrol =>
          rcases mem_markStaleWorkers.mp mem with ⟨old, _, _, rfl⟩ | ⟨old, _⟩
          · exact WorkerStatus.noConfusion
          · exact h row old sameId
      | tasks table => exact h row mem sameId

/-- In every run from a state where the worker is DRAINING, with the worker left
to its agent, no later state selects it for a task if no heartbeat of it counts 0
active tasks. -/
theorem run_keepsDrained (reads : ReadsAgent layer) {s t : Timed Database}
    {es : List (Timestamp × RegistryStep)} (draining : IsDraining s.state worker)
    (run : Run (Timed.take (RegistryStep.apply layer)) (LeftBusy layer worker) s es t)
    (task : LoadTestTask) : ¬ Selects t.state task worker := by
  have notOnline : NotOnline worker t.state := by
    refine run.preserves (I := fun u => NotOnline worker u.state) ?_ draining.notOnline
    rintro u e v ⟨undisturbed, notIdle⟩ moves inv
    obtain ⟨_, rfl⟩ := Timed.take_eq_some_iff.mp moves
    exact inv.apply reads e.1 undisturbed notIdle
  exact notOnline.not_selects task

end Runs

/-! ### A drained worker -/

/-- The status that a body spells, ONLINE by default. -/
def plainStatus : Option Json → Option WorkerStatus
  | none => some .online
  | some (.str "online") => some .online
  | some (.str "busy") => some .busy
  | some (.str "offline") => some .offline
  | some (.str "draining") => some .draining
  | _ => none

/-- The heartbeat fields of bodies whose count is an integer. -/
def plainHeartbeat (body : Json) : Except Exc Heartbeat :=
  match plainStatus (body.dictOrEmpty.get? "status"),
      body.dictOrEmpty.get? "active_task_count", body.dictOrEmpty.get? "resource_snapshot" with
  | some status, none, snapshot => .ok ⟨status, none, snapshot⟩
  | some status, some (.int (.ofNat count)), snapshot => .ok ⟨status, some count, snapshot⟩
  | _, _, _ => .error invalidBody

def heartbeatLayer : WorkerLayer where
  registration := plainWorkerLayer.registration
  heartbeat := plainHeartbeat

theorem heartbeatLayer_readsAgent : ReadsAgent heartbeatLayer := by
  have read (count : Int) (usage : Worker.ResourceUsage) (heartbeat : Heartbeat)
      (h : plainHeartbeat (Worker.heartbeatPayload count usage) = .ok heartbeat) :
      heartbeat.status = (if count > 0 then .busy else .online) ∧
        ∃ n : Nat, heartbeat.activeTaskCount = some n ∧ (n : Int) = count := by
    have status : (Worker.heartbeatPayload count usage).dictOrEmpty.get? "status" =
        some (.str (if count > 0 then "busy" else "online")) := rfl
    have counted : (Worker.heartbeatPayload count usage).dictOrEmpty.get? "active_task_count" =
        some (.int count) := rfl
    unfold plainHeartbeat at h
    rw [status, counted] at h
    cases count with
    | ofNat n =>
        cases n with
        | zero =>
            cases h
            exact ⟨rfl, 0, rfl, rfl⟩
        | succ n =>
            have positive : Int.ofNat (n + 1) > 0 := Int.natCast_pos.mpr n.succ_pos
            rw [if_pos positive] at h
            cases h
            exact ⟨(if_pos positive).symm, n + 1, rfl, rfl⟩
    | negSucc n =>
        rw [if_neg (Int.not_lt.mpr (Int.negSucc_lt_zero n).le)] at h
        cases h
  exact ⟨fun count usage heartbeat h => (read count usage heartbeat h).1,
    fun count usage heartbeat h => (read count usage heartbeat h).2⟩

/-- The k6 worker after an operator drained it. -/
def drainedWorker : WorkerNode := { idleWorker with status := .draining }

/-- The registry with the drained worker. -/
def drainedRegistry : Timed Database :=
  ⟨⟨Table.empty, Table.empty.upsert drainedWorker, Table.empty⟩, 0⟩

theorem drainedRegistry_draining : IsDraining drainedRegistry.state "w" :=
  ⟨drainedWorker, Table.mem_upsert.mpr (.inl rfl), rfl, rfl⟩

/-- What a heartbeat measures on a quiet host. -/
def quietUsage : Worker.ResourceUsage := ⟨.finite 0, .finite 0, .finite 0⟩

/-- A heartbeat of the drained worker that counts active tasks. -/
def agentBeat (activeTaskCount : Int) : RegistryStep :=
  .service (.heartbeat "w" (Worker.heartbeatPayload activeTaskCount quietUsage))

theorem agentBeat_undisturbed (activeTaskCount : Int) (db : Database) :
    Undisturbed heartbeatLayer "w" db (agentBeat activeTaskCount) :=
  fun _ => ⟨activeTaskCount, quietUsage, rfl⟩

theorem not_reportsIdle_agentBeat {activeTaskCount : Int} (counts : activeTaskCount ≠ 0) :
    ¬ ReportsIdle "w" (agentBeat activeTaskCount) := by
  rintro ⟨_, usage, same⟩
  simp only [Worker.heartbeatPayload, Json.obj.injEq, List.cons.injEq, Prod.mk.injEq,
    Json.int.injEq] at same
  exact counts same.2.1.2

/-- Heartbeats of a drained worker that still runs a task, and a patrol between
them. -/
def busyBeats : List (Timestamp × RegistryStep) :=
  [(0, agentBeat 1), (10_000_000, .service .patrol), (10_000_000, agentBeat 2)]

theorem busyBeats_notSelected :
    let apply := @RegistryStep.apply asciiRuntime heartbeatLayer
    ∃ t, Run (Timed.take apply) (LeftBusy heartbeatLayer "w") drainedRegistry busyBeats t ∧
      t.state.workers.rows.map (·.status) = [.busy] ∧
      ∀ task, ¬ Selects t.state task "w" := by
  let _ := asciiRuntime
  intro apply
  have beat {count : Int} (counts : count ≠ 0) (u : Timed Database) (now : Timestamp) :
      LeftBusy heartbeatLayer "w" u (now, agentBeat count) :=
    ⟨agentBeat_undisturbed count u.state, not_reportsIdle_agentBeat counts⟩
  have run : Run (Timed.take apply) (LeftBusy heartbeatLayer "w") drainedRegistry busyBeats _ :=
    .next (beat (by decide) _ _) rfl (.next ⟨trivial, id⟩ rfl
      (.next (beat (by decide) _ _) rfl (.done _)))
  exact ⟨_, run, by decide +kernel,
    run_keepsDrained heartbeatLayer_readsAgent drainedRegistry_draining run⟩

/-- One heartbeat of the drained worker without tasks, and it is selected. -/
theorem idleBeat_selected :
    let apply := @RegistryStep.apply asciiRuntime heartbeatLayer
    ¬ ∀ es t task, Run (Timed.take apply)
        (fun u e => Undisturbed heartbeatLayer "w" u.state e.2) drainedRegistry es t →
      ¬ Selects t.state task "w" := by
  let _ := asciiRuntime
  intro apply keepsDrained
  refine keepsDrained [(10_000_000, agentBeat 0)] _ (pendingTask "t")
    (.next (agentBeat_undisturbed 0 _) rfl (.done _)) ?_
  exact ⟨_, rfl, rfl⟩

end PLoadtesting.System
