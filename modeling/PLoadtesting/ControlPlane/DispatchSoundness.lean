import PLoadtesting.ControlPlane.Dispatch

/-!
What dispatching does, and that it does nothing else (`dispatch_task_once` and
`dispatch_pending_tasks` in `apps/tasks/tasks.py`, run one after another).

A dispatch that returns writes the row of its task only, and says whether the
task went to the idle worker that supports its engine and was silent longest
(`DispatchReport`). A tick does this for each due pending task and counts the
ones that went out (`TickReport`). Both are stated with a record of the requests
that go to workers.

Registration takes any JSON for the capabilities of a worker. `engine in
capabilities` raises on a number or `true`, outside the `try` of the delivery,
so a pending task is dispatched soundly if and only if the workers that are
asked can be searched, and a tick if and only if this holds for each due task
(`dispatchSound_iff`).
-/

namespace PLoadtesting.ControlPlane

open Keyed Python

/-! ### The choice of a worker -/

/-- Online, idle, and advertising the engine. -/
structure Eligible (db : Database) (engine : String) (worker : WorkerNode) : Prop where
  stored : worker ∈ db.workers
  online : worker.status = .online
  idle : worker.activeTaskCount = 0
  supports : workerSupportsEngine worker engine = .ok true

/-- The last heartbeat of `v` is not after that of `w`. -/
def NotAfter (v w : WorkerNode) : Prop :=
  ∃ s t, v.lastHeartbeatAt = some s ∧ w.lastHeartbeatAt = some t ∧ s ≤ t

/-- An eligible worker with the oldest heartbeat, or none when none is
eligible. -/
def IsChoice (db : Database) (engine : String) : Option WorkerNode → Prop
  | none => ∀ worker, ¬ Eligible db engine worker
  | some worker => Eligible db engine worker ∧ ∀ other, Eligible db engine other →
      NotAfter worker other

/-- The first idle worker that advertises the engine, passing over those that
cannot be searched. -/
def chosenWorker (db : Database) (engine : String) : Option WorkerNode :=
  (idleWorkers db).find? fun worker => workerSupportsEngine worker engine matches .ok true

instance : Std.Total heartbeatBefore where
  total v w := by
    unfold heartbeatBefore
    cases v.lastHeartbeatAt with
    | none => exact .inl trivial
    | some s =>
        cases w.lastHeartbeatAt with
        | none => exact .inr trivial
        | some t => exact Int.le_total s t

instance : IsTrans WorkerNode heartbeatBefore where
  trans u v w := by
    unfold heartbeatBefore
    cases u.lastHeartbeatAt with
    | none => exact fun _ _ => trivial
    | some r =>
        cases v.lastHeartbeatAt with
        | none => exact fun before _ => before.elim
        | some s =>
            cases w.lastHeartbeatAt with
            | none => exact fun _ before => before
            | some t => exact fun first second => Int.le_trans first second

theorem eligible_iff {db : Database} {engine : String} {worker : WorkerNode} :
    Eligible db engine worker ↔
      worker ∈ idleWorkers db ∧ workerSupportsEngine worker engine = .ok true := by
  rw [mem_idleWorkers, WorkerNode.isIdle, Bool.and_eq_true, decide_eq_true_eq, decide_eq_true_eq]
  constructor
  · intro eligible
    exact ⟨⟨eligible.stored, eligible.online, eligible.idle⟩, eligible.supports⟩
  · rintro ⟨⟨stored, online, idle⟩, supports⟩
    exact ⟨stored, online, idle, supports⟩

section Choice

variable {db : Database} {engine : String}

theorem supports_iff {worker : WorkerNode} :
    (workerSupportsEngine worker engine matches .ok true) = true ↔
      workerSupportsEngine worker engine = .ok true := by
  cases workerSupportsEngine worker engine with
  | error e => simp
  | ok b => cases b <;> simp

/-- The chosen worker is the right one, for heartbeats that are not null. -/
theorem isChoice_chosenWorker
    (heard : ∀ worker ∈ db.workers, worker.lastHeartbeatAt.isSome = true) :
    IsChoice db engine (chosenWorker db engine) := by
  unfold chosenWorker
  cases found : (idleWorkers db).find? fun worker =>
      workerSupportsEngine worker engine matches .ok true with
  | none =>
      intro worker eligible
      obtain ⟨mem, supports⟩ := eligible_iff.mp eligible
      exact absurd (supports_iff.mpr supports) (List.find?_eq_none.mp found worker mem)
  | some worker =>
      obtain ⟨supports, before, after, split, passed⟩ := List.find?_eq_some_iff_append.mp found
      have eligible : Eligible db engine worker :=
        eligible_iff.mpr ⟨List.mem_of_find?_eq_some found, supports_iff.mp supports⟩
      refine ⟨eligible, fun other eligible' => ?_⟩
      obtain ⟨mem, supports'⟩ := eligible_iff.mp eligible'
      have sorted : (idleWorkers db).Pairwise heartbeatBefore :=
        List.pairwise_insertionSort heartbeatBefore _
      have ordered : heartbeatBefore worker other := by
        rw [split, List.mem_append, List.mem_cons] at mem
        rw [split, List.pairwise_append, List.pairwise_cons] at sorted
        rcases mem with earlier | rfl | later
        · have unsupported := passed other earlier
          rw [supports_iff.mpr supports'] at unsupported
          cases unsupported
        · exact (total_of heartbeatBefore other other).elim id id
        · exact sorted.2.1.1 other later
      obtain ⟨s, hs⟩ := Option.isSome_iff_exists.mp (heard worker eligible.stored)
      obtain ⟨t, ht⟩ := Option.isSome_iff_exists.mp (heard other eligible'.stored)
      rw [heartbeatBefore, hs, ht] at ordered
      exact ⟨s, t, hs, ht, ordered⟩

/-- A selection that returns is the choice. -/
theorem firstSupporting_ok {workers : List WorkerNode} {found : Option WorkerNode}
    (selected : firstSupporting engine workers = .ok found) :
    workers.find? (fun worker => workerSupportsEngine worker engine matches .ok true) = found := by
  induction workers with
  | nil =>
      cases selected
      rfl
  | cons first rest ih =>
      unfold firstSupporting at selected
      cases supports : workerSupportsEngine first engine with
      | error e => simp [supports] at selected
      | ok b =>
          cases b with
          | true =>
              rw [supports] at selected
              cases selected
              exact List.find?_cons_of_pos (supports_iff.mpr supports)
          | false =>
              rw [supports] at selected
              rw [List.find?_cons_of_neg (by simp [supports])]
              exact ih selected

end Choice

/-! ### Requests to workers -/

section Requests

variable [Runtime]

/-- The request that `_dispatch_to_worker` sends, unless it cannot be built. -/
def requestTo (task : LoadTestTask) (worker : WorkerNode) : List (TaskId × WorkerId) :=
  match executeRequest task with
  | .error _ => []
  | .ok _ => [(task.id, worker.id)]

/-- `dispatch_task_once` with a record of its requests. -/
def dispatchTaskRecorded (db : Database) (id : TaskId) (delivery : WorkerNode → Delivery)
    (now : Timestamp) : (Except Exc Bool × Database) × List (TaskId × WorkerId) :=
  match db.getTask id with
  | .error e => ((.error e, db), [])
  | .ok task =>
      if task.status ≠ .pending then ((.ok false, db), [])
      else
        match selectAvailableWorker db task with
        | .error e => ((.error e, db), [])
        | .ok none => ((.ok false, db.saveErrorMessage id noIdleWorkerMessage now), [])
        | .ok (some worker) =>
            match dispatchToWorker task (delivery worker) with
            | .error text =>
                ((.ok false, db.saveErrorMessage id (dispatchFailedMessage worker text) now),
                  requestTo task worker)
            | .ok () => ((.ok true, db.saveDispatched id worker.id now), requestTo task worker)

/-- The loop of `dispatch_pending_tasks` with a record of its requests. -/
def dispatchEachRecorded (delivery : TaskId → WorkerNode → Delivery) (now : Timestamp) :
    Database → List TaskId → (Except Exc Nat × Database) × List (TaskId × WorkerId)
  | db, [] => ((.ok 0, db), [])
  | db, id :: ids =>
      match dispatchTaskRecorded db id (delivery id) now with
      | ((.error e, db), sent) => ((.error e, db), sent)
      | ((.ok dispatched, db), sent) =>
          match dispatchEachRecorded delivery now db ids with
          | ((.error e, db), more) => ((.error e, db), sent ++ more)
          | ((.ok count, db), more) =>
              ((.ok (count + if dispatched then 1 else 0), db), sent ++ more)

/-- `dispatch_pending_tasks` with a record of its requests. -/
def dispatchPendingRecorded (db : Database) (delivery : TaskId → WorkerNode → Delivery)
    (now : Timestamp) : (Except Exc Nat × Database) × List (TaskId × WorkerId) :=
  dispatchEachRecorded delivery now db ((pendingTasks db now).map (·.id))

theorem fst_dispatchTaskRecorded (db : Database) (id : TaskId) (delivery : WorkerNode → Delivery)
    (now : Timestamp) :
    (dispatchTaskRecorded db id delivery now).1 = dispatchTaskOnce db id delivery now := by
  unfold dispatchTaskRecorded dispatchTaskOnce
  cases db.getTask id with
  | error e => rfl
  | ok task =>
      dsimp only
      by_cases left : task.status ≠ .pending
      · rw [if_pos left, if_pos left]
      · rw [if_neg left, if_neg left]
        cases selectAvailableWorker db task with
        | error e => rfl
        | ok selected =>
            cases selected with
            | none => rfl
            | some worker =>
                dsimp only
                cases dispatchToWorker task (delivery worker) <;> rfl

theorem fst_dispatchEachRecorded (delivery : TaskId → WorkerNode → Delivery) (now : Timestamp)
    (db : Database) (ids : List TaskId) :
    (dispatchEachRecorded delivery now db ids).1 = dispatchEach delivery now db ids := by
  induction ids generalizing db with
  | nil => rfl
  | cons id ids ih =>
      have once := fst_dispatchTaskRecorded db id (delivery id) now
      unfold dispatchEachRecorded dispatchEach
      rw [← once]
      generalize dispatchTaskRecorded db id (delivery id) now = called
      obtain ⟨⟨outcome, middle⟩, sent⟩ := called
      cases outcome with
      | error e => rfl
      | ok dispatched =>
          dsimp only
          rw [← ih middle]
          generalize dispatchEachRecorded delivery now middle ids = later
          obtain ⟨⟨counted, last⟩, more⟩ := later
          cases counted <;> rfl

/-- The record of one dispatch: nothing, or the request of a pending task to the worker
that was chosen. -/
inductive SentFor (db : Database) (task : LoadTestTask) : List (TaskId × WorkerId) → Prop where
  | nothing : SentFor db task []
  | request {worker : WorkerNode} (pending : task.status = .pending)
      (chosen : chosenWorker db task.engine = some worker) :
      SentFor db task [(task.id, worker.id)]

variable {db : Database} {task : LoadTestTask} {delivery : WorkerNode → Delivery} {now : Timestamp}

/-- A dispatch sends no other request, and one where it says true. -/
theorem sentFor_dispatchTaskRecorded (stored : db.tasks.find? task.id = some task) :
    SentFor db task (dispatchTaskRecorded db task.id delivery now).2 ∧
      ((dispatchTaskRecorded db task.id delivery now).1.1 = .ok true →
        (dispatchTaskRecorded db task.id delivery now).2 ≠ []) := by
  unfold dispatchTaskRecorded
  rw [Database.getTask_ok_iff.mpr stored]
  dsimp only
  split
  · exact ⟨.nothing, nofun⟩
  · rename_i notLeft
    have pending : task.status = .pending := of_not_not notLeft
    split
    · exact ⟨.nothing, nofun⟩
    · exact ⟨.nothing, nofun⟩
    · rename_i worker selected
      have chosen : chosenWorker db task.engine = some worker := firstSupporting_ok selected
      have sent : SentFor db task (requestTo task worker) := by
        unfold requestTo
        split
        · exact .nothing
        · exact .request pending chosen
      split
      · exact ⟨sent, nofun⟩
      · rename_i delivered
        refine ⟨sent, fun _ => ?_⟩
        unfold dispatchToWorker at delivered
        unfold requestTo
        cases built : executeRequest task with
        | error e => simp [built] at delivered
        | ok request => simp

theorem sublist_dispatchTaskRecorded (db : Database) (id : TaskId)
    (delivery : WorkerNode → Delivery) (now : Timestamp) :
    ((dispatchTaskRecorded db id delivery now).2.map Prod.fst).Sublist [id] := by
  cases found : db.getTask id with
  | error e =>
      unfold dispatchTaskRecorded
      rw [found]
      exact List.nil_sublist _
  | ok task =>
      have stored := Database.getTask_ok_iff.mp found
      obtain rfl : task.id = id := (Table.find?_eq_some_iff.mp stored).2
      have sent := (@sentFor_dispatchTaskRecorded _ db task delivery now stored).1
      generalize (dispatchTaskRecorded db task.id delivery now).2 = requests at sent ⊢
      cases sent with
      | nothing => exact List.nil_sublist _
      | request pending chosen => exact List.Sublist.refl _

/-- The requests of the loop are for its tasks, in their order, one for each at most. -/
theorem sublist_dispatchEachRecorded (delivery : TaskId → WorkerNode → Delivery) (now : Timestamp)
    (db : Database) (ids : List TaskId) :
    ((dispatchEachRecorded delivery now db ids).2.map Prod.fst).Sublist ids := by
  induction ids generalizing db with
  | nil => exact List.nil_sublist _
  | cons id ids ih =>
      have first := sublist_dispatchTaskRecorded db id (delivery id) now
      unfold dispatchEachRecorded
      generalize dispatchTaskRecorded db id (delivery id) now = called at first ⊢
      obtain ⟨⟨outcome, middle⟩, sent⟩ := called
      cases outcome with
      | error e => exact first.trans (List.singleton_sublist.mpr List.mem_cons_self)
      | ok dispatched =>
          have rest := ih middle
          dsimp only
          generalize dispatchEachRecorded delivery now middle ids = later at rest ⊢
          obtain ⟨⟨counted, last⟩, more⟩ := later
          cases counted with
          | error e =>
              rw [List.map_append]
              exact first.append rest
          | ok count =>
              rw [List.map_append]
              exact first.append rest

end Requests

/-! ### One task -/

/-- What a dispatch says and leaves: true exactly for a pending task whose
chosen worker took it, and nothing else changes. -/
structure DispatchReport [Runtime] (db : Database) (task : LoadTestTask)
    (delivery : WorkerNode → Delivery) (now : Timestamp) (result : Bool) (after : Database) :
    Prop where
  choice : IsChoice db task.engine (chosenWorker db task.engine)
  true_iff : result = true ↔ task.status = .pending ∧ ∃ worker,
    chosenWorker db task.engine = some worker ∧ dispatchToWorker task (delivery worker) = .ok ()
  dispatched : result = true → ∃ worker, chosenWorker db task.engine = some worker ∧
    after.tasks.find? task.id = some { task with
      worker := some worker.id
      status := .dispatched
      errorMessage := ""
      updatedAt := now }
  noted : result = false → ∃ errorMessage updatedAt,
    after.tasks.find? task.id = some { task with errorMessage, updatedAt }
  settled : task.status ≠ .pending → after = db
  others : ∀ id, id ≠ task.id → after.tasks.find? id = db.tasks.find? id
  workers : after.workers = db.workers
  results : after.results = db.results

/-- The dispatch returns, with such a report, and has sent nothing else than the request
to the chosen worker. -/
def DispatchSound [Runtime] (db : Database) (task : LoadTestTask)
    (delivery : WorkerNode → Delivery) (now : Timestamp) : Prop :=
  ∃ result after sent,
    dispatchTaskRecorded db task.id delivery now = ((.ok result, after), sent) ∧
      DispatchReport db task delivery now result after ∧ SentFor db task sent ∧
      (result = true → sent ≠ [])

section OneTask

variable [Runtime] {db : Database} {task : LoadTestTask}

/-- The report of a pending task that no worker took. -/
theorem dispatchReport_noted (choice : IsChoice db task.engine (chosenWorker db task.engine))
    (stored : db.tasks.find? task.id = some task) (pending : task.status = .pending)
    {delivery : WorkerNode → Delivery} (kept : ∀ worker,
      chosenWorker db task.engine = some worker → dispatchToWorker task (delivery worker) ≠ .ok ())
    (now : Timestamp) (errorMessage : String) :
    DispatchReport db task delivery now false
      (db.saveErrorMessage task.id errorMessage now) where
  choice := choice
  true_iff := by
    refine iff_of_false Bool.false_ne_true ?_
    rintro ⟨_, worker, chosen, delivered⟩
    exact kept worker chosen delivered
  dispatched := by rintro ⟨⟩
  noted := fun _ => ⟨errorMessage, now, by simp [Database.saveErrorMessage, stored]⟩
  settled := fun left => absurd pending left
  others := fun id other => by simp [Database.saveErrorMessage, other]
  workers := rfl
  results := rfl

/-- A dispatch that returns is sound. -/
theorem dispatchReport_of_ok (heard : ∀ worker ∈ db.workers, worker.lastHeartbeatAt.isSome = true)
    (stored : db.tasks.find? task.id = some task) {delivery : WorkerNode → Delivery}
    {now : Timestamp} {result : Bool} {after : Database}
    (returned : dispatchTaskOnce db task.id delivery now = (.ok result, after)) :
    DispatchReport db task delivery now result after := by
  have choice : IsChoice db task.engine (chosenWorker db task.engine) :=
    isChoice_chosenWorker heard
  unfold dispatchTaskOnce at returned
  rw [Database.getTask_ok_iff.mpr stored] at returned
  dsimp only at returned
  split at returned
  · rename_i left
    cases returned
    exact {
      choice
      true_iff := by simp [left]
      dispatched := by rintro ⟨⟩
      noted := fun _ => ⟨task.errorMessage, task.updatedAt, stored⟩
      settled := fun _ => rfl
      others := fun _ _ => rfl
      workers := rfl
      results := rfl }
  · rename_i notLeft
    have pending : task.status = .pending := of_not_not notLeft
    split at returned
    · cases returned
    · rename_i selected
      have chosen : chosenWorker db task.engine = none := firstSupporting_ok selected
      cases returned
      exact dispatchReport_noted choice stored pending (by simp [chosen]) now _
    · rename_i worker selected
      have chosen : chosenWorker db task.engine = some worker := firstSupporting_ok selected
      split at returned
      · rename_i text failed
        cases returned
        exact dispatchReport_noted choice stored pending (by simp [chosen, failed]) now _
      · rename_i delivered
        cases returned
        exact {
          choice
          true_iff := by simp [chosen, delivered, pending]
          dispatched := fun _ => ⟨worker, chosen, by simp [Database.saveDispatched, stored]⟩
          noted := by rintro ⟨⟩
          settled := fun left => absurd pending left
          others := fun id other => by simp [Database.saveDispatched, other]
          workers := rfl
          results := rfl }

/-- One dispatch is sound if and only if a pending task asks workers that can be
searched. -/
theorem dispatchSound_one_iff
    (heard : ∀ worker ∈ db.workers, worker.lastHeartbeatAt.isSome = true)
    (stored : db.tasks.find? task.id = some task) {delivery : WorkerNode → Delivery}
    {now : Timestamp} :
    DispatchSound db task delivery now ↔
      (task.status = .pending → AsksCollections task.engine (idleWorkers db)) := by
  have recorded := fst_dispatchTaskRecorded db task.id delivery now
  constructor
  · rintro ⟨result, after, sent, returned, _⟩ pending
    rw [returned] at recorded
    exact (dispatchTaskOnce_ok_iff delivery now stored pending).mp ⟨result, by rw [← recorded]⟩
  · intro asks
    have returns : ∃ result, (dispatchTaskOnce db task.id delivery now).1 = .ok result := by
      by_cases pending : task.status = .pending
      · exact (dispatchTaskOnce_ok_iff delivery now stored pending).mpr (asks pending)
      · refine ⟨false, ?_⟩
        simp [dispatchTaskOnce, Database.getTask_ok_iff.mpr stored, pending]
    obtain ⟨result, returned⟩ := returns
    obtain ⟨sent, one⟩ := @sentFor_dispatchTaskRecorded _ db task delivery now stored
    refine ⟨result, _, _, Prod.ext (Prod.ext (by rw [recorded, returned]) rfl) rfl,
      dispatchReport_of_ok heard stored (Prod.ext returned (by rw [recorded])), sent, ?_⟩
    rintro rfl
    exact one (by rw [recorded, returned])

end OneTask

/-! ### The tick -/

/-- A row that a dispatch leaves: sent to a worker, or noted and otherwise the
same. -/
inductive RowAfter (task : LoadTestTask) : Option LoadTestTask → Prop where
  | dispatched (worker : WorkerId) (updatedAt : Timestamp) : RowAfter task (some { task with
      worker := some worker
      status := .dispatched
      errorMessage := ""
      updatedAt })
  | noted (errorMessage : String) (updatedAt : Timestamp) :
      RowAfter task (some { task with errorMessage, updatedAt })

/-- The row went out. -/
def wentOut (row : Option LoadTestTask) : Bool :=
  row.any fun row => decide (row.status = .dispatched)

/-- What the loop over a list of pending tasks says and leaves. -/
structure LoopReport (db : Database) (ids : List TaskId) (count : Nat) (after : Database) :
    Prop where
  counted : count = ids.countP fun id => wentOut (after.tasks.find? id)
  rows : ∀ id ∈ ids, ∀ task, db.tasks.find? id = some task → RowAfter task (after.tasks.find? id)
  asked : ∀ id ∈ ids, ∀ task, db.tasks.find? id = some task →
    AsksCollections task.engine (idleWorkers db)
  others : ∀ id, id ∉ ids → after.tasks.find? id = db.tasks.find? id
  workers : after.workers = db.workers
  results : after.results = db.results

/-- Every listed task is stored and pending. -/
def ArePending (db : Database) (ids : List TaskId) : Prop :=
  ∀ id ∈ ids, ∃ task, db.tasks.find? id = some task ∧ task.status = .pending

theorem idleWorkers_congr {db db' : Database} (same : db'.workers = db.workers) :
    idleWorkers db' = idleWorkers db := by
  rw [idleWorkers, idleWorkers, same]

section Loop

variable [Runtime] {db : Database} {delivery : TaskId → WorkerNode → Delivery} {now : Timestamp}

section Report

variable {task : LoadTestTask} {choose : WorkerNode → Delivery} {result : Bool} {after : Database}

/-- One dispatch leaves the later tasks as they were. -/
theorem DispatchReport.unmoved (report : DispatchReport db task choose now result after)
    {ids : List TaskId} (fresh : task.id ∉ ids) :
    ∀ id ∈ ids, after.tasks.find? id = db.tasks.find? id := by
  intro id mem
  refine report.others id ?_
  rintro rfl
  exact fresh mem

theorem DispatchReport.arePending (report : DispatchReport db task choose now result after)
    {ids : List TaskId} (fresh : task.id ∉ ids) (pending : ArePending db ids) :
    ArePending after ids := by
  intro id mem
  obtain ⟨row, stored, isPending⟩ := pending id mem
  exact ⟨row, (report.unmoved fresh id mem).trans stored, isPending⟩

/-- The row of a pending task after its dispatch. -/
theorem DispatchReport.rowAfter (report : DispatchReport db task choose now result after)
    (pending : task.status = .pending) :
    RowAfter task (after.tasks.find? task.id) ∧
      wentOut (after.tasks.find? task.id) = result := by
  cases result with
  | true =>
      obtain ⟨worker, _, row⟩ := report.dispatched rfl
      rw [row]
      exact ⟨.dispatched worker.id now, rfl⟩
  | false =>
      obtain ⟨errorMessage, updatedAt, row⟩ := report.noted rfl
      rw [row]
      exact ⟨.noted errorMessage updatedAt, by simp [wentOut, pending]⟩

end Report

/-- A loop that returns, over distinct pending tasks. -/
theorem loopReport_of_ok {ids : List TaskId} {count : Nat} {after : Database}
    (heard : ∀ worker ∈ db.workers, worker.lastHeartbeatAt.isSome = true) (nodup : ids.Nodup)
    (pending : ArePending db ids)
    (returned : dispatchEach delivery now db ids = (.ok count, after)) :
    LoopReport db ids count after := by
  induction ids generalizing db count with
  | nil =>
      cases returned
      exact {
        counted := rfl
        rows := fun _ mem => absurd mem List.not_mem_nil
        asked := fun _ mem => absurd mem List.not_mem_nil
        others := fun _ _ => rfl
        workers := rfl
        results := rfl }
  | cons id ids ih =>
      obtain ⟨fresh, distinct⟩ := List.nodup_cons.mp nodup
      obtain ⟨⟨task, stored, isPending⟩, later⟩ := List.forall_mem_cons.mp pending
      obtain rfl : task.id = id := (Table.find?_eq_some_iff.mp stored).2
      unfold dispatchEach at returned
      split at returned
      · cases returned
      · rename_i result middle once
        have report := dispatchReport_of_ok heard stored once
        split at returned
        · cases returned
        · rename_i n last looped
          cases returned
          have rest := ih (fun worker mem => heard worker (report.workers ▸ mem)) distinct
            (report.arePending fresh later) looped
          have here : after.tasks.find? task.id = middle.tasks.find? task.id :=
            rest.others task.id fresh
          obtain ⟨row, out⟩ := report.rowAfter isPending
          have unmoved := report.unmoved fresh
          exact {
            counted := by
              rw [List.countP_cons, here, out, rest.counted]
            rows := List.forall_mem_cons.mpr ⟨fun row' stored' => by
                rw [here]
                cases stored.symm.trans stored'
                exact row,
              fun id mem row' stored' => rest.rows id mem row' ((unmoved id mem).trans stored')⟩
            asked := List.forall_mem_cons.mpr ⟨fun row' stored' => by
                cases stored.symm.trans stored'
                exact (dispatchTaskOnce_ok_iff (delivery task.id) now stored isPending).mp
                  ⟨result, by rw [once]⟩,
              fun id mem row' stored' => by
                rw [← idleWorkers_congr report.workers]
                exact rest.asked id mem row' ((unmoved id mem).trans stored')⟩
            others := by
              intro id other
              rw [List.mem_cons, not_or] at other
              obtain ⟨notHere, notLater⟩ := other
              exact (rest.others id notLater).trans (report.others id notHere)
            workers := rest.workers.trans report.workers
            results := rest.results.trans report.results }

/-- The loop returns if every task asks workers that can be searched. -/
theorem dispatchEach_ok {ids : List TaskId}
    (heard : ∀ worker ∈ db.workers, worker.lastHeartbeatAt.isSome = true) (nodup : ids.Nodup)
    (pending : ArePending db ids)
    (asks : ∀ id ∈ ids, ∀ task, db.tasks.find? id = some task →
      AsksCollections task.engine (idleWorkers db)) :
    ∃ count after, dispatchEach delivery now db ids = (.ok count, after) := by
  induction ids generalizing db with
  | nil => exact ⟨0, db, rfl⟩
  | cons id ids ih =>
      obtain ⟨fresh, distinct⟩ := List.nodup_cons.mp nodup
      obtain ⟨⟨task, stored, isPending⟩, later⟩ := List.forall_mem_cons.mp pending
      obtain ⟨asksHere, asksLater⟩ := List.forall_mem_cons.mp asks
      obtain rfl : task.id = id := (Table.find?_eq_some_iff.mp stored).2
      have sound : DispatchSound db task (delivery task.id) now :=
        (dispatchSound_one_iff heard stored).mpr fun _ => asksHere task stored
      obtain ⟨result, middle, sent, recorded, report, _⟩ := sound
      have once := fst_dispatchTaskRecorded db task.id (delivery task.id) now
      rw [recorded] at once
      have unmoved := report.unmoved fresh
      have heard' : ∀ worker ∈ middle.workers, worker.lastHeartbeatAt.isSome = true :=
        fun worker mem => heard worker (report.workers ▸ mem)
      obtain ⟨count, after, looped⟩ := ih heard' distinct (report.arePending fresh later)
        fun id mem row stored' => by
          rw [idleWorkers_congr report.workers]
          exact asksLater id mem row ((unmoved id mem).symm.trans stored')
      unfold dispatchEach
      rw [← once]
      dsimp only
      rw [looped]
      exact ⟨_, _, rfl⟩

/-- The loop asks for the deliveries of the listed tasks only. -/
theorem dispatchEach_congr {ids : List TaskId} {delivery' : TaskId → WorkerNode → Delivery}
    (same : ∀ id ∈ ids, delivery' id = delivery id) :
    dispatchEach delivery' now db ids = dispatchEach delivery now db ids := by
  induction ids generalizing db with
  | nil => rfl
  | cons id ids ih =>
      obtain ⟨here, later⟩ := List.forall_mem_cons.mp same
      unfold dispatchEach
      rw [here]
      split
      · rfl
      · rw [ih later]

end Loop

/-- A task that a tick at `now` takes up. -/
def LoadTestTask.isTaken (task : LoadTestTask) (now : Timestamp) : Bool :=
  decide (task.status = .pending) && task.isDue now

/-- What a tick says and leaves: the number of tasks that went from pending to
dispatched, and only due pending tasks are delivered, once at most, or written. -/
structure TickReport [Runtime] (db : Database) (delivery : TaskId → WorkerNode → Delivery)
    (now : Timestamp) (count : Nat) (after : Database) (sent : List (TaskId × WorkerId)) :
    Prop where
  counted : count = db.tasks.rows.countP fun task =>
    decide (task.status = .pending) && wentOut (after.tasks.find? task.id)
  taken : ∀ task ∈ db.tasks, task.isTaken now = true → RowAfter task (after.tasks.find? task.id)
  untouched : ∀ id, (∀ task, db.tasks.find? id = some task → task.isTaken now = false) →
    after.tasks.find? id = db.tasks.find? id
  delivered : ∀ request ∈ sent, ∃ task ∈ db.tasks, task.id = request.1 ∧ task.isTaken now = true
  once : (sent.map Prod.fst).Nodup
  notAsked : ∀ delivery' : TaskId → WorkerNode → Delivery,
    (∀ task ∈ db.tasks, task.isTaken now = true → delivery' task.id = delivery task.id) →
      dispatchPendingTasks db delivery' now = (.ok count, after)
  workers : after.workers = db.workers
  results : after.results = db.results

/-- The tick returns, with such a report. -/
def TickSound [Runtime] (db : Database) (delivery : TaskId → WorkerNode → Delivery)
    (now : Timestamp) : Prop :=
  ∃ count after sent, dispatchPendingRecorded db delivery now = ((.ok count, after), sent) ∧
    TickReport db delivery now count after sent

section Tick

variable {db : Database} {now : Timestamp}

theorem mem_pendingTasks {task : LoadTestTask} :
    task ∈ pendingTasks db now ↔ task ∈ db.tasks ∧ task.isTaken now = true := by
  rw [pendingTasks, List.mem_insertionSort, List.mem_filter, Table.mem_def]
  rfl

theorem mem_pendingIds {id : TaskId} : id ∈ (pendingTasks db now).map (·.id) ↔
    ∃ task, db.tasks.find? id = some task ∧ task.isTaken now = true := by
  rw [List.mem_map]
  constructor
  · rintro ⟨task, mem, rfl⟩
    obtain ⟨stored, taken⟩ := mem_pendingTasks.mp mem
    exact ⟨task, Table.find?_key stored, taken⟩
  · rintro ⟨task, stored, taken⟩
    obtain ⟨mem, same⟩ := Table.find?_eq_some_iff.mp stored
    exact ⟨task, mem_pendingTasks.mpr ⟨mem, taken⟩, same⟩

theorem pendingIds_nodup : ((pendingTasks db now).map (·.id)).Nodup := by
  have perm := (List.perm_insertionSort (fun s t : LoadTestTask => t.createdAt ≤ s.createdAt)
    (db.tasks.rows.filter fun task => task.isTaken now)).map (·.id)
  exact perm.nodup_iff.mpr (db.tasks.keysNodup.sublist (List.filter_sublist.map _))

theorem pendingIds_arePending : ArePending db ((pendingTasks db now).map (·.id)) := by
  intro id mem
  obtain ⟨task, stored, taken⟩ := mem_pendingIds.mp mem
  exact ⟨task, stored, of_decide_eq_true (Bool.and_eq_true_iff.mp taken).1⟩

/-- The tasks that went out, counted over all tasks. -/
theorem countP_pendingIds {after : Database} (others : ∀ id,
    id ∉ (pendingTasks db now).map (·.id) → after.tasks.find? id = db.tasks.find? id) :
    ((pendingTasks db now).map (·.id)).countP (fun id => wentOut (after.tasks.find? id)) =
      db.tasks.rows.countP fun task =>
        decide (task.status = .pending) && wentOut (after.tasks.find? task.id) := by
  have perm := List.perm_insertionSort (fun s t : LoadTestTask => t.createdAt ≤ s.createdAt)
    (db.tasks.rows.filter fun task => task.isTaken now)
  rw [List.countP_map, pendingTasks]
  refine (perm.countP_eq _).trans ?_
  rw [List.countP_filter]
  refine List.countP_congr ?_
  intro task mem
  simp only [Function.comp_apply, LoadTestTask.isTaken, Bool.and_eq_true, decide_eq_true_eq]
  constructor
  · rintro ⟨out, pending, _⟩
    exact ⟨pending, out⟩
  · rintro ⟨pending, out⟩
    refine ⟨out, pending, ?_⟩
    refine Bool.of_not_eq_false fun notDue => ?_
    have stored : db.tasks.find? task.id = some task := Table.find?_key mem
    have same : after.tasks.find? task.id = some task := by
      refine (others task.id fun taken => ?_).trans stored
      obtain ⟨row, stored', taken⟩ := mem_pendingIds.mp taken
      cases stored.symm.trans stored'
      simp [LoadTestTask.isTaken, notDue] at taken
    simp [same, wentOut, pending] at out

variable [Runtime] {delivery : TaskId → WorkerNode → Delivery}

/-- A tick is sound if and only if each due pending task asks workers that can be
searched. -/
theorem tickSound_iff (heard : ∀ worker ∈ db.workers, worker.lastHeartbeatAt.isSome = true) :
    TickSound db delivery now ↔ ∀ task ∈ db.tasks, task.isTaken now = true →
      AsksCollections task.engine (idleWorkers db) := by
  have recorded := fst_dispatchEachRecorded delivery now db ((pendingTasks db now).map (·.id))
  have inOrder :=
    sublist_dispatchEachRecorded delivery now db ((pendingTasks db now).map (·.id))
  constructor
  · rintro ⟨count, after, sent, returned, _⟩ task mem taken
    unfold dispatchPendingRecorded at returned
    rw [returned] at recorded
    have report := loopReport_of_ok heard pendingIds_nodup pendingIds_arePending recorded.symm
    have stored : db.tasks.find? task.id = some task := Table.find?_key mem
    exact report.asked task.id (mem_pendingIds.mpr ⟨task, stored, taken⟩) task stored
  · intro asks
    have returns : ∃ count after,
        dispatchEach delivery now db ((pendingTasks db now).map (·.id)) =
          (.ok count, after) := by
      refine dispatchEach_ok heard pendingIds_nodup pendingIds_arePending ?_
      intro id mem task stored
      obtain ⟨row, stored', taken⟩ := mem_pendingIds.mp mem
      cases stored.symm.trans stored'
      exact asks task (Table.find?_eq_some_iff.mp stored).1 taken
    obtain ⟨count, after, returned⟩ := returns
    have report := loopReport_of_ok heard pendingIds_nodup pendingIds_arePending returned
    refine ⟨count, after, _, Prod.ext (recorded.trans returned) rfl, ?_⟩
    exact {
      counted := report.counted.trans (countP_pendingIds report.others)
      taken := by
        intro task mem taken
        have stored : db.tasks.find? task.id = some task := Table.find?_key mem
        exact report.rows task.id (mem_pendingIds.mpr ⟨task, stored, taken⟩) task stored
      untouched := by
        intro id notTaken
        refine report.others id fun mem => ?_
        obtain ⟨task, stored, taken⟩ := mem_pendingIds.mp mem
        rw [notTaken task stored] at taken
        cases taken
      delivered := by
        intro request mem
        have listed := inOrder.subset (List.mem_map_of_mem mem)
        obtain ⟨task, stored, taken⟩ := mem_pendingIds.mp listed
        obtain ⟨inTable, same⟩ := Table.find?_eq_some_iff.mp stored
        exact ⟨task, inTable, same, taken⟩
      once := pendingIds_nodup.sublist inOrder
      notAsked := by
        intro delivery' same
        refine (dispatchEach_congr fun id mem => ?_).trans returned
        obtain ⟨task, stored, taken⟩ := mem_pendingIds.mp mem
        obtain ⟨inTable, rfl⟩ := Table.find?_eq_some_iff.mp stored
        exact same task inTable taken
      workers := report.workers
      results := report.results }

end Tick

/-- Dispatching is sound, task by task and tick by tick, if and only if the
workers that are asked for a pending task can be searched. -/
theorem dispatchSound_iff [Runtime] {db : Database}
    (heard : ∀ worker ∈ db.workers, worker.lastHeartbeatAt.isSome = true) (now : Timestamp) :
    (∀ task ∈ db.tasks, ∀ delivery, DispatchSound db task delivery now ↔
      (task.status = .pending → AsksCollections task.engine (idleWorkers db))) ∧
      ∀ delivery, TickSound db delivery now ↔ ∀ task ∈ db.tasks, task.isTaken now = true →
        AsksCollections task.engine (idleWorkers db) :=
  ⟨fun _ mem _ => dispatchSound_one_iff heard (Table.find?_key mem),
    fun _ => tickSound_iff heard⟩

/-! ### Two idle workers -/

/-- An idle worker. -/
def idleWorker (id : WorkerId) (capabilities : Json) (lastHeartbeatAt : Timestamp) :
    WorkerNode where
  id
  name := id
  ipAddress := "10.0.0.1"
  port := 8100
  status := .online
  capabilities
  lastHeartbeatAt := some lastHeartbeatAt
  resourceSnapshot := .obj []
  activeTaskCount := 0
  registeredAt := 0
  updatedAt := 0

/-- A pending k6 task. -/
def waitingTask : LoadTestTask where
  id := "t"
  name := "smoke"
  engine := "k6"
  scriptPath := "engines/k6/smoke.js"
  parameters := .obj []
  targetUrl := "http://echo-api:8000"
  scheduledAt := none
  startedAt := none
  finishedAt := none
  status := .pending
  worker := none
  errorMessage := ""
  createdBy := "test"
  createdAt := 0
  updatedAt := 0

/-- The task, a k6 worker, and one with the given capabilities that was silent
longer. -/
def twoWorkers (capabilities : Json) : Database where
  tasks := Table.empty.upsert waitingTask
  workers := (Table.empty.upsert (idleWorker "a" capabilities 0)).upsert
    (idleWorker "b" (.arr [.str "k6"]) 1)
  results := Table.empty

theorem twoWorkers_heard (capabilities : Json) :
    ∀ worker ∈ (twoWorkers capabilities).workers, worker.lastHeartbeatAt.isSome = true := by
  intro worker mem
  rcases Table.mem_upsert.mp mem with rfl | ⟨mem, _⟩
  · rfl
  · rcases Table.mem_upsert.mp mem with rfl | ⟨mem, _⟩
    · rfl
    · exact absurd mem Table.not_mem_empty

theorem twoWorkers_dispatchSound :
    (∀ task ∈ (twoWorkers (.arr [.str "jmeter"])).tasks, ∀ delivery,
      @DispatchSound asciiRuntime (twoWorkers (.arr [.str "jmeter"])) task delivery 0 ↔
        (task.status = .pending →
          AsksCollections task.engine (idleWorkers (twoWorkers (.arr [.str "jmeter"]))))) ∧
      ∀ delivery, @TickSound asciiRuntime (twoWorkers (.arr [.str "jmeter"])) delivery 0 ↔
        ∀ task ∈ (twoWorkers (.arr [.str "jmeter"])).tasks, task.isTaken 0 = true →
          AsksCollections task.engine (idleWorkers (twoWorkers (.arr [.str "jmeter"]))) :=
  @dispatchSound_iff asciiRuntime _ (twoWorkers_heard _) 0

/-- A number for the capabilities of the first worker makes the dispatch raise,
although the second one is eligible. -/
theorem unsearchableWorker_raises : ¬ ∀ db : Database,
    (∀ worker ∈ db.workers, worker.lastHeartbeatAt.isSome = true) →
      ∀ task ∈ db.tasks, ∀ delivery now, @DispatchSound asciiRuntime db task delivery now := by
  let _ := asciiRuntime
  intro every
  obtain ⟨result, after, sent, returned, _⟩ := every (twoWorkers (.int 1)) (twoWorkers_heard _)
    waitingTask (Table.mem_upsert.mpr (.inl rfl)) (fun _ => .answered) 0
  have raised : (dispatchTaskRecorded (twoWorkers (.int 1)) waitingTask.id
      (fun _ => .answered) 0).1.1 =
        .error (.typeError "argument of type 'int' is not iterable") := rfl
  rw [returned] at raised
  cases raised

end PLoadtesting.ControlPlane
