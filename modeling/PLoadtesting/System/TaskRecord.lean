import PLoadtesting.System.Interleaving
import PLoadtesting.ControlPlane.Creation

/-!
The record of a task over whole runs. Every request takes effect as one step, at
an instant of a clock that does not go back.

A task passes through four stages (`Stage`), and each of them fixes which of the
worker, the two times, the error message and the result are there. The stages
carry the induction; what they say of one row is `TaskRecord`.
-/

namespace PLoadtesting.System

open Keyed Python ControlPlane Transition

/-- A request about one task. -/
inductive TaskStep where
  | dispatch (id : TaskId) (delivery : WorkerNode → Delivery)
  /-- A running or a result callback. -/
  | callback (id : TaskId) (body : Json)

/-- What changes the tables of the Control Plane. The worker table may become
any table between two requests. -/
inductive TaskOperation where
  | create (headers : Headers) (body : Json) (id : TaskId) (delivery : WorkerNode → Delivery)
  | request (step : TaskStep)
  | workers (table : Table WorkerNode.id)

section Operations

variable [Runtime]

def TaskStep.apply (layer : ReportLayer) (db : Database) (now : Timestamp) : TaskStep → Database
  | .dispatch id delivery => (dispatchTaskOnce db id delivery now).2
  | .callback id body => (postResult layer db id body now).2

def TaskOperation.apply (deployment : Deployment) (layer : ReportLayer) (db : Database)
    (now : Timestamp) : TaskOperation → Database
  | .create headers body id delivery =>
      (createTask deployment headers db body ⟨id, now, delivery⟩).2
  | .request step => step.apply layer db now
  | .workers table => { db with workers := table }

end Operations

/-- What is known of a task row at every instant, given whether the task has a
result. -/
structure TaskRecord (task : LoadTestTask) (hasResult : Bool) : Prop where
  pending : task.status = .pending →
    task.worker = none ∧ task.startedAt = none ∧ task.finishedAt = none ∧ hasResult = false
  dispatched : task.status = .dispatched →
    task.worker ≠ none ∧ task.errorMessage = "" ∧ task.startedAt = none ∧ hasResult = false
  running : task.status = .running →
    task.startedAt ≠ none ∧ task.errorMessage = "" ∧ task.finishedAt = none ∧ hasResult = false
  hasEnded_iff : task.status.hasEnded = true ↔ hasResult = true
  hasResult_iff : hasResult = true ↔ task.finishedAt ≠ none
  inOrder : hasResult = true →
    ∃ started finished, task.startedAt = some started ∧ task.finishedAt = some finished ∧
      started ≤ finished
  completed : task.status = .completed → task.errorMessage = ""
  unused : task.status ≠ .scheduled ∧ task.status ≠ .cancelled

/-- Every task keeps its row, and the times in it once they are set. -/
def TimesKept (db db' : Database) : Prop :=
  ∀ task ∈ db.tasks, ∃ task' ∈ db'.tasks, task'.id = task.id ∧
    (∀ started, task.startedAt = some started → task'.startedAt = some started) ∧
    ∀ finished, task.finishedAt = some finished → task'.finishedAt = some finished

/-! ### The stages of a task -/

/-- The stages of a task at an instant of the clock, and whether it has a
result. -/
inductive Stage (clock : Timestamp) (task : LoadTestTask) : Bool → Prop where
  | pending (status : task.status = .pending) (worker : task.worker = none)
      (startedAt : task.startedAt = none) (finishedAt : task.finishedAt = none) :
      Stage clock task false
  | dispatched {worker : WorkerId} (status : task.status = .dispatched)
      (worker : task.worker = some worker) (errorMessage : task.errorMessage = "")
      (startedAt : task.startedAt = none) (finishedAt : task.finishedAt = none) :
      Stage clock task false
  | running {started : Timestamp} (status : task.status = .running)
      (errorMessage : task.errorMessage = "") (startedAt : task.startedAt = some started)
      (past : started ≤ clock) (finishedAt : task.finishedAt = none) : Stage clock task false
  | ended {started finished : Timestamp} (status : task.status.hasEnded = true)
      (errorMessage : task.status = .completed → task.errorMessage = "")
      (startedAt : task.startedAt = some started) (finishedAt : task.finishedAt = some finished)
      (inOrder : started ≤ finished) : Stage clock task true

namespace Stage

variable {clock now : Timestamp} {task : LoadTestTask} {hasResult : Bool}

theorem later (h : Stage clock task hasResult) (le : clock ≤ now) : Stage now task hasResult := by
  cases h with
  | pending status worker startedAt finishedAt => exact .pending status worker startedAt finishedAt
  | dispatched status worker errorMessage startedAt finishedAt =>
      exact .dispatched status worker errorMessage startedAt finishedAt
  | running status errorMessage startedAt past finishedAt =>
      exact .running status errorMessage startedAt (past.trans le) finishedAt
  | ended status errorMessage startedAt finishedAt inOrder =>
      exact .ended status errorMessage startedAt finishedAt inOrder

/-- A stage fixes the record. -/
theorem record (h : Stage clock task hasResult) : TaskRecord task hasResult := by
  cases h with
  | pending status worker startedAt finishedAt =>
      constructor <;> simp [status, worker, startedAt, finishedAt, TaskStatus.hasEnded]
  | dispatched status worker errorMessage startedAt finishedAt =>
      constructor <;>
        simp [status, worker, errorMessage, startedAt, finishedAt, TaskStatus.hasEnded]
  | running status errorMessage startedAt past finishedAt =>
      constructor <;> simp [status, errorMessage, startedAt, finishedAt, TaskStatus.hasEnded]
  | ended status errorMessage startedAt finishedAt inOrder =>
      have other : ∀ other : TaskStatus, other.hasEnded = false → task.status ≠ other := by
        intro other notEnded same
        rw [same, notEnded] at status
        cases status
      refine ⟨?_, ?_, ?_, ?_, ?_, ?_, errorMessage, other _ rfl, other _ rfl⟩
      · intro same
        exact absurd same (other _ rfl)
      · intro same
        exact absurd same (other _ rfl)
      · intro same
        exact absurd same (other _ rfl)
      · simp [status]
      · simp [finishedAt]
      · intro _
        exact ⟨_, _, startedAt, finishedAt, inOrder⟩

/-- A pending task has nothing yet. -/
theorem of_pending (h : Stage clock task hasResult) (pending : task.status = .pending) :
    hasResult = false ∧ task.worker = none ∧ task.startedAt = none ∧ task.finishedAt = none := by
  cases h with
  | pending status worker startedAt finishedAt => exact ⟨rfl, worker, startedAt, finishedAt⟩
  | dispatched status => exact nomatch pending.symm.trans status
  | running status => exact nomatch pending.symm.trans status
  | ended status =>
      rw [pending] at status
      cases status

/-- A task without a result has not finished, and started in the past if at
all. -/
theorem unfinished (h : Stage clock task false) :
    task.finishedAt = none ∧ ∀ started, task.startedAt = some started → started ≤ clock := by
  cases h with
  | pending status worker startedAt finishedAt => exact ⟨finishedAt, by simp [startedAt]⟩
  | dispatched status worker errorMessage startedAt finishedAt =>
      exact ⟨finishedAt, by simp [startedAt]⟩
  | running status errorMessage startedAt past finishedAt =>
      refine ⟨finishedAt, ?_⟩
      intro started same
      rw [startedAt] at same
      cases same
      exact past

/-- The started time after a callback: the old one, or now. -/
theorem startedAt_or (h : Stage clock task false) (le : clock ≤ now) :
    ∃ started, task.startedAt.or (some now) = some started ∧ started ≤ now := by
  cases set : task.startedAt with
  | none => exact ⟨now, rfl, Int.le_refl now⟩
  | some started => exact ⟨started, rfl, (h.unfinished.2 started set).trans le⟩

end Stage

/-! ### The invariant -/

/-- Every task is in one of its stages, and every result is a task's. -/
structure Staged (db : Database) (clock : Timestamp) : Prop where
  stage : ∀ task ∈ db.tasks, Stage clock task (db.hasResult task.id)
  owned : ∀ result ∈ db.results, ∃ task ∈ db.tasks, task.id = result.task

theorem TimesKept.refl (db : Database) : TimesKept db db :=
  fun task mem => ⟨task, mem, rfl, fun _ same => same, fun _ same => same⟩

theorem TimesKept.trans {db db' db'' : Database} (h : TimesKept db db') (k : TimesKept db' db'') :
    TimesKept db db'' := by
  intro task mem
  obtain ⟨task', mem', same, started, finished⟩ := h task mem
  obtain ⟨task'', mem'', same', started', finished'⟩ := k task' mem'
  refine ⟨task'', mem'', same'.trans same, ?_, ?_⟩
  · intro at_ set
    exact started' at_ (started at_ set)
  · intro at_ set
    exact finished' at_ (finished at_ set)

/-- The update of one row keeps the times if it keeps those of the row. -/
theorem TimesKept.updateTask {db : Database} {id : TaskId} {f : LoadTestTask → LoadTestTask}
    {keeps : ∀ task, (f task).id = task.id}
    (kept : ∀ task ∈ db.tasks, task.id = id →
      (∀ started, task.startedAt = some started → (f task).startedAt = some started) ∧
        ∀ finished, task.finishedAt = some finished → (f task).finishedAt = some finished) :
    TimesKept db (db.updateTask id f keeps) := by
  intro task mem
  refine ⟨_, Database.mem_updateTask_of_mem mem, ?_⟩
  split
  · rename_i same
    exact ⟨keeps task, kept task mem same⟩
  · exact ⟨rfl, fun _ set => set, fun _ set => set⟩

namespace Staged

variable {db : Database} {clock now : Timestamp} {id : TaskId}

theorem later (h : Staged db clock) (le : clock ≤ now) : Staged db now :=
  ⟨fun task mem => (h.stage task mem).later le, h.owned⟩

/-- The update of one row that moves it to a stage. -/
theorem updateTask {f : LoadTestTask → LoadTestTask} {keeps : ∀ task, (f task).id = task.id}
    (h : Staged db clock) (le : clock ≤ now)
    (moves : ∀ task ∈ db.tasks, task.id = id → Stage now (f task) (db.hasResult id)) :
    Staged (db.updateTask id f keeps) now := by
  constructor
  · intro task mem
    rw [Database.hasResult_updateTask]
    rcases Database.mem_updateTask_cases mem with ⟨row, stored, same, rfl⟩ | ⟨stored, _⟩
    · rw [keeps, same]
      exact moves row stored same
    · exact (h.stage task stored).later le
  · intro result mem
    obtain ⟨task, stored, same⟩ := h.owned result mem
    refine ⟨_, Database.mem_updateTask_of_mem stored, ?_⟩
    split
    · exact (keeps task).trans same
    · exact same

/-- A new task has no result. -/
theorem insertTask {task : LoadTestTask} (h : Staged db clock) (le : clock ≤ now)
    (fresh : db.tasks.find? task.id = none) (status : task.status = .pending)
    (worker : task.worker = none) (startedAt : task.startedAt = none)
    (finishedAt : task.finishedAt = none) : Staged (db.insertTask task) now := by
  have other := Table.find?_eq_none_iff.mp fresh
  constructor
  · intro row mem
    rcases Table.mem_upsert.mp mem with rfl | ⟨stored, _⟩
    · have noResult : (db.insertTask row).hasResult row.id = false := by
        cases found : db.results.find? row.id with
        | none => simp [Database.hasResult, Database.insertTask, found]
        | some result =>
            obtain ⟨stored, same⟩ := Table.find?_eq_some_iff.mp found
            obtain ⟨owner, mem, owns⟩ := h.owned result stored
            exact absurd (owns.trans same) (other owner mem)
      rw [noResult]
      exact .pending status worker startedAt finishedAt
    · exact (h.stage row stored).later le
  · intro result mem
    obtain ⟨owner, stored, same⟩ := h.owned result mem
    exact ⟨owner, Table.mem_upsert.mpr (.inr ⟨stored, other owner stored⟩), same⟩

end Staged

theorem timesKept_insertTask {db : Database} {task : LoadTestTask}
    (fresh : db.tasks.find? task.id = none) : TimesKept db (db.insertTask task) := by
  intro row mem
  have other := Table.find?_eq_none_iff.mp fresh row mem
  exact ⟨row, Table.mem_upsert.mpr (.inr ⟨mem, other⟩), rfl, fun _ set => set, fun _ set => set⟩

/-! ### What the operations preserve -/

section Callbacks

variable {db : Database} {clock now : Timestamp}

/-- A started time that is set stays the one that a callback saves. -/
theorem startedAt_kept {task : LoadTestTask} {now : Timestamp} :
    ∀ started, task.startedAt = some started → task.startedAt.or (some now) = some started := by
  intro started set
  rw [set]
  rfl

/-- A running callback's save, for a task without a result. -/
theorem staged_saveRunning (h : Staged db clock) (le : clock ≤ now) {task : LoadTestTask}
    (mem : task ∈ db.tasks) (first : db.hasResult task.id = false) :
    Staged (db.saveRunning task now) now ∧ TimesKept db (db.saveRunning task now) := by
  have stage : Stage clock task false := first ▸ h.stage task mem
  obtain ⟨started, set, past⟩ := stage.startedAt_or le
  constructor
  · refine h.updateTask le ?_
    intro row rowMem same
    cases Table.eq_of_key_eq rowMem mem same
    rw [first]
    exact .running rfl rfl set past stage.unfinished.1
  · refine .updateTask ?_
    intro row rowMem same
    cases Table.eq_of_key_eq rowMem mem same
    exact ⟨startedAt_kept, fun _ set => set⟩

/-- The transaction of a result, for a task without one. -/
theorem staged_saveFinished (h : Staged db clock) (le : clock ≤ now) {task : LoadTestTask}
    (report : Report) (mem : task ∈ db.tasks) (first : db.hasResult task.id = false) :
    let committed : Database :=
      { db with results := db.results.upsert ⟨task.id, report.fields, now⟩ }
    Staged (committed.saveFinished task report now) now ∧
      TimesKept db (committed.saveFinished task report now) := by
  intro committed
  have stage : Stage clock task false := first ▸ h.stage task mem
  obtain ⟨started, set, past⟩ := stage.startedAt_or le
  refine ⟨⟨?_, ?_⟩, ?_⟩
  · intro row rowMem
    rw [hasResult_saveFinished]
    rcases Database.mem_updateTask_cases rowMem with ⟨old, oldMem, same, rfl⟩ | ⟨old, other⟩
    · cases Table.eq_of_key_eq (t := db.tasks) oldMem mem same
      have isTask : (decide (task.id = task.id) || db.hasResult task.id) = true := by simp
      rw [isTask]
      exact .ended report.outcome_hasEnded Report.errorMessage_of_completed set rfl past
    · have isOther : (decide (row.id = task.id) || db.hasResult row.id) = db.hasResult row.id := by
        simp [other]
      rw [isOther]
      exact (h.stage row old).later le
  · intro result resultMem
    have owner : ∃ owner ∈ committed.tasks, owner.id = result.task := by
      rcases Table.mem_upsert.mp (show result ∈ committed.results from resultMem) with
        rfl | ⟨old, _⟩
      · exact ⟨task, mem, rfl⟩
      · exact h.owned result old
    obtain ⟨owner, ownerMem, owns⟩ := owner
    refine ⟨_, Database.mem_updateTask_of_mem ownerMem, ?_⟩
    split
    · exact owns
    · exact owns
  · show TimesKept committed (committed.saveFinished task report now)
    refine .updateTask ?_
    intro row rowMem same
    cases Table.eq_of_key_eq (t := db.tasks) rowMem mem same
    refine ⟨startedAt_kept, ?_⟩
    intro finished set
    cases stage.unfinished.1.symm.trans set

/-- A callback writes the row of a task without a result only. -/
theorem staged_callback (h : Staged db clock) (le : clock ≤ now) (layer : ReportLayer)
    (id : TaskId) (body : Json) :
    Staged (postResult layer db id body now).2 now ∧
      TimesKept db (postResult layer db id body now).2 := by
  have outcome := postResult_cases layer db id body now
  generalize postResult layer db id body now = result at outcome ⊢
  cases outcome with
  | missing missing => exact ⟨h.later le, .refl db⟩
  | conflict stored had => exact ⟨h.later le, .refl db⟩
  | refused stored notAccepted notRunning noReport => exact ⟨h.later le, .refl db⟩
  | started stored first running =>
      obtain ⟨mem, rfl⟩ := Table.find?_eq_some_iff.mp stored
      exact staged_saveRunning h le mem first
  | @finished task report stored first reports =>
      obtain ⟨mem, rfl⟩ := Table.find?_eq_some_iff.mp stored
      exact staged_saveFinished h le report mem first

end Callbacks

section Operations

variable [Runtime] {db : Database} {clock now : Timestamp}

/-- A dispatch call writes the row of a pending task only. -/
theorem staged_dispatch (h : Staged db clock) (le : clock ≤ now) (id : TaskId)
    (delivery : WorkerNode → Delivery) :
    Staged (dispatchTaskOnce db id delivery now).2 now ∧
      TimesKept db (dispatchTaskOnce db id delivery now).2 := by
  have outcome := dispatchTaskOnce_cases db id delivery now
  generalize dispatchTaskOnce db id delivery now = result at outcome ⊢
  -- The row that the call saves is the pending one that it read.
  have read : ∀ {task : LoadTestTask}, db.tasks.find? id = some task → task.status = .pending →
      ∀ row ∈ db.tasks, row.id = id → row.status = .pending ∧ db.hasResult id = false ∧
        row.worker = none ∧ row.startedAt = none ∧ row.finishedAt = none := by
    intro task stored pending row mem same
    obtain ⟨taskMem, rfl⟩ := Table.find?_eq_some_iff.mp stored
    cases Table.eq_of_key_eq mem taskMem same
    exact ⟨pending, (h.stage _ mem).of_pending pending⟩
  cases outcome with
  | kept notDispatched => exact ⟨h.later le, .refl db⟩
  | noted errorMessage stored pending =>
      refine ⟨h.updateTask le ?_, .updateTask fun _ _ _ => ⟨fun _ set => set, fun _ set => set⟩⟩
      intro row mem same
      obtain ⟨status, noResult, worker, startedAt, finishedAt⟩ := read stored pending row mem same
      rw [noResult]
      exact .pending status worker startedAt finishedAt
  | dispatched stored pending selected delivered =>
      refine ⟨h.updateTask le ?_, .updateTask fun _ _ _ => ⟨fun _ set => set, fun _ set => set⟩⟩
      intro row mem same
      obtain ⟨_, noResult, _, startedAt, finishedAt⟩ := read stored pending row mem same
      rw [noResult]
      exact .dispatched rfl rfl rfl startedAt finishedAt

/-- A creation adds a pending task, and a demo creation dispatches it. -/
theorem staged_create (h : Staged db clock) (deployment : Deployment) (headers : Headers)
    (body : Json) (occasion : Occasion) (le : clock ≤ occasion.now) :
    Staged (createTask deployment headers db body occasion).2 occasion.now ∧
      TimesKept db (createTask deployment headers db body occasion).2 := by
  have served : ∀ demoCreate, Staged (createServed deployment demoCreate db body occasion).2
      occasion.now ∧ TimesKept db (createServed deployment demoCreate db body occasion).2 := by
    intro demoCreate
    have outcome := createServed_cases deployment demoCreate db body occasion
    generalize createServed deployment demoCreate db body occasion = result at outcome ⊢
    cases outcome with
    | invalid notCreated invalid => exact ⟨h.later le, .refl db⟩
    | denied notCreated accepts demo notSafe => exact ⟨h.later le, .refl db⟩
    | taken e taken => exact ⟨h.later le, .refl db⟩
    | unplanned e accepts fresh unplanned safe =>
        exact ⟨h.insertTask le fresh rfl rfl rfl rfl, timesKept_insertTask fresh⟩
    | stored accepts fresh planned shared =>
        exact ⟨h.insertTask le fresh rfl rfl rfl rfl, timesKept_insertTask fresh⟩
    | @demo attrs data accepts fresh planned demo safe =>
        rw [finishDemoCreate_snd]
        let marked := markedTask (storedTask data occasion.id occasion.now) occasion.now
        have inserted : Staged (db.insertTask marked) occasion.now :=
          h.insertTask le fresh rfl rfl rfl rfl
        have kept : TimesKept db (db.insertTask marked) := timesKept_insertTask fresh
        have dispatched := staged_dispatch inserted (Int.le_refl _) occasion.id occasion.delivery
        exact ⟨dispatched.1, kept.trans dispatched.2⟩
  unfold createTask
  split
  · exact served false
  · split
    · split
      · exact ⟨h.later le, .refl db⟩
      · exact ⟨h.later le, .refl db⟩
      · exact served true
    · exact ⟨h.later le, .refl db⟩

variable {deployment : Deployment} {layer : ReportLayer}

theorem staged_apply (h : Staged db clock) (le : clock ≤ now) (operation : TaskOperation) :
    Staged (operation.apply deployment layer db now) now ∧
      TimesKept db (operation.apply deployment layer db now) := by
  cases operation with
  | create headers body id delivery =>
      exact staged_create h deployment headers body ⟨id, now, delivery⟩ le
  | request step =>
      cases step with
      | dispatch id delivery => exact staged_dispatch h le id delivery
      | callback id body => exact staged_callback h le layer id body
  | workers table => exact ⟨⟨fun task mem => (h.stage task mem).later le, h.owned⟩, .refl db⟩

/-- In every run from empty tables, every task has its record at every instant,
and its times stay as they are once set. -/
theorem run_taskRecord {s t u : Timed Database} {es fs : List (Timestamp × TaskOperation)}
    (noTasks : s.state.tasks = Table.empty) (noResults : s.state.results = Table.empty)
    (run : exec (Timed.take (TaskOperation.apply deployment layer)) s es = some t)
    (rest : exec (Timed.take (TaskOperation.apply deployment layer)) t fs = some u) :
    (∀ task ∈ t.state.tasks, TaskRecord task (t.state.hasResult task.id)) ∧
      TimesKept t.state u.state := by
  have start : Staged s.state s.clock := by
    constructor
    · intro task mem
      rw [noTasks] at mem
      exact absurd mem Table.not_mem_empty
    · intro result mem
      rw [noResults] at mem
      exact absurd mem Table.not_mem_empty
  have preserved : ∀ (db : Database) (clock now : Timestamp) (operation : TaskOperation),
      clock ≤ now → Staged db clock → Staged (operation.apply deployment layer db now) now :=
    fun _ _ _ operation le h => (staged_apply h le operation).1
  have staged : Staged t.state t.clock := (run_iff_exec.mpr run).invariant preserved start
  constructor
  · intro task mem
    exact (staged.stage task mem).record
  · refine (run_iff_exec.mpr rest).relates TimesKept.refl ?_ preserved ?_ staged
    · intro x y z
      exact TimesKept.trans
    · intro x clock now operation le h
      exact (staged_apply h le operation).2

end Operations

/-! ### One task from its creation to its result -/

/-- A layer that reads every report as the empty one and takes every manifest. -/
def plainReportLayer : ReportLayer := ⟨fun _ => .ok emptyReport, fun _ _ => .ok ()⟩

def runningBody : Json := .obj [("execution_status", .str "running")]

/-- The task is created, dispatched, started and finished. -/
def fullRun : List (Timestamp × TaskOperation) :=
  [(0, .workers oneTask.db.workers), (1, .create tokenHeaders (k6Body []) "t" fun _ => .answered),
    (2, .request (.dispatch "t" fun _ => .answered)), (3, .request (.callback "t" runningBody)),
    (4, .request (.callback "t" (.obj [])))]

/-- Callbacks that come after the result. -/
def lateCallbacks : List (Timestamp × TaskOperation) :=
  [(5, .request (.callback "t" runningBody)), (6, .request (.callback "t" (.obj [])))]

theorem fullRun_taskRecord :
    let apply := @TaskOperation.apply asciiRuntime tokenDeployment plainReportLayer
    ∃ t u, exec (Timed.take apply) ⟨emptyDatabase, 0⟩ fullRun = some t ∧
      exec (Timed.take apply) t lateCallbacks = some u ∧
      t.state.tasks.rows.map (·.status) = [.completed] ∧
      (∀ task ∈ t.state.tasks, TaskRecord task (t.state.hasResult task.id)) ∧
      TimesKept t.state u.state := by
  let _ := asciiRuntime
  intro apply
  have replays : (exec (Timed.take apply) ⟨emptyDatabase, 0⟩ fullRun).map (fun t =>
      (t.state.tasks.rows.map (·.status), (exec (Timed.take apply) t lateCallbacks).isSome)) =
        some ([.completed], true) := by
    decide +kernel
  obtain ⟨t, run, ends⟩ := Option.map_eq_some_iff.mp replays
  obtain ⟨statuses, late⟩ := Prod.mk.inj ends
  obtain ⟨u, rest⟩ := Option.isSome_iff_exists.mp late
  exact ⟨t, u, run, rest, statuses, run_taskRecord rfl rfl run rest⟩

end PLoadtesting.System
