import PLoadtesting.System.TaskRecord

/-!
The state machine of a task as `docs/architecture-interaction.md` draws it, and
the status changes that the requests make.

A dispatch call reads the status before it writes. A callback reads only whether
there is a result, so it takes a task from any status to RUNNING, COMPLETED or
FAILED. `follows_iff` says in which states the change is one the document draws.
-/

namespace PLoadtesting.System

open Keyed Python ControlPlane Transition

/-- The edges of the documented state machine, but for those to CANCELLED. -/
inductive DocumentedEdge : TaskStatus → TaskStatus → Prop where
  | dispatched : DocumentedEdge .pending .dispatched
  | running : DocumentedEdge .dispatched .running
  | completed : DocumentedEdge .running .completed
  | failed : DocumentedEdge .running .failed

/-- The status stays, or moves along an edge. -/
def StatusStep (before after : TaskStatus) : Prop := after = before ∨ DocumentedEdge before after

/-- Every task's status stays or moves along an edge. -/
def FollowsStateMachine (db db' : Database) : Prop :=
  ∀ task ∈ db.tasks, ∀ task' ∈ db'.tasks, task'.id = task.id → StatusStep task.status task'.status

/-- The callback finds its task where the document has it: dispatched or running
for a running callback, running for a report, or already where the callback
takes it. -/
structure OnTrack (layer : ReportLayer) (body : Json) (task : LoadTestTask) : Prop where
  running : IsRunning body → task.status = .dispatched ∨ task.status = .running
  reported : ∀ report, Reports layer task body report →
    task.status = .running ∨ task.status = report.outcome

/-- The condition on a request: a callback for a task without a result is on
track. -/
def TaskStep.OnTrack (layer : ReportLayer) (db : Database) : TaskStep → Prop
  | .dispatch _ _ => True
  | .callback id body => ∀ task, db.tasks.find? id = some task → db.hasResult id = false →
      System.OnTrack layer body task

theorem statusStep_running_iff {status : TaskStatus} :
    StatusStep status .running ↔ status = .dispatched ∨ status = .running := by
  constructor
  · rintro (same | edge)
    · exact .inr same.symm
    · cases edge
      exact .inl rfl
  · rintro (rfl | rfl)
    · exact .inr .running
    · exact .inl rfl

theorem statusStep_outcome_iff {status : TaskStatus} (report : Report) :
    StatusStep status report.outcome ↔ status = .running ∨ status = report.outcome := by
  have reached : DocumentedEdge .running report.outcome := by
    unfold Report.outcome
    split
    · exact .failed
    · exact .completed
  constructor
  · rintro (same | edge)
    · exact .inr same.symm
    · refine .inl ?_
      unfold Report.outcome at edge
      split at edge
      · cases edge
        rfl
      · cases edge
        rfl
  · rintro (rfl | same)
    · exact .inr reached
    · exact .inl same.symm

section Rows

variable {db : Database} {id : TaskId} {task : LoadTestTask}

theorem FollowsStateMachine.refl (db : Database) : FollowsStateMachine db db := by
  intro task mem task' mem' same
  exact .inl (congrArg LoadTestTask.status (Table.eq_of_key_eq mem' mem same))

/-- An update of one row follows the state machine if the update of that row
does. `base` is `db` but for the results. -/
theorem follows_updateTask_iff {base : Database} {f : LoadTestTask → LoadTestTask}
    {keeps : ∀ task, (f task).id = task.id} (sameTasks : base.tasks = db.tasks)
    (stored : db.tasks.find? id = some task) :
    FollowsStateMachine db (base.updateTask id f keeps) ↔
      StatusStep task.status (f task).status := by
  obtain ⟨mem, rfl⟩ := Table.find?_eq_some_iff.mp stored
  constructor
  · intro follows
    have inBase : task ∈ base.tasks := sameTasks.symm ▸ mem
    have updated := @Database.mem_updateTask_of_mem base task.id f keeps task inBase
    rw [if_pos rfl] at updated
    exact follows task mem (f task) updated (keeps task)
  · intro step row rowMem row' rowMem' same
    rcases Database.mem_updateTask_cases rowMem' with ⟨old, oldMem, oldId, rfl⟩ | ⟨old, other⟩
    · rw [sameTasks] at oldMem
      cases Table.eq_of_key_eq oldMem mem oldId
      cases Table.eq_of_key_eq rowMem mem (same.symm.trans (keeps task))
      exact step
    · rw [sameTasks] at old
      exact .inl (congrArg LoadTestTask.status (Table.eq_of_key_eq old rowMem same))

end Rows

section Steps

variable [Runtime]

/-- A dispatch call moves a pending task to DISPATCHED, and nothing else. -/
theorem follows_dispatch (db : Database) (id : TaskId) (delivery : WorkerNode → Delivery)
    (now : Timestamp) : FollowsStateMachine db (dispatchTaskOnce db id delivery now).2 := by
  have outcome := dispatchTaskOnce_cases db id delivery now
  generalize dispatchTaskOnce db id delivery now = result at outcome ⊢
  cases outcome with
  | kept notDispatched => exact .refl db
  | noted errorMessage stored pending =>
      exact (follows_updateTask_iff rfl stored).mpr (.inl rfl)
  | dispatched stored pending selected delivered =>
      refine (follows_updateTask_iff rfl stored).mpr (.inr ?_)
      rw [pending]
      exact .dispatched

omit [Runtime] in
/-- A callback is answered by the row of one task, so what it does to the status
is what `OnTrack` asks of that row. -/
theorem follows_callback_iff (layer : ReportLayer) (db : Database) (id : TaskId) (body : Json)
    (now : Timestamp) : FollowsStateMachine db (postResult layer db id body now).2 ↔
      (TaskStep.callback id body).OnTrack layer db := by
  have outcome := postResult_cases layer db id body now
  generalize postResult layer db id body now = result at outcome ⊢
  have onTrack_iff : ∀ {task : LoadTestTask}, db.tasks.find? id = some task →
      db.hasResult id = false →
      ((TaskStep.callback id body).OnTrack layer db ↔ OnTrack layer body task) := by
    intro task stored first
    constructor
    · intro onTrack
      exact onTrack task stored first
    · intro onTrack task' stored' _
      cases stored.symm.trans stored'
      exact onTrack
  cases outcome with
  | missing missing =>
      refine iff_of_true (.refl db) ?_
      intro task stored
      cases missing.symm.trans stored
  | conflict stored had =>
      refine iff_of_true (.refl db) ?_
      intro task _ first
      cases had.symm.trans first
  | refused stored notAccepted notRunning noReport =>
      refine iff_of_true (.refl db) ?_
      intro task stored' _
      cases stored.symm.trans stored'
      exact ⟨fun running => absurd running notRunning,
        fun report reports => absurd reports (noReport report)⟩
  | started stored first running =>
      obtain ⟨_, same⟩ := Table.find?_eq_some_iff.mp stored
      subst same
      rw [onTrack_iff stored first]
      refine (follows_updateTask_iff rfl stored).trans (statusStep_running_iff.trans ?_)
      constructor
      · intro reached
        exact ⟨fun _ => reached, fun report reports => absurd running reports.notRunning⟩
      · intro onTrack
        exact onTrack.running running
  | @finished task report stored first reports =>
      obtain ⟨_, same⟩ := Table.find?_eq_some_iff.mp stored
      subst same
      rw [onTrack_iff stored first]
      refine (follows_updateTask_iff rfl stored).trans ((statusStep_outcome_iff report).trans ?_)
      constructor
      · intro reached
        refine ⟨fun running => absurd running reports.notRunning, ?_⟩
        intro report' reports'
        cases reports.read.symm.trans reports'.read
        exact reached
      · intro onTrack
        exact onTrack.reported report reports

/-- A request follows the documented state machine if and only if a callback
finds its task on track. -/
theorem follows_iff (layer : ReportLayer) (db : Database) (step : TaskStep) (now : Timestamp) :
    FollowsStateMachine db (step.apply layer db now) ↔ step.OnTrack layer db := by
  cases step with
  | dispatch id delivery => exact iff_of_true (follows_dispatch db id delivery now) trivial
  | callback id body => exact follows_callback_iff layer db id body now

/-- Every request follows the documented state machine. -/
def StatusFollowsDocument : Prop :=
  ∀ (layer : ReportLayer) (db : Database) (step : TaskStep) (now : Timestamp),
    FollowsStateMachine db (step.apply layer db now)

end Steps

/-- A cancelled task. -/
def cancelledTask : LoadTestTask := { pendingTask "t" with status := .cancelled }

/-- A running callback takes a cancelled task to RUNNING. -/
theorem cancelled_restarts : ¬ @StatusFollowsDocument asciiRuntime := by
  let _ := asciiRuntime
  intro follows
  let db : Database := ⟨⟨[cancelledTask], by decide⟩, Table.empty, Table.empty⟩
  have onTrack := (follows_callback_iff plainReportLayer db "t" runningBody 1).mp
    (follows plainReportLayer db (.callback "t" runningBody) 1)
  have running : IsRunning runningBody := ⟨.str "running", rfl, rfl⟩
  have reached := (onTrack cancelledTask rfl rfl).running running
  exact absurd reached (by decide)

end PLoadtesting.System
