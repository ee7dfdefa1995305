import PLoadtesting.System.Interleaving

/-!
Terminal status. A task with a result is COMPLETED or FAILED as long as no save
overwrites it, and two saves can: the last save of a dispatch call and the save
of a running callback write the status from a decision taken earlier.

`orderly_run_terminalStatus` states when the status is absorbing: no result is
committed while such a save for its task is outstanding, and no delivery is
answered for a task that already has a result. Without that condition the status
is overwritten (`lateSave_overwrites`).
-/

namespace PLoadtesting.System

open Keyed Python ControlPlane Transition

/-- Every task with a result is COMPLETED or FAILED. -/
def TerminalStatus (db : Database) : Prop :=
  ∀ task ∈ db.tasks, db.hasResult task.id = true → task.status.hasEnded = true

/-- The task whose status the next step of the process saves, on the strength of
an earlier read. -/
def Process.pendingSave? : Process → Option TaskId
  | .dispatchAnswered task _ | .runningChecked task => some task.id
  | _ => none

/-- What a step of the process `p` has to wait for: a result is committed only
when no save of its task's status is outstanding, and a delivery is answered only
for a task without a result. -/
def OrderlyAt (s : State) (input : Input) : Process → Prop
  | .resultChecked task _ => ∀ p ∈ s.processes, p.pendingSave? ≠ some task.id
  | .dispatchSelected task _ => input.delivery = .answered → s.db.hasResult task.id = false
  | _ => True

/-- The condition on an event. -/
def Orderly (s : State) : Event → Prop
  | .arrive _ => True
  | .advance index input => ∀ p ∈ s.processes[index]?, OrderlyAt s input p

instance (s : State) (input : Input) (p : Process) : Decidable (OrderlyAt s input p) :=
  match p with
  | .resultChecked task _ =>
      inferInstanceAs (Decidable (∀ p ∈ s.processes, p.pendingSave? ≠ some task.id))
  | .dispatchSelected task _ =>
      inferInstanceAs (Decidable (input.delivery = .answered → s.db.hasResult task.id = false))
  | .dispatch _ | .dispatchRefreshed _ | .dispatchAnswered _ _ | .dispatchFailed _ _ | .running _
  | .runningLoaded _ | .runningChecked _ | .result _ _ | .resultLoaded _ _ | .heartbeat _ _
  | .heartbeatLoaded _ _ | .finished => .isTrue trivial

instance (s : State) (e : Event) : Decidable (Orderly s e) :=
  match e with
  | .arrive _ => .isTrue trivial
  | .advance index input =>
      inferInstanceAs (Decidable (∀ p ∈ s.processes[index]?, OrderlyAt s input p))

/-! ### What a save does to the terminal status -/

section Saves

variable {db : Database} {id : TaskId} {f : LoadTestTask → LoadTestTask}
  {keeps : ∀ task, (f task).id = task.id}

/-- Before the first result there is nothing to keep. -/
theorem TerminalStatus.of_results_eq_empty (noResults : db.results = Table.empty) :
    TerminalStatus db := by
  intro task mem hasResult
  rw [Database.hasResult, noResults] at hasResult
  cases hasResult

/-- An update keeps the terminal status if it keeps it on the row it is made
for, or that row's task has no result. -/
theorem TerminalStatus.updateTask (h : TerminalStatus db)
    (ended : db.hasResult id = true → ∀ row : LoadTestTask,
      row.status.hasEnded = true → (f row).status.hasEnded = true) :
    TerminalStatus (db.updateTask id f keeps) := by
  intro task mem hasResult
  rw [Database.hasResult_updateTask] at hasResult
  rcases Database.mem_updateTask_cases mem with ⟨row, stored, rfl, rfl⟩ | ⟨stored, _⟩
  · rw [keeps] at hasResult
    exact ended hasResult row (h row stored hasResult)
  · exact h task stored hasResult

theorem TerminalStatus.saveErrorMessage {message : String} {now : Timestamp}
    (h : TerminalStatus db) : TerminalStatus (db.saveErrorMessage id message now) :=
  h.updateTask fun _ _ ended => ended

theorem TerminalStatus.saveDispatched {worker : WorkerId} {now : Timestamp}
    (h : TerminalStatus db) (noResult : db.hasResult id = false) :
    TerminalStatus (db.saveDispatched id worker now) :=
  h.updateTask fun hasResult => absurd hasResult (by simp [noResult])

theorem TerminalStatus.saveRunning {task : LoadTestTask} {now : Timestamp}
    (h : TerminalStatus db) (noResult : db.hasResult task.id = false) :
    TerminalStatus (db.saveRunning task now) :=
  h.updateTask fun hasResult => absurd hasResult (by simp [noResult])

/-- After a commit exactly the committed task has a result in addition. -/
theorem hasResult_committed {db' : Database} {task : LoadTestTask} {report : Report}
    {registered : Except Exc Unit} {now : Timestamp} (id : TaskId)
    (commits : db.commitResult task report registered now = .ok db') :
    db'.hasResult id = (decide (id = task.id) || db.hasResult id) := by
  obtain ⟨_, rfl⟩ := commitResult_ok commits
  exact hasResult_saveFinished id

theorem TerminalStatus.commit {db' : Database} {task : LoadTestTask} {report : Report}
    {registered : Except Exc Unit} {now : Timestamp} (h : TerminalStatus db)
    (commits : db.commitResult task report registered now = .ok db') : TerminalStatus db' := by
  intro row mem hasResult
  rw [hasResult_committed row.id commits] at hasResult
  obtain ⟨_, rfl⟩ := commitResult_ok commits
  rcases Database.mem_updateTask_cases mem with ⟨old, stored, same, rfl⟩ | ⟨stored, other⟩
  · exact report.outcome_hasEnded
  · exact h row stored (by simpa [other] using hasResult)

end Saves

/-! ### The invariant -/

section Invariant

variable [Runtime]

/-- The terminal status is kept, and a save of a task's status is outstanding
only while the task has no result. -/
structure Absorbing (s : State) : Prop where
  terminal : TerminalStatus s.db
  noResult : ∀ p ∈ s.processes, ∀ id, p.pendingSave? = some id → s.db.hasResult id = false

/-- A step that is no commit keeps what results there are, so only the process
that moved has to be looked at. -/
theorem Absorbing.of_move {s t : State} {index : Nat} {input : Input} {p q : Process}
    (inv : Absorbing s) (a : Advanced s index input p q t) (terminal : TerminalStatus t.db)
    (results : ∀ id, t.db.hasResult id = s.db.hasResult id)
    (outstanding : ∀ id, q.pendingSave? = some id → s.db.hasResult id = false) :
    Absorbing t := by
  refine ⟨terminal, ?_⟩
  intro r mem id pending
  rw [results]
  rcases a.mem mem with rfl | old
  · exact outstanding id pending
  · exact inv.noResult r old id pending

/-- An orderly step preserves the invariant. -/
theorem Absorbing.step {s t : State} {e : Event} (inv : Absorbing s) (orderly : Orderly s e)
    (h : step s e = some t) : Absorbing t := by
  rcases step_cases h with ⟨p, rfl, may, rfl⟩ | ⟨index, input, p, q, rfl, a⟩
  · -- A request that has not begun has no save outstanding.
    refine ⟨inv.terminal, ?_⟩
    intro r mem id pending
    rcases List.mem_append.mp mem with old | new
    · exact inv.noResult r old id pending
    · rw [List.mem_singleton] at new
      subst new
      have isNew := (Bool.and_eq_true_iff.mp may).1
      cases r with
      | dispatchAnswered _ _ => cases isNew
      | runningChecked _ => cases isNew
      | _ => cases pending
  · have orderly := orderly p a.current
    have outstanding := inv.noResult p a.mem_current
    obtain ⟨db, processes, accepted⟩ := t
    have move : Move s.db input p q db := a.move
    cases move with
    | ended => exact inv.of_move a inv.terminal (fun _ => rfl) nofun
    | refreshed => exact inv.of_move a inv.terminal (fun _ => rfl) nofun
    | unavailable => exact inv.of_move a inv.terminal (fun _ => rfl) nofun
    | selected => exact inv.of_move a inv.terminal (fun _ => rfl) nofun
    | undelivered => exact inv.of_move a inv.terminal (fun _ => rfl) nofun
    | @answered task worker delivered =>
        have noResult := orderly (dispatchToWorker_ok delivered).1
        refine inv.of_move a inv.terminal (fun _ => rfl) ?_
        intro id pending
        cases pending
        exact noResult
    | dispatched task worker =>
        exact inv.of_move a (inv.terminal.saveDispatched (outstanding _ rfl)) (fun _ => rfl) nofun
    | noted => exact inv.of_move a inv.terminal.saveErrorMessage (fun _ => rfl) nofun
    | runningLoaded => exact inv.of_move a inv.terminal (fun _ => rfl) nofun
    | runningChecked noResult =>
        refine inv.of_move a inv.terminal (fun _ => rfl) ?_
        intro id pending
        cases pending
        exact noResult
    | started task =>
        exact inv.of_move a (inv.terminal.saveRunning (outstanding _ rfl)) (fun _ => rfl) nofun
    | resultLoaded => exact inv.of_move a inv.terminal (fun _ => rfl) nofun
    | resultChecked => exact inv.of_move a inv.terminal (fun _ => rfl) nofun
    | @committed task report _ commits =>
        -- The only step that adds a result: what is outstanding is for other tasks.
        refine ⟨inv.terminal.commit commits, ?_⟩
        intro r mem id pending
        rcases a.mem mem with rfl | old
        · cases pending
        · have other : id ≠ task.id := fun same => orderly r old (same ▸ pending)
          rw [hasResult_committed id commits]
          simpa [other] using inv.noResult r old id pending
    | heartbeatLoaded => exact inv.of_move a inv.terminal (fun _ => rfl) nofun
    | heartbeatSaved => exact inv.of_move a inv.terminal (fun _ => rfl) nofun

/-- In every orderly run from a quiet state, a task with a result stays COMPLETED
or FAILED. -/
theorem orderly_run_terminalStatus {s t : State} {es : List Event} (quiet : s.Quiet)
    (initially : TerminalStatus s.db) (run : Run step Orderly s es t) : TerminalStatus t.db := by
  have start : Absorbing s :=
    ⟨initially, fun p mem => absurd mem (by simp [quiet.1])⟩
  have preserved : ∀ s e t, Orderly s e → step s e = some t → Absorbing s → Absorbing t :=
    fun _ _ _ orderly moves inv => inv.step orderly moves
  exact (run.preserves preserved start).terminal

/-- The condition is not stronger than needed: a save that is outstanding for a
task with a result overwrites the terminal status. -/
theorem outstandingSave_overwrites {s : State} {index : Nat} {input : Input} {p : Process}
    {id : TaskId} {task : LoadTestTask} (current : s.processes[index]? = some p)
    (pending : p.pendingSave? = some id) (stored : s.db.tasks.find? id = some task)
    (hasResult : s.db.hasResult id = true) :
    ∃ t, step s (.advance index input) = some t ∧ ¬ TerminalStatus t.db := by
  have overwrites : ∀ (f : LoadTestTask → LoadTestTask) (keeps : ∀ row, (f row).id = row.id),
      (f task).status.hasEnded = false → ¬ TerminalStatus (s.db.updateTask id f keeps) := by
    intro f keeps notEnded terminal
    have updated : (s.db.updateTask id f keeps).tasks.find? id = some (f task) := by
      simp [stored]
    obtain ⟨mem, same⟩ := Table.find?_eq_some_iff.mp updated
    have ended := terminal (f task) mem (by rw [Database.hasResult_updateTask, same, hasResult])
    rw [notEnded] at ended
    cases ended
  cases p with
  | dispatchAnswered row worker =>
      cases pending
      exact ⟨_, by rw [step, current]; rfl, overwrites _ _ rfl⟩
  | runningChecked row =>
      cases pending
      exact ⟨_, by rw [step, current]; rfl, overwrites _ _ rfl⟩
  | _ => cases pending

/-! ### A late save -/

/-- The status is absorbing under every interleaving. -/
def TerminalStatusAbsorbing : Prop :=
  ∀ (s t : State) (es : List Event), s.Quiet → TerminalStatus s.db →
    exec step s es = some t → TerminalStatus t.db

end Invariant

/-- The worker runs the task and posts both callbacks while the dispatch call
that delivered it waits for its last save. -/
def lateSave : List Event :=
  [.arrive (.dispatch "t"), go 0, go 0, go 0,
    .arrive (.running "t"), go 1, go 1, go 1,
    .arrive (.result "t" emptyReport), go 2, go 2, go 2,
    go 0]

/-- The late save moves the finished task back to DISPATCHED. -/
theorem lateSave_overwrites : ¬ @TerminalStatusAbsorbing asciiRuntime := by
  let _ := asciiRuntime
  intro absorbing
  have ends : (exec step oneTask lateSave).map (fun t =>
      (t.db.hasResult "t", (t.db.tasks.find? "t").map (·.status))) =
      some (true, some .dispatched) := by decide
  obtain ⟨t, replay, ends⟩ := Option.map_eq_some_iff.mp ends
  obtain ⟨hasResult, status⟩ := Prod.mk.inj ends
  obtain ⟨task, found, status⟩ := Option.map_eq_some_iff.mp status
  obtain ⟨stored, id⟩ := Table.find?_eq_some_iff.mp found
  have quiet : oneTask.Quiet := ⟨rfl, rfl⟩
  have initially : TerminalStatus oneTask.db := .of_results_eq_empty rfl
  have ended := absorbing oneTask t lateSave quiet initially replay task stored (id ▸ hasResult)
  rw [status] at ended
  cases ended

/-- The same requests in an orderly schedule: the dispatch call saves before the
worker posts its result. -/
def savedFirst : List Event :=
  [.arrive (.dispatch "t"), go 0, go 0, go 0, go 0,
    .arrive (.running "t"), go 1, go 1, go 1,
    .arrive (.result "t" emptyReport), go 2, go 2, go 2]

theorem savedFirst_terminalStatus :
    ∃ t, @exec _ _ (@step asciiRuntime) oneTask savedFirst = some t ∧ TerminalStatus t.db := by
  let _ := asciiRuntime
  have replays : (exec (restrict step Orderly) oneTask savedFirst).isSome = true := by decide
  obtain ⟨t, replay⟩ := Option.isSome_iff_exists.mp replays
  have run := run_iff_exec_restrict.mpr replay
  have initially : TerminalStatus oneTask.db := .of_results_eq_empty rfl
  exact ⟨t, run.exec, orderly_run_terminalStatus ⟨rfl, rfl⟩ initially run⟩

end PLoadtesting.System
