import PLoadtesting.System.TerminalStatus

/-!
Booking of workers. Selection trusts `active_task_count`, which only heartbeats
write, while an assignment is recorded on the task row. The documented sequence
also adds one to the count when a task is dispatched; the code does not, so one
tick with two due tasks delivers both to the same idle worker
(`oneTick_doubleBooks`).

`countCurrent_run_noDoubleBooking` states when no worker is booked twice: at every
selection the two tables agree on who is idle, that is, a worker with a count of
zero has none of the dispatcher's tasks, and the run is orderly in the sense of
`System.TerminalStatus`.
-/

namespace PLoadtesting.System

open Keyed Python ControlPlane Transition

/-- The worker that a dispatch call has selected and not yet recorded. -/
def Process.holds? : Process → Option WorkerId
  | .dispatchSelected _ worker | .dispatchAnswered _ worker => some worker.id
  | _ => none

/-- The task and the worker of the delivery that comes next. -/
def Process.delivery? : Process → Option (TaskId × WorkerId)
  | .dispatchSelected task worker => some (task.id, worker.id)
  | _ => none

/-- Only the task `id` may be DISPATCHED or RUNNING on the worker. -/
def FreeFor (db : Database) (id : TaskId) (worker : WorkerId) : Prop :=
  ∀ task ∈ db.tasks, task.id ≠ id → task.worker = some worker → task.status.isActive = false

/-- A delivery goes to a worker that no other task occupies. -/
def NoDoubleBooking (s : State) : Prop :=
  ∀ p ∈ s.processes, ∀ id worker, p.delivery? = some (id, worker) → FreeFor s.db id worker

/-- A task keeps its worker while it is active, and afterwards with its result. -/
def Assigned (db : Database) : Prop :=
  ∀ task ∈ db.tasks, task.worker ≠ none →
    task.status.isActive = true ∨ db.hasResult task.id = true

/-- The tasks the dispatcher has put on a worker: those it is delivering or about
to record, and those DISPATCHED or RUNNING. -/
def State.bookings (s : State) (worker : WorkerId) : Nat :=
  (s.processes.filter fun p => decide (p.holds? = some worker)).length +
    (s.db.tasks.rows.filter fun task =>
      decide (task.worker = some worker) && task.status.isActive).length

/-- When a call is about to select a worker for a task, the tables agree on the
workers that could take it: one that is ONLINE with a count of zero has no
booking. -/
def CountCurrentAt (s : State) : Process → Prop
  | .dispatchRefreshed task =>
      ∀ node ∈ s.db.workers.rows, node.isIdle = true →
        (workerSupportsEngine node task.engine).toOption = some true → s.bookings node.id = 0
  | _ => True

/-- The condition on an event, with the one on saves. -/
def CountCurrent (s : State) (e : Event) : Prop :=
  Orderly s e ∧
    match e with
    | .arrive _ => True
    | .advance index _ => ∀ p ∈ s.processes[index]?, CountCurrentAt s p

instance (s : State) (p : Process) : Decidable (CountCurrentAt s p) := by
  unfold CountCurrentAt
  split
  · infer_instance
  · infer_instance

instance (s : State) (e : Event) : Decidable (CountCurrent s e) :=
  match e with
  | .arrive process => inferInstanceAs (Decidable (Orderly s (.arrive process) ∧ True))
  | .advance index input =>
      inferInstanceAs (Decidable (Orderly s (.advance index input) ∧
        ∀ p ∈ s.processes[index]?, CountCurrentAt s p))

/-- A worker without bookings is free for any task, and no call holds it. -/
theorem free_of_bookings_eq_zero {s : State} {worker : WorkerId} (h : s.bookings worker = 0) :
    (∀ p ∈ s.processes, p.holds? ≠ some worker) ∧ ∀ id, FreeFor s.db id worker := by
  unfold State.bookings at h
  obtain ⟨noCalls, noTasks⟩ := Nat.add_eq_zero_iff.mp h
  rw [List.length_eq_zero_iff, List.filter_eq_nil_iff] at noCalls noTasks
  refine ⟨fun p mem holds => noCalls p mem (decide_eq_true holds), ?_⟩
  intro id task mem _ assigned
  have := noTasks task mem
  simpa [assigned] using this

/-! ### What a save does to the bookings -/

section Saves

variable {db : Database} {id id' : TaskId} {worker : WorkerId} {f : LoadTestTask → LoadTestTask}
  {keeps : ∀ task, (f task).id = task.id}

/-- An update keeps a worker free if the updated task is not put on it. -/
theorem FreeFor.updateTask (h : FreeFor db id worker)
    (spares : ∀ row ∈ db.tasks, row.id = id' → (f row).worker = some worker →
      (f row).status.isActive = true → row.worker = some worker ∧ row.status.isActive = true) :
    FreeFor (db.updateTask id' f keeps) id worker := by
  intro task mem other assigned
  rcases Database.mem_updateTask_cases mem with ⟨row, stored, same, rfl⟩ | ⟨stored, _⟩
  · cases active : (f row).status.isActive with
    | false => rfl
    | true =>
        obtain ⟨wasAssigned, wasActive⟩ := spares row stored same assigned active
        rw [keeps] at other
        rw [h row stored other wasAssigned] at wasActive
        cases wasActive
  · exact h task stored other assigned

theorem Assigned.updateTask (h : Assigned db)
    (keepsAssigned : ∀ row ∈ db.tasks, row.id = id' → (f row).worker ≠ none →
      (f row).status.isActive = true ∨ db.hasResult id' = true) :
    Assigned (db.updateTask id' f keeps) := by
  intro task mem assigned
  rw [Database.hasResult_updateTask]
  rcases Database.mem_updateTask_cases mem with ⟨row, stored, rfl, rfl⟩ | ⟨stored, _⟩
  · rw [keeps]
    exact keepsAssigned row stored rfl assigned
  · exact h task stored assigned

theorem FreeFor.saveErrorMessage {message : String} {now : Timestamp}
    (h : FreeFor db id worker) : FreeFor (db.saveErrorMessage id' message now) id worker :=
  h.updateTask fun _ _ _ assigned active => ⟨assigned, active⟩

theorem FreeFor.saveDispatched {taken : WorkerId} {now : Timestamp} (h : FreeFor db id worker)
    (other : taken ≠ worker) : FreeFor (db.saveDispatched id' taken now) id worker :=
  h.updateTask fun _ _ _ assigned _ => absurd (Option.some.inj assigned) other

/-- The running callback of an assigned task without a result finds it active. -/
theorem FreeFor.saveRunning {task : LoadTestTask} {now : Timestamp} (h : FreeFor db id worker)
    (assigned : Assigned db) (noResult : db.hasResult task.id = false) :
    FreeFor (db.saveRunning task now) id worker := by
  refine h.updateTask fun row stored same isAssigned _ => ⟨isAssigned, ?_⟩
  have hasWorker : row.worker ≠ none := by
    intro none
    have : row.worker = some worker := isAssigned
    rw [none] at this
    cases this
  rcases assigned row stored hasWorker with active | hasResult
  · exact active
  · rw [same, noResult] at hasResult
    cases hasResult

/-- The result callback takes its task off the worker. -/
theorem FreeFor.commit {db' : Database} {task : LoadTestTask} {report : Report}
    {registered : Except Exc Unit} {now : Timestamp} (h : FreeFor db id worker)
    (commits : db.commitResult task report registered now = .ok db') : FreeFor db' id worker := by
  obtain ⟨_, rfl⟩ := commitResult_ok commits
  refine FreeFor.updateTask (fun row mem => h row mem) ?_
  intro row _ _ _ active
  have ended : (if report.failed then TaskStatus.failed else .completed).isActive = true := active
  cases hf : report.failed with
  | true => simp [hf, TaskStatus.isActive] at ended
  | false => simp [hf, TaskStatus.isActive] at ended

theorem Assigned.saveErrorMessage {message : String} {now : Timestamp} (h : Assigned db) :
    Assigned (db.saveErrorMessage id message now) :=
  h.updateTask fun row stored same assigned => same ▸ h row stored assigned

theorem Assigned.saveDispatched {taken : WorkerId} {now : Timestamp} (h : Assigned db) :
    Assigned (db.saveDispatched id taken now) :=
  h.updateTask fun _ _ _ _ => .inl rfl

theorem Assigned.saveRunning {task : LoadTestTask} {now : Timestamp} (h : Assigned db) :
    Assigned (db.saveRunning task now) :=
  h.updateTask fun _ _ _ _ => .inl rfl

theorem Assigned.commit {db' : Database} {task : LoadTestTask} {report : Report}
    {registered : Except Exc Unit} {now : Timestamp} (h : Assigned db)
    (commits : db.commitResult task report registered now = .ok db') : Assigned db' := by
  intro row mem assigned
  rw [hasResult_committed row.id commits]
  obtain ⟨_, rfl⟩ := commitResult_ok commits
  rcases Database.mem_updateTask_cases mem with ⟨old, stored, same, rfl⟩ | ⟨stored, _⟩
  · exact .inr (by simp [same])
  · rcases h row stored assigned with active | hasResult
    · exact .inl active
    · have : db.hasResult row.id = true := hasResult
      exact .inr (by simp [this])

end Saves

section Invariant

variable [Runtime]

/-- What is kept besides `Absorbing`: a worker is held by one call at a time, and
a selected one is free. -/
structure Booked (s : State) : Prop where
  absorbing : Absorbing s
  assigned : Assigned s.db
  sole : Sole Process.holds? s.processes
  free : NoDoubleBooking s

omit [Runtime] in
theorem holds_of_delivery {p : Process} {id : TaskId} {worker : WorkerId}
    (next : p.delivery? = some (id, worker)) : p.holds? = some worker := by
  cases p with
  | dispatchSelected _ _ =>
      cases next
      rfl
  | _ => cases next

/-- A step that selects no worker. The tasks it saves keep the held workers
free. -/
theorem Booked.of_move {s t : State} {index : Nat} {input : Input} {p q : Process}
    (inv : Booked s) (a : Advanced s index input p q t) (absorbing : Absorbing t)
    (assigned : Assigned t.db) (holds : q.holds? = none ∨ q.holds? = p.holds?)
    (silent : q.delivery? = none)
    (keepsFree : ∀ id worker, Process.holds? p ≠ some worker → FreeFor s.db id worker →
      FreeFor t.db id worker) :
    Booked t := by
  refine ⟨absorbing, assigned, ?_, ?_⟩
  · rw [a.processes_eq]
    refine inv.sole.set a.current ?_
    intro w hw
    rcases holds with none | same
    · rw [none] at hw
      cases hw
    · exact .inl (same ▸ hw)
  · intro r mem id worker next
    obtain ⟨j, hj⟩ := List.mem_iff_getElem?.mp mem
    rw [a.processes_eq] at hj
    by_cases here : index = j
    · subst here
      rw [List.getElem?_set_self (List.getElem?_eq_some_iff.mp a.current).1] at hj
      rw [← Option.some.inj hj, silent] at next
      cases next
    · rw [List.getElem?_set_ne here] at hj
      -- The call that moved holds another worker.
      have other : p.holds? ≠ some worker := fun held =>
        here (inv.sole index j p r worker a.current hj held (holds_of_delivery next))
      exact keepsFree id worker other (inv.free r (List.mem_of_getElem? hj) id worker next)

/-- A selection from a current count takes a worker that is free. -/
theorem Booked.selected {s t : State} {index : Nat} {input : Input} {task : LoadTestTask}
    {worker : WorkerNode} (inv : Booked s) (absorbing : Absorbing t)
    (a : Advanced s index input (.dispatchRefreshed task) (.dispatchSelected task worker) t)
    (same : t.db = s.db) (unbooked : s.bookings worker.id = 0) : Booked t := by
  obtain ⟨unheld, free⟩ := free_of_bookings_eq_zero unbooked
  refine ⟨absorbing, same ▸ inv.assigned, ?_, ?_⟩
  · rw [a.processes_eq]
    refine inv.sole.set a.current fun w hw => .inr ?_
    cases hw
    exact unheld
  · intro r mem id w next
    rw [same]
    rcases a.mem mem with rfl | old
    · cases next
      exact free task.id
    · exact inv.free r old id w next

/-- A step under the condition preserves the invariant. -/
theorem Booked.step {s t : State} {e : Event} (inv : Booked s) (current : CountCurrent s e)
    (h : step s e = some t) : Booked t := by
  have absorbing := inv.absorbing.step current.1 h
  rcases step_cases h with ⟨p, rfl, may, rfl⟩ | ⟨index, input, p, q, rfl, a⟩
  · -- A request that has not begun holds no worker.
    have isNew := (Bool.and_eq_true_iff.mp may).1
    have notHolding : p.holds? = none := by
      cases p with
      | dispatchSelected _ _ => cases isNew
      | dispatchAnswered _ _ => cases isNew
      | _ => rfl
    refine ⟨absorbing, inv.assigned, inv.sole.concat notHolding, ?_⟩
    intro r mem id w next
    rcases List.mem_append.mp mem with old | new
    · exact inv.free r old id w next
    · rw [List.mem_singleton.mp new] at next
      rw [holds_of_delivery next] at notHolding
      cases notHolding
  · have count := current.2 p a.current
    have outstanding := inv.absorbing.noResult p a.mem_current
    obtain ⟨db, processes, accepted⟩ := t
    have move : Move s.db input p q db := a.move
    cases move with
    | selected found =>
        obtain ⟨stored, idle, supports⟩ := selectAvailableWorker_some found
        have mem := (Table.find?_eq_some_iff.mp stored).1
        exact inv.selected absorbing a rfl (count _ mem idle (toOption_eq_some_iff.mpr supports))
    | answered =>
        exact inv.of_move a absorbing inv.assigned (.inr rfl) rfl fun _ _ _ free => free
    | dispatched task worker =>
        exact inv.of_move a absorbing inv.assigned.saveDispatched (.inl rfl) rfl
          fun _ _ other free => free.saveDispatched fun same => other (congrArg some same)
    | noted =>
        exact inv.of_move a absorbing inv.assigned.saveErrorMessage (.inl rfl) rfl
          fun _ _ _ free => free.saveErrorMessage
    | started task =>
        exact inv.of_move a absorbing inv.assigned.saveRunning (.inl rfl) rfl
          fun _ _ _ free => free.saveRunning inv.assigned (outstanding task.id rfl)
    | committed commits =>
        exact inv.of_move a absorbing (inv.assigned.commit commits) (.inl rfl) rfl
          fun _ _ _ free => free.commit commits
    | _ => exact inv.of_move a absorbing inv.assigned (.inl rfl) rfl fun _ _ _ free => free

/-- In every run from a quiet state whose steps meet the condition, no task is
delivered to a worker that another task occupies. -/
theorem countCurrent_run_noDoubleBooking {s t : State} {es : List Event} (quiet : s.Quiet)
    (initially : TerminalStatus s.db) (assigned : Assigned s.db)
    (run : Run step CountCurrent s es t) : NoDoubleBooking t := by
  have none : ∀ p, p ∉ s.processes := fun p => by simp [quiet.1]
  have start : Booked s := by
    refine ⟨⟨initially, fun p mem => absurd mem (none p)⟩, assigned, quiet.1 ▸ sole_nil, ?_⟩
    exact fun p mem => absurd mem (none p)
  have preserved : ∀ s e t, CountCurrent s e → step s e = some t → Booked s → Booked t :=
    fun _ _ _ current moves inv => inv.step current moves
  exact (run.preserves preserved start).free

/-! ### One tick -/

/-- No run of ticks, heartbeats and callbacks books a worker twice. -/
def WorkersBookedOnce : Prop :=
  ∀ (s t : State) (es : List Event), s.Quiet → TerminalStatus s.db → Assigned s.db →
    exec step s es = some t → NoDoubleBooking t

end Invariant

theorem twoTasks_assigned : Assigned twoTasks.db := by
  intro task mem hasWorker
  have unassigned : ∀ row ∈ twoTasks.db.tasks.rows, row.worker = none := by
    simp [twoTasks, pendingTask]
  exact absurd (unassigned task mem) hasWorker

/-- One tick over two due tasks, up to the second delivery. -/
def oneTick : List Event :=
  [.arrive (.dispatch "t"), go 0, go 0, go 0, go 0, .arrive (.dispatch "u"), go 1, go 1]

/-- The tick is about to deliver the second task to the worker that has the
first. -/
theorem oneTick_doubleBooks : ¬ @WorkersBookedOnce asciiRuntime := by
  let _ := asciiRuntime
  intro bookedOnce
  have ends : (exec step twoTasks oneTick).map (fun t =>
      ((t.processes[1]?).bind Process.delivery?,
        (t.db.tasks.find? "t").map fun task => (task.worker, task.status))) =
      some (some ("u", "w"), some (some "w", .dispatched)) := by decide
  obtain ⟨t, replay, ends⟩ := Option.map_eq_some_iff.mp ends
  obtain ⟨next, row⟩ := Prod.mk.inj ends
  obtain ⟨p, current, next⟩ := Option.bind_eq_some_iff.mp next
  obtain ⟨task, found, row⟩ := Option.map_eq_some_iff.mp row
  obtain ⟨worker, status⟩ := Prod.mk.inj row
  obtain ⟨stored, id⟩ := Table.find?_eq_some_iff.mp found
  have initially : TerminalStatus twoTasks.db := .of_results_eq_empty rfl
  have free := bookedOnce twoTasks t oneTick ⟨rfl, rfl⟩ initially twoTasks_assigned replay
    p (List.mem_of_getElem? current) "u" "w" next task stored (by rw [id]; decide) worker
  rw [status] at free
  cases free

/-- The tick over the first task only, with a heartbeat that reports it before
the next tick. -/
def reportedFirst : List Event :=
  [.arrive (.dispatch "t"), go 0, go 0, go 0, go 0,
    .arrive (.heartbeat "w" ⟨.busy, some 1, none⟩), go 1, go 1,
    .arrive (.dispatch "u"), go 2, go 2, go 2]

theorem reportedFirst_noDoubleBooking :
    ∃ t, @exec _ _ (@step asciiRuntime) twoTasks reportedFirst = some t ∧ NoDoubleBooking t ∧
      t.accepted = [("t", "w")] := by
  let _ := asciiRuntime
  have ends : (exec (restrict step CountCurrent) twoTasks reportedFirst).map (·.accepted) =
      some [("t", "w")] := by decide
  obtain ⟨t, replay, ends⟩ := Option.map_eq_some_iff.mp ends
  have run := run_iff_exec_restrict.mpr replay
  have initially : TerminalStatus twoTasks.db := .of_results_eq_empty rfl
  exact ⟨t, run.exec,
    countCurrent_run_noDoubleBooking ⟨rfl, rfl⟩ initially twoTasks_assigned run, ends⟩

end PLoadtesting.System
