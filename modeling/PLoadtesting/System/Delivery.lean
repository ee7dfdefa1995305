import PLoadtesting.System.Interleaving

/-!
At-most-once delivery. Nothing makes the PENDING check, the delivery and the
DISPATCHED save of a dispatch call one step, and a delivery whose answer is lost
leaves the task PENDING to be tried again. A task can therefore be accepted twice
when an answer is lost (`lostAnswer_accepted_twice`) or two calls overlap, and is
accepted at most once otherwise (`exclusive_run_acceptedOnce`).
-/

namespace PLoadtesting.System

open Keyed Python ControlPlane Transition

/-- The task of a dispatch call between its read and its last save. -/
def Process.openCall? : Process → Option TaskId
  | .dispatchRefreshed task | .dispatchSelected task _ | .dispatchAnswered task _ => some task.id
  | _ => none

/-- The task of a dispatch call that may still deliver. -/
def Process.undelivered? : Process → Option TaskId
  | .dispatchRefreshed task | .dispatchSelected task _ => some task.id
  | _ => none

/-- The task of a dispatch call whose delivery was answered. -/
def Process.answered? : Process → Option TaskId
  | .dispatchAnswered task _ => some task.id
  | _ => none

/-- Calls for one task do not overlap, and no answer is lost. -/
def ExclusiveAt (s : State) (input : Input) : Process → Prop
  | .dispatch id => ∀ p ∈ s.processes, p.openCall? ≠ some id
  | .dispatchSelected _ _ => input.delivery.accepted = true → input.delivery = .answered
  | _ => True

/-- The condition on an event. -/
def Exclusive (s : State) : Event → Prop
  | .arrive _ => True
  | .advance index input => ∀ p ∈ s.processes[index]?, ExclusiveAt s input p

instance (s : State) (input : Input) (p : Process) : Decidable (ExclusiveAt s input p) :=
  match p with
  | .dispatch id => inferInstanceAs (Decidable (∀ p ∈ s.processes, p.openCall? ≠ some id))
  | .dispatchSelected _ _ =>
      inferInstanceAs (Decidable (input.delivery.accepted = true → input.delivery = .answered))
  | .dispatchRefreshed _ | .dispatchAnswered _ _ | .dispatchFailed _ _ | .running _
  | .runningLoaded _ | .runningChecked _ | .result _ _ | .resultLoaded _ _ | .resultChecked _ _
  | .heartbeat _ _ | .heartbeatLoaded _ _ | .finished => .isTrue trivial

instance (s : State) (e : Event) : Decidable (Exclusive s e) :=
  match e with
  | .arrive _ => .isTrue trivial
  | .advance index input =>
      inferInstanceAs (Decidable (∀ p ∈ s.processes[index]?, ExclusiveAt s input p))

/-- No worker accepts a task twice, and no two workers accept it. -/
def AcceptedOnce (s : State) : Prop := (s.accepted.map Prod.fst).Nodup

/-! ### PENDING is never entered again -/

/-- The task is not PENDING. -/
def Left (db : Database) (id : TaskId) : Prop :=
  ∀ task ∈ db.tasks, task.id = id → task.status ≠ .pending

theorem Left.updateTask {db : Database} {id id' : TaskId} {f : LoadTestTask → LoadTestTask}
    {keeps : ∀ task, (f task).id = task.id} (h : Left db id)
    (leaves : ∀ row : LoadTestTask, row.status ≠ .pending → (f row).status ≠ .pending) :
    Left (db.updateTask id' f keeps) id := by
  intro task mem same
  rcases Database.mem_updateTask_cases mem with ⟨row, stored, _, rfl⟩ | ⟨stored, _⟩
  · exact leaves row (h row stored ((keeps row).symm.trans same))
  · exact h task stored same

/-- A dispatched task is not PENDING. -/
theorem left_saveDispatched {db : Database} {id : TaskId} {worker : WorkerId} {now : Timestamp} :
    Left (db.saveDispatched id worker now) id := by
  intro task mem same
  rcases Database.mem_updateTask_cases mem with ⟨row, _, _, rfl⟩ | ⟨_, other⟩
  · exact nofun
  · exact absurd same other

section Invariant

variable [Runtime]

theorem Left.move {db db' : Database} {input : Input} {p q : Process} {id : TaskId}
    (h : Left db id) (move : Move db input p q db') : Left db' id := by
  cases move with
  | dispatched => exact h.updateTask fun _ _ => nofun
  | noted => exact h.updateTask fun _ left => left
  | started => exact h.updateTask fun _ _ => nofun
  | committed commits =>
      obtain ⟨_, rfl⟩ := commitResult_ok commits
      refine Left.updateTask (fun task mem same => h task mem same) ?_
      intro _ _
      split <;> exact nofun
  | _ => exact h

/-! ### The invariant -/

/-- One call at a time is open for a task, a call that may still deliver is for
a task nobody accepted, and an accepted task has its answered call or is not
PENDING any more. -/
structure DeliveredOnce (s : State) : Prop where
  single : Sole Process.openCall? s.processes
  fresh : ∀ p ∈ s.processes, ∀ id, p.undelivered? = some id → id ∉ s.accepted.map Prod.fst
  settled : ∀ id ∈ s.accepted.map Prod.fst,
    (∃ p ∈ s.processes, p.answered? = some id) ∨ Left s.db id
  once : AcceptedOnce s

/-- A step that delivers nothing, opens no call and answers none. -/
theorem DeliveredOnce.of_move {s t : State} {index : Nat} {input : Input} {p q : Process}
    (inv : DeliveredOnce s) (a : Advanced s index input p q t)
    (silent : acceptance input p = []) (opens : ∀ id, q.openCall? = some id → p.openCall? = some id)
    (delivers : ∀ id, q.undelivered? = some id → p.undelivered? = some id)
    (answered : ∀ id, p.answered? = some id → Left t.db id) : DeliveredOnce t := by
  have accepted_eq : t.accepted = s.accepted := by rw [a.accepted_eq, silent, List.append_nil]
  refine ⟨?_, ?_, ?_, ?_⟩
  · rw [a.processes_eq]
    exact inv.single.set a.current fun id hid => .inl (opens id hid)
  · intro r mem id hid
    rw [accepted_eq]
    rcases a.mem mem with rfl | old
    · exact inv.fresh p a.mem_current id (delivers id hid)
    · exact inv.fresh r old id hid
  · intro id mem
    rw [accepted_eq] at mem
    rcases inv.settled id mem with ⟨r, old, hid⟩ | left
    · by_cases moved : r = p
      · exact .inr (answered id (moved ▸ hid))
      · rw [a.processes_eq]
        exact .inl ⟨r, mem_set_of_ne a.current old moved, hid⟩
    · exact .inr (left.move a.move)
  · rw [AcceptedOnce, accepted_eq]
    exact inv.once

/-- The call that reads the PENDING row is the only one open for the task. -/
theorem DeliveredOnce.refreshed {s t : State} {index : Nat} {input : Input} {id : TaskId}
    {task : LoadTestTask} (inv : DeliveredOnce s)
    (a : Advanced s index input (.dispatch id) (.dispatchRefreshed task) t) (same : t.db = s.db)
    (stored : s.db.tasks.find? id = some task) (pending : task.status = .pending)
    (alone : ∀ p ∈ s.processes, p.openCall? ≠ some id) : DeliveredOnce t := by
  obtain ⟨mem, rfl⟩ := Table.find?_eq_some_iff.mp stored
  have accepted_eq : t.accepted = s.accepted := a.accepted_eq.trans (List.append_nil _)
  have unaccepted : task.id ∉ s.accepted.map Prod.fst := by
    intro accepted
    rcases inv.settled task.id accepted with ⟨r, old, hid⟩ | left
    · refine alone r old ?_
      cases r with
      | dispatchAnswered _ _ => exact hid
      | _ => cases hid
    · exact left task mem rfl pending
  refine ⟨?_, ?_, ?_, ?_⟩
  · rw [a.processes_eq]
    refine inv.single.set a.current fun k hk => .inr ?_
    cases hk
    exact alone
  · intro r hr id hid
    rw [accepted_eq]
    rcases a.mem hr with rfl | old
    · cases hid
      exact unaccepted
    · exact inv.fresh r old id hid
  · intro id hid
    rw [accepted_eq] at hid
    rcases inv.settled id hid with ⟨r, old, answered⟩ | left
    · have moved : r ≠ .dispatch task.id := by
        rintro rfl
        cases answered
      rw [a.processes_eq]
      exact .inl ⟨r, mem_set_of_ne a.current old moved, answered⟩
    · exact .inr (same ▸ left)
  · rw [AcceptedOnce, accepted_eq]
    exact inv.once

/-- A delivery that is answered adds the first acceptance of its task. -/
theorem DeliveredOnce.answered {s t : State} {index : Nat} {input : Input} {task : LoadTestTask}
    {worker : WorkerNode} (inv : DeliveredOnce s)
    (a : Advanced s index input (.dispatchSelected task worker) (.dispatchAnswered task worker) t)
    (same : t.db = s.db) (delivered : dispatchToWorker task input.delivery = .ok ()) :
    DeliveredOnce t := by
  have unaccepted := inv.fresh _ a.mem_current task.id rfl
  have accepted_eq : t.accepted.map Prod.fst = s.accepted.map Prod.fst ++ [task.id] := by
    rw [a.accepted_eq, acceptance, if_pos (dispatchToWorker_ok delivered).2, List.map_append]
    rfl
  refine ⟨?_, ?_, ?_, ?_⟩
  · rw [a.processes_eq]
    exact inv.single.set a.current fun id hid => .inl hid
  · intro r mem id hid accepted
    rw [accepted_eq, List.mem_append, List.mem_singleton] at accepted
    -- Where the other process stands: at another index, so it holds another task.
    obtain ⟨j, hj⟩ := List.mem_iff_getElem?.mp mem
    rw [a.processes_eq] at hj
    by_cases here : index = j
    · subst here
      rw [List.getElem?_set_self (List.getElem?_eq_some_iff.mp a.current).1] at hj
      cases hj
      cases hid
    · rw [List.getElem?_set_ne here] at hj
      have isOpen : r.openCall? = some id := by
        cases r with
        | dispatchRefreshed _ => exact hid
        | dispatchSelected _ _ => exact hid
        | _ => cases hid
      rcases accepted with old | rfl
      · exact inv.fresh r (List.mem_of_getElem? hj) id hid old
      · exact here (inv.single index j _ r task.id a.current hj rfl isOpen)
  · intro id hid
    rw [accepted_eq, List.mem_append, List.mem_singleton] at hid
    rw [a.processes_eq]
    rcases hid with old | rfl
    · rcases inv.settled id old with ⟨r, mem, answered⟩ | left
      · have moved : r ≠ .dispatchSelected task worker := by
          rintro rfl
          cases answered
        exact .inl ⟨r, mem_set_of_ne a.current mem moved, answered⟩
      · exact .inr (same ▸ left)
    · have inside := (List.getElem?_eq_some_iff.mp a.current).1
      exact .inl ⟨_, List.mem_of_getElem? (List.getElem?_set_self inside), rfl⟩
  · rw [AcceptedOnce, accepted_eq, List.nodup_append]
    refine ⟨inv.once, List.nodup_singleton _, ?_⟩
    intro id old id' new
    rw [List.mem_singleton] at new
    rintro rfl
    exact unaccepted (new ▸ old)

/-- A delivery that fails under the condition was not accepted. -/
theorem acceptance_eq_nil {input : Input} {task : LoadTestTask} {worker : WorkerNode}
    {text : String} (failed : dispatchToWorker task input.delivery = .error text)
    (noLoss : input.delivery.accepted = true → input.delivery = .answered) :
    acceptance input (.dispatchSelected task worker) = [] := by
  refine if_neg ?_
  intro delivered
  obtain ⟨built, accepted⟩ := Bool.and_eq_true_iff.mp delivered
  rw [noLoss accepted] at failed
  unfold dispatchToWorker at failed
  split at failed
  · rename_i notBuilt
    rw [notBuilt] at built
    cases built
  · cases failed

/-- A step under the condition preserves the invariant. -/
theorem DeliveredOnce.step {s t : State} {e : Event} (inv : DeliveredOnce s)
    (exclusive : Exclusive s e) (h : step s e = some t) : DeliveredOnce t := by
  rcases step_cases h with ⟨p, rfl, may, rfl⟩ | ⟨index, input, p, q, rfl, a⟩
  · -- A request that has not begun holds nothing.
    have isNew := (Bool.and_eq_true_iff.mp may).1
    have holds : p.openCall? = none ∧ p.undelivered? = none := by
      cases p with
      | dispatch _ => exact ⟨rfl, rfl⟩
      | running _ => exact ⟨rfl, rfl⟩
      | result _ _ => exact ⟨rfl, rfl⟩
      | heartbeat _ _ => exact ⟨rfl, rfl⟩
      | _ => cases isNew
    refine ⟨inv.single.concat holds.1, ?_, ?_, inv.once⟩
    · intro r mem id hid
      rcases List.mem_append.mp mem with old | new
      · exact inv.fresh r old id hid
      · rw [List.mem_singleton.mp new, holds.2] at hid
        cases hid
    · intro id hid
      rcases inv.settled id hid with ⟨r, old, answered⟩ | left
      · exact .inl ⟨r, List.mem_append_left _ old, answered⟩
      · exact .inr left
  · have condition := exclusive p a.current
    obtain ⟨db, processes, accepted⟩ := t
    have move : Move s.db input p q db := a.move
    cases move with
    | refreshed stored pending => exact inv.refreshed a rfl stored pending condition
    | answered delivered => exact inv.answered a rfl delivered
    | undelivered failed =>
        exact inv.of_move a (acceptance_eq_nil failed condition) nofun nofun nofun
    | dispatched task worker =>
        refine inv.of_move a rfl nofun nofun ?_
        intro id hid
        cases hid
        exact left_saveDispatched
    | ended may =>
        refine inv.of_move a ?_ nofun nofun ?_
        · cases p with
          | dispatchSelected _ _ => cases may
          | _ => rfl
        · intro id hid
          cases p with
          | dispatchAnswered _ _ => cases may
          | _ => cases hid
    | selected => exact inv.of_move a rfl (fun _ h => h) (fun _ h => h) nofun
    | unavailable => exact inv.of_move a rfl nofun nofun nofun
    | _ => exact inv.of_move a rfl nofun nofun nofun

/-- At most one request for a task is accepted in every run in which calls for
one task do not overlap and no answer is lost. -/
theorem exclusive_run_acceptedOnce {s t : State} {es : List Event} (quiet : s.Quiet)
    (run : Run step Exclusive s es t) : AcceptedOnce t := by
  obtain ⟨noProcesses, noAccepted⟩ := quiet
  have start : DeliveredOnce s := by
    refine ⟨noProcesses ▸ sole_nil, ?_, ?_, ?_⟩
    · intro p mem
      exact absurd mem (by simp [noProcesses])
    · intro id mem
      exact absurd mem (by simp [noAccepted])
    · simp [AcceptedOnce, noAccepted]
  have preserved : ∀ s e t, Exclusive s e → step s e = some t → DeliveredOnce s → DeliveredOnce t :=
    fun _ _ _ exclusive moves inv => inv.step exclusive moves
  exact (run.preserves preserved start).once

/-! ### Two acceptances -/

/-- A task is accepted at most once under every interleaving and every fate of
its deliveries. -/
def AtMostOnceDelivery : Prop :=
  ∀ (s t : State) (es : List Event), s.Quiet → exec step s es = some t → AcceptedOnce t

end Invariant

/-- The worker accepts the task but the answer is lost; the next tick tries
again. -/
def lostAnswer : List Event :=
  [.arrive (.dispatch "t"), go 0, go 0, .advance 0 ⟨1, .answerLost "timed out", .ok ()⟩, go 0,
    .arrive (.dispatch "t"), go 1, go 1, go 1, go 1]

theorem lostAnswer_accepted_twice : ¬ @AtMostOnceDelivery asciiRuntime := by
  let _ := asciiRuntime
  intro atMostOnce
  have ends : (exec step oneTask lostAnswer).map (·.accepted) = some [("t", "w"), ("t", "w")] := by
    decide
  obtain ⟨t, replay, ends⟩ := Option.map_eq_some_iff.mp ends
  have once := atMostOnce oneTask t lostAnswer ⟨rfl, rfl⟩ replay
  rw [AcceptedOnce, ends] at once
  exact absurd once (by decide)

/-- Two ticks both read the task before either saves: the answers arrive, and the
task is accepted twice. -/
def overlappingTicks : List Event :=
  [.arrive (.dispatch "t"), .arrive (.dispatch "t"), go 0, go 1, go 0, go 1, go 0, go 1, go 0, go 1]

example : (@exec _ _ (@step asciiRuntime) oneTask overlappingTicks).map (·.accepted) =
    some [("t", "w"), ("t", "w")] := by
  decide

/-- Two ticks, one after the other, of which the second finds the task
dispatched. -/
def ticksInTurn : List Event :=
  [.arrive (.dispatch "t"), go 0, go 0, go 0, go 0, .arrive (.dispatch "t"), go 1]

theorem ticksInTurn_acceptedOnce :
    ∃ t, @exec _ _ (@step asciiRuntime) oneTask ticksInTurn = some t ∧ AcceptedOnce t ∧
      t.accepted = [("t", "w")] := by
  let _ := asciiRuntime
  have ends : (exec (restrict step Exclusive) oneTask ticksInTurn).map (·.accepted) =
      some [("t", "w")] := by decide
  obtain ⟨t, replay, ends⟩ := Option.map_eq_some_iff.mp ends
  have run := run_iff_exec_restrict.mpr replay
  exact ⟨t, run.exec, exclusive_run_acceptedOnce ⟨rfl, rfl⟩ run, ends⟩

end PLoadtesting.System
