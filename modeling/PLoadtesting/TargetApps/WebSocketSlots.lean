import PLoadtesting.TargetApps.WebSocketMoves

/-!
The connection slots of the WebSocket service.

`_active_connections` counts the handlers that hold a slot and those that ended
without giving theirs back. A handler ends like that when `accept()` raises, which
stands before the `try`, or when one of the two waits of the `finally` clause
raises (`LeaksSlot`). Slots are conserved exactly as long as this has not happened
(`slotsConserved_iff`).
-/

namespace PLoadtesting.TargetApps.WebSocket

open Keyed Transition

/-- The handlers that acquired a slot and have not finished. -/
def State.slotsHeld (s : State) : Nat := s.handlers.countP (·.position.holdsSlot)

/-- The handlers that finished with their slot. -/
def State.slotsLeaked (s : State) : Nat := s.handlers.countP (·.position.leaked)

/-- `_active_connections` is the number of slots held, 0 when all handlers have
finished. -/
structure SlotsConserved (s : State) : Prop where
  held : s.globals.activeConnections = s.slotsHeld
  idle : (∀ h ∈ s.handlers, h.position.holdsSlot = false) → s.globals.activeConnections = 0

/-- `accept()` raises, or a wait in the `finally` clause does. -/
def LeaksSlot (s : State) : Event → Prop
  | .resume c (.raised _) => ∃ h, s.handlers[c]? = some h ∧
      (h.position = .accepting ∨ h.position = .leaving ∨ h.position = .releasing)
  | _ => False

/-! ### One step of a handler -/

/-- The units of `_active_connections` that a handler accounts for. -/
def Position.charge (p : Position) : Nat :=
  (if p.holdsSlot then 1 else 0) + if p.leaked then 1 else 0

section Handlers

variable {self : Conn} {h h' : Handler} {o : Outcome} {g g' : Globals}

theorem charge_caught (e : Raised) : (h.caught e).position.charge = 1 := by
  rcases caught_position (h := h) e with next | next | next
  all_goals
    rw [next]
    rfl

theorem charge_fanOut (seen : Nat) (payload : Frame) (peers : List Conn) (index : Nat) :
    (h.fanOut g self seen payload peers index).1.position.charge = 1 := by
  rcases fanOut_position (h := h) (g := g) seen payload peers index with next | next | next
  all_goals
    rw [next]
    rfl

theorem active_fanOut (seen : Nat) (payload : Frame) (peers : List Conn) (index : Nat) :
    (h.fanOut g self seen payload peers index).2.activeConnections = g.activeConnections := by
  unfold Handler.fanOut
  split <;> rfl

theorem active_join (room : String) :
    (g.join self room).activeConnections = g.activeConnections := by
  unfold Globals.join
  dsimp only
  split <;> rfl

theorem active_leave (room : String) (peers : List Conn) :
    (g.leave self room peers).activeConnections = g.activeConnections := by
  unfold Globals.leave
  split <;> rfl

/-- The counter moves with the charge of the handler. -/
theorem Move.active {result : Handler × Globals} (move : Move self h o g result)
    (counted : h.position.charge ≤ g.activeConnections) :
    result.2.activeConnections + h.position.charge =
      g.activeConnections + result.1.position.charge := by
  cases move with
  | quiet quiet => simp only [quiet.active, Position.charge, quiet.slot, quiet.leaked]
  | acquired start free =>
      rw [start]
      rfl
  | joined own start space =>
      rw [active_join, start]
      rfl
  | numbered own start snapshot frame =>
      rw [active_fanOut, charge_fanOut, start]
      rfl
  | delivered start next =>
      rw [active_fanOut, charge_fanOut, start]
      rfl
  | failed start raised =>
      rw [charge_caught, start]
      rfl
  | left own start present =>
      rw [active_leave, start]
      rfl
  | absent own start absent =>
      rw [start]
      rfl
  | released start =>
      rw [start] at counted ⊢
      exact Nat.sub_add_cancel counted
  | aborted raised start =>
      rcases start with ⟨start, _⟩ | ⟨start, _⟩ | ⟨start, _⟩
      all_goals
        rw [start]
        rfl

/-- A handler that has finished takes no step. -/
theorem resume_aborted {inRoom : Bool} (start : h.position = .aborted inRoom) :
    h.resume self o g = none := by
  unfold Handler.resume
  split
  · simp [wsEcho, Handler.common, start]
  · simp [wsBroadcast, Handler.common, start]

theorem notLeaked_caught (e : Raised) : (h.caught e).position.leaked = false := by
  rcases caught_position (h := h) e with next | next | next
  all_goals
    rw [next]
    rfl

theorem notLeaked_fanOut (seen : Nat) (payload : Frame) (peers : List Conn) (index : Nat) :
    (h.fanOut g self seen payload peers index).1.position.leaked = false := by
  rcases fanOut_position (h := h) (g := g) seen payload peers index with next | next | next
  all_goals
    rw [next]
    rfl

theorem notLeaked_of_resume {result : Handler × Globals}
    (runs : h.resume self o g = some result) : h.position.leaked = false := by
  cases start : h.position with
  | aborted inRoom =>
      rw [resume_aborted start] at runs
      cases runs
  | _ => rfl

/-- A step leaks the slot exactly if the handler raises at one of the three awaits. -/
theorem leaked_iff (placed : h.WellPlaced) {result : Handler × Globals}
    (runs : h.resume self o g = some result) :
    result.1.position.leaked = true ↔ (∃ e, o = .raised e) ∧
      (h.position = .accepting ∨ h.position = .leaving ∨ h.position = .releasing) := by
  constructor
  · intro leaked
    cases resume_move placed runs with
    | quiet quiet =>
        rw [quiet.leaked, notLeaked_of_resume runs] at leaked
        cases leaked
    | aborted raised start =>
        refine ⟨⟨_, raised⟩, ?_⟩
        rcases start with ⟨start, _⟩ | ⟨start, _⟩ | ⟨start, _⟩
        · exact .inl start
        · exact .inr (.inl start)
        · exact .inr (.inr start)
    | numbered own start snapshot frame =>
        rw [notLeaked_fanOut] at leaked
        cases leaked
    | delivered start next =>
        rw [notLeaked_fanOut] at leaked
        cases leaked
    | failed start raised =>
        rw [notLeaked_caught] at leaked
        cases leaked
    | _ => cases leaked
  · rintro ⟨⟨e, rfl⟩, start | start | start⟩
    all_goals
      unfold Handler.resume at runs
      split at runs
      all_goals
        simp only [wsEcho, wsBroadcast, Handler.common, start] at runs
        cases runs
    all_goals rfl

end Handlers

/-! ### Runs -/

/-- The counter is the number of slots held or leaked. -/
structure SlotsCounted (s : State) : Prop where
  active : s.globals.activeConnections = s.slotsHeld + s.slotsLeaked
  placed : ∀ h ∈ s.handlers, h.WellPlaced

section Steps

variable {s t : State} {e : Event}

/-- Held and leaked slots, before and after a handler moved. -/
theorem slots_set {c : Conn} {h : Handler} (current : s.handlers[c]? = some h) (h' : Handler)
    (g : Globals) :
    let s' : State := ⟨g, s.handlers.set c h'⟩
    s'.slotsHeld + s'.slotsLeaked + h.position.charge =
        s.slotsHeld + s.slotsLeaked + h'.position.charge ∧
      s'.slotsLeaked + (if h.position.leaked then 1 else 0) =
        s.slotsLeaked + if h'.position.leaked then 1 else 0 := by
  have held := countP_set (p := (·.position.holdsSlot)) (y := h') current
  have leaked := countP_set (p := (·.position.leaked)) (y := h') current
  simp only [State.slotsHeld, State.slotsLeaked, Position.charge]
  omega

/-- A handler in the list is charged at most what the list is. -/
theorem charge_le {c : Conn} {h : Handler} (current : s.handlers[c]? = some h) :
    h.position.charge ≤ s.slotsHeld + s.slotsLeaked := by
  have changed := (slots_set current { h with position := .finished } s.globals).1
  have none : ({ h with position := .finished } : Handler).position.charge = 0 := rfl
  simp only [none] at changed
  omega

theorem step_resume {c : Conn} {o : Outcome} (moves : step s (.resume c o) = some t) :
    ∃ h result, s.handlers[c]? = some h ∧ h.resume c o s.globals = some result ∧
      t = ⟨result.2, s.handlers.set c result.1⟩ := by
  obtain ⟨h, current, moves⟩ := Option.bind_eq_some_iff.mp moves
  obtain ⟨result, runs, moves⟩ := Option.bind_eq_some_iff.mp moves
  exact ⟨h, result, current, runs, (Option.some.inj moves).symm⟩

theorem leaksSlot_iff {c : Conn} {h : Handler} {o : Outcome} (current : s.handlers[c]? = some h) :
    LeaksSlot s (.resume c o) ↔ (∃ e, o = .raised e) ∧
      (h.position = .accepting ∨ h.position = .leaving ∨ h.position = .releasing) := by
  cases o with
  | raised e => simp [LeaksSlot, current]
  | _ => simp [LeaksSlot]

theorem SlotsCounted.step (counted : SlotsCounted s) (moves : step s e = some t) :
    SlotsCounted t ∧ (t.slotsLeaked = 0 ↔ s.slotsLeaked = 0 ∧ ¬ LeaksSlot s e) := by
  cases e with
  | connect endpoint query =>
      cases moves
      refine ⟨⟨?_, ?_⟩, ?_⟩
      · simpa [State.slotsHeld, State.slotsLeaked, Position.holdsSlot, Position.leaked]
          using counted.active
      · intro h mem
        rcases List.mem_append.mp mem with old | new
        · exact counted.placed h old
        · rw [List.mem_singleton.mp new]
          exact ⟨fun _ => rfl, (fun _ _ _ member => by cases member), fun _ => rfl⟩
      · simp [State.slotsLeaked, Position.leaked, LeaksSlot]
  | disconnect c =>
      obtain ⟨h, current, rfl⟩ := Option.map_eq_some_iff.mp moves
      obtain ⟨total, leaks⟩ := slots_set current h.closed s.globals
      have same : h.closed.position = h.position := rfl
      rw [same] at total leaks
      refine ⟨⟨?_, ?_⟩, ?_⟩
      · have active := counted.active
        dsimp only at total ⊢
        omega
      · intro x mem
        rcases List.mem_or_eq_of_mem_set mem with old | rfl
        · exact counted.placed x old
        · have placed := counted.placed h (List.mem_of_getElem? current)
          exact ⟨placed.before, placed.member, placed.echo⟩
      · have unchanged := Nat.add_right_cancel leaks
        rw [unchanged]
        simp [LeaksSlot]
  | resume c o =>
      obtain ⟨h, result, current, runs, rfl⟩ := step_resume moves
      have placed := counted.placed h (List.mem_of_getElem? current)
      obtain ⟨total, leaks⟩ := slots_set current result.1 result.2
      have active := counted.active
      have charged := charge_le current
      have moved := (resume_move placed runs).active (by omega)
      refine ⟨⟨?_, ?_⟩, ?_⟩
      · dsimp only at total ⊢
        omega
      · intro x mem
        rcases List.mem_or_eq_of_mem_set mem with old | rfl
        · exact counted.placed x old
        · exact resume_placed placed runs
      · rw [leaksSlot_iff current, ← leaked_iff placed runs]
        rw [notLeaked_of_resume runs] at leaks
        cases leaked : result.1.position.leaked <;> simp [leaked] at leaks ⊢ <;> omega

end Steps

theorem slotsCounted_initial : SlotsCounted initial where
  active := rfl
  placed _ mem := absurd mem List.not_mem_nil

/-- Slots are conserved when none is leaked. -/
theorem SlotsCounted.conserved_iff {s : State} (counted : SlotsCounted s) :
    SlotsConserved s ↔ s.slotsLeaked = 0 := by
  have active := counted.active
  constructor
  · intro conserved
    have held := conserved.held
    omega
  · intro none
    have held : s.globals.activeConnections = s.slotsHeld := by omega
    refine ⟨held, fun finished => held.trans ?_⟩
    exact List.countP_eq_zero.mpr fun h mem => by simp [finished h mem]

/-- In every run of the service, slots are conserved exactly if no step so far has
leaked one. -/
theorem slotsConserved_iff {es : List Event} {s : State}
    (run : Run step (fun _ _ => True) initial es s) :
    SlotsConserved s ↔ Run step (fun u e => ¬ LeaksSlot u e) initial es s := by
  have counted : SlotsCounted s ∧
      (s.slotsLeaked = 0 ↔ Run step (fun u e => ¬ LeaksSlot u e) initial es s) := by
    refine run.history (P := fun es s => Run step (fun _ _ => True) initial es s ∧ SlotsCounted s ∧
      (s.slotsLeaked = 0 ↔ Run step (fun u e => ¬ LeaksSlot u e) initial es s))
      ⟨.done _, slotsCounted_initial, iff_of_true rfl (.done _)⟩ ?_ |>.2
    rintro past t e u ⟨sofar, counted, leaks⟩ _ moves
    obtain ⟨next, nextLeaks⟩ := counted.step moves
    refine ⟨sofar.append (.next trivial moves (.done u)), next, ?_⟩
    rw [nextLeaks, leaks]
    exact (sofar.concat_iff moves).symm
  exact counted.1.conserved_iff.trans counted.2

/-- One client leaves before it is accepted. -/
def failedAccept : List Event :=
  [.connect .echo ⟨true, 17⟩, .resume 0 .done, .resume 0 (.raised .disconnect)]

/-- An echo of one message, after which the client leaves. -/
def echoedOnce : List Event :=
  [.connect .echo ⟨true, 17⟩, .resume 0 .done, .resume 0 .done, .resume 0 .done,
    .resume 0 (.received "hello"), .resume 0 .done, .disconnect 0,
    .resume 0 (.raised .disconnect), .resume 0 .done]

theorem echoedOnce_conserved :
    ∃ s, Run step (fun u e => ¬ LeaksSlot u e) initial echoedOnce s ∧
      s.globals.activeConnections = 0 :=
  ⟨_, (slotsConserved_iff (run_iff_exec.mpr rfl)).mp ⟨rfl, fun _ => rfl⟩, rfl⟩

theorem failedAccept_leaks :
    ¬ ∀ es s, Run step (fun _ _ => True) initial es s → SlotsConserved s := by
  intro conserved
  have held := (conserved failedAccept _ (run_iff_exec.mpr rfl)).held
  cases held

end PLoadtesting.TargetApps.WebSocket
