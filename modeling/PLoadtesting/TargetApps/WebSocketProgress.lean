import PLoadtesting.TargetApps.WebSocketFanOut

/-!
The WebSocket handlers come to an end.

Each await that a handler completes lowers its `potential`, so a handler passes at most
`awaitLimit` awaits, whatever others do. The room lock is held only while a client that
found its room full is turned away, so no handler waits for ever: the service can always
be brought to a state in which all handlers are over, without any exception, and if no
slot was leaked before, that state has no connection and no room (`service_drains`).
-/

namespace PLoadtesting.TargetApps.WebSocket

open Keyed Transition

/-! ### How far a handler is -/

def Position.isOver : Position → Bool
  | .finished | .aborted _ => true
  | _ => false

/-- The awaits that are left once so many messages were seen. -/
def loopPotential (seen : Nat) : Nat :=
  6 + (maxMessagesPerConnection - seen) * (maxRoomSize + 2)

/-- The awaits that are left at most. -/
def Position.potential : Position → Nat
  | .acquiring => loopPotential 0 + 4
  | .accepting => loopPotential 0 + 3
  | .joining => loopPotential 0 + 2
  | .welcoming _ => loopPotential 0 + 1
  | .receiving seen => loopPotential seen
  | .echoing seen _ => loopPotential seen + 1
  | .sequencing seen _ => loopPotential seen + maxRoomSize + 1
  | .sending seen _ peers index => loopPotential seen + (peers.length - index)
  | .limiting _ => 5
  | .refusing | .closingOversize | .closing => 4
  | .closingIdle => 3
  | .leaving => 2
  | .rejecting | .releasing => 1
  | .finished | .aborted _ => 0

/-- The awaits that a handler passes at most. -/
def awaitLimit : Nat := loopPotential 0 + 4

/-- The endpoint has the position, and its local variables are in their bounds. -/
def Handler.Fits (h : Handler) : Prop :=
  match h.position with
  | .receiving seen => seen < maxMessagesPerConnection
  | .echoing .. => h.endpoint = .echo
  | .joining | .refusing | .sequencing .. | .leaving => h.endpoint ≠ .echo
  | .sending _ _ peers index =>
      h.endpoint ≠ .echo ∧ index < peers.length ∧ peers.length ≤ maxRoomSize
  | _ => True

/-- What a step does to the room lock. -/
inductive LockEffect (c : Conn) (h : Handler) (g : Globals) (h' : Handler) (g' : Globals) :
    Prop where
  | none (before : h.position ≠ .refusing) (after : h'.position ≠ .refusing)
      (same : g'.roomLock = g.roomLock)
  | taken (free : g.roomLock = .none) (after : h'.position = .refusing)
      (lock : g'.roomLock = some c)
  | freed (lock : g'.roomLock = .none)

/-- What every step of a handler does. -/
structure Advances (c : Conn) (h : Handler) (g : Globals) (h' : Handler) (g' : Globals) : Prop where
  fits : h'.Fits
  less : h'.position.potential < h.position.potential
  lock : LockEffect c h g h' g'

section Handlers

variable {c : Conn} {h h' : Handler} {o : Outcome} {g g' : Globals} {result : Handler × Globals}

/-- The handler goes on with at most that many awaits, and does not hold the lock. -/
structure GoesOn (h : Handler) (bound : Nat) : Prop where
  fits : h.Fits
  bound : h.position.potential ≤ bound
  unlocked : h.position ≠ .refusing

theorem goesOn_toFinally (placed : h.WellPlaced) (connected : Bool) :
    GoesOn ({ h with connected }).toFinally 2 := by
  unfold Handler.toFinally
  by_cases added : h.addedToRoom = true
  · have broadcast : h.endpoint ≠ .echo := fun echo =>
      absurd (placed.echo echo) (by rw [added]; exact Bool.true_eq_false.mp)
    simp only [added, if_true]
    exact ⟨broadcast, Nat.le_refl 2, Position.noConfusion⟩
  · simp only [added]
    exact ⟨trivial, Nat.le_succ 1, Position.noConfusion⟩

theorem goesOn_caught (placed : h.WellPlaced) (connected : Bool) (e : Raised) :
    GoesOn (({ h with connected }).caught e) 3 := by
  have finally_ := goesOn_toFinally placed connected
  cases e with
  | timeout => exact ⟨trivial, Nat.le_refl 3, Position.noConfusion⟩
  | disconnect => exact ⟨finally_.fits, Nat.le_succ_of_le finally_.bound, finally_.unlocked⟩
  | other => exact ⟨finally_.fits, Nat.le_succ_of_le finally_.bound, finally_.unlocked⟩

theorem six_le_loopPotential (seen : Nat) : 6 ≤ loopPotential seen := Nat.le_add_right _ _

/-- A message takes a receipt, a number and at most five sends. -/
theorem loopPotential_succ {seen : Nat} (more : seen < maxMessagesPerConnection) :
    loopPotential (seen + 1) + maxRoomSize + 2 = loopPotential seen := by
  unfold loopPotential
  obtain ⟨rest, split⟩ := Nat.exists_eq_add_of_lt more
  have now : maxMessagesPerConnection - seen = rest + 1 := by omega
  have later : maxMessagesPerConnection - (seen + 1) = rest := by omega
  rw [now, later, Nat.succ_mul]
  omega

theorem goesOn_loop (seen : Nat) : GoesOn (h.loop seen) (loopPotential seen) := by
  unfold Handler.loop
  split
  · rename_i more
    exact ⟨more, Nat.le_refl _, Position.noConfusion⟩
  · refine ⟨trivial, ?_, Position.noConfusion⟩
    have least := six_le_loopPotential seen
    simp only [Handler.goto, Position.potential]
    omega

theorem goesOn_fanOut {seen index : Nat} {payload : Frame} {peers : List Conn}
    (broadcast : h.endpoint ≠ .echo) (few : peers.length ≤ maxRoomSize) :
    GoesOn (h.fanOut g c seen payload peers index).1
      (loopPotential seen + (peers.length - index)) := by
  unfold Handler.fanOut
  split
  · rename_i more
    exact ⟨⟨broadcast, more, few⟩, Nat.le_refl _, Position.noConfusion⟩
  · have loop := goesOn_loop (h := h) seen
    exact ⟨loop.fits, Nat.le_add_right_of_le loop.bound, loop.unlocked⟩

theorem roomLock_fanOut (seen : Nat) (payload : Frame) (peers : List Conn) (index : Nat) :
    (h.fanOut g c seen payload peers index).2.roomLock = g.roomLock := by
  unfold Handler.fanOut
  split <;> rfl

/-- A step that leaves the lock as it is. -/
theorem GoesOn.advances {p : Position} {bound : Nat} (goesOn : GoesOn h' bound)
    (start : h.position = p) (less : bound < p.potential) (before : p ≠ .refusing)
    (same : g'.roomLock = g.roomLock) : Advances c h g h' g' := by
  subst start
  exact ⟨goesOn.fits, Nat.lt_of_le_of_lt goesOn.bound less, .none before goesOn.unlocked same⟩

theorem goesOn_over {p : Position} (ends : p.isOver = true) : GoesOn (h.goto p) 0 := by
  cases p with
  | finished => exact ⟨trivial, Nat.le_refl 0, Position.noConfusion⟩
  | aborted inRoom => exact ⟨trivial, Nat.le_refl 0, Position.noConfusion⟩
  | _ => cases ends

theorem goesOn_acquire : GoesOn (h.goto (if (tryAcquireConnection g).1 then .accepting
    else .rejecting)) (loopPotential 0 + 3) := by
  unfold tryAcquireConnection
  split
  · exact ⟨trivial, Nat.le_add_left 1 _, Position.noConfusion⟩
  · exact ⟨trivial, Nat.le_refl _, Position.noConfusion⟩

theorem roomLock_acquire : (tryAcquireConnection g).2.roomLock = g.roomLock := by
  unfold tryAcquireConnection
  split <;> rfl

/-- The awaits that both handlers share. -/
theorem common_advances (placed : h.WellPlaced) (runs : h.common g c o = some result) :
    Advances c h g result.1 result.2 := by
  have least {seen : Nat} := six_le_loopPotential seen
  unfold Handler.common at runs
  split at runs
  all_goals cases runs
  all_goals rename_i start
  · exact goesOn_acquire.advances start (Nat.lt_succ_self _) Position.noConfusion roomLock_acquire
  · exact (goesOn_over (h := h.closed) rfl).advances start (Nat.succ_pos _) Position.noConfusion rfl
  · exact (goesOn_over (h := h.closed) rfl).advances start (Nat.succ_pos _) Position.noConfusion rfl
  · exact (goesOn_over (h := h.closed) rfl).advances start (Nat.succ_pos _) Position.noConfusion rfl
  · exact (goesOn_over (h := h.closed) rfl).advances start (Nat.succ_pos _) Position.noConfusion rfl
  · exact (goesOn_caught placed _ .disconnect).advances start (by decide) Position.noConfusion rfl
  · have closing : GoesOn (h.goto .closing) 4 := ⟨trivial, Nat.le_refl 4, Position.noConfusion⟩
    exact closing.advances start (Nat.lt_succ_self 4) Position.noConfusion rfl
  · exact (goesOn_toFinally placed _).advances start (by decide) Position.noConfusion rfl
  · exact (goesOn_toFinally placed _).advances start (by decide) Position.noConfusion rfl
  · exact (goesOn_toFinally placed _).advances start (by decide) Position.noConfusion rfl
  · exact (goesOn_over (h := h.closed) rfl).advances start (by decide) Position.noConfusion rfl
  · exact (goesOn_over (h := h.closed) rfl).advances start (by decide) Position.noConfusion rfl
  · exact (goesOn_caught placed _ _).advances start (by decide : 3 < loopPotential 0 + 1)
      Position.noConfusion rfl
  · exact (goesOn_caught placed _ _).advances start (Nat.lt_of_lt_of_le (by decide) least)
      Position.noConfusion rfl
  · exact (goesOn_caught placed _ _).advances start (by decide) Position.noConfusion rfl
  · exact (goesOn_caught placed _ _).advances start (by decide : 3 < 5) Position.noConfusion rfl
  · exact (goesOn_caught placed _ _).advances start (by decide) Position.noConfusion rfl

/-- A text that is too long ends the loop. -/
theorem advances_oversize {seen : Nat} (start : h.position = .receiving seen) :
    Advances c h g (h.goto .closingOversize) g := by
  have closing : GoesOn (h.goto .closingOversize) 4 :=
    ⟨trivial, Nat.le_refl 4, Position.noConfusion⟩
  exact closing.advances start (Nat.lt_of_lt_of_le (by decide) (six_le_loopPotential seen))
    Position.noConfusion rfl

theorem Handler.Fits.more {seen : Nat} (fits : h.Fits) (start : h.position = .receiving seen) :
    seen < maxMessagesPerConnection := by
  rw [Handler.Fits, start] at fits
  exact fits

theorem wsEcho_advances (fits : h.Fits) (placed : h.WellPlaced) (own : h.endpoint = .echo)
    (runs : wsEcho c h o g = some result) : Advances c h g result.1 result.2 := by
  have least {seen : Nat} := six_le_loopPotential seen
  unfold wsEcho at runs
  split at runs
  case h_1 start =>
      cases runs
      have welcoming : GoesOn (h.goto (.welcoming 0)) (loopPotential 0 + 1) :=
        ⟨trivial, Nat.le_refl _, Position.noConfusion⟩
      exact welcoming.advances start (by decide : loopPotential 0 + 1 < loopPotential 0 + 3)
        Position.noConfusion rfl
  case h_2 start =>
      cases runs
      exact (goesOn_loop 0).advances start (Nat.lt_succ_self _) Position.noConfusion rfl
  case h_3 seen text start =>
      split at runs
      · cases runs
        exact advances_oversize start
      · cases runs
        have echoing : GoesOn (h.goto (.echoing (seen + 1) text)) (loopPotential (seen + 1) + 1) :=
          ⟨own, Nat.le_refl _, Position.noConfusion⟩
        refine echoing.advances start ?_ Position.noConfusion rfl
        have next := loopPotential_succ (fits.more start)
        rw [Position.potential]
        omega
  case h_4 start =>
      cases runs
      exact (goesOn_loop _).advances start (Nat.lt_succ_self _) Position.noConfusion rfl
  case h_5 start =>
      cases runs
      exact (goesOn_caught placed _ _).advances start
        (Nat.lt_of_lt_of_le (by decide) (Nat.le_succ_of_le least)) Position.noConfusion rfl
  case h_6 => exact common_advances placed runs

theorem wsBroadcast_advances {room clientId : String} (fits : h.Fits) (placed : h.WellPlaced)
    (own : h.endpoint = .broadcast room clientId)
    (few : (g.members room).length ≤ maxRoomSize)
    (runs : wsBroadcast room clientId c h o g = some result) :
    Advances c h g result.1 result.2 := by
  have broadcast : h.endpoint ≠ .echo := by
    rw [own]
    exact Endpoint.noConfusion
  have least {seen : Nat} := six_le_loopPotential seen
  unfold wsBroadcast at runs
  split at runs
  case h_1 start =>
      cases runs
      have joining : GoesOn (h.goto .joining) (loopPotential 0 + 2) :=
        ⟨broadcast, Nat.le_refl _, Position.noConfusion⟩
      exact joining.advances start (Nat.lt_succ_self _) Position.noConfusion rfl
  case h_2 start =>
      split at runs
      · cases runs
      · rename_i free
        dsimp only at runs
        split at runs
        · cases runs
          refine ⟨broadcast, ?_, .taken (by simpa using free) rfl rfl⟩
          rw [start]
          exact (by decide : 4 < loopPotential 0 + 2)
        · cases runs
          have welcoming (n : Nat) : GoesOn { h with position := .welcoming n, addedToRoom := true }
              (loopPotential 0 + 1) := ⟨trivial, Nat.le_refl _, Position.noConfusion⟩
          refine (welcoming _).advances start (Nat.lt_succ_self _) Position.noConfusion ?_
          dsimp only
          split <;> rfl
  case h_3 start =>
      cases runs
      exact (goesOn_caught placed _ _).advances start (by decide) Position.noConfusion rfl
  case h_4 start =>
      cases runs
      have next := goesOn_toFinally placed false
      refine ⟨next.fits, Nat.lt_of_le_of_lt next.bound ?_, .freed rfl⟩
      rw [start]
      decide
  case h_5 e start =>
      cases runs
      have next := goesOn_caught placed h.connected e
      refine ⟨next.fits, Nat.lt_of_le_of_lt next.bound ?_, .freed rfl⟩
      rw [start]
      decide
  case h_6 start =>
      cases runs
      exact (goesOn_loop 0).advances start (Nat.lt_succ_self _) Position.noConfusion rfl
  case h_7 seen text start =>
      split at runs
      · cases runs
        exact advances_oversize start
      · cases runs
        have sequencing : GoesOn (h.goto (.sequencing (seen + 1) text))
            (loopPotential (seen + 1) + maxRoomSize + 1) :=
          ⟨broadcast, Nat.le_refl _, Position.noConfusion⟩
        refine sequencing.advances start ?_ Position.noConfusion rfl
        have next := loopPotential_succ (fits.more start)
        rw [Position.potential]
        omega
  case h_8 seen message peers start =>
      split at runs
      · cases runs
      · rename_i admitted
        cases runs
        simp only [Bool.or_eq_true, Bool.not_eq_true', not_or, Bool.not_eq_false] at admitted
        have length := (List.isPerm_iff.mp admitted.2).length_eq
        refine (goesOn_fanOut broadcast (length ▸ few)).advances start ?_ Position.noConfusion
          (roomLock_fanOut _ _ _ _)
        rw [Position.potential]
        omega
  case h_9 start =>
      cases runs
      exact (goesOn_caught placed _ _).advances start
        (Nat.lt_of_lt_of_le (by decide) (Nat.le_add_right_of_le (Nat.le_add_right_of_le least)))
        Position.noConfusion rfl
  case h_10 seen payload peers index start =>
      rw [Handler.Fits, start] at fits
      split at runs
      · cases runs
      · cases runs
        refine (goesOn_fanOut broadcast fits.2.2).advances start ?_ Position.noConfusion
          (roomLock_fanOut _ _ _ _)
        have more := fits.2.1
        rw [Position.potential]
        omega
  case h_11 start =>
      cases runs
      exact (goesOn_caught placed _ _).advances start
        (Nat.lt_of_lt_of_le (by decide) (Nat.le_add_right_of_le least)) Position.noConfusion rfl
  case h_12 start =>
      have releasing : GoesOn (h.goto .releasing) 1 :=
        ⟨trivial, Nat.le_refl 1, Position.noConfusion⟩
      split at runs
      · cases runs
      · split at runs
        · cases runs
          exact releasing.advances start (by decide) Position.noConfusion rfl
        · cases runs
          refine releasing.advances start (by decide) Position.noConfusion ?_
          dsimp only
          split <;> rfl
  case h_13 start =>
      cases runs
      exact (goesOn_over (h := h.closed) rfl).advances start (by decide) Position.noConfusion rfl
  case h_14 => exact common_advances placed runs

theorem resume_advances (fits : h.Fits) (placed : h.WellPlaced)
    (few : ∀ room, (g.members room).length ≤ maxRoomSize) (runs : h.resume c o g = some result) :
    Advances c h g result.1 result.2 := by
  unfold Handler.resume at runs
  split at runs
  · rename_i own
    exact wsEcho_advances fits placed own runs
  · rename_i room clientId own
    exact wsBroadcast_advances fits placed own (few room) runs

/-! ### No handler waits for ever -/

/-- An await of `ws_broadcast` only. -/
theorem resume_of_broadcast (broadcast : h.endpoint ≠ .echo) : ∃ room clientId,
    h.endpoint = .broadcast room clientId ∧ h.resume c o g = wsBroadcast room clientId c h o g := by
  cases own : h.endpoint with
  | echo => exact absurd own broadcast
  | broadcast room clientId => exact ⟨room, clientId, rfl, by rw [Handler.resume, own]⟩

/-- A handler that is not over can complete its await, if the room lock is free or its
own. -/
theorem resume_enabled (fits : h.Fits) (waits : h.position.isOver = false)
    (lock : g.roomLock = none ∨ h.position = .refusing) :
    ∃ o, (∀ e, o ≠ .raised e) ∧ (h.resume c o g).isSome = true := by
  have done (enabled : (h.resume c .done g).isSome = true) :
      ∃ o, (∀ e, o ≠ .raised e) ∧ (h.resume c o g).isSome = true :=
    ⟨.done, fun _ => Outcome.noConfusion, enabled⟩
  rw [Handler.Fits] at fits
  cases start : h.position with
  | finished =>
      rw [start] at waits
      cases waits
  | aborted inRoom =>
      rw [start] at waits
      cases waits
  | receiving seen =>
      refine ⟨.received "", fun _ => Outcome.noConfusion, ?_⟩
      unfold Handler.resume
      split <;> simp [wsEcho, wsBroadcast, start, maxMessageSize]
  | sequencing seen message =>
      rw [start] at fits
      have free : g.roomLock = none :=
        lock.resolve_right (by rw [start]; exact Position.noConfusion)
      cases own : h.endpoint with
      | echo => exact absurd own fits
      | broadcast room clientId =>
          refine ⟨.snapshot (g.members room), fun _ => Outcome.noConfusion, ?_⟩
          have same : (g.members room).isPerm (g.members room) = true :=
            List.isPerm_iff.mpr (List.Perm.refl _)
          simp [Handler.resume, own, wsBroadcast, start, free, same]
  | sending seen payload peers index =>
      rw [start] at fits
      obtain ⟨room, clientId, _, same⟩ := resume_of_broadcast (c := c) (o := .done) (g := g) fits.1
      refine done ?_
      rw [same]
      simp [wsBroadcast, start, List.getElem?_eq_getElem fits.2.1]
  | joining =>
      rw [start] at fits
      have free : g.roomLock = none :=
        lock.resolve_right (by rw [start]; exact Position.noConfusion)
      obtain ⟨room, clientId, _, same⟩ := resume_of_broadcast (c := c) (o := .done) (g := g) fits
      refine done ?_
      rw [same]
      simp only [wsBroadcast, start, free, Option.isSome_none, Bool.false_eq_true, if_false]
      split <;> rfl
  | refusing =>
      rw [start] at fits
      obtain ⟨room, clientId, _, same⟩ := resume_of_broadcast (c := c) (o := .done) (g := g) fits
      refine done ?_
      rw [same]
      simp [wsBroadcast, start]
  | leaving =>
      rw [start] at fits
      have free : g.roomLock = none :=
        lock.resolve_right (by rw [start]; exact Position.noConfusion)
      obtain ⟨room, clientId, _, same⟩ := resume_of_broadcast (c := c) (o := .done) (g := g) fits
      refine done ?_
      rw [same]
      simp only [wsBroadcast, start, free, Option.isSome_none, Bool.false_eq_true, if_false]
      split <;> rfl
  | echoing seen message =>
      rw [start] at fits
      refine done ?_
      rw [Handler.resume, fits]
      simp [wsEcho, start]
  | _ =>
      refine done ?_
      unfold Handler.resume
      split <;> simp [wsEcho, wsBroadcast, Handler.common, start]

end Handlers

/-! ### Runs -/

/-- The handlers fit their positions, and the room lock is held by one that will give it
back. -/
structure Live (s : State) : Prop where
  joined : RoomsJoined s
  fits : ∀ h ∈ s.handlers, h.Fits
  holder : ∀ c, s.globals.roomLock = some c →
    ∃ h, s.handlers[c]? = some h ∧ h.position = .refusing

/-- The awaits of the connection that have ended. -/
def awaits (c : Conn) (es : List Event) : Nat :=
  es.countP fun
    | .resume d _ => d = c
    | _ => false

/-- The awaits that all handlers have left, at most. -/
def State.potential (s : State) : Nat := (s.handlers.map (·.position.potential)).sum

section Steps

variable {s t : State} {e : Event} {c : Conn} {o : Outcome}

theorem Live.few (live : Live s) (room : String) :
    (s.globals.members room).length ≤ maxRoomSize := by
  unfold Globals.members
  cases stored : s.globals.rooms.get? room with
  | none => exact Nat.zero_le _
  | some peers => exact (live.joined.kept.size room peers stored).2

theorem Live.advances (live : Live s) {h : Handler} {result : Handler × Globals}
    (current : s.handlers[c]? = some h) (runs : h.resume c o s.globals = some result) :
    Advances c h s.globals result.1 result.2 :=
  resume_advances (live.fits h (List.mem_of_getElem? current))
    (live.joined.placed h (List.mem_of_getElem? current)) live.few runs

theorem Live.step (live : Live s) (moves : step s e = some t) : Live t := by
  have joined := live.joined.step moves
  cases e with
  | connect endpoint query =>
      cases moves
      refine ⟨joined, fun h mem => ?_, fun c held => ?_⟩
      · rcases List.mem_append.mp mem with old | new
        · exact live.fits h old
        · rw [List.mem_singleton.mp new]
          trivial
      · obtain ⟨h, current, refusing⟩ := live.holder c held
        have inside : c < s.handlers.length := (List.getElem?_eq_some_iff.mp current).1
        exact ⟨h, by rw [List.getElem?_append_left inside, current], refusing⟩
  | disconnect d =>
      obtain ⟨h, current, rfl⟩ := Option.map_eq_some_iff.mp moves
      have inside : d < s.handlers.length := (List.getElem?_eq_some_iff.mp current).1
      refine ⟨joined, fun k mem => ?_, fun c held => ?_⟩
      · rcases List.mem_or_eq_of_mem_set mem with old | rfl
        · exact live.fits k old
        · exact live.fits h (List.mem_of_getElem? current)
      · obtain ⟨k, here, refusing⟩ := live.holder c held
        by_cases other : c = d
        · subst other
          cases current.symm.trans here
          exact ⟨h.closed, List.getElem?_set_self inside, refusing⟩
        · exact ⟨k, by rw [List.getElem?_set_ne (Ne.symm other), here], refusing⟩
  | resume d o =>
      obtain ⟨h, result, current, runs, rfl⟩ := step_resume moves
      have advances := live.advances current runs
      have inside : d < s.handlers.length := (List.getElem?_eq_some_iff.mp current).1
      refine ⟨joined, fun k mem => ?_, fun c held => ?_⟩
      · rcases List.mem_or_eq_of_mem_set mem with old | rfl
        · exact live.fits k old
        · exact advances.fits
      · rcases advances.lock with ⟨before, _, same⟩ | ⟨_, after, lock⟩ | lock
        · obtain ⟨k, here, refusing⟩ := live.holder c (same ▸ held)
          have other : c ≠ d := by
            rintro rfl
            cases current.symm.trans here
            exact before refusing
          exact ⟨k, by rw [List.getElem?_set_ne (Ne.symm other), here], refusing⟩
        · cases lock.symm.trans held
          exact ⟨result.1, List.getElem?_set_self inside, after⟩
        · cases lock.symm.trans held

/-- A handler that is not over can go on, or the one that holds the lock can. -/
theorem Live.progress (live : Live s) (waiting : ¬ ∀ h ∈ s.handlers, h.position.isOver = true) :
    ∃ e t, e.raises = false ∧ WebSocket.step s e = some t ∧ Live t ∧ t.potential < s.potential := by
  have enabled : ∃ (c : Conn) (h : Handler), s.handlers[c]? = some h ∧ h.position.isOver = false ∧
      (s.globals.roomLock = none ∨ h.position = .refusing) := by
    cases lock : s.globals.roomLock with
    | none =>
        simp only [not_forall] at waiting
        obtain ⟨h, mem, waits⟩ := waiting
        obtain ⟨c, current⟩ := List.mem_iff_getElem?.mp mem
        exact ⟨c, h, current, Bool.not_eq_true _ ▸ waits, .inl rfl⟩
    | some c =>
        obtain ⟨h, current, refusing⟩ := live.holder c lock
        exact ⟨c, h, current, by rw [refusing]; rfl, .inr refusing⟩
  obtain ⟨c, h, current, waits, lock⟩ := enabled
  obtain ⟨o, quiet, runs⟩ := resume_enabled (c := c) (live.fits h (List.mem_of_getElem? current))
    waits lock
  obtain ⟨result, runs⟩ := Option.isSome_iff_exists.mp runs
  have moves : WebSocket.step s (.resume c o) = some ⟨result.2, s.handlers.set c result.1⟩ := by
    simp [WebSocket.step, current, runs]
  refine ⟨.resume c o, _, ?_, moves, live.step moves, ?_⟩
  · cases o with
    | raised e => exact absurd rfl (quiet e)
    | _ => rfl
  · have less := (live.advances current runs).less
    have sum := sum_map_set (f := fun h : Handler => h.position.potential) (y := result.1) current
    simp only [State.potential]
    omega

/-- The awaits of a handler, ended and left. -/
structure WithinLimit (es : List Event) (s : State) : Prop where
  live : Live s
  known : ∀ (c : Conn) (h : Handler), s.handlers[c]? = some h →
    awaits c es + h.position.potential ≤ awaitLimit
  unknown : ∀ c, s.handlers.length ≤ c → awaits c es = 0

theorem awaits_concat (c : Conn) (es : List Event) (e : Event) :
    awaits c (es ++ [e]) = awaits c es + awaits c [e] := by
  simp [awaits]

theorem WithinLimit.step {es : List Event} (within : WithinLimit es s)
    (moves : step s e = some t) : WithinLimit (es ++ [e]) t := by
  have live := within.live.step moves
  cases e with
  | connect endpoint query =>
      cases moves
      refine ⟨live, fun c h current => ?_, fun c past => ?_⟩
      · rw [awaits_concat]
        by_cases inside : c < s.handlers.length
        · rw [List.getElem?_append_left inside] at current
          exact within.known c h current
        · rcases getElem?_concat_cases current with old | rfl
          · exact within.known c h old
          · rw [within.unknown c (Nat.le_of_not_lt inside)]
            exact Nat.le_refl _
      · rw [List.length_append] at past
        rw [awaits_concat]
        exact within.unknown c (Nat.le_of_add_right_le past)
  | disconnect d =>
      obtain ⟨h, current, rfl⟩ := Option.map_eq_some_iff.mp moves
      have inside : d < s.handlers.length := (List.getElem?_eq_some_iff.mp current).1
      refine ⟨live, fun c k here => ?_, fun c past => ?_⟩
      · rw [awaits_concat]
        by_cases other : c = d
        · subst other
          rw [List.getElem?_set_self inside] at here
          cases here
          exact within.known c h current
        · rw [List.getElem?_set_ne (Ne.symm other)] at here
          exact within.known c k here
      · rw [List.length_set] at past
        rw [awaits_concat]
        exact within.unknown c past
  | resume d o =>
      obtain ⟨h, result, current, runs, rfl⟩ := step_resume moves
      have inside : d < s.handlers.length := (List.getElem?_eq_some_iff.mp current).1
      have less := (within.live.advances current runs).less
      refine ⟨live, fun c k here => ?_, fun c past => ?_⟩
      · rw [awaits_concat]
        by_cases other : c = d
        · subst other
          rw [List.getElem?_set_self inside] at here
          cases here
          have before := within.known c h current
          have one : awaits c [.resume c o] = 1 := by simp [awaits]
          omega
        · rw [List.getElem?_set_ne (Ne.symm other)] at here
          have none : awaits c [.resume d o] = 0 := by simp [awaits, Ne.symm other]
          rw [none]
          exact within.known c k here
      · rw [List.length_set] at past
        have other : d ≠ c := Nat.ne_of_lt (Nat.lt_of_lt_of_le inside past)
        have none : awaits c [.resume d o] = 0 := by simp [awaits, other]
        rw [awaits_concat, none]
        exact within.unknown c past

/-- Over and not leaked: the handler has no slot and no room. -/
theorem Live.vacated (live : Live s) (counted : SlotsCounted s)
    (ended : ∀ h ∈ s.handlers, h.position.isOver = true) (sound : s.slotsLeaked = 0) :
    s.globals.activeConnections = 0 ∧ ∀ room, s.globals.rooms.get? room = none := by
  have finished (h : Handler) (mem : h ∈ s.handlers) : h.position = .finished := by
    have notLeaked := List.countP_eq_zero.mp sound h mem
    have ends := ended h mem
    cases position : h.position with
    | finished => rfl
    | aborted inRoom =>
        rw [position] at notLeaked
        exact absurd rfl notLeaked
    | _ =>
        rw [position] at ends
        cases ends
  constructor
  · have held : s.slotsHeld = 0 := by
      refine List.countP_eq_zero.mpr fun h mem => ?_
      rw [finished h mem]
      exact Bool.false_ne_true
    rw [counted.active, held, sound]
  · intro room
    refine (live.joined.invariant.gone room fun h mem inside => ?_).1
    cases (room_of_removed (by rw [finished h mem]; rfl)).symm.trans inside

end Steps

theorem withinLimit_initial : WithinLimit [] initial where
  live := ⟨roomsJoined_initial, fun h mem => absurd mem List.not_mem_nil,
    fun c held => by cases held⟩
  known c h current := by cases current
  unknown _ _ := rfl

/-- In every run each handler passes at most `awaitLimit` awaits. From every state that a
run reaches, the service can go on without an exception until all handlers are over and
the room lock is free; if no slot was leaked, no connection counts as active then and
there is no room. -/
theorem service_drains {es : List Event} {s : State}
    (run : Run step (fun _ _ => True) initial es s) :
    (∀ c, awaits c es ≤ awaitLimit) ∧
    ∃ later t, Run step (fun _ e => e.raises = false) s later t ∧
      (∀ h ∈ t.handlers, h.position.isOver = true) ∧ t.globals.roomLock = none ∧
      (s.slotsLeaked = 0 →
        t.globals.activeConnections = 0 ∧ ∀ room, t.globals.rooms.get? room = none) := by
  have within : WithinLimit es s :=
    run.history withinLimit_initial fun _ _ _ _ within _ moves => within.step moves
  have counted : SlotsCounted s :=
    run.preserves (fun _ _ _ _ moves counted => (counted.step moves).1) slotsCounted_initial
  refine ⟨fun c => ?_, ?_⟩
  · by_cases inside : c < s.handlers.length
    · have bound := within.known c _ (List.getElem?_eq_getElem inside)
      omega
    · rw [within.unknown c (Nat.le_of_not_lt inside)]
      exact Nat.zero_le _
  · have drains : ∃ later t, Run step (fun _ e => e.raises = false) s later t ∧ Live t ∧
        ∀ h ∈ t.handlers, h.position.isOver = true :=
      exists_run_to State.potential (fun u live waiting => live.progress waiting) within.live
    obtain ⟨later, t, quiet, live, ended⟩ := drains
    have kept : SlotsCounted t ∧ (s.slotsLeaked = 0 → t.slotsLeaked = 0) := by
      refine quiet.preserves (I := fun u => SlotsCounted u ∧ (s.slotsLeaked = 0 →
        u.slotsLeaked = 0)) ?_ ⟨counted, id⟩
      rintro u e v silent moves ⟨counted, sound⟩
      obtain ⟨next, leaks⟩ := counted.step moves
      refine ⟨next, fun before => leaks.mpr ⟨sound before, ?_⟩⟩
      cases e with
      | resume c o =>
          cases o with
          | raised r => cases silent
          | _ => exact id
      | _ => exact id
    refine ⟨later, t, quiet, ended, ?_, fun sound => live.vacated kept.1 ended (kept.2 sound)⟩
    cases lock : t.globals.roomLock with
    | none => rfl
    | some c =>
        obtain ⟨h, current, refusing⟩ := live.holder c lock
        have ends := ended h (List.mem_of_getElem? current)
        rw [refusing] at ends
        cases ends

theorem service_drains_threeJoin : ∃ s, exec step initial threeJoin = some s ∧
    ∃ later t, Run step (fun _ e => e.raises = false) s later t ∧
      t.globals.activeConnections = 0 ∧ ∀ room, t.globals.rooms.get? room = none := by
  have ends : (exec step initial threeJoin).map State.slotsLeaked = some 0 := by
    decide +kernel
  obtain ⟨s, replayed, sound⟩ := Option.map_eq_some_iff.mp ends
  obtain ⟨_, later, t, quiet, _, _, vacated⟩ := service_drains (run_iff_exec.mpr replayed)
  exact ⟨s, replayed, later, t, quiet, vacated sound⟩

end PLoadtesting.TargetApps.WebSocket
