import PLoadtesting.TargetApps.WebSocket

/-!
What a step of a WebSocket handler can do.

`Move` lists the steps by their effect on the slots, the rooms, the sequence
numbers and the fan-outs; all others are `Quiet`. Every step of a handler whose
`added_to_room` fits its position is a move (`resume_move`) and leaves it so
(`resume_placed`). The invariants of the service are proved by cases on moves.
-/

namespace PLoadtesting.TargetApps.WebSocket

open Keyed Transition

/-! ### Moves -/

/-- The handler has acquired a slot, and has not finished. -/
def Position.holdsSlot : Position → Bool
  | .acquiring | .rejecting | .finished | .aborted _ => false
  | _ => true

/-- The handler has finished without giving its slot back. -/
def Position.leaked : Position → Bool
  | .aborted _ => true
  | _ => false

/-- The removal from the room has not run. -/
def Position.beforeRemoval : Position → Bool
  | .releasing | .finished => false
  | .aborted inRoom => inRoom
  | _ => true

def Position.isSending : Position → Bool
  | .sending .. => true
  | _ => false

/-- The positions up to joining a room. -/
def Position.beforeJoining : Position → Bool
  | .acquiring | .rejecting | .accepting | .joining | .refusing => true
  | _ => false

/-- The positions of `ws_broadcast` that only a member of the room reaches. -/
def Position.ofMember : Position → Bool
  | .welcoming _ | .receiving _ | .sequencing .. | .sending .. | .leaving => true
  | _ => false

/-- The room that the handler has joined and not left. -/
def Handler.room (h : Handler) : Option String :=
  match h.endpoint with
  | .echo => none
  | .broadcast room _ => if h.addedToRoom && h.position.beforeRemoval then some room else none

/-- `added_to_room` fits the position. -/
structure Handler.WellPlaced (h : Handler) : Prop where
  before : h.position.beforeJoining = true → h.addedToRoom = false
  member : ∀ room clientId, h.endpoint = .broadcast room clientId → h.position.ofMember = true →
    h.addedToRoom = true
  echo : h.endpoint = .echo → h.addedToRoom = false

/-- A step that touches no slot, room, number or fan-out: at most something was
sent on the handler's own connection. -/
structure Quiet (c : Conn) (h : Handler) (g : Globals) (h' : Handler) (g' : Globals) :
    Prop where
  endpoint : h'.endpoint = h.endpoint
  slot : h'.position.holdsSlot = h.position.holdsSlot
  leaked : h'.position.leaked = h.position.leaked
  room : h'.room = h.room
  connected : h'.connected = true → h.connected = true
  active : g'.activeConnections = g.activeConnections
  rooms : ∀ room, g'.rooms.get? room = g.rooms.get? room
  sequences : g'.roomSequences = g.roomSequences
  journal : g'.journal = g.journal ∨
    ∃ seen frame, g'.journal = g.journal ++ [.sent c seen c frame]
  idle : h.position.isSending = false ∧ h'.position.isSending = false

/-- The globals after the connection joined the room. -/
def Globals.join (g : Globals) (self : Conn) (room : String) : Globals :=
  let opened := if (g.members room).isEmpty then g.note (.opened room) else g
  { opened with rooms := opened.rooms.set room ((g.members room).insert self) }

/-- The globals after a message was numbered. -/
def Globals.number (g : Globals) (room : String) : Globals :=
  let sequence := (g.roomSequences.get? room).getD 0 + 1
  { g with
    roomSequences := g.roomSequences.set room sequence
    rooms := g.rooms.set room (g.members room) }.note (.numbered room sequence)

/-- The globals after the connection left the room. -/
def Globals.leave (g : Globals) (self : Conn) (room : String) (peers : List Conn) : Globals :=
  if (peers.erase self).isEmpty then
    { g with rooms := g.rooms.pop room, roomSequences := g.roomSequences.pop room }
  else { g with rooms := g.rooms.set room (peers.erase self) }

/-- Every step of a handler. -/
inductive Move (self : Conn) (h : Handler) (o : Outcome) (g : Globals) :
    Handler × Globals → Prop where
  | quiet {h' : Handler} {g' : Globals} (quiet : Quiet self h g h' g') : Move self h o g (h', g')
  | acquired (start : h.position = .acquiring)
      (free : g.activeConnections < maxConcurrentConnections) :
      Move self h o g
        (h.goto .accepting, { g with activeConnections := g.activeConnections + 1 })
  | joined {room clientId : String} {roomSize : Nat} (own : h.endpoint = .broadcast room clientId)
      (start : h.position = .joining) (space : (g.members room).length < maxRoomSize) :
      Move self h o g ({ h with position := .welcoming roomSize, addedToRoom := true },
        g.join self room)
  | numbered {room clientId message : String} {seen : Nat} {payload : Frame} {peers : List Conn}
      (own : h.endpoint = .broadcast room clientId) (start : h.position = .sequencing seen message)
      (snapshot : peers.Perm (g.members room))
      (frame : payload = .broadcast room clientId ((g.roomSequences.get? room).getD 0 + 1) message
        h.query) :
      Move self h o g (h.fanOut (g.number room) self seen payload peers 0)
  | delivered {seen index : Nat} {payload : Frame} {peers : List Conn} {peer : Conn}
      (start : h.position = .sending seen payload peers index) (next : peers[index]? = some peer) :
      Move self h o g
        (h.fanOut (g.note (.sent self seen peer payload)) self seen payload peers (index + 1))
  | failed {seen index : Nat} {payload : Frame} {peers : List Conn} {e : Raised}
      (start : h.position = .sending seen payload peers index) (raised : o = .raised e) :
      Move self h o g (h.caught e, g.note (.fannedOut self seen peers payload))
  | left {room clientId : String} {peers : List Conn} (own : h.endpoint = .broadcast room clientId)
      (start : h.position = .leaving) (present : g.rooms.get? room = some peers) :
      Move self h o g (h.goto .releasing, g.leave self room peers)
  | absent {room clientId : String} (own : h.endpoint = .broadcast room clientId)
      (start : h.position = .leaving) (absent : g.rooms.get? room = none) :
      Move self h o g (h.goto .releasing, g)
  | released (start : h.position = .releasing) : Move self h o g (h.finish, releaseConnection g)
  | aborted {inRoom : Bool} {e : Raised} (raised : o = .raised e)
      (start : (h.position = .accepting ∧ inRoom = false) ∨
        (h.position = .leaving ∧ inRoom = true) ∨ (h.position = .releasing ∧ inRoom = false)) :
      Move self h o g (h.abort inRoom, g)

section Moves

variable {self : Conn} {h h' : Handler} {o : Outcome} {g g' : Globals}

/-- Where a handler that caught an exception goes on. -/
theorem caught_position (e : Raised) : (h.caught e).position = .closingIdle ∨
    (h.caught e).position = .leaving ∨ (h.caught e).position = .releasing := by
  have toFinally : h.toFinally.position = .leaving ∨ h.toFinally.position = .releasing := by
    unfold Handler.toFinally
    split
    · exact .inl rfl
    · exact .inr rfl
  cases e with
  | timeout => exact .inl rfl
  | disconnect => exact .inr toFinally
  | other => exact .inr toFinally

/-- Where a handler goes on after a step of a fan-out. -/
theorem fanOut_position (seen : Nat) (payload : Frame) (peers : List Conn) (index : Nat) :
    let p := (h.fanOut g self seen payload peers index).1.position
    p = .sending seen payload peers index ∨ p = .receiving seen ∨ p = .limiting seen := by
  unfold Handler.fanOut Handler.loop
  split
  · exact .inl rfl
  · split
    · exact .inr (.inl rfl)
    · exact .inr (.inr rfl)

/-- A handler that only moves on, and perhaps closes its WebSocket. -/
theorem quiet_position {p : Position} {c : Bool} {journal : List Entry}
    (slot : p.holdsSlot = h.position.holdsSlot) (leaked : p.leaked = h.position.leaked)
    (room : h.addedToRoom = false ∨ p.beforeRemoval = h.position.beforeRemoval)
    (connected : c = true → h.connected = true)
    (sent : journal = g.journal ∨
      ∃ seen frame, journal = g.journal ++ [.sent self seen self frame])
    (idle : h.position.isSending = false ∧ p.isSending = false) :
    Quiet self h g { h with position := p, connected := c } { g with journal } where
  endpoint := rfl
  slot := slot
  leaked := leaked
  room := by
    rcases room with notAdded | same
    · simp [Handler.room, notAdded]
    · simp [Handler.room, same]
  connected := connected
  active := rfl
  rooms _ := rfl
  sequences := rfl
  journal := sent
  idle := idle

/-- A quiet move out of the `try` clause, which no send of a fan-out is part of. -/
structure InTry (p : Position) : Prop where
  slot : p.holdsSlot = true
  leaked : p.leaked = false
  inside : p.beforeRemoval = true
  idle : p.isSending = false

theorem InTry.quiet {p : Position} {c : Bool} {journal : List Entry} (inTry : InTry h.position)
    (next : InTry p) (connected : c = true → h.connected = true)
    (sent : journal = g.journal ∨
      ∃ seen frame, journal = g.journal ++ [.sent self seen self frame]) :
    Quiet self h g { h with position := p, connected := c } { g with journal } :=
  quiet_position (next.slot.trans inTry.slot.symm) (next.leaked.trans inTry.leaked.symm)
    (.inr (next.inside.trans inTry.inside.symm)) connected sent ⟨inTry.idle, next.idle⟩

/-- Moves to the `finally` clause are quiet. -/
theorem InTry.toFinally {c : Bool} (inTry : InTry h.position)
    (connected : c = true → h.connected = true) :
    Quiet self h g ({ h with connected := c }.toFinally) g := by
  by_cases added : h.addedToRoom = true
  · have same : { h with connected := c }.toFinally =
        { h with position := .leaving, connected := c } := by
      simp [Handler.toFinally, Handler.goto, added]
    rw [same]
    exact inTry.quiet ⟨rfl, rfl, rfl, rfl⟩ connected (.inl rfl)
  · have same : { h with connected := c }.toFinally =
        { h with position := .releasing, connected := c } := by
      simp [Handler.toFinally, Handler.goto, added]
    rw [same]
    exact quiet_position inTry.slot.symm inTry.leaked.symm (.inl (by simpa using added)) connected
      (.inl rfl) ⟨inTry.idle, rfl⟩

/-- So are the moves to an `except` clause. -/
theorem InTry.caught {c : Bool} (inTry : InTry h.position) (e : Raised)
    (connected : c = true → h.connected = true) :
    Quiet self h g ({ h with connected := c }.caught e) g := by
  cases e with
  | timeout => exact inTry.quiet ⟨rfl, rfl, rfl, rfl⟩ connected (.inl rfl)
  | disconnect => exact inTry.toFinally connected
  | other => exact inTry.toFinally connected

/-- And those to the head of the loop, after a message was sent. -/
theorem InTry.loop {seen : Nat} {frame : Frame} (inTry : InTry h.position) (n : Nat) :
    Quiet self h g (h.loop n) (g.note (.sent self seen self frame)) := by
  unfold Handler.loop
  split
  · exact inTry.quiet ⟨rfl, rfl, rfl, rfl⟩ id (.inr ⟨seen, frame, rfl⟩)
  · exact inTry.quiet ⟨rfl, rfl, rfl, rfl⟩ id (.inr ⟨seen, frame, rfl⟩)

theorem tryAcquireConnection_move (placed : h.WellPlaced) (start : h.position = .acquiring) :
    Move self h o g (h.goto (if (tryAcquireConnection g).1 then .accepting else .rejecting),
      (tryAcquireConnection g).2) := by
  have notAdded := placed.before (by rw [start]; rfl)
  unfold tryAcquireConnection
  split
  · refine .quiet (quiet_position ?_ ?_ (.inl notAdded) id (.inl rfl) ?_)
    all_goals simp [start, Position.holdsSlot, Position.leaked, Position.isSending]
  · rename_i free
    exact .acquired start (by omega)

/-- A handler without a slot that ends. -/
theorem quiet_finish (placed : h.WellPlaced)
    (early : h.position = .acquiring ∨ h.position = .rejecting) : Quiet self h g h.finish g := by
  have notAdded := placed.before (by rcases early with start | start <;> rw [start] <;> rfl)
  refine quiet_position ?_ ?_ (.inl notAdded) (fun open_ => by cases open_) (.inl rfl) ?_
  all_goals rcases early with start | start <;>
    simp [start, Position.holdsSlot, Position.leaked, Position.isSending]

theorem InTry.of_eq {p : Position} (start : h.position = p) (inTry : InTry p) :
    InTry h.position := start ▸ inTry

/-- The steps that both handlers have. -/
theorem common_move (placed : h.WellPlaced) {result : Handler × Globals}
    (runs : h.common g self o = some result) : Move self h o g result := by
  have closed {c : Bool} (closes : false = true) : c = true := by cases closes
  unfold Handler.common at runs
  split at runs
  all_goals cases runs
  all_goals rename_i start
  · exact tryAcquireConnection_move placed start
  · exact .quiet (quiet_finish placed (.inl start))
  · exact .quiet (quiet_finish placed (.inr start))
  · exact .quiet (quiet_finish placed (.inr start))
  · exact .aborted rfl (.inl ⟨start, rfl⟩)
  · exact .quiet (InTry.caught (.of_eq start ⟨rfl, rfl, rfl, rfl⟩) .disconnect closed)
  · exact .quiet (InTry.quiet (.of_eq start ⟨rfl, rfl, rfl, rfl⟩) ⟨rfl, rfl, rfl, rfl⟩ id
      (.inr ⟨_, _, rfl⟩))
  · exact .quiet (InTry.toFinally (.of_eq start ⟨rfl, rfl, rfl, rfl⟩) closed)
  · exact .quiet (InTry.toFinally (.of_eq start ⟨rfl, rfl, rfl, rfl⟩) closed)
  · exact .quiet (InTry.toFinally (.of_eq start ⟨rfl, rfl, rfl, rfl⟩) id)
  · exact .released start
  · exact .aborted rfl (.inr (.inr ⟨start, rfl⟩))
  · exact .quiet (InTry.caught (.of_eq start ⟨rfl, rfl, rfl, rfl⟩) _ id)
  · exact .quiet (InTry.caught (.of_eq start ⟨rfl, rfl, rfl, rfl⟩) _ id)
  · exact .quiet (InTry.caught (.of_eq start ⟨rfl, rfl, rfl, rfl⟩) _ id)
  · exact .quiet (InTry.caught (.of_eq start ⟨rfl, rfl, rfl, rfl⟩) _ id)
  · exact .quiet (InTry.caught (.of_eq start ⟨rfl, rfl, rfl, rfl⟩) _ id)

theorem wsEcho_move (placed : h.WellPlaced) {result : Handler × Globals}
    (runs : wsEcho self h o g = some result) : Move self h o g result := by
  unfold wsEcho at runs
  split at runs
  case h_6 => exact common_move placed runs
  case h_3 start =>
      split at runs
      all_goals
        cases runs
        exact .quiet (InTry.quiet (.of_eq start ⟨rfl, rfl, rfl, rfl⟩) ⟨rfl, rfl, rfl, rfl⟩ id
          (.inl rfl))
  all_goals cases runs
  all_goals rename_i start
  · exact .quiet (InTry.quiet (.of_eq start ⟨rfl, rfl, rfl, rfl⟩) ⟨rfl, rfl, rfl, rfl⟩ id
      (.inl rfl))
  · exact .quiet (InTry.loop (.of_eq start ⟨rfl, rfl, rfl, rfl⟩) 0)
  · exact .quiet (InTry.loop (.of_eq start ⟨rfl, rfl, rfl, rfl⟩) _)
  · exact .quiet (InTry.caught (.of_eq start ⟨rfl, rfl, rfl, rfl⟩) _ id)

/-- `ws_broadcast` acquires the room lock to join. -/
theorem joining_move {room clientId : String} (placed : h.WellPlaced)
    (own : h.endpoint = .broadcast room clientId) (start : h.position = .joining)
    {result : Handler × Globals} (runs : wsBroadcast room clientId self h .done g = some result) :
    Move self h .done g result := by
  simp only [wsBroadcast, start] at runs
  split at runs
  · cases runs
  · split at runs
    · rename_i full
      cases runs
      have notAdded := placed.before (by rw [start]; rfl)
      have present : g.rooms.get? room = some (g.members room) := by
        unfold Globals.members at full ⊢
        cases stored : g.rooms.get? room with
        | none =>
            rw [stored] at full
            cases full
        | some peers => rfl
      refine .quiet ⟨rfl, ?_, ?_, ?_, id, rfl, ?_, rfl, .inl rfl, ?_⟩
      · rw [start]
        rfl
      · rw [start]
        rfl
      · simp [Handler.room, Handler.goto, notAdded]
      · intro other
        rw [Dict.get?_set]
        split
        · rename_i same
          rw [same, present]
        · rfl
      · rw [start]
        exact ⟨rfl, rfl⟩
    · rename_i space
      cases runs
      exact .joined own start (by omega)

/-- Releasing the room lock is quiet. -/
theorem Quiet.unlock (quiet : Quiet self h g h' g') :
    Quiet self h g h' { g' with roomLock := none } :=
  { quiet with }

theorem wsBroadcast_move {room clientId : String} (placed : h.WellPlaced)
    (own : h.endpoint = .broadcast room clientId) {result : Handler × Globals}
    (runs : wsBroadcast room clientId self h o g = some result) : Move self h o g result := by
  have closed {c : Bool} (closes : false = true) : c = true := by cases closes
  have again := runs
  unfold wsBroadcast at runs
  split at runs
  case h_1 start =>
      have notAdded := placed.before (by rw [start]; rfl)
      cases runs
      exact .quiet (InTry.quiet (.of_eq start ⟨rfl, rfl, rfl, rfl⟩) ⟨rfl, rfl, rfl, rfl⟩ id
        (.inl rfl))
  case h_2 start => exact joining_move placed own start again
  case h_3 start =>
      cases runs
      exact .quiet (InTry.caught (.of_eq start ⟨rfl, rfl, rfl, rfl⟩) _ id)
  case h_4 start =>
      cases runs
      exact .quiet (InTry.toFinally (.of_eq start ⟨rfl, rfl, rfl, rfl⟩) closed).unlock
  case h_5 start =>
      cases runs
      exact .quiet (InTry.caught (.of_eq start ⟨rfl, rfl, rfl, rfl⟩) _ id).unlock
  case h_6 start =>
      cases runs
      exact .quiet (InTry.loop (.of_eq start ⟨rfl, rfl, rfl, rfl⟩) 0)
  case h_7 start =>
      split at runs
      all_goals
        cases runs
        exact .quiet (InTry.quiet (.of_eq start ⟨rfl, rfl, rfl, rfl⟩) ⟨rfl, rfl, rfl, rfl⟩ id
          (.inl rfl))
  case h_8 start =>
      split at runs
      · cases runs
      · rename_i admitted
        cases runs
        simp only [Bool.or_eq_true, Bool.not_eq_true', not_or, Bool.not_eq_false] at admitted
        exact .numbered own start (List.isPerm_iff.mp admitted.2) rfl
  case h_9 start =>
      cases runs
      exact .quiet (InTry.caught (.of_eq start ⟨rfl, rfl, rfl, rfl⟩) _ id)
  case h_10 start =>
      split at runs
      · cases runs
      · rename_i next
        cases runs
        exact .delivered start next
  case h_11 start =>
      cases runs
      exact .failed start rfl
  case h_12 start =>
      split at runs
      · cases runs
      · split at runs
        · rename_i absent
          cases runs
          exact .absent own start absent
        · rename_i present
          cases runs
          exact .left own start present
  case h_13 start =>
      cases runs
      exact .aborted rfl (.inr (.inl ⟨start, rfl⟩))
  case h_14 => exact common_move placed runs

/-- A step of a handler is one of the moves. -/
theorem resume_move (placed : h.WellPlaced) {result : Handler × Globals}
    (runs : h.resume self o g = some result) : Move self h o g result := by
  unfold Handler.resume at runs
  split at runs
  · exact wsEcho_move placed runs
  · rename_i own
    exact wsBroadcast_move placed own runs

/-! ### Places -/

theorem Handler.WellPlaced.goto (placed : h.WellPlaced) {p : Position} {c : Bool}
    (before : p.beforeJoining = true → h.addedToRoom = false)
    (member : ∀ room clientId, h.endpoint = .broadcast room clientId → p.ofMember = true →
      h.addedToRoom = true) : ({ h with position := p, connected := c }).WellPlaced :=
  ⟨before, member, placed.echo⟩

/-- Positions that both members and others reach. -/
theorem Handler.WellPlaced.anywhere (placed : h.WellPlaced) {p : Position} {c : Bool}
    (notBefore : p.beforeJoining = false) (notMember : p.ofMember = false) :
    ({ h with position := p, connected := c }).WellPlaced := by
  refine placed.goto ?_ ?_
  · rw [notBefore]
    intro before
    cases before
  · rw [notMember]
    intro _ _ _ member
    cases member

theorem Handler.WellPlaced.toFinally (placed : h.WellPlaced) {c : Bool} :
    ({ h with connected := c }).toFinally.WellPlaced := by
  refine ⟨?_, ?_, placed.echo⟩
  · simp only [Handler.toFinally, Handler.goto]
    split <;> exact fun before => by cases before
  · simp only [Handler.toFinally, Handler.goto]
    split
    · rename_i added
      exact fun _ _ _ _ => added
    · exact fun _ _ _ member => by cases member

theorem Handler.WellPlaced.caught (placed : h.WellPlaced) {c : Bool} (e : Raised) :
    ({ h with connected := c }.caught e).WellPlaced := by
  cases e with
  | timeout => exact placed.anywhere rfl rfl
  | disconnect => exact placed.toFinally
  | other => exact placed.toFinally

theorem Handler.WellPlaced.loop (placed : h.WellPlaced) (n : Nat)
    (inside : ∀ room clientId, h.endpoint = .broadcast room clientId → h.addedToRoom = true) :
    (h.loop n).WellPlaced := by
  unfold Handler.loop
  split
  · exact placed.goto (fun before => by cases before) fun room clientId own _ =>
      inside room clientId own
  · exact placed.anywhere rfl rfl

theorem Handler.WellPlaced.fanOut (placed : h.WellPlaced) (n : Nat) (payload : Frame)
    (peers : List Conn) (index : Nat)
    (inside : ∀ room clientId, h.endpoint = .broadcast room clientId → h.addedToRoom = true) :
    (h.fanOut g self n payload peers index).1.WellPlaced := by
  unfold Handler.fanOut
  split
  · exact placed.goto (fun before => by cases before) fun room clientId own _ =>
      inside room clientId own
  · exact placed.loop n inside

theorem common_placed (placed : h.WellPlaced) {result : Handler × Globals}
    (runs : h.common g self o = some result) : result.1.WellPlaced := by
  unfold Handler.common at runs
  split at runs
  all_goals cases runs
  all_goals rename_i start
  · have notAdded := placed.before (by rw [start]; rfl)
    exact placed.goto (fun _ => notAdded) (by split <;> exact fun _ _ _ member => by cases member)
  · exact placed.anywhere rfl rfl
  · exact placed.anywhere rfl rfl
  · exact placed.anywhere rfl rfl
  · exact placed.anywhere rfl rfl
  · exact placed.caught .disconnect
  · exact placed.anywhere rfl rfl
  · exact placed.toFinally
  · exact placed.toFinally
  · exact placed.toFinally
  · exact placed.anywhere rfl rfl
  · exact placed.anywhere rfl rfl
  · exact placed.caught _
  · exact placed.caught _
  · exact placed.caught _
  · exact placed.caught _
  · exact placed.caught _

theorem wsEcho_placed (placed : h.WellPlaced) (own : h.endpoint = .echo)
    {result : Handler × Globals} (runs : wsEcho self h o g = some result) :
    result.1.WellPlaced := by
  have notBroadcast (room clientId : String) (other : h.endpoint = .broadcast room clientId) :
      h.addedToRoom = true := by
    rw [own] at other
    cases other
  unfold wsEcho at runs
  split at runs
  case h_1 start =>
      cases runs
      exact placed.goto (fun before => by cases before) fun room clientId other _ =>
        notBroadcast room clientId other
  case h_2 start =>
      cases runs
      exact placed.loop 0 notBroadcast
  case h_3 start =>
      split at runs
      all_goals
        cases runs
        exact placed.anywhere rfl rfl
  case h_4 start =>
      cases runs
      exact placed.loop _ notBroadcast
  case h_5 start =>
      cases runs
      exact placed.caught _
  case h_6 => exact common_placed placed runs

theorem wsBroadcast_placed {room clientId : String} (placed : h.WellPlaced)
    (own : h.endpoint = .broadcast room clientId) {result : Handler × Globals}
    (runs : wsBroadcast room clientId self h o g = some result) : result.1.WellPlaced := by
  have member (ofMember : h.position.ofMember = true) (room clientId : String)
      (other : h.endpoint = .broadcast room clientId) : h.addedToRoom = true :=
    placed.member room clientId other ofMember
  unfold wsBroadcast at runs
  split at runs
  case h_1 start =>
      have notAdded := placed.before (by rw [start]; rfl)
      cases runs
      exact placed.goto (fun _ => notAdded) fun _ _ _ member => by cases member
  case h_2 start =>
      have notAdded := placed.before (by rw [start]; rfl)
      split at runs
      · cases runs
      · dsimp only at runs
        split at runs
        · cases runs
          exact placed.goto (fun _ => notAdded) fun _ _ _ member => by cases member
        · cases runs
          refine ⟨(fun before => by cases before), fun _ _ _ _ => rfl, fun echo => ?_⟩
          have clash := own.symm.trans echo
          cases clash
  case h_3 start =>
      cases runs
      exact placed.caught _
  case h_4 start =>
      cases runs
      exact placed.toFinally
  case h_5 start =>
      cases runs
      exact placed.caught _
  case h_6 start =>
      cases runs
      exact placed.loop 0 (member (by rw [start]; rfl))
  case h_7 start =>
      have inside := member (by rw [start]; rfl)
      split at runs
      · cases runs
        exact placed.anywhere rfl rfl
      · cases runs
        exact placed.goto (fun before => by cases before) fun room clientId other _ =>
          inside room clientId other
  case h_8 start =>
      split at runs
      · cases runs
      · cases runs
        exact placed.fanOut _ _ _ _ (member (by rw [start]; rfl))
  case h_9 start =>
      cases runs
      exact placed.caught _
  case h_10 start =>
      split at runs
      · cases runs
      · cases runs
        exact placed.fanOut _ _ _ _ (member (by rw [start]; rfl))
  case h_11 start =>
      cases runs
      exact placed.caught _
  case h_12 start =>
      split at runs
      · cases runs
      · split at runs
        all_goals
          cases runs
          exact placed.anywhere rfl rfl
  case h_13 start =>
      cases runs
      exact placed.anywhere rfl rfl
  case h_14 => exact common_placed placed runs

theorem resume_placed (placed : h.WellPlaced) {result : Handler × Globals}
    (runs : h.resume self o g = some result) : result.1.WellPlaced := by
  unfold Handler.resume at runs
  split at runs
  · rename_i own
    exact wsEcho_placed placed own runs
  · rename_i own
    exact wsBroadcast_placed placed own runs

end Moves

end PLoadtesting.TargetApps.WebSocket
