import PLoadtesting.TargetApps.WebSocketSlots

/-!
The broadcast rooms of the WebSocket service.

A room is stored exactly while it has members, its members are the connections
whose handlers have joined it and not left it, and its counter holds the number of
sequence numbers handed out since it was opened. Every move of a handler keeps
this, whatever its awaits raise, and whether the room lock is held or free.
-/

namespace PLoadtesting.TargetApps.WebSocket

open Keyed Transition

/-! ### Numbers handed out -/

/-- The numbers handed out in the room after one more entry of the journal. -/
def Entry.numbersIn (room : String) (numbers : List Nat) : Entry → List Nat
  | .opened other => if other = room then [] else numbers
  | .numbered other n => if other = room then numbers ++ [n] else numbers
  | .sent .. | .fannedOut .. => numbers

/-- The sequence numbers handed out in the room since it was last opened. -/
def handedOut (room : String) (journal : List Entry) : List Nat :=
  journal.foldl (Entry.numbersIn room) []

theorem handedOut_concat (room : String) (journal : List Entry) (e : Entry) :
    handedOut room (journal ++ [e]) = e.numbersIn room (handedOut room journal) := by
  simp [handedOut]

/-- `_room_sequences[room]`. -/
def Globals.sequence (g : Globals) (room : String) : Nat := (g.roomSequences.get? room).getD 0

/-- The rooms and their counters. -/
structure RoomsKept (g : Globals) : Prop where
  nodup : ∀ room peers, g.rooms.get? room = some peers → peers.Nodup
  size : ∀ room peers, g.rooms.get? room = some peers →
    1 ≤ peers.length ∧ peers.length ≤ maxRoomSize
  sequences : ∀ room, g.rooms.get? room = none → g.roomSequences.get? room = none
  numbers : ∀ room peers, g.rooms.get? room = some peers →
    handedOut room g.journal = List.range' 1 (g.sequence room)

/-- The connection is a member of the room that its handler is in. -/
def Present (c : Conn) (h : Handler) (g : Globals) : Prop :=
  ∀ room, c ∈ g.members room ↔ h.room = some room

/-- What a move does to the rooms. -/
structure RoomEffect (c : Conn) (g : Globals) (h' : Handler) (g' : Globals) : Prop where
  kept : RoomsKept g'
  others : ∀ room x, x ≠ c → (x ∈ g'.members room ↔ x ∈ g.members room)
  own : Present c h' g'

section Globals

variable {c : Conn} {h h' : Handler} {g g' : Globals}

theorem mem_members {room : String} {x : Conn} :
    x ∈ g.members room ↔ ∃ peers, g.rooms.get? room = some peers ∧ x ∈ peers := by
  unfold Globals.members
  cases g.rooms.get? room <;> simp

theorem members_of_get {room : String} {peers : List Conn}
    (present : g.rooms.get? room = some peers) : g.members room = peers := by
  simp [Globals.members, present]

/-- Steps that leave the rooms, the counters and the handler's room alone. -/
theorem roomEffect_same (kept : RoomsKept g) (own : Present c h g)
    (rooms : ∀ room, g'.rooms.get? room = g.rooms.get? room)
    (sequences : g'.roomSequences = g.roomSequences)
    (journal : ∀ room, handedOut room g'.journal = handedOut room g.journal)
    (room : h'.room = h.room) : RoomEffect c g h' g' := by
  have members (room : String) : g'.members room = g.members room := by
    unfold Globals.members
    rw [rooms]
  refine ⟨⟨?_, ?_, ?_, ?_⟩, ?_, ?_⟩
  · intro r peers present
    exact kept.nodup r peers (rooms r ▸ present)
  · intro r peers present
    exact kept.size r peers (rooms r ▸ present)
  · intro r absent
    rw [sequences]
    exact kept.sequences r (rooms r ▸ absent)
  · intro r peers present
    rw [journal, kept.numbers r peers (rooms r ▸ present)]
    simp only [Globals.sequence, sequences]
  · intro r x _
    rw [members]
  · intro r
    rw [members, room]
    exact own r

theorem room_of_notAdded (notAdded : h.addedToRoom = false) : h.room = none := by
  unfold Handler.room
  split
  · rfl
  · simp [notAdded]

theorem room_eq {room clientId : String} (own : h.endpoint = .broadcast room clientId)
    (added : h.addedToRoom = true) (inside : h.position.beforeRemoval = true) :
    h.room = some room := by
  simp [Handler.room, own, added, inside]

theorem room_of_removed (removed : h.position.beforeRemoval = false) : h.room = none := by
  unfold Handler.room
  split
  · rfl
  · simp [removed]

/-! ### Joining, numbering, leaving -/

theorem get_join (room r : String) : (g.join c room).rooms.get? r =
    if r = room then some ((g.members room).insert c) else g.rooms.get? r := by
  unfold Globals.join
  dsimp only
  rw [Dict.get?_set]
  split
  · rfl
  · split <;> rfl

theorem handedOut_join (room r : String) : handedOut r (g.join c room).journal =
    if r = room ∧ g.members room = [] then [] else handedOut r g.journal := by
  unfold Globals.join
  dsimp only
  by_cases empty : g.members room = []
  · simp only [empty, List.isEmpty_nil, if_true, Globals.note, handedOut_concat, Entry.numbersIn,
      and_true, eq_comm]
  · have notEmpty : (g.members room).isEmpty = false := by simpa using empty
    simp [notEmpty, empty]

/-- A room without members is not stored. -/
theorem RoomsKept.get_eq_none_iff (kept : RoomsKept g) {room : String} :
    g.rooms.get? room = none ↔ g.members room = [] := by
  unfold Globals.members
  cases present : g.rooms.get? room with
  | none => simp
  | some peers =>
      have size := (kept.size room peers present).1
      simpa using List.ne_nil_of_length_pos size

theorem RoomsKept.nodup_members (kept : RoomsKept g) (room : String) : (g.members room).Nodup := by
  cases present : g.rooms.get? room with
  | none =>
      rw [kept.get_eq_none_iff.mp present]
      exact List.nodup_nil
  | some peers =>
      rw [members_of_get present]
      exact kept.nodup room peers present

/-- The counter and the numbers of a room agree, whether it is stored or not. -/
theorem RoomsKept.sequence_of_none (kept : RoomsKept g) {room : String}
    (empty : g.members room = []) : g.sequence room = 0 := by
  simp [Globals.sequence, kept.sequences room (kept.get_eq_none_iff.mpr empty)]

theorem sequences_join (room : String) : (g.join c room).roomSequences = g.roomSequences := by
  unfold Globals.join
  dsimp only
  split <;> rfl

theorem RoomsKept.join (kept : RoomsKept g) (own : Present c h g) (outside : h.room = none)
    {room clientId : String} {roomSize : Nat} (endpoint : h.endpoint = .broadcast room clientId)
    (space : (g.members room).length < maxRoomSize) :
    RoomEffect c g { h with position := .welcoming roomSize, addedToRoom := true }
      (g.join c room) := by
  have notIn (r : String) : c ∉ g.members r := by
    rw [own r, outside]
    exact fun same => by cases same
  have inserted : (g.members room).insert c = c :: g.members room :=
    List.insert_of_not_mem (notIn room)
  have sequence (r : String) : (g.join c room).sequence r = g.sequence r := by
    simp only [Globals.sequence, sequences_join]
  have members (r : String) : (g.join c room).members r =
      if r = room then c :: g.members room else g.members r := by
    unfold Globals.members
    rw [get_join, inserted]
    split <;> rfl
  refine ⟨⟨?_, ?_, ?_, ?_⟩, ?_, ?_⟩
  · intro r peers present
    rw [get_join, inserted] at present
    split at present
    · cases present
      exact List.nodup_cons.mpr ⟨notIn room, kept.nodup_members room⟩
    · exact kept.nodup r peers present
  · intro r peers present
    rw [get_join, inserted] at present
    split at present
    · cases present
      rw [List.length_cons]
      omega
    · exact kept.size r peers present
  · intro r absent
    rw [get_join] at absent
    rw [sequences_join]
    split at absent
    · cases absent
    · exact kept.sequences r absent
  · intro r peers present
    rw [get_join] at present
    rw [handedOut_join, sequence]
    split
    · rename_i opened
      obtain ⟨rfl, empty⟩ := opened
      rw [kept.sequence_of_none empty]
      rfl
    · rename_i notOpened
      split at present
      · rename_i same
        subst same
        have stored : ∃ peers, g.rooms.get? r = some peers := by
          refine Option.ne_none_iff_exists'.mp fun absent => notOpened ⟨rfl, ?_⟩
          exact kept.get_eq_none_iff.mp absent
        obtain ⟨old, stored⟩ := stored
        exact kept.numbers r old stored
      · exact kept.numbers r peers present
  · intro r x other
    rw [members]
    split
    · rename_i same
      simp [same, other]
    · rfl
  · intro r
    have now := room_eq (h := { h with position := .welcoming roomSize, addedToRoom := true })
      endpoint rfl rfl
    rw [members, now, Option.some.injEq]
    split
    · rename_i same
      simp [same]
    · rename_i different
      exact iff_of_false (notIn r) (Ne.symm different)

/-- A message is numbered in a room with members. -/
theorem RoomsKept.number (kept : RoomsKept g) (own : Present c h g) {room : String}
    (inside : h.room = some room) (same : h'.room = h.room) :
    RoomEffect c g h' (g.number room) := by
  obtain ⟨peers, stored, _⟩ := mem_members.mp ((own room).mpr inside)
  have rooms (r : String) : (g.number room).rooms.get? r = g.rooms.get? r := by
    simp only [Globals.number, Globals.note, Dict.get?_set, members_of_get stored]
    split
    · rename_i equal
      rw [equal, stored]
    · rfl
  have members (r : String) : (g.number room).members r = g.members r := by
    unfold Globals.members
    rw [rooms]
  have sequence (r : String) : (g.number room).sequence r =
      if r = room then g.sequence room + 1 else g.sequence r := by
    simp only [Globals.sequence, Globals.number, Globals.note, Dict.get?_set]
    split <;> rfl
  refine ⟨⟨?_, ?_, ?_, ?_⟩, ?_, ?_⟩
  · intro r old present
    exact kept.nodup r old (rooms r ▸ present)
  · intro r old present
    exact kept.size r old (rooms r ▸ present)
  · intro r absent
    rw [rooms] at absent
    have other : r ≠ room := by
      rintro rfl
      rw [stored] at absent
      cases absent
    simp only [Globals.number, Globals.note, Dict.get?_set, if_neg other]
    exact kept.sequences r absent
  · intro r old present
    rw [rooms] at present
    have numbers := kept.numbers r old present
    have journal : (g.number room).journal =
        g.journal ++ [.numbered room (g.sequence room + 1)] := rfl
    rw [journal, handedOut_concat, sequence]
    simp only [Entry.numbersIn]
    by_cases equal : r = room
    · subst equal
      rw [if_pos rfl, if_pos rfl, numbers, List.range'_1_concat, Nat.add_comm 1]
    · rw [if_neg (Ne.symm equal), if_neg equal, numbers]
  · intro r x _
    rw [members]
  · intro r
    rw [members, same]
    exact own r

/-- The last member to leave takes the room and its counter away. -/
theorem RoomsKept.leave (kept : RoomsKept g) (own : Present c h g) {room : String}
    {peers : List Conn} (inside : h.room = some room) (stored : g.rooms.get? room = some peers)
    (outside : h'.room = none) : RoomEffect c g h' (g.leave c room peers) := by
  have mem : c ∈ peers := by
    have mem := (own room).mpr inside
    rwa [members_of_get stored] at mem
  have nodup := kept.nodup room peers stored
  have rooms (r : String) : (g.leave c room peers).rooms.get? r =
      if r = room then (if peers.erase c = [] then none else some (peers.erase c))
      else g.rooms.get? r := by
    unfold Globals.leave
    by_cases last : peers.erase c = []
    · simp only [last, List.isEmpty_nil, if_true, Dict.get?_pop]
    · have notEmpty : (peers.erase c).isEmpty = false := by simpa using last
      simp only [last, notEmpty, if_false, Bool.false_eq_true, Dict.get?_set]
  have members (r : String) : (g.leave c room peers).members r =
      if r = room then peers.erase c else g.members r := by
    unfold Globals.members
    rw [rooms]
    by_cases same : r = room
    · rw [if_pos same, if_pos same]
      split
      · rename_i last
        rw [last]
        rfl
      · rfl
    · rw [if_neg same, if_neg same]
  have journal : (g.leave c room peers).journal = g.journal := by
    unfold Globals.leave
    split <;> rfl
  have sequences (r : String) : (g.leave c room peers).roomSequences.get? r =
      if r = room ∧ peers.erase c = [] then none else g.roomSequences.get? r := by
    unfold Globals.leave
    by_cases last : peers.erase c = []
    · simp only [last, List.isEmpty_nil, if_true, Dict.get?_pop, and_true]
    · have notEmpty : (peers.erase c).isEmpty = false := by simpa using last
      simp [last, notEmpty]
  refine ⟨⟨?_, ?_, ?_, ?_⟩, ?_, ?_⟩
  · intro r old present
    rw [rooms] at present
    split at present
    · split at present
      · cases present
      · cases present
        exact nodup.erase c
    · exact kept.nodup r old present
  · intro r old present
    rw [rooms] at present
    split at present
    · split at present
      · cases present
      · rename_i notLast
        cases present
        have bound := (kept.size room peers stored).2
        have less := List.length_erase_of_mem mem
        have some := List.length_pos_of_ne_nil notLast
        omega
    · exact kept.size r old present
  · intro r absent
    rw [rooms] at absent
    rw [sequences]
    split at absent
    · split at absent
      · rename_i same last
        rw [if_pos ⟨same, last⟩]
      · cases absent
    · rename_i other
      rw [if_neg fun both => other both.1]
      exact kept.sequences r absent
  · intro r old present
    rw [rooms] at present
    rw [journal]
    have sequence (notGone : ¬ (r = room ∧ peers.erase c = [])) :
        (g.leave c room peers).sequence r = g.sequence r := by
      unfold Globals.sequence
      rw [sequences, if_neg notGone]
    split at present
    · rename_i same
      split at present
      · cases present
      · rename_i notLast
        rw [sequence fun both => notLast both.2]
        exact kept.numbers r peers (same ▸ stored)
    · rename_i other
      rw [sequence fun both => other both.1]
      exact kept.numbers r old present
  · intro r x other
    rw [members]
    split
    · rename_i same
      rw [same, members_of_get stored]
      exact List.mem_erase_of_ne other
    · rfl
  · intro r
    rw [members, outside]
    refine iff_of_false ?_ fun same => by cases same
    split
    · exact nodup.not_mem_erase
    · rename_i other
      rw [own r, inside]
      exact fun same => other (Option.some.inj same).symm

/-! ### One step of a handler -/

theorem RoomEffect.trans {g₁ g₂ : Globals} {h₁ h₂ : Handler} (first : RoomEffect c g h₁ g₁)
    (second : RoomEffect c g₁ h₂ g₂) : RoomEffect c g h₂ g₂ where
  kept := second.kept
  others room x other := (second.others room x other).trans (first.others room x other)
  own := second.own

/-- Entries that are not about numbers. -/
theorem roomEffect_note (kept : RoomsKept g) (own : Present c h g) {e : Entry}
    (silent : ∀ room numbers, e.numbersIn room numbers = numbers) (room : h'.room = h.room) :
    RoomEffect c g h' (g.note e) := by
  refine roomEffect_same kept own (fun _ => rfl) rfl (fun r => ?_) room
  rw [Globals.note, handedOut_concat, silent]

theorem room_goto {p : Position} (same : p.beforeRemoval = h.position.beforeRemoval) :
    (h.goto p).room = h.room := by
  simp [Handler.room, Handler.goto, same]

theorem room_toFinally (inside : h.position.beforeRemoval = true) : h.toFinally.room = h.room := by
  cases added : h.addedToRoom with
  | true =>
      simp only [Handler.toFinally, added, if_true]
      exact room_goto inside.symm
  | false =>
      rw [room_of_notAdded added]
      exact room_of_notAdded added

theorem room_caught (inside : h.position.beforeRemoval = true) (e : Raised) :
    (h.caught e).room = h.room := by
  cases e with
  | timeout => exact room_goto inside.symm
  | disconnect => exact room_toFinally inside
  | other => exact room_toFinally inside

theorem room_loop (inside : h.position.beforeRemoval = true) (n : Nat) :
    (h.loop n).room = h.room := by
  unfold Handler.loop
  split <;> exact room_goto inside.symm

theorem roomEffect_fanOut (kept : RoomsKept g) (own : Present c h g)
    (inside : h.position.beforeRemoval = true) (seen : Nat) (payload : Frame) (peers : List Conn)
    (index : Nat) :
    RoomEffect c g (h.fanOut g c seen payload peers index).1
      (h.fanOut g c seen payload peers index).2 := by
  unfold Handler.fanOut
  split
  · exact roomEffect_same kept own (fun _ => rfl) rfl (fun _ => rfl) (room_goto inside.symm)
  · exact roomEffect_note kept own (fun _ _ => rfl) (room_loop inside seen)

/-- Every step keeps the rooms and their counters, and the handler a member of the
room it is in. -/
theorem Move.rooms {o : Outcome} {result : Handler × Globals} (move : Move c h o g result)
    (placed : h.WellPlaced) (kept : RoomsKept g) (own : Present c h g) :
    RoomEffect c g result.1 result.2 := by
  have member {room clientId : String} (endpoint : h.endpoint = .broadcast room clientId)
      (ofMember : h.position.ofMember = true) (inside : h.position.beforeRemoval = true) :
      h.room = some room :=
    room_eq endpoint (placed.member room clientId endpoint ofMember) inside
  cases move with
  | quiet quiet =>
      refine roomEffect_same kept own quiet.rooms quiet.sequences (fun r => ?_) quiet.room
      rcases quiet.journal with same | ⟨seen, frame, same⟩
      · rw [same]
      · rw [same, handedOut_concat]
        rfl
  | acquired start free =>
      exact roomEffect_same kept own (fun _ => rfl) rfl (fun _ => rfl)
        (room_goto (by rw [start]; rfl))
  | joined endpoint start space =>
      have notAdded := placed.before (by rw [start]; rfl)
      exact kept.join own (room_of_notAdded notAdded) endpoint space
  | numbered endpoint start snapshot frame =>
      have inside := member endpoint (by rw [start]; rfl) (by rw [start]; rfl)
      have numbered := kept.number own inside rfl
      exact numbered.trans
        (roomEffect_fanOut numbered.kept numbered.own (by rw [start]; rfl) _ _ _ _)
  | @delivered seen index payload peers peer start next =>
      have sent := roomEffect_note (e := .sent c seen peer payload) kept own (fun _ _ => rfl) rfl
      exact sent.trans (roomEffect_fanOut sent.kept sent.own (by rw [start]; rfl) _ _ _ _)
  | failed start raised =>
      exact roomEffect_note kept own (fun _ _ => rfl) (room_caught (by rw [start]; rfl) _)
  | left endpoint start present =>
      have inside := member endpoint (by rw [start]; rfl) (by rw [start]; rfl)
      exact kept.leave own inside present (room_of_removed rfl)
  | absent endpoint start absent =>
      -- A handler that leaves is in its room, so the room is stored.
      have inside := member endpoint (by rw [start]; rfl) (by rw [start]; rfl)
      obtain ⟨peers, stored, _⟩ := mem_members.mp ((own _).mpr inside)
      rw [absent] at stored
      cases stored
  | released start =>
      refine roomEffect_same kept own (fun _ => rfl) rfl (fun _ => rfl) ?_
      rw [room_of_removed (h := h) (by rw [start]; rfl)]
      exact room_of_removed rfl
  | aborted raised start =>
      refine roomEffect_same kept own (fun _ => rfl) rfl (fun _ => rfl) ?_
      rcases start with ⟨start, rfl⟩ | ⟨start, rfl⟩ | ⟨start, rfl⟩
      · have notAdded := placed.before (by rw [start]; rfl)
        rw [room_of_notAdded notAdded]
        exact room_of_notAdded notAdded
      · exact room_goto (h := h.closed) (congrArg Position.beforeRemoval start).symm
      · rw [room_of_removed (h := h) (by rw [start]; rfl)]
        exact room_of_removed rfl

end Globals

/-! ### Runs -/

/-- The members of the rooms are the connections whose handlers are in them. -/
structure RoomsJoined (s : State) : Prop where
  kept : RoomsKept s.globals
  members : ∀ c room, c ∈ s.globals.members room ↔
    ∃ h, s.handlers[c]? = some h ∧ h.room = some room
  placed : ∀ h ∈ s.handlers, h.WellPlaced

/-- What holds of the rooms of the service. -/
structure RoomsInvariant (s : State) : Prop where
  /-- A room has between 1 and 5 members, each once. -/
  size : ∀ room peers, s.globals.rooms.get? room = some peers →
    peers.Nodup ∧ 1 ≤ peers.length ∧ peers.length ≤ maxRoomSize
  /-- The handlers of the members have joined the room and not left it. -/
  joined : ∀ room peers, s.globals.rooms.get? room = some peers → ∀ c ∈ peers,
    ∃ h, s.handlers[c]? = some h ∧ h.room = some room
  oneRoom : ∀ c room other, c ∈ s.globals.members room → c ∈ s.globals.members other →
    room = other
  sequences : ∀ room, s.globals.roomSequences.get? room ≠ none → s.globals.rooms.get? room ≠ none
  /-- Since the room was opened, 1, 2, 3, ... were handed out in it. -/
  numbers : ∀ room peers, s.globals.rooms.get? room = some peers →
    handedOut room s.globals.journal = List.range' 1 (s.globals.sequence room)
  /-- When all have left the room, it is gone with its sequence. -/
  gone : ∀ room, (∀ h ∈ s.handlers, h.room ≠ some room) →
    s.globals.rooms.get? room = none ∧ s.globals.roomSequences.get? room = none

section Steps

variable {s t : State} {e : Event}

/-- The handler of a connection is replaced by one in the room that it is in. -/
theorem RoomsJoined.set (joined : RoomsJoined s) {c : Conn} {h h' : Handler} {g' : Globals}
    (current : s.handlers[c]? = some h) (placed : h'.WellPlaced)
    (effect : RoomEffect c s.globals h' g') : RoomsJoined ⟨g', s.handlers.set c h'⟩ where
  kept := effect.kept
  members x room := by
    have inside : c < s.handlers.length := (List.getElem?_eq_some_iff.mp current).1
    by_cases other : x = c
    · subst other
      simp only [List.getElem?_set_self inside, Option.some.injEq, exists_eq_left']
      exact effect.own room
    · rw [effect.others room x other, List.getElem?_set_ne (Ne.symm other)]
      exact joined.members x room
  placed x mem := by
    rcases List.mem_or_eq_of_mem_set mem with old | rfl
    · exact joined.placed x old
    · exact placed

theorem RoomsJoined.present (joined : RoomsJoined s) {c : Conn} {h : Handler}
    (current : s.handlers[c]? = some h) : Present c h s.globals := by
  intro room
  rw [joined.members c room, current]
  simp

theorem RoomsJoined.step (joined : RoomsJoined s) (moves : step s e = some t) : RoomsJoined t := by
  cases e with
  | connect endpoint query =>
      cases moves
      refine ⟨joined.kept, fun c room => ?_, fun h mem => ?_⟩
      · rw [joined.members c room]
        constructor
        · rintro ⟨h, current, inside⟩
          have bound : c < s.handlers.length := (List.getElem?_eq_some_iff.mp current).1
          exact ⟨h, by rw [List.getElem?_append_left bound, current], inside⟩
        · rintro ⟨h, current, inside⟩
          rcases getElem?_concat_cases current with old | rfl
          · exact ⟨h, old, inside⟩
          · cases (room_of_notAdded rfl).symm.trans inside
      · rcases List.mem_append.mp mem with old | new
        · exact joined.placed h old
        · rw [List.mem_singleton.mp new]
          exact ⟨fun _ => rfl, (fun _ _ _ member => by cases member), fun _ => rfl⟩
  | disconnect c =>
      obtain ⟨h, current, rfl⟩ := Option.map_eq_some_iff.mp moves
      have placed := joined.placed h (List.mem_of_getElem? current)
      refine joined.set current ⟨placed.before, placed.member, placed.echo⟩ ?_
      exact roomEffect_same joined.kept (joined.present current) (fun _ => rfl) rfl (fun _ => rfl)
        rfl
  | resume c o =>
      obtain ⟨h, result, current, runs, rfl⟩ := step_resume moves
      have placed := joined.placed h (List.mem_of_getElem? current)
      refine joined.set current (resume_placed placed runs) ?_
      exact (resume_move placed runs).rooms placed joined.kept (joined.present current)

end Steps

theorem roomsJoined_initial : RoomsJoined initial where
  kept := by
    refine ⟨?_, ?_, fun _ _ => rfl, ?_⟩
    all_goals
      intro room peers present
      cases present
  members c room := by
    have empty : initial.globals.members room = [] := rfl
    rw [empty]
    simp [initial]
  placed h mem := absurd mem List.not_mem_nil

theorem RoomsJoined.invariant {s : State} (joined : RoomsJoined s) : RoomsInvariant s where
  size room peers present :=
    ⟨joined.kept.nodup room peers present, joined.kept.size room peers present⟩
  joined room peers present c mem :=
    (joined.members c room).mp (mem_members.mpr ⟨peers, present, mem⟩)
  oneRoom c room other mem memOther := by
    obtain ⟨h, current, inside⟩ := (joined.members c room).mp mem
    obtain ⟨k, again, insideOther⟩ := (joined.members c other).mp memOther
    cases current.symm.trans again
    exact Option.some.inj (inside.symm.trans insideOther)
  sequences room numbered absent := numbered (joined.kept.sequences room absent)
  numbers := joined.kept.numbers
  gone room left := by
    have empty : s.globals.members room = [] := by
      refine List.eq_nil_iff_forall_not_mem.mpr fun c mem => ?_
      obtain ⟨h, current, inside⟩ := (joined.members c room).mp mem
      exact left h (List.mem_of_getElem? current) inside
    have absent := joined.kept.get_eq_none_iff.mpr empty
    exact ⟨absent, joined.kept.sequences room absent⟩

/-- The rooms of the service in every state of every run, whatever its handlers
wait for and whatever their awaits raise. -/
theorem roomsInvariant_always {es : List Event} {s : State}
    (run : Run step (fun _ _ => True) initial es s) : RoomsInvariant s :=
  (run.preserves (fun _ _ _ _ moves joined => joined.step moves) roomsJoined_initial).invariant

/-- Two clients in a room; one of them sends a message and leaves. -/
def oneOfTwoLeaves : List Event :=
  [.connect (.broadcast "lobby" "a") ⟨true, 17⟩, .connect (.broadcast "lobby" "b") ⟨true, 17⟩,
    .resume 0 .done, .resume 1 .done, .resume 0 .done, .resume 1 .done, .resume 0 .done,
    .resume 1 .done, .resume 0 .done, .resume 0 (.received "hello"), .resume 0 (.snapshot [0, 1]),
    .resume 0 .done, .resume 0 .done, .disconnect 0, .resume 0 (.raised .disconnect),
    .resume 0 .done]

theorem oneOfTwoLeaves_invariant :
    ∃ s, Run step (fun _ _ => True) initial oneOfTwoLeaves s ∧ RoomsInvariant s ∧
      s.globals.rooms.get? "lobby" = some [1] ∧ handedOut "lobby" s.globals.journal = [1] := by
  have replayed : (exec step initial oneOfTwoLeaves).map (fun s =>
      (s.globals.rooms.get? "lobby", handedOut "lobby" s.globals.journal)) =
      some (some [1], [1]) := by
    decide +kernel
  obtain ⟨s, ends, seen⟩ := Option.map_eq_some_iff.mp replayed
  have run := run_iff_exec.mpr ends
  exact ⟨s, run, roomsInvariant_always run, congrArg Prod.fst seen, congrArg Prod.snd seen⟩

end PLoadtesting.TargetApps.WebSocket
