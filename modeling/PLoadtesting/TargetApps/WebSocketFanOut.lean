import PLoadtesting.TargetApps.WebSocketRooms

/-!
The fan-out of a message to the members of its room.

A message is numbered together with a snapshot of the members of the room, and then
sent to one member after the other. A send that raises ends the whole loop: the
members after that one are not sent the message, open or not (`CutsFanOut`). As long
as no send does that while one of them is open, every numbered message reaches all
members that stay open (`delivered_of_run`).
-/

namespace PLoadtesting.TargetApps.WebSocket

open Keyed Transition

/-- The WebSocket of the connection is open. -/
def State.isOpen (s : State) (c : Conn) : Prop :=
  ∃ h, s.handlers[c]? = some h ∧ h.connected = true

/-- The event numbers the message that the connection received last: the frame that
is to be sent, and the members at that moment. -/
inductive Numbering (s : State) : Event → Conn → Nat → Frame → List Conn → Prop where
  | intro {c : Conn} {h : Handler} {room clientId message : String} {seen : Nat}
      {peers : List Conn} (current : s.handlers[c]? = some h)
      (own : h.endpoint = .broadcast room clientId)
      (start : h.position = .sequencing seen message) :
      Numbering s (.resume c (.snapshot peers)) c seen
        (.broadcast room clientId (s.globals.sequence room + 1) message h.query)
        (s.globals.members room)

/-- The connection sends the frame to the peers, one after the other. -/
def State.sendsTo (s : State) (c : Conn) (seen : Nat) (payload : Frame) (peers : List Conn) :
    Prop :=
  ∃ h index, s.handlers[c]? = some h ∧ h.position = .sending seen payload peers index

/-- Every message numbered so far was sent to all connections that were members of
the room then and are open, if its fan-out has ended. -/
def Delivered (es : List Event) (s : State) : Prop :=
  Always (fun before e => ∀ u c seen payload members, exec step initial before = some u →
    Numbering u e c seen payload members → (∀ peers, ¬ s.sendsTo c seen payload peers) →
    ∀ m ∈ members, s.isOpen m → .sent c seen m payload ∈ s.globals.journal) es

/-- A send of a fan-out raises, and a member that the message was not sent to is open. -/
def CutsFanOut (s : State) : Event → Prop
  | .resume c (.raised _) => ∃ h seen payload peers index, s.handlers[c]? = some h ∧
      h.position = .sending seen payload peers index ∧ ∃ m ∈ peers.drop index, s.isOpen m
  | _ => False

/-! ### One step of a handler -/

def Entry.isFannedOut : Entry → Bool
  | .fannedOut .. => true
  | _ => false

/-- The fan-out that the handler is in has reached the peers before the index. -/
def Underway (known : Conn → Prop) (c : Conn) (h : Handler) (g : Globals) : Prop :=
  ∀ seen payload peers index, h.position = .sending seen payload peers index →
    ∀ m ∈ peers, known m ∧ (m ∈ peers.take index → .sent c seen m payload ∈ g.journal)

/-- The fan-outs in the journal have reached all peers that are open. -/
def Ended (known isOpen : Conn → Prop) (g : Globals) : Prop :=
  ∀ sender seen peers payload, .fannedOut sender seen peers payload ∈ g.journal →
    ∀ m ∈ peers, known m ∧ (isOpen m → .sent sender seen m payload ∈ g.journal)

/-- What a step does to the fan-outs. -/
structure FanOutEffect (known isOpen : Conn → Prop) (c : Conn) (h : Handler) (g : Globals)
    (h' : Handler) (g' : Globals) : Prop where
  grows : ∀ x ∈ g.journal, x ∈ g'.journal
  connected : h'.connected = true → h.connected = true
  ended : Ended known isOpen g'
  underway : Underway known c h' g'
  continues : ∀ seen payload peers index, h.position = .sending seen payload peers index →
    (∃ next, h'.position = .sending seen payload peers next) ∨
      .fannedOut c seen peers payload ∈ g'.journal

section Handlers

variable {known isOpen : Conn → Prop} {c : Conn} {h h' : Handler} {o : Outcome} {g g' : Globals}

theorem grows_note {e : Entry} : ∀ x ∈ g.journal, x ∈ (g.note e).journal :=
  fun _ => List.mem_append_left _

/-- An entry that ends no fan-out. -/
theorem Ended.note_other (ended : Ended known isOpen g) {e : Entry}
    (notEnd : e.isFannedOut = false) : Ended known isOpen (g.note e) := by
  intro sender seen peers payload mem m among
  rcases List.mem_append.mp mem with old | new
  · obtain ⟨found, sent⟩ := ended sender seen peers payload old m among
    exact ⟨found, fun stillOpen => grows_note _ (sent stillOpen)⟩
  · rw [← List.mem_singleton.mp new] at notEnd
    cases notEnd

theorem underway_idle (idle : h.position.isSending = false) : Underway known c h g := by
  intro seen payload peers index start
  rw [start] at idle
  cases idle

/-- Steps outside fan-outs. -/
theorem fanOutEffect_idle (ended : Ended known isOpen g)
    (connected : h'.connected = true → h.connected = true)
    (journal : g'.journal = g.journal ∨
      ∃ e : Entry, e.isFannedOut = false ∧ g'.journal = (g.note e).journal)
    (start : h.position.isSending = false) (next : h'.position.isSending = false) :
    FanOutEffect known isOpen c h g h' g' := by
  refine ⟨?_, connected, ?_, underway_idle next, ?_⟩
  · rcases journal with same | ⟨e, _, same⟩
    · rw [same]
      exact fun _ => id
    · rw [same]
      exact grows_note
  · unfold Ended
    rcases journal with same | ⟨e, notEnd, same⟩
    · rw [same]
      exact ended
    · rw [same]
      exact ended.note_other notEnd
  · intro seen payload peers index sending
    rw [sending] at start
    cases start

/-- A fan-out that has ended, after its entry. -/
theorem Ended.note (ended : Ended known isOpen g) {seen : Nat} {payload : Frame}
    {peers : List Conn}
    (reached : ∀ m ∈ peers, known m ∧ (isOpen m → .sent c seen m payload ∈ g.journal)) :
    Ended known isOpen (g.note (.fannedOut c seen peers payload)) := by
  intro sender n others frame mem m among
  rcases List.mem_append.mp mem with old | new
  · obtain ⟨found, sent⟩ := ended sender n others frame old m among
    exact ⟨found, fun stillOpen => grows_note _ (sent stillOpen)⟩
  · cases List.mem_singleton.mp new
    obtain ⟨found, sent⟩ := reached m among
    exact ⟨found, fun stillOpen => grows_note _ (sent stillOpen)⟩

/-- The loop of a fan-out stands at a send, or has ended. -/
theorem fanOut_placed (seen : Nat) (payload : Frame) (peers : List Conn) (index : Nat) :
    (h.fanOut g c seen payload peers index).1.position = .sending seen payload peers index ∨
      .fannedOut c seen peers payload ∈ (h.fanOut g c seen payload peers index).2.journal := by
  unfold Handler.fanOut
  split
  · exact .inl rfl
  · exact .inr (List.mem_append_right _ (List.mem_singleton.mpr rfl))

/-- The loop of a fan-out goes on to the peer with the index, or ends. -/
theorem fanOutEffect_fanOut (ended : Ended known isOpen g) {seen index : Nat} {payload : Frame}
    {peers : List Conn}
    (reached : ∀ m ∈ peers, known m ∧
      (m ∈ peers.take index → .sent c seen m payload ∈ g.journal)) :
    let result := h.fanOut g c seen payload peers index
    (∀ x ∈ g.journal, x ∈ result.2.journal) ∧ result.1.connected = h.connected ∧
      Ended known isOpen result.2 ∧ Underway known c result.1 result.2 := by
  unfold Handler.fanOut
  dsimp only
  split
  · refine ⟨fun _ => id, rfl, ended, ?_⟩
    intro n frame others i position
    cases position
    exact reached
  · rename_i past
    have whole : peers.take index = peers := List.take_of_length_le (Nat.le_of_not_lt past)
    rw [whole] at reached
    refine ⟨grows_note, rfl, ?_, underway_idle ?_⟩
    · exact ended.note fun m among => ⟨(reached m among).1, fun _ => (reached m among).2 among⟩
    · unfold Handler.loop
      split <;> rfl

/-- The peer with the index was sent the message. -/
theorem Underway.advance (underway : Underway known c h g) {seen index : Nat} {payload : Frame}
    {peers : List Conn} {peer : Conn} (start : h.position = .sending seen payload peers index)
    (next : peers[index]? = some peer) :
    ∀ m ∈ peers, known m ∧ (m ∈ peers.take (index + 1) →
      .sent c seen m payload ∈ (g.note (.sent c seen peer payload)).journal) := by
  intro m among
  obtain ⟨found, sent⟩ := underway seen payload peers index start m among
  refine ⟨found, fun taken => ?_⟩
  rw [List.take_add_one, next] at taken
  rcases List.mem_append.mp taken with before | last
  · exact grows_note _ (sent before)
  · rw [List.mem_singleton.mp last]
    exact List.mem_append_right _ (List.mem_singleton.mpr rfl)

theorem connected_caught (e : Raised) : (h.caught e).connected = h.connected := by
  cases e <;> rfl

theorem idle_caught (e : Raised) : (h.caught e).position.isSending = false := by
  rcases caught_position (h := h) e with next | next | next
  all_goals
    rw [next]
    rfl

/-- Every step carries the fan-outs on, if no send raises before all peers that are
open were reached. -/
theorem Move.fanOuts {result : Handler × Globals} (move : Move c h o g result)
    (ended : Ended known isOpen g) (underway : Underway known c h g)
    (members : ∀ room, ∀ m ∈ g.members room, known m)
    (notCut : ∀ e seen payload peers index, o = .raised e →
      h.position = .sending seen payload peers index → ∀ m ∈ peers.drop index, ¬ isOpen m) :
    FanOutEffect known isOpen c h g result.1 result.2 := by
  cases move with
  | quiet quiet =>
      refine fanOutEffect_idle ended quiet.connected ?_ quiet.idle.1 quiet.idle.2
      rcases quiet.journal with same | ⟨seen, frame, same⟩
      · exact .inl same
      · exact .inr ⟨_, rfl, same⟩
  | acquired start free =>
      exact fanOutEffect_idle ended id (.inl rfl) (by rw [start]; rfl) rfl
  | joined own start space =>
      refine fanOutEffect_idle ended id ?_ (by rw [start]; rfl) rfl
      unfold Globals.join
      dsimp only
      split
      · exact .inr ⟨_, rfl, rfl⟩
      · exact .inl rfl
  | @numbered room clientId message seen payload peers own start snapshot frame =>
      have first : Ended known isOpen (g.number room) := ended.note_other rfl
      have none : ∀ m ∈ peers, known m ∧
          (m ∈ peers.take 0 → .sent c seen m payload ∈ (g.number room).journal) := fun m among =>
        ⟨members room m (snapshot.mem_iff.mp among), fun taken => absurd taken List.not_mem_nil⟩
      obtain ⟨grows, connected, ended, underway⟩ := fanOutEffect_fanOut (h := h) first none
      refine ⟨fun x mem => grows x (grows_note x mem), fun still => connected ▸ still, ended,
        underway, ?_⟩
      intro _ _ _ _ sending
      rw [start] at sending
      cases sending
  | @delivered seen index payload peers peer start next =>
      have first : Ended known isOpen (g.note (.sent c seen peer payload)) := ended.note_other rfl
      obtain ⟨grows, connected, ended, after⟩ :=
        fanOutEffect_fanOut (h := h) first (underway.advance start next)
      refine ⟨fun x mem => grows x (grows_note x mem), fun still => connected ▸ still, ended,
        after, ?_⟩
      intro _ _ _ _ sending
      cases start.symm.trans sending
      rcases fanOut_placed seen payload peers (index + 1) with on | ended
      · exact .inl ⟨_, on⟩
      · exact .inr ended
  | @failed seen index payload peers e start raised =>
      refine ⟨grows_note, fun still => connected_caught e ▸ still, ended.note ?_,
        underway_idle (idle_caught e), ?_⟩
      · intro m among
        obtain ⟨found, sent⟩ := underway seen payload peers index start m among
        refine ⟨found, fun stillOpen => ?_⟩
        rw [← List.take_append_drop index peers] at among
        rcases List.mem_append.mp among with before | after
        · exact sent before
        · exact absurd stillOpen (notCut e seen payload peers index raised start m after)
      · intro _ _ _ _ sending
        cases start.symm.trans sending
        exact .inr (List.mem_append_right _ (List.mem_singleton.mpr rfl))
  | left own start present =>
      refine fanOutEffect_idle ended id (.inl ?_) (by rw [start]; rfl) rfl
      unfold Globals.leave
      split <;> rfl
  | absent own start absent =>
      exact fanOutEffect_idle ended id (.inl rfl) (by rw [start]; rfl) rfl
  | released start =>
      exact fanOutEffect_idle ended (fun closed => by cases closed) (.inl rfl) (by rw [start]; rfl)
        rfl
  | aborted raised start =>
      refine fanOutEffect_idle ended (fun closed => by cases closed) (.inl rfl) ?_ rfl
      rcases start with ⟨start, _⟩ | ⟨start, _⟩ | ⟨start, _⟩
      all_goals
        rw [start]
        rfl

end Handlers

/-! ### Runs -/

/-- The fan-outs in a state, under way and ended. -/
structure FanOutsKept (s : State) : Prop where
  joined : RoomsJoined s
  ended : Ended (· < s.handlers.length) s.isOpen s.globals
  underway : ∀ c h, s.handlers[c]? = some h → Underway (· < s.handlers.length) c h s.globals

/-- The fan-out is under way or has ended. -/
def State.fansOut (s : State) (c : Conn) (seen : Nat) (payload : Frame) (peers : List Conn) :
    Prop :=
  s.sendsTo c seen payload peers ∨ .fannedOut c seen peers payload ∈ s.globals.journal

/-- Every message that was numbered is fanned out to the members at that moment. -/
def NumberedSent (es : List Event) (s : State) : Prop :=
  Always (fun before e => ∀ u c seen payload members, exec step initial before = some u →
    Numbering u e c seen payload members →
    ∃ peers, peers.Perm members ∧ s.fansOut c seen payload peers) es

section Steps

variable {s t : State} {e : Event} {c : Conn} {h h' : Handler} {g' : Globals}

theorem isOpen_set (current : s.handlers[c]? = some h)
    (connected : h'.connected = true → h.connected = true) {m : Conn}
    (stillOpen : State.isOpen ⟨g', s.handlers.set c h'⟩ m) : s.isOpen m := by
  have inside : c < s.handlers.length := (List.getElem?_eq_some_iff.mp current).1
  obtain ⟨k, here, up⟩ := stillOpen
  by_cases other : m = c
  · subst other
    rw [List.getElem?_set_self inside] at here
    cases here
    exact ⟨h, current, connected up⟩
  · rw [List.getElem?_set_ne (Ne.symm other)] at here
    exact ⟨k, here, up⟩

/-- A handler is replaced by what it became in a step. -/
theorem FanOutsKept.set (kept : FanOutsKept s) (current : s.handlers[c]? = some h)
    (joined : RoomsJoined ⟨g', s.handlers.set c h'⟩)
    (effect : FanOutEffect (· < s.handlers.length) s.isOpen c h s.globals h' g') :
    FanOutsKept ⟨g', s.handlers.set c h'⟩ where
  joined := joined
  ended sender seen peers payload mem m among := by
    obtain ⟨found, sent⟩ := effect.ended sender seen peers payload mem m among
    rw [← List.length_set (a := h') (i := c)] at found
    exact ⟨found, fun stillOpen => sent (isOpen_set current effect.connected stillOpen)⟩
  underway x k here := by
    have inside : c < s.handlers.length := (List.getElem?_eq_some_iff.mp current).1
    rw [List.length_set]
    by_cases other : x = c
    · subst other
      rw [List.getElem?_set_self inside] at here
      cases here
      exact effect.underway
    · rw [List.getElem?_set_ne (Ne.symm other)] at here
      intro seen payload peers index start m among
      obtain ⟨found, sent⟩ := kept.underway x k here seen payload peers index start m among
      exact ⟨found, fun taken => effect.grows _ (sent taken)⟩

theorem FanOutEffect.fansOut
    (effect : FanOutEffect (· < s.handlers.length) s.isOpen c h s.globals h' g')
    (current : s.handlers[c]? = some h) {x : Conn} {seen : Nat} {payload : Frame}
    {peers : List Conn} (before : s.fansOut x seen payload peers) :
    State.fansOut ⟨g', s.handlers.set c h'⟩ x seen payload peers := by
  have inside : c < s.handlers.length := (List.getElem?_eq_some_iff.mp current).1
  rcases before with ⟨k, index, here, start⟩ | ended
  · by_cases other : x = c
    · subst other
      cases current.symm.trans here
      rcases effect.continues seen payload peers index start with ⟨next, on⟩ | ended
      · exact .inl ⟨h', next, List.getElem?_set_self inside, on⟩
      · exact .inr ended
    · refine .inl ⟨k, index, ?_, start⟩
      rw [List.getElem?_set_ne (Ne.symm other)]
      exact here
  · exact .inr (effect.grows _ ended)

/-- A step carries all fan-outs on, if it does not cut one. -/
theorem FanOutsKept.step (kept : FanOutsKept s) (notCut : ¬ CutsFanOut s e)
    (moves : step s e = some t) :
    FanOutsKept t ∧ ∀ c seen payload peers, s.fansOut c seen payload peers →
      t.fansOut c seen payload peers := by
  have joined := kept.joined.step moves
  cases e with
  | connect endpoint query =>
      cases moves
      have grown {m : Conn} (found : m < s.handlers.length) : m < (s.handlers ++ [(
          ⟨endpoint, query, .acquiring, false, true⟩ : Handler)]).length := by
        rw [List.length_append, List.length_singleton]
        exact Nat.lt_succ_of_lt found
      refine ⟨⟨joined, ?_, ?_⟩, ?_⟩
      · intro sender seen peers payload mem m among
        obtain ⟨found, sent⟩ := kept.ended sender seen peers payload mem m among
        refine ⟨grown found, ?_⟩
        rintro ⟨k, here, up⟩
        rw [List.getElem?_append_left found] at here
        exact sent ⟨k, here, up⟩
      · intro x k here
        rcases getElem?_concat_cases here with old | rfl
        · intro seen payload peers index start m among
          obtain ⟨found, sent⟩ := kept.underway x k old seen payload peers index start m among
          exact ⟨grown found, sent⟩
        · exact underway_idle rfl
      · intro x seen payload peers before
        rcases before with ⟨k, index, here, start⟩ | ended
        · refine .inl ⟨k, index, ?_, start⟩
          rw [List.getElem?_append_left (List.getElem?_eq_some_iff.mp here).1]
          exact here
        · exact .inr ended
  | disconnect c =>
      obtain ⟨h, current, rfl⟩ := Option.map_eq_some_iff.mp moves
      have effect : FanOutEffect (· < s.handlers.length) s.isOpen c h s.globals h.closed
          s.globals :=
        ⟨fun _ => id, (fun closed => by cases closed), kept.ended, kept.underway c h current,
          fun _ _ _ index start => .inl ⟨index, start⟩⟩
      exact ⟨kept.set current joined effect, fun _ _ _ _ => effect.fansOut current⟩
  | resume c o =>
      obtain ⟨h, result, current, runs, rfl⟩ := step_resume moves
      have placed := kept.joined.placed h (List.mem_of_getElem? current)
      have members (room : String) (m : Conn) (mem : m ∈ s.globals.members room) :
          m < s.handlers.length := by
        obtain ⟨k, here, _⟩ := (kept.joined.members m room).mp mem
        exact (List.getElem?_eq_some_iff.mp here).1
      have effect := (resume_move placed runs).fanOuts kept.ended (kept.underway c h current)
        members fun r seen payload peers index raised start m after stillOpen => by
          subst raised
          exact notCut ⟨h, seen, payload, peers, index, current, start, m, after, stillOpen⟩
      exact ⟨kept.set current joined effect, fun _ _ _ _ => effect.fansOut current⟩

/-- The message that a step numbers is fanned out to the members. -/
theorem fansOut_of_numbering {seen : Nat} {payload : Frame} {members : List Conn}
    (numbering : Numbering s e c seen payload members) (moves : step s e = some t) :
    ∃ peers, peers.Perm members ∧ t.fansOut c seen payload peers := by
  cases numbering with
  | @intro _ h room clientId message _ peers current own start =>
      obtain ⟨k, result, here, runs, rfl⟩ := step_resume moves
      cases current.symm.trans here
      have inside : c < s.handlers.length := (List.getElem?_eq_some_iff.mp current).1
      simp only [Handler.resume, own, wsBroadcast, start] at runs
      split at runs
      · cases runs
      · rename_i admitted
        simp only [Bool.or_eq_true, Bool.not_eq_true', not_or, Bool.not_eq_false] at admitted
        refine ⟨peers, List.isPerm_iff.mp admitted.2, ?_⟩
        cases runs
        rcases fanOut_placed seen _ peers 0 with on | ended
        · exact .inl ⟨_, 0, List.getElem?_set_self inside, on⟩
        · exact .inr ended

end Steps

theorem fanOutsKept_initial : FanOutsKept initial where
  joined := roomsJoined_initial
  ended _ _ _ _ mem := absurd mem List.not_mem_nil
  underway c h here := by cases here

theorem FanOutsKept.delivered {es : List Event} {s : State} (kept : FanOutsKept s)
    (sent : NumberedSent es s) : Delivered es s := by
  intro before e later split u c seen payload members reaches numbering finished m among stillOpen
  obtain ⟨peers, perm, on | ended⟩ :=
    sent before e later split u c seen payload members reaches numbering
  · exact absurd on (finished peers)
  · exact (kept.ended c seen peers payload ended m (perm.mem_iff.mpr among)).2 stillOpen

/-- In every run in which no send of a fan-out raises while it or a later one is due
to an open member, every numbered message reaches all members that stay open. -/
theorem delivered_of_run {es : List Event} {s : State}
    (run : Run step (fun u e => ¬ CutsFanOut u e) initial es s) : Delivered es s := by
  have kept : FanOutsKept s ∧ NumberedSent es s := by
    refine run.history (P := fun es s => Run step (fun _ _ => True) initial es s ∧
      FanOutsKept s ∧ NumberedSent es s) ⟨.done _, fanOutsKept_initial, always_nil⟩ ?_ |>.2
    rintro past t e v ⟨sofar, kept, sent⟩ notCut moves
    obtain ⟨next, continues⟩ := kept.step notCut moves
    refine ⟨sofar.append (.next trivial moves (.done v)), next, always_concat.mpr ⟨?_, ?_⟩⟩
    · intro before f later split u c seen payload members reaches numbering
      obtain ⟨peers, perm, on⟩ :=
        sent before f later split u c seen payload members reaches numbering
      exact ⟨peers, perm, continues c seen payload peers on⟩
    · intro u c seen payload members reaches numbering
      cases sofar.exec.symm.trans reaches
      exact fansOut_of_numbering numbering moves
  exact kept.1.delivered kept.2

/-- Three clients join a room, and one of them sends a message to the room. -/
def threeJoin : List Event :=
  [.connect (.broadcast "lobby" "a") ⟨true, 17⟩, .connect (.broadcast "lobby" "b") ⟨true, 17⟩,
    .connect (.broadcast "lobby" "c") ⟨true, 17⟩,
    .resume 0 .done, .resume 0 .done, .resume 0 .done, .resume 0 .done,
    .resume 1 .done, .resume 1 .done, .resume 1 .done, .resume 1 .done,
    .resume 2 .done, .resume 2 .done, .resume 2 .done, .resume 2 .done,
    .resume 0 (.received "hello")]

/-- What they are sent. -/
def hello : Frame := .broadcast "lobby" "a" 1 "hello" ⟨true, 17⟩

/-- The message reaches all three. -/
def reachesAll : List Event :=
  threeJoin ++ [.resume 0 (.snapshot [0, 1, 2]), .resume 0 .done, .resume 0 .done, .resume 0 .done]

/-- The second client is gone when the message is sent to it, and the third is still
there. -/
def secondGone : List Event :=
  threeJoin ++ [.disconnect 1, .resume 0 (.snapshot [0, 1, 2]), .resume 0 .done,
    .resume 0 (.raised .disconnect)]

def Event.raises : Event → Bool
  | .resume _ (.raised _) => true
  | _ => false

/-- A run in which nothing raises cuts no fan-out. -/
theorem not_cutsFanOut {s : State} {e : Event} (quiet : e.raises = false) : ¬ CutsFanOut s e := by
  cases e with
  | resume c o =>
      cases o with
      | raised r => cases quiet
      | _ => exact id
  | _ => exact id

theorem reachesAll_delivered :
    ∃ s, Run step (fun u e => ¬ CutsFanOut u e) initial reachesAll s ∧ Delivered reachesAll s ∧
      .sent 0 1 2 hello ∈ s.globals.journal := by
  have replayed : (exec (restrict step fun _ e => e.raises = false) initial reachesAll).map
      (fun s => decide (.sent 0 1 2 hello ∈ s.globals.journal)) = some true := by
    decide +kernel
  obtain ⟨s, ends, sent⟩ := Option.map_eq_some_iff.mp replayed
  have run : Run step (fun u e => ¬ CutsFanOut u e) initial reachesAll s :=
    (run_iff_exec_restrict.mpr ends).mono fun _ _ quiet => not_cutsFanOut quiet
  exact ⟨s, run, delivered_of_run run, of_decide_eq_true sent⟩

theorem secondGone_cuts :
    ¬ ∀ es s, Run step (fun _ _ => True) initial es s → Delivered es s := by
  intro delivered
  have numbers : (exec step initial (threeJoin ++ [.disconnect 1])).map
      (fun u => (u.handlers[0]?, u.globals.sequence "lobby", u.globals.members "lobby")) =
      some (some ⟨.broadcast "lobby" "a", ⟨true, 17⟩, .sequencing 1 "hello", true, true⟩, 0,
        [2, 1, 0]) := by
    decide +kernel
  have ends : (exec step initial secondGone).map (fun s =>
      (s.handlers[0]?.map Handler.position, s.handlers[2]?.map Handler.connected,
        decide (.sent 0 1 2 hello ∈ s.globals.journal))) =
      some (some .leaving, some true, false) := by
    decide +kernel
  obtain ⟨u, reaches, numbers⟩ := Option.map_eq_some_iff.mp numbers
  obtain ⟨s, ends, after⟩ := Option.map_eq_some_iff.mp ends
  simp only [Prod.mk.injEq] at numbers after
  obtain ⟨sender, sequence, members⟩ := numbers
  obtain ⟨done, third, unsent⟩ := after
  have numbering : Numbering u (.resume 0 (.snapshot [0, 1, 2])) 0 1
      (.broadcast "lobby" "a" (u.globals.sequence "lobby" + 1) "hello" ⟨true, 17⟩)
      (u.globals.members "lobby") := .intro sender rfl rfl
  rw [sequence, members] at numbering
  have finished (peers : List Conn) : ¬ s.sendsTo 0 1 hello peers := by
    rintro ⟨h, index, here, start⟩
    rw [here, Option.map_some, start] at done
    cases done
  have stillOpen : s.isOpen 2 := Option.map_eq_some_iff.mp third
  have sent := delivered secondGone s (run_iff_exec.mpr ends) (threeJoin ++ [.disconnect 1]) _
    [.resume 0 .done, .resume 0 (.raised .disconnect)] rfl u 0 1 hello [2, 1, 0] reaches numbering
    finished 2 List.mem_cons_self stillOpen
  exact of_decide_eq_false unsent sent

end PLoadtesting.TargetApps.WebSocket
