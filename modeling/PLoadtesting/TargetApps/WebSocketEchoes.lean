import PLoadtesting.TargetApps.WebSocketRooms

/-!
What a client of `ws_echo` is sent.

Whatever other handlers do and whatever an await raises, the frames on the connection
are a welcome, the echoes of the messages in order, and after the last message the
frame that says so; at most the last message has no echo (`echoes_transcript`).
-/

namespace PLoadtesting.TargetApps.WebSocket

open Keyed Transition

/-! ### Messages and frames -/

/-- The text that the await has received, if it is not too long. -/
def Outcome.accepted : Outcome → List String
  | .received text => if text.length > maxMessageSize then [] else [text]
  | _ => []

def Event.acceptedBy (c : Conn) : Event → List String
  | .resume d o => if d = c then o.accepted else []
  | _ => []

/-- The messages of the client, in order. -/
def received (c : Conn) (es : List Event) : List String := es.flatMap (Event.acceptedBy c)

def Entry.frameTo (c : Conn) : Entry → Option Frame
  | .sent _ _ receiver frame => if receiver = c then some frame else none
  | _ => none

/-- The frames that the client was sent, in order. -/
def framesTo (c : Conn) (journal : List Entry) : List Frame := journal.filterMap (Entry.frameTo c)

/-- The welcome, and an echo of each message. -/
def echoes (query : Query) (messages : List String) : List Frame :=
  .welcomeEcho query maxMessagesPerConnection ::
    messages.mapIdx fun i message => .echo (i + 1) message query

/-- All that a client with these messages is sent. -/
def transcript (query : Query) (messages : List String) : List Frame :=
  echoes query messages ++
    if messages.length = maxMessagesPerConnection then [.limitReached maxMessagesPerConnection]
    else []

theorem received_concat (c : Conn) (es : List Event) (e : Event) :
    received c (es ++ [e]) = received c es ++ e.acceptedBy c := by
  simp [received]

theorem framesTo_concat (c : Conn) (journal : List Entry) (e : Entry) :
    framesTo c (journal ++ [e]) = framesTo c journal ++ (e.frameTo c).toList := by
  rw [framesTo, List.filterMap_append]
  cases told : e.frameTo c with
  | none => simp [framesTo, told]
  | some frame => simp [framesTo, told]

theorem echoes_concat (query : Query) (messages : List String) (message : String) :
    echoes query (messages ++ [message]) =
      echoes query messages ++ [.echo (messages.length + 1) message query] := by
  simp [echoes, List.mapIdx_concat]

theorem length_echoes (query : Query) (messages : List String) :
    (echoes query messages).length = messages.length + 1 := by
  simp [echoes]

/-! ### What a step of a handler does -/

section Moves

variable {c : Conn} {h : Handler} {o : Outcome} {g : Globals} {result : Handler × Globals}

/-- What a step may append: what the handler sent, on its own connection or to a peer
of its fan-out, and entries that send nothing. -/
def Entry.OwnOf (c : Conn) (h : Handler) : Entry → Prop
  | .sent sender seen receiver frame => sender = c ∧ (receiver = c ∨
      ∃ peers index, h.position = .sending seen frame peers index ∧ receiver ∈ peers)
  | _ => True

theorem fanOut_appends {g' : Globals} (new : List Entry) (before : g'.journal = g.journal ++ new)
    (own : ∀ e ∈ new, e.OwnOf c h) (seen : Nat) (payload : Frame) (peers : List Conn)
    (index : Nat) : ∃ new, (h.fanOut g' c seen payload peers index).2.journal = g.journal ++ new ∧
      ∀ e ∈ new, e.OwnOf c h := by
  unfold Handler.fanOut
  split
  · exact ⟨new, before, own⟩
  · refine ⟨new ++ [.fannedOut c seen peers payload], ?_, ?_⟩
    · rw [← List.append_assoc, ← before]
      rfl
    · intro e mem
      rcases List.mem_append.mp mem with old | last
      · exact own e old
      · rw [List.mem_singleton.mp last]
        trivial

/-- What every step appends to the journal. -/
theorem Move.appends (move : Move c h o g result) :
    ∃ new, result.2.journal = g.journal ++ new ∧ ∀ e ∈ new, e.OwnOf c h := by
  have nothing {g' : Globals} (same : g'.journal = g.journal) :
      ∃ new, g'.journal = g.journal ++ new ∧ ∀ e ∈ new, e.OwnOf c h :=
    ⟨[], by rw [same, List.append_nil], fun _ mem => absurd mem List.not_mem_nil⟩
  have one {g' : Globals} {e : Entry} (last : g'.journal = g.journal ++ [e]) (own : e.OwnOf c h) :
      ∃ new, g'.journal = g.journal ++ new ∧ ∀ e ∈ new, e.OwnOf c h :=
    ⟨[e], last, fun _ mem => List.mem_singleton.mp mem ▸ own⟩
  cases move with
  | quiet quiet =>
      rcases quiet.journal with same | ⟨seen, frame, same⟩
      · exact nothing same
      · exact one same ⟨rfl, .inl rfl⟩
  | @joined room clientId roomSize own start space =>
      by_cases empty : (g.members room).isEmpty = true
      · exact one (e := .opened room) (by simp [Globals.join, Globals.note, empty]) trivial
      · exact nothing (by simp [Globals.join, empty])
  | @numbered room clientId message seen payload peers own start snapshot frame =>
      exact fanOut_appends [.numbered room (g.sequence room + 1)] rfl
        (fun e mem => List.mem_singleton.mp mem ▸ trivial) _ _ _ _
  | @delivered seen index payload peers peer start next =>
      refine fanOut_appends [.sent c seen peer payload] rfl ?_ _ _ _ _
      intro e mem
      rw [List.mem_singleton.mp mem]
      exact ⟨rfl, .inr ⟨peers, index, start, List.mem_of_getElem? next⟩⟩
  | @failed seen index payload peers e start raised =>
      exact one (e := .fannedOut c seen peers payload) rfl trivial
  | left own start present =>
      refine nothing ?_
      unfold Globals.leave
      split <;> rfl
  | _ => exact nothing rfl

/-- A handler sends to peers what it was sending to them, or what it has numbered. -/
theorem Move.sending (move : Move c h o g result) {seen index : Nat} {payload : Frame}
    {peers : List Conn} (next : result.1.position = .sending seen payload peers index) :
    (∃ before, h.position = .sending seen payload peers before) ∨
      ∃ room clientId message, h.endpoint = .broadcast room clientId ∧
        h.position = .sequencing seen message ∧ peers.Perm (g.members room) := by
  have idle (still : result.1.position.isSending = false) :
      (∃ before, h.position = .sending seen payload peers before) ∨
      ∃ room clientId message, h.endpoint = .broadcast room clientId ∧
        h.position = .sequencing seen message ∧ peers.Perm (g.members room) := by
    rw [next] at still
    cases still
  cases move with
  | quiet quiet => exact idle quiet.idle.2
  | @numbered room clientId message n frame others own start snapshot same =>
      have after := @fanOut_position c h (g.number room) n frame others 0
      rcases after with on | on | on
      · cases on.symm.trans next
        exact .inr ⟨room, clientId, message, own, start, snapshot⟩
      · cases on.symm.trans next
      · cases on.symm.trans next
  | @delivered n i frame others peer start found =>
      have after := @fanOut_position c h (g.note (.sent c n peer frame)) n frame others (i + 1)
      rcases after with on | on | on
      · cases on.symm.trans next
        exact .inl ⟨i, start⟩
      · cases on.symm.trans next
      · cases on.symm.trans next
  | @failed n i frame others e start raised =>
      rcases caught_position (h := h) e with on | on | on
      all_goals cases on.symm.trans next
  | _ => exact idle rfl

/-- A handler keeps its endpoint and its query. -/
theorem caught_same (e : Raised) :
    (h.caught e).endpoint = h.endpoint ∧ (h.caught e).query = h.query := by
  cases e <;> exact ⟨rfl, rfl⟩

theorem fanOut_same (seen : Nat) (payload : Frame) (peers : List Conn) (index : Nat) :
    (h.fanOut g c seen payload peers index).1.endpoint = h.endpoint ∧
      (h.fanOut g c seen payload peers index).1.query = h.query := by
  unfold Handler.fanOut
  split <;> exact ⟨rfl, rfl⟩

theorem common_same (runs : h.common g c o = some result) :
    result.1.endpoint = h.endpoint ∧ result.1.query = h.query := by
  unfold Handler.common at runs
  split at runs
  all_goals cases runs
  all_goals first
    | exact ⟨rfl, rfl⟩
    | exact caught_same _

theorem resume_same (runs : h.resume c o g = some result) :
    result.1.endpoint = h.endpoint ∧ result.1.query = h.query := by
  unfold Handler.resume at runs
  split at runs
  · unfold wsEcho at runs
    split at runs
    case h_3 => split at runs <;> (cases runs; exact ⟨rfl, rfl⟩)
    case h_6 => exact common_same runs
    all_goals cases runs
    all_goals first
      | exact ⟨rfl, rfl⟩
      | exact caught_same _
  · unfold wsBroadcast at runs
    split at runs
    case h_2 =>
        split at runs
        · cases runs
        · dsimp only at runs
          split at runs <;> (cases runs; exact ⟨rfl, rfl⟩)
    case h_7 => split at runs <;> (cases runs; exact ⟨rfl, rfl⟩)
    case h_8 =>
        split at runs
        · cases runs
        · cases runs
          exact fanOut_same _ _ _ _
    case h_10 =>
        split at runs
        · cases runs
        · cases runs
          exact fanOut_same _ _ _ _
    case h_12 =>
        split at runs
        · cases runs
        · split at runs <;> (cases runs; exact ⟨rfl, rfl⟩)
    case h_14 => exact common_same runs
    all_goals cases runs
    all_goals first
      | exact ⟨rfl, rfl⟩
      | exact caught_same _

end Moves

/-! ### An echo connection -/

/-- What the client with these messages has been sent when its handler is done: all, or
all up to a frame that follows the echo of the last message but one. -/
structure Settled (query : Query) (messages : List String) (frames : List Frame) : Prop where
  few : messages.length ≤ maxMessagesPerConnection
  start : frames <+: transcript query messages
  answered : messages.length ≤ frames.length

/-- What the client has been sent when its handler stands at the position. -/
def Told (query : Query) (messages : List String) (frames : List Frame) : Position → Prop
  | .acquiring | .rejecting | .accepting | .welcoming _ => messages = [] ∧ frames = []
  | .receiving seen => messages.length = seen ∧ seen < maxMessagesPerConnection ∧
      frames = echoes query messages
  | .echoing seen message => messages.length = seen ∧ seen ≤ maxMessagesPerConnection ∧
      ∃ before, messages = before ++ [message] ∧ frames = echoes query before
  | .limiting seen => seen = maxMessagesPerConnection ∧ messages.length = seen ∧
      frames = echoes query messages
  | _ => Settled query messages frames

section Echo

variable {query : Query} {messages : List String} {frames : List Frame}

/-- The echoes of the messages that were answered. -/
theorem Settled.of_echoes (before after : List String)
    (few : (before ++ after).length ≤ maxMessagesPerConnection) (last : after.length ≤ 1) :
    Settled query (before ++ after) (echoes query before) where
  few := few
  start := by
    refine List.IsPrefix.trans ?_ (List.prefix_append _ _)
    rw [echoes, echoes, List.mapIdx_append]
    exact List.prefix_cons_inj _ |>.mpr (List.prefix_append _ _)
  answered := by
    rw [length_echoes, List.length_append]
    omega

theorem Settled.of_whole (few : messages.length ≤ maxMessagesPerConnection) :
    Settled query messages (echoes query messages) := by
  have whole : Settled query (messages ++ []) (echoes query messages) :=
    .of_echoes messages [] (by rwa [List.append_nil]) (Nat.zero_le 1)
  rwa [List.append_nil] at whole

theorem Told.settled {p : Position} (told : Told query messages frames p) :
    Settled query messages frames := by
  have nothing (empty : messages = [] ∧ frames = []) : Settled query messages frames := by
    obtain ⟨rfl, rfl⟩ := empty
    exact ⟨Nat.zero_le _, List.nil_prefix, Nat.le_refl _⟩
  cases p with
  | acquiring => exact nothing told
  | rejecting => exact nothing told
  | accepting => exact nothing told
  | welcoming _ => exact nothing told
  | receiving seen =>
      obtain ⟨rfl, few, rfl⟩ := told
      exact .of_whole (Nat.le_of_lt few)
  | echoing seen message =>
      obtain ⟨rfl, few, before, rfl, rfl⟩ := told
      exact .of_echoes before [message] few (Nat.le_refl 1)
  | limiting seen =>
      obtain ⟨rfl, length, rfl⟩ := told
      exact .of_whole (Nat.le_of_eq length)
  | _ => exact told

/-- The loop goes on after the echo of the last message. -/
theorem told_loop {h : Handler} {seen : Nat} (length : messages.length = seen)
    (few : seen ≤ maxMessagesPerConnection) :
    Told query messages (echoes query messages) (h.loop seen).position := by
  unfold Handler.loop
  split
  · rename_i less
    exact ⟨length, less, rfl⟩
  · exact ⟨by omega, length, rfl⟩

variable {c : Conn} {h : Handler} {o : Outcome} {g : Globals} {result : Handler × Globals}

theorem told_caught (e : Raised) (told : Settled query messages frames) :
    Told query messages frames (h.caught e).position := by
  rcases caught_position (h := h) e with next | next | next
  all_goals
    rw [next]
    exact told

theorem told_toFinally (told : Settled query messages frames) :
    Told query messages frames h.toFinally.position := by
  unfold Handler.toFinally
  by_cases added : h.addedToRoom = true
  all_goals
    simp only [added, Handler.goto]
    exact told

theorem framesTo_note (e : Entry) :
    framesTo c (g.note e).journal = framesTo c g.journal ++ (e.frameTo c).toList :=
  framesTo_concat c g.journal e

theorem told_acquire (told : messages = [] ∧ framesTo c g.journal = []) :
    Told query messages (framesTo c (tryAcquireConnection g).2.journal)
      (if (tryAcquireConnection g).1 then .accepting else .rejecting) := by
  unfold tryAcquireConnection
  split <;> exact told

/-- The awaits that both handlers share. -/
theorem common_told (runs : h.common g c o = some result)
    (told : Told h.query messages (framesTo c g.journal) h.position) :
    Told h.query (messages ++ o.accepted) (framesTo c result.2.journal) result.1.position := by
  have settled := told.settled
  unfold Handler.common at runs
  split at runs
  all_goals cases runs
  all_goals rename_i start
  all_goals simp only [Outcome.accepted, List.append_nil]
  all_goals rw [start] at told
  · exact told_acquire told
  · exact settled
  · exact settled
  · exact settled
  · exact settled
  · exact told_caught _ settled
  · obtain ⟨rfl, length, frames⟩ := told
    rw [framesTo_note, frames]
    refine ⟨Nat.le_of_eq length, ?_, ?_⟩
    · rw [transcript, if_pos length]
      simp [Entry.frameTo]
    · rw [List.length_append, length_echoes]
      omega
  · exact told_toFinally settled
  · exact told_toFinally settled
  · exact told_toFinally settled
  · exact settled
  · exact settled
  · exact told_caught _ settled
  · exact told_caught _ settled
  · exact told_caught _ settled
  · exact told_caught _ settled
  · exact told_caught _ settled

theorem wsEcho_told (runs : wsEcho c h o g = some result)
    (told : Told h.query messages (framesTo c g.journal) h.position) :
    Told h.query (messages ++ o.accepted) (framesTo c result.2.journal) result.1.position := by
  have settled := told.settled
  unfold wsEcho at runs
  split at runs
  case h_1 start =>
      cases runs
      rw [start] at told
      simp only [Outcome.accepted, List.append_nil]
      exact told
  case h_2 start =>
      cases runs
      rw [start] at told
      obtain ⟨rfl, frames⟩ := told
      rw [framesTo_note, frames]
      simp only [Entry.frameTo, Outcome.accepted, List.append_nil]
      exact told_loop rfl (Nat.zero_le _)
  case h_3 seen text start =>
      rw [start] at told
      obtain ⟨length, few, frames⟩ := told
      split at runs
      · rename_i long
        cases runs
        simp only [Outcome.accepted, if_pos long, List.append_nil]
        exact settled
      · rename_i short
        cases runs
        simp only [Outcome.accepted, if_neg short]
        refine ⟨?_, few, messages, rfl, frames⟩
        rw [List.length_append, length, List.length_singleton]
  case h_4 seen message start =>
      cases runs
      rw [start] at told
      obtain ⟨length, few, before, rfl, frames⟩ := told
      have echoed : framesTo c (g.note (.sent c seen c (.echo seen message h.query))).journal =
          echoes h.query (before ++ [message]) := by
        rw [List.length_append, List.length_singleton] at length
        rw [framesTo_note, frames, echoes_concat, ← length]
        simp [Entry.frameTo]
      simp only [Outcome.accepted, List.append_nil, echoed]
      exact told_loop length few
  case h_5 =>
      cases runs
      simp only [Outcome.accepted, List.append_nil]
      exact told_caught _ settled
  case h_6 => exact common_told runs told

end Echo

/-! ### Runs -/

/-- The connection is one to `ws_broadcast`. -/
def State.inBroadcast (s : State) (c : Conn) : Prop :=
  ∃ h, s.handlers[c]? = some h ∧ h.endpoint ≠ .echo

/-- What echo connections were told in a run. -/
structure EchoesKept (es : List Event) (s : State) : Prop where
  joined : RoomsJoined s
  peers : ∀ (c : Conn) (h : Handler), s.handlers[c]? = some h → ∀ seen payload peers index,
    h.position = .sending seen payload peers index → ∀ m ∈ peers, s.inBroadcast m
  known : ∀ c, s.handlers.length ≤ c → received c es = [] ∧ framesTo c s.globals.journal = []
  told : ∀ (c : Conn) (h : Handler), s.handlers[c]? = some h → h.endpoint = .echo →
    Told h.query (received c es) (framesTo c s.globals.journal) h.position

section Steps

variable {es : List Event} {s t : State} {e : Event}

/-- Frames that a step sends to others. -/
theorem framesTo_others {c d : Conn} {h : Handler} {journal new : List Entry}
    (own : ∀ e ∈ new, e.OwnOf d h) (other : c ≠ d)
    (peers : ∀ seen payload peers index, h.position = .sending seen payload peers index →
      c ∉ peers) : framesTo c (journal ++ new) = framesTo c journal := by
  have none : new.filterMap (Entry.frameTo c) = [] := by
    refine List.filterMap_eq_nil_iff.mpr fun e mem => ?_
    cases e with
    | sent sender seen receiver frame =>
        refine if_neg ?_
        rintro rfl
        rcases (own _ mem).2 with same | ⟨others, index, start, among⟩
        · exact other same
        · exact peers seen frame others index start among
    | _ => rfl
  rw [framesTo, List.filterMap_append, none, List.append_nil, framesTo]

theorem received_other {c d : Conn} {o : Outcome} (other : d ≠ c) :
    received c (es ++ [.resume d o]) = received c es := by
  rw [received_concat, Event.acceptedBy, if_neg other, List.append_nil]

/-- A handler is replaced by what it became in a step. -/
theorem EchoesKept.set (kept : EchoesKept es s) {es' : List Event} {d : Conn} {h h' : Handler}
    {g' : Globals} (joined : RoomsJoined ⟨g', s.handlers.set d h'⟩)
    (current : s.handlers[d]? = some h) (endpoint : h'.endpoint = h.endpoint)
    (peers : ∀ seen payload peers index, h'.position = .sending seen payload peers index →
      ∀ m ∈ peers, s.inBroadcast m)
    (others : ∀ c, c ≠ d → ¬ s.inBroadcast c →
      received c es' = received c es ∧ framesTo c g'.journal = framesTo c s.globals.journal)
    (own : h.endpoint = .echo →
      Told h'.query (received d es') (framesTo d g'.journal) h'.position) :
    EchoesKept es' ⟨g', s.handlers.set d h'⟩ := by
  have inside : d < s.handlers.length := (List.getElem?_eq_some_iff.mp current).1
  have still {m : Conn} (broadcast : s.inBroadcast m) :
      State.inBroadcast ⟨g', s.handlers.set d h'⟩ m := by
    obtain ⟨k, here, notEcho⟩ := broadcast
    by_cases other : m = d
    · subst other
      cases current.symm.trans here
      exact ⟨h', List.getElem?_set_self inside, endpoint ▸ notEcho⟩
    · exact ⟨k, by rw [List.getElem?_set_ne (Ne.symm other), here], notEcho⟩
  refine ⟨joined, ?_, ?_, ?_⟩
  · intro c k here seen payload ps index start m mem
    by_cases other : c = d
    · subst other
      rw [List.getElem?_set_self inside] at here
      cases here
      exact still (peers seen payload ps index start m mem)
    · rw [List.getElem?_set_ne (Ne.symm other)] at here
      exact still (kept.peers c k here seen payload ps index start m mem)
  · intro c past
    rw [List.length_set] at past
    obtain ⟨messages, frames⟩ := others c (Nat.ne_of_gt (Nat.lt_of_lt_of_le inside past)) (by
      rintro ⟨k, here, _⟩
      exact absurd (List.getElem?_eq_some_iff.mp here).1 (Nat.not_lt.mpr past))
    rw [messages, frames]
    exact kept.known c past
  · intro c k here echo
    by_cases other : c = d
    · subst other
      rw [List.getElem?_set_self inside] at here
      cases here
      exact own (endpoint ▸ echo)
    · rw [List.getElem?_set_ne (Ne.symm other)] at here
      obtain ⟨messages, frames⟩ := others c other (by
        rintro ⟨k', again, notEcho⟩
        cases here.symm.trans again
        exact notEcho echo)
      rw [messages, frames]
      exact kept.told c k here echo

theorem EchoesKept.step (kept : EchoesKept es s) (moves : step s e = some t) :
    EchoesKept (es ++ [e]) t := by
  have joined := kept.joined.step moves
  cases e with
  | connect endpoint query =>
      cases moves
      have same (c : Conn) : received c (es ++ [.connect endpoint query]) = received c es := by
        rw [received_concat]
        exact List.append_nil _
      have still {c : Conn} (in_ : s.inBroadcast c) : State.inBroadcast
          ⟨s.globals, s.handlers ++ [⟨endpoint, query, .acquiring, false, true⟩]⟩ c := by
        obtain ⟨h, current, broadcast⟩ := in_
        have inside : c < s.handlers.length := (List.getElem?_eq_some_iff.mp current).1
        exact ⟨h, by rw [List.getElem?_append_left inside, current], broadcast⟩
      refine ⟨joined, ?_, ?_, ?_⟩
      · intro c h current seen payload peers index start m mem
        rcases getElem?_concat_cases current with old | rfl
        · exact still (kept.peers c h old seen payload peers index start m mem)
        · cases start
      · intro c past
        rw [same]
        rw [List.length_append] at past
        exact kept.known c (by omega)
      · intro c h current echo
        rw [same]
        by_cases inside : c < s.handlers.length
        · rw [List.getElem?_append_left inside] at current
          exact kept.told c h current echo
        · rcases getElem?_concat_cases current with old | rfl
          · exact absurd (List.getElem?_eq_some_iff.mp old).1 inside
          · exact kept.known c (Nat.le_of_not_lt inside)
  | disconnect d =>
      obtain ⟨h, current, rfl⟩ := Option.map_eq_some_iff.mp moves
      have same (c : Conn) : received c (es ++ [.disconnect d]) = received c es := by
        rw [received_concat]
        exact List.append_nil _
      refine kept.set joined current rfl (fun seen payload peers index start => ?_)
        (fun c _ _ => ⟨same c, rfl⟩) fun echo => ?_
      · exact kept.peers d h current seen payload peers index start
      · rw [same]
        exact kept.told d h current echo
  | resume d o =>
      obtain ⟨h, result, current, runs, rfl⟩ := step_resume moves
      have placed := kept.joined.placed h (List.mem_of_getElem? current)
      have move := resume_move placed runs
      obtain ⟨endpoint, query⟩ := resume_same runs
      refine kept.set joined current endpoint (fun seen payload peers index next m mem => ?_)
        (fun c other outside => ?_) fun echo => ?_
      · rcases move.sending next with ⟨before, start⟩ | ⟨room, clientId, message, _, _, snapshot⟩
        · exact kept.peers d h current seen payload peers before start m mem
        · obtain ⟨k, here, inside⟩ := (kept.joined.members m room).mp (snapshot.mem_iff.mp mem)
          refine ⟨k, here, fun echo => ?_⟩
          cases (room_of_notAdded
            ((kept.joined.placed k (List.mem_of_getElem? here)).echo echo)).symm.trans inside
      · obtain ⟨new, appended, own⟩ := move.appends
        rw [appended]
        refine ⟨received_other (Ne.symm other), framesTo_others own other ?_⟩
        intro seen payload peers index start mem
        exact outside (kept.peers d h current seen payload peers index start c mem)
      · have told := kept.told d h current echo
        rw [Handler.resume, echo] at runs
        rw [query, received_concat, Event.acceptedBy, if_pos rfl]
        exact wsEcho_told runs told

end Steps

theorem echoesKept_initial : EchoesKept [] initial where
  joined := roomsJoined_initial
  peers c h current := by cases current
  known _ _ := ⟨rfl, rfl⟩
  told c h current := by cases current

/-- In every run the client of an echo connection is sent its transcript up to some
frame, and no other frame: a welcome, the echo of each message but perhaps the last,
and the frame that ends the connection. -/
theorem echoes_transcript {es : List Event} {s : State}
    (run : Run step (fun _ _ => True) initial es s) (c : Conn) (h : Handler)
    (current : s.handlers[c]? = some h) (echo : h.endpoint = .echo) :
    Settled h.query (received c es) (framesTo c s.globals.journal) := by
  have kept : EchoesKept es s :=
    run.history echoesKept_initial fun _ _ _ _ kept _ moves => kept.step moves
  exact (kept.told c h current echo).settled

theorem echoes_transcript_echoedOnce : ∃ s h, exec step initial echoedOnce = some s ∧
    s.handlers[0]? = some h ∧ Settled h.query ["hello"] (framesTo 0 s.globals.journal) := by
  have ends : (exec step initial echoedOnce).bind (fun s =>
      s.handlers[0]?.map Handler.endpoint) = some .echo := by
    decide +kernel
  obtain ⟨s, replayed, ends⟩ := Option.bind_eq_some_iff.mp ends
  obtain ⟨h, current, echo⟩ := Option.map_eq_some_iff.mp ends
  have messages : received 0 echoedOnce = ["hello"] := by
    decide
  have settled := echoes_transcript (run_iff_exec.mpr replayed) 0 h current echo
  rw [messages] at settled
  exact ⟨s, h, replayed, current, settled⟩

end PLoadtesting.TargetApps.WebSocket
