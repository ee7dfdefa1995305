import PLoadtesting.TargetApps.WebSocketEchoes
import PLoadtesting.TargetApps.WebSocketFanOut

/-!
The order of broadcast messages.

A member of a room is sent the messages of another one at most once each, in the order
in which they were sent and numbered, and it is sent nothing else: every copy is of a
message that its sender gave, and was numbered while the receiver was a member
(`broadcasts_inOrder`). Across senders there is no order: a handler sends after it has
given the room lock back.
-/

namespace PLoadtesting.TargetApps.WebSocket

open Keyed Transition

/-! ### Copies -/

/-- A copy of the message that its sender had received as one of its messages. -/
structure Copy where
  seen : Nat
  receiver : Conn
  payload : Frame

/-- The number and the text of a broadcast. -/
def Frame.numberedText? : Frame → Option (Nat × String)
  | .broadcast _ _ sequence message _ => some (sequence, message)
  | _ => none

/-- The sequence number in a broadcast. -/
def Copy.number (copy : Copy) : Nat := (copy.payload.numberedText?.map Prod.fst).getD 0

def Entry.copyBy (c : Conn) : Entry → Option Copy
  | .sent sender seen receiver payload =>
      if sender = c ∧ payload.numberedText?.isSome then some ⟨seen, receiver, payload⟩ else none
  | _ => none

/-- The copies of broadcasts that the connection has sent, in order. -/
def copiesBy (c : Conn) (journal : List Entry) : List Copy := journal.filterMap (Entry.copyBy c)

/-- The copies that it has sent to one receiver. -/
def copiesTo (c receiver : Conn) (journal : List Entry) : List Copy :=
  (copiesBy c journal).filter (·.receiver = receiver)

/-- The message that was numbered, in the events so far, for these members. -/
def NumberedFor (es : List Event) (c : Conn) (seen : Nat) (payload : Frame) (m : Conn) : Prop :=
  Occurs (fun before e => ∃ u members, exec step initial before = some u ∧
    Numbering u e c seen payload members ∧ m ∈ members) es

/-- The copy is of a message of its sender, and was numbered when its receiver was a
member. -/
structure Genuine (es : List Event) (c : Conn) (copy : Copy) : Prop where
  numbered : NumberedFor es c copy.seen copy.payload copy.receiver
  message : ∃ text, copy.payload.numberedText? = some (copy.number, text) ∧ 1 ≤ copy.seen ∧
    (received c es)[copy.seen - 1]? = some text

/-- One copy was sent before another: of an earlier message, or of the same one to
another member. -/
def Copy.Before (a b : Copy) : Prop :=
  (a.seen < b.seen ∧ a.number < b.number) ∨
    (a.seen = b.seen ∧ a.payload = b.payload ∧ a.receiver ≠ b.receiver)

theorem copiesBy_append (c : Conn) (journal new : List Entry) :
    copiesBy c (journal ++ new) = copiesBy c journal ++ copiesBy c new := by
  simp [copiesBy]

theorem copiesBy_note {g : Globals} (c : Conn) (e : Entry) :
    copiesBy c (g.note e).journal = copiesBy c g.journal ++ copiesBy c [e] :=
  copiesBy_append c g.journal [e]

theorem Genuine.append {es fs : List Event} {c : Conn} {copy : Copy} (genuine : Genuine es c copy) :
    Genuine (es ++ fs) c copy where
  numbered := genuine.numbered.append fs
  message := by
    obtain ⟨text, shown, first, given⟩ := genuine.message
    refine ⟨text, shown, first, ?_⟩
    rw [received, List.flatMap_append]
    exact (List.getElem?_append_left (List.getElem?_eq_some_iff.mp given).1).trans given

/-! ### What a broadcast handler has sent -/

/-- The last message that the client sent, which is one of that many. -/
def LastGiven (es : List Event) (c : Conn) (seen : Nat) (text : String) : Prop :=
  1 ≤ seen ∧ (received c es).length = seen ∧ (received c es)[seen - 1]? = some text

/-- What the handler has sent when it stands at the position. -/
def SentSoFar (es : List Event) (g : Globals) (c : Conn) (room : String) : Position → Prop
  | .acquiring | .rejecting | .accepting | .joining | .refusing | .welcoming _ =>
      received c es = [] ∧ copiesBy c g.journal = []
  | .receiving seen => (received c es).length = seen ∧
      ∀ copy ∈ copiesBy c g.journal, copy.seen ≤ seen ∧ copy.number ≤ g.sequence room
  | .sequencing seen message => LastGiven es c seen message ∧
      ∀ copy ∈ copiesBy c g.journal, copy.seen < seen ∧ copy.number ≤ g.sequence room
  | .sending seen payload peers index => ∃ text number,
      payload.numberedText? = some (number, text) ∧ number ≤ g.sequence room ∧
        LastGiven es c seen text ∧ peers.Nodup ∧
        (∀ m ∈ peers, NumberedFor es c seen payload m) ∧
        ∀ copy ∈ copiesBy c g.journal, (copy.seen < seen ∧ copy.number < number) ∨
          (copy.seen = seen ∧ copy.payload = payload ∧ copy.receiver ∈ peers.take index)
  | _ => True

/-- The copies that a handler has sent. -/
structure Said (es : List Event) (g : Globals) (c : Conn) (room : String) (p : Position) :
    Prop where
  ordered : (copiesBy c g.journal).Pairwise Copy.Before
  genuine : ∀ copy ∈ copiesBy c g.journal, Genuine es c copy
  soFar : SentSoFar es g c room p

section Steps

variable {es fs : List Event} {c : Conn} {h : Handler} {o : Outcome} {g g' : Globals}
  {room : String} {p p' : Position} {result : Handler × Globals}

/-- No copy was sent. -/
theorem Said.move (said : Said es g c room p) (same : copiesBy c g'.journal = copiesBy c g.journal)
    (soFar : SentSoFar (es ++ fs) g' c room p') : Said (es ++ fs) g' c room p' where
  ordered := same ▸ said.ordered
  genuine copy mem := (said.genuine copy (same ▸ mem)).append
  soFar := soFar

/-- Others took a step. -/
theorem Said.others (said : Said es g c room p)
    (same : copiesBy c g'.journal = copiesBy c g.journal)
    (messages : received c (es ++ fs) = received c es)
    (sequence : p.ofMember = true → g.sequence room ≤ g'.sequence room) :
    Said (es ++ fs) g' c room p := by
  refine said.move same ?_
  have soFar := said.soFar
  have bounded {copies : List Copy} {q : Copy → Prop} (member : p.ofMember = true)
      (sent : ∀ copy ∈ copies, q copy ∧ copy.number ≤ g.sequence room) :
      ∀ copy ∈ copies, q copy ∧ copy.number ≤ g'.sequence room := fun copy mem =>
    ⟨(sent copy mem).1, Nat.le_trans (sent copy mem).2 (sequence member)⟩
  cases p with
  | receiving seen =>
      rw [SentSoFar, same, messages]
      exact ⟨soFar.1, bounded rfl soFar.2⟩
  | sequencing seen message =>
      rw [SentSoFar, LastGiven, same, messages]
      exact ⟨soFar.1, bounded rfl soFar.2⟩
  | sending seen payload peers index =>
      obtain ⟨text, number, shown, bound, given, nodup, numbered, sent⟩ := soFar
      simp only [SentSoFar, LastGiven, same, messages]
      exact ⟨text, number, shown, Nat.le_trans bound (sequence rfl), given, nodup,
        fun m mem => (numbered m mem).append fs, sent⟩
  | acquiring => exact ⟨messages.trans soFar.1, same.trans soFar.2⟩
  | rejecting => exact ⟨messages.trans soFar.1, same.trans soFar.2⟩
  | accepting => exact ⟨messages.trans soFar.1, same.trans soFar.2⟩
  | joining => exact ⟨messages.trans soFar.1, same.trans soFar.2⟩
  | refusing => exact ⟨messages.trans soFar.1, same.trans soFar.2⟩
  | welcoming _ => exact ⟨messages.trans soFar.1, same.trans soFar.2⟩
  | _ => trivial

/-- A handler whose `try` clause was left. -/
theorem sentSoFar_caught (e : Raised) : SentSoFar es g c room (h.caught e).position := by
  rcases caught_position (h := h) e with next | next | next
  all_goals
    rw [next]
    trivial

theorem sentSoFar_toFinally : SentSoFar es g c room h.toFinally.position := by
  unfold Handler.toFinally
  by_cases added : h.addedToRoom = true
  all_goals
    simp only [added, Handler.goto]
    trivial

theorem sentSoFar_loop {seen : Nat} (soFar : SentSoFar es g c room (.receiving seen)) :
    SentSoFar es g c room (h.loop seen).position := by
  unfold Handler.loop
  split
  · exact soFar
  · trivial

theorem copiesBy_other {e : Entry} (other : e.copyBy c = none) :
    copiesBy c (g.note e).journal = copiesBy c g.journal := by
  rw [copiesBy_note, copiesBy, copiesBy, List.filterMap_cons_none other, List.filterMap_nil,
    List.append_nil]

theorem Said.acquire (said : Said es g c room .acquiring) :
    Said (es ++ [.resume c .done]) (tryAcquireConnection g).2 c room
      (if (tryAcquireConnection g).1 then .accepting else .rejecting) := by
  have early : received c (es ++ [.resume c .done]) = [] ∧ copiesBy c g.journal = [] := by
    rw [received_concat, said.soFar.1]
    exact ⟨by simp [Event.acceptedBy, Outcome.accepted], said.soFar.2⟩
  unfold tryAcquireConnection
  split
  · exact said.move rfl early
  · exact said.move rfl early

/-- The awaits that both handlers share. -/
theorem common_said (runs : h.common g c o = some result) (said : Said es g c room h.position) :
    Said (es ++ [.resume c o]) result.2 c room result.1.position := by
  unfold Handler.common at runs
  split at runs
  all_goals cases runs
  all_goals rename_i start
  all_goals rw [start] at said
  · exact said.acquire
  · exact said.move rfl trivial
  · exact said.move rfl trivial
  · exact said.move rfl trivial
  · exact said.move rfl trivial
  · exact said.move rfl (sentSoFar_caught _)
  · exact said.move (copiesBy_other (by simp [Entry.copyBy, Frame.numberedText?])) trivial
  · exact said.move rfl sentSoFar_toFinally
  · exact said.move rfl sentSoFar_toFinally
  · exact said.move rfl sentSoFar_toFinally
  · exact said.move rfl trivial
  · exact said.move rfl trivial
  · exact said.move rfl (sentSoFar_caught _)
  · exact said.move rfl (sentSoFar_caught _)
  · exact said.move rfl (sentSoFar_caught _)
  · exact said.move rfl (sentSoFar_caught _)
  · exact said.move rfl (sentSoFar_caught _)

/-- The loop of a fan-out goes on to the peer with the index, or ends. -/
theorem Said.fanOut {seen index : Nat} {payload : Frame} {peers : List Conn}
    (said : Said es g c room (.sending seen payload peers index)) :
    Said es (h.fanOut g c seen payload peers index).2 c room
      (h.fanOut g c seen payload peers index).1.position := by
  unfold Handler.fanOut
  split
  · exact said
  · have same : copiesBy c (g.note (.fannedOut c seen peers payload)).journal =
        copiesBy c g.journal := copiesBy_other rfl
    obtain ⟨text, number, shown, bound, given, _, _, sent⟩ := said.soFar
    refine ⟨same ▸ said.ordered, same ▸ said.genuine, sentSoFar_loop ⟨given.2.1, ?_⟩⟩
    rw [same]
    intro copy mem
    rcases sent copy mem with ⟨earlier, less⟩ | ⟨now, payloads, _⟩
    · exact ⟨Nat.le_of_lt earlier, Nat.le_trans (Nat.le_of_lt less) bound⟩
    · refine ⟨Nat.le_of_eq now, ?_⟩
      rw [Copy.number, payloads, shown]
      exact bound

/-- A copy is sent to the peer with the index. -/
theorem Said.send {seen index : Nat} {payload : Frame} {peers : List Conn} {peer : Conn}
    (said : Said es g c room (.sending seen payload peers index))
    (next : peers[index]? = some peer) :
    Said es (g.note (.sent c seen peer payload)) c room (.sending seen payload peers (index + 1)) :=
  by
  obtain ⟨text, number, shown, bound, given, nodup, numbered, sent⟩ := said.soFar
  have among : peer ∈ peers := List.mem_of_getElem? next
  have isNumber : (⟨seen, peer, payload⟩ : Copy).number = number := by
    rw [Copy.number, shown]
    rfl
  have one : copiesBy c (g.note (.sent c seen peer payload)).journal =
      copiesBy c g.journal ++ [⟨seen, peer, payload⟩] := by
    rw [copiesBy_note]
    simp [copiesBy, Entry.copyBy, shown]
  have taken : peers.take (index + 1) = peers.take index ++ [peer] := by
    rw [List.take_add_one, next]
    rfl
  refine ⟨?_, ?_, text, number, shown, bound, given, nodup, numbered, ?_⟩
  · rw [one, List.pairwise_append]
    refine ⟨said.ordered, List.pairwise_singleton _ _, fun copy mem last isLast => ?_⟩
    rw [List.mem_singleton.mp isLast]
    rcases sent copy mem with ⟨earlier, less⟩ | ⟨now, payloads, before⟩
    · exact .inl ⟨earlier, isNumber ▸ less⟩
    · refine .inr ⟨now, payloads, ?_⟩
      rintro rfl
      have distinct : (peers.take index ++ [copy.receiver]).Nodup :=
        taken ▸ nodup.sublist (List.take_sublist _ _)
      exact (List.nodup_append.mp distinct).2.2 _ before _ (List.mem_singleton.mpr rfl) rfl
  · rw [one]
    intro copy mem
    rcases List.mem_append.mp mem with old | last
    · exact said.genuine copy old
    · rw [List.mem_singleton.mp last]
      refine ⟨numbered peer among, text, ?_, given.1, given.2.2⟩
      rw [isNumber]
      exact shown
  · rw [one]
    intro copy mem
    rcases List.mem_append.mp mem with old | last
    · rcases sent copy old with earlier | ⟨now, payloads, before⟩
      · exact .inl earlier
      · exact .inr ⟨now, payloads, taken ▸ List.mem_append_left _ before⟩
    · rw [List.mem_singleton.mp last]
      exact .inr ⟨rfl, rfl, taken ▸ List.mem_append_right _ (List.mem_singleton.mpr rfl)⟩

theorem sequence_number (room other : String) : (g.number room).sequence other =
    if other = room then g.sequence room + 1 else g.sequence other := by
  change ((g.roomSequences.set room (g.sequence room + 1)).get? other).getD 0 = _
  rw [Dict.get?_set]
  split <;> rfl

/-- The message is numbered, and its fan-out begins. -/
theorem Said.number {clientId message : String} {seen : Nat} {peers : List Conn}
    (said : Said es g c room (.sequencing seen message)) (nodup : peers.Nodup) (query : Query)
    (numbered : ∀ m ∈ peers, NumberedFor (es ++ fs) c seen
      (.broadcast room clientId (g.sequence room + 1) message query) m)
    (messages : received c (es ++ fs) = received c es) :
    Said (es ++ fs) (g.number room) c room
      (.sending seen (.broadcast room clientId (g.sequence room + 1) message query) peers 0) := by
  have same : copiesBy c (g.number room).journal = copiesBy c g.journal := copiesBy_other rfl
  refine said.move same ⟨message, g.sequence room + 1, rfl, ?_, ?_, nodup, numbered, ?_⟩
  · exact Nat.le_of_eq (by rw [sequence_number, if_pos rfl])
  · rw [LastGiven, messages]
    exact said.soFar.1
  · rw [same]
    intro copy mem
    obtain ⟨earlier, bound⟩ := said.soFar.2 copy mem
    exact .inl ⟨earlier, Nat.lt_succ_of_le bound⟩

theorem wsBroadcast_said {s : State} {clientId : String} (reached : exec step initial es = some s)
    (current : s.handlers[c]? = some h) (own : h.endpoint = .broadcast room clientId)
    (joined : RoomsJoined s) (runs : wsBroadcast room clientId c h o s.globals = some result)
    (said : Said es s.globals c room h.position) :
    Said (es ++ [.resume c o]) result.2 c room result.1.position := by
  have silent (accepts : o.accepted = []) : received c (es ++ [.resume c o]) = received c es := by
    rw [received_concat, Event.acceptedBy, if_pos rfl, accepts, List.append_nil]
  unfold wsBroadcast at runs
  split at runs
  case h_1 start =>
      cases runs
      rw [start] at said
      exact said.move rfl ⟨(silent rfl).trans said.soFar.1, said.soFar.2⟩
  case h_2 start =>
      rw [start] at said
      have early : received c (es ++ [.resume c .done]) = [] := (silent rfl).trans said.soFar.1
      split at runs
      · cases runs
      · dsimp only at runs
        split at runs
        · cases runs
          exact said.move rfl ⟨early, said.soFar.2⟩
        · cases runs
          by_cases empty : (s.globals.members room).isEmpty = true
          · have same : copiesBy c (s.globals.note (.opened room)).journal =
                copiesBy c s.globals.journal := copiesBy_other rfl
            simp only [empty, if_true]
            exact said.move same ⟨early, same.trans said.soFar.2⟩
          · simp only [empty]
            exact said.move rfl ⟨early, said.soFar.2⟩
  case h_3 =>
      cases runs
      exact said.move rfl (sentSoFar_caught _)
  case h_4 =>
      cases runs
      exact said.move rfl sentSoFar_toFinally
  case h_5 =>
      cases runs
      exact said.move rfl (sentSoFar_caught _)
  case h_6 roomSize start =>
      cases runs
      rw [start] at said
      have same : copiesBy c (s.globals.note (.sent c 0 c
          (.welcomeBroadcast room clientId roomSize h.query))).journal =
            copiesBy c s.globals.journal :=
        copiesBy_other (by simp [Entry.copyBy, Frame.numberedText?])
      refine said.move same (sentSoFar_loop ⟨?_, ?_⟩)
      · rw [silent rfl, said.soFar.1]
        rfl
      · rw [same, said.soFar.2]
        exact fun copy mem => absurd mem List.not_mem_nil
  case h_7 seen text start =>
      rw [start] at said
      obtain ⟨length, sent⟩ := said.soFar
      split at runs
      · cases runs
        exact said.move rfl trivial
      · rename_i short
        cases runs
        have grown : received c (es ++ [.resume c (.received text)]) = received c es ++ [text] := by
          rw [received_concat, Event.acceptedBy, if_pos rfl, Outcome.accepted, if_neg short]
        refine said.move rfl ⟨?_, fun copy mem => ?_⟩
        · rw [LastGiven, grown, List.length_append, length, Nat.add_sub_cancel]
          exact ⟨Nat.le_add_left 1 seen, rfl,
            List.getElem?_append_right (Nat.le_of_eq length) |>.trans
            (by simp [length])⟩
        · exact ⟨Nat.lt_succ_of_le (sent copy mem).1, (sent copy mem).2⟩
  case h_8 seen message peers start =>
      rw [start] at said
      split at runs
      · cases runs
      · rename_i admitted
        cases runs
        simp only [Bool.or_eq_true, Bool.not_eq_true', not_or, Bool.not_eq_false] at admitted
        have snapshot : peers.Perm (s.globals.members room) := List.isPerm_iff.mp admitted.2
        refine (said.number (snapshot.nodup_iff.mpr (joined.kept.nodup_members room)) h.query
          (fun m mem => ?_) (silent rfl)).fanOut
        exact occurs_concat.mpr (.inr ⟨s, s.globals.members room, reached,
          .intro current own start, snapshot.mem_iff.mp mem⟩)
  case h_9 =>
      cases runs
      exact said.move rfl (sentSoFar_caught _)
  case h_10 seen payload peers index start =>
      rw [start] at said
      split at runs
      · cases runs
      · rename_i peer next
        cases runs
        have later : Said (es ++ [.resume c .done]) s.globals c room
            (.sending seen payload peers index) :=
          said.others rfl (silent rfl) fun _ => Nat.le_refl _
        exact (later.send next).fanOut
  case h_11 =>
      cases runs
      exact said.move (copiesBy_other rfl) (sentSoFar_caught _)
  case h_12 =>
      split at runs
      · cases runs
      · split at runs
        · cases runs
          exact said.move rfl trivial
        · cases runs
          dsimp only
          split
          · exact said.move rfl trivial
          · exact said.move rfl trivial
  case h_13 =>
      cases runs
      exact said.move rfl trivial
  case h_14 => exact common_said runs said

/-- The numbers of a room go up as long as another member stays in it. -/
theorem Move.sequence_le {d : Conn} (move : Move d h o g result) {x : Conn} (other : x ≠ d)
    (member : x ∈ g.members room) : g.sequence room ≤ result.2.sequence room := by
  have fanOut (g' : Globals) (seen : Nat) (payload : Frame) (peers : List Conn) (index : Nat) :
      (h.fanOut g' d seen payload peers index).2.sequence room = g'.sequence room := by
    unfold Handler.fanOut
    split <;> rfl
  cases move with
  | quiet quiet =>
      exact Nat.le_of_eq (by rw [Globals.sequence, Globals.sequence, quiet.sequences])
  | joined own start space =>
      exact Nat.le_of_eq (by rw [Globals.sequence, Globals.sequence, sequences_join])
  | numbered own start snapshot frame =>
      rw [fanOut, sequence_number]
      split
      · rename_i same
        rw [same]
        exact Nat.le_succ _
      · exact Nat.le_refl _
  | delivered start next =>
      rw [fanOut]
      exact Nat.le_refl _
  | @left leaving clientId peers own start present =>
      unfold Globals.leave
      split
      · rename_i empty
        have elsewhere : room ≠ leaving := by
          rintro rfl
          rw [members_of_get present] at member
          have stays : x ∈ peers.erase d := (List.mem_erase_of_ne other).mpr member
          rw [List.isEmpty_iff.mp empty] at stays
          cases stays
        exact Nat.le_of_eq
          (by rw [Globals.sequence, Globals.sequence, Dict.get?_pop, if_neg elsewhere])
      · exact Nat.le_refl _
  | _ => exact Nat.le_refl _

end Steps

/-! ### Runs -/

/-- What the broadcast handlers have sent in a run. -/
structure OrderKept (es : List Event) (s : State) : Prop where
  reached : exec step initial es = some s
  joined : RoomsJoined s
  known : ∀ c, s.handlers.length ≤ c →
    received c es = [] ∧ copiesBy c s.globals.journal = []
  said : ∀ (c : Conn) (h : Handler) room clientId, s.handlers[c]? = some h →
    h.endpoint = .broadcast room clientId → Said es s.globals c room h.position

section Runs

variable {es : List Event} {s t : State} {e : Event}

theorem copiesBy_others {c d : Conn} {h : Handler} {journal new : List Entry}
    (own : ∀ e ∈ new, e.OwnOf d h) (other : c ≠ d) :
    copiesBy c (journal ++ new) = copiesBy c journal := by
  have none : copiesBy c new = [] := by
    refine List.filterMap_eq_nil_iff.mpr fun e mem => ?_
    cases e with
    | sent sender seen receiver frame =>
        refine if_neg fun same => other ?_
        exact same.1.symm.trans (own _ mem).1
    | _ => rfl
  rw [copiesBy_append, none, List.append_nil]

/-- A handler is replaced by what it became in a step. -/
theorem OrderKept.set (kept : OrderKept es s) {d : Conn} {h h' : Handler} {g' : Globals}
    (reached : exec step initial (es ++ [e]) = some ⟨g', s.handlers.set d h'⟩)
    (joined : RoomsJoined ⟨g', s.handlers.set d h'⟩) (current : s.handlers[d]? = some h)
    (endpoint : h'.endpoint = h.endpoint)
    (others : ∀ c, c ≠ d → received c (es ++ [e]) = received c es ∧
      copiesBy c g'.journal = copiesBy c s.globals.journal ∧
      ∀ room, c ∈ s.globals.members room → s.globals.sequence room ≤ g'.sequence room)
    (own : ∀ room clientId, h.endpoint = .broadcast room clientId →
      Said (es ++ [e]) g' d room h'.position) :
    OrderKept (es ++ [e]) ⟨g', s.handlers.set d h'⟩ := by
  have inside : d < s.handlers.length := (List.getElem?_eq_some_iff.mp current).1
  refine ⟨reached, joined, ?_, ?_⟩
  · intro c past
    rw [List.length_set] at past
    obtain ⟨messages, copies, _⟩ := others c (Nat.ne_of_gt (Nat.lt_of_lt_of_le inside past))
    rw [messages, copies]
    exact kept.known c past
  · intro c k room clientId here broadcast
    by_cases other : c = d
    · subst other
      rw [List.getElem?_set_self inside] at here
      cases here
      exact own room clientId (endpoint ▸ broadcast)
    · rw [List.getElem?_set_ne (Ne.symm other)] at here
      obtain ⟨messages, copies, sequence⟩ := others c other
      refine (kept.said c k room clientId here broadcast).others copies messages fun member => ?_
      have placed := kept.joined.placed k (List.mem_of_getElem? here)
      refine sequence room ((kept.joined.members c room).mpr ⟨k, here, ?_⟩)
      refine room_eq broadcast (placed.member room clientId broadcast member) ?_
      revert member
      cases k.position <;> exact fun _ => by first | rfl | contradiction

theorem OrderKept.step (kept : OrderKept es s) (moves : step s e = some t) :
    OrderKept (es ++ [e]) t := by
  have joined := kept.joined.step moves
  have reached : exec WebSocket.step initial (es ++ [e]) = some t :=
    ((run_iff_exec.mpr kept.reached).append (.next trivial moves (.done t))).exec
  cases e with
  | connect endpoint query =>
      cases moves
      have same (c : Conn) : received c (es ++ [.connect endpoint query]) = received c es := by
        rw [received_concat]
        exact List.append_nil _
      refine ⟨reached, joined, ?_, ?_⟩
      · intro c past
        rw [List.length_append] at past
        rw [same]
        exact kept.known c (Nat.le_of_add_right_le past)
      · intro c h room clientId current broadcast
        by_cases inside : c < s.handlers.length
        · rw [List.getElem?_append_left inside] at current
          exact (kept.said c h room clientId current broadcast).others rfl (same c)
            fun _ => Nat.le_refl _
        · rcases getElem?_concat_cases current with old | rfl
          · exact absurd (List.getElem?_eq_some_iff.mp old).1 inside
          · obtain ⟨messages, copies⟩ := kept.known c (Nat.le_of_not_lt inside)
            refine ⟨?_, ?_, (same c).trans messages, copies⟩
            · rw [copies]
              exact .nil
            · rw [copies]
              exact fun copy mem => absurd mem List.not_mem_nil
  | disconnect d =>
      obtain ⟨h, current, rfl⟩ := Option.map_eq_some_iff.mp moves
      have same (c : Conn) : received c (es ++ [.disconnect d]) = received c es := by
        rw [received_concat]
        exact List.append_nil _
      refine kept.set reached joined current rfl
        (fun c _ => ⟨same c, rfl, fun _ _ => Nat.le_refl _⟩) fun room clientId broadcast => ?_
      exact (kept.said d h room clientId current broadcast).others rfl (same d)
        fun _ => Nat.le_refl _
  | resume d o =>
      obtain ⟨h, result, current, runs, rfl⟩ := step_resume moves
      have move := resume_move (kept.joined.placed h (List.mem_of_getElem? current)) runs
      refine kept.set reached joined current (resume_same runs).1 (fun c other => ?_)
        fun room clientId broadcast => ?_
      · obtain ⟨new, appended, own⟩ := move.appends
        rw [appended]
        exact ⟨received_other (Ne.symm other), copiesBy_others own other,
          fun room member => move.sequence_le other member⟩
      · have said := kept.said d h room clientId current broadcast
        rw [Handler.resume, broadcast] at runs
        exact wsBroadcast_said kept.reached current broadcast kept.joined runs said

end Runs

theorem orderKept_initial : OrderKept [] initial where
  reached := rfl
  joined := roomsJoined_initial
  known _ _ := ⟨rfl, rfl⟩
  said c h room clientId current := by cases current

/-- In every run, what one member of a room is sent by another is a list of its messages
in order, each at most once, with numbers that go up; and each was numbered when the
receiver was a member. -/
theorem broadcasts_inOrder {es : List Event} {s : State}
    (run : Run step (fun _ _ => True) initial es s) (c : Conn) (h : Handler)
    (current : s.handlers[c]? = some h) (room clientId : String)
    (broadcast : h.endpoint = .broadcast room clientId) (m : Conn) :
    (copiesTo c m s.globals.journal).Pairwise (fun a b =>
      a.seen < b.seen ∧ a.number < b.number) ∧
    ∀ copy ∈ copiesTo c m s.globals.journal, Genuine es c copy ∧ copy.receiver = m := by
  have kept : OrderKept es s :=
    run.history orderKept_initial fun _ _ _ _ kept _ moves => kept.step moves
  have said := kept.said c h room clientId current broadcast
  constructor
  · refine (said.ordered.filter _).imp_of_mem fun first second before => ?_
    have toFirst := of_decide_eq_true (List.mem_filter.mp first).2
    have toSecond := of_decide_eq_true (List.mem_filter.mp second).2
    rcases before with earlier | ⟨_, _, apart⟩
    · exact earlier
    · exact absurd (toFirst.trans toSecond.symm) apart
  · intro copy mem
    obtain ⟨sent, same⟩ := List.mem_filter.mp mem
    exact ⟨said.genuine copy sent, of_decide_eq_true same⟩

theorem broadcasts_inOrder_reachesAll : ∃ s, exec step initial reachesAll = some s ∧
    (copiesTo 0 2 s.globals.journal).map Copy.payload = [hello] ∧
    ∀ copy ∈ copiesTo 0 2 s.globals.journal, Genuine reachesAll 0 copy := by
  have ends : (exec step initial reachesAll).map (fun s =>
      (s.handlers[0]?.map Handler.endpoint, (copiesTo 0 2 s.globals.journal).map Copy.payload)) =
      some (some (.broadcast "lobby" "a"), [hello]) := by
    decide +kernel
  obtain ⟨s, replayed, ends⟩ := Option.map_eq_some_iff.mp ends
  simp only [Prod.mk.injEq] at ends
  obtain ⟨endpoint, copies⟩ := ends
  obtain ⟨h, current, broadcast⟩ := Option.map_eq_some_iff.mp endpoint
  have sent := (broadcasts_inOrder (run_iff_exec.mpr replayed) 0 h current "lobby" "a" broadcast
    2).2
  exact ⟨s, replayed, copies, fun copy mem => (sent copy mem).1⟩

end PLoadtesting.TargetApps.WebSocket
