import PLoadtesting.Lib.Table
import PLoadtesting.Lib.Transition

/-!
`ws_api.py`: the WebSocket handlers `ws_echo` and `ws_broadcast`, interleaved at
their awaits.

A `Handler` stands at an await. When the await completes or raises, the handler
runs on to its next await (`wsEcho`, `wsBroadcast`), and between two steps of a
handler any others may run. Nothing is awaited while `_active_lock` is held, so
its critical sections are parts of one step; `_room_lock` is held across the close
of a client that finds its room full. Any await may raise anything.

The `journal` records what was sent and numbered. No code reads it.
-/

namespace PLoadtesting.TargetApps.WebSocket

open Keyed Transition

def maxMessageSize : Nat := 1024
def maxMessagesPerConnection : Nat := 10
def maxConcurrentConnections : Nat := 20
def maxRoomSize : Nat := 5

/-- A connection: the index of its handler. -/
abbrev Conn := Nat

/-- The query parameters that the frames repeat. -/
structure Query where
  deterministic : Bool
  seed : Int
  deriving DecidableEq

inductive Endpoint where
  | echo
  | broadcast (room clientId : String)
  deriving DecidableEq

/-- The JSON texts that the handlers send. -/
inductive Frame where
  | welcomeEcho (query : Query) (maxMessages : Nat)
  | echo (sequence : Nat) (message : String) (query : Query)
  | welcomeBroadcast (room clientId : String) (roomSize : Nat) (query : Query)
  | broadcast (room sender : String) (sequence : Nat) (message : String) (query : Query)
  | limitReached (sequence : Nat)
  deriving DecidableEq

/-- The await at which a handler stands, with the local variables it needs later. -/
inductive Position where
  /-- `_try_acquire_connection()`. -/
  | acquiring
  /-- `close(1013)`: there is no free slot. -/
  | rejecting
  /-- `accept()`. -/
  | accepting
  /-- `async with _room_lock`, to join. -/
  | joining
  /-- `close(1013)` under the room lock: the room is full. -/
  | refusing
  /-- The welcome message. -/
  | welcoming (roomSize : Nat)
  /-- `_receive_bounded_text()`. -/
  | receiving (messagesSeen : Nat)
  /-- `close(1009)` in `_receive_bounded_text()`. -/
  | closingOversize
  /-- The echo of a message. -/
  | echoing (messagesSeen : Nat) (message : String)
  /-- `async with _room_lock`, to number a message. -/
  | sequencing (messagesSeen : Nat) (message : String)
  /-- `peer.send_text(payload)` for the peer with the index. -/
  | sending (messagesSeen : Nat) (payload : Frame) (peers : List Conn) (index : Nat)
  /-- The last message of a connection. -/
  | limiting (messagesSeen : Nat)
  /-- `close(1000)`. -/
  | closing
  /-- `close(1001)` after a timeout. -/
  | closingIdle
  /-- `async with _room_lock` in the `finally` clause. -/
  | leaving
  /-- `_release_connection()` in the `finally` clause. -/
  | releasing
  | finished
  /-- The handler ended with an exception before its slot was given back; `inRoom`
  when it had not left its room either. -/
  | aborted (inRoom : Bool)
  deriving DecidableEq

/-- A handler; `connected` as long as its WebSocket is open. -/
structure Handler where
  endpoint : Endpoint
  query : Query
  position : Position
  addedToRoom : Bool
  connected : Bool
  deriving DecidableEq

/-- What has happened. -/
inductive Entry where
  /-- `send_text` to the receiver has returned; the sender had seen so many
  messages. -/
  | sent (sender : Conn) (messagesSeen : Nat) (receiver : Conn) (frame : Frame)
  /-- A connection joined a room that had no members. -/
  | opened (room : String)
  | numbered (room : String) (sequence : Nat)
  /-- The fan-out of a payload to the members of the room has ended. -/
  | fannedOut (sender : Conn) (messagesSeen : Nat) (members : List Conn) (payload : Frame)
  deriving DecidableEq

/-- The globals of the module, and the journal. -/
structure Globals where
  activeConnections : Nat
  rooms : Dict (List Conn)
  roomLock : Option Conn
  roomSequences : Dict Nat
  journal : List Entry

/-! ### Awaits -/

inductive Raised where
  | timeout
  | disconnect
  | other
  deriving DecidableEq

/-- How an await ends. -/
inductive Outcome where
  | done
  | received (text : String)
  /-- The lock is acquired; `peers` is the order in which `list` reads the set. -/
  | snapshot (peers : List Conn)
  | raised (e : Raised)
  deriving DecidableEq

/-! ### The pieces that the handlers share -/

/-- `_try_acquire_connection`. -/
def tryAcquireConnection (g : Globals) : Bool × Globals :=
  if g.activeConnections ≥ maxConcurrentConnections then (false, g)
  else (true, { g with activeConnections := g.activeConnections + 1 })

/-- `_release_connection`. -/
def releaseConnection (g : Globals) : Globals :=
  { g with activeConnections := g.activeConnections - 1 }

namespace Globals

def note (g : Globals) (e : Entry) : Globals := { g with journal := g.journal ++ [e] }

/-- `_rooms[room]`. -/
def members (g : Globals) (room : String) : List Conn := (g.rooms.get? room).getD []

end Globals

namespace Handler

def goto (h : Handler) (position : Position) : Handler := { h with position }

/-- The WebSocket was closed. -/
def closed (h : Handler) : Handler := { h with connected := false }

/-- The handler ends, and the server closes its WebSocket. -/
def finish (h : Handler) : Handler := h.closed.goto .finished

/-- The handler ends with its slot taken. -/
def abort (h : Handler) (inRoom : Bool) : Handler := h.closed.goto (.aborted inRoom)

/-- The `finally` clause. -/
def toFinally (h : Handler) : Handler := h.goto (if h.addedToRoom then .leaving else .releasing)

/-- The `except` clauses. -/
def caught (h : Handler) : Raised → Handler
  | .timeout => h.goto .closingIdle
  | .disconnect | .other => h.toFinally

/-- `while messages_seen < MAX_MESSAGES_PER_CONNECTION`. -/
def loop (h : Handler) (messagesSeen : Nat) : Handler :=
  h.goto (if messagesSeen < maxMessagesPerConnection then .receiving messagesSeen
    else .limiting messagesSeen)

/-- `for peer in peers`, from the peer with the index on. -/
def fanOut (h : Handler) (g : Globals) (self : Conn) (messagesSeen : Nat) (payload : Frame)
    (peers : List Conn) (index : Nat) : Handler × Globals :=
  if index < peers.length then (h.goto (.sending messagesSeen payload peers index), g)
  else (h.loop messagesSeen, g.note (.fannedOut self messagesSeen peers payload))

/-- The awaits that both handlers pass in the same way. -/
def common (h : Handler) (g : Globals) (self : Conn) (o : Outcome) : Option (Handler × Globals) :=
  match h.position, o with
  | .acquiring, .done =>
      let (acquired, g) := tryAcquireConnection g
      some (h.goto (if acquired then .accepting else .rejecting), g)
  | .acquiring, .raised _ => some (h.finish, g)
  | .rejecting, .done => some (h.finish, g)
  | .rejecting, .raised _ => some (h.finish, g)
  | .accepting, .raised _ => some (h.abort false, g)
  | .closingOversize, .done => some (h.closed.caught .disconnect, g)
  | .limiting seen, .done =>
      some (h.goto .closing, g.note (.sent self seen self (.limitReached seen)))
  | .closing, .done => some (h.closed.toFinally, g)
  | .closingIdle, .done => some (h.closed.toFinally, g)
  | .closingIdle, .raised _ => some (h.toFinally, g)
  | .releasing, .done => some (h.finish, releaseConnection g)
  | .releasing, .raised _ => some (h.abort false, g)
  | .welcoming _, .raised e => some (h.caught e, g)
  | .receiving _, .raised e => some (h.caught e, g)
  | .closingOversize, .raised e => some (h.caught e, g)
  | .limiting _, .raised e => some (h.caught e, g)
  | .closing, .raised e => some (h.caught e, g)
  | _, _ => none

end Handler

/-! ### The handlers -/

/-- `ws_echo`, from an await to the next one. -/
def wsEcho (self : Conn) (h : Handler) (o : Outcome) (g : Globals) : Option (Handler × Globals) :=
  match h.position, o with
  | .accepting, .done => some (h.goto (.welcoming 0), g)
  | .welcoming _, .done =>
      some (h.loop 0, g.note (.sent self 0 self (.welcomeEcho h.query maxMessagesPerConnection)))
  | .receiving seen, .received text =>
      if text.length > maxMessageSize then some (h.goto .closingOversize, g)
      else some (h.goto (.echoing (seen + 1) text), g)
  | .echoing seen message, .done =>
      some (h.loop seen, g.note (.sent self seen self (.echo seen message h.query)))
  | .echoing _ _, .raised e => some (h.caught e, g)
  | _, _ => h.common g self o

/-- `ws_broadcast`, from an await to the next one. -/
def wsBroadcast (room clientId : String) (self : Conn) (h : Handler) (o : Outcome) (g : Globals) :
    Option (Handler × Globals) :=
  match h.position, o with
  | .accepting, .done => some (h.goto .joining, g)
  | .joining, .done =>
      if g.roomLock.isSome then none
      else
        let peers := g.members room
        if peers.length ≥ maxRoomSize then
          some (h.goto .refusing, { g with rooms := g.rooms.set room peers, roomLock := some self })
        else
          let g := if peers.isEmpty then g.note (.opened room) else g
          let peers := peers.insert self
          some ({ h with position := .welcoming peers.length, addedToRoom := true },
            { g with rooms := g.rooms.set room peers })
  | .joining, .raised e => some (h.caught e, g)
  | .refusing, .done => some (h.closed.toFinally, { g with roomLock := none })
  | .refusing, .raised e => some (h.caught e, { g with roomLock := none })
  | .welcoming roomSize, .done =>
      some (h.loop 0, g.note (.sent self 0 self (.welcomeBroadcast room clientId roomSize h.query)))
  | .receiving seen, .received text =>
      if text.length > maxMessageSize then some (h.goto .closingOversize, g)
      else some (h.goto (.sequencing (seen + 1) text), g)
  | .sequencing seen message, .snapshot peers =>
      if g.roomLock.isSome || !peers.isPerm (g.members room) then none
      else
        let sequence := (g.roomSequences.get? room).getD 0 + 1
        let g := { g with
          roomSequences := g.roomSequences.set room sequence
          rooms := g.rooms.set room (g.members room) }.note (.numbered room sequence)
        some (h.fanOut g self seen (.broadcast room clientId sequence message h.query) peers 0)
  | .sequencing _ _, .raised e => some (h.caught e, g)
  | .sending seen payload peers index, .done =>
      match peers[index]? with
      | none => none
      | some peer =>
          let g := g.note (.sent self seen peer payload)
          some (h.fanOut g self seen payload peers (index + 1))
  | .sending seen payload peers _, .raised e =>
      some (h.caught e, g.note (.fannedOut self seen peers payload))
  | .leaving, .done =>
      if g.roomLock.isSome then none
      else
        match g.rooms.get? room with
        | none => some (h.goto .releasing, g)
        | some peers =>
            let peers := peers.erase self
            some (h.goto .releasing,
              if peers.isEmpty then
                { g with rooms := g.rooms.pop room, roomSequences := g.roomSequences.pop room }
              else { g with rooms := g.rooms.set room peers })
  | .leaving, .raised _ => some (h.abort true, g)
  | _, _ => h.common g self o

/-- The endpoint of a handler, from an await to the next one. -/
def Handler.resume (h : Handler) (self : Conn) (o : Outcome) (g : Globals) :
    Option (Handler × Globals) :=
  match h.endpoint with
  | .echo => wsEcho self h o g
  | .broadcast room clientId => wsBroadcast room clientId self h o g

/-! ### The system -/

structure State where
  globals : Globals
  handlers : List Handler

/-- The state when the module is loaded. -/
def initial : State := ⟨⟨0, Table.empty, none, Table.empty, []⟩, []⟩

inductive Event where
  /-- A client opens a WebSocket. -/
  | connect (endpoint : Endpoint) (query : Query)
  /-- The client of the connection goes away. -/
  | disconnect (c : Conn)
  /-- The await of the handler ends. -/
  | resume (c : Conn) (o : Outcome)
  deriving DecidableEq

def step (s : State) : Event → Option State
  | .connect endpoint query =>
      some { s with handlers := s.handlers ++ [⟨endpoint, query, .acquiring, false, true⟩] }
  | .disconnect c =>
      (s.handlers[c]?).map fun h => { s with handlers := s.handlers.set c h.closed }
  | .resume c o => do
      let h ← s.handlers[c]?
      let (h, g) ← h.resume c o s.globals
      return ⟨g, s.handlers.set c h⟩

end PLoadtesting.TargetApps.WebSocket
