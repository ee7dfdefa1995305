import PLoadtesting.Worker.Registration
import PLoadtesting.System.Draining

/-!
Agents and the Control Plane over a network that may delay any request and lose any
answer.

An agent posts its registration, waits for the answer, gives up when it is late, and
posts again. A request that was given up can still be served, at any later time and in
any order with the others, and so can the heartbeats of an agent that was started
again meanwhile. What carries the invariant is that no operation of the Control Plane
removes a row of the registry or changes its id or name (`Holds.apply`).
-/

namespace PLoadtesting.System

open Keyed Python ControlPlane Transition
open Worker (Agent AgentConfig apiHeaders heartbeatPayload registrationPayload)

/-! ### The system -/

/-- What an agent posts. -/
inductive Content where
  | registration (localIp : String)
  | heartbeat (worker : WorkerId) (activeTaskCount : Int) (usage : Worker.ResourceUsage)

/-- A request of an agent, with its answer once it is served. -/
structure Post where
  config : AgentConfig
  content : Content
  answer : Option WorkerResponse

/-- The agents that were started so far, and all their requests in the order in which
they were posted. -/
structure Fleet where
  db : Database
  agents : List Agent
  posts : List Post

/-- The id in an answer that `raise_for_status` lets through. -/
def answeredId : WorkerResponse → Option WorkerId
  | .ok worker => some worker
  | .created worker => some worker
  | _ => none

/-- The answer of the Control Plane to a post. -/
def Post.serve (post : Post) (settings : Settings) (layer : WorkerLayer) (db : Database)
    (id : WorkerId) (now : Timestamp) : WorkerResponse × Database :=
  match post.content with
  | .registration localIp =>
      registrationEndpoint settings (apiHeaders post.config) layer db
        (registrationPayload post.config localIp) id now
  | .heartbeat worker activeTaskCount usage =>
      heartbeatEndpoint settings (apiHeaders post.config) layer db worker
        (heartbeatPayload activeTaskCount usage) now

/-- What happens in the system. `other` is any request of another client, or the
patrol. -/
inductive FleetEvent where
  | launch (config : AgentConfig)
  | register (i : Nat) (localIp : String)
  | giveUp (i : Nat)
  | hear (i : Nat)
  | beat (i : Nat) (activeTaskCount : Int) (usage : Worker.ResourceUsage)
  | restart (i : Nat)
  | serve (k : Nat) (id : WorkerId) (now : Timestamp)
  | other (operation : WorkerOperation) (now : Timestamp)

/-- One agent goes on. -/
def Fleet.setAgent (s : Fleet) (i : Nat) (agent : Agent) : Fleet :=
  { s with agents := s.agents.set i agent }

def Fleet.post (s : Fleet) (config : AgentConfig) (content : Content) : Fleet :=
  { s with posts := s.posts ++ [⟨config, content, none⟩] }

def FleetEvent.take [Runtime] (settings : Settings) (layer : WorkerLayer) (s : Fleet) :
    FleetEvent → Option Fleet
  | .launch config => some { s with agents := s.agents ++ [⟨config, none, none⟩] }
  | .register i localIp =>
      s.agents[i]?.bind fun agent =>
        if agent.workerId = none ∧ agent.waitsFor = none then
          some ((s.setAgent i { agent with waitsFor := some s.posts.length }).post agent.config
            (.registration localIp))
        else none
  | .giveUp i => s.agents[i]?.map fun agent => s.setAgent i { agent with waitsFor := none }
  | .hear i =>
      s.agents[i]?.bind fun agent =>
        agent.waitsFor.bind fun k =>
          s.posts[k]?.bind fun post =>
            post.answer.map fun answer =>
              -- What `register_worker` raises for is tried again.
              s.setAgent i { agent with workerId := answeredId answer, waitsFor := none }
  | .beat i activeTaskCount usage =>
      s.agents[i]?.bind fun agent =>
        agent.workerId.map fun worker =>
          s.post agent.config (.heartbeat worker activeTaskCount usage)
  | .restart i =>
      s.agents[i]?.map fun agent =>
        s.setAgent i { agent with workerId := none, waitsFor := none }
  | .serve k id now =>
      s.posts[k]?.bind fun post =>
        match post.answer with
        | some _ => none
        | none =>
            let (answer, db) := post.serve settings layer s.db id now
            some { s with db, posts := s.posts.set k { post with answer := some answer } }
  | .other operation now => some { s with db := operation.apply layer s.db now }

/-- `WorkerRegistrationSerializer` on what an agent posts: a `CharField` trims the
name. -/
structure ReadsRegistration (layer : WorkerLayer) : Prop where
  name : ∀ config localIp registration,
    layer.registration (registrationPayload config localIp) = .ok registration →
      registration.name = strip config.workerName

/-- The registry has a row with the id and the name. -/
def Holds (db : Database) (worker : WorkerId) (name : String) : Prop :=
  ∃ node ∈ db.workers, node.id = worker ∧ node.name = name

/-- The name under which an agent is registered. -/
def registeredName (config : AgentConfig) : String := strip config.workerName

section Rows

variable {layer : WorkerLayer} {db : Database} {now : Timestamp} {worker : WorkerId} {name : String}

theorem Holds.upsert (h : Holds db worker name) {node : WorkerNode}
    (same : ∀ old ∈ db.workers, old.id = node.id → old.name = node.name) :
    Holds { db with workers := db.workers.upsert node } worker name := by
  obtain ⟨row, mem, rfl, rfl⟩ := h
  by_cases own : row.id = node.id
  · exact ⟨node, Table.mem_upsert.mpr (.inl rfl), own.symm, (same row mem own).symm⟩
  · exact ⟨row, Table.mem_upsert.mpr (.inr ⟨mem, own⟩), rfl, rfl⟩

theorem Holds.registerWorker (h : Holds db worker name) (layer : WorkerLayer) (body : Json)
    (id : WorkerId) (now : Timestamp) :
    Holds (registerWorker layer db body id now).2 worker name := by
  have outcome := registerWorker_cases layer db body id now
  generalize ControlPlane.registerWorker layer db body id now = result at outcome ⊢
  cases outcome with
  | refused refuses => exact h
  | @again registration existing read mem sameName =>
      refine h.upsert ?_
      intro old oldMem sameId
      have same : old = existing := Table.eq_of_key_eq oldMem mem sameId
      rw [same]
      rfl
  | added read newName fresh =>
      refine h.upsert ?_
      intro old oldMem sameId
      exact absurd sameId (Table.find?_eq_none_iff.mp fresh old oldMem)

theorem Holds.postHeartbeat (h : Holds db worker name) (layer : WorkerLayer) (id : WorkerId)
    (body : Json) (now : Timestamp) :
    Holds (postHeartbeat layer db id body now).2 worker name := by
  have outcome := postHeartbeat_cases layer db id body now
  generalize ControlPlane.postHeartbeat layer db id body now = result at outcome ⊢
  cases outcome with
  | refused response => exact h
  | @saved node heartbeat mem read =>
      obtain ⟨row, rowMem, rfl, rfl⟩ := h
      refine ⟨_, List.mem_map.mpr ⟨row, rowMem, rfl⟩, ?_⟩
      split
      · exact ⟨rfl, rfl⟩
      · exact ⟨rfl, rfl⟩

/-- No operation of the Control Plane removes a row of the registry, or gives it another
id or name. -/
theorem Holds.apply [Runtime] (h : Holds db worker name) (operation : WorkerOperation) :
    Holds (operation.apply layer db now) worker name := by
  cases operation with
  | register body id => exact h.registerWorker layer body id now
  | heartbeat id body => exact h.postHeartbeat layer id body now
  | dispatch id delivery =>
      obtain ⟨node, mem, same⟩ := h
      refine ⟨node, ?_, same⟩
      rw [WorkerOperation.apply, dispatchTaskOnce_workers]
      exact mem
  | patrol =>
      obtain ⟨node, mem, rfl, rfl⟩ := h
      cases stale : node.isStale now with
      | true =>
          exact ⟨node.markedOffline, mem_markStaleWorkers.mpr (.inl ⟨node, mem, stale, rfl⟩),
            rfl, rfl⟩
      | false => exact ⟨node, mem_markStaleWorkers.mpr (.inr ⟨mem, stale⟩), rfl, rfl⟩
  | tasks table => exact h

/-- An answer with an id names the row of the registration. -/
theorem holds_of_answeredId {body : Json} {id : WorkerId}
    (answered : answeredId (registerWorker layer db body id now).1 = some worker) :
    ∃ registration, layer.registration body = .ok registration ∧
      Holds (registerWorker layer db body id now).2 worker registration.name := by
  unfold ControlPlane.registerWorker at answered ⊢
  cases read : layer.registration body with
  | error e =>
      rw [read] at answered
      cases e with
      | _ => cases answered
  | ok registration =>
      rw [read] at answered
      refine ⟨registration, rfl, ?_⟩
      dsimp only at answered ⊢
      cases found : db.workers.rows.find? fun node => decide (node.name = registration.name) with
      | some existing =>
          rw [found] at answered
          cases answered
          have sameName : existing.name = registration.name := by
            simpa using List.find?_some found
          exact ⟨_, Table.mem_upsert.mpr (.inl rfl), rfl, sameName⟩
      | none =>
          rw [found] at answered
          dsimp only at answered ⊢
          cases inserted : db.workers.insert? (newWorker registration id now) with
          | some workers =>
              rw [inserted] at answered
              cases answered
              obtain ⟨_, rfl⟩ := Table.insert?_eq_some_iff.mp inserted
              exact ⟨_, Table.mem_upsert.mpr (.inl rfl), rfl, rfl⟩
          | none =>
              rw [inserted] at answered
              cases answered

end Rows

/-! ### What holds at every instant -/

/-- A post of a registration was answered with the id of the row of its name, if with
any; a post of a heartbeat carries such an id. -/
def Post.Sound (db : Database) (post : Post) : Prop :=
  match post.content with
  | .registration _ => ∀ worker, post.answer.bind answeredId = some worker →
      Holds db worker (registeredName post.config)
  | .heartbeat worker _ _ => Holds db worker (registeredName post.config)

/-- An agent has the id of the row of its name, if any, and waits for a registration of
its own. -/
structure AgentSound (db : Database) (posts : List Post) (agent : Agent) : Prop where
  ownRow : ∀ worker, agent.workerId = some worker →
    Holds db worker (registeredName agent.config)
  waits : ∀ k, agent.waitsFor = some k → ∃ localIp answer,
    posts[k]? = some (Post.mk agent.config (.registration localIp) answer)

structure FleetSound (s : Fleet) : Prop where
  registered : Registered s.db
  agents : ∀ agent ∈ s.agents, AgentSound s.db s.posts agent
  posts : ∀ post ∈ s.posts, post.Sound s.db

section Sound

variable {db db' : Database} {post : Post} {agent : Agent} {posts posts' : List Post}

/-- The ids of `db` are ids of `db'`, under the same names. -/
def KeepsHolds (db db' : Database) : Prop :=
  ∀ worker name, Holds db worker name → Holds db' worker name

theorem Post.Sound.keep (h : post.Sound db) (keeps : KeepsHolds db db') : post.Sound db' := by
  unfold Post.Sound at h ⊢
  cases content : post.content with
  | registration localIp =>
      rw [content] at h
      exact fun worker answered => keeps worker _ (h worker answered)
  | heartbeat worker activeTaskCount usage =>
      rw [content] at h
      exact keeps worker _ h

theorem AgentSound.keep (h : AgentSound db posts agent) (keeps : KeepsHolds db db')
    (same : ∀ (k : Nat) localIp answer,
      posts[k]? = some (Post.mk agent.config (.registration localIp) answer) →
      ∃ answer', posts'[k]? = some (Post.mk agent.config (.registration localIp) answer')) :
    AgentSound db' posts' agent := by
  refine ⟨fun worker own => keeps worker _ (h.ownRow worker own), ?_⟩
  intro k waiting
  obtain ⟨localIp, answer, posted⟩ := h.waits k waiting
  obtain ⟨answer', posted'⟩ := same k localIp answer posted
  exact ⟨localIp, answer', posted'⟩

end Sound

section Steps

variable [Runtime] {settings : Settings} {layer : WorkerLayer} {s t : Fleet}

/-- Serving a post is one of the operations, or leaves the tables alone. -/
theorem serve_operation (settings : Settings) (layer : WorkerLayer) (post : Post) (db : Database)
    (id : WorkerId) (now : Timestamp) :
    (post.serve settings layer db id now).2 = db ∨
      ∃ operation : WorkerOperation,
        (post.serve settings layer db id now).2 = operation.apply layer db now := by
  unfold Post.serve registrationEndpoint heartbeatEndpoint
  cases post.content with
  | registration localIp =>
      dsimp only
      split
      · exact .inr ⟨.register _ id, rfl⟩
      · exact .inl rfl
  | heartbeat worker activeTaskCount usage =>
      dsimp only
      split
      · exact .inr ⟨.heartbeat worker _, rfl⟩
      · exact .inl rfl

theorem serve_keeps (settings : Settings) (layer : WorkerLayer) (post : Post) (db : Database)
    (id : WorkerId) (now : Timestamp) :
    KeepsHolds db (post.serve settings layer db id now).2 := by
  intro worker name holds
  rcases serve_operation settings layer post db id now with
    same | ⟨operation, same⟩
  · rw [same]
    exact holds
  · rw [same]
    exact holds.apply operation

theorem serve_registered {db : Database} (h : Registered db) (post : Post) (id : WorkerId)
    (now : Timestamp) : Registered (post.serve settings layer db id now).2 := by
  rcases serve_operation settings layer post db id now with
    same | ⟨operation, same⟩
  · rw [same]
    exact h
  · rw [same]
    exact h.apply operation

/-- A post is still sound when it is answered. -/
theorem Post.Sound.serve (reads : ReadsRegistration layer) {post : Post} {db : Database}
    (h : post.Sound db) (id : WorkerId) (now : Timestamp) :
    Post.Sound (post.serve settings layer db id now).2
      { post with answer := some (post.serve settings layer db id now).1 } := by
  have keeps := serve_keeps settings layer post db id now
  unfold Post.Sound at h ⊢
  unfold Post.serve at keeps ⊢
  cases content : post.content with
  | registration localIp =>
      rw [content] at keeps
      dsimp only at keeps ⊢
      intro worker answered
      unfold registrationEndpoint at answered ⊢
      split at answered
      · rename_i token
        rw [if_pos token]
        obtain ⟨registration, read, holds⟩ := holds_of_answeredId answered
        rw [reads.name _ _ _ read] at holds
        exact holds
      · cases answered
  | heartbeat worker activeTaskCount usage =>
      rw [content] at keeps h
      exact keeps worker _ h

omit [Runtime] in
theorem FleetSound.setAgent (h : FleetSound s) {agent : Agent} (i : Nat)
    (sound : AgentSound s.db s.posts agent) : FleetSound (s.setAgent i agent) := by
  refine ⟨h.registered, ?_, h.posts⟩
  intro other mem
  rcases List.mem_or_eq_of_mem_set mem with old | rfl
  · exact h.agents other old
  · exact sound

omit [Runtime] in
theorem FleetSound.post (h : FleetSound s) {config : AgentConfig} {content : Content}
    (sound : Post.Sound s.db ⟨config, content, none⟩) : FleetSound (s.post config content) := by
  refine ⟨h.registered, ?_, ?_⟩
  · intro agent mem
    refine (h.agents agent mem).keep (fun _ _ => id) ?_
    intro k localIp answer posted
    exact ⟨answer, List.getElem?_append_left (List.getElem?_eq_some_iff.mp posted).1 ▸ posted⟩
  · intro post mem
    rcases List.mem_append.mp mem with old | new
    · exact h.posts post old
    · exact List.mem_singleton.mp new ▸ sound

/-- A step keeps the invariant, and the ids with their names. -/
theorem FleetSound.take (reads : ReadsRegistration layer) (h : FleetSound s) {e : FleetEvent}
    (moves : e.take settings layer s = some t) : FleetSound t ∧ KeepsHolds s.db t.db := by
  cases e with
  | launch config =>
      cases moves
      refine ⟨⟨h.registered, ?_, h.posts⟩, fun _ _ => id⟩
      intro agent mem
      rcases List.mem_append.mp mem with old | new
      · exact h.agents agent old
      · obtain rfl := List.mem_singleton.mp new
        exact ⟨nofun, nofun⟩
  | register i localIp =>
      obtain ⟨agent, found, taken⟩ := Option.bind_eq_some_iff.mp moves
      split at taken
      · rename_i idle
        cases taken
        have posted : FleetSound (s.post agent.config (.registration localIp)) := by
          refine h.post ?_
          intro worker answered
          cases answered
        refine ⟨posted.setAgent i ⟨?_, ?_⟩, fun _ _ => id⟩
        · intro worker own
          exact absurd (idle.1.symm.trans own) nofun
        · intro k waiting
          cases waiting
          exact ⟨localIp, none, List.getElem?_concat_length⟩
      · cases taken
  | giveUp i =>
      obtain ⟨agent, found, rfl⟩ := Option.map_eq_some_iff.mp moves
      have sound := h.agents agent (List.mem_of_getElem? found)
      exact ⟨h.setAgent i ⟨sound.ownRow, nofun⟩, fun _ _ => id⟩
  | hear i =>
      obtain ⟨agent, found, heard⟩ := Option.bind_eq_some_iff.mp moves
      obtain ⟨k, waiting, heard⟩ := Option.bind_eq_some_iff.mp heard
      obtain ⟨post, posted, heard⟩ := Option.bind_eq_some_iff.mp heard
      obtain ⟨answer, answered, rfl⟩ := Option.map_eq_some_iff.mp heard
      have sound := h.agents agent (List.mem_of_getElem? found)
      obtain ⟨localIp, answer', own⟩ := sound.waits k waiting
      obtain rfl := Option.some.inj (posted.symm.trans own)
      refine ⟨h.setAgent i ⟨?_, nofun⟩, fun _ _ => id⟩
      intro worker named
      refine h.posts _ (List.mem_of_getElem? posted) worker ?_
      rw [answered]
      exact named
  | beat i activeTaskCount usage =>
      obtain ⟨agent, found, sent⟩ := Option.bind_eq_some_iff.mp moves
      obtain ⟨worker, own, rfl⟩ := Option.map_eq_some_iff.mp sent
      have sound := h.agents agent (List.mem_of_getElem? found)
      exact ⟨h.post (sound.ownRow worker own), fun _ _ => id⟩
  | restart i =>
      obtain ⟨agent, found, rfl⟩ := Option.map_eq_some_iff.mp moves
      exact ⟨h.setAgent i ⟨nofun, nofun⟩, fun _ _ => id⟩
  | serve k id now =>
      obtain ⟨post, posted, served⟩ := Option.bind_eq_some_iff.mp moves
      split at served
      · cases served
      · cases served
        have keeps := serve_keeps settings layer post s.db id now
        refine ⟨⟨serve_registered h.registered post id now, ?_, ?_⟩, keeps⟩
        · intro agent mem
          refine (h.agents agent mem).keep keeps ?_
          intro k' localIp answer own
          rw [List.getElem?_set]
          split
          · rename_i same
            subst same
            obtain rfl := Option.some.inj (posted.symm.trans own)
            rw [if_pos (List.getElem?_eq_some_iff.mp own).1]
            exact ⟨_, rfl⟩
          · exact ⟨answer, own⟩
        · intro other mem
          rcases List.mem_or_eq_of_mem_set mem with old | rfl
          · exact (h.posts other old).keep keeps
          · exact (h.posts post (List.mem_of_getElem? posted)).serve reads id now
  | other operation now =>
      cases moves
      have keeps : KeepsHolds s.db (operation.apply layer s.db now) :=
        fun _ _ holds => holds.apply operation
      refine ⟨⟨h.registered.apply operation, ?_, fun post mem => (h.posts post mem).keep keeps⟩,
        keeps⟩
      intro agent mem
      exact (h.agents agent mem).keep keeps fun _ _ answer own => ⟨answer, own⟩

/-! ### Ids over runs -/

end Steps

/-! ### Two agents under one name -/

end PLoadtesting.System
