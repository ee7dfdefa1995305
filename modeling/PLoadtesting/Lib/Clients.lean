import PLoadtesting.Lib.Transition

/-!
Clients that run scripts against a shared service.

A script is a sequence of requests, each of which may depend on the replies so
far, with checks of the replies in between. Any number of clients run scripts at
once: one step serves the request that one client stands at, and requests from
elsewhere come in between.

A `Discipline` says what a client can rely on: its holdings are facts about the
service under keys, and a request changes only those whose key it touches. A
script is `Sound` when its checks pass as long as nobody else touches what it
holds. Keys come from replies and are not handed out twice, so the holdings of
distinct clients stay apart, and in any interleaving of sound scripts the checks
pass exactly as long as every request is served in a state that is ready for it
(`passed_iff`).
-/

namespace Clients

open Transition

variable {S Req Rep H K : Type}

/-- What a client does next. -/
inductive Script (Req Rep : Type) where
  | done
  | check (name : String) (passed : Bool) (next : Script Req Rep)
  | ask (request : Req) (next : Rep → Script Req Rep)

/-- The outcomes of the checks up to the next request, and the script from there. -/
def Script.settle : Script Req Rep → List (String × Bool) × Script Req Rep
  | .done => ([], .done)
  | .check name passed next => ((name, passed) :: next.settle.1, next.settle.2)
  | .ask request next => ([], .ask request next)

/-- The service, the scripts that its clients still have to run, the replies that
clients have received, and the outcomes of their checks. -/
structure State (S Req Rep : Type) where
  server : S
  clients : List (Script Req Rep)
  replies : List Rep
  checks : List (String × Bool)

/-- No client has arrived. -/
def start (server : S) : State S Req Rep := ⟨server, [], [], []⟩

inductive Event (Req Rep : Type) where
  /-- A client arrives with its script. -/
  | arrive (script : Script Req Rep)
  /-- The next request of a client is served. -/
  | serve (client : Nat)
  /-- A request of somebody else is served. -/
  | other (request : Req)

def step (handle : Req → S → Rep × S) (s : State S Req Rep) : Event Req Rep →
    Option (State S Req Rep)
  | .arrive script =>
      some { s with
        clients := s.clients ++ [script.settle.2]
        checks := s.checks ++ script.settle.1 }
  | .serve client =>
      match s.clients[client]? with
      | some (.ask request next) =>
          let (reply, server) := handle request s.server
          let (checks, script) := (next reply).settle
          some ⟨server, s.clients.set client script, s.replies ++ [reply], s.checks ++ checks⟩
      | _ => none
  | .other request => some { s with server := (handle request s.server).2 }

/-- Every check so far has passed. -/
def State.Passed (s : State S Req Rep) : Prop := ∀ c ∈ s.checks, c.2 = true

/-! ### Disciplines -/

/-- How the clients of a service keep out of each other's way. -/
structure Discipline (handle : Req → S → Rep × S) (H K : Type) where
  /-- What always holds of the service. -/
  inv : S → Prop
  /-- What is assumed of every request that is served. -/
  regular : Req → S → Prop
  /-- What the request of a client needs to be granted. -/
  ready : Req → S → Prop
  holds : S → H → Prop
  key : H → K
  touches : Req → K → Prop
  grants : Rep → K → Prop
  preserved {request : Req} {s : S} : inv s → regular request s → inv (handle request s).2
  /-- A request keeps what it does not touch. -/
  frame {request : Req} {s : S} {h : H} : inv s → regular request s → holds s h →
    ¬ touches request (key h) → holds (handle request s).2 h
  /-- A key that somebody holds is not granted again. -/
  fresh {request : Req} {s : S} {h : H} : inv s → regular request s → holds s h →
    ¬ grants (handle request s).1 (key h)

namespace Discipline

variable {handle : Req → S → Rep × S} (d : Discipline handle H K)

/-- The checks of a script with the holdings `hs` pass if every request is served in
a state that is ready for it; a request that is not fails a check at once. -/
def Sound : List H → Script Req Rep → Prop
  | _, .done => True
  | hs, .check _ passed next => passed = true ∧ Sound hs next
  | hs, .ask request next =>
      (∀ k, d.touches request k → ∃ h ∈ hs, d.key h = k) ∧
      ∀ s, d.inv s → d.regular request s → (∀ h ∈ hs, d.holds s h) →
        (d.ready request s → ∃ hs' : List H,
          (∀ h ∈ hs', d.holds (handle request s).2 h ∧
            ((∃ g ∈ hs, d.key g = d.key h) ∨ d.grants (handle request s).1 (d.key h))) ∧
          Sound hs' (next (handle request s).1)) ∧
        (¬ d.ready request s → ∃ c ∈ (next (handle request s).1).settle.1, c.2 = false)

/-- The requests that are served are regular, clients arrive with scripts that they
may run, and nobody else touches a key that was granted to a client. -/
def Admits (starts : Script Req Rep → Prop) (s : State S Req Rep) : Event Req Rep → Prop
  | .arrive script => starts script
  | .serve client => ∀ request next, s.clients[client]? = some (.ask request next) →
      d.regular request s.server
  | .other request => d.regular request s.server ∧
      ∀ reply ∈ s.replies, ∀ k, d.grants reply k → ¬ d.touches request k

/-- The service is ready for the request of the client. -/
def Ready (s : State S Req Rep) : Event Req Rep → Prop
  | .serve client => ∀ request next, s.clients[client]? = some (.ask request next) →
      d.ready request s.server
  | _ => True

/-! ### The holdings of all clients -/

/-- A client with its holdings. -/
abbrev Party (H Req Rep : Type) := List H × Script Req Rep

def Owns (p : Party H Req Rep) (k : K) : Prop := ∃ h ∈ p.1, d.key h = k

/-- The clients have holdings, with keys that were granted to them, that belong to no
other client. -/
structure Kept (s : State S Req Rep) (parties : List (Party H Req Rep)) : Prop where
  inv : d.inv s.server
  clients : s.clients = parties.map Prod.snd
  sound : ∀ p ∈ parties, d.Sound p.1 p.2
  holds : ∀ p ∈ parties, ∀ h ∈ p.1, d.holds s.server h
  granted : ∀ p ∈ parties, ∀ h ∈ p.1, ∃ reply ∈ s.replies, d.grants reply (d.key h)
  apart : Apart d.Owns parties

variable {d}

theorem Sound.settle {hs : List H} {script : Script Req Rep} (sound : d.Sound hs script) :
    (∀ c ∈ script.settle.1, c.2 = true) ∧ d.Sound hs script.settle.2 := by
  induction script with
  | done => exact ⟨fun c mem => absurd mem List.not_mem_nil, sound⟩
  | check name passed next ih =>
      obtain ⟨pass, rest⟩ := sound
      obtain ⟨all, settled⟩ := ih rest
      refine ⟨?_, settled⟩
      intro c mem
      rcases List.mem_cons.mp mem with rfl | later
      · exact pass
      · exact all c later
  | ask request next => exact ⟨fun c mem => absurd mem List.not_mem_nil, sound⟩

/-- A client may hold more. -/
theorem Sound.weaken (hs : List H) {hs' : List H} {script : Script Req Rep}
    (sub : ∀ h ∈ hs, h ∈ hs') (sound : d.Sound hs script) : d.Sound hs' script := by
  induction script with
  | done => trivial
  | check name passed next ih => exact ⟨sound.1, ih sound.2⟩
  | ask request next =>
      obtain ⟨own, runs⟩ := sound
      constructor
      · intro k touched
        obtain ⟨h, among, same⟩ := own k touched
        exact ⟨h, sub h among, same⟩
      · intro s inv regular holds
        obtain ⟨passes, fails⟩ := runs s inv regular fun h among => holds h (sub h among)
        refine ⟨fun ready => ?_, fails⟩
        obtain ⟨gained, sources, rest⟩ := passes ready
        refine ⟨gained, fun h among => ⟨(sources h among).1, (sources h among).2.imp_left ?_⟩, rest⟩
        rintro ⟨g, before, same⟩
        exact ⟨g, sub g before, same⟩

/-- The rule for one request: what it needs of the holdings is `hs`, and the rest stays
as it is. -/
theorem Sound.ask (hs : List H) {rest : List H} {request : Req} {next : Rep → Script Req Rep}
    (own : ∀ k, d.touches request k → ∃ h ∈ hs, d.key h = k)
    (apart : ∀ h ∈ rest, ¬ d.touches request (d.key h))
    (unready : ∀ s, d.inv s → (∀ h ∈ hs, d.holds s h) → ¬ d.ready request s →
      ∃ c ∈ (next (handle request s).1).settle.1, c.2 = false)
    (continues : ∀ s, d.inv s → (∀ h ∈ hs, d.holds s h) → d.ready request s →
      ∃ (hs' : List H) (reply : Rep) (s' : S), handle request s = (reply, s') ∧
        (∀ h ∈ hs', d.holds s' h ∧ ((∃ g ∈ hs, d.key g = d.key h) ∨ d.grants reply (d.key h))) ∧
        d.Sound (hs' ++ rest) (next reply)) : d.Sound (hs ++ rest) (.ask request next) := by
  constructor
  · intro k touched
    obtain ⟨h, among, same⟩ := own k touched
    exact ⟨h, List.mem_append_left _ among, same⟩
  · intro s inv regular holds
    have mine : ∀ h ∈ hs, d.holds s h := fun h among => holds h (List.mem_append_left _ among)
    refine ⟨fun ready => ?_, unready s inv mine⟩
    obtain ⟨hs', reply, s', served, gained, sound⟩ := continues s inv mine ready
    rw [served]
    refine ⟨hs' ++ rest, ?_, sound⟩
    intro h among
    rcases List.mem_append.mp among with new | kept
    · obtain ⟨held, source⟩ := gained h new
      refine ⟨held, source.imp_left ?_⟩
      rintro ⟨g, before, same⟩
      exact ⟨g, List.mem_append_left _ before, same⟩
    · have stays := d.frame inv regular (holds h (List.mem_append_right _ kept)) (apart h kept)
      rw [served] at stays
      exact ⟨stays, .inl ⟨h, List.mem_append_right _ kept, rfl⟩⟩

section Steps

variable {s t : State S Req Rep} {parties : List (Party H Req Rep)}

theorem kept_start {server : S} (inv : d.inv server) : d.Kept (start server) [] where
  inv := inv
  clients := rfl
  sound _ mem := absurd mem List.not_mem_nil
  holds _ mem := absurd mem List.not_mem_nil
  granted _ mem := absurd mem List.not_mem_nil
  apart := apart_nil

theorem Kept.arrive (kept : d.Kept s parties) {script : Script Req Rep}
    (sound : d.Sound [] script) :
    d.Kept { s with
      clients := s.clients ++ [script.settle.2]
      checks := s.checks ++ script.settle.1 } (parties ++ [([], script.settle.2)]) where
  inv := kept.inv
  clients := by simp [kept.clients]
  sound p mem := by
    rcases List.mem_append.mp mem with old | new
    · exact kept.sound p old
    · rw [List.mem_singleton.mp new]
      exact sound.settle.2
  holds p mem h among := by
    rcases List.mem_append.mp mem with old | new
    · exact kept.holds p old h among
    · rw [List.mem_singleton.mp new] at among
      exact absurd among List.not_mem_nil
  granted p mem h among := by
    rcases List.mem_append.mp mem with old | new
    · exact kept.granted p old h among
    · rw [List.mem_singleton.mp new] at among
      exact absurd among List.not_mem_nil
  apart := by
    refine kept.apart.concat ?_
    rintro k ⟨h, among, _⟩
    exact List.not_mem_nil among

/-- A request of somebody else leaves the holdings of the clients. -/
theorem Kept.other (kept : d.Kept s parties) {request : Req}
    (regular : d.regular request s.server)
    (foreign : ∀ reply ∈ s.replies, ∀ k, d.grants reply k → ¬ d.touches request k) :
    d.Kept { s with server := (handle request s.server).2 } parties where
  inv := d.preserved kept.inv regular
  clients := kept.clients
  sound := kept.sound
  holds p mem h among := by
    obtain ⟨reply, received, grants⟩ := kept.granted p mem h among
    exact d.frame kept.inv regular (kept.holds p mem h among) (foreign reply received _ grants)
  granted := kept.granted
  apart := kept.apart

/-- The request of a client leaves the holdings of the others, and gives the client
new ones. -/
theorem Kept.serve (kept : d.Kept s parties) {client : Nat} {request : Req}
    {next : Rep → Script Req Rep} {hs hs' : List H}
    (current : parties[client]? = some (hs, .ask request next))
    (regular : d.regular request s.server)
    (own : ∀ k, d.touches request k → ∃ h ∈ hs, d.key h = k)
    (gained : ∀ h ∈ hs', d.holds (handle request s.server).2 h ∧
      ((∃ g ∈ hs, d.key g = d.key h) ∨ d.grants (handle request s.server).1 (d.key h)))
    (sound : d.Sound hs' (next (handle request s.server).1)) :
    d.Kept ⟨(handle request s.server).2,
        s.clients.set client (next (handle request s.server).1).settle.2,
        s.replies ++ [(handle request s.server).1],
        s.checks ++ (next (handle request s.server).1).settle.1⟩
      (parties.set client (hs', (next (handle request s.server).1).settle.2)) := by
  have party := List.mem_of_getElem? current
  refine ⟨d.preserved kept.inv regular, ?_, ?_, ?_, ?_, ?_⟩
  · simp [kept.clients, List.map_set]
  · intro p mem
    rcases List.mem_or_eq_of_mem_set mem with old | rfl
    · exact kept.sound p old
    · exact sound.settle.2
  · intro p mem h among
    obtain ⟨i, here⟩ := List.getElem?_of_mem mem
    by_cases same : client = i
    · subst same
      rw [List.getElem?_set_self (List.getElem?_eq_some_iff.mp current).1] at here
      cases here
      exact (gained h among).1
    · rw [List.getElem?_set_ne same] at here
      have old := List.mem_of_getElem? here
      refine d.frame kept.inv regular (kept.holds p old h among) ?_
      intro touched
      exact same (kept.apart client i _ _ _ current here (own _ touched) ⟨h, among, rfl⟩)
  · intro p mem h among
    rcases List.mem_or_eq_of_mem_set mem with old | rfl
    · obtain ⟨reply, received, grants⟩ := kept.granted p old h among
      exact ⟨reply, List.mem_append_left _ received, grants⟩
    · rcases (gained h among).2 with ⟨g, before, same⟩ | granted
      · obtain ⟨reply, received, grants⟩ := kept.granted _ party g before
        exact ⟨reply, List.mem_append_left _ received, same ▸ grants⟩
      · exact ⟨_, List.mem_append_right _ (List.mem_singleton.mpr rfl), granted⟩
  · refine kept.apart.set current ?_
    rintro k ⟨h, among, rfl⟩
    rcases (gained h among).2 with ⟨g, before, same⟩ | granted
    · exact .inl ⟨g, before, same⟩
    · refine .inr ?_
      rintro p mem ⟨g, held, same⟩
      exact d.fresh kept.inv regular (kept.holds p mem g held) (same ▸ granted)

/-- What one event does: ready requests keep the holdings and pass their checks, and
a request that the service is not ready for fails one. -/
theorem Kept.step {starts : Script Req Rep → Prop} {e : Event Req Rep}
    (sound : ∀ script, starts script → d.Sound [] script) (kept : d.Kept s parties)
    (admitted : d.Admits starts s e) (moves : step handle s e = some t) :
    (d.Ready s e → (∃ parties', d.Kept t parties') ∧ (s.Passed → t.Passed)) ∧
      (¬ d.Ready s e → ¬ t.Passed) := by
  cases e with
  | arrive script =>
      cases moves
      have begins := sound script admitted
      refine ⟨fun _ => ⟨⟨_, kept.arrive begins⟩, ?_⟩, fun unready => absurd trivial unready⟩
      intro passed c mem
      rcases List.mem_append.mp mem with old | new
      · exact passed c old
      · exact begins.settle.1 c new
  | other request =>
      cases moves
      exact ⟨fun _ => ⟨⟨_, kept.other admitted.1 admitted.2⟩, id⟩,
        fun unready => absurd trivial unready⟩
  | serve client =>
      simp only [Clients.step] at moves
      split at moves
      · rename_i request next current
        cases moves
        have place := current
        rw [kept.clients, List.getElem?_map, Option.map_eq_some_iff] at place
        obtain ⟨⟨hs, script⟩, here, same⟩ := place
        cases same
        have party := List.mem_of_getElem? here
        obtain ⟨own, runs⟩ := kept.sound _ party
        have regular := admitted request next current
        obtain ⟨passes, fails⟩ := runs s.server kept.inv regular (kept.holds _ party)
        constructor
        · intro ready
          obtain ⟨hs', gained, rest⟩ := passes (ready request next current)
          refine ⟨⟨_, kept.serve here regular own gained rest⟩, ?_⟩
          intro passed c mem
          rcases List.mem_append.mp mem with old | new
          · exact passed c old
          · exact rest.settle.1 c new
        · intro unready passed
          have unready : ¬ d.ready request s.server := by
            intro ready
            refine unready ?_
            intro request' next' current'
            cases current.symm.trans current'
            exact ready
          obtain ⟨c, mem, failed⟩ := fails unready
          rw [passed c (List.mem_append_right _ mem)] at failed
          cases failed
      · cases moves

end Steps

/-- Checks are not taken back. -/
theorem passed_of_step {s t : State S Req Rep} {e : Event Req Rep}
    (moves : step handle s e = some t) (passed : t.Passed) : s.Passed := by
  cases e with
  | arrive script =>
      cases moves
      exact fun c mem => passed c (List.mem_append_left _ mem)
  | other request =>
      cases moves
      exact passed
  | serve client =>
      simp only [step] at moves
      split at moves
      · cases moves
        exact fun c mem => passed c (List.mem_append_left _ mem)
      · cases moves

/-- In any interleaving of sound scripts, all checks pass exactly if the service was
ready for every request of a client. -/
theorem passed_iff {starts : Script Req Rep → Prop}
    (sound : ∀ script, starts script → d.Sound [] script) {server : S} (inv : d.inv server)
    {es : List (Event Req Rep)} {s : State S Req Rep}
    (run : Run (step handle) (d.Admits starts) (start server) es s) :
    s.Passed ↔ Run (step handle) (fun t e => d.Admits starts t e ∧ d.Ready t e)
      (start server) es s := by
  let good := Run (step handle) (fun t e => d.Admits starts t e ∧ d.Ready t e) (start server)
  refine (run.history (P := fun es s => Run (step handle) (d.Admits starts) (start server) es s ∧
    (s.Passed ↔ good es s) ∧ (good es s → ∃ parties, d.Kept s parties)) ?_ ?_).2.1
  · exact ⟨.done _, iff_of_true (fun c mem => absurd mem List.not_mem_nil) (.done _),
      fun _ => ⟨[], kept_start inv⟩⟩
  · rintro past t e u ⟨sofar, passed_iff, kept⟩ admitted moves
    have further : good (past ++ [e]) u ↔ good past t ∧ d.Admits starts t e ∧ d.Ready t e :=
      sofar.concat_iff moves
    refine ⟨sofar.append (.next admitted moves (.done u)), ?_, ?_⟩
    · rw [further]
      constructor
      · intro passed
        have before := passed_iff.mp (passed_of_step moves passed)
        obtain ⟨parties, keeps⟩ := kept before
        refine ⟨before, admitted, ?_⟩
        by_contra unready
        exact (keeps.step sound admitted moves).2 unready passed
      · rintro ⟨before, _, ready⟩
        obtain ⟨parties, keeps⟩ := kept before
        exact ((keeps.step sound admitted moves).1 ready).2 (passed_iff.mpr before)
    · intro run
      obtain ⟨before, _, ready⟩ := further.mp run
      obtain ⟨parties, keeps⟩ := kept before
      exact ((keeps.step sound admitted moves).1 ready).1

end Discipline

end Clients
