import PLoadtesting.TargetApps.AuthAccounts

/-!
The auth-flow credentials over a sequence of requests: no token, session, refresh
token or challenge does more than its budget allows, and every one of them
resolves to the user it was issued to.
-/

namespace PLoadtesting.TargetApps.AuthFlow

open Keyed Python Ledger Transition

/-! ### Resolving to a user -/

/-- The username in the body of a reply. -/
def Reply.username : Reply → Option String
  | .profile username | .sessionProfile username => some username
  | .order placed => some placed.username
  | _ => none

/-- An accepted bearer token was issued, and the reply is about its user. -/
def ResolvesAccess (before : List Exchange) (x : Exchange) : Prop :=
  ∀ token, authorises x token = true → ∃ username budget,
    IssuedAccess before token username budget ∧ ∀ name, x.2.username = some name → name = username

/-- An accepted session was issued, and the reply is about its user. -/
def ResolvesSession (before : List Exchange) (x : Exchange) : Prop :=
  ∀ sessionId, authorisesSession x sessionId = true → ∃ username budget,
    IssuedSession before sessionId username budget ∧
      ∀ name, x.2.username = some name → name = username

/-- The reply hands out a credential for the user. -/
def Yields (before : List Exchange) (x : Exchange) (username : String) : Prop :=
  ∃ key budget, opensAccess before x key username budget ∨
    opensRefresh before x key username budget ∨ opensSession before x key username budget

/-- A verification carries the code of the user and the channel that the challenge
was started for, and yields credentials for this user only. -/
def VerifiesOwn (before : List Exchange) (x : Exchange) : Prop :=
  ∀ body, x.1 = .mfaLoginVerify body → verifies x body.challengeId = true →
    ∃ username channel, IssuedChallenge before body.challengeId username channel ∧
      body.code = expectedMfaCode username channel ∧
      ∀ holder, Yields before x holder → holder = username

section Exchanges

variable [Hashlib] {log : List Exchange} {s s' : Store} {request : Request} {reply : Reply}

theorem AllBalanced.resolvesAccess (h : AllBalanced log s)
    (outcome : Outcome s request reply s') : ResolvesAccess log (request, reply) := by
  intro token accepted
  cases outcome with
  | refused status =>
      rcases status with status | status <;>
        simp [authorises, Reply.statusCode, status] at accepted
  | @used _ _ token' credential _ _ presents stored usable funds answers =>
      simp only [authorises, presents, Bool.and_eq_true, decide_eq_true_eq, Option.some.injEq]
        at accepted
      obtain ⟨rfl, _⟩ := accepted
      have balanced := h.access token'
      rw [stored] at balanced
      obtain ⟨budget, issued⟩ := balanced.backed _ rfl
      refine ⟨credential.username, budget, issued, ?_⟩
      intro name own
      cases answers with
      | profile authorization => exact (Option.some.inj own).symm
      | checkout authorization same => exact (Option.some.inj own).symm.trans same
      | order authorization same => exact (Option.some.inj own).symm.trans same
      | noOrder authorization detail => cases own
  | _ => simp [authorises, Request.presents] at accepted

theorem AllBalanced.resolvesSession (h : AllBalanced log s)
    (outcome : Outcome s request reply s') : ResolvesSession log (request, reply) := by
  intro sessionId accepted
  cases outcome with
  | @sessionUsed cookie sessionId' credential presents stored usable funds =>
      simp only [authorisesSession, presents, decide_eq_true_eq, Option.some.injEq] at accepted
      subst accepted
      have balanced := h.session sessionId'
      rw [stored] at balanced
      obtain ⟨budget, issued⟩ := balanced.backed _ rfl
      exact ⟨credential.username, budget, issued, fun name own => (Option.some.inj own).symm⟩
  | used presents stored usable funds answers => cases answers <;> cases accepted
  | _ => cases accepted

theorem AllBalanced.verifiesOwn (h : AllBalanced log s)
    (outcome : Outcome s request reply s') : VerifiesOwn log (request, reply) := by
  rintro body rfl accepted
  cases outcome with
  | @verifiedSession _ challenge sessionId _ valid stored unused code issued =>
      obtain ⟨own, expected⟩ := h.issuedChallenge stored
      refine ⟨challenge.username, challenge.channel, own, code.symm.trans expected, ?_⟩
      rintro holder ⟨key, budget, opens | opens | opens⟩
      · exact opens.elim
      · exact opens.elim
      · exact (h.exists_issuedChallenge_iff stored holder).mp opens.2.1
  | @verifiedBearer _ challenge access fresh _ valid stored unused code issued =>
      obtain ⟨own, expected⟩ := h.issuedChallenge stored
      refine ⟨challenge.username, challenge.channel, own, code.symm.trans expected, ?_⟩
      rintro holder ⟨key, budget, opens | opens | opens⟩
      · exact (h.exists_issuedChallenge_iff stored holder).mp opens.2.1
      · exact (h.exists_issuedChallenge_iff stored holder).mp opens.2.1
      · exact opens.elim
  | refused status => cases accepted
  | used presents stored usable funds answers => cases presents

/-- One exchange with the service. -/
def serve (s : Store) (x : Exchange) : Option Store :=
  if (x.1.handle s).1 = x.2 then some (x.1.handle s).2 else none

theorem serve_outcome {x : Exchange} (moves : serve s x = some s') : Outcome s x.1 x.2 s' := by
  unfold serve at moves
  split at moves
  · rename_i same
    cases moves
    exact same ▸ handle_outcome x.1 s
  · cases moves

/-- The exchanges of a sequence of requests are a run. -/
theorem run_exchanges (s : Store) (requests : List Request) :
    Run serve (fun _ _ => True) s (exchanges s requests) (after s requests) := by
  induction requests generalizing s with
  | nil => exact .done s
  | cons request requests ih => exact .next trivial (if_pos rfl) (ih _)

/-- What holds of the log and the store of a run. -/
structure Lawful (log : List Exchange) (s : Store) : Prop where
  balanced : AllBalanced log s
  numbered : AllNumbered s
  access : Always ResolvesAccess log
  session : Always ResolvesSession log
  verified : Always VerifiesOwn log

theorem run_lawful (distinct : DistinctDigests)
    (run : Run serve (fun _ _ => True) AuthFlow.initial log s) : Lawful log s := by
  refine run.history (P := Lawful)
    ⟨.initial, .initial, always_nil, always_nil, always_nil⟩ ?_
  intro past t x u h _ moves
  have outcome := serve_outcome moves
  exact ⟨h.balanced.next distinct h.numbered outcome, h.numbered.next outcome,
    always_concat.mpr ⟨h.access, h.balanced.resolvesAccess outcome⟩,
    always_concat.mpr ⟨h.session, h.balanced.resolvesSession outcome⟩,
    always_concat.mpr ⟨h.verified, h.balanced.verifiesOwn outcome⟩⟩

end Exchanges

/-- The budgets of the issued credentials against the log of exchanges. -/
structure WithinBudget (log : List Exchange) (s : Store) : Prop where
  /-- Authorisations and uses left of an access token make up its budget. -/
  access : ∀ token username budget, IssuedAccess log token username budget →
    ∃ credential, s.accessTokens.get? token = some credential ∧ credential.username = username ∧
      (accesses.uses log token : Int) + credential.usesLeft = budget ∧ 0 ≤ credential.usesLeft
  /-- The same for sessions. -/
  session : ∀ sessionId username budget, IssuedSession log sessionId username budget →
    ∃ credential, s.sessions.get? sessionId = some credential ∧ credential.username = username ∧
      (sessionUses.uses log sessionId : Int) + credential.usesLeft = budget ∧
      0 ≤ credential.usesLeft
  /-- No authorisation after a logout. -/
  loggedOut : ∀ token,
    log.Pairwise fun x y => logsOut x token = true → authorises y token = false
  sessionLoggedOut : ∀ sessionId,
    log.Pairwise fun x y =>
      logsOutSession x sessionId = true → authorisesSession y sessionId = false
  /-- A refresh token mints at most its budget. -/
  refresh : ∀ token username budget, IssuedRefresh log token username budget →
    (refreshes.uses log token : Int) ≤ budget
  /-- A challenge yields credentials at most once, for its own code and user. -/
  challenge : ∀ challengeId, challenges.uses log challengeId ≤ 1
  verified : Always VerifiesOwn log
  /-- Tokens and sessions resolve to the user they were issued to. -/
  resolves : Always ResolvesAccess log
  sessionResolves : Always ResolvesSession log

theorem AllBalanced.challenge_once {log : List Exchange} {s : Store} (h : AllBalanced log s)
    (challengeId : String) : challenges.uses log challengeId ≤ 1 := by
  have balanced := h.challenge challengeId
  cases stored : s.mfaChallenges.get? challengeId with
  | none =>
      rw [stored] at balanced
      exact balanced.uses_eq_zero.le.trans (Nat.zero_le 1)
  | some challenge =>
      rw [stored] at balanced
      obtain ⟨budget, opened⟩ := balanced.backed _ rfl
      obtain ⟨a, _, _, balance, funds⟩ := balanced.account _ budget opened
      have one := (opened_challenge opened).2
      omega

theorem Lawful.withinBudget [Hashlib] {log : List Exchange} {s : Store} (h : Lawful log s) :
    WithinBudget log s where
  access token username budget issued := by
    obtain ⟨a, stored, owner, balance, funds⟩ := (h.balanced.access token).account _ _ issued
    obtain ⟨credential, found, rfl⟩ := Option.map_eq_some_iff.mp stored
    exact ⟨credential, found, owner, balance, funds⟩
  session sessionId username budget issued := by
    obtain ⟨a, stored, owner, balance, funds⟩ := (h.balanced.session sessionId).account _ _ issued
    obtain ⟨credential, found, rfl⟩ := Option.map_eq_some_iff.mp stored
    exact ⟨credential, found, owner, balance, funds⟩
  loggedOut token := (h.balanced.access token).silent
  sessionLoggedOut sessionId := (h.balanced.session sessionId).silent
  refresh token username budget issued := by
    obtain ⟨a, _, _, balance, funds⟩ := (h.balanced.refresh token).account _ _ issued
    omega
  challenge := h.balanced.challenge_once
  verified := h.verified
  resolves := h.access
  sessionResolves := h.session

/-- Over any sequence of requests every credential stays within its budget, and a
401 changes nothing. -/
theorem credentials_withinBudget [Hashlib] (distinct : DistinctDigests) (requests : List Request) :
    WithinBudget (exchanges initial requests) (after initial requests) ∧
      ∀ (s : Store) (request : Request), (request.handle s).1.statusCode = 401 →
        (request.handle s).2 = s :=
  ⟨(run_lawful distinct (run_exchanges initial requests)).withinBudget,
    fun s request => (handle_outcome request s).eq_of_unauthorised⟩

/-! ### A session -/

/-- The SHA-256 digest of `demo-session|alice|1`. -/
def aliceSessionId : String :=
  "9571c580f070abeebca890f61d8bf26ad89fa7945945faf3a2613517ef75e3fd"

/-- Digests without collisions, with the SHA-256 digest of Alice's session. -/
def demoSha256 (data : List UInt8) : String :=
  if data = encode "demo-session|alice|1" then aliceSessionId else "?" ++ decodeLatin1 data

@[reducible] def demoDigests : Hashlib := ⟨demoSha256⟩

theorem demoDigests_distinct : @DistinctDigests demoDigests := by
  have marked (data : List UInt8) : aliceSessionId ≠ "?" ++ decodeLatin1 data := by
    intro same
    have first := congrArg (·.toList.head?) same
    simp [aliceSessionId] at first
  intro s t same
  have same : demoSha256 (encode s) = demoSha256 (encode t) := same
  unfold demoSha256 at same
  split at same
  · rename_i one
    split at same
    · rename_i other
      exact encode_injective (one.trans other.symm)
    · exact absurd same (marked _)
  · split at same
    · exact absurd same.symm (marked _)
    · have decoded := String.append_right_inj _ |>.mp same
      have data := congrArg encodeLatin1 decoded
      rw [encodeLatin1_decodeLatin1, encodeLatin1_decodeLatin1] at data
      exact encode_injective (Option.some.inj data)

/-- Alice starts a session with two uses, uses one, and logs out before the next. -/
def aliceSession : List Request :=
  [.sessionLogin ⟨"alice", validPassword, 2⟩, .sessionProfile (some aliceSessionId),
    .sessionLogout (some aliceSessionId), .sessionProfile (some aliceSessionId)]

theorem aliceSession_withinBudget :
    let _ := demoDigests
    (exchanges initial aliceSession).map (·.2.statusCode) = [200, 200, 200, 401] ∧
      WithinBudget (exchanges initial aliceSession) (after initial aliceSession) := by
  let _ := demoDigests
  exact ⟨by decide +kernel, (credentials_withinBudget demoDigests_distinct aliceSession).1⟩

end PLoadtesting.TargetApps.AuthFlow
