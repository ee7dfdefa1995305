import PLoadtesting.Lib.Ledger
import PLoadtesting.TargetApps.AuthFlow

/-!
The budgets of the auth-flow credentials.

Each of the four dictionaries is read as accounts: an access token or a session
has its uses, a refresh token the access tokens it may still mint, a challenge
one verification. What opens, spends from and closes an account is read off the
requests and replies alone. Every outcome of a request is a `Ledger.Move` of every
account, so all four stay balanced over any sequence of requests.
-/

namespace PLoadtesting.TargetApps.AuthFlow

open Keyed Python Ledger Transition

/-! ### Reading the log -/

/-- The reply starts a challenge for the user that the request names. -/
def opensChallenge (_ : List Exchange) (x : Exchange) (challengeId : String)
    (owner : String × String × String) (budget : Int) : Prop :=
  match x.2, x.1 with
  | .challenged issued _ _, .mfaLoginStart body => challengeId = issued ∧
      owner = (body.username, body.channel, expectedMfaCode body.username body.channel) ∧
      budget = 1
  | _, _ => False

/-- The reply yields credentials for the challenge. -/
def verifies (x : Exchange) (challengeId : String) : Bool :=
  match x.2, x.1 with
  | .verifiedSession .., .mfaLoginVerify body => body.challengeId = challengeId
  | .verifiedBearer .., .mfaLoginVerify body => body.challengeId = challengeId
  | _, _ => false

/-- Challenges as accounts of one unit. -/
def challenges : Reading Exchange String (String × String × String) where
  opens := opensChallenge
  spends := verifies
  closes _ _ := false

/-- The challenge was started for the user on the channel. -/
def IssuedChallenge (log : List Exchange) (challengeId username channel : String) : Prop :=
  challenges.Opened log challengeId (username, channel, expectedMfaCode username channel) 1

/-- The reply hands out the refresh token: to the user who logs in, or to the user
whose challenge is verified. -/
def opensRefresh (log : List Exchange) (x : Exchange) (token username : String) (budget : Int) :
    Prop :=
  match x.2, x.1 with
  | .loggedIn _ issued _ uses, .login body =>
      token = issued ∧ username = body.username ∧ budget = uses
  | .verifiedBearer _ issued _ uses _, .mfaLoginVerify body =>
      token = issued ∧ (∃ channel, IssuedChallenge log body.challengeId username channel) ∧
        budget = uses
  | _, _ => False

/-- The reply mints an access token from the refresh token. -/
def mints (x : Exchange) (token : String) : Bool :=
  match x.2, x.1 with
  | .refreshed .., .refresh body => body.refreshToken = token
  | _, _ => false

/-- Refresh tokens as accounts of the access tokens they mint. -/
def refreshes : Reading Exchange String String where
  opens := opensRefresh
  spends := mints
  closes _ _ := false

/-- The refresh token was issued to the user with the budget. -/
def IssuedRefresh (log : List Exchange) (token username : String) (budget : Int) : Prop :=
  refreshes.Opened log token username budget

/-- The reply hands out the access token: to the user who logs in, whose challenge
is verified, or whose refresh token mints it. -/
def opensAccess (log : List Exchange) (x : Exchange) (token username : String) (budget : Int) :
    Prop :=
  match x.2, x.1 with
  | .loggedIn issued _ uses _, .login body =>
      token = issued ∧ username = body.username ∧ budget = uses
  | .verifiedBearer issued _ uses _ _, .mfaLoginVerify body =>
      token = issued ∧ (∃ channel, IssuedChallenge log body.challengeId username channel) ∧
        budget = uses
  | .refreshed issued uses _, .refresh body =>
      token = issued ∧ (∃ most, IssuedRefresh log body.refreshToken username most) ∧ budget = uses
  | _, _ => False

/-- The endpoint accepted the bearer token: it answered, or found no order for its
user. -/
def authorises (x : Exchange) (token : String) : Bool :=
  x.1.presents = some token && (x.2.statusCode = 200 || x.2.statusCode = 404)

def logsOut (x : Exchange) (token : String) : Bool :=
  match x.2, x.1 with
  | .loggedOut, .logout authorization => bearerToken authorization = some token
  | _, _ => false

/-- Access tokens as accounts of their uses. -/
def accesses : Reading Exchange String String where
  opens := opensAccess
  spends := authorises
  closes := logsOut

/-- The access token was issued to the user with the budget. -/
def IssuedAccess (log : List Exchange) (token username : String) (budget : Int) : Prop :=
  accesses.Opened log token username budget

/-- The reply sets the session cookie: for the user who logs in, or whose challenge
is verified. -/
def opensSession (log : List Exchange) (x : Exchange) (sessionId username : String)
    (budget : Int) : Prop :=
  match x.2, x.1 with
  | .sessionStarted issued uses, .sessionLogin body =>
      sessionId = issued ∧ username = body.username ∧ budget = uses
  | .verifiedSession issued uses _, .mfaLoginVerify body =>
      sessionId = issued ∧ (∃ channel, IssuedChallenge log body.challengeId username channel) ∧
        budget = uses
  | _, _ => False

/-- The endpoint accepted the session cookie. -/
def authorisesSession (x : Exchange) (sessionId : String) : Bool :=
  match x.2, x.1 with
  | .sessionProfile _, .sessionProfile cookie => sessionCookie cookie = some sessionId
  | _, _ => false

def logsOutSession (x : Exchange) (sessionId : String) : Bool :=
  match x.2, x.1 with
  | .sessionLoggedOut, .sessionLogout cookie => sessionCookie cookie = some sessionId
  | _, _ => false

/-- Sessions as accounts of their uses. -/
def sessionUses : Reading Exchange String String where
  opens := opensSession
  spends := authorisesSession
  closes := logsOutSession

/-- The session was issued to the user with the budget. -/
def IssuedSession (log : List Exchange) (sessionId username : String) (budget : Int) : Prop :=
  sessionUses.Opened log sessionId username budget

/-! ### The dictionaries as accounts -/

def Credential.account (credential : Credential) : Account String :=
  ⟨credential.username, credential.usesLeft, credential.revoked⟩

def RefreshState.account (state : RefreshState) : Account String :=
  ⟨state.username, state.refreshUsesLeft, state.revoked⟩

def Challenge.account (challenge : Challenge) : Account (String × String × String) :=
  ⟨(challenge.username, challenge.channel, challenge.expectedCode),
    if challenge.used then 0 else 1, false⟩

section Dictionaries

variable {α O : Type} {account : α → Account O} {r : Reading Exchange String O}
  {log : List Exchange} {x : Exchange} {d : Dict α} {key : String} {value : α}

/-- Every account of a dictionary after one of its keys was set. -/
theorem account_set (k : String) : ((d.set key value).get? k).map account =
    if k = key then some (account value) else (d.get? k).map account := by
  rw [Dict.get?_set]
  split <;> rfl

/-- A new key opens its account. -/
theorem move_opened {owner : O} {budget : Int} (fresh : d.get? key = none)
    (value_eq : account value = ⟨owner, budget, false⟩) (funded : 0 ≤ budget)
    (opens : ∀ k owner' budget', r.opens log x k owner' budget' ↔
      k = key ∧ owner' = owner ∧ budget' = budget)
    (quiet : ∀ k, r.Quiet x k) (k : String) :
    Move r log x k ((d.get? k).map account) (((d.set key value).get? k).map account) := by
  rw [account_set]
  split
  · rename_i same
    subst same
    rw [fresh, value_eq]
    exact .opened funded (fun owner' budget' => by simp [opens]) (quiet k)
  · rename_i other
    refine .quiet (fun owner' budget' opened => ?_) (quiet k)
    exact other ((opens k owner' budget').mp opened).1

/-- Using a key spends from its account. -/
theorem move_spent {old : α} (stored : d.get? key = some old)
    (value_eq : account value = { account old with left := (account old).left - 1 })
    (usable : (account old).closed = false) (funds : 0 < (account old).left)
    (opens : ∀ k owner budget, ¬ r.opens log x k owner budget)
    (spends : ∀ k, r.spends x k = true ↔ k = key) (closes : ∀ k, r.closes x k = false)
    (k : String) :
    Move r log x k ((d.get? k).map account) (((d.set key value).get? k).map account) := by
  rw [account_set]
  split
  · rename_i same
    subst same
    rw [stored, value_eq]
    exact .spent usable funds (opens k) ((spends k).mpr rfl) (closes k)
  · rename_i other
    refine .quiet (opens k) ⟨?_, closes k⟩
    exact Bool.eq_false_iff.mpr fun spent => other ((spends k).mp spent)

/-- Revoking a key closes its account. -/
theorem move_closed {old : α} (stored : d.get? key = some old)
    (value_eq : account value = { account old with closed := true })
    (opens : ∀ k owner budget, ¬ r.opens log x k owner budget)
    (spends : ∀ k, r.spends x k = false) (closes : ∀ k, r.closes x k = true → k = key)
    (k : String) :
    Move r log x k ((d.get? k).map account) (((d.set key value).get? k).map account) := by
  rw [account_set]
  split
  · rename_i same
    subst same
    rw [stored, value_eq]
    exact .closed (opens k) (spends k)
  · rename_i other
    refine .quiet (opens k) ⟨spends k, ?_⟩
    exact Bool.eq_false_iff.mpr fun closed => other (closes k closed)

end Dictionaries

/-- The four dictionaries are what the log makes of them. -/
structure AllBalanced (log : List Exchange) (s : Store) : Prop where
  access : ∀ k, Balanced accesses log k ((s.accessTokens.get? k).map Credential.account)
  refresh : ∀ k, Balanced refreshes log k ((s.refreshTokens.get? k).map RefreshState.account)
  session : ∀ k, Balanced sessionUses log k ((s.sessions.get? k).map Credential.account)
  challenge : ∀ k, Balanced challenges log k ((s.mfaChallenges.get? k).map Challenge.account)

/-! ### Fresh identifiers -/

section Numbers

variable [Hashlib]

/-- The identifier hashes a text that ends in an earlier value of the counter. -/
def Numbered (kind : String) (counter : Nat) (key : String) : Prop :=
  ∃ subject n, n < counter ∧ key = digestId kind subject n

/-- Every key of the dictionary carries an earlier value of the counter. -/
def KeysNumbered {α : Type} (kind : String) (counter : Nat) (d : Dict α) : Prop :=
  ∀ k c, d.get? k = some c → Numbered kind counter k

structure AllNumbered (s : Store) : Prop where
  access : KeysNumbered "demo-access" s.tokenCounter s.accessTokens
  refresh : KeysNumbered "demo-refresh" s.tokenCounter s.refreshTokens
  session : KeysNumbered "demo-session" s.tokenCounter s.sessions
  challenge : KeysNumbered "demo-mfa" s.tokenCounter s.mfaChallenges

section Keys

variable {α : Type} {d : Dict α} {kind key : String} {counter counter' : Nat} {value old : α}

theorem KeysNumbered.mono (h : KeysNumbered kind counter d) (grows : counter ≤ counter') :
    KeysNumbered kind counter' d := by
  intro k c stored
  obtain ⟨subject, n, earlier, same⟩ := h k c stored
  exact ⟨subject, n, by omega, same⟩

/-- Updating an entry keeps the keys. -/
theorem KeysNumbered.update (h : KeysNumbered kind counter d) (stored : d.get? key = some old) :
    KeysNumbered kind counter (d.set key value) := by
  intro k c found
  rw [Dict.get?_set] at found
  split at found
  · rename_i same
    exact same ▸ h key old stored
  · exact h k c found

/-- A new entry takes the value of the counter. -/
theorem KeysNumbered.issue (h : KeysNumbered kind counter d) (subject : String)
    (grows : counter ≤ counter') :
    KeysNumbered kind (counter' + 1) (d.set (digestId kind subject counter') value) := by
  intro k c found
  rw [Dict.get?_set] at found
  split at found
  · rename_i same
    exact ⟨subject, counter', by omega, same⟩
  · exact h.mono (Nat.le_succ_of_le grows) k c found

end Keys

/-- The number is the last field of the hashed text. -/
theorem digestId_number (distinct : DistinctDigests) {kind subject subject' : String} {n n' : Nat}
    (same : digestId kind subject n = digestId kind subject' n') : n = n' := by
  have noBar (m : Nat) : '|' ∉ m.repr.toList := by
    rw [Nat.toList_repr]
    intro mem
    exact absurd (Nat.isDigit_of_mem_toDigits (by decide) (by decide) mem) (by decide)
  have last (subject : String) (m : Nat) :
      Url.afterLast '|' (kind ++ "|" ++ subject ++ "|" ++ m.repr).toList = m.repr.toList := by
    have cut : (kind ++ "|" ++ subject ++ "|" ++ m.repr).toList =
        (kind ++ "|" ++ subject).toList ++ '|' :: m.repr.toList := by
      simp [String.toList_append]
    rw [cut, Url.afterLast_append _ (noBar m)]
  have texts := distinct _ _ same
  have digits : Nat.toDigits 10 n = Nat.toDigits 10 n' := by
    rw [← Nat.toList_repr, ← Nat.toList_repr, ← last subject n, ← last subject' n', texts]
  have read := congrArg (Nat.ofDigitChars 10 · 0) digits
  simpa only [Nat.ofDigitChars_ten_toDigits] using read

/-- The next identifier is not in use. -/
theorem fresh_of_numbered (distinct : DistinctDigests) {α : Type} {d : Dict α} {kind : String}
    {counter n : Nat} (numbered : KeysNumbered kind counter d) (later : counter ≤ n)
    (subject : String) : d.get? (digestId kind subject n) = none := by
  cases stored : d.get? (digestId kind subject n) with
  | none => rfl
  | some c =>
      obtain ⟨subject', n', earlier, same⟩ := numbered _ c stored
      exact absurd (digestId_number distinct same) (by omega)

end Numbers

/-! ### Owners -/

section Owners

variable {log : List Exchange} {s : Store}

theorem AllBalanced.initial : AllBalanced [] AuthFlow.initial where
  access _ := balanced_nil
  refresh _ := balanced_nil
  session _ := balanced_nil
  challenge _ := balanced_nil

/-- A challenge is opened for the code of its user and channel. -/
theorem opened_challenge {challengeId : String} {owner : String × String × String} {budget : Int}
    (opened : challenges.Opened log challengeId owner budget) :
    owner.2.2 = expectedMfaCode owner.1 owner.2.1 ∧ budget = 1 := by
  obtain ⟨before, x, later, _, opens⟩ := opened
  simp only [challenges, opensChallenge] at opens
  split at opens
  · obtain ⟨_, rfl, rfl⟩ := opens
    exact ⟨rfl, rfl⟩
  · cases opens

/-- A stored challenge was started for its user and channel, with their code. -/
theorem AllBalanced.issuedChallenge (h : AllBalanced log s) {challengeId : String}
    {challenge : Challenge} (stored : s.mfaChallenges.get? challengeId = some challenge) :
    IssuedChallenge log challengeId challenge.username challenge.channel ∧
      challenge.expectedCode = expectedMfaCode challenge.username challenge.channel := by
  have balanced := h.challenge challengeId
  rw [stored] at balanced
  obtain ⟨budget, opened⟩ := balanced.backed _ rfl
  obtain ⟨code, rfl⟩ := opened_challenge opened
  have code : challenge.expectedCode = expectedMfaCode challenge.username challenge.channel := code
  refine ⟨?_, code⟩
  unfold IssuedChallenge
  rw [← code]
  exact opened

theorem AllBalanced.exists_issuedChallenge_iff (h : AllBalanced log s) {challengeId : String}
    {challenge : Challenge} (stored : s.mfaChallenges.get? challengeId = some challenge)
    (username : String) :
    (∃ channel, IssuedChallenge log challengeId username channel) ↔
      username = challenge.username := by
  have own := (h.issuedChallenge stored).1
  constructor
  · rintro ⟨channel, issued⟩
    exact congrArg Prod.fst ((h.challenge challengeId).owner_unique issued own)
  · rintro rfl
    exact ⟨_, own⟩

theorem AllBalanced.exists_issuedRefresh_iff (h : AllBalanced log s) {token : String}
    {state : RefreshState} (stored : s.refreshTokens.get? token = some state)
    (username : String) :
    (∃ most, IssuedRefresh log token username most) ↔ username = state.username := by
  have balanced := h.refresh token
  rw [stored] at balanced
  obtain ⟨budget, own⟩ := balanced.backed _ rfl
  constructor
  · rintro ⟨most, issued⟩
    exact balanced.owner_unique issued own
  · rintro rfl
    exact ⟨budget, own⟩

end Owners

/-! ### One request -/

section Requests

variable {log : List Exchange} {s s' : Store} {request : Request} {reply : Reply}

theorem LoginRequest.funded {body : LoginRequest} (valid : body.valid = true) :
    0 ≤ body.accessTokenUses ∧ 0 ≤ body.refreshUses := by
  simp only [LoginRequest.valid, between, Bool.and_eq_true, decide_eq_true_eq] at valid
  omega

theorem MfaVerifyRequest.funded {body : MfaVerifyRequest} (valid : body.valid = true) :
    0 ≤ body.accessTokenUses ∧ 0 ≤ body.refreshUses ∧ 0 ≤ body.sessionUses := by
  simp only [MfaVerifyRequest.valid, between, Bool.and_eq_true, decide_eq_true_eq] at valid
  omega

theorem Answers.statusCode {username : String} (h : Answers username request reply) :
    reply.statusCode = 200 ∨ reply.statusCode = 404 := by
  cases h with
  | profile => exact .inl rfl
  | checkout => exact .inl rfl
  | order => exact .inl rfl
  | noOrder => exact .inr rfl

/-- A refusal with 401 or 422 bears on no account. -/
theorem AllBalanced.refused (h : AllBalanced log s) {error : HTTPException}
    (status : error.statusCode = 401 ∨ error.statusCode = 422) :
    AllBalanced (log ++ [(request, .refused error)]) s := by
  have unauthorised (token : String) :
      authorises (request, .refused error) token = false := by
    rcases status with status | status <;> simp [authorises, Reply.statusCode, status]
  exact {
    access := fun k => (h.access k).next (.quiet (fun _ _ => id) ⟨unauthorised k, rfl⟩)
    refresh := fun k => (h.refresh k).next (.quiet (fun _ _ => id) ⟨rfl, rfl⟩)
    session := fun k => (h.session k).next (.quiet (fun _ _ => id) ⟨rfl, rfl⟩)
    challenge := fun k => (h.challenge k).next (.quiet (fun _ _ => id) ⟨rfl, rfl⟩) }

/-- An answer behind `_require_user` spends one use of the token. -/
theorem AllBalanced.used (h : AllBalanced log s) {token : String} {credential : Credential}
    (orders : Table Order.orderId) (orderCounter : Nat)
    (presents : request.presents = some token)
    (stored : s.accessTokens.get? token = some credential) (usable : credential.revoked = false)
    (funds : 0 < credential.usesLeft) (answers : Answers credential.username request reply) :
    AllBalanced (log ++ [(request, reply)])
      { s with
        accessTokens := s.accessTokens.set token credential.spent
        orders
        orderCounter } := by
  have spends (k : String) : authorises (request, reply) k = true ↔ k = token := by
    simp only [authorises, presents, Bool.and_eq_true, Bool.or_eq_true, decide_eq_true_eq,
      answers.statusCode, and_true, Option.some.injEq]
    exact eq_comm
  refine ⟨fun k => (h.access k).next ?_, fun k => (h.refresh k).next ?_,
    fun k => (h.session k).next ?_, fun k => (h.challenge k).next ?_⟩
  · refine move_spent stored rfl usable funds ?_ spends ?_ k
    · cases answers <;> exact fun _ _ _ => id
    · cases answers <;> exact fun _ => rfl
  · cases answers <;> exact .quiet (fun _ _ => id) ⟨rfl, rfl⟩
  · cases answers <;> exact .quiet (fun _ _ => id) ⟨rfl, rfl⟩
  · cases answers <;> exact .quiet (fun _ _ => id) ⟨rfl, rfl⟩

/-- Verifying a challenge uses it up. -/
theorem AllBalanced.verified (h : AllBalanced log s) {body : MfaVerifyRequest}
    {challenge : Challenge} (stored : s.mfaChallenges.get? body.challengeId = some challenge)
    (unused : challenge.used = false)
    (opens : ∀ k owner budget, ¬ opensChallenge log (.mfaLoginVerify body, reply) k owner budget)
    (verifies_iff : ∀ k, verifies (.mfaLoginVerify body, reply) k = true ↔ body.challengeId = k)
    (k : String) :
    Balanced challenges (log ++ [(.mfaLoginVerify body, reply)]) k
      (((s.markUsed body.challengeId challenge).mfaChallenges.get? k).map Challenge.account) := by
  refine (h.challenge k).next (move_spent stored ?_ rfl ?_ opens ?_ (fun _ => rfl) k)
  · simp [Challenge.account, unused]
  · simp [Challenge.account, unused]
  · exact fun k => (verifies_iff k).trans eq_comm

variable [Hashlib]

/-- The tokens of a login open an account each. -/
theorem balanced_issueBearer (distinct : DistinctDigests)
    (numberedAccess : KeysNumbered "demo-access" s.tokenCounter s.accessTokens)
    (numberedRefresh : KeysNumbered "demo-refresh" s.tokenCounter s.refreshTokens)
    (balancedAccess : ∀ k, Balanced accesses log k
      ((s.accessTokens.get? k).map Credential.account))
    (balancedRefresh : ∀ k, Balanced refreshes log k
      ((s.refreshTokens.get? k).map RefreshState.account))
    {username access fresh : String} {accessUses refreshUses : Int}
    (accessFunded : 0 ≤ accessUses) (refreshFunded : 0 ≤ refreshUses)
    (issued : issueBearer username accessUses refreshUses s = ((access, fresh), s'))
    {x : Exchange}
    (opensAccess_iff : ∀ k owner budget, opensAccess log x k owner budget ↔
      k = access ∧ owner = username ∧ budget = accessUses)
    (quietAccess : ∀ k, accesses.Quiet x k)
    (opensRefresh_iff : ∀ k owner budget, opensRefresh log x k owner budget ↔
      k = fresh ∧ owner = username ∧ budget = refreshUses)
    (quietRefresh : ∀ k, refreshes.Quiet x k) (k : String) :
    Balanced accesses (log ++ [x]) k ((s'.accessTokens.get? k).map Credential.account) ∧
      Balanced refreshes (log ++ [x]) k ((s'.refreshTokens.get? k).map RefreshState.account) := by
  simp only [issueBearer, issueAccessToken, issueRefreshToken, Prod.mk.injEq] at issued
  obtain ⟨⟨rfl, rfl⟩, rfl⟩ := issued
  refine ⟨(balancedAccess k).next ?_, (balancedRefresh k).next ?_⟩
  · exact move_opened (fresh_of_numbered distinct numberedAccess le_rfl _) rfl accessFunded
      opensAccess_iff quietAccess k
  · exact move_opened (fresh_of_numbered distinct numberedRefresh (Nat.le_succ _) _) rfl
      refreshFunded opensRefresh_iff quietRefresh k

/-- A new session opens its account. -/
theorem balanced_issueSession (distinct : DistinctDigests)
    (numbered : KeysNumbered "demo-session" s.tokenCounter s.sessions)
    (balanced : ∀ k, Balanced sessionUses log k ((s.sessions.get? k).map Credential.account))
    {username sessionId : String} {uses : Int} (funded : 0 ≤ uses)
    (issued : issueSession username uses s = (sessionId, s')) {x : Exchange}
    (opens_iff : ∀ k owner budget, opensSession log x k owner budget ↔
      k = sessionId ∧ owner = username ∧ budget = uses)
    (quiet : ∀ k, sessionUses.Quiet x k) (k : String) :
    Balanced sessionUses (log ++ [x]) k ((s'.sessions.get? k).map Credential.account) := by
  simp only [issueSession, Prod.mk.injEq] at issued
  obtain ⟨rfl, rfl⟩ := issued
  exact (balanced k).next (move_opened (fresh_of_numbered distinct numbered le_rfl _) rfl
    funded opens_iff quiet k)

/-- Every outcome of a request keeps the accounts in balance. -/
theorem AllBalanced.next (distinct : DistinctDigests) (numbered : AllNumbered s)
    (h : AllBalanced log s) (outcome : Outcome s request reply s') :
    AllBalanced (log ++ [(request, reply)]) s' := by
  have quiet {O : Type} {r : Reading Exchange String O} {x : Exchange} {k : String}
      {stored : Option (Account O)} (balanced : Balanced r log k stored)
      (opens : ∀ owner budget, ¬ r.opens log x k owner budget) (quiet : r.Quiet x k) :
      Balanced r (log ++ [x]) k stored := balanced.next (.quiet opens quiet)
  cases outcome with
  | refused status => exact h.refused status
  | healthy =>
      exact {
        access := fun k => quiet (h.access k) (fun _ _ => id) ⟨rfl, rfl⟩
        refresh := fun k => quiet (h.refresh k) (fun _ _ => id) ⟨rfl, rfl⟩
        session := fun k => quiet (h.session k) (fun _ _ => id) ⟨rfl, rfl⟩
        challenge := fun k => quiet (h.challenge k) (fun _ _ => id) ⟨rfl, rfl⟩ }
  | @loggedIn body access fresh _ valid issued =>
      have funded := LoginRequest.funded valid
      have tokens := balanced_issueBearer distinct numbered.access numbered.refresh h.access
        h.refresh funded.1 funded.2 issued
        (x := (.login body, .loggedIn access fresh body.accessTokenUses body.refreshUses))
        (fun _ _ _ => Iff.rfl) (fun _ => ⟨rfl, rfl⟩) (fun _ _ _ => Iff.rfl) (fun _ => ⟨rfl, rfl⟩)
      simp only [issueBearer, issueAccessToken, issueRefreshToken, Prod.mk.injEq] at issued
      obtain ⟨-, rfl⟩ := issued
      exact {
        access := fun k => (tokens k).1
        refresh := fun k => (tokens k).2
        session := fun k => quiet (h.session k) (fun _ _ => id) ⟨rfl, rfl⟩
        challenge := fun k => quiet (h.challenge k) (fun _ _ => id) ⟨rfl, rfl⟩ }
  | @sessionStarted body sessionId _ valid issued =>
      have funded : 0 ≤ body.sessionUses := by
        simp only [SessionLoginRequest.valid, between, Bool.and_eq_true, decide_eq_true_eq] at valid
        omega
      have session := balanced_issueSession distinct numbered.session h.session funded issued
        (x := (.sessionLogin body, .sessionStarted sessionId body.sessionUses))
        (fun _ _ _ => Iff.rfl) (fun _ => ⟨rfl, rfl⟩)
      simp only [issueSession, Prod.mk.injEq] at issued
      obtain ⟨-, rfl⟩ := issued
      exact {
        access := fun k => quiet (h.access k) (fun _ _ => id) ⟨rfl, rfl⟩
        refresh := fun k => quiet (h.refresh k) (fun _ _ => id) ⟨rfl, rfl⟩
        session := session
        challenge := fun k => quiet (h.challenge k) (fun _ _ => id) ⟨rfl, rfl⟩ }
  | @refreshed body state access _ valid stored usable funds issued =>
      have funded : 0 ≤ body.accessTokenUses := by
        simp only [RefreshRequest.valid, between, Bool.and_eq_true, decide_eq_true_eq] at valid
        omega
      simp only [issueAccessToken, Store.setRefresh, Prod.mk.injEq] at issued
      obtain ⟨rfl, rfl⟩ := issued
      refine ⟨fun k => (h.access k).next ?_, fun k => (h.refresh k).next ?_,
        fun k => quiet (h.session k) (fun _ _ => id) ⟨rfl, rfl⟩,
        fun k => quiet (h.challenge k) (fun _ _ => id) ⟨rfl, rfl⟩⟩
      · refine move_opened (fresh_of_numbered distinct numbered.access le_rfl _) rfl funded ?_
          (fun _ => ⟨rfl, rfl⟩) k
        intro k owner budget
        refine and_congr_right fun _ => and_congr_left fun _ => ?_
        exact h.exists_issuedRefresh_iff stored owner
      · refine move_spent stored rfl usable funds (fun _ _ _ => id) ?_ (fun _ => rfl) k
        intro k
        simp only [refreshes, mints, decide_eq_true_eq]
        exact eq_comm
  | @challenged body challengeId hint _ issued =>
      unfold issueMfaChallenge at issued
      split at issued
      · cases issued
      · simp only [Prod.mk.injEq, Except.ok.injEq] at issued
        obtain ⟨rfl, rfl⟩ := issued
        refine ⟨fun k => quiet (h.access k) (fun _ _ => id) ⟨rfl, rfl⟩,
          fun k => quiet (h.refresh k) (fun _ _ => id) ⟨rfl, rfl⟩,
          fun k => quiet (h.session k) (fun _ _ => id) ⟨rfl, rfl⟩,
          fun k => (h.challenge k).next ?_⟩
        exact move_opened (fresh_of_numbered distinct numbered.challenge le_rfl _) rfl
          Int.one_nonneg (fun _ _ _ => Iff.rfl) (fun _ => ⟨rfl, rfl⟩) k
  | @verifiedSession body challenge sessionId _ valid stored unused code issued =>
      have funded := MfaVerifyRequest.funded valid
      have session := balanced_issueSession (s := s.markUsed body.challengeId challenge) distinct
        numbered.session h.session funded.2.2 issued
        (x := (.mfaLoginVerify body,
          .verifiedSession sessionId body.sessionUses challenge.channel))
        (fun _ owner _ => and_congr_right fun _ => and_congr_left fun _ =>
          h.exists_issuedChallenge_iff stored owner)
        (fun _ => ⟨rfl, rfl⟩)
      simp only [issueSession, Prod.mk.injEq] at issued
      obtain ⟨-, rfl⟩ := issued
      exact {
        access := fun k => quiet (h.access k) (fun _ _ => id) ⟨rfl, rfl⟩
        refresh := fun k => quiet (h.refresh k) (fun _ _ => id) ⟨rfl, rfl⟩
        session := session
        challenge := h.verified stored unused (fun _ _ _ => id) fun _ => decide_eq_true_iff }
  | @verifiedBearer body challenge access fresh _ valid stored unused code issued =>
      have funded := MfaVerifyRequest.funded valid
      have tokens := balanced_issueBearer (s := s.markUsed body.challengeId challenge) distinct
        numbered.access numbered.refresh h.access h.refresh funded.1 funded.2.1 issued
        (x := (.mfaLoginVerify body, .verifiedBearer access fresh body.accessTokenUses
          body.refreshUses challenge.channel))
        (fun _ owner _ => and_congr_right fun _ => and_congr_left fun _ =>
          h.exists_issuedChallenge_iff stored owner)
        (fun _ => ⟨rfl, rfl⟩)
        (fun _ owner _ => and_congr_right fun _ => and_congr_left fun _ =>
          h.exists_issuedChallenge_iff stored owner)
        (fun _ => ⟨rfl, rfl⟩)
      simp only [issueBearer, issueAccessToken, issueRefreshToken, Prod.mk.injEq] at issued
      obtain ⟨-, rfl⟩ := issued
      exact {
        access := fun k => (tokens k).1
        refresh := fun k => (tokens k).2
        session := fun k => quiet (h.session k) (fun _ _ => id) ⟨rfl, rfl⟩
        challenge := h.verified stored unused (fun _ _ _ => id) fun _ => decide_eq_true_iff }
  | used presents stored usable funds answers =>
      exact h.used _ _ presents stored usable funds answers
  | @sessionUsed cookie sessionId credential presents stored usable funds =>
      refine ⟨fun k => quiet (h.access k) (fun _ _ => id) ⟨rfl, rfl⟩,
        fun k => quiet (h.refresh k) (fun _ _ => id) ⟨rfl, rfl⟩,
        fun k => (h.session k).next ?_,
        fun k => quiet (h.challenge k) (fun _ _ => id) ⟨rfl, rfl⟩⟩
      refine move_spent stored rfl usable funds (fun _ _ _ => id) ?_ (fun _ => rfl) k
      intro k
      simp only [sessionUses, authorisesSession, presents, Option.some.injEq, decide_eq_true_eq]
      exact eq_comm
  | @loggedOut authorization token credential presents stored =>
      refine ⟨fun k => (h.access k).next ?_,
        fun k => quiet (h.refresh k) (fun _ _ => id) ⟨rfl, rfl⟩,
        fun k => quiet (h.session k) (fun _ _ => id) ⟨rfl, rfl⟩,
        fun k => quiet (h.challenge k) (fun _ _ => id) ⟨rfl, rfl⟩⟩
      refine move_closed stored rfl (fun _ _ _ => id) (fun _ => rfl) ?_ k
      intro k closes
      simp only [accesses, logsOut, presents, Option.some.injEq, decide_eq_true_eq] at closes
      exact closes.symm
  | @sessionLoggedOut cookie sessionId credential presents stored =>
      refine ⟨fun k => quiet (h.access k) (fun _ _ => id) ⟨rfl, rfl⟩,
        fun k => quiet (h.refresh k) (fun _ _ => id) ⟨rfl, rfl⟩,
        fun k => (h.session k).next ?_,
        fun k => quiet (h.challenge k) (fun _ _ => id) ⟨rfl, rfl⟩⟩
      refine move_closed stored rfl (fun _ _ _ => id) (fun _ => rfl) ?_ k
      intro k closes
      simp only [sessionUses, logsOutSession, presents, Option.some.injEq, decide_eq_true_eq]
        at closes
      exact closes.symm

theorem AllNumbered.initial : AllNumbered AuthFlow.initial := by
  refine ⟨?_, ?_, ?_, ?_⟩
  all_goals
    intro k c stored
    cases stored

/-- Every outcome of a request keeps the identifiers numbered. -/
theorem AllNumbered.next (h : AllNumbered s) (outcome : Outcome s request reply s') :
    AllNumbered s' := by
  have later := Nat.le_succ s.tokenCounter
  have later' := Nat.le_succ (s.tokenCounter + 1)
  cases outcome with
  | refused status => exact h
  | healthy => exact h
  | loggedIn valid issued =>
      simp only [issueBearer, issueAccessToken, issueRefreshToken, Prod.mk.injEq] at issued
      obtain ⟨-, rfl⟩ := issued
      exact ⟨(h.access.issue _ le_rfl).mono later', h.refresh.issue _ later,
        h.session.mono (later.trans later'), h.challenge.mono (later.trans later')⟩
  | sessionStarted valid issued =>
      simp only [issueSession, Prod.mk.injEq] at issued
      obtain ⟨-, rfl⟩ := issued
      exact ⟨h.access.mono later, h.refresh.mono later, h.session.issue _ le_rfl,
        h.challenge.mono later⟩
  | refreshed valid stored usable funds issued =>
      simp only [issueAccessToken, Store.setRefresh, Prod.mk.injEq] at issued
      obtain ⟨-, rfl⟩ := issued
      exact ⟨h.access.issue _ le_rfl, (h.refresh.update stored).mono later, h.session.mono later,
        h.challenge.mono later⟩
  | challenged issued =>
      unfold issueMfaChallenge at issued
      split at issued
      · cases issued
      · simp only [Prod.mk.injEq] at issued
        obtain ⟨-, rfl⟩ := issued
        exact ⟨h.access.mono later, h.refresh.mono later, h.session.mono later,
          h.challenge.issue _ le_rfl⟩
  | verifiedSession valid stored unused code issued =>
      simp only [issueSession, Store.markUsed, Prod.mk.injEq] at issued
      obtain ⟨-, rfl⟩ := issued
      exact ⟨h.access.mono later, h.refresh.mono later, h.session.issue _ le_rfl,
        (h.challenge.update stored).mono later⟩
  | verifiedBearer valid stored unused code issued =>
      simp only [issueBearer, issueAccessToken, issueRefreshToken, Store.markUsed, Prod.mk.injEq]
        at issued
      obtain ⟨-, rfl⟩ := issued
      exact ⟨(h.access.issue _ le_rfl).mono later', h.refresh.issue _ later,
        h.session.mono (later.trans later'),
        (h.challenge.update stored).mono (later.trans later')⟩
  | used presents stored usable funds answers => exact { h with access := h.access.update stored }
  | sessionUsed presents stored usable funds => exact { h with session := h.session.update stored }
  | loggedOut presents stored => exact { h with access := h.access.update stored }
  | sessionLoggedOut presents stored => exact { h with session := h.session.update stored }

/-- A reply with 401 leaves the store as it was. -/
theorem Outcome.eq_of_unauthorised (outcome : Outcome s request reply s')
    (unauthorised : reply.statusCode = 401) : s' = s := by
  cases outcome with
  | refused status => rfl
  | used presents stored usable funds answers =>
      rcases answers.statusCode with status | status <;> simp [status] at unauthorised
  | _ => first | rfl | simp [Reply.statusCode] at unauthorised

end Requests

end PLoadtesting.TargetApps.AuthFlow
