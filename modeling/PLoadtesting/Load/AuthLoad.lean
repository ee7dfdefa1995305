import PLoadtesting.Load.MfaCodes
import PLoadtesting.TargetApps.MfaCap

/-!
Virtual users of the auth-flow app.

A virtual user holds the credentials that the app has handed to it. A request
changes no credential but the one that it carries, and a new credential is not in
use yet unless two digests collide, so the users keep out of each other's way
(`credentials`). What is left that one user can do to another is to take the last
place for a challenge.
-/

namespace PLoadtesting.Load

open Keyed Python Transition Clients TargetApps TargetApps.AuthFlow Engine

/-! ### Credentials -/

inductive Key where
  | access (token : String)
  | refresh (token : String)
  | session (sessionId : String)
  | challenge (challengeId : String)
  deriving DecidableEq

/-- What the app keeps for a key. -/
inductive Entry where
  | uses (credential : Credential)
  | mints (state : RefreshState)
  | asks (challenge : Challenge)

/-- The entry for a key. -/
def entry (s : Store) : Key → Option Entry
  | .access token => (s.accessTokens.get? token).map .uses
  | .refresh token => (s.refreshTokens.get? token).map .mints
  | .session sessionId => (s.sessions.get? sessionId).map .uses
  | .challenge challengeId => (s.mfaChallenges.get? challengeId).map .asks

/-- The key that a request carries. -/
def carries : Request → Option Key
  | .profile authorization | .checkout _ authorization | .getOrder _ authorization
  | .logout authorization => (bearerToken authorization).map .access
  | .refresh body => some (.refresh body.refreshToken)
  | .mfaLoginVerify body => some (.challenge body.challengeId)
  | .sessionProfile cookie | .sessionLogout cookie => (sessionCookie cookie).map .session
  | _ => none

/-- The keys that a reply hands out. -/
def grants : Reply → List Key
  | .loggedIn access fresh _ _ | .verifiedBearer access fresh _ _ _ =>
      [.access access, .refresh fresh]
  | .sessionStarted sessionId _ | .verifiedSession sessionId _ _ => [.session sessionId]
  | .refreshed access _ _ => [.access access]
  | .challenged challengeId _ _ => [.challenge challengeId]
  | _ => []

theorem carries_of_presents {request : Request} {token : String}
    (presents : request.presents = some token) : carries request = some (.access token) := by
  cases request <;> simp_all [Request.presents, carries]

/-- A key that is neither handed out nor carried keeps its entry. -/
theorem entry_eq [Hashlib] {s s' : Store} {request : Request} {reply : Reply} {key : Key}
    (outcome : Outcome s request reply s') (old : key ∉ grants reply)
    (other : some key ≠ carries request) : entry s' key = entry s key := by
  cases outcome with
  | refused status => rfl
  | healthy => rfl
  | loggedIn valid issued =>
      simp only [issueBearer, issueAccessToken, issueRefreshToken, Prod.mk.injEq] at issued
      obtain ⟨⟨rfl, rfl⟩, rfl⟩ := issued
      cases key <;> simp_all [grants, entry]
  | sessionStarted valid issued =>
      simp only [issueSession, Prod.mk.injEq] at issued
      obtain ⟨rfl, rfl⟩ := issued
      cases key <;> simp_all [grants, entry]
  | refreshed valid stored usable funds issued =>
      simp only [issueAccessToken, Store.setRefresh, Prod.mk.injEq] at issued
      obtain ⟨rfl, rfl⟩ := issued
      cases key <;> simp_all [grants, carries, entry]
  | challenged issued =>
      unfold issueMfaChallenge at issued
      split at issued
      · cases issued
      · simp only [Prod.mk.injEq, Except.ok.injEq] at issued
        obtain ⟨rfl, rfl⟩ := issued
        cases key <;> simp_all [grants, entry]
  | verifiedSession valid stored unused code issued =>
      simp only [issueSession, Store.markUsed, Prod.mk.injEq] at issued
      obtain ⟨rfl, rfl⟩ := issued
      cases key <;> simp_all [grants, carries, entry]
  | verifiedBearer valid stored unused code issued =>
      simp only [issueBearer, issueAccessToken, issueRefreshToken, Store.markUsed, Prod.mk.injEq]
        at issued
      obtain ⟨⟨rfl, rfl⟩, rfl⟩ := issued
      cases key <;> simp_all [grants, carries, entry]
  | used presents stored usable funds answers =>
      rw [carries_of_presents presents] at other
      cases key <;> simp_all [entry]
  | sessionUsed presents stored usable funds =>
      cases key <;> simp_all [carries, entry]
  | loggedOut presents stored =>
      cases key <;> simp_all [carries, entry]
  | sessionLoggedOut presents stored =>
      cases key <;> simp_all [carries, entry]

/-- Nothing is kept for the key yet. -/
def Unused (s : Store) (key : Key) : Prop := entry s key = none

/-- How virtual users keep out of each other's way: a request is regular when the
digests that it issues do not collide with ones in use, and only the start of a
challenge needs something that another user can take. -/
def credentials [Hashlib] : Discipline receive (Key × Entry) Key where
  inv _ := True
  regular request s := ∀ key ∈ grants (receive request s).1, Unused s key
  ready request s :=
    match request with
    | some (.mfaLoginStart _) => ¬ s.Full
    | _ => True
  holds s h := entry s h.1 = some h.2
  key := Prod.fst
  touches request key := request.bind carries = some key
  grants reply key := key ∈ grants reply
  preserved _ _ := trivial
  frame := by
    intro request s h _ regular holds untouched
    cases request with
    | none => exact holds
    | some request =>
        refine (entry_eq (handle_outcome request s) ?_ (Ne.symm untouched)).trans holds
        intro granted
        exact Option.some_ne_none _ (holds.symm.trans (regular h.1 granted))
  fresh := by
    intro request s h _ regular holds granted
    exact Option.some_ne_none _ (holds.symm.trans (regular h.1 granted))

/-! ### What the endpoints do for a user -/

theorem bearerToken_bearerHeader (token : String) :
    bearerToken (bearerHeader (some token)) = some token := by
  have text : ("Bearer " ++ token).toList = "Bearer".toList ++ ' ' :: token.toList := by
    simp [String.toList_append]
  have scheme : "Bearer ".toList.isPrefixOf ("Bearer".toList ++ ' ' :: token.toList) = true := by
    simp [List.isPrefixOf]
  simp only [bearerHeader, bearerToken, Option.getD_some, text, scheme, if_true]
  rw [Url.partition_append (by decide), String.ofList_toList]

section Endpoints

variable {s : Store} {token sessionId : String} {credential : Credential}

theorem entry_access (held : entry s (.access token) = some (.uses credential)) :
    s.accessTokens.get? token = some credential := by
  obtain ⟨found, stored, same⟩ := Option.map_eq_some_iff.mp held
  cases same
  exact stored

theorem entry_session (held : entry s (.session sessionId) = some (.uses credential)) :
    s.sessions.get? sessionId = some credential := by
  obtain ⟨found, stored, same⟩ := Option.map_eq_some_iff.mp held
  cases same
  exact stored

/-- `_require_user` accepts a token with uses left. -/
theorem requireUser_accepts {authorization : Option String}
    (presents : bearerToken authorization = some token)
    (held : entry s (.access token) = some (.uses credential))
    (usable : credential.revoked = false) (funds : 0 < credential.usesLeft) :
    requireUser authorization s = (.ok credential.username,
      { s with accessTokens := s.accessTokens.set token credential.spent }) := by
  have left : ¬ credential.usesLeft ≤ 0 := by omega
  simp [requireUser, presents, spendUse, entry_access held, usable, left, Credential.spent]

/-- `_require_user` refuses a token that is revoked or used up. -/
theorem requireUser_refuses {authorization : Option String}
    (presents : bearerToken authorization = some token)
    (held : entry s (.access token) = some (.uses credential))
    (spent : credential.revoked = true ∨ credential.usesLeft ≤ 0) :
    ∃ detail, requireUser authorization s = (.error ⟨401, detail⟩, s) := by
  rcases requireUser_cases authorization s with refused | ⟨_, _, carried, stored, usable, funds, _⟩
  · exact refused
  · cases presents.symm.trans carried
    cases (entry_access held).symm.trans stored
    rcases spent with revoked | empty
    · exact absurd (usable.symm.trans revoked) Bool.false_ne_true
    · omega

variable [Hashlib]

theorem login_issues {body : LoginRequest} (valid : body.valid = true)
    (password : body.password = validPassword) (s : Store) : ∃ access text s',
      receive (some (.login body)) s =
        (.loggedIn access (hexdigest text) body.accessTokenUses body.refreshUses, s') ∧
      entry s' (.access access) = some (.uses ⟨body.username, body.accessTokenUses, false⟩) ∧
      entry s' (.refresh (hexdigest text)) =
        some (.mints ⟨body.username, body.refreshUses, false⟩) := by
  refine ⟨digestId "demo-access" body.username s.tokenCounter,
    "demo-refresh" ++ "|" ++ body.username ++ "|" ++ (s.tokenCounter + 1).repr,
    (receive (some (.login body)) s).2, ?_⟩
  simp [receive, Request.handle, validated, valid, AuthFlow.login, password, issueAccessToken,
    issueRefreshToken, entry, digestId]

theorem profile_accepts {authorization : Option String}
    (presents : bearerToken authorization = some token)
    (held : entry s (.access token) = some (.uses credential))
    (usable : credential.revoked = false) (funds : 0 < credential.usesLeft) : ∃ s',
      receive (some (.profile authorization)) s = (.profile credential.username, s') ∧
      entry s' (.access token) = some (.uses credential.spent) := by
  refine ⟨(receive (some (.profile authorization)) s).2, ?_⟩
  simp [receive, Request.handle, AuthFlow.profile, requireUser_accepts presents held usable funds,
    entry]

theorem profile_refuses {authorization : Option String}
    (presents : bearerToken authorization = some token)
    (held : entry s (.access token) = some (.uses credential))
    (spent : credential.revoked = true ∨ credential.usesLeft ≤ 0) : ∃ detail,
      receive (some (.profile authorization)) s = (.refused ⟨401, detail⟩, s) := by
  obtain ⟨detail, refused⟩ := requireUser_refuses presents held spent
  refine ⟨detail, ?_⟩
  simp only [receive, Request.handle, AuthFlow.profile, refused]

theorem checkout_accepts {authorization : Option String} {body : CheckoutRequest}
    (valid : body.valid = true) (presents : bearerToken authorization = some token)
    (held : entry s (.access token) = some (.uses credential))
    (usable : credential.revoked = false) (funds : 0 < credential.usesLeft) : ∃ order s',
      receive (some (.checkout body authorization)) s = (.order order, s') := by
  refine ⟨⟨s.orderCounter, credential.username, body.sku, body.quantity, "confirmed"⟩,
    (receive (some (.checkout body authorization)) s).2, ?_⟩
  simp [receive, Request.handle, validated, valid, AuthFlow.checkout,
    requireUser_accepts presents held usable funds]

theorem refresh_mints {body : RefreshRequest} {state : RefreshState} (valid : body.valid = true)
    (held : entry s (.refresh body.refreshToken) = some (.mints state))
    (usable : state.revoked = false) (funds : 0 < state.refreshUsesLeft) : ∃ access s',
      receive (some (.refresh body)) s =
        (.refreshed access body.accessTokenUses (state.refreshUsesLeft - 1), s') ∧
      entry s' (.access access) = some (.uses ⟨state.username, body.accessTokenUses, false⟩) := by
  obtain ⟨found, stored, same⟩ := Option.map_eq_some_iff.mp held
  cases same
  have left : ¬ state.refreshUsesLeft ≤ 0 := by omega
  refine ⟨digestId "demo-access" state.username s.tokenCounter,
    (receive (some (.refresh body)) s).2, ?_⟩
  simp [receive, Request.handle, validated, valid, AuthFlow.refresh, stored, usable, left,
    issueAccessToken, entry]

theorem logout_revokes {authorization : Option String}
    (presents : bearerToken authorization = some token)
    (held : entry s (.access token) = some (.uses credential)) : ∃ s',
      receive (some (.logout authorization)) s = (.loggedOut, s') ∧
      entry s' (.access token) = some (.uses { credential with revoked := true }) := by
  refine ⟨(receive (some (.logout authorization)) s).2, ?_⟩
  simp [receive, Request.handle, AuthFlow.logout, presents, revoke, entry_access held, entry]

theorem sessionLogin_issues {body : SessionLoginRequest} (valid : body.valid = true)
    (password : body.password = validPassword) (s : Store) : ∃ text s',
      receive (some (.sessionLogin body)) s =
        (.sessionStarted (hexdigest text) body.sessionUses, s') ∧
      entry s' (.session (hexdigest text)) =
        some (.uses ⟨body.username, body.sessionUses, false⟩) := by
  refine ⟨"demo-session" ++ "|" ++ body.username ++ "|" ++ s.tokenCounter.repr,
    (receive (some (.sessionLogin body)) s).2, ?_⟩
  simp [receive, Request.handle, validated, valid, AuthFlow.sessionLogin, password, issueSession,
    entry, digestId]

theorem sessionProfile_accepts {cookie : Option String}
    (presents : sessionCookie cookie = some sessionId)
    (held : entry s (.session sessionId) = some (.uses credential))
    (usable : credential.revoked = false) (funds : 0 < credential.usesLeft) : ∃ s',
      receive (some (.sessionProfile cookie)) s = (.sessionProfile credential.username, s') ∧
      entry s' (.session sessionId) = some (.uses credential.spent) := by
  have left : ¬ credential.usesLeft ≤ 0 := by omega
  refine ⟨(receive (some (.sessionProfile cookie)) s).2, ?_⟩
  simp [receive, Request.handle, AuthFlow.sessionProfile, requireSession, presents, spendUse,
    entry_session held, usable, left, entry, Credential.spent]

theorem sessionLogout_revokes {cookie : Option String}
    (presents : sessionCookie cookie = some sessionId)
    (held : entry s (.session sessionId) = some (.uses credential)) : ∃ s',
      receive (some (.sessionLogout cookie)) s = (.sessionLoggedOut, s') := by
  refine ⟨(receive (some (.sessionLogout cookie)) s).2, ?_⟩
  simp [receive, Request.handle, AuthFlow.sessionLogout, presents, revoke, entry_session held]

theorem start_issues {body : MfaStartRequest} (valid : body.valid = true)
    (password : body.password = validPassword) (room : ¬ s.Full) : ∃ text hint s',
      receive (some (.mfaLoginStart body)) s =
        (.challenged (hexdigest text) body.channel hint, s') ∧
      entry s' (.challenge (hexdigest text)) = some (.asks ⟨body.username, body.channel,
        AuthFlow.expectedMfaCode body.username body.channel, false⟩) := by
  have room : ¬ s.mfaChallenges.rows.length ≥ maxActiveMfaChallenges := room
  let code := AuthFlow.expectedMfaCode body.username body.channel
  refine ⟨"demo-mfa" ++ "|" ++ (body.username ++ "|" ++ body.channel) ++ "|" ++ s.tokenCounter.repr,
    String.ofList (code.toList.drop (code.length - 2)),
    (receive (some (.mfaLoginStart body)) s).2, ?_⟩
  simp [receive, Request.handle, validated, valid, AuthFlow.mfaLoginStart, password,
    issueMfaChallenge, room, entry, digestId, code]

/-- A verification with the right code, for a session. -/
theorem verify_session {body : MfaVerifyRequest} {challenge : Challenge}
    (valid : body.valid = true) (session : body.issueMode = "session")
    (held : entry s (.challenge body.challengeId) = some (.asks challenge))
    (unused : challenge.used = false) (code : challenge.expectedCode = body.code) :
    ∃ text s', receive (some (.mfaLoginVerify body)) s =
        (.verifiedSession (hexdigest text) body.sessionUses challenge.channel, s') ∧
      entry s' (.session (hexdigest text)) =
        some (.uses ⟨challenge.username, body.sessionUses, false⟩) := by
  obtain ⟨found, stored, same⟩ := Option.map_eq_some_iff.mp held
  cases same
  refine ⟨"demo-session" ++ "|" ++ challenge.username ++ "|" ++ s.tokenCounter.repr,
    (receive (some (.mfaLoginVerify body)) s).2, ?_⟩
  simp [receive, Request.handle, validated, valid, AuthFlow.mfaLoginVerify, stored, unused, code,
    session, issueSession, entry, digestId]

/-- A verification with the right code, for tokens. -/
theorem verify_bearer {body : MfaVerifyRequest} {challenge : Challenge}
    (valid : body.valid = true) (bearer : body.issueMode ≠ "session")
    (held : entry s (.challenge body.challengeId) = some (.asks challenge))
    (unused : challenge.used = false) (code : challenge.expectedCode = body.code) :
    ∃ access fresh s', receive (some (.mfaLoginVerify body)) s =
        (.verifiedBearer access fresh body.accessTokenUses body.refreshUses challenge.channel, s') ∧
      entry s' (.access access) =
        some (.uses ⟨challenge.username, body.accessTokenUses, false⟩) := by
  obtain ⟨found, stored, same⟩ := Option.map_eq_some_iff.mp held
  cases same
  refine ⟨digestId "demo-access" challenge.username s.tokenCounter,
    digestId "demo-refresh" challenge.username (s.tokenCounter + 1),
    (receive (some (.mfaLoginVerify body)) s).2, ?_⟩
  simp [receive, Request.handle, validated, valid, AuthFlow.mfaLoginVerify, stored, unused, code,
    bearer, issueAccessToken, issueRefreshToken, entry]

end Endpoints

/-! ### Rules for the requests of a user -/

section Rules

variable [Hashlib] {rest : List (Key × Entry)} {next : Reply → Script Wire Reply}
  {token sessionId : String} {credential : Credential}

theorem sound_login {body : LoginRequest} (valid : body.valid = true)
    (password : body.password = validPassword)
    (continues : ∀ access text, credentials.Sound
      ((.access access, .uses ⟨body.username, body.accessTokenUses, false⟩) ::
        (.refresh (hexdigest text), .mints ⟨body.username, body.refreshUses, false⟩) :: rest)
      (next (.loggedIn access (hexdigest text) body.accessTokenUses body.refreshUses))) :
    credentials.Sound rest (.ask (some (.login body)) next) := by
  refine Discipline.Sound.ask [] (by simp [credentials, carries])
    (by simp [credentials, carries]) (fun _ _ _ unready => absurd trivial unready) ?_
  intro s _ _ _
  obtain ⟨access, text, s', served, first, second⟩ := login_issues valid password s
  refine ⟨[_, _], _, s', served, ?_, continues access text⟩
  simp [credentials, grants, first, second]

/-- A login with a wrong password is refused. -/
theorem sound_badLogin {body : LoginRequest} (valid : body.valid = true)
    (password : body.password ≠ validPassword)
    (continues : credentials.Sound rest (next invalidCredentials)) :
    credentials.Sound rest (.ask (some (.login body)) next) := by
  refine Discipline.Sound.ask [] (by simp [credentials, carries])
    (by simp [credentials, carries]) (fun _ _ _ unready => absurd trivial unready) ?_
  intro s _ _ _
  refine ⟨[], _, s, ?_, by simp, continues⟩
  simp only [receive, Request.handle, validated, valid, if_true, AuthFlow.login, ne_eq, password,
    not_false_eq_true]

theorem sound_profile (usable : credential.revoked = false) (funds : 0 < credential.usesLeft)
    (other : ∀ h ∈ rest, h.1 ≠ .access token)
    (continues : credentials.Sound ((.access token, .uses credential.spent) :: rest)
      (next (.profile credential.username))) :
    credentials.Sound ((.access token, .uses credential) :: rest)
      (.ask (some (.profile (bearerHeader (some token)))) next) := by
  have presents := bearerToken_bearerHeader token
  refine Discipline.Sound.ask [_] (by simp [credentials, carries, presents])
    (by simpa [credentials, carries, presents, eq_comm] using other)
    (fun _ _ _ unready => absurd trivial unready) ?_
  intro s _ holds _
  have held : entry s (.access token) = some (.uses credential) :=
    holds _ (List.mem_singleton.mpr rfl)
  obtain ⟨s', served, left⟩ := profile_accepts presents held usable funds
  refine ⟨[_], _, s', served, ?_, continues⟩
  simp [credentials, left]

/-- A profile for a token that is revoked or used up is refused. -/
theorem sound_refusedProfile (spent : credential.revoked = true ∨ credential.usesLeft ≤ 0)
    (other : ∀ h ∈ rest, h.1 ≠ .access token)
    (continues : ∀ detail, credentials.Sound ((.access token, .uses credential) :: rest)
      (next (.refused ⟨401, detail⟩))) :
    credentials.Sound ((.access token, .uses credential) :: rest)
      (.ask (some (.profile (bearerHeader (some token)))) next) := by
  have presents := bearerToken_bearerHeader token
  refine Discipline.Sound.ask [_] (by simp [credentials, carries, presents])
    (by simpa [credentials, carries, presents, eq_comm] using other)
    (fun _ _ _ unready => absurd trivial unready) ?_
  intro s _ holds _
  have held : entry s (.access token) = some (.uses credential) :=
    holds _ (List.mem_singleton.mpr rfl)
  obtain ⟨detail, served⟩ := profile_refuses presents held spent
  refine ⟨[_], _, s, served, ?_, continues detail⟩
  simp [credentials, held]

/-- The last request of the checkout flow. -/
theorem sound_checkout {body : CheckoutRequest} (valid : body.valid = true)
    (usable : credential.revoked = false) (funds : 0 < credential.usesLeft)
    (other : ∀ h ∈ rest, h.1 ≠ .access token)
    (continues : ∀ order, credentials.Sound rest (next (.order order))) :
    credentials.Sound ((.access token, .uses credential) :: rest)
      (.ask (some (.checkout body (bearerHeader (some token)))) next) := by
  have presents := bearerToken_bearerHeader token
  refine Discipline.Sound.ask [_] (by simp [credentials, carries, presents])
    (by simpa [credentials, carries, presents, eq_comm] using other)
    (fun _ _ _ unready => absurd trivial unready) ?_
  intro s _ holds _
  have held : entry s (.access token) = some (.uses credential) :=
    holds _ (List.mem_singleton.mpr rfl)
  obtain ⟨order, s', served⟩ := checkout_accepts valid presents held usable funds
  exact ⟨[], _, s', served, by simp, continues order⟩

theorem sound_refresh (body : RefreshRequest) (state : RefreshState) (valid : body.valid = true)
    (usable : state.revoked = false) (funds : 0 < state.refreshUsesLeft)
    (other : ∀ h ∈ rest, h.1 ≠ .refresh body.refreshToken)
    (continues : ∀ access, credentials.Sound
      ((.access access, .uses ⟨state.username, body.accessTokenUses, false⟩) :: rest)
      (next (.refreshed access body.accessTokenUses (state.refreshUsesLeft - 1)))) :
    credentials.Sound ((.refresh body.refreshToken, .mints state) :: rest)
      (.ask (some (.refresh body)) next) := by
  refine Discipline.Sound.ask [_] (by simp [credentials, carries])
    (by simpa [credentials, carries, eq_comm] using other)
    (fun _ _ _ unready => absurd trivial unready) ?_
  intro s _ holds _
  have held := holds _ (List.mem_singleton.mpr rfl)
  obtain ⟨access, s', served, minted⟩ := refresh_mints valid held usable funds
  refine ⟨[_], _, s', served, ?_, continues access⟩
  simp [credentials, grants, minted]

theorem sound_logout (other : ∀ h ∈ rest, h.1 ≠ .access token)
    (continues : credentials.Sound
      ((.access token, .uses { credential with revoked := true }) :: rest) (next .loggedOut)) :
    credentials.Sound ((.access token, .uses credential) :: rest)
      (.ask (some (.logout (bearerHeader (some token)))) next) := by
  have presents := bearerToken_bearerHeader token
  refine Discipline.Sound.ask [_] (by simp [credentials, carries, presents])
    (by simpa [credentials, carries, presents, eq_comm] using other)
    (fun _ _ _ unready => absurd trivial unready) ?_
  intro s _ holds _
  have held : entry s (.access token) = some (.uses credential) :=
    holds _ (List.mem_singleton.mpr rfl)
  obtain ⟨s', served, revoked⟩ := logout_revokes presents held
  refine ⟨[_], _, s', served, ?_, continues⟩
  simp [credentials, revoked]

theorem sound_sessionLogin {body : SessionLoginRequest} (valid : body.valid = true)
    (password : body.password = validPassword)
    (continues : ∀ text, credentials.Sound
      ((.session (hexdigest text), .uses ⟨body.username, body.sessionUses, false⟩) :: rest)
      (next (.sessionStarted (hexdigest text) body.sessionUses))) :
    credentials.Sound rest (.ask (some (.sessionLogin body)) next) := by
  refine Discipline.Sound.ask [] (by simp [credentials, carries])
    (by simp [credentials, carries]) (fun _ _ _ unready => absurd trivial unready) ?_
  intro s _ _ _
  obtain ⟨text, s', served, issued⟩ := sessionLogin_issues valid password s
  refine ⟨[_], _, s', served, ?_, continues text⟩
  simp [credentials, grants, issued]

theorem sound_sessionProfile (presents : sessionCookie (some sessionId) = some sessionId)
    (usable : credential.revoked = false) (funds : 0 < credential.usesLeft)
    (other : ∀ h ∈ rest, h.1 ≠ .session sessionId)
    (continues : credentials.Sound ((.session sessionId, .uses credential.spent) :: rest)
      (next (.sessionProfile credential.username))) :
    credentials.Sound ((.session sessionId, .uses credential) :: rest)
      (.ask (some (.sessionProfile (some sessionId))) next) := by
  refine Discipline.Sound.ask [_] (by simp [credentials, carries, presents])
    (by simpa [credentials, carries, presents, eq_comm] using other)
    (fun _ _ _ unready => absurd trivial unready) ?_
  intro s _ holds _
  have held : entry s (.session sessionId) = some (.uses credential) :=
    holds _ (List.mem_singleton.mpr rfl)
  obtain ⟨s', served, left⟩ := sessionProfile_accepts presents held usable funds
  refine ⟨[_], _, s', served, ?_, continues⟩
  simp [credentials, left]

theorem sound_sessionLogout (presents : sessionCookie (some sessionId) = some sessionId)
    (other : ∀ h ∈ rest, h.1 ≠ .session sessionId)
    (continues : credentials.Sound rest (next .sessionLoggedOut)) :
    credentials.Sound ((.session sessionId, .uses credential) :: rest)
      (.ask (some (.sessionLogout (some sessionId))) next) := by
  refine Discipline.Sound.ask [_] (by simp [credentials, carries, presents])
    (by simpa [credentials, carries, presents, eq_comm] using other)
    (fun _ _ _ unready => absurd trivial unready) ?_
  intro s _ holds _
  have held : entry s (.session sessionId) = some (.uses credential) :=
    holds _ (List.mem_singleton.mpr rfl)
  obtain ⟨s', served⟩ := sessionLogout_revokes presents held
  exact ⟨[], _, s', served, by simp, continues⟩

/-- Without a cookie there is no profile. -/
theorem sound_noSession
    (continues : credentials.Sound rest (next (.refused ⟨401, "Missing session cookie."⟩))) :
    credentials.Sound rest (.ask (some (.sessionProfile none)) next) := by
  refine Discipline.Sound.ask [] (by simp [credentials, carries, sessionCookie])
    (by simp [credentials, carries, sessionCookie]) (fun _ _ _ unready => absurd trivial unready) ?_
  intro s _ _ _
  exact ⟨[], _, s, rfl, by simp, continues⟩

/-- A start fails its check when the store is full. -/
theorem sound_start {body : MfaStartRequest} (valid : body.valid = true)
    (password : body.password = validPassword)
    (fails : ∀ reply : Reply, reply.statusCode ≠ 200 → ∃ c ∈ (next reply).settle.1, c.2 = false)
    (continues : ∀ text hint, credentials.Sound
      ((.challenge (hexdigest text), .asks ⟨body.username, body.channel,
        AuthFlow.expectedMfaCode body.username body.channel, false⟩) :: rest)
      (next (.challenged (hexdigest text) body.channel hint))) :
    credentials.Sound rest (.ask (some (.mfaLoginStart body)) next) := by
  refine Discipline.Sound.ask [] (by simp [credentials, carries])
    (by simp [credentials, carries]) ?_ ?_
  · intro s _ _ full
    refine fails _ ?_
    rw [Ne, receive, start_succeeds_iff valid password]
    exact full
  · intro s _ _ room
    obtain ⟨text, hint, s', served, started⟩ := start_issues valid password room
    refine ⟨[_], _, s', served, ?_, continues text hint⟩
    simp [credentials, grants, started]

theorem sound_verifySession {body : MfaVerifyRequest} {challenge : Challenge}
    (valid : body.valid = true) (session : body.issueMode = "session")
    (unused : challenge.used = false) (code : challenge.expectedCode = body.code)
    (other : ∀ h ∈ rest, h.1 ≠ .challenge body.challengeId)
    (continues : ∀ text, credentials.Sound
      ((.session (hexdigest text), .uses ⟨challenge.username, body.sessionUses, false⟩) :: rest)
      (next (.verifiedSession (hexdigest text) body.sessionUses challenge.channel))) :
    credentials.Sound ((.challenge body.challengeId, .asks challenge) :: rest)
      (.ask (some (.mfaLoginVerify body)) next) := by
  refine Discipline.Sound.ask [_] (by simp [credentials, carries])
    (by simpa [credentials, carries, eq_comm] using other)
    (fun _ _ _ unready => absurd trivial unready) ?_
  intro s _ holds _
  have held := holds _ (List.mem_singleton.mpr rfl)
  obtain ⟨text, s', served, issued⟩ := verify_session valid session held unused code
  refine ⟨[_], _, s', served, ?_, continues text⟩
  simp [credentials, grants, issued]

theorem sound_verifyBearer {body : MfaVerifyRequest} {challenge : Challenge}
    (valid : body.valid = true) (bearer : body.issueMode ≠ "session")
    (unused : challenge.used = false) (code : challenge.expectedCode = body.code)
    (other : ∀ h ∈ rest, h.1 ≠ .challenge body.challengeId)
    (continues : ∀ access fresh, credentials.Sound
      ((.access access, .uses ⟨challenge.username, body.accessTokenUses, false⟩) :: rest)
      (next (.verifiedBearer access fresh body.accessTokenUses body.refreshUses
        challenge.channel))) :
    credentials.Sound ((.challenge body.challengeId, .asks challenge) :: rest)
      (.ask (some (.mfaLoginVerify body)) next) := by
  refine Discipline.Sound.ask [_] (by simp [credentials, carries])
    (by simpa [credentials, carries, eq_comm] using other)
    (fun _ _ _ unready => absurd trivial unready) ?_
  intro s _ holds _
  have held := holds _ (List.mem_singleton.mpr rfl)
  obtain ⟨access, fresh, s', served, issued⟩ := verify_bearer valid bearer held unused code
  refine ⟨[_], _, s', served, ?_, continues access fresh⟩
  simp [credentials, grants, issued]

end Rules

/-! ### The flows -/

/-- The demo account of a run can log in. -/
structure DemoLogin (env : Dict String) : Prop where
  username : lengthBetween 1 64 (envText env "DEMO_USERNAME" "alice") = true
  password : envText env "DEMO_PASSWORD" "demo-password" = validPassword

/-- The cart of a run validates. -/
def DemoCart (env : Dict String) : Prop :=
  ∃ quantity, integer? (envNumber env "DEMO_QUANTITY" "1") = some quantity ∧
    CheckoutRequest.valid ⟨envText env "DEMO_SKU" "sku-1", quantity⟩ = true

/-- The budgets of a run of the refresh flow: access tokens are good for one use, so that the
second profile is refused. -/
def DemoBudgets (env : Dict String) : Prop :=
  envNumber env "ACCESS_TOKEN_USES" "1" = .finite 1 ∧
    ∃ uses : Int, envNumber env "REFRESH_USES" "2" = .finite uses ∧
      between 1 maxRefreshUses uses = true

/-- The session or the MFA login of a run of the session and MFA flow. -/
def DemoSession (env : Dict String) : Prop :=
  if envText env "FLOW_MODE" "session" = "session" then
    ∃ uses, integer? (envNumber env "SESSION_USES" "2") = some uses ∧
      between 1 maxSessionUses uses = true
  else
    let username := envText env "DEMO_USERNAME" "alice"
    let channel := envText env "MFA_CHANNEL" "sms"
    channel ∈ ["sms", "email", "authenticator"] ∧
      envText env "MFA_ISSUE_MODE" "bearer" ∈ ["bearer", "session"] ∧
      scriptMfaCode username channel = AuthFlow.expectedMfaCode username channel

/-- The scripts in an environment that they are made for. -/
inductive AuthUser : Script Wire Reply → Prop where
  | checkout {env : Dict String} (login : DemoLogin env) (cart : DemoCart env) :
      AuthUser (authCheckout env)
  | refresh {env : Dict String} (login : DemoLogin env) (budgets : DemoBudgets env) :
      AuthUser (authRefreshFlow env)
  | sessionMfa {env : Dict String} (login : DemoLogin env) (session : DemoSession env) :
      AuthUser (authSessionMfaFlow env)

section Flows

variable {env : Dict String}

theorem DemoLogin.valid (login : DemoLogin env) {accessUses refreshUses : Int}
    (access : between 1 maxAccessUses accessUses = true)
    (fresh : between 1 maxRefreshUses refreshUses = true) :
    LoginRequest.valid ⟨envText env "DEMO_USERNAME" "alice",
      envText env "DEMO_PASSWORD" "demo-password", accessUses, refreshUses⟩ = true := by
  simp only [LoginRequest.valid, login.username, login.password, access, fresh, Bool.and_true]
  decide

variable [Hashlib]

theorem validKey (hex : HexDigests) (text : String) :
    lengthBetween 1 128 (hexdigest text) = true := by
  have digits : (hexdigest text).length = 64 := hex (encode text)
  simp [lengthBetween, digits]

theorem sessionCookie_hexdigest (hex : HexDigests) (text : String) :
    sessionCookie (some (hexdigest text)) = some (hexdigest text) := by
  have full : (hexdigest text).isEmpty = false := by
    rw [Bool.eq_false_iff, Ne, String.isEmpty_iff]
    intro empty
    have digits : (hexdigest text).length = 64 := hex (encode text)
    simp [empty] at digits
  simp only [sessionCookie, full, Bool.false_eq_true, if_false]

theorem sound_authCheckout (login : DemoLogin env) (cart : DemoCart env) :
    credentials.Sound [] (authCheckout env) := by
  obtain ⟨quantity, integral, valid⟩ := cart
  simp only [authCheckout, plainLogin, integral, Option.map_some]
  refine sound_login (login.valid (by decide) (by decide)) login.password fun access text => ?_
  refine ⟨rfl, sound_profile rfl (by simp) (by simp) ⟨rfl, ?_⟩⟩
  exact sound_checkout valid rfl (by simp [Credential.spent]) (by simp) fun order => ⟨rfl, trivial⟩

theorem sound_refreshFlow (hex : HexDigests) (login : DemoLogin env) (budgets : DemoBudgets env) :
    credentials.Sound [] (refreshFlow (envText env "DEMO_USERNAME" "alice")
      (envText env "DEMO_PASSWORD" "demo-password") (envNumber env "ACCESS_TOKEN_USES" "1")
      (envNumber env "REFRESH_USES" "2")) := by
  obtain ⟨accessUses, uses, refreshUses, bounds⟩ := budgets
  have one : (1 : Rat) = ((1 : Int) : Rat) := rfl
  rw [refreshUses, accessUses, refreshFlow, plusOne_one, one, integer?_intCast, integer?_intCast,
    integer?_intCast]
  have funds : 0 < uses := by
    simp only [between, Bool.and_eq_true, decide_eq_true_eq] at bounds
    omega
  -- a login for a single use
  refine sound_login (login.valid (by decide) bounds) login.password fun access text => ⟨rfl, ?_⟩
  refine sound_profile rfl (by simp) (by simp) ⟨rfl, ?_⟩
  refine sound_refusedProfile (.inr (by simp [Credential.spent])) (by simp) fun _ => ⟨rfl, ?_⟩
  -- a new access token, good for two uses, in exchange for the refresh token
  refine Discipline.Sound.weaken [(.refresh (hexdigest text),
    .mints ⟨envText env "DEMO_USERNAME" "alice", uses, false⟩)] (by simp) ?_
  simp only [refreshToken?, Option.bind_eq_bind, Option.bind_some, Option.pure_def]
  refine sound_refresh ⟨hexdigest text, 2⟩ ⟨_, uses, false⟩ ?_ rfl funds (by simp)
    fun access => ⟨rfl, ?_⟩
  · simp [RefreshRequest.valid, validKey hex, between, maxAccessUses]
  refine sound_profile rfl (by simp) (by simp) ⟨rfl, ?_⟩
  exact sound_logout (by simp) ⟨rfl, sound_refusedProfile (.inl rfl) (by simp) fun _ =>
    ⟨rfl, trivial⟩⟩

theorem sound_authRefreshFlow (hex : HexDigests) (login : DemoLogin env)
    (budgets : DemoBudgets env) : credentials.Sound [] (authRefreshFlow env) := by
  have flow := sound_refreshFlow hex login budgets
  simp only [authRefreshFlow]
  split
  · refine sound_badLogin ?_ (by simp [plainLogin, validPassword]) ⟨rfl, flow⟩
    simp only [plainLogin, LoginRequest.valid, login.username]
    decide
  · exact flow

theorem sound_sessionFlow (hex : HexDigests) (login : DemoLogin env) {uses : Int}
    {sessionUses : Double} (integral : integer? sessionUses = some uses)
    (bounds : between 1 maxSessionUses uses = true) :
    credentials.Sound [] (sessionFlow (envText env "DEMO_USERNAME" "alice")
      (envText env "DEMO_PASSWORD" "demo-password") sessionUses) := by
  have valid : SessionLoginRequest.valid ⟨envText env "DEMO_USERNAME" "alice",
      envText env "DEMO_PASSWORD" "demo-password", uses⟩ = true := by
    simp only [SessionLoginRequest.valid, login.username, login.password, bounds, Bool.and_true]
    decide
  have funds : 0 < uses := by
    simp only [between, Bool.and_eq_true, decide_eq_true_eq] at bounds
    omega
  rw [sessionFlow, integral]
  refine sound_sessionLogin valid login.password fun text => ⟨rfl, rfl, ?_⟩
  have presents := sessionCookie_hexdigest hex text
  refine sound_sessionProfile presents rfl funds (by simp) ⟨rfl, ?_⟩
  exact sound_sessionLogout presents (by simp) ⟨rfl, sound_noSession ⟨rfl, trivial⟩⟩

theorem sound_mfaFlow (hex : HexDigests) (login : DemoLogin env) {channel issueMode : String}
    (channels : channel ∈ ["sms", "email", "authenticator"])
    (modes : issueMode ∈ ["bearer", "session"])
    (agree : scriptMfaCode (envText env "DEMO_USERNAME" "alice") channel =
      AuthFlow.expectedMfaCode (envText env "DEMO_USERNAME" "alice") channel) :
    credentials.Sound [] (mfaFlow (envText env "DEMO_USERNAME" "alice")
      (envText env "DEMO_PASSWORD" "demo-password") channel issueMode) := by
  have start : MfaStartRequest.valid ⟨envText env "DEMO_USERNAME" "alice",
      envText env "DEMO_PASSWORD" "demo-password", channel⟩ = true := by
    simp only [MfaStartRequest.valid, login.username, login.password, Bool.and_eq_true]
    exact ⟨by decide, by simpa using channels⟩
  refine sound_start start login.password ?_ fun text hint => ⟨rfl, ?_⟩
  · intro reply refused
    exact ⟨("mfa start ok", _), List.mem_cons_self, decide_eq_false refused⟩
  have verify : MfaVerifyRequest.valid ⟨hexdigest text,
      scriptMfaCode (envText env "DEMO_USERNAME" "alice") channel, issueMode, 2, 1, 2⟩ = true := by
    have code : lengthBetween 6 6
        (scriptMfaCode (envText env "DEMO_USERNAME" "alice") channel) = true := by
      rw [scriptMfaCode_eq, lengthBetween, length_sixDigits (Nat.mod_lt _ (by decide))]
      decide
    simp only [MfaVerifyRequest.valid, validKey hex, code, Bool.true_and, Bool.and_eq_true]
    exact ⟨⟨⟨by simpa using modes, by decide⟩, by decide⟩, by decide⟩
  rcases eq_or_ne issueMode "session" with rfl | bearer
  · refine sound_verifySession verify rfl rfl agree.symm (by simp) fun text => ⟨rfl, ?_⟩
    rw [if_pos rfl]
    exact sound_sessionProfile (sessionCookie_hexdigest hex text) rfl (by simp) (by simp)
      ⟨rfl, trivial⟩
  · refine sound_verifyBearer verify bearer rfl agree.symm (by simp) fun access fresh => ⟨rfl, ?_⟩
    rw [if_neg bearer]
    exact sound_profile rfl (by simp) (by simp) ⟨rfl, trivial⟩

theorem sound_authSessionMfaFlow (hex : HexDigests) (login : DemoLogin env)
    (session : DemoSession env) : credentials.Sound [] (authSessionMfaFlow env) := by
  simp only [authSessionMfaFlow]
  unfold DemoSession at session
  split at session
  · rename_i mode
    obtain ⟨uses, integral, bounds⟩ := session
    rw [if_pos mode]
    exact sound_sessionFlow hex login integral bounds
  · rename_i mode
    obtain ⟨channels, modes, agree⟩ := session
    rw [if_neg mode]
    exact sound_mfaFlow hex login channels modes agree

theorem AuthUser.sound (hex : HexDigests) (script : Script Wire Reply) (user : AuthUser script) :
    credentials.Sound [] script := by
  cases user with
  | checkout login cart => exact sound_authCheckout login cart
  | refresh login budgets => exact sound_authRefreshFlow hex login budgets
  | sessionMfa login session => exact sound_authSessionMfaFlow hex login session

end Flows

/-! ### Loads -/

section Loads

variable [Hashlib]

/-- When a user starts a challenge, the store has room for it. -/
def HasRoom (t : State Store Wire Reply) : Event Wire Reply → Prop
  | .serve client => ∀ body next,
      t.clients[client]? = some (.ask (some (.mfaLoginStart body)) next) → ¬ t.server.Full
  | _ => True

theorem ready_iff (t : State Store Wire Reply) (e : Event Wire Reply) :
    credentials.Ready t e ↔ HasRoom t e := by
  cases e with
  | serve client =>
      constructor
      · intro ready body next here
        exact ready _ next here
      · intro room request next here
        rcases request with _ | request
        · trivial
        · cases request with
          | mfaLoginStart body => exact room body next here
          | _ => trivial
  | arrive _ => exact Iff.rfl
  | other _ => exact Iff.rfl

/-- Any number of users of the three scripts, in any interleaving with requests that
carry none of their credentials: as long as digests do not collide, all checks pass
exactly if the store had room whenever a user started a challenge. -/
theorem authLoad_passed_iff (hex : HexDigests) {server : Store} {es : List (Event Wire Reply)}
    {s : State Store Wire Reply}
    (run : Run (Clients.step receive) (credentials.Admits AuthUser) (Clients.start server) es s) :
    s.Passed ↔ Run (Clients.step receive) (fun t e => credentials.Admits AuthUser t e ∧ HasRoom t e)
      (Clients.start server) es s := by
  rw [credentials.passed_iff (AuthUser.sound hex) trivial run]
  simp only [ready_iff]

end Loads

/-- A client may be served when the digests that are issued to it are new. -/
theorem admits_serve [Hashlib] {s : State Store Wire Reply} {client : Nat} {request : Wire}
    {next : Reply → Script Wire Reply} (here : s.clients[client]? = some (.ask request next))
    (unused : ∀ key ∈ grants (receive request s.server).1, (entry s.server key).isNone = true) :
    credentials.Admits AuthUser s (.serve client) := by
  intro request' next' here'
  cases here.symm.trans here'
  exact fun key granted => Option.isNone_iff_eq_none.mp (unused key granted)

/-- The SHA-256 digests of the first credentials of `alice`. -/
@[reducible] def aliceDigests : Hashlib := knownDigests
  [(encode "demo-access|alice|1",
      "743ab9f5f1547912f6b031b951e249abf923e365833de1947c5fce308a4b2002"),
    (encode "demo-refresh|alice|2",
      "184c9debaa94679297a990eaf20e1193bffc46364f0e19d71e61d1f7297dd13f"),
    (encode "demo-mfa|alice|sms|3",
      "a89863b6c30a46fa7b7b9009c08277e841175bf655d63ded47725cfd1b2d2d8c"),
    (encode "demo-access|alice|4",
      "7698d9c560a796bbbd11355b06ef071d8d91680f4d19c5efb5588cf00c6db079"),
    (encode "demo-refresh|alice|5",
      "eb5db74bfc901a3979097f5880c787d318da1ab3b25f9dd17be0a2b3246cb5ca")]

theorem aliceDigests_hex : @HexDigests aliceDigests := by
  apply knownDigests_hex
  simp only [List.forall_mem_cons]
  exact ⟨rfl, rfl, rfl, rfl, rfl, fun d mem => absurd mem List.not_mem_nil⟩

/-- The environment of a run of the MFA login. -/
def mfaEnv : Dict String := Dict.ofItems [("FLOW_MODE", "mfa")]

/-- A checkout and an MFA login, one request after the other, with a health request
between them. -/
def twoLogins : List (Event Wire Reply) :=
  [.arrive (authCheckout Table.empty), .arrive (authSessionMfaFlow mfaEnv), .serve 0, .serve 1,
    .other (some .health), .serve 0, .serve 1, .serve 0, .serve 1]

/-- Both pass, and the store had room for the challenge. -/
theorem authLoad_passed_twoLogins : let _ : Hashlib := aliceDigests
    ∃ s : State Store Wire Reply,
      s.checks = [("login ok", true), ("mfa start ok", true), ("profile ok", true),
        ("mfa verify ok", true), ("checkout ok", true), ("mfa bearer profile ok", true)] ∧
      Run (Clients.step receive) (fun t e => credentials.Admits AuthUser t e ∧ HasRoom t e)
        (Clients.start initial) twoLogins s := by
  intro _
  refine ⟨_, ?checks, (authLoad_passed_iff aliceDigests_hex (.next ?_ rfl (.next ?_ rfl
    (.next ?_ rfl (.next ?_ rfl (.next ?_ rfl (.next ?_ rfl (.next ?_ rfl (.next ?_ rfl
      (.next ?_ rfl (.done _))))))))))).mp ?_⟩
  case checks => decide +kernel
  · refine .checkout ⟨by decide, by decide⟩ ⟨1, ?_, by decide⟩
    have one : envNumber Table.empty "DEMO_QUANTITY" "1" = .finite ((1 : Int) : Rat) :=
      envNumber_default "DEMO_QUANTITY" (n := 1) (by decide)
    rw [one, integer?_intCast]
  · refine .sessionMfa ⟨by decide, by decide⟩ ?_
    rw [DemoSession, if_neg (by decide)]
    exact ⟨by decide, by decide, by decide⟩
  · exact admits_serve rfl (by decide +kernel)
  · exact admits_serve rfl (by decide +kernel)
  · exact ⟨nofun, fun _ _ _ _ => nofun⟩
  · exact admits_serve rfl (by decide +kernel)
  · exact admits_serve rfl (by decide +kernel)
  · exact admits_serve rfl (by decide +kernel)
  · exact admits_serve rfl (by decide +kernel)
  · unfold State.Passed
    decide +kernel

end PLoadtesting.Load
