import PLoadtesting.Lib.Table
import PLoadtesting.Lib.Url
import PLoadtesting.TargetApps.Common

/-!
`auth_flow_api.py`: demo logins with access and refresh tokens, cookie sessions
and MFA challenges.

No endpoint awaits anything, so a request is one step of the store. Every
function returns the store it leaves, also when it raises.
-/

namespace PLoadtesting.TargetApps.AuthFlow

open Keyed Python

/-! ### Constants and stored records -/

def validPassword : String := "demo-password"
def maxAccessUses : Int := 5
def maxRefreshUses : Int := 3
def maxSessionUses : Int := 5
def maxActiveMfaChallenges : Nat := 20

/-- An entry of `ACCESS_TOKENS` or `SESSIONS`. -/
structure Credential where
  username : String
  usesLeft : Int
  revoked : Bool
  deriving DecidableEq

/-- An entry of `REFRESH_TOKENS`. -/
structure RefreshState where
  username : String
  refreshUsesLeft : Int
  revoked : Bool
  deriving DecidableEq

/-- An entry of `MFA_CHALLENGES`. -/
structure Challenge where
  username : String
  channel : String
  expectedCode : String
  used : Bool
  deriving DecidableEq

/-- An entry of `ORDERS`. -/
structure Order where
  orderId : Int
  username : String
  sku : String
  quantity : Int
  status : String
  deriving DecidableEq

/-- The module's dictionaries, and the next values of its two counters. -/
structure Store where
  accessTokens : Dict Credential
  refreshTokens : Dict RefreshState
  sessions : Dict Credential
  mfaChallenges : Dict Challenge
  orders : Table Order.orderId
  orderCounter : Nat
  tokenCounter : Nat

/-- The store when the module is loaded. -/
def initial : Store := ⟨Table.empty, Table.empty, Table.empty, Table.empty, Table.empty, 1, 1⟩

/-! ### Request bodies -/

structure LoginRequest where
  username : String
  password : String
  accessTokenUses : Int
  refreshUses : Int

def LoginRequest.valid (body : LoginRequest) : Bool :=
  lengthBetween 1 64 body.username && lengthBetween 1 64 body.password &&
    between 1 maxAccessUses body.accessTokenUses && between 1 maxRefreshUses body.refreshUses

structure RefreshRequest where
  refreshToken : String
  accessTokenUses : Int

def RefreshRequest.valid (body : RefreshRequest) : Bool :=
  lengthBetween 1 128 body.refreshToken && between 1 maxAccessUses body.accessTokenUses

structure SessionLoginRequest where
  username : String
  password : String
  sessionUses : Int

def SessionLoginRequest.valid (body : SessionLoginRequest) : Bool :=
  lengthBetween 1 64 body.username && lengthBetween 1 64 body.password &&
    between 1 maxSessionUses body.sessionUses

structure MfaStartRequest where
  username : String
  password : String
  channel : String

def MfaStartRequest.valid (body : MfaStartRequest) : Bool :=
  lengthBetween 1 64 body.username && lengthBetween 1 64 body.password &&
    ["sms", "email", "authenticator"].contains body.channel

structure MfaVerifyRequest where
  challengeId : String
  code : String
  issueMode : String
  accessTokenUses : Int
  refreshUses : Int
  sessionUses : Int

def MfaVerifyRequest.valid (body : MfaVerifyRequest) : Bool :=
  lengthBetween 1 128 body.challengeId && lengthBetween 6 6 body.code &&
    ["bearer", "session"].contains body.issueMode && between 1 maxAccessUses body.accessTokenUses &&
    between 1 maxRefreshUses body.refreshUses && between 1 maxSessionUses body.sessionUses

structure CheckoutRequest where
  sku : String
  quantity : Int

def CheckoutRequest.valid (body : CheckoutRequest) : Bool :=
  lengthBetween 1 64 body.sku && between 1 10 body.quantity

/-! ### Replies -/

/-- What an endpoint answers: a refusal, or the values of its body. A session id
travels in the cookie that the reply sets. -/
inductive Reply where
  | refused (error : HTTPException)
  | healthy
  | loggedIn (accessToken refreshToken : String) (accessUsesLeft refreshUsesLeft : Int)
  | sessionStarted (sessionId : String) (sessionUsesLeft : Int)
  | refreshed (accessToken : String) (accessUsesLeft refreshUsesLeft : Int)
  | challenged (challengeId channel codeHintSuffix : String)
  | verifiedSession (sessionId : String) (sessionUsesLeft : Int) (channel : String)
  | verifiedBearer (accessToken refreshToken : String) (accessUsesLeft refreshUsesLeft : Int)
      (channel : String)
  | profile (username : String)
  | sessionProfile (username : String)
  | order (order : Order)
  | loggedOut
  | sessionLoggedOut
  deriving DecidableEq

/-- The status code; every endpoint that does not raise answers 200. -/
def Reply.statusCode : Reply → Nat
  | .refused error => error.statusCode
  | _ => 200

/-- FastAPI's answer to a request whose parameters do not validate. -/
def unprocessable : Reply := .refused ⟨422, "Unprocessable Entity"⟩

/-! ### Issuing credentials -/

section Issuing

variable [Hashlib]

/-- `f"{kind}|{subject}|{n}"`, hashed. -/
def digestId (kind subject : String) (n : Nat) : String :=
  hexdigest (kind ++ "|" ++ subject ++ "|" ++ n.repr)

def issueAccessToken (username : String) (usesLeft : Int) (s : Store) : String × Store :=
  let token := digestId "demo-access" username s.tokenCounter
  (token, { s with
    tokenCounter := s.tokenCounter + 1
    accessTokens := s.accessTokens.set token ⟨username, usesLeft, false⟩ })

def issueRefreshToken (username : String) (refreshUsesLeft : Int) (s : Store) : String × Store :=
  let token := digestId "demo-refresh" username s.tokenCounter
  (token, { s with
    tokenCounter := s.tokenCounter + 1
    refreshTokens := s.refreshTokens.set token ⟨username, refreshUsesLeft, false⟩ })

def issueSession (username : String) (usesLeft : Int) (s : Store) : String × Store :=
  let sessionId := digestId "demo-session" username s.tokenCounter
  (sessionId, { s with
    tokenCounter := s.tokenCounter + 1
    sessions := s.sessions.set sessionId ⟨username, usesLeft, false⟩ })

end Issuing

/-- `f"{n:06d}"`. -/
def sixDigits (n : Nat) : String := String.ofList (List.leftpad 6 '0' n.repr.toList)

def expectedMfaCode (username channel : String) : String :=
  let total := (encode (username ++ "|" ++ channel)).foldl (fun sum b => sum + b.toNat) 0
  sixDigits (total * 137 % 1000000)

def issueMfaChallenge [Hashlib] (username channel : String) (s : Store) :
    Except HTTPException String × Store :=
  if s.mfaChallenges.rows.length ≥ maxActiveMfaChallenges then
    (.error ⟨422, "Too many active MFA challenges; cap is " ++ maxActiveMfaChallenges.repr ++ "."⟩,
      s)
  else
    let challengeId := digestId "demo-mfa" (username ++ "|" ++ channel) s.tokenCounter
    (.ok challengeId, { s with
      tokenCounter := s.tokenCounter + 1
      mfaChallenges := s.mfaChallenges.set challengeId
        ⟨username, channel, expectedMfaCode username channel, false⟩ })

/-! ### Using credentials -/

/-- The token of a header that starts with `Bearer `:
`authorization.split(" ", 1)[1]`. -/
def bearerToken : Option String → Option String
  | none => none
  | some authorization =>
      if "Bearer ".toList.isPrefixOf authorization.toList then
        some (String.ofList (Url.partition ' ' authorization.toList).2.2)
      else none

/-- The cookie when it is not empty. -/
def sessionCookie : Option String → Option String
  | none => none
  | some sessionId => if sessionId.isEmpty then none else some sessionId

/-- The look-up, the checks and the update of `_require_user` and
`_require_session`; `what` is how the refusals call the credential. -/
def spendUse (what : String) (store : Dict Credential) (key : String) :
    Except HTTPException String × Dict Credential :=
  match store.get? key with
  | none => (.error ⟨401, "Invalid " ++ what ++ "."⟩, store)
  | some state =>
      if state.revoked then (.error ⟨401, "Revoked " ++ what ++ "."⟩, store)
      else if state.usesLeft ≤ 0 then (.error ⟨401, "Expired " ++ what ++ "."⟩, store)
      else (.ok state.username, store.set key { state with usesLeft := state.usesLeft - 1 })

def requireUser (authorization : Option String) (s : Store) :
    Except HTTPException String × Store :=
  match bearerToken authorization with
  | none => (.error ⟨401, "Missing bearer token."⟩, s)
  | some token =>
      let (username, accessTokens) := spendUse "bearer token" s.accessTokens token
      (username, { s with accessTokens })

def requireSession (cookie : Option String) (s : Store) : Except HTTPException String × Store :=
  match sessionCookie cookie with
  | none => (.error ⟨401, "Missing session cookie."⟩, s)
  | some sessionId =>
      let (username, sessions) := spendUse "session cookie" s.sessions sessionId
      (username, { s with sessions })

/-- The look-up and the update of `logout` and `session_logout`. -/
def revoke (what : String) (store : Dict Credential) (key : String) :
    Except HTTPException Unit × Dict Credential :=
  match store.get? key with
  | none => (.error ⟨401, "Invalid " ++ what ++ "."⟩, store)
  | some state => (.ok (), store.set key { state with revoked := true })

/-! ### Endpoints -/

def invalidCredentials : Reply := .refused ⟨401, "Invalid demo credentials."⟩

section Endpoints

variable [Hashlib]

def login (body : LoginRequest) (s : Store) : Reply × Store :=
  if body.password ≠ validPassword then (invalidCredentials, s)
  else
    let (accessToken, s) := issueAccessToken body.username body.accessTokenUses s
    let (refreshToken, s) := issueRefreshToken body.username body.refreshUses s
    (.loggedIn accessToken refreshToken body.accessTokenUses body.refreshUses, s)

def sessionLogin (body : SessionLoginRequest) (s : Store) : Reply × Store :=
  if body.password ≠ validPassword then (invalidCredentials, s)
  else
    let (sessionId, s) := issueSession body.username body.sessionUses s
    (.sessionStarted sessionId body.sessionUses, s)

def refresh (body : RefreshRequest) (s : Store) : Reply × Store :=
  match s.refreshTokens.get? body.refreshToken with
  | none => (.refused ⟨401, "Invalid refresh token."⟩, s)
  | some state =>
      if state.revoked then (.refused ⟨401, "Revoked refresh token."⟩, s)
      else if state.refreshUsesLeft ≤ 0 then (.refused ⟨401, "Expired refresh token."⟩, s)
      else
        let state := { state with refreshUsesLeft := state.refreshUsesLeft - 1 }
        let s := { s with refreshTokens := s.refreshTokens.set body.refreshToken state }
        let (accessToken, s) := issueAccessToken state.username body.accessTokenUses s
        (.refreshed accessToken body.accessTokenUses state.refreshUsesLeft, s)

def mfaLoginStart (body : MfaStartRequest) (s : Store) : Reply × Store :=
  if body.password ≠ validPassword then (invalidCredentials, s)
  else
    match issueMfaChallenge body.username body.channel s with
    | (.error error, s) => (.refused error, s)
    | (.ok challengeId, s) =>
        let code := expectedMfaCode body.username body.channel
        (.challenged challengeId body.channel (String.ofList (code.toList.drop (code.length - 2))),
          s)

def mfaLoginVerify (body : MfaVerifyRequest) (s : Store) : Reply × Store :=
  match s.mfaChallenges.get? body.challengeId with
  | none => (.refused ⟨401, "Invalid MFA challenge."⟩, s)
  | some challenge =>
      if challenge.used then (.refused ⟨401, "Used MFA challenge."⟩, s)
      else if challenge.expectedCode ≠ body.code then (.refused ⟨401, "Invalid MFA code."⟩, s)
      else
        let s := { s with
          mfaChallenges := s.mfaChallenges.set body.challengeId { challenge with used := true } }
        if body.issueMode = "session" then
          let (sessionId, s) := issueSession challenge.username body.sessionUses s
          (.verifiedSession sessionId body.sessionUses challenge.channel, s)
        else
          let (accessToken, s) := issueAccessToken challenge.username body.accessTokenUses s
          let (refreshToken, s) := issueRefreshToken challenge.username body.refreshUses s
          (.verifiedBearer accessToken refreshToken body.accessTokenUses body.refreshUses
            challenge.channel, s)

end Endpoints

def profile (authorization : Option String) (s : Store) : Reply × Store :=
  match requireUser authorization s with
  | (.error error, s) => (.refused error, s)
  | (.ok username, s) => (.profile username, s)

def sessionProfile (cookie : Option String) (s : Store) : Reply × Store :=
  match requireSession cookie s with
  | (.error error, s) => (.refused error, s)
  | (.ok username, s) => (.sessionProfile username, s)

def checkout (body : CheckoutRequest) (authorization : Option String) (s : Store) :
    Reply × Store :=
  match requireUser authorization s with
  | (.error error, s) => (.refused error, s)
  | (.ok username, s) =>
      let order := ⟨s.orderCounter, username, body.sku, body.quantity, "confirmed"⟩
      (.order order, { s with
        orderCounter := s.orderCounter + 1
        orders := s.orders.upsert order })

def getOrder (orderId : Int) (authorization : Option String) (s : Store) : Reply × Store :=
  match requireUser authorization s with
  | (.error error, s) => (.refused error, s)
  | (.ok username, s) =>
      let notFound := Reply.refused ⟨404, "Order " ++ toString orderId ++ " not found."⟩
      match s.orders.find? orderId with
      | none => (notFound, s)
      | some order => if order.username ≠ username then (notFound, s) else (.order order, s)

def logout (authorization : Option String) (s : Store) : Reply × Store :=
  match bearerToken authorization with
  | none => (.refused ⟨401, "Missing bearer token."⟩, s)
  | some token =>
      match revoke "bearer token" s.accessTokens token with
      | (.error error, accessTokens) => (.refused error, { s with accessTokens })
      | (.ok (), accessTokens) => (.loggedOut, { s with accessTokens })

def sessionLogout (cookie : Option String) (s : Store) : Reply × Store :=
  match sessionCookie cookie with
  | none => (.refused ⟨401, "Missing session cookie."⟩, s)
  | some sessionId =>
      match revoke "session cookie" s.sessions sessionId with
      | (.error error, sessions) => (.refused error, { s with sessions })
      | (.ok (), sessions) => (.sessionLoggedOut, { s with sessions })

/-! ### Requests -/

/-- A request to one of the endpoints. -/
inductive Request where
  | health
  | login (body : LoginRequest)
  | sessionLogin (body : SessionLoginRequest)
  | refresh (body : RefreshRequest)
  | mfaLoginStart (body : MfaStartRequest)
  | mfaLoginVerify (body : MfaVerifyRequest)
  | profile (authorization : Option String)
  | sessionProfile (cookie : Option String)
  | checkout (body : CheckoutRequest) (authorization : Option String)
  | getOrder (orderId : Int) (authorization : Option String)
  | logout (authorization : Option String)
  | sessionLogout (cookie : Option String)

/-- FastAPI: an endpoint runs when its body validates. -/
def validated (valid : Bool) (endpoint : Store → Reply × Store) (s : Store) : Reply × Store :=
  if valid then endpoint s else (unprocessable, s)

variable [Hashlib]

/-- The reply to a request, and the store after it. -/
def Request.handle : Request → Store → Reply × Store
  | .health => fun s => (.healthy, s)
  | .login body => validated body.valid (AuthFlow.login body)
  | .sessionLogin body => validated body.valid (AuthFlow.sessionLogin body)
  | .refresh body => validated body.valid (AuthFlow.refresh body)
  | .mfaLoginStart body => validated body.valid (AuthFlow.mfaLoginStart body)
  | .mfaLoginVerify body => validated body.valid (AuthFlow.mfaLoginVerify body)
  | .profile authorization => AuthFlow.profile authorization
  | .sessionProfile cookie => AuthFlow.sessionProfile cookie
  | .checkout body authorization => validated body.valid (AuthFlow.checkout body authorization)
  | .getOrder orderId authorization => AuthFlow.getOrder orderId authorization
  | .logout authorization => AuthFlow.logout authorization
  | .sessionLogout cookie => AuthFlow.sessionLogout cookie

/-! ### What a request can do -/

/-- The bearer token that a request presents to `_require_user`. -/
def Request.presents : Request → Option String
  | .profile authorization | .checkout _ authorization | .getOrder _ authorization =>
      bearerToken authorization
  | _ => none

/-- The replies of the endpoints behind `_require_user` once it gave a username. -/
inductive Answers (username : String) : Request → Reply → Prop where
  | profile (authorization : Option String) :
      Answers username (.profile authorization) (.profile username)
  | checkout {body : CheckoutRequest} (authorization : Option String) {order : Order}
      (own : order.username = username) :
      Answers username (.checkout body authorization) (.order order)
  | order {orderId : Int} (authorization : Option String) {order : Order}
      (own : order.username = username) :
      Answers username (.getOrder orderId authorization) (.order order)
  | noOrder {orderId : Int} (authorization : Option String) (detail : String) :
      Answers username (.getOrder orderId authorization) (.refused ⟨404, detail⟩)

/-- The credential with one use less. -/
def Credential.spent (credential : Credential) : Credential :=
  { credential with usesLeft := credential.usesLeft - 1 }

/-- The refresh token with one use less. -/
def RefreshState.spent (state : RefreshState) : RefreshState :=
  { state with refreshUsesLeft := state.refreshUsesLeft - 1 }

def Store.setRefresh (s : Store) (token : String) (state : RefreshState) : Store :=
  { s with refreshTokens := s.refreshTokens.set token state }

def Store.markUsed (s : Store) (challengeId : String) (challenge : Challenge) : Store :=
  { s with mfaChallenges := s.mfaChallenges.set challengeId { challenge with used := true } }

/-- The two tokens that a login issues, and the store with both. -/
def issueBearer (username : String) (accessUses refreshUses : Int) (s : Store) :
    (String × String) × Store :=
  let access := issueAccessToken username accessUses s
  let fresh := issueRefreshToken username refreshUses access.2
  ((access.1, fresh.1), fresh.2)

/-- Every outcome of a request: the reply and the store it leaves. -/
inductive Outcome (s : Store) : Request → Reply → Store → Prop where
  | refused {request : Request} {error : HTTPException}
      (status : error.statusCode = 401 ∨ error.statusCode = 422) :
      Outcome s request (.refused error) s
  | healthy : Outcome s .health .healthy s
  | loggedIn {body : LoginRequest} {access fresh : String} {s' : Store}
      (valid : body.valid = true)
      (issued : issueBearer body.username body.accessTokenUses body.refreshUses s =
        ((access, fresh), s')) :
      Outcome s (.login body) (.loggedIn access fresh body.accessTokenUses body.refreshUses) s'
  | sessionStarted {body : SessionLoginRequest} {sessionId : String} {s' : Store}
      (valid : body.valid = true)
      (issued : issueSession body.username body.sessionUses s = (sessionId, s')) :
      Outcome s (.sessionLogin body) (.sessionStarted sessionId body.sessionUses) s'
  | refreshed {body : RefreshRequest} {state : RefreshState} {access : String} {s' : Store}
      (valid : body.valid = true)
      (stored : s.refreshTokens.get? body.refreshToken = some state)
      (usable : state.revoked = false) (funds : 0 < state.refreshUsesLeft)
      (issued : issueAccessToken state.username body.accessTokenUses
        (s.setRefresh body.refreshToken state.spent) = (access, s')) :
      Outcome s (.refresh body)
        (.refreshed access body.accessTokenUses (state.refreshUsesLeft - 1)) s'
  | challenged {body : MfaStartRequest} {challengeId hint : String} {s' : Store}
      (issued : issueMfaChallenge body.username body.channel s = (.ok challengeId, s')) :
      Outcome s (.mfaLoginStart body) (.challenged challengeId body.channel hint) s'
  | verifiedSession {body : MfaVerifyRequest} {challenge : Challenge} {sessionId : String}
      {s' : Store} (valid : body.valid = true)
      (stored : s.mfaChallenges.get? body.challengeId = some challenge)
      (unused : challenge.used = false) (code : challenge.expectedCode = body.code)
      (issued : issueSession challenge.username body.sessionUses
        (s.markUsed body.challengeId challenge) = (sessionId, s')) :
      Outcome s (.mfaLoginVerify body)
        (.verifiedSession sessionId body.sessionUses challenge.channel) s'
  | verifiedBearer {body : MfaVerifyRequest} {challenge : Challenge} {access fresh : String}
      {s' : Store} (valid : body.valid = true)
      (stored : s.mfaChallenges.get? body.challengeId = some challenge)
      (unused : challenge.used = false) (code : challenge.expectedCode = body.code)
      (issued : issueBearer challenge.username body.accessTokenUses body.refreshUses
        (s.markUsed body.challengeId challenge) = ((access, fresh), s')) :
      Outcome s (.mfaLoginVerify body)
        (.verifiedBearer access fresh body.accessTokenUses body.refreshUses challenge.channel) s'
  | used {request : Request} {reply : Reply} {token : String} {credential : Credential}
      {orders : Table Order.orderId} {orderCounter : Nat}
      (presents : request.presents = some token)
      (stored : s.accessTokens.get? token = some credential)
      (usable : credential.revoked = false) (funds : 0 < credential.usesLeft)
      (answers : Answers credential.username request reply) :
      Outcome s request reply
        { s with accessTokens := s.accessTokens.set token credential.spent, orders, orderCounter }
  | sessionUsed {cookie : Option String} {sessionId : String} {credential : Credential}
      (presents : sessionCookie cookie = some sessionId)
      (stored : s.sessions.get? sessionId = some credential)
      (usable : credential.revoked = false) (funds : 0 < credential.usesLeft) :
      Outcome s (.sessionProfile cookie) (.sessionProfile credential.username)
        { s with sessions := s.sessions.set sessionId credential.spent }
  | loggedOut {authorization : Option String} {token : String} {credential : Credential}
      (presents : bearerToken authorization = some token)
      (stored : s.accessTokens.get? token = some credential) :
      Outcome s (.logout authorization) .loggedOut
        { s with accessTokens := s.accessTokens.set token ({ credential with revoked := true }) }
  | sessionLoggedOut {cookie : Option String} {sessionId : String} {credential : Credential}
      (presents : sessionCookie cookie = some sessionId)
      (stored : s.sessions.get? sessionId = some credential) :
      Outcome s (.sessionLogout cookie) .sessionLoggedOut
        { s with sessions := s.sessions.set sessionId ({ credential with revoked := true }) }

omit [Hashlib] in
/-- `spendUse` refuses with 401 and leaves the store, or takes one unit. -/
theorem spendUse_cases (what : String) (store : Dict Credential) (key : String) :
    (∃ detail, spendUse what store key = (.error ⟨401, detail⟩, store)) ∨
      ∃ credential, store.get? key = some credential ∧ credential.revoked = false ∧
        0 < credential.usesLeft ∧ spendUse what store key =
          (.ok credential.username, store.set key credential.spent) := by
  unfold spendUse
  cases stored : store.get? key with
  | none => exact .inl ⟨_, rfl⟩
  | some credential =>
      dsimp only
      split
      · exact .inl ⟨_, rfl⟩
      · rename_i notRevoked
        split
        · exact .inl ⟨_, rfl⟩
        · rename_i funds
          exact .inr ⟨credential, rfl, by simpa using notRevoked, by omega, rfl⟩

omit [Hashlib] in
/-- `_require_user` refuses with 401 and leaves the store, or spends a use of the
token that the header carries. -/
theorem requireUser_cases (authorization : Option String) (s : Store) :
    (∃ detail, requireUser authorization s = (.error ⟨401, detail⟩, s)) ∨
      ∃ token credential, bearerToken authorization = some token ∧
        s.accessTokens.get? token = some credential ∧ credential.revoked = false ∧
        0 < credential.usesLeft ∧ requireUser authorization s = (.ok credential.username,
          { s with accessTokens := s.accessTokens.set token credential.spent }) := by
  unfold requireUser
  cases bearerToken authorization with
  | none => exact .inl ⟨_, rfl⟩
  | some token =>
      dsimp only
      rcases spendUse_cases "bearer token" s.accessTokens token with
        ⟨detail, refused⟩ | ⟨credential, stored, usable, funds, spent⟩
      · rw [refused]
        exact .inl ⟨detail, rfl⟩
      · rw [spent]
        exact .inr ⟨token, credential, rfl, stored, usable, funds, rfl⟩

omit [Hashlib] in
theorem revoke_cases (what : String) (store : Dict Credential) (key : String) :
    (∃ detail, revoke what store key = (.error ⟨401, detail⟩, store)) ∨
      ∃ credential, store.get? key = some credential ∧
        revoke what store key = (.ok (), store.set key ({ credential with revoked := true })) := by
  unfold revoke
  cases stored : store.get? key with
  | none => exact .inl ⟨_, rfl⟩
  | some credential => exact .inr ⟨credential, rfl, rfl⟩

theorem Outcome.of_validated {s : Store} {request : Request} {valid : Bool}
    {endpoint : Store → Reply × Store}
    (runs : valid = true → Outcome s request (endpoint s).1 (endpoint s).2) :
    Outcome s request (validated valid endpoint s).1 (validated valid endpoint s).2 := by
  cases valid with
  | true => exact runs rfl
  | false => exact .refused (.inr rfl)

theorem mfaLoginVerify_outcome {body : MfaVerifyRequest} (s : Store) (valid : body.valid = true) :
    Outcome s (.mfaLoginVerify body) (mfaLoginVerify body s).1 (mfaLoginVerify body s).2 := by
  unfold mfaLoginVerify
  cases stored : s.mfaChallenges.get? body.challengeId with
  | none => exact .refused (.inl rfl)
  | some challenge =>
      dsimp only
      split
      · exact .refused (.inl rfl)
      · rename_i unused
        split
        · exact .refused (.inl rfl)
        · rename_i code
          have unused : challenge.used = false := by simpa using unused
          have code : challenge.expectedCode = body.code := by simpa using code
          split
          · exact .verifiedSession valid stored unused code rfl
          · exact .verifiedBearer valid stored unused code rfl

theorem refresh_outcome {body : RefreshRequest} (s : Store) (valid : body.valid = true) :
    Outcome s (.refresh body) (refresh body s).1 (refresh body s).2 := by
  unfold refresh
  cases stored : s.refreshTokens.get? body.refreshToken with
  | none => exact .refused (.inl rfl)
  | some state =>
      dsimp only
      split
      · exact .refused (.inl rfl)
      · rename_i usable
        split
        · exact .refused (.inl rfl)
        · rename_i funds
          exact .refreshed valid stored (by simpa using usable) (by omega) rfl

theorem mfaLoginStart_outcome (body : MfaStartRequest) (s : Store) :
    Outcome s (.mfaLoginStart body) (mfaLoginStart body s).1 (mfaLoginStart body s).2 := by
  unfold mfaLoginStart
  split
  · exact .refused (.inl rfl)
  · cases issued : issueMfaChallenge body.username body.channel s with
    | mk result s' =>
        cases result with
        | error error =>
            unfold issueMfaChallenge at issued
            split at issued
            · cases issued
              exact .refused (.inr rfl)
            · cases issued
        | ok challengeId => exact .challenged issued

theorem getOrder_outcome (orderId : Int) (authorization : Option String) (s : Store) :
    Outcome s (.getOrder orderId authorization) (getOrder orderId authorization s).1
      (getOrder orderId authorization s).2 := by
  unfold getOrder
  rcases requireUser_cases authorization s with
    ⟨detail, refused⟩ | ⟨token, credential, presents, stored, usable, funds, spent⟩
  · rw [refused]
    exact .refused (.inl rfl)
  · rw [spent]
    dsimp only
    split
    · exact .used presents stored usable funds (.noOrder authorization _)
    · split
      · exact .used presents stored usable funds (.noOrder authorization _)
      · rename_i own
        exact .used presents stored usable funds (.order authorization (by simpa using own))

/-- A request has one of the outcomes. -/
theorem handle_outcome (request : Request) (s : Store) :
    Outcome s request (request.handle s).1 (request.handle s).2 := by
  cases request with
  | health => exact .healthy
  | login body =>
      refine .of_validated fun valid => ?_
      unfold AuthFlow.login
      split
      · exact .refused (.inl rfl)
      · exact .loggedIn valid rfl
  | sessionLogin body =>
      refine .of_validated fun valid => ?_
      unfold AuthFlow.sessionLogin
      split
      · exact .refused (.inl rfl)
      · exact .sessionStarted valid rfl
  | refresh body => exact .of_validated (refresh_outcome s)
  | mfaLoginStart body => exact .of_validated fun _ => mfaLoginStart_outcome body s
  | mfaLoginVerify body => exact .of_validated (mfaLoginVerify_outcome s)
  | profile authorization =>
      simp only [Request.handle]
      unfold AuthFlow.profile
      rcases requireUser_cases authorization s with
        ⟨detail, refused⟩ | ⟨token, credential, presents, stored, usable, funds, spent⟩
      · rw [refused]
        exact .refused (.inl rfl)
      · rw [spent]
        exact .used presents stored usable funds (.profile authorization)
  | sessionProfile cookie =>
      simp only [Request.handle]
      unfold AuthFlow.sessionProfile requireSession
      cases presents : sessionCookie cookie with
      | none => exact .refused (.inl rfl)
      | some sessionId =>
          dsimp only
          rcases spendUse_cases "session cookie" s.sessions sessionId with
            ⟨detail, refused⟩ | ⟨credential, stored, usable, funds, spent⟩
          · rw [refused]
            exact .refused (.inl rfl)
          · rw [spent]
            exact .sessionUsed presents stored usable funds
  | checkout body authorization =>
      refine .of_validated fun _ => ?_
      unfold AuthFlow.checkout
      rcases requireUser_cases authorization s with
        ⟨detail, refused⟩ | ⟨token, credential, presents, stored, usable, funds, spent⟩
      · rw [refused]
        exact .refused (.inl rfl)
      · rw [spent]
        exact .used presents stored usable funds (.checkout authorization rfl)
  | getOrder orderId authorization => exact getOrder_outcome orderId authorization s
  | logout authorization =>
      simp only [Request.handle]
      unfold AuthFlow.logout
      cases presents : bearerToken authorization with
      | none => exact .refused (.inl rfl)
      | some token =>
          dsimp only
          rcases revoke_cases "bearer token" s.accessTokens token with
            ⟨detail, refused⟩ | ⟨credential, stored, revoked⟩
          · rw [refused]
            exact .refused (.inl rfl)
          · rw [revoked]
            exact .loggedOut presents stored
  | sessionLogout cookie =>
      simp only [Request.handle]
      unfold AuthFlow.sessionLogout
      cases presents : sessionCookie cookie with
      | none => exact .refused (.inl rfl)
      | some sessionId =>
          dsimp only
          rcases revoke_cases "session cookie" s.sessions sessionId with
            ⟨detail, refused⟩ | ⟨credential, stored, revoked⟩
          · rw [refused]
            exact .refused (.inl rfl)
          · rw [revoked]
            exact .sessionLoggedOut presents stored

/-! ### Sequences of requests -/

/-- A request with the reply to it. -/
abbrev Exchange := Request × Reply

/-- The exchanges of a sequence of requests. -/
def exchanges (s : Store) : List Request → List Exchange
  | [] => []
  | request :: requests =>
      (request, (request.handle s).1) :: exchanges (request.handle s).2 requests

/-- The store after a sequence of requests. -/
def after (s : Store) : List Request → Store
  | [] => s
  | request :: requests => after (request.handle s).2 requests

end PLoadtesting.TargetApps.AuthFlow
