import PLoadtesting.Lib.Clients
import PLoadtesting.Lib.JavaScript
import PLoadtesting.TargetApps.AuthFlow

/-!
The k6 scripts for the auth-flow app: `target_apps_auth_checkout.js`,
`target_apps_auth_refresh_flow.js` and `target_apps_auth_session_mfa_flow.js`.

A script is what a virtual user does in one iteration, with the environment that the
run was started with. Headers that no endpoint reads, timeouts and thresholds are
left out. k6 keeps cookies in a jar that is empty when an iteration begins.

A request is `none` when a field of its body is missing or not of its type: FastAPI
answers it without running the endpoint.
-/

namespace PLoadtesting.Engine

open Keyed Python Clients TargetApps TargetApps.AuthFlow

/-! ### The environment -/

/-- `__ENV[name] || fallback`. -/
def envText (env : Dict String) (name fallback : String) : String :=
  match env.get? name with
  | none => fallback
  | some value => if value = "" then fallback else value

/-- `Number(__ENV[name] || fallback)`. -/
def envNumber (env : Dict String) (name fallback : String) : Double :=
  JavaScript.toNumber (envText env name fallback)

/-- `x + 1`. -/
def plusOne : Double → Double
  | .finite q => JavaScript.round (q + 1)
  | x => x

/-- What an integer field of a JSON body reads from `JSON.stringify` of a number. A
number that is not finite is written as null. -/
def integer? : Double → Option Int
  | .finite q => if q.den = 1 then some q.num else none
  | _ => none

theorem plusOne_one : plusOne (.finite 1) = .finite ((2 : Int) : Rat) := by
  have sum : (1 : Rat) + 1 = (2 : Nat) := by norm_num
  rw [plusOne, sum, JavaScript.round_natCast (by decide)]
  rfl

theorem integer?_intCast (n : Int) : integer? (.finite n) = some n := by
  simp [integer?]

/-- A variable that is not set, with a number as its default. -/
theorem envNumber_default (name : String) {n : Nat} (small : n < 2 ^ 53) :
    envNumber Table.empty name (toString n) = .finite n := by
  have unset : envText Table.empty name (toString n) = toString n := rfl
  rw [envNumber, unset, JavaScript.toNumber_toString, JavaScript.round_natCast small]

/-! ### Requests and replies -/

/-- A request as it is sent. -/
abbrev Wire := Option Request

/-- The service behind FastAPI's reading of bodies. -/
def receive [Hashlib] (request : Wire) (s : Store) : Reply × Store :=
  match request with
  | none => (unprocessable, s)
  | some request => request.handle s

/-- `r.json('access_token')`. -/
def accessToken? : Reply → Option String
  | .loggedIn accessToken .. | .refreshed accessToken .. | .verifiedBearer accessToken .. =>
      some accessToken
  | _ => none

/-- `r.json('refresh_token')`. -/
def refreshToken? : Reply → Option String
  | .loggedIn _ refreshToken .. | .verifiedBearer _ refreshToken .. => some refreshToken
  | _ => none

/-- `r.json('challenge_id')`. -/
def challengeId? : Reply → Option String
  | .challenged challengeId .. => some challengeId
  | _ => none

/-- The header with the template `Bearer ${token}`. -/
def bearerHeader (token : Option String) : Option String :=
  some ("Bearer " ++ token.getD "undefined")

/-- The cookie jar after a reply. -/
def storeCookie (jar : Option String) : Reply → Option String
  | .sessionStarted sessionId _ | .verifiedSession sessionId _ _ => some sessionId
  | .sessionLoggedOut => none
  | _ => jar

/-- A login with the default budgets. -/
def plainLogin (username password : String) : LoginRequest := ⟨username, password, 3, 2⟩

/-! ### The scripts -/

/-- `target_apps_auth_checkout.js`. -/
def authCheckout (env : Dict String) : Script Wire Reply :=
  let username := envText env "DEMO_USERNAME" "alice"
  let password := envText env "DEMO_PASSWORD" "demo-password"
  let sku := envText env "DEMO_SKU" "sku-1"
  let quantity := envNumber env "DEMO_QUANTITY" "1"
  .ask (some (.login (plainLogin username password))) fun login =>
  .check "login ok" (login.statusCode = 200) <|
  let authorization := bearerHeader (accessToken? login)
  .ask (some (.profile authorization)) fun profile =>
  .check "profile ok" (profile.statusCode = 200) <|
  .ask ((integer? quantity).map fun quantity => .checkout ⟨sku, quantity⟩ authorization)
    fun checkout =>
  .check "checkout ok" (checkout.statusCode = 200)
  .done

/-- The login of the refresh flow and what follows it. -/
def refreshFlow (username password : String) (accessTokenUses refreshUses : Double) :
    Script Wire Reply :=
  .ask (do return .login ⟨username, password, ← integer? accessTokenUses,
      ← integer? refreshUses⟩) fun login =>
  .check "login ok" (login.statusCode = 200) <|
  let authorization := bearerHeader (accessToken? login)
  .ask (some (.profile authorization)) fun firstProfile =>
  .check "initial profile ok" (firstProfile.statusCode = 200) <|
  .ask (some (.profile authorization)) fun expiredProfile =>
  .check "expired profile rejected" (expiredProfile.statusCode = 401) <|
  .ask (do return .refresh ⟨← refreshToken? login, ← integer? (plusOne accessTokenUses)⟩)
    fun refresh =>
  .check "refresh ok" (refresh.statusCode = 200) <|
  let refreshed := bearerHeader (accessToken? refresh)
  .ask (some (.profile refreshed)) fun refreshedProfile =>
  .check "refreshed profile ok" (refreshedProfile.statusCode = 200) <|
  .ask (some (.logout refreshed)) fun logout =>
  .check "logout ok" (logout.statusCode = 200) <|
  .ask (some (.profile refreshed)) fun revokedProfile =>
  .check "revoked profile rejected" (revokedProfile.statusCode = 401)
  .done

/-- `target_apps_auth_refresh_flow.js`. -/
def authRefreshFlow (env : Dict String) : Script Wire Reply :=
  let username := envText env "DEMO_USERNAME" "alice"
  let password := envText env "DEMO_PASSWORD" "demo-password"
  let flow := refreshFlow username password (envNumber env "ACCESS_TOKEN_USES" "1")
    (envNumber env "REFRESH_USES" "2")
  if env.get? "ASSERT_FAILURE_BRANCHES" = some "1" then
    .ask (some (.login (plainLogin username "bad-password"))) fun badLogin =>
    .check "bad login is rejected" (badLogin.statusCode = 401) flow
  else flow

/-- The values of `charCodeAt` for a character: its UTF-16 code units. -/
def utf16 (c : Char) : List Nat :=
  if c.toNat < 0x10000 then [c.toNat]
  else [0xD800 + (c.toNat - 0x10000) / 0x400, 0xDC00 + (c.toNat - 0x10000) % 0x400]

/-- The script's own `expectedMfaCode`; `padStart` pads as the app does. -/
def scriptMfaCode (username channel : String) : String :=
  let total := ((username ++ "|" ++ channel).toList.flatMap utf16).foldl (· + ·) 0
  sixDigits (total * 137 % 1000000)

/-- The branch for `FLOW_MODE` `session`. -/
def sessionFlow (username password : String) (sessionUses : Double) : Script Wire Reply :=
  .ask (do return .sessionLogin ⟨username, password, ← integer? sessionUses⟩) fun login =>
  let jar := storeCookie none login
  .check "session login ok" (login.statusCode = 200) <|
  .check "session login set cookie" jar.isSome <|
  .ask (some (.sessionProfile jar)) fun profile =>
  .check "session profile ok" (profile.statusCode = 200) <|
  .ask (some (.sessionLogout jar)) fun logout =>
  .check "session logout ok" (logout.statusCode = 200) <|
  .ask (some (.sessionProfile (storeCookie jar logout))) fun revokedProfile =>
  .check "revoked session rejected" (revokedProfile.statusCode = 401)
  .done

/-- The branch for the other flow modes. -/
def mfaFlow (username password channel issueMode : String) : Script Wire Reply :=
  .ask (some (.mfaLoginStart ⟨username, password, channel⟩)) fun start =>
  .check "mfa start ok" (start.statusCode = 200) <|
  .ask (do return .mfaLoginVerify ⟨← challengeId? start, scriptMfaCode username channel, issueMode,
      2, 1, 2⟩) fun verify =>
  .check "mfa verify ok" (verify.statusCode = 200) <|
  if issueMode = "session" then
    .ask (some (.sessionProfile (storeCookie none verify))) fun sessionProfile =>
    .check "mfa session profile ok" (sessionProfile.statusCode = 200)
    .done
  else
    .ask (some (.profile (bearerHeader (accessToken? verify)))) fun profile =>
    .check "mfa bearer profile ok" (profile.statusCode = 200)
    .done

/-- `target_apps_auth_session_mfa_flow.js`. -/
def authSessionMfaFlow (env : Dict String) : Script Wire Reply :=
  let username := envText env "DEMO_USERNAME" "alice"
  let password := envText env "DEMO_PASSWORD" "demo-password"
  if envText env "FLOW_MODE" "session" = "session" then
    sessionFlow username password (envNumber env "SESSION_USES" "2")
  else
    mfaFlow username password (envText env "MFA_CHANNEL" "sms")
      (envText env "MFA_ISSUE_MODE" "bearer")

end PLoadtesting.Engine
