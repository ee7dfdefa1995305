import PLoadtesting.Worker.Agent
import PLoadtesting.ControlPlane.Permissions

/-!
The two checks of the shared token: `has_shared_api_token` of the Control Plane
and the first lines of `execute_endpoint` on the worker.

They read the same two headers. The Control Plane lets a bearer credential
replace the token header and admits everyone when no token is configured; the
worker takes the token from either header and has no case for an empty one.
Requests of the services to each other carry the token header alone, and there
the checks agree (`ownHeaders_admitted`).
-/

namespace PLoadtesting.System

open Python ControlPlane Worker

/-! ### Bearer credentials -/

/-- An `Authorization` value with a bearer credential: the scheme in any case, a
space, and the credential with any blanks around it. -/
def IsBearer (authorization credential : String) : Prop :=
  ∃ scheme rest : List Char, authorization.toList = scheme ++ ' ' :: rest ∧
    scheme.map Char.toLower = "bearer".toList ∧ credential = strip (String.ofList rest)

/-- The request carries the bearer credential. -/
def Bears (headers : RequestHeaders) (credential : String) : Prop :=
  ∃ authorization, headers.authorization = some authorization ∧
    IsBearer authorization credential

/-- The bearer credential that both checks read. -/
def bearerCredential (authorization : String) : Option String :=
  if hasBearerPrefix authorization then
    some (strip (String.ofList (afterFirstSpace authorization.toList)))
  else none

theorem toLower_eq_space {c : Char} (h : c.toLower = ' ') : c = ' ' := by
  unfold Char.toLower at h
  split at h
  · rename_i upper
    have below : c.val + 32 = 32 := congrArg Char.val h
    have zero : c.val = 0 := by simpa using below
    rw [zero] at upper
    exact absurd upper (by decide)
  · exact h

/-- A scheme has no space, so the first one ends it. -/
theorem afterFirstSpace_scheme {scheme rest : List Char}
    (lower : scheme.map Char.toLower = "bearer".toList) :
    afterFirstSpace (scheme ++ ' ' :: rest) = rest := by
  have letters : ∀ c ∈ scheme, decide (c ≠ ' ') = true := by
    intro c mem
    refine decide_eq_true ?_
    rintro rfl
    have space : ' ' ∈ scheme.map Char.toLower := List.mem_map.mpr ⟨' ', mem, rfl⟩
    rw [lower] at space
    exact absurd space (by decide)
  unfold afterFirstSpace
  rw [List.dropWhile_append_of_pos letters, List.dropWhile_cons_of_neg (by simp)]
  rfl

theorem hasBearerPrefix_iff {authorization : String} :
    hasBearerPrefix authorization = true ↔
      ∃ scheme rest, authorization.toList = scheme ++ ' ' :: rest ∧
        scheme.map Char.toLower = "bearer".toList := by
  unfold hasBearerPrefix
  rw [List.isPrefixOf_iff_prefix]
  constructor
  · rintro ⟨lowered, found⟩
    have split : authorization.toList.map Char.toLower = "bearer".toList ++ ' ' :: lowered :=
      found.symm
    obtain ⟨scheme, spaced, parts, lower, tail⟩ := List.map_eq_append_iff.mp split
    obtain ⟨space, rest, rfl, isSpace, _⟩ := List.map_eq_cons_iff.mp tail
    rw [toLower_eq_space isSpace] at parts
    exact ⟨scheme, rest, parts, lower⟩
  · rintro ⟨scheme, rest, parts, lower⟩
    rw [parts, List.map_append, lower]
    exact ⟨_, rfl⟩

theorem bearerCredential_eq_some_iff {authorization credential : String} :
    bearerCredential authorization = some credential ↔ IsBearer authorization credential := by
  unfold bearerCredential
  by_cases bearer : hasBearerPrefix authorization = true
  · obtain ⟨scheme, rest, parts, lower⟩ := hasBearerPrefix_iff.mp bearer
    rw [if_pos bearer, parts, afterFirstSpace_scheme lower, Option.some.injEq]
    constructor
    · rintro rfl
      exact ⟨scheme, rest, parts, lower, rfl⟩
    · rintro ⟨scheme', rest', parts', lower', rfl⟩
      rw [← @afterFirstSpace_scheme scheme rest lower, ← parts, parts',
        afterFirstSpace_scheme lower']
  · rw [if_neg bearer]
    refine iff_of_false (Option.some_ne_none credential).symm ?_
    rintro ⟨scheme, rest, parts, lower, _⟩
    exact bearer (hasBearerPrefix_iff.mpr ⟨scheme, rest, parts, lower⟩)

theorem bears_iff {headers : RequestHeaders} {credential : String} :
    Bears headers credential ↔
      bearerCredential (headers.authorization.getD "") = some credential := by
  unfold Bears
  cases headers.authorization with
  | none => simp [bearerCredential, hasBearerPrefix]
  | some authorization => simp [bearerCredential_eq_some_iff]

/-! ### The two checks -/

/-- The headers as `request.headers.get(name, "")` reads them. -/
def received (headers : RequestHeaders) : Headers :=
  ⟨headers.apiToken.getD "", headers.authorization.getD ""⟩

theorem executeAllowed_iff {config : WorkerConfig} {headers : RequestHeaders} :
    executeAllowed config headers = true ↔ headers.apiToken = some config.apiToken ∨
      (bearerCredential (headers.authorization.getD "")).getD "" = config.apiToken := by
  unfold executeAllowed bearerCredential
  by_cases tokenHeader : headers.apiToken = some config.apiToken
  · simp [tokenHeader]
  · simp only [tokenHeader, if_false, false_or, decide_eq_true_eq]
    split <;> rfl

theorem hasSharedApiToken_iff {settings : Settings} {headers : RequestHeaders} :
    hasSharedApiToken settings (received headers) = true ↔ settings.apiToken = "" ∨
      (bearerCredential (headers.authorization.getD "")).getD (headers.apiToken.getD "") =
        settings.apiToken := by
  unfold hasSharedApiToken bearerCredential received
  by_cases unset : settings.apiToken = ""
  · simp [unset]
  · simp only [unset, if_false, false_or, decide_eq_true_eq]
    split <;> rfl

/-- The endpoint answers 403 where its token check fails, whatever the body is. -/
theorem executeEndpoint_forbidden_iff {config : WorkerConfig} {headers : RequestHeaders}
    (body : Json) :
    executeEndpoint config headers body = .forbidden ↔ executeAllowed config headers = false := by
  unfold executeEndpoint
  cases executeAllowed config headers with
  | false => simp
  | true =>
      rw [if_pos rfl]
      refine iff_of_false ?_ Bool.false_ne_true.symm
      split
      · exact ExecuteResponse.noConfusion
      · dsimp only
        split
        · exact ExecuteResponse.noConfusion
        · split
          · exact ExecuteResponse.noConfusion
          · exact ExecuteResponse.noConfusion

/-- With one token in both services, the checks agree on a request if and only
if its bearer credential, if it has one, is the token, or the token header is
the token exactly when the token is empty. -/
theorem sameCredentials_iff (token : String) (config : WorkerConfig) (settings : Settings)
    (headers : RequestHeaders) :
    executeAllowed { config with apiToken := token } headers =
        hasSharedApiToken { settings with apiToken := token } (received headers) ↔
      (∀ credential, Bears headers credential → credential = token) ∨
        (headers.apiToken = some token ↔ token = "") := by
  rw [Bool.eq_iff_iff, executeAllowed_iff, hasSharedApiToken_iff]
  simp only [bears_iff]
  cases bearerCredential (headers.authorization.getD "") with
  | none =>
      have tokenHeader : (headers.apiToken = some token ∨ "" = token) ↔
          (token = "" ∨ headers.apiToken.getD "" = token) := by
        cases headers.apiToken with
        | none => simp [eq_comm]
        | some value => simp [or_comm, eq_comm]
      simpa using tokenHeader
  | some credential =>
      simp only [Option.getD_some, Option.some.injEq, forall_eq']
      by_cases isToken : credential = token
      · simp [isToken]
      · simp [isToken]

/-! ### Requests between the services -/

/-- The headers that `_dispatch_to_worker` and `api_headers` set. -/
def ownHeaders (token : String) : RequestHeaders := ⟨some token, none⟩

/-- What the services send each other passes both checks, also with an empty
token. -/
theorem ownHeaders_admitted (token : String) (config : WorkerConfig) (settings : Settings) :
    executeAllowed { config with apiToken := token } (ownHeaders token) = true ∧
      hasSharedApiToken { settings with apiToken := token } (received (ownHeaders token)) =
        true := by
  constructor
  · exact executeAllowed_iff.mpr (.inl rfl)
  · exact hasSharedApiToken_iff.mpr (.inr rfl)

/-! ### Two credentials -/

/-- The token in its own header, and another bearer credential. -/
def mixedHeaders : RequestHeaders := ⟨some "dev-api-token-change-me", some "Bearer other"⟩

/-- With the default token the worker accepts the two credentials and the Control
Plane does not. -/
theorem mixedHeaders_differ :
    ¬ ∀ (token : String) (config : WorkerConfig) (settings : Settings) (headers : RequestHeaders),
      executeAllowed { config with apiToken := token } headers =
        hasSharedApiToken { settings with apiToken := token } (received headers) := by
  intro same
  have differ := same "dev-api-token-change-me" plainWorker ⟨"", false⟩ mixedHeaders
  revert differ
  decide +kernel

end PLoadtesting.System
