import PLoadtesting.Engine.PayloadScripts
import PLoadtesting.Lib.Url
import PLoadtesting.TargetApps.Sse

/-!
The k6 script `target_apps_sse_smoke.js`, and the SSE app behind FastAPI's reading of a
query.

The texts of the environment go into the query as they are. Those that a URL would have
to encode, and a path that ends the query early, are left out.
-/

namespace PLoadtesting.Engine

open Keyed Python TargetApps TargetApps.SseApi

/-! ### The service -/

/-- How FastAPI reads an integer parameter. -/
class FastApi where
  integer : String → Option Int

/-- How it reads a boolean parameter. -/
def boolean? (text : String) : Option Bool :=
  if text.toLower ∈ ["1", "t", "true", "y", "yes", "on"] then some true
  else if text.toLower ∈ ["0", "f", "false", "n", "no", "off"] then some false
  else none

/-- The parameters of a query. -/
def queryParams (query : String) : List (String × String) :=
  (Url.splitOn '&' query.toList).map fun part =>
    let (name, _, value) := Url.partition '=' part
    (String.ofList name, String.ofList value)

/-- `Query(default=…)`; the last of several parameters of one name counts. -/
def readParam {α : Type} (read : String → Option α) (fallback : α) (name : String)
    (params : List (String × String)) : Option α :=
  match params.reverse.lookup name with
  | none => some fallback
  | some text => read text

def routes : List (String × Endpoint) :=
  [("/api/events", .events), ("/api/ticker", .ticker), ("/api/progress", .progress),
    ("/api/progress-heavy", .progressHeavy)]

/-- The name and the default of the parameter that bounds the stream. -/
def countOf : Endpoint → String × Int
  | .events | .ticker => ("count", 10)
  | .progress => ("steps", 10)
  | .progressHeavy => ("steps", 24)

def defaultIntervalMs : Endpoint → Int
  | .progressHeavy => 50
  | _ => 100

/-- The parameters that an endpoint runs with, unless one is not of its type. -/
def readQuery [FastApi] (endpoint : Endpoint) (params : List (String × String)) : Option Query := do
  let count ← readParam FastApi.integer (countOf endpoint).2 (countOf endpoint).1 params
  let intervalMs ← readParam FastApi.integer (defaultIntervalMs endpoint) "interval_ms" params
  let deterministic ← readParam boolean? true "deterministic" params
  let seed ← readParam FastApi.integer defaultSeed "seed" params
  return ⟨count, intervalMs, deterministic, seed⟩

/-- A response, and how long its stream sleeps before it is over. The body of a refusal,
which holds no event, is left out. -/
structure StreamResponse where
  statusCode : Nat
  contentType : String
  body : List Char
  sleptMs : Int

def refusal (statusCode : Nat) : StreamResponse := ⟨statusCode, "application/json", [], 0⟩

section Responses

variable [FastApi] [Runtime] [Hashlib]

/-- The response of an endpoint. -/
def respond (endpoint : Endpoint) (params : List (String × String)) : StreamResponse :=
  match readQuery endpoint params with
  | none => refusal 422
  | some query =>
      match stream endpoint query with
      | .ok steps =>
          ⟨200, "text/event-stream; charset=utf-8", (chunks steps).flatten, sleptMs steps⟩
      | .error e => refusal e.statusCode

/-- `GET` of a path with a query. -/
def getStream (path query : String) : StreamResponse :=
  match routes.lookup path with
  | none => refusal 404
  | some endpoint => respond endpoint (queryParams query)

end Responses

/-! ### The script -/

/-- `s.includes(part)`. -/
def includes (s part : List Char) : Bool := decide (part <:+: s)

/-- `SSE_ENDPOINT_PATH`. -/
def sseEndpointPath (env : Dict String) : String := envText env "SSE_ENDPOINT_PATH" "/api/events"

/-- `SSE_COUNT`. -/
def sseCount (env : Dict String) : String := envText env "SSE_COUNT" (envText env "SSE_STEPS" "5")

/-- `SSE_INTERVAL_MS`. -/
def sseIntervalMs (env : Dict String) : String := envText env "SSE_INTERVAL_MS" "50"

/-- `EXPECTED_EVENT`. -/
def expectedEvent (path : String) : List Char :=
  if includes path.toList "ticker".toList then "event: ticker".toList
  else if includes path.toList "progress-heavy".toList then "event: progress-heavy".toList
  else if includes path.toList "progress".toList then "event: progress".toList
  else "event: message".toList

/-- `COUNT_PARAM`. -/
def countParam (path : String) : String :=
  if includes path.toList "progress".toList then "steps" else "count"

/-- The query of the script's request. -/
def sseQuery (env : Dict String) : String :=
  countParam (sseEndpointPath env) ++ "=" ++ sseCount env ++ "&interval_ms=" ++
    sseIntervalMs env ++ "&deterministic=true"

/-- `timeout: '10s'`. -/
def timeoutMs : Rat := 10000

/-- `http.get`: k6 waits for the end of the response, which takes `restMs` besides the
pauses of the stream, and gives up at the timeout. -/
def waitFor (response : StreamResponse) (restMs : Rat) : Option StreamResponse :=
  if response.sleptMs + restMs ≤ timeoutMs then some response else none

/-- The checks of a response. Of a request that was given up, k6 has neither a status nor
headers, and `r.body` is null: `r.body.includes` raises. -/
def sseChecks (path : String) : Option StreamResponse → Iteration
  | none =>
      { checks :=
          [("sse status is 200", false), ("sse content-type is event-stream", false),
            ("sse body contains expected event", false)]
        completed := false }
  | some response =>
      { checks :=
          [("sse status is 200", response.statusCode = 200),
            ("sse content-type is event-stream",
              includes response.contentType.toList "text/event-stream".toList),
            ("sse body contains expected event", includes response.body (expectedEvent path)),
            ("sse body contains data lines", includes response.body "data:".toList),
            ("sse progress-heavy contains richer metadata",
              !includes path.toList "progress-heavy".toList ||
                (includes response.body "\"phase\":\"".toList &&
                  includes response.body "\"metrics\":".toList))]
        completed := true }

/-- An iteration of `target_apps_sse_smoke.js`. -/
def sseSmoke [FastApi] [Runtime] [Hashlib] (env : Dict String) (restMs : Rat) : Iteration :=
  let path := sseEndpointPath env
  sseChecks path (waitFor (getStream path (sseQuery env)) restMs)

end PLoadtesting.Engine
