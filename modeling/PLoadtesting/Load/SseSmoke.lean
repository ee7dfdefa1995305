import PLoadtesting.Engine.SseScripts

/-!
The SSE smoke script on the SSE app: on every route, an iteration passes its checks if
and only if the app reads a count and an interval within the bounds of the route, and the
stream is over before the script's timeout (`sseSmoke_passed_iff`).
-/

namespace PLoadtesting.Load

open Keyed Python TargetApps TargetApps.SseApi Engine ServerSentEvents

theorem includes_iff {s part : List Char} : includes s part = true ↔ part <:+: s :=
  decide_eq_true_iff

/-! ### What a stream contains -/

theorem infix_intercalate {text : List Char} {texts : List (List Char)} (mem : text ∈ texts) :
    text <:+: [','].intercalate texts := by
  induction texts with
  | nil => exact absurd mem List.not_mem_nil
  | cons first rest ih =>
      cases rest with
      | nil =>
          rw [List.mem_singleton.mp mem]
          exact ⟨[], [], by simp⟩
      | cons next rest =>
          rw [List.intercalate_cons_cons]
          rcases List.mem_cons.mp mem with rfl | later
          · exact (List.prefix_append _ _).isInfix.trans (List.prefix_append _ _).isInfix
          · exact (ih later).trans (List.suffix_append _ _).isInfix

section Streams

variable [Runtime]

/-- An entry of an object is in its JSON text. -/
theorem infix_dumps {items : List (String × Json)} {key : String} {value : Json}
    (mem : (key, value) ∈ items) :
    (Worker.jsonString key).toList ++ ':' :: dumps value <:+: dumps (.obj items) := by
  have entry : (Worker.jsonString key).toList ++ ':' :: dumps value ∈ dumpsItems items := by
    induction items with
    | nil => exact absurd mem List.not_mem_nil
    | cons item rest ih =>
        obtain ⟨k, v⟩ := item
        rw [dumpsItems]
        rcases List.mem_cons.mp mem with same | later
        · cases same
          exact List.mem_cons_self
        · exact List.mem_cons_of_mem _ (ih later)
  rw [dumps]
  exact ((infix_intercalate entry).trans (List.suffix_append ['\x7b'] _).isInfix).trans
    (List.prefix_append _ _).isInfix

omit [Runtime] in
theorem jsonString_opens (s : String) : ∃ rest, (Worker.jsonString s).toList = '"' :: rest := by
  have quote : "\"".toList = ['"'] := by decide
  refine ⟨(String.join (s.toList.map Worker.jsonChar)).toList ++ "\"".toList, ?_⟩
  rw [Worker.jsonString, String.toList_append, String.toList_append, quote]
  rfl

theorem infix_formatSse (event : String) (payload : Json) :
    "event: ".toList ++ event.toList <:+: formatSse event payload ∧
      "data:".toList <:+: formatSse event payload ∧
      dumps payload <:+: formatSse event payload := by
  have line : "\ndata: ".toList = ['\n'] ++ "data:".toList ++ [' '] := by decide +kernel
  unfold formatSse
  refine ⟨⟨[], "\ndata: ".toList ++ dumps payload ++ "\n\n".toList, ?_⟩,
    ⟨"event: ".toList ++ event.toList ++ ['\n'], [' '] ++ dumps payload ++ "\n\n".toList, ?_⟩,
    ⟨"event: ".toList ++ event.toList ++ "\ndata: ".toList, "\n\n".toList, rfl⟩⟩
  · simp only [List.nil_append, List.append_assoc]
  · rw [line]
    simp only [List.append_assoc]

/-- A stream contains the chunk of its first event. -/
theorem infix_stream (eventName : String) {count : Nat} (positive : 0 < count)
    (intervalMs : Int) (payloadFactory : Nat → Json) :
    formatSse eventName (payloadFactory 0) <:+:
      (chunks (streamEvents eventName count intervalMs payloadFactory)).flatten := by
  have first : formatSse eventName (payloadFactory 0) ∈
      chunks (streamEvents eventName count intervalMs payloadFactory) := by
    rw [chunks_streamEvents]
    exact List.mem_map.mpr ⟨0, List.mem_range.mpr positive, rfl⟩
  obtain ⟨before, after, split⟩ := List.append_of_mem first
  rw [split, List.flatten_append, List.flatten_cons]
  exact ⟨before.flatten, after.flatten, by simp only [List.append_assoc]⟩

end Streams

/-! ### The query -/

/-- A text that a query holds as it is. -/
def IsPlain (text : String) : Prop :=
  (text.toList.all fun c => c.isAlphanum || ['-', '.', '_', '~'].contains c) = true

theorem IsPlain.notMem {text : String} (plain : IsPlain text) : '&' ∉ text.toList := by
  intro mem
  have allowed := List.all_eq_true.mp plain '&' mem
  exact absurd allowed (by decide)

/-- A query is read back as the parameters that it was written from. -/
theorem queryParams_eq {param count intervalMs : String} (named : '=' ∉ param.toList)
    (one : '&' ∉ param.toList) (plainCount : IsPlain count) (plainInterval : IsPlain intervalMs) :
    queryParams (param ++ "=" ++ count ++ "&interval_ms=" ++ intervalMs ++ "&deterministic=true") =
      [(param, count), ("interval_ms", intervalMs), ("deterministic", "true")] := by
  have text : (param ++ "=" ++ count ++ "&interval_ms=" ++ intervalMs ++
      "&deterministic=true").toList =
        (param.toList ++ '=' :: count.toList) ++ '&' ::
          (("interval_ms".toList ++ '=' :: intervalMs.toList) ++
            '&' :: ("deterministic".toList ++ '=' :: "true".toList)) := by
    have equals : "=".toList = ['='] := by decide
    have second : "&interval_ms=".toList = '&' :: "interval_ms".toList ++ ['='] := by decide
    have third : "&deterministic=true".toList =
        '&' :: ("deterministic".toList ++ '=' :: "true".toList) := by decide
    simp only [String.toList_append, equals, second, third, List.append_assoc,
      List.cons_append, List.nil_append]
  have firstPart : '&' ∉ param.toList ++ '=' :: count.toList := by
    have := plainCount.notMem
    simp [one, this]
  have secondPart : '&' ∉ "interval_ms".toList ++ '=' :: intervalMs.toList := by
    have := plainInterval.notMem
    simp [this]
  have thirdPart : '&' ∉ "deterministic".toList ++ '=' :: "true".toList := by decide
  unfold queryParams
  rw [text, Url.splitOn_append firstPart, Url.splitOn_append secondPart,
    Url.splitOn_of_notMem thirdPart]
  simp only [List.map_cons, List.map_nil, Url.partition_append named]
  rw [Url.partition_append (by decide), Url.partition_append (by decide)]
  simp only [String.ofList_toList]

/-- The path of a route. -/
def routeOf : Endpoint → String
  | .events => "/api/events"
  | .ticker => "/api/ticker"
  | .progress => "/api/progress"
  | .progressHeavy => "/api/progress-heavy"

theorem expectedEvent_routeOf (endpoint : Endpoint) :
    expectedEvent (routeOf endpoint) = "event: ".toList ++ endpoint.eventName.toList := by
  cases endpoint <;> decide +kernel

/-- The script names the parameter as the route does. -/
theorem countParam_routeOf (endpoint : Endpoint) :
    countParam (routeOf endpoint) = (countOf endpoint).1 := by
  cases endpoint <;> decide +kernel

theorem lookup_routeOf (endpoint : Endpoint) :
    routes.lookup (routeOf endpoint) = some endpoint := by
  cases endpoint <;> decide +kernel

/-- The parameters of the script's request to a route. -/
def sseParams (endpoint : Endpoint) (count intervalMs : String) : List (String × String) :=
  [((countOf endpoint).1, count), ("interval_ms", intervalMs), ("deterministic", "true")]

section Queries

variable [FastApi]

/-- An endpoint reads the two numbers of the script's query. -/
theorem readQuery_sseParams (endpoint : Endpoint) (count intervalMs : String) :
    readQuery endpoint (sseParams endpoint count intervalMs) =
      (FastApi.integer count).bind fun n => (FastApi.integer intervalMs).map fun ms =>
        ⟨n, ms, true, defaultSeed⟩ := by
  have isTrue : boolean? "true" = some true := by decide +kernel
  have counted : readParam FastApi.integer (countOf endpoint).2 (countOf endpoint).1
      (sseParams endpoint count intervalMs) = FastApi.integer count := by
    cases endpoint <;> rfl
  have spaced : readParam FastApi.integer (defaultIntervalMs endpoint) "interval_ms"
      (sseParams endpoint count intervalMs) = FastApi.integer intervalMs := by
    cases endpoint <;> rfl
  have deterministic : readParam boolean? true "deterministic"
      (sseParams endpoint count intervalMs) = some true := by
    cases endpoint <;> exact isTrue
  have seeded : readParam FastApi.integer defaultSeed "seed"
      (sseParams endpoint count intervalMs) = some defaultSeed := by
    cases endpoint <;> rfl
  unfold readQuery
  rw [counted, spaced, deterministic, seeded]
  cases FastApi.integer intervalMs <;> rfl

theorem readQuery_eq_some_iff {endpoint : Endpoint} {count intervalMs : String} {query : Query} :
    readQuery endpoint (sseParams endpoint count intervalMs) = some query ↔
      ∃ n ms, FastApi.integer count = some n ∧ FastApi.integer intervalMs = some ms ∧
        ⟨n, ms, true, defaultSeed⟩ = query := by
  rw [readQuery_sseParams]
  simp only [Option.bind_eq_some_iff, Option.map_eq_some_iff, exists_and_left]

variable [Runtime] [Hashlib]

/-- The response to the script's request is that of the endpoint to its two numbers. -/
theorem getStream_sseQuery {env : Dict String} {endpoint : Endpoint}
    (route : sseEndpointPath env = routeOf endpoint) (plainCount : IsPlain (sseCount env))
    (plainInterval : IsPlain (sseIntervalMs env)) :
    getStream (sseEndpointPath env) (sseQuery env) =
      respond endpoint (sseParams endpoint (sseCount env) (sseIntervalMs env)) := by
  have name : '=' ∉ (countOf endpoint).1.toList ∧ '&' ∉ (countOf endpoint).1.toList := by
    cases endpoint <;> decide
  unfold getStream sseQuery
  rw [route, lookup_routeOf, countParam_routeOf,
    queryParams_eq name.1 name.2 plainCount plainInterval]
  rfl

/-- A stream is sent to a query within the bounds only. -/
theorem respond_of_read {endpoint : Endpoint} {params : List (String × String)} {query : Query}
    (read : readQuery endpoint params = some query) (accepted : Accepted endpoint query) :
    respond endpoint params =
      ⟨200, "text/event-stream; charset=utf-8",
        (chunks (streamEvents endpoint.eventName query.count.toNat query.intervalMs
          (payload endpoint query))).flatten, query.count * query.intervalMs⟩ := by
  have positive := accepted.count.1
  have counted : (query.count.toNat : Int) = query.count := by omega
  unfold respond
  rw [read]
  dsimp only
  rw [stream_of_accepted accepted]
  dsimp only
  rw [sleptMs_streamEvents, counted]

theorem accepted_of_respond {endpoint : Endpoint} {params : List (String × String)}
    (answered : (respond endpoint params).statusCode = 200) :
    ∃ query, readQuery endpoint params = some query ∧ Accepted endpoint query := by
  unfold respond at answered
  cases read : readQuery endpoint params with
  | none =>
      rw [read] at answered
      exact absurd (show (422 : Nat) = 200 from answered) (by decide)
  | some query =>
      refine ⟨query, rfl, ?_⟩
      by_contra refused
      rw [read] at answered
      dsimp only at answered
      rw [stream_of_refused refused] at answered
      exact absurd (show (422 : Nat) = 200 from answered) (by decide)

end Queries

/-! ### The checks -/

section Checks

variable [Runtime]

/-- The two entries that only the heavy stream has. -/
theorem infix_progressHeavy (query : Query) (steps index : Nat) :
    "\"phase\":\"".toList <:+: dumps (progressHeavyPayload query steps index) ∧
      "\"metrics\":".toList <:+: dumps (progressHeavyPayload query steps index) := by
  have phase : (Worker.jsonString "phase").toList ++ [':', '"'] = "\"phase\":\"".toList := by
    decide +kernel
  have metrics : (Worker.jsonString "metrics").toList ++ [':'] = "\"metrics\":".toList := by
    decide +kernel
  constructor
  · have entry : (Worker.jsonString "phase").toList ++
        ':' :: dumps (.str (phases.getD (phaseIndex steps index) "")) <:+:
          dumps (progressHeavyPayload query steps index) :=
      infix_dumps (List.mem_cons_of_mem _ (List.mem_cons_of_mem _ List.mem_cons_self))
    refine List.IsInfix.trans ?_ entry
    obtain ⟨rest, opens⟩ := jsonString_opens (phases.getD (phaseIndex steps index) "")
    rw [← phase, dumps, opens]
    exact ⟨[], rest, by rw [List.nil_append, List.append_assoc]; rfl⟩
  · have entry : (Worker.jsonString "metrics").toList ++ ':' :: dumps _ <:+:
          dumps (progressHeavyPayload query steps index) :=
      infix_dumps (List.mem_cons_of_mem _ (List.mem_cons_of_mem _ (List.mem_cons_of_mem _
        (List.mem_cons_of_mem _ (List.mem_cons_of_mem _ List.mem_cons_self)))))
    refine List.IsInfix.trans ?_ entry
    rw [← metrics]
    exact ⟨[], _, by rw [List.nil_append, List.append_assoc]; rfl⟩

variable [Hashlib]

/-- The checks of a stream pass. -/
theorem sseChecks_passed {endpoint : Endpoint} {query : Query}
    (accepted : Accepted endpoint query) (sleptMs : Int) :
    (sseChecks (routeOf endpoint) (some ⟨200, "text/event-stream; charset=utf-8",
      (chunks (streamEvents endpoint.eventName query.count.toNat query.intervalMs
        (payload endpoint query))).flatten, sleptMs⟩)).Passed := by
  have positive : 0 < query.count.toNat := by
    have least := accepted.count.1
    omega
  have first := infix_stream endpoint.eventName positive query.intervalMs (payload endpoint query)
  obtain ⟨event, dataLine, text⟩ :=
    infix_formatSse endpoint.eventName (payload endpoint query 0)
  refine ⟨rfl, ?_⟩
  unfold sseChecks
  simp only [List.forall_mem_cons, List.not_mem_nil, false_implies, implies_true, and_true]
  refine ⟨rfl, by decide +kernel, ?_, includes_iff.mpr (dataLine.trans first), ?_⟩
  · rw [expectedEvent_routeOf]
    exact includes_iff.mpr (event.trans first)
  · cases endpoint with
    | progressHeavy =>
        obtain ⟨phase, metrics⟩ := infix_progressHeavy query query.count.toNat 0
        rw [includes_iff.mpr ((phase.trans text).trans first),
          includes_iff.mpr ((metrics.trans text).trans first)]
        exact Bool.or_true _
    | _ =>
        refine Bool.or_eq_true_iff.mpr (.inl ?_)
        decide +kernel

variable [FastApi]

/-- On every route, an iteration passes its checks if and only if the app reads a count and
an interval within the bounds of the route, and the pauses after the events and the rest
of the request take no longer than the script waits. -/
theorem sseSmoke_passed_iff {env : Dict String} {endpoint : Endpoint}
    (route : sseEndpointPath env = routeOf endpoint) (plainCount : IsPlain (sseCount env))
    (plainInterval : IsPlain (sseIntervalMs env)) (restMs : Rat) :
    (sseSmoke env restMs).Passed ↔
      ∃ count intervalMs, FastApi.integer (sseCount env) = some count ∧
        FastApi.integer (sseIntervalMs env) = some intervalMs ∧
        Accepted endpoint ⟨count, intervalMs, true, defaultSeed⟩ ∧
        (count * intervalMs : Int) + restMs ≤ timeoutMs := by
  unfold sseSmoke
  dsimp only
  rw [getStream_sseQuery route plainCount plainInterval, route]
  constructor
  · rintro ⟨completed, passed⟩
    unfold waitFor at completed passed
    split at passed
    · rename_i inTime
      have status := passed _ List.mem_cons_self
      obtain ⟨query, read, accepted⟩ := accepted_of_respond (of_decide_eq_true status)
      obtain ⟨count, intervalMs, counted, spaced, rfl⟩ := readQuery_eq_some_iff.mp read
      rw [respond_of_read read accepted] at inTime
      exact ⟨count, intervalMs, counted, spaced, accepted, inTime⟩
    · exact absurd (passed _ List.mem_cons_self) Bool.false_ne_true
  · rintro ⟨count, intervalMs, counted, spaced, accepted, inTime⟩
    have read : readQuery endpoint (sseParams endpoint (sseCount env) (sseIntervalMs env)) =
        some ⟨count, intervalMs, true, defaultSeed⟩ :=
      readQuery_eq_some_iff.mpr ⟨count, intervalMs, counted, spaced, rfl⟩
    rw [respond_of_read read accepted, waitFor, if_pos inTime]
    exact sseChecks_passed accepted _

end Checks

/-- A FastAPI that reads the decimal texts which `int` does. -/
@[reducible] def decimalTexts : FastApi := ⟨parseInt⟩

theorem decimalTexts_integer {text : String} {i : Int} (written : text = toString i)
    (short : (Nat.toDigits 10 i.natAbs).length ≤ 4300) : decimalTexts.integer text = some i := by
  rw [written]
  exact parseInt_toString short

/-- The default environment passes when the rest of the request takes 40 ms. Sixty steps of
the heavy stream, 170 ms apart, are within the bounds of their route and outlast the
timeout. -/
theorem sseSmoke_passed_default :
    let _ := decimalTexts
    let _ := asciiRuntime
    let _ := knownDigests []
    let slow := Dict.ofItems [("SSE_ENDPOINT_PATH", "/api/progress-heavy"), ("SSE_STEPS", "60"),
      ("SSE_INTERVAL_MS", "170")]
    (sseSmoke Table.empty 40).Passed ∧ ¬ (sseSmoke slow 40).Passed := by
  let _ := decimalTexts
  let _ := asciiRuntime
  let _ := knownDigests []
  constructor
  · refine (sseSmoke_passed_iff (show _ = routeOf .events by decide +kernel)
      (by unfold IsPlain; rfl) (by unfold IsPlain; rfl) 40).mpr ?_
    exact ⟨5, 50, decimalTexts_integer (by decide +kernel) (by decide),
      decimalTexts_integer (by decide +kernel) (by decide),
      ⟨by decide, by decide⟩, by unfold timeoutMs; norm_num⟩
  · intro passed
    obtain ⟨count, intervalMs, counted, spaced, _, inTime⟩ :=
      (sseSmoke_passed_iff (show _ = routeOf .progressHeavy by decide +kernel)
        (by unfold IsPlain; rfl) (by unfold IsPlain; rfl) 40).mp passed
    have sixty : count = 60 := Option.some.inj
      (counted.symm.trans (decimalTexts_integer (by decide +kernel) (by decide)))
    have often : intervalMs = 170 := Option.some.inj
      (spaced.symm.trans (decimalTexts_integer (by decide +kernel) (by decide)))
    rw [sixty, often] at inTime
    unfold timeoutMs at inTime
    norm_num at inTime

end PLoadtesting.Load
