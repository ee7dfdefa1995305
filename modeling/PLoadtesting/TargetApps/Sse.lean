import PLoadtesting.Lib.ServerSentEvents
import PLoadtesting.TargetApps.Common
import PLoadtesting.Worker.Artifacts

/-!
`sse_api.py`: streams of a given number of server-sent events.

A stream is the list of what its generator does: it yields a chunk, and sleeps for the
interval of the request before the next one and after the last.
-/

namespace PLoadtesting.TargetApps.SseApi

open Python ServerSentEvents

def maxEventCount : Int := 100
def maxIntervalMs : Int := 5000
def maxProgressHeavySteps : Int := 60

/-! ### The writer -/

section Text

variable [Runtime]

mutual

/-- `json.dumps(value, separators=(",", ":"))`. -/
def dumps : Json → List Char
  | .null => ['n', 'u', 'l', 'l']
  | .bool true => ['t', 'r', 'u', 'e']
  | .bool false => ['f', 'a', 'l', 's', 'e']
  | .int i => (toString i).toList
  | .float x => (Worker.jsonFloat x).toList
  | .str s => (Worker.jsonString s).toList
  | .arr xs => '[' :: [','].intercalate (dumpsAll xs) ++ [']']
  | .obj items => '\x7b' :: [','].intercalate (dumpsItems items) ++ ['\x7d']

def dumpsAll : List Json → List (List Char)
  | [] => []
  | x :: xs => dumps x :: dumpsAll xs

def dumpsItems : List (String × Json) → List (List Char)
  | [] => []
  | (k, v) :: rest => ((Worker.jsonString k).toList ++ ':' :: dumps v) :: dumpsItems rest

end

/-- `_format_sse`. -/
def formatSse (event : String) (payload : Json) : List Char :=
  "event: ".toList ++ event.toList ++ "\ndata: ".toList ++ dumps payload ++ "\n\n".toList

/-- What a generator does: it yields a chunk, or sleeps for some milliseconds. -/
inductive StreamStep where
  | chunk (text : List Char)
  | sleep (ms : Int)

/-- `_stream_events`. -/
def streamEvents (eventName : String) (count : Nat) (intervalMs : Int)
    (payloadFactory : Nat → Json) : List StreamStep :=
  (List.range count).flatMap fun index =>
    .chunk (formatSse eventName (payloadFactory index)) ::
      if intervalMs ≠ 0 then [.sleep intervalMs] else []

end Text

def StreamStep.chunk? : StreamStep → Option (List Char)
  | .chunk text => some text
  | .sleep _ => none

def StreamStep.sleptMs : StreamStep → Int
  | .chunk _ => 0
  | .sleep ms => ms

/-- The chunks of a stream. -/
def chunks (steps : List StreamStep) : List (List Char) := steps.filterMap StreamStep.chunk?

/-- The time that a stream sleeps. -/
def sleptMs (steps : List StreamStep) : Int := (steps.map StreamStep.sleptMs).sum

/-! ### The endpoints -/

/-- `_ticker_value`. -/
def tickerValue [Hashlib] (index : Nat) (seed : Int) : Double :=
  let fraction := deterministicFraction "sse-ticker" (toString index) seed
  roundDigits 4 (floatOp (100 + ·) (floatOp (· * 10) fraction))

/-- `round((step / steps) * 100, 2)`. -/
def progressPct (step steps : Nat) : Double :=
  roundDigits 2 (floatOp (· * 100) (JavaScript.round (step / steps)))

inductive Endpoint where
  | events | ticker | progress | progressHeavy
deriving DecidableEq

/-- The parameters of a request; `count` is called `steps` by two of the endpoints. -/
structure Query where
  count : Int
  intervalMs : Int
  deterministic : Bool
  seed : Int

def Endpoint.eventName : Endpoint → String
  | .events => "message"
  | .ticker => "ticker"
  | .progress => "progress"
  | .progressHeavy => "progress-heavy"

def Endpoint.maxCount : Endpoint → Int
  | .progressHeavy => maxProgressHeavySteps
  | _ => maxEventCount

def eventPayload (query : Query) (index : Nat) : Json :=
  .obj [("sequence", .int (index + 1)), ("kind", .str "event"),
    ("deterministic", .bool query.deterministic), ("seed", .int query.seed)]

def tickerPayload [Hashlib] (query : Query) (index : Nat) : Json :=
  let value :=
    if query.deterministic then tickerValue index query.seed else .finite (index + 100 : Nat)
  .obj [("sequence", .int (index + 1)), ("symbol", .str "PLT"), ("value", .float value),
    ("deterministic", .bool query.deterministic), ("seed", .int query.seed)]

def progressPayload (query : Query) (steps index : Nat) : Json :=
  .obj [("step", .int (index + 1)), ("steps", .int steps),
    ("progress_pct", .float (progressPct (index + 1) steps)),
    ("deterministic", .bool query.deterministic), ("seed", .int query.seed)]

def phases : List String := ["queued", "preparing", "processing", "finalizing"]

/-- `min((step - 1) * 4 // steps, 3)`. -/
def phaseIndex (steps index : Nat) : Nat := min (index * 4 / steps) 3

/-- `max((steps - step) * interval_ms, 0)`. -/
def baseEtaMs (query : Query) (steps step : Nat) : Int :=
  max (((steps : Int) - step) * query.intervalMs) 0

/-- `max(steps * 3 - step * 3, 0)`. -/
def remainingUnits (steps step : Nat) : Int := max ((steps : Int) * 3 - step * 3) 0

def progressHeavyPayload (query : Query) (steps index : Nat) : Json :=
  let step := index + 1
  let workUnits := if query.deterministic then 100 + step * 3 else 100 + step
  .obj [("step", .int step), ("steps", .int steps),
    ("phase", .str (phases.getD (phaseIndex steps index) "")),
    ("progress_pct", .float (progressPct step steps)),
    ("eta_ms", .int (baseEtaMs query steps step)),
    ("metrics", .obj [("completed_units", .int workUnits),
      ("remaining_units", .int (remainingUnits steps step)), ("seed", .int query.seed)]),
    ("deterministic", .bool query.deterministic)]

def payload [Hashlib] (endpoint : Endpoint) (query : Query) (index : Nat) : Json :=
  match endpoint with
  | .events => eventPayload query index
  | .ticker => tickerPayload query index
  | .progress => progressPayload query query.count.toNat index
  | .progressHeavy => progressHeavyPayload query query.count.toNat index

/-- `_validate_stream_args`. -/
def validateStreamArgs (count intervalMs : Int) : Except HTTPException Unit :=
  if count < 1 ∨ maxEventCount < count then
    .error ⟨422, s!"count must be between 1 and {maxEventCount}."⟩
  else if intervalMs < 0 ∨ maxIntervalMs < intervalMs then
    .error ⟨422, s!"interval_ms must be between 0 and {maxIntervalMs}."⟩
  else .ok ()

/-- The stream of an endpoint. FastAPI checks the bounds before the endpoint does. -/
def stream [Runtime] [Hashlib] (endpoint : Endpoint) (query : Query) :
    Except HTTPException (List StreamStep) :=
  if between 1 endpoint.maxCount query.count && between 0 maxIntervalMs query.intervalMs then do
    validateStreamArgs query.count query.intervalMs
    if endpoint = .progressHeavy ∧ maxProgressHeavySteps < query.count then
      .error ⟨422,
        s!"steps must be between 1 and {maxProgressHeavySteps} for progress-heavy streams."⟩
    else .ok (streamEvents endpoint.eventName query.count.toNat query.intervalMs
      (payload endpoint query))
  else .error ⟨422, "Unprocessable Entity"⟩

/-! ### JSON on one line -/

theorem oneLine_intercalate {texts : List (List Char)} (h : ∀ text ∈ texts, OneLine text) :
    OneLine ([','].intercalate texts) := by
  induction texts with
  | nil => exact fun c mem => absurd mem List.not_mem_nil
  | cons text rest ih =>
      have first := h text List.mem_cons_self
      have others := ih fun other mem => h other (List.mem_cons_of_mem text mem)
      cases rest with
      | nil => simpa using first
      | cons next rest =>
          rw [List.intercalate_cons_cons]
          exact (first.append (by decide)).append others

theorem hexDigit_oneLine (n : Nat) : OneLine (Nat.toDigits 16 n) := by
  have digits : ∀ d < 16, Nat.digitChar d ≠ '\n' ∧ Nat.digitChar d ≠ '\r' := by
    decide
  induction n using Nat.strongRecOn with
  | ind n ih =>
      rw [Nat.toDigits_eq_if (by decide)]
      split
      · rename_i small
        intro c mem
        rw [List.mem_singleton.mp mem]
        exact digits n small
      · rename_i large
        refine (ih (n / 16) (by omega)).append ?_
        intro c mem
        rw [List.mem_singleton.mp mem]
        exact digits _ (Nat.mod_lt n (by decide))

theorem hexPadded_oneLine (width n : Nat) : OneLine (Json.hexPadded width n).toList := by
  unfold Json.hexPadded
  rw [String.toList_ofList]
  refine OneLine.append ?_ (hexDigit_oneLine n)
  intro c mem
  rw [(List.mem_replicate.mp mem).2]
  decide

theorem unicodeEscape_oneLine (c : Char) : OneLine (Worker.unicodeEscape c).toList := by
  have mark : OneLine "\\u".toList := by decide
  unfold Worker.unicodeEscape
  dsimp only
  split
  · rw [String.toList_append]
    exact mark.append (hexPadded_oneLine _ _)
  · rw [String.toList_append, String.toList_append, String.toList_append]
    exact ((mark.append (hexPadded_oneLine _ _)).append mark).append (hexPadded_oneLine _ _)

/-- Line ends are escaped. -/
theorem jsonChar_oneLine (c : Char) : OneLine (Worker.jsonChar c).toList := by
  unfold Worker.jsonChar
  split_ifs with _ _ newline return_
  all_goals try decide
  · rw [Char.toString_eq_singleton, String.toList_singleton]
    intro d mem
    rw [List.mem_singleton.mp mem]
    exact ⟨newline, return_⟩
  · exact unicodeEscape_oneLine c

theorem jsonString_oneLine (s : String) : OneLine (Worker.jsonString s).toList := by
  have quote : OneLine "\"".toList := by decide
  unfold Worker.jsonString
  rw [String.toList_append, String.toList_append, String.toList_join]
  refine (quote.append ?_).append quote
  intro c mem
  obtain ⟨text, escaped, inText⟩ := List.mem_flatMap.mp mem
  obtain ⟨d, _, rfl⟩ := List.mem_map.mp escaped
  exact jsonChar_oneLine d c inText

theorem toString_oneLine (i : Int) : OneLine (toString i).toList := by
  have digits (n : Nat) : OneLine (Nat.repr n).toList := by
    rw [Nat.repr, String.toList_ofList]
    intro c mem
    have digit := Nat.isDigit_of_mem_toDigits (by decide) (by decide) mem
    constructor
    · rintro rfl
      exact absurd digit (by decide)
    · rintro rfl
      exact absurd digit (by decide)
  cases i with
  | ofNat n => exact digits n
  | negSucc n =>
      show OneLine ("-" ++ Nat.repr (n + 1)).toList
      rw [String.toList_append]
      exact OneLine.append (by decide) (digits _)

section Floats

variable [Runtime]

/-- `repr` writes a float with digits, signs, a point and an `e`. -/
def FloatsOnOneLine : Prop := ∀ q, OneLine (Runtime.floatRepr q).toList

theorem jsonFloat_oneLine (floats : FloatsOnOneLine) (x : Double) :
    OneLine (Worker.jsonFloat x).toList := by
  cases x with
  | finite q => exact floats q
  | inf negative =>
      cases negative with
      | true => exact (by decide : OneLine "-Infinity".toList)
      | false => exact (by decide : OneLine "Infinity".toList)
  | nan => exact (by decide : OneLine "NaN".toList)

mutual

/-- A JSON text has no line ends. -/
theorem dumps_oneLine (floats : FloatsOnOneLine) : ∀ value : Json, OneLine (dumps value)
  | .null => by rw [dumps]; decide
  | .bool true => by rw [dumps]; decide
  | .bool false => by rw [dumps]; decide
  | .int i => by rw [dumps]; exact toString_oneLine i
  | .float x => by rw [dumps]; exact jsonFloat_oneLine floats x
  | .str s => by rw [dumps]; exact jsonString_oneLine s
  | .arr xs => by
      rw [dumps]
      exact OneLine.append (s := ['[']) (by decide)
        ((oneLine_intercalate (dumpsAll_oneLine floats xs)).append (by decide))
  | .obj items => by
      rw [dumps]
      exact OneLine.append (s := ['\x7b']) (by decide)
        ((oneLine_intercalate (dumpsItems_oneLine floats items)).append (by decide))

theorem dumpsAll_oneLine (floats : FloatsOnOneLine) :
    ∀ xs : List Json, ∀ text ∈ dumpsAll xs, OneLine text
  | [] => by
      intro text mem
      rw [dumpsAll] at mem
      exact absurd mem List.not_mem_nil
  | x :: xs => by
      intro text mem
      rw [dumpsAll] at mem
      rcases List.mem_cons.mp mem with rfl | rest
      · exact dumps_oneLine floats x
      · exact dumpsAll_oneLine floats xs text rest

theorem dumpsItems_oneLine (floats : FloatsOnOneLine) :
    ∀ items : List (String × Json), ∀ text ∈ dumpsItems items, OneLine text
  | [] => by
      intro text mem
      rw [dumpsItems] at mem
      exact absurd mem List.not_mem_nil
  | (k, v) :: rest => by
      intro text mem
      rw [dumpsItems] at mem
      rcases List.mem_cons.mp mem with rfl | others
      · exact (jsonString_oneLine k).append
          (OneLine.append (s := [':']) (by decide) (dumps_oneLine floats v))
      · exact dumpsItems_oneLine floats rest text others

end

/-! ### Reading a stream -/

/-- The chunks are the texts of the events, whatever the interval is. -/
theorem chunks_streamEvents (eventName : String) (count : Nat) (intervalMs : Int)
    (payloadFactory : Nat → Json) :
    chunks (streamEvents eventName count intervalMs payloadFactory) =
      (List.range count).map fun index => formatSse eventName (payloadFactory index) := by
  unfold chunks streamEvents
  rw [List.filterMap_flatMap, List.map_eq_flatMap]
  refine List.flatMap_congr fun index _ => ?_
  split <;> rfl

/-- A stream sleeps for the interval after every chunk. -/
theorem sleptMs_streamEvents (eventName : String) (count : Nat) (intervalMs : Int)
    (payloadFactory : Nat → Json) :
    sleptMs (streamEvents eventName count intervalMs payloadFactory) = count * intervalMs := by
  have each (index : Nat) : sleptMs (.chunk (formatSse eventName (payloadFactory index)) ::
      if intervalMs ≠ 0 then [.sleep intervalMs] else []) = intervalMs := by
    by_cases pause : intervalMs = 0
    · rw [if_neg (not_not.mpr pause), pause]
      rfl
    · rw [if_pos pause]
      simp [sleptMs, StreamStep.sleptMs]
  unfold streamEvents
  induction count with
  | zero => simp [sleptMs]
  | succ count ih =>
      rw [List.range_succ, List.flatMap_append, List.flatMap_singleton]
      have split := each count
      unfold sleptMs at ih split ⊢
      rw [List.map_append, List.sum_append, ih, split]
      push_cast
      rw [Int.add_mul, Int.one_mul]

/-- The bounds of the parameters. -/
structure Accepted (endpoint : Endpoint) (query : Query) : Prop where
  count : 1 ≤ query.count ∧ query.count ≤ endpoint.maxCount
  intervalMs : 0 ≤ query.intervalMs ∧ query.intervalMs ≤ maxIntervalMs

variable [Hashlib]

/-- The messages that an endpoint streams, one for each payload. -/
def sent (endpoint : Endpoint) (query : Query) : List Message :=
  (List.range query.count.toNat).map fun index =>
    ⟨endpoint.eventName.toList, dumps (payload endpoint query index)⟩

/-- The checks of the endpoint itself find nothing that FastAPI lets through. -/
theorem stream_of_accepted {endpoint : Endpoint} {query : Query}
    (accepted : Accepted endpoint query) :
    stream endpoint query =
      .ok (streamEvents endpoint.eventName query.count.toNat query.intervalMs
        (payload endpoint query)) := by
  obtain ⟨⟨least, most⟩, nonneg, short⟩ := accepted
  have bounds : (between 1 endpoint.maxCount query.count &&
      between 0 maxIntervalMs query.intervalMs) = true := by
    simp [between, least, most, nonneg, short]
  have mostEvents : endpoint.maxCount ≤ maxEventCount := by
    cases endpoint <;> decide
  have valid : validateStreamArgs query.count query.intervalMs = .ok () := by
    unfold validateStreamArgs
    rw [if_neg (by omega), if_neg (by omega)]
  have light : ¬ (endpoint = .progressHeavy ∧ maxProgressHeavySteps < query.count) := by
    rintro ⟨rfl, heavy⟩
    exact absurd most (Int.not_le.mpr heavy)
  unfold stream
  rw [if_pos bounds, valid]
  exact if_neg light

theorem stream_of_refused {endpoint : Endpoint} {query : Query}
    (refused : ¬ Accepted endpoint query) :
    stream endpoint query = .error ⟨422, "Unprocessable Entity"⟩ := by
  refine if_neg ?_
  intro bounds
  simp only [between, Bool.and_eq_true, decide_eq_true_eq] at bounds
  exact refused ⟨bounds.1, bounds.2⟩

end Floats

end PLoadtesting.TargetApps.SseApi
