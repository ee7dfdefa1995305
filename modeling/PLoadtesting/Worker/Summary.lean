import PLoadtesting.Lib.Python
import Mathlib.Algebra.Ring.Int.Defs

/-!
The summaries of a finished run (`calculate_k6_summary` and
`calculate_jmeter_summary` in `workers/agent.py`).

The output file is given as its records in order, with the exception that
reading it ends with, if any, as for bytes that are no UTF-8. A line of k6's JSON
output is given by what `json.loads` makes of it (`K6Line`); a row of the JTL file is the
dictionary of the CSV reader, null where the row is too short. Averages and rates are
computed exactly, and percentile indices are `n * q / 100` rounded down. `nan` compares
with nothing; where the sort puts it is not modelled.

Every exception is caught in the end, so a summary is always returned, always
with an object under `raw_report` (`rawReport_calculateK6Summary`,
`rawReport_calculateJmeterSummary`).
-/

namespace PLoadtesting.Worker

open Keyed Python

/-- An output file as its reader sees it. -/
structure OutputFile (Record : Type) where
  records : List Record
  readError : Option Exc

/-- One line of k6's output, by what `json.loads` makes of it. -/
inductive K6Line where
  | blank
  /-- `json.JSONDecodeError`. -/
  | notJson
  /-- Another exception: a number of over 4300 digits, values nested too deeply. -/
  | raises (e : Exc)
  /-- No JSON, but read: one of the constants `NaN`, `Infinity` and `-Infinity` is in it. -/
  | extended (data : Json)
  | value (data : Json)

/-! ### Numbers -/

/-- The number that arithmetic sees. -/
def number? : Json → Option Double
  | .bool b => some (.finite (if b then 1 else 0))
  | .int i => some (.finite i)
  | .float x => some x
  | _ => none

def addDouble : Double → Double → Double
  | .finite p, .finite q => .finite (p + q)
  | .nan, _ | _, .nan => .nan
  | .inf s, .inf t => if s = t then .inf s else .nan
  | .inf s, .finite _ | .finite _, .inf s => .inf s

/-- `x / n` for a positive count. -/
def divNat : Double → Nat → Double
  | .finite q, n => .finite (q / n)
  | x, _ => x

def ltDouble : Double → Double → Bool
  | .finite p, .finite q => decide (p < q)
  | .inf true, .finite _ | .inf true, .inf false | .finite _, .inf false => true
  | _, _ => false

/-- `sum(values)` after summands whose sum has the given type. -/
def sumFrom (type : String) : List Json → Except Exc Double
  | [] => .ok (.finite 0)
  | value :: values =>
      match number? value with
      | none => .error (.typeError ("unsupported operand type(s) for +: '" ++ type ++ "' and '" ++
          value.typeName ++ "'"))
      | some x => do
          let type := if value.typeName = "float" then "float" else type
          return addDouble x (← sumFrom type values)

/-- `sum(values)`. -/
def sumNumbers (values : List Json) : Except Exc Double := sumFrom "int" values

/-- `values.sort()` for numbers. -/
def sortNumbers (values : List Json) : List Json :=
  values.mergeSort fun x y =>
    match number? x, number? y with
    | some p, some q => !ltDouble q p
    | _, _ => true

/-- The element at the percentile index of a sorted list. -/
def percentile (values : List Json) (q : Nat) : Json :=
  (values[min (values.length * q / 100) (values.length - 1)]?).getD .null

/-! ### k6 -/

/-- The durations and the request count gathered so far. -/
structure K6Points where
  durations : List Json
  totalReqs : Int

/-- `data["data"]["value"]`. -/
def pointValue (data : Json) : Except Exc Json := do (← data.getItem "data").getItem "value"

/-- The loop body for a decoded line. -/
def addK6Point (points : K6Points) (data : Json) : Except Exc K6Points := do
  match data.asDict? with
  | none => throw (data.noAttribute "get")
  | some fields =>
      let isPoint := ((fields.get? "type").getD .null).eqStr "Point"
      let metric := (fields.get? "metric").getD .null
      let points ←
        if isPoint && metric.eqStr "http_req_duration" then do
          pure { points with durations := points.durations ++ [← pointValue data] }
        else pure points
      if isPoint && metric.eqStr "http_reqs" then do
        return { points with totalReqs := points.totalReqs + (← (← pointValue data).toInt) }
      else return points

def addK6Lines : K6Points → List K6Line → Except Exc K6Points
  | points, [] => .ok points
  | points, .blank :: lines | points, .notJson :: lines => addK6Lines points lines
  | _, .raises e :: _ => .error e
  | points, .extended data :: lines | points, .value data :: lines => do
      addK6Lines (← addK6Point points data) lines

/-- The points of a file that may be missing. -/
def readK6Points (file : Option (OutputFile K6Line)) : Except Exc K6Points :=
  match file with
  | none => .ok ⟨[], 0⟩
  | some file => do
      let points ← addK6Lines ⟨[], 0⟩ file.records
      match file.readError with
      | none => return points
      | some e => throw e

/-- The summary that is returned when anything raised. -/
def errorSummary (e : Exc) : Dict Json :=
  Dict.ofItems [("avg_response_ms", .float (.finite 0)), ("p95_response_ms", .float (.finite 0)),
    ("throughput_rps", .float (.finite 0)), ("raw_report", .obj [("error", .str e.text)])]

def k6Summary (points : K6Points) : Except Exc (Dict Json) := do
  let sum ← sumNumbers points.durations
  let (avg, p95) :=
    if points.durations.isEmpty then (.float (.finite 0), .float (.finite 0))
    else (Json.float (divNat sum points.durations.length),
      percentile (sortNumbers points.durations) 95)
  return Dict.ofItems [("avg_response_ms", avg), ("p95_response_ms", p95),
    ("throughput_rps", .float (.finite (points.totalReqs / 60))),
    ("raw_report", .obj [("message", .str "k6 execution finished successfully"),
      ("total_requests", .int points.totalReqs)])]

def calculateK6Summary (file : Option (OutputFile K6Line)) : Dict Json :=
  match (do k6Summary (← readK6Points file)) with
  | .ok summary => summary
  | .error e => errorSummary e

/-! ### JMeter -/

/-- What the rows read so far come to. -/
structure JtlStats where
  responseTimes : List Int
  failedReqs : Nat
  startTime : Option Int
  endTime : Option Int

/-- `row[key]`, a text or null. -/
def column (row : Dict Json) (key : String) : Except Exc Json :=
  match row.get? key with
  | some value => .ok value
  | none => .error (.keyError key)

/-- The three columns of a row. -/
def jtlSample [Runtime] (row : Dict Json) : Except Exc (Int × Int × Bool) := do
  let ts ← (← column row "timeStamp").toInt
  let elapsed ← (← column row "elapsed").toInt
  match ← column row "success" with
  | .str success => return (ts, elapsed, decide (Runtime.lower success = "true"))
  | success => throw (success.noAttribute "lower")

def addJtlSample (stats : JtlStats) (ts elapsed : Int) (success : Bool) : JtlStats where
  responseTimes := stats.responseTimes ++ [elapsed]
  failedReqs := stats.failedReqs + if success then 0 else 1
  startTime := some (match stats.startTime with | none => ts | some s => min s ts)
  endTime := some (match stats.endTime with | none => ts | some s => max s ts)

/-- The loop over the rows. A row with a missing column or a text that is no
number is skipped; another exception ends the loop. -/
def addJtlRows [Runtime] : JtlStats → List (Dict Json) → Except Exc JtlStats
  | stats, [] => .ok stats
  | stats, row :: rows =>
      match jtlSample row with
      | .ok (ts, elapsed, success) => addJtlRows (addJtlSample stats ts elapsed success) rows
      | .error (.keyError _) | .error (.valueError _) => addJtlRows stats rows
      | .error e => .error e

def readJtlStats [Runtime] (file : Option (OutputFile (Dict Json))) : Except Exc JtlStats :=
  match file with
  | none => .ok ⟨[], 0, none, none⟩
  | some file => do
      let stats ← addJtlRows ⟨[], 0, none, none⟩ file.records
      match file.readError with
      | none => return stats
      | some e => throw e

/-- Requests per second between the first and the last start, when both are set
and not zero. -/
def throughput (totalReqs : Nat) : Option Int → Option Int → Rat
  | some startTime, some endTime =>
      if startTime ≠ 0 ∧ endTime ≠ 0 ∧ startTime < endTime then
        totalReqs / ((endTime - startTime : Int) / 1000)
      else 0
  | _, _ => 0

def jmeterSummary (stats : JtlStats) : Dict Json :=
  let totalReqs := stats.responseTimes.length
  let sorted := (stats.responseTimes.mergeSort (· ≤ ·)).map Json.int
  let statistic (value : Json) : Json :=
    if stats.responseTimes.isEmpty then .float (.finite 0) else value
  let errorRate : Rat := if 0 < totalReqs then stats.failedReqs / totalReqs * 100 else 0
  Dict.ofItems [("total_requests", .int totalReqs), ("failed_requests", .int stats.failedReqs),
    ("error_rate_pct", .float (.finite errorRate)),
    ("avg_response_ms",
      statistic (.float (.finite (stats.responseTimes.sum / totalReqs)))),
    ("p90_response_ms", statistic (percentile sorted 90)),
    ("p95_response_ms", statistic (percentile sorted 95)),
    ("p99_response_ms", statistic (percentile sorted 99)),
    ("max_response_ms", statistic (sorted.getLast?.getD .null)),
    ("throughput_rps", .float (.finite (throughput totalReqs stats.startTime stats.endTime))),
    ("raw_report", .obj [("message", .str "JMeter execution finished successfully"),
      ("total_requests", .int totalReqs), ("failed_requests", .int stats.failedReqs)])]

def calculateJmeterSummary [Runtime] (file : Option (OutputFile (Dict Json))) : Dict Json :=
  match readJtlStats file with
  | .ok stats => jmeterSummary stats
  | .error e => errorSummary e

/-! ### The point for InfluxDB -/

/-- The point of measurement `task_summary`: its tags and its fields. -/
structure SummaryPoint where
  taskId : String
  engine : String
  worker : String
  status : Json
  targetUrl : Json
  avgResponseMs : Double
  p95ResponseMs : Double
  throughputRps : Double
  errorRatePct : Double
  totalRequests : Int
  failedRequests : Int

/-- `float(value)`. A summary holds numbers only, so texts are not read here. -/
def toFloat (value : Json) : Except Exc Double :=
  match number? value with
  | some x => .ok x
  | none => .error (.typeError
      ("float() argument must be a string or a real number, not '" ++ value.typeName ++ "'"))

/-- `int(raw.get(key, 0))`, for `raw = summary.get("raw_report", {})`. -/
def pushedCount (summary : Dict Json) (key : String) : Except Exc Int :=
  let raw := (summary.get? "raw_report").getD (.obj [])
  match raw.asDict? with
  | some raw => ((raw.get? key).getD (.int 0)).toInt
  | none => .error (raw.noAttribute "get")

/-- The point that `push_summary_to_influxdb` writes. -/
def summaryPoint (workerName taskId engine : String) (summary : Dict Json) (targetUrl : Json) :
    Except Exc SummaryPoint := do
  let zero : Json := .float (.finite 0)
  let avg ← toFloat ((summary.get? "avg_response_ms").getD zero)
  let p95 ← toFloat ((summary.get? "p95_response_ms").getD zero)
  let rps ← toFloat ((summary.get? "throughput_rps").getD zero)
  let total ← pushedCount summary "total_requests"
  let failed ← pushedCount summary "failed_requests"
  return {
    taskId
    engine
    worker := workerName
    status := (summary.get? "execution_status").getD (.str "unknown")
    targetUrl := if targetUrl.truthy then targetUrl else .str ""
    avgResponseMs := avg
    p95ResponseMs := p95
    throughputRps := rps
    errorRatePct := .finite (if 0 < total then failed / total * 100 else 0)
    totalRequests := total
    failedRequests := failed }

/-- The point of a run carries the total that is read for it. -/
theorem summaryPoint_totalRequests {workerName taskId engine : String} {summary : Dict Json}
    {targetUrl : Json} {point : SummaryPoint}
    (built : summaryPoint workerName taskId engine summary targetUrl = .ok point) :
    pushedCount summary "total_requests" = .ok point.totalRequests := by
  unfold summaryPoint at built
  obtain ⟨avg, _, built⟩ := bind_ok_iff.mp built
  obtain ⟨p95, _, built⟩ := bind_ok_iff.mp built
  obtain ⟨rps, _, built⟩ := bind_ok_iff.mp built
  obtain ⟨total, read, built⟩ := bind_ok_iff.mp built
  obtain ⟨failed, _, built⟩ := bind_ok_iff.mp built
  cases built
  exact read

/-! ### Every summary has a report -/

/-- The object under `raw_report`, if there is one. -/
def rawReport? (summary : Dict Json) : Option (Dict Json) :=
  (summary.get? "raw_report").bind Json.asDict?

theorem rawReport_errorSummary (e : Exc) : (rawReport? (errorSummary e)).isSome = true := by
  simp [rawReport?, errorSummary, Dict.get?_ofItems, Json.asDict?]

theorem rawReport_calculateK6Summary (file : Option (OutputFile K6Line)) :
    (rawReport? (calculateK6Summary file)).isSome = true := by
  unfold calculateK6Summary
  split
  · rename_i summary computed
    obtain ⟨points, _, computed⟩ := bind_ok_iff.mp computed
    obtain ⟨sum, _, computed⟩ := bind_ok_iff.mp computed
    cases computed
    simp [rawReport?, Dict.get?_ofItems, Json.asDict?]
  · exact rawReport_errorSummary _

theorem rawReport_calculateJmeterSummary [Runtime] (file : Option (OutputFile (Dict Json))) :
    (rawReport? (calculateJmeterSummary file)).isSome = true := by
  unfold calculateJmeterSummary
  split
  · simp [rawReport?, jmeterSummary, Dict.get?_ofItems, Json.asDict?]
  · exact rawReport_errorSummary _

end PLoadtesting.Worker
