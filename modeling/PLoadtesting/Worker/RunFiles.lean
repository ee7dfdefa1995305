import PLoadtesting.Worker.Summary
import Mathlib.Algebra.Order.Ring.Rat
import Mathlib.Data.Rat.Lemmas

/-!
Well-formed output files and what the two summarisers read from them.

A k6 line is blank or an object; a point of the counter `http_reqs` has a
natural number for its value, which is the number of requests that it records
(k6 writes 1 for each request), and a point of `http_req_duration` a finite
number. A JTL row has a number for its start, a number for its response time and
a text for its success, and records one request.
-/

namespace PLoadtesting.Worker

open Keyed Python

/-! ### k6 -/

/-- A value that is a natural number. -/
def naturalNumber? (value : Json) : Option Nat :=
  match number? value with
  | some (.finite q) => if q.den = 1 ∧ 0 ≤ q.num then some q.num.toNat else none
  | _ => none

/-- The object is a point of the metric. -/
def isPointOf (metric : String) (data : Json) : Bool :=
  match data.asDict? with
  | none => false
  | some fields =>
      ((fields.get? "type").getD .null).eqStr "Point" &&
        ((fields.get? "metric").getD .null).eqStr metric

/-- The number of requests that a line records. -/
def K6Line.requests : K6Line → Nat
  | .value data =>
      if isPointOf "http_reqs" data then ((pointValue data).toOption.bind naturalNumber?).getD 0
      else 0
  | _ => 0

/-- The response time that a line records. -/
def K6Line.durations : K6Line → List Json
  | .value data =>
      if isPointOf "http_req_duration" data then (pointValue data).toOption.toList else []
  | _ => []

/-- A well-formed line of k6's output. -/
inductive K6Line.WellFormed : K6Line → Prop where
  | blank : WellFormed .blank
  | value {data : Json} (object : data.asDict?.isSome = true)
      (requests : isPointOf "http_reqs" data = true →
        ∃ value n, pointValue data = .ok value ∧ naturalNumber? value = some n)
      (durations : isPointOf "http_req_duration" data = true →
        ∃ value q, pointValue data = .ok value ∧ number? value = some (.finite q)) :
      WellFormed (.value data)

/-- The number of requests that a k6 file records. -/
def k6Requests (lines : List K6Line) : Nat := (lines.map K6Line.requests).sum

/-! #### Lines in k6's format -/

/-- A value that is an integer, perhaps written with a fraction of zero. -/
def integralNumber? (value : Json) : Option Int :=
  match number? value with
  | some (.finite q) => if q.den = 1 then some q.num else none
  | _ => none

/-- The integer that a line adds to the count. -/
def K6Line.count : K6Line → Int
  | .value data =>
      if isPointOf "http_reqs" data then ((pointValue data).toOption.bind integralNumber?).getD 0
      else 0
  | _ => 0

/-- A line that may stand in k6's output: it may also be cut off, and a point of
`http_reqs` may have any integer. -/
inductive K6Line.InFormat : K6Line → Prop where
  | blank : InFormat .blank
  | notJson : InFormat .notJson
  | value {data : Json} (object : data.asDict?.isSome = true)
      (requests : isPointOf "http_reqs" data = true →
        ∃ value i, pointValue data = .ok value ∧ integralNumber? value = some i)
      (durations : isPointOf "http_req_duration" data = true →
        ∃ value q, pointValue data = .ok value ∧ number? value = some (.finite q)) :
      InFormat (.value data)

/-- The count of a k6 file. -/
def k6Count (lines : List K6Line) : Int := (lines.map K6Line.count).sum

theorem toInt_of_integralNumber {value : Json} {i : Int}
    (integral : integralNumber? value = some i) : value.toInt = .ok i := by
  unfold integralNumber? at integral
  split at integral
  · rename_i q number
    split at integral
    · rename_i whole
      cases integral
      cases value with
      | bool b =>
          cases b with
          | true => cases number; rfl
          | false => cases number; rfl
      | int i => cases number; rfl
      | float x =>
          cases number
          show Except.ok (truncate q) = _
          unfold truncate
          rw [whole]
          exact congrArg Except.ok (Int.tdiv_one q.num)
      | _ => cases number
    · cases integral
  · cases integral

theorem integralNumber?_of_naturalNumber {value : Json} {n : Nat}
    (natural : naturalNumber? value = some n) : integralNumber? value = some (n : Int) := by
  unfold naturalNumber? at natural
  unfold integralNumber?
  split at natural
  · rename_i q number
    split at natural
    · rename_i whole
      cases natural
      exact (if_pos whole.1).trans (congrArg some (Int.toNat_of_nonneg whole.2).symm)
    · cases natural
  · cases natural

theorem K6Line.WellFormed.inFormat {line : K6Line} (wellFormed : line.WellFormed) :
    line.InFormat := by
  cases wellFormed with
  | blank => exact .blank
  | value object requests durations =>
      refine .value object (fun isRequests => ?_) durations
      obtain ⟨value, n, read, natural⟩ := requests isRequests
      exact ⟨value, n, read, integralNumber?_of_naturalNumber natural⟩

theorem K6Line.WellFormed.count_eq {line : K6Line} (wellFormed : line.WellFormed) :
    line.count = line.requests := by
  cases wellFormed with
  | blank => rfl
  | @value data object requests durations =>
      unfold K6Line.count K6Line.requests
      cases isRequests : isPointOf "http_reqs" data with
      | true =>
          obtain ⟨value, n, read, natural⟩ := requests isRequests
          simp [isRequests, read, natural, integralNumber?_of_naturalNumber natural,
            Except.toOption]
      | false => simp [isRequests]

theorem k6Count_wellFormed {lines : List K6Line} (wellFormed : ∀ line ∈ lines, line.WellFormed) :
    k6Count lines = k6Requests lines := by
  induction lines with
  | nil => rfl
  | cons line rest ih =>
      obtain ⟨here, later⟩ := List.forall_mem_cons.mp wellFormed
      have counted := ih later
      unfold k6Count k6Requests at counted ⊢
      rw [List.map_cons, List.sum_cons, List.map_cons, List.sum_cons, Nat.cast_add, here.count_eq,
        counted]

/-- The two tests of the loop body. -/
theorem addK6Point_eq {data : Json} (object : data.asDict?.isSome = true) (points : K6Points) :
    addK6Point points data =
      (if isPointOf "http_req_duration" data then
          (pointValue data).map fun value =>
            { points with durations := points.durations ++ [value] }
        else .ok points) >>= fun points =>
      if isPointOf "http_reqs" data then
        ((pointValue data).bind Json.toInt).map fun n =>
          { points with totalReqs := points.totalReqs + n }
      else .ok points := by
  obtain ⟨fields, found⟩ := Option.isSome_iff_exists.mp object
  unfold addK6Point isPointOf
  simp only [found]
  split
  · cases pointValue data with
    | error e => rfl
    | ok value =>
        cases value.toInt with
        | error e => rfl
        | ok n => rfl
  · cases pointValue data with
    | error e => rfl
    | ok value =>
        cases value.toInt with
        | error e => rfl
        | ok n => rfl

/-- A line that the loop takes for what it is: in format, or an object that is no JSON
and adds nothing. -/
inductive K6Line.Harmless : K6Line → Prop where
  | inFormat {line : K6Line} (inFormat : line.InFormat) : line.Harmless
  | extended {data : Json} (object : data.asDict?.isSome = true)
      (requests : isPointOf "http_reqs" data = true →
        ∃ value, pointValue data = .ok value ∧ value.toInt = .ok 0)
      (noDuration : isPointOf "http_req_duration" data = false) : Harmless (.extended data)

/-- A line adds what it records. -/
theorem addK6Point_inFormat {data : Json} (inFormat : (K6Line.value data).InFormat)
    (points : K6Points) :
    addK6Point points data =
      .ok ⟨points.durations ++ (K6Line.value data).durations,
        points.totalReqs + (K6Line.value data).count⟩ := by
  cases inFormat with
  | value object requests durations =>
      rw [addK6Point_eq object]
      unfold K6Line.durations K6Line.count
      cases isDuration : isPointOf "http_req_duration" data with
      | true =>
          obtain ⟨duration, q, read, number⟩ := durations isDuration
          cases isRequests : isPointOf "http_reqs" data with
          | true =>
              obtain ⟨value, i, read', integral⟩ := requests isRequests
              cases read.symm.trans read'
              simp [isDuration, isRequests, read, integral, toInt_of_integralNumber integral,
                Except.map, Except.bind, bind, Except.toOption]
          | false =>
              simp [isDuration, isRequests, read, Except.map, Except.bind, bind, Except.toOption]
      | false =>
          cases isRequests : isPointOf "http_reqs" data with
          | true =>
              obtain ⟨value, i, read, integral⟩ := requests isRequests
              simp [isDuration, isRequests, read, integral, toInt_of_integralNumber integral,
                Except.map, Except.bind, bind, Except.toOption]
          | false => simp [isDuration, isRequests, Except.bind, bind]

/-- A harmless object that is no JSON adds nothing. -/
theorem addK6Point_extended {data : Json} (object : data.asDict?.isSome = true)
    (requests : isPointOf "http_reqs" data = true →
      ∃ value, pointValue data = .ok value ∧ value.toInt = .ok 0)
    (noDuration : isPointOf "http_req_duration" data = false) (points : K6Points) :
    addK6Point points data = .ok points := by
  rw [addK6Point_eq object, noDuration]
  cases isRequests : isPointOf "http_reqs" data with
  | true =>
      obtain ⟨value, read, zero⟩ := requests isRequests
      simp [read, zero, Except.map, Except.bind, bind]
  | false => simp [Except.bind, bind]

theorem addK6Lines_harmless {lines : List K6Line} (harmless : ∀ line ∈ lines, line.Harmless)
    (points : K6Points) :
    addK6Lines points lines =
      .ok ⟨points.durations ++ lines.flatMap K6Line.durations,
        points.totalReqs + k6Count lines⟩ := by
  induction lines generalizing points with
  | nil => simp [addK6Lines, k6Count]
  | cons line rest ih =>
      obtain ⟨here, later⟩ := List.forall_mem_cons.mp harmless
      cases here with
      | inFormat inFormat =>
          cases inFormat with
          | blank | notJson =>
              rw [addK6Lines, ih later]
              simp [k6Count, K6Line.durations, K6Line.count]
          | value object requests durations =>
              rw [addK6Lines, addK6Point_inFormat (.value object requests durations)]
              show addK6Lines _ rest = _
              rw [ih later]
              simp only [List.flatMap_cons, List.append_assoc, k6Count, List.map_cons,
                List.sum_cons, Int.add_assoc]
      | extended object requests noDuration =>
          rw [addK6Lines, addK6Point_extended object requests noDuration]
          show addK6Lines _ rest = _
          rw [ih later]
          simp [k6Count, K6Line.durations, K6Line.count]

/-- The durations of harmless lines are finite numbers. -/
theorem durations_finite {lines : List K6Line} (harmless : ∀ line ∈ lines, line.Harmless)
    {value : Json} (mem : value ∈ lines.flatMap K6Line.durations) :
    ∃ q, number? value = some (.finite q) := by
  obtain ⟨line, inLines, here⟩ := List.mem_flatMap.mp mem
  have form := harmless line inLines
  cases form with
  | extended object requests noDuration => cases here
  | inFormat inFormat =>
      cases inFormat with
      | blank | notJson => cases here
      | @value data object requests durations =>
          unfold K6Line.durations at here
          dsimp only at here
          split at here
          · rename_i isDuration
            obtain ⟨duration, q, read, number⟩ := durations isDuration
            rw [read] at here
            cases List.mem_singleton.mp here
            exact ⟨q, number⟩
          · cases here

/-- The sum of finite numbers. -/
theorem sumFrom_finite {type : String} {values : List Json}
    (finite : ∀ value ∈ values, ∃ q, number? value = some (.finite q)) :
    ∃ q, sumFrom type values = .ok (.finite q) := by
  induction values generalizing type with
  | nil => exact ⟨0, rfl⟩
  | cons value rest ih =>
      obtain ⟨⟨q, number⟩, later⟩ := List.forall_mem_cons.mp finite
      obtain ⟨sum, summed⟩ := @ih (if value.typeName = "float" then "float" else type) later
      refine ⟨q + sum, ?_⟩
      rw [sumFrom, number]
      simp only [summed]
      rfl

/-- The items of k6's summary, for the sum of the durations. -/
def k6SummaryItems (points : K6Points) (sum : Double) : List (String × Json) :=
  let statistic (value : Json) : Json :=
    if points.durations.isEmpty then .float (.finite 0) else value
  [("avg_response_ms", statistic (.float (divNat sum points.durations.length))),
    ("p95_response_ms", statistic (percentile (sortNumbers points.durations) 95)),
    ("throughput_rps", .float (.finite (points.totalReqs / 60))),
    ("raw_report", .obj [("message", .str "k6 execution finished successfully"),
      ("total_requests", .int points.totalReqs)])]

theorem k6Summary_eq {points : K6Points} {sum : Double}
    (summed : sumNumbers points.durations = .ok sum) :
    k6Summary points = .ok (Dict.ofItems (k6SummaryItems points sum)) := by
  unfold k6Summary k6SummaryItems
  rw [summed]
  cases points.durations.isEmpty with
  | true => rfl
  | false => rfl

/-- The summary of a k6 file without harm. -/
theorem calculateK6Summary_harmless {lines : List K6Line}
    (harmless : ∀ line ∈ lines, line.Harmless) :
    ∃ sum, sumNumbers (lines.flatMap K6Line.durations) = .ok (.finite sum) ∧
      calculateK6Summary (some ⟨lines, none⟩) =
        Dict.ofItems (k6SummaryItems ⟨lines.flatMap K6Line.durations, k6Count lines⟩
          (.finite sum)) := by
  have points : readK6Points (some ⟨lines, none⟩) =
      .ok ⟨lines.flatMap K6Line.durations, k6Count lines⟩ := by
    unfold readK6Points
    simp [addK6Lines_harmless harmless, bind, Except.bind, pure, Except.pure]
  obtain ⟨sum, summed⟩ := sumFrom_finite fun value mem => durations_finite harmless mem
  refine ⟨sum, summed, ?_⟩
  have summary := @k6Summary_eq ⟨lines.flatMap K6Line.durations, k6Count lines⟩ _ summed
  unfold calculateK6Summary
  simp only [points, bind, Except.bind, summary]

/-- The summary of a well-formed k6 file. -/
theorem calculateK6Summary_wellFormed {lines : List K6Line}
    (wellFormed : ∀ line ∈ lines, line.WellFormed) :
    ∃ sum, sumNumbers (lines.flatMap K6Line.durations) = .ok (.finite sum) ∧
      calculateK6Summary (some ⟨lines, none⟩) =
        Dict.ofItems (k6SummaryItems ⟨lines.flatMap K6Line.durations, k6Requests lines⟩
          (.finite sum)) := by
  rw [← k6Count_wellFormed wellFormed]
  exact calculateK6Summary_harmless fun line mem => .inFormat (wellFormed line mem).inFormat

/-! ### JMeter -/

/-- A well-formed row of a JTL file. -/
structure WellFormedRow (row : Dict Json) : Prop where
  timeStamp : ∃ text ts, row.get? "timeStamp" = some (.str text) ∧ parseInt text = some ts
  elapsed : ∃ text ms, row.get? "elapsed" = some (.str text) ∧ parseInt text = some ms
  success : ∃ text, row.get? "success" = some (.str text)

/-- A start, a response time and a success. -/
abbrev JtlSample := Int × Int × Bool

section Jtl

variable [Runtime]

/-- A row that gives its three columns is read. -/
theorem jtlSample_ok {row : Dict Json} {timeStamp elapsed success : String} {ts ms : Int}
    (hasTimeStamp : row.get? "timeStamp" = some (.str timeStamp))
    (ts_eq : parseInt timeStamp = some ts) (hasElapsed : row.get? "elapsed" = some (.str elapsed))
    (ms_eq : parseInt elapsed = some ms) (hasSuccess : row.get? "success" = some (.str success)) :
    jtlSample row = .ok (ts, ms, decide (Runtime.lower success = "true")) := by
  simp [jtlSample, column, hasTimeStamp, hasElapsed, hasSuccess, Json.toInt, ts_eq, ms_eq, bind,
    Except.bind, pure, Except.pure]

theorem WellFormedRow.sample {row : Dict Json} (wellFormed : WellFormedRow row) :
    ∃ sample, jtlSample row = .ok sample := by
  obtain ⟨⟨_, ts, hasTimeStamp, ts_eq⟩, ⟨_, ms, hasElapsed, ms_eq⟩, _, hasSuccess⟩ := wellFormed
  exact ⟨_, jtlSample_ok hasTimeStamp ts_eq hasElapsed ms_eq hasSuccess⟩

/-- Rows that are all read are added one after another. -/
theorem addJtlRows_ok {rows : List (Dict Json)} {samples : List JtlSample}
    (read : List.Forall₂ (fun row sample => jtlSample row = .ok sample) rows samples)
    (stats : JtlStats) :
    addJtlRows stats rows =
      .ok (samples.foldl (fun stats (ts, elapsed, success) =>
        addJtlSample stats ts elapsed success) stats) := by
  induction read generalizing stats with
  | nil => rfl
  | cons here _ ih =>
      rw [addJtlRows, here]
      exact ih _

end Jtl

theorem responseTimes_foldl (samples : List JtlSample) (stats : JtlStats) :
    (samples.foldl (fun stats (ts, elapsed, success) => addJtlSample stats ts elapsed success)
      stats).responseTimes = stats.responseTimes ++ samples.map (·.2.1) := by
  induction samples generalizing stats with
  | nil => simp
  | cons sample rest ih =>
      rw [List.foldl_cons, ih]
      simp [addJtlSample]

/-- The statistics over samples from a fresh start. -/
def jtlStats (samples : List JtlSample) : JtlStats :=
  samples.foldl (fun stats (ts, elapsed, success) => addJtlSample stats ts elapsed success)
    ⟨[], 0, none, none⟩

section Jtl

variable [Runtime]

/-- The summary of a JTL file whose rows are all read. -/
theorem calculateJmeterSummary_eq {rows : List (Dict Json)} {samples : List JtlSample}
    (read : List.Forall₂ (fun row sample => jtlSample row = .ok sample) rows samples) :
    calculateJmeterSummary (some ⟨rows, none⟩) = jmeterSummary (jtlStats samples) := by
  unfold calculateJmeterSummary readJtlStats
  simp [addJtlRows_ok read, bind, Except.bind, pure, Except.pure, jtlStats]

/-- Well-formed rows give a sample each. -/
theorem exists_samples {rows : List (Dict Json)} (wellFormed : ∀ row ∈ rows, WellFormedRow row) :
    ∃ samples : List JtlSample,
      List.Forall₂ (fun row sample => jtlSample row = .ok sample) rows samples := by
  induction rows with
  | nil => exact ⟨[], .nil⟩
  | cons row rest ih =>
      obtain ⟨here, later⟩ := List.forall_mem_cons.mp wellFormed
      obtain ⟨sample, read⟩ := here.sample
      obtain ⟨samples, reads⟩ := ih later
      exact ⟨sample :: samples, .cons read reads⟩

/-- The summary of a well-formed JTL file, which counts its rows. -/
theorem calculateJmeterSummary_wellFormed {rows : List (Dict Json)}
    (wellFormed : ∀ row ∈ rows, WellFormedRow row) :
    ∃ stats, calculateJmeterSummary (some ⟨rows, none⟩) = jmeterSummary stats ∧
      stats.responseTimes.length = rows.length := by
  obtain ⟨samples, read⟩ := exists_samples wellFormed
  refine ⟨jtlStats samples, calculateJmeterSummary_eq read, ?_⟩
  rw [jtlStats, responseTimes_foldl, read.length_eq]
  simp

end Jtl

end PLoadtesting.Worker
