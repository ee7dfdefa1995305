import PLoadtesting.Worker.RunFiles
import Mathlib.Tactic.FieldSimp
import Mathlib.Tactic.Linarith

/-!
The two summarisers on one run. A list of request samples is written once as
k6's output and once as a JTL file, and the two summaries are compared.

The average and the 95th percentile always agree (`same_statistics`). The rates
do not: k6's summariser divides the count by 60, JMeter's by the time between
the first and the last start, and by nothing when one of these is zero. They
agree for runs of exactly one minute that do not touch the epoch
(`summarisersAgree_iff`).
-/

namespace PLoadtesting.Worker

open Keyed Python

/-! ### The files of a list of samples -/

/-- An integer whose text `int()` reads. -/
def IsReadable (i : Int) : Prop := (Nat.toDigits 10 i.natAbs).length ≤ 4300

instance (i : Int) : Decidable (IsReadable i) :=
  inferInstanceAs (Decidable ((Nat.toDigits 10 i.natAbs).length ≤ 4300))

/-- A request: its start and its response time in milliseconds, and the values
that the files hold besides. -/
structure RequestSample where
  start : Int
  elapsed : Int
  success : Bool
  time : Json
  tags : Json
  others : List (String × Json)
  startReadable : IsReadable start
  elapsedReadable : IsReadable elapsed

namespace RequestSample

/-- A point of k6's output. -/
def point (sample : RequestSample) (metric : String) (value : Json) : K6Line :=
  .value (.obj [("metric", .str metric), ("type", .str "Point"),
    ("data", .obj [("time", sample.time), ("value", value), ("tags", sample.tags)])])

/-- The two points of a request. -/
def k6Lines (sample : RequestSample) : List K6Line :=
  [sample.point "http_reqs" (.int 1), sample.point "http_req_duration" (.int sample.elapsed)]

/-- The row of a request. -/
def jtlRow (sample : RequestSample) : Dict Json :=
  Dict.ofItems (sample.others ++ [("timeStamp", .str (toString sample.start)),
    ("elapsed", .str (toString sample.elapsed)),
    ("success", .str (if sample.success then "true" else "false"))])

end RequestSample

def k6File (samples : List RequestSample) : OutputFile K6Line :=
  ⟨samples.flatMap RequestSample.k6Lines, none⟩

def jtlFile (samples : List RequestSample) : OutputFile (Dict Json) :=
  ⟨samples.map RequestSample.jtlRow, none⟩

/-- The first and the last start. -/
def firstStart (samples : List RequestSample) : Int :=
  ((samples.map RequestSample.start).min?).getD 0

def lastStart (samples : List RequestSample) : Int :=
  ((samples.map RequestSample.start).max?).getD 0

/-! ### What k6's summariser reads -/

section K6

theorem k6Lines_wellFormed (sample : RequestSample) :
    ∀ line ∈ sample.k6Lines, line.WellFormed := by
  intro line mem
  simp only [RequestSample.k6Lines, List.mem_cons, List.not_mem_nil, or_false] at mem
  rcases mem with rfl | rfl
  · exact .value rfl (fun _ => ⟨.int 1, 1, rfl, rfl⟩) fun _ => ⟨.int 1, 1, rfl, rfl⟩
  · refine .value rfl ?_ fun _ => ⟨.int sample.elapsed, sample.elapsed, rfl, rfl⟩
    intro isRequests
    cases isRequests

/-- One request and one duration for each sample. -/
theorem k6File_reads (samples : List RequestSample) :
    k6Requests (k6File samples).records = samples.length ∧
      (k6File samples).records.flatMap K6Line.durations =
        (samples.map RequestSample.elapsed).map Json.int := by
  induction samples with
  | nil => exact ⟨rfl, rfl⟩
  | cons sample rest ih =>
      obtain ⟨count, durations⟩ := ih
      have lines : (k6File (sample :: rest)).records = sample.k6Lines ++ (k6File rest).records :=
        List.flatMap_cons
      have requests : (sample.k6Lines.map K6Line.requests).sum = 1 := rfl
      have duration : sample.k6Lines.flatMap K6Line.durations = [.int sample.elapsed] := rfl
      unfold k6Requests at count ⊢
      rw [lines, List.map_append, List.sum_append, requests, count, List.flatMap_append, duration,
        durations]
      exact ⟨Nat.add_comm 1 rest.length, rfl⟩

theorem sumNumbers_ints (values : List Int) :
    sumNumbers (values.map Json.int) = .ok (.finite (values.sum : Int)) := by
  induction values with
  | nil => rfl
  | cons value rest ih =>
      show (do return addDouble (.finite value) (← sumNumbers (rest.map Json.int))) = _
      rw [ih, List.sum_cons, Int.cast_add]
      rfl

/-- Both summarisers sort integers the same way. -/
theorem sortNumbers_ints (values : List Int) :
    sortNumbers (values.map Json.int) = (values.mergeSort (· ≤ ·)).map Json.int := by
  refine (List.map_mergeSort ?_).symm
  intro a _ b _
  have compared : ((b : Rat) < a) ↔ b < a := Int.cast_lt
  show decide (a ≤ b) = !decide ((b : Rat) < a)
  rw [decide_eq_decide.mpr compared, ← decide_not]
  exact decide_eq_decide.mpr Int.not_lt.symm

end K6

/-! ### What JMeter's summariser reads -/

section Jmeter

theorem jtlSample_row [Runtime] (sample : RequestSample) :
    ∃ success, jtlSample sample.jtlRow = .ok (sample.start, sample.elapsed, success) := by
  have column (key : String) : sample.jtlRow.get? key = _ := Dict.get?_ofItems _
  have timeStamp : sample.jtlRow.get? "timeStamp" = some (.str (toString sample.start)) := by
    simp [column]
  have elapsed : sample.jtlRow.get? "elapsed" = some (.str (toString sample.elapsed)) := by
    simp [column]
  have success : sample.jtlRow.get? "success" =
      some (.str (if sample.success then "true" else "false")) := by
    simp [column]
  exact ⟨_, jtlSample_ok timeStamp (parseInt_toString sample.startReadable) elapsed
    (parseInt_toString sample.elapsedReadable) success⟩

theorem jtlFile_reads [Runtime] (samples : List RequestSample) :
    ∃ read : List JtlSample,
      List.Forall₂ (fun row sample => jtlSample row = .ok sample) (jtlFile samples).records read ∧
        read.map (·.1) = samples.map RequestSample.start ∧
        read.map (·.2.1) = samples.map RequestSample.elapsed := by
  induction samples with
  | nil => exact ⟨[], .nil, rfl, rfl⟩
  | cons sample rest ih =>
      obtain ⟨read, reads, starts, times⟩ := ih
      obtain ⟨success, here⟩ := jtlSample_row sample
      refine ⟨(sample.start, sample.elapsed, success) :: read, .cons here reads, ?_, ?_⟩
      · rw [List.map_cons, List.map_cons, starts]
      · rw [List.map_cons, List.map_cons, times]

/-- The first start and the last start that the statistics keep. -/
theorem foldl_startTime (samples : List JtlSample) (stats : JtlStats) {start : Int}
    (started : stats.startTime = some start) :
    (samples.foldl (fun stats (ts, elapsed, success) => addJtlSample stats ts elapsed success)
      stats).startTime = some ((samples.map (·.1)).foldl min start) := by
  induction samples generalizing stats start with
  | nil => exact started
  | cons sample rest ih =>
      rw [List.foldl_cons, List.map_cons, List.foldl_cons]
      exact ih _ (by simp [addJtlSample, started])

theorem foldl_endTime (samples : List JtlSample) (stats : JtlStats) {start : Int}
    (ended : stats.endTime = some start) :
    (samples.foldl (fun stats (ts, elapsed, success) => addJtlSample stats ts elapsed success)
      stats).endTime = some ((samples.map (·.1)).foldl max start) := by
  induction samples generalizing stats start with
  | nil => exact ended
  | cons sample rest ih =>
      rw [List.foldl_cons, List.map_cons, List.foldl_cons]
      exact ih _ (by simp [addJtlSample, ended])

theorem jtlStats_startTime (samples : List JtlSample) :
    (jtlStats samples).startTime = (samples.map (·.1)).min? := by
  cases samples with
  | nil => rfl
  | cons sample rest => exact foldl_startTime rest _ rfl

theorem jtlStats_endTime (samples : List JtlSample) :
    (jtlStats samples).endTime = (samples.map (·.1)).max? := by
  cases samples with
  | nil => rfl
  | cons sample rest => exact foldl_endTime rest _ rfl

end Jmeter

/-! ### The two summaries -/

/-- A metric of a summary, as a number. -/
def metric (summary : Dict Json) (key : String) : Option Double :=
  (summary.get? key).bind number?

section Summaries

variable [Runtime]

def k6Metric (samples : List RequestSample) (key : String) : Option Double :=
  metric (calculateK6Summary (some (k6File samples))) key

def jmeterMetric (samples : List RequestSample) (key : String) : Option Double :=
  metric (calculateJmeterSummary (some (jtlFile samples))) key

omit [Runtime] in
theorem k6Metrics_eq {samples : List RequestSample} (nonempty : samples ≠ []) :
    let times := samples.map RequestSample.elapsed
    k6Metric samples "avg_response_ms" = some (.finite ((times.sum : Int) / samples.length)) ∧
      k6Metric samples "p95_response_ms" =
        number? (percentile ((times.mergeSort (· ≤ ·)).map Json.int) 95) ∧
      k6Metric samples "throughput_rps" = some (.finite (samples.length / 60)) := by
  intro times
  have wellFormed : ∀ line ∈ (k6File samples).records, line.WellFormed := by
    intro line mem
    obtain ⟨sample, _, here⟩ := List.mem_flatMap.mp mem
    exact k6Lines_wellFormed sample line here
  obtain ⟨count, durations⟩ := k6File_reads samples
  obtain ⟨sum, summed, summary⟩ := calculateK6Summary_wellFormed wellFormed
  rw [durations] at summed summary
  rw [count] at summary
  cases (sumNumbers_ints times).symm.trans summed
  have notEmpty : (times.map Json.int).isEmpty = false := by
    simp [times, nonempty]
  have length : (times.map Json.int).length = samples.length := by
    simp [times]
  have read (key : String) : k6Metric samples key = ((Dict.ofItems (k6SummaryItems
      ⟨times.map Json.int, samples.length⟩ (.finite (times.sum : Int)))).get? key).bind number? :=
    congrArg (fun summary => metric summary key) summary
  refine ⟨?_, ?_, ?_⟩
  · rw [read, Dict.get?_ofItems]
    simp [k6SummaryItems, notEmpty, length, number?, divNat]
  · rw [read, Dict.get?_ofItems, ← sortNumbers_ints]
    simp [k6SummaryItems, notEmpty]
  · rw [read, Dict.get?_ofItems]
    simp [k6SummaryItems, number?]

theorem jmeterMetrics_eq {samples : List RequestSample} (nonempty : samples ≠ []) :
    let times := samples.map RequestSample.elapsed
    jmeterMetric samples "avg_response_ms" =
        some (.finite ((times.sum : Int) / samples.length)) ∧
      jmeterMetric samples "p95_response_ms" =
        number? (percentile ((times.mergeSort (· ≤ ·)).map Json.int) 95) ∧
      jmeterMetric samples "throughput_rps" = some (.finite (throughput samples.length
        (samples.map RequestSample.start).min? (samples.map RequestSample.start).max?)) := by
  intro times
  obtain ⟨rows, reads, starts, elapsed⟩ := jtlFile_reads samples
  have responses : (jtlStats rows).responseTimes = times := by
    rw [jtlStats, responseTimes_foldl, elapsed]
    rfl
  have first : (jtlStats rows).startTime = (samples.map RequestSample.start).min? := by
    rw [jtlStats_startTime, starts]
  have last : (jtlStats rows).endTime = (samples.map RequestSample.start).max? := by
    rw [jtlStats_endTime, starts]
  have notEmpty : times.isEmpty = false := by
    simp [times, nonempty]
  have length : times.length = samples.length := by
    simp [times]
  have read (key : String) : jmeterMetric samples key =
      ((jmeterSummary (jtlStats rows)).get? key).bind number? :=
    congrArg (fun summary => metric summary key) (calculateJmeterSummary_eq reads)
  refine ⟨?_, ?_, ?_⟩
  · rw [read]
    simp [jmeterSummary, Dict.get?_ofItems, responses, notEmpty, length, number?]
  · rw [read]
    simp [jmeterSummary, Dict.get?_ofItems, responses, notEmpty]
  · rw [read]
    simp [jmeterSummary, Dict.get?_ofItems, responses, first, last, length, number?]

/-- The average and the percentile agree for every run. -/
theorem same_statistics {samples : List RequestSample} (nonempty : samples ≠ []) :
    k6Metric samples "avg_response_ms" = jmeterMetric samples "avg_response_ms" ∧
      k6Metric samples "p95_response_ms" = jmeterMetric samples "p95_response_ms" := by
  obtain ⟨avg, p95, _⟩ := k6Metrics_eq nonempty
  obtain ⟨avg', p95', _⟩ := jmeterMetrics_eq nonempty
  exact ⟨avg.trans avg'.symm, p95.trans p95'.symm⟩

omit [Runtime] in
theorem starts_eq {samples : List RequestSample} (nonempty : samples ≠ []) :
    (samples.map RequestSample.start).min? = some (firstStart samples) ∧
      (samples.map RequestSample.start).max? = some (lastStart samples) := by
  cases samples with
  | nil => exact absurd rfl nonempty
  | cons sample rest => exact ⟨rfl, rfl⟩

/-- The two summaries agree, and their rate is the count over the time between
the first and the last start, in seconds. -/
structure SummarisersAgree (samples : List RequestSample) : Prop where
  avg : k6Metric samples "avg_response_ms" = jmeterMetric samples "avg_response_ms"
  p95 : k6Metric samples "p95_response_ms" = jmeterMetric samples "p95_response_ms"
  throughput : k6Metric samples "throughput_rps" = jmeterMetric samples "throughput_rps"
  rate : k6Metric samples "throughput_rps" = some (.finite
    (samples.length / ((lastStart samples - firstStart samples : Int) / 1000)))

omit [Runtime] in
/-- A count over a minute is a count over another span if that is a minute. -/
theorem perMinute_iff {n : Nat} (positive : 0 < n) {span : Int} :
    ((n : Rat) / 60 = n / ((span : Rat) / 1000)) ↔ span = 60000 := by
  have nonzero : (n : Rat) ≠ 0 := by
    exact_mod_cast positive.ne'
  constructor
  · intro same
    rw [div_eq_mul_inv, div_eq_mul_inv (n : Rat)] at same
    have minute : (60 : Rat) = span / 1000 := inv_injective (mul_left_cancel₀ nonzero same)
    have : (span : Rat) = 60000 := by linarith
    exact_mod_cast this
  · rintro rfl
    norm_num

/-- The summarisers agree on a run if and only if it spans exactly a minute and
neither starts nor ends at the epoch. -/
theorem summarisersAgree_iff {samples : List RequestSample} (nonempty : samples ≠ []) :
    SummarisersAgree samples ↔
      firstStart samples ≠ 0 ∧ lastStart samples ≠ 0 ∧
        lastStart samples - firstStart samples = 60000 := by
  obtain ⟨_, _, k6Rate⟩ := k6Metrics_eq nonempty
  obtain ⟨_, _, jmeterRate⟩ := jmeterMetrics_eq nonempty
  obtain ⟨first, last⟩ := starts_eq nonempty
  have positive : 0 < samples.length := List.length_pos_iff.mpr nonempty
  rw [first, last] at jmeterRate
  constructor
  · intro agree
    have same := agree.throughput
    rw [k6Rate, jmeterRate] at same
    simp only [Option.some.injEq, Double.finite.injEq, throughput] at same
    split at same
    · rename_i measured
      exact ⟨measured.1, measured.2.1, (perMinute_iff positive).mp same⟩
    · have nonzero : (samples.length : Rat) ≠ 0 := by
        exact_mod_cast positive.ne'
      exact absurd same (div_ne_zero nonzero (by norm_num))
  · rintro ⟨started, ended, minute⟩
    have rate : (samples.length : Rat) / 60 =
        samples.length / ((lastStart samples - firstStart samples : Int) / 1000) :=
      (perMinute_iff positive).mpr minute
    have measured : throughput samples.length (some (firstStart samples))
        (some (lastStart samples)) = samples.length / 60 := by
      rw [rate]
      exact if_pos ⟨started, ended, by omega⟩
    obtain ⟨avg, p95⟩ := same_statistics nonempty
    refine ⟨avg, p95, ?_, ?_⟩
    · rw [k6Rate, jmeterRate, measured]
    · rw [k6Rate, rate]

end Summaries

/-! ### Two runs -/

/-- A request with a readable start and a response time of 12 ms. -/
def sampleAt (start : Int) (readable : IsReadable start) : RequestSample where
  start
  elapsed := 12
  success := true
  time := .null
  tags := .obj []
  others := [("label", .str "echo")]
  startReadable := readable
  elapsedReadable := by decide

/-- Two requests, one minute apart. -/
def minuteRun : List RequestSample :=
  [sampleAt 1700000000000 (by decide), sampleAt 1700000060000 (by decide)]

/-- Two requests, half a minute apart. -/
def halfMinuteRun : List RequestSample :=
  [sampleAt 1700000000000 (by decide), sampleAt 1700000030000 (by decide)]

theorem minuteRun_agrees : @SummarisersAgree asciiRuntime minuteRun := by
  let _ := asciiRuntime
  exact (summarisersAgree_iff (List.cons_ne_nil _ _)).mpr ⟨by decide, by decide, by decide⟩

/-- k6's rate is 2 in 60 seconds, JMeter's 2 in 30. -/
theorem halfMinuteRun_disagrees : ¬ ∀ samples : List RequestSample,
    samples ≠ [] → firstStart samples ≠ lastStart samples →
      @SummarisersAgree asciiRuntime samples := by
  let _ := asciiRuntime
  intro every
  have same := (every halfMinuteRun (List.cons_ne_nil _ _) (by decide)).throughput
  revert same
  decide +kernel

end PLoadtesting.Worker
