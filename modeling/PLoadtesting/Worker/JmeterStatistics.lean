import PLoadtesting.Lib.OrderStatistics
import PLoadtesting.Worker.Agreement
import PLoadtesting.Worker.JtlDamage

/-!
What the figures of JMeter's summary say about the rows
(`calculate_jmeter_summary` in `workers/agent.py`).

For well-formed rows with positive timestamps the counts, the average, the
percentiles and the rate are what their names say (`calculateJmeterSummary_figures`),
and the order of the rows does not matter (`calculateJmeterSummary_perm`). A
percentile is the element at the index `n * q / 100` of the sorted times, at
most the last one.
-/

namespace PLoadtesting.Worker

open Keyed Python OrderStatistics

/-! ### What a row records -/

/-- The start, the response time and the success of a row. -/
def rowStart (row : Dict Json) : Int := (intColumn? row "timeStamp").getD 0

def rowElapsed (row : Dict Json) : Int := (intColumn? row "elapsed").getD 0

def rowSucceeded [Runtime] (row : Dict Json) : Bool :=
  (textColumn? row "success").any fun text => Runtime.lower text = "true"

section Rows

variable [Runtime]

def rowSample (row : Dict Json) : JtlSample := (rowStart row, rowElapsed row, rowSucceeded row)

theorem jtlSample_wellFormed {row : Dict Json} (wellFormed : WellFormedRow row) :
    jtlSample row = .ok (rowSample row) := by
  obtain ⟨⟨timeStamp, ts, hasTimeStamp, ts_eq⟩, ⟨elapsed, ms, hasElapsed, ms_eq⟩, success,
    hasSuccess⟩ := wellFormed
  rw [jtlSample_ok hasTimeStamp ts_eq hasElapsed ms_eq hasSuccess]
  simp [rowSample, rowStart, rowElapsed, rowSucceeded, intColumn?, textColumn?, hasTimeStamp,
    hasElapsed, hasSuccess, ts_eq, ms_eq]

/-- The summary of well-formed rows. -/
theorem calculateJmeterSummary_rows {rows : List (Dict Json)}
    (wellFormed : ∀ row ∈ rows, WellFormedRow row) :
    calculateJmeterSummary (some ⟨rows, none⟩) =
      jmeterSummary (jtlStats (rows.map rowSample)) := by
  refine calculateJmeterSummary_eq ?_
  rw [List.forall₂_map_right_iff]
  exact List.forall₂_same.mpr fun row mem => jtlSample_wellFormed (wellFormed row mem)

end Rows

theorem failedReqs_foldl (samples : List JtlSample) (stats : JtlStats) :
    (samples.foldl (fun stats (ts, elapsed, success) => addJtlSample stats ts elapsed success)
      stats).failedReqs = stats.failedReqs + samples.countP fun sample => !sample.2.2 := by
  induction samples generalizing stats with
  | nil => rfl
  | cons sample rest ih =>
      obtain ⟨ts, elapsed, success⟩ := sample
      rw [List.foldl_cons, ih, List.countP_cons]
      cases success with
      | true => simp [addJtlSample]
      | false => simp [addJtlSample, Nat.add_assoc, Nat.add_comm 1]

theorem jtlStats_failedReqs (samples : List JtlSample) :
    (jtlStats samples).failedReqs = samples.countP fun sample => !sample.2.2 := by
  rw [jtlStats, failedReqs_foldl, Nat.zero_add]

theorem jtlStats_responseTimes (samples : List JtlSample) :
    (jtlStats samples).responseTimes = samples.map (·.2.1) :=
  responseTimes_foldl samples _

/-! ### The order of the rows -/

/-- Statistics of the same times in any order. -/
theorem jmeterSummary_perm {stats stats' : JtlStats}
    (times : stats.responseTimes.Perm stats'.responseTimes)
    (failed : stats.failedReqs = stats'.failedReqs) (start : stats.startTime = stats'.startTime)
    (last : stats.endTime = stats'.endTime) : jmeterSummary stats = jmeterSummary stats' := by
  have empty : stats.responseTimes.isEmpty = stats'.responseTimes.isEmpty := by
    rw [Bool.eq_iff_iff, List.isEmpty_iff_length_eq_zero, List.isEmpty_iff_length_eq_zero,
      times.length_eq]
  unfold jmeterSummary
  rw [mergeSort_eq_of_perm times, times.length_eq, times.sum_eq, failed, start, last, empty]

section Rows

variable [Runtime]

/-- Permuting the rows changes nothing. -/
theorem calculateJmeterSummary_perm {rows rows' : List (Dict Json)}
    (wellFormed : ∀ row ∈ rows, WellFormedRow row) (perm : rows'.Perm rows) :
    calculateJmeterSummary (some ⟨rows', none⟩) = calculateJmeterSummary (some ⟨rows, none⟩) := by
  have samples := perm.map rowSample
  rw [calculateJmeterSummary_rows wellFormed,
    calculateJmeterSummary_rows fun row mem => wellFormed row (perm.mem_iff.mp mem)]
  refine jmeterSummary_perm ?_ ?_ ?_ ?_
  · rw [jtlStats_responseTimes, jtlStats_responseTimes]
    exact samples.map _
  · rw [jtlStats_failedReqs, jtlStats_failedReqs]
    exact samples.countP_eq _
  · rw [jtlStats_startTime, jtlStats_startTime]
    exact min?_eq_of_perm (samples.map _)
  · rw [jtlStats_endTime, jtlStats_endTime]
    exact max?_eq_of_perm (samples.map _)

end Rows

/-! ### The figures -/

/-- The figures of JMeter's summary. -/
structure JmeterFigures where
  totalRequests : Int
  failedRequests : Int
  errorRatePct : Rat
  avgResponseMs : Rat
  p90ResponseMs : Int
  p95ResponseMs : Int
  p99ResponseMs : Int
  maxResponseMs : Int
  throughputRps : Rat

/-- An integer figure of a summary. -/
def intFigure? (summary : Dict Json) (key : String) : Option Int :=
  match summary.get? key with
  | some (.int i) => some i
  | _ => none

/-- A float figure of a summary. -/
def ratFigure? (summary : Dict Json) (key : String) : Option Rat :=
  match summary.get? key with
  | some (.float (.finite q)) => some q
  | _ => none

def jmeterFigures? (summary : Dict Json) : Option JmeterFigures := do
  return {
    totalRequests := ← intFigure? summary "total_requests"
    failedRequests := ← intFigure? summary "failed_requests"
    errorRatePct := ← ratFigure? summary "error_rate_pct"
    avgResponseMs := ← ratFigure? summary "avg_response_ms"
    p90ResponseMs := ← intFigure? summary "p90_response_ms"
    p95ResponseMs := ← intFigure? summary "p95_response_ms"
    p99ResponseMs := ← intFigure? summary "p99_response_ms"
    maxResponseMs := ← intFigure? summary "max_response_ms"
    throughputRps := ← ratFigure? summary "throughput_rps" }

/-- One of the times, and at least `q` percent of them are at most it. -/
structure IsPercentile (times : List Int) (q : Nat) (value : Int) : Prop where
  mem : value ∈ times
  share : times.length * q ≤ 100 * times.countP fun time => time ≤ value

/-- The figures are those of the rows. -/
structure JmeterFigures.Describe [Runtime] (figures : JmeterFigures) (rows : List (Dict Json)) :
    Prop where
  total : figures.totalRequests = rows.length
  failed : figures.failedRequests = rows.countP fun row => !rowSucceeded row
  errorRate : 0 ≤ figures.errorRatePct ∧ figures.errorRatePct ≤ 100
  least : ∃ least ∈ rows.map rowElapsed, (∀ time ∈ rows.map rowElapsed, least ≤ time) ∧
    (least : Rat) ≤ figures.avgResponseMs
  avg : figures.avgResponseMs ≤ figures.maxResponseMs
  p90 : IsPercentile (rows.map rowElapsed) 90 figures.p90ResponseMs
  p95 : IsPercentile (rows.map rowElapsed) 95 figures.p95ResponseMs
  p99 : IsPercentile (rows.map rowElapsed) 99 figures.p99ResponseMs
  ordered : figures.p90ResponseMs ≤ figures.p95ResponseMs ∧
    figures.p95ResponseMs ≤ figures.p99ResponseMs ∧ figures.p99ResponseMs ≤ figures.maxResponseMs
  greatest : figures.maxResponseMs ∈ rows.map rowElapsed ∧
    ∀ time ∈ rows.map rowElapsed, time ≤ figures.maxResponseMs
  throughput : ∃ first ∈ rows.map rowStart, ∃ last ∈ rows.map rowStart,
    (∀ start ∈ rows.map rowStart, first ≤ start ∧ start ≤ last) ∧
      figures.throughputRps =
        if last ≠ first then (rows.length * 1000 : Rat) / (last - first : Int) else 0

/-! #### The figures of the statistics -/

section Statistics

variable {stats : JtlStats}

/-- A percentile that the summary reads off the sorted times. -/
theorem percentile_ints {times : List Int} {q : Nat} {value : Int}
    (found : percentileOf times q = some value) :
    percentile ((times.mergeSort (· ≤ ·)).map Json.int) q = .int value := by
  unfold percentileOf percentileIndex at found
  rw [percentile, List.getElem?_map, List.length_map, List.length_mergeSort, found]
  rfl

/-- The figures of statistics over at least one time. -/
theorem jmeterFigures_jmeterSummary {p90 p95 p99 greatest : Int}
    (is90 : percentileOf stats.responseTimes 90 = some p90)
    (is95 : percentileOf stats.responseTimes 95 = some p95)
    (is99 : percentileOf stats.responseTimes 99 = some p99)
    (isMax : percentileOf stats.responseTimes 100 = some greatest) :
    jmeterFigures? (jmeterSummary stats) = some {
      totalRequests := stats.responseTimes.length
      failedRequests := stats.failedReqs
      errorRatePct := stats.failedReqs / stats.responseTimes.length * 100
      avgResponseMs := (stats.responseTimes.sum : Int) / stats.responseTimes.length
      p90ResponseMs := p90
      p95ResponseMs := p95
      p99ResponseMs := p99
      maxResponseMs := greatest
      throughputRps := throughput stats.responseTimes.length stats.startTime stats.endTime } := by
  have nonempty : stats.responseTimes ≠ [] := List.ne_nil_of_mem (percentileOf_mem is90)
  have positive : 0 < stats.responseTimes.length := List.length_pos_iff.mpr nonempty
  rw [percentileOf_hundred] at isMax
  simp [jmeterFigures?, intFigure?, ratFigure?, jmeterSummary, Dict.get?_ofItems, nonempty,
    positive, percentile_ints is90, percentile_ints is95, percentile_ints is99,
    isMax]

end Statistics

/-- The share of failed requests is a percentage. -/
theorem errorRate_bounds {failed total : Nat} (le : failed ≤ total) (positive : 0 < total) :
    0 ≤ (failed / total * 100 : Rat) ∧ (failed / total * 100 : Rat) ≤ 100 := by
  have total_pos : (0 : Rat) < total := by
    exact_mod_cast positive
  have failed_le : (failed : Rat) ≤ total := by
    exact_mod_cast le
  refine ⟨mul_nonneg (div_nonneg failed.cast_nonneg total_pos.le) (by norm_num), ?_⟩
  have share : (failed / total : Rat) ≤ 1 := (div_le_one₀ total_pos).mpr failed_le
  linarith

/-- The mean of integers. -/
theorem intMean_bounds {times : List Int} (nonempty : times ≠ []) {least greatest : Int}
    (above : ∀ time ∈ times, least ≤ time) (below : ∀ time ∈ times, time ≤ greatest) :
    (least : Rat) ≤ (times.sum : Int) / times.length ∧
      ((times.sum : Int) / times.length : Rat) ≤ greatest := by
  have bounds := @mean_mem_bounds (times.map fun (time : Int) => (time : Rat))
    (by simpa using nonempty) least greatest (by simpa using above) (by simpa using below)
  have sum : ((times.sum : Int) : Rat) = (times.map fun (time : Int) => (time : Rat)).sum :=
    map_list_sum (Int.castRingHom Rat) times
  rwa [List.length_map, ← sum] at bounds

/-- The rate of a run with positive starts. -/
theorem throughput_between {starts : List Int} (nonempty : starts ≠ [])
    (positive : ∀ start ∈ starts, 0 < start) (total : Nat) :
    ∃ first ∈ starts, ∃ last ∈ starts, (∀ start ∈ starts, first ≤ start ∧ start ≤ last) ∧
      throughput total starts.min? starts.max? =
        if last ≠ first then (total * 1000 : Rat) / (last - first : Int) else 0 := by
  obtain ⟨first, isFirst, first_mem, first_le⟩ := exists_min? nonempty
  obtain ⟨last, isLast, last_mem, le_last⟩ := exists_max? nonempty
  refine ⟨first, first_mem, last, last_mem,
    fun start mem => ⟨first_le start mem, le_last start mem⟩, ?_⟩
  have first_pos := positive first first_mem
  have last_pos := positive last last_mem
  have ordered := first_le last last_mem
  rw [isFirst, isLast, throughput]
  by_cases differ : last = first
  · rw [if_neg (by omega), if_neg (not_not.mpr differ)]
  · rw [if_pos ⟨by omega, by omega, by omega⟩, if_pos differ, div_div_eq_mul_div]

section Rows

variable [Runtime]

/-- The figures of well-formed rows with positive timestamps are those of the
rows, whatever their order. -/
theorem calculateJmeterSummary_figures {rows : List (Dict Json)} (nonempty : rows ≠ [])
    (wellFormed : ∀ row ∈ rows, WellFormedRow row) (positive : ∀ row ∈ rows, 0 < rowStart row) :
    (∃ figures, jmeterFigures? (calculateJmeterSummary (some ⟨rows, none⟩)) = some figures ∧
      figures.Describe rows) ∧
      ∀ rows', rows'.Perm rows → calculateJmeterSummary (some ⟨rows', none⟩) =
        calculateJmeterSummary (some ⟨rows, none⟩) := by
  refine ⟨?_, fun rows' perm => calculateJmeterSummary_perm wellFormed perm⟩
  have times : (jtlStats (rows.map rowSample)).responseTimes = rows.map rowElapsed := by
    rw [jtlStats_responseTimes, List.map_map]
    rfl
  have starts : (rows.map rowSample).map (·.1) = rows.map rowStart := List.map_map
  have failed : (jtlStats (rows.map rowSample)).failedReqs =
      rows.countP fun row => !rowSucceeded row := by
    rw [jtlStats_failedReqs, List.countP_map]
    rfl
  have some_time : rows.map rowElapsed ≠ [] := by simpa using nonempty
  obtain ⟨p90, is90⟩ := exists_percentileOf some_time 90
  obtain ⟨p95, is95⟩ := exists_percentileOf some_time 95
  obtain ⟨p99, is99⟩ := exists_percentileOf some_time 99
  obtain ⟨greatest, isMax⟩ := exists_percentileOf some_time 100
  have figures := @jmeterFigures_jmeterSummary (jtlStats (rows.map rowSample)) p90 p95 p99 greatest
  rw [times, failed, jtlStats_startTime, jtlStats_endTime, starts] at figures
  rw [calculateJmeterSummary_rows wellFormed]
  refine ⟨_, figures is90 is95 is99 isMax, ?_⟩
  obtain ⟨least, _, least_mem, least_le⟩ := exists_min? some_time
  have le_greatest := le_percentileOf_hundred isMax
  have mean := intMean_bounds some_time least_le le_greatest
  exact {
    total := by simp
    failed := rfl
    errorRate := by
      rw [List.length_map]
      exact errorRate_bounds List.countP_le_length (List.length_pos_iff.mpr nonempty)
    least := ⟨least, least_mem, least_le, mean.1⟩
    avg := mean.2
    p90 := ⟨percentileOf_mem is90, percentileOf_share (by decide) is90⟩
    p95 := ⟨percentileOf_mem is95, percentileOf_share (by decide) is95⟩
    p99 := ⟨percentileOf_mem is99, percentileOf_share (by decide) is99⟩
    ordered := ⟨percentileOf_mono (by decide) is90 is95, percentileOf_mono (by decide) is95 is99,
      percentileOf_mono (by decide) is99 isMax⟩
    greatest := ⟨percentileOf_mem isMax, le_greatest⟩
    throughput := by
      rw [List.length_map]
      exact throughput_between (by simpa using nonempty) (by simpa using positive) rows.length }

end Rows

/-- Two requests, a second apart; the second one fails. -/
def twoRows : List (Dict Json) :=
  [dictRow ["timeStamp", "elapsed", "success"] ["1700000000000", "12", "TRUE"],
    dictRow ["timeStamp", "elapsed", "success"] ["1700000001000", "15", "false"]]

theorem calculateJmeterSummary_figures_twoRows :
    (∃ figures, jmeterFigures? (@calculateJmeterSummary asciiRuntime (some ⟨twoRows, none⟩)) =
      some figures ∧ @JmeterFigures.Describe asciiRuntime figures twoRows) ∧
      ∀ rows', rows'.Perm twoRows → @calculateJmeterSummary asciiRuntime (some ⟨rows', none⟩) =
        @calculateJmeterSummary asciiRuntime (some ⟨twoRows, none⟩) := by
  let _ := asciiRuntime
  refine calculateJmeterSummary_figures (List.cons_ne_nil _ _) ?_ ?_
  · exact fun row mem => isWellFormedRow_iff.mp (List.all_eq_true.mp (by decide) row mem)
  · decide

end PLoadtesting.Worker
