import PLoadtesting.Lib.OrderStatistics
import PLoadtesting.Worker.RunFiles

/-!
What the figures of k6's summary say about the lines (`calculate_k6_summary` in
`workers/agent.py`).

A file may hold lines that are blank, no JSON, or in k6's format, and its bytes may
end inside a character. Its figures are those of the complete points of
`http_req_duration` and `http_reqs`, in any order and whatever the other lines are, if
and only if it can be read to the end and the loop takes every line for what it is
(`calculateK6Summary_correct_iff`): it is prepared for `json.JSONDecodeError` only,
and `json.loads` also refuses with other exceptions and reads constants that are no
JSON. An integer and a float of the same value are one number here; where both occur,
the order of the lines decides which of them the summary shows.
-/

namespace PLoadtesting.Worker

open Keyed Python OrderStatistics

/-! ### What a file records -/

/-- A finite number. -/
def finite? (value : Json) : Option Rat :=
  match number? value with
  | some (.finite q) => some q
  | _ => none

@[simp] theorem finite?_float (q : Rat) : finite? (.float (.finite q)) = some q := rfl

/-- The response times of a file. -/
def k6Durations (lines : List K6Line) : List Rat :=
  (lines.flatMap K6Line.durations).filterMap finite?

/-- The integer of a point of `http_reqs`. -/
def K6Line.count? : K6Line → Option Int
  | .value data =>
      if isPointOf "http_reqs" data then (pointValue data).toOption.bind integralNumber? else none
  | _ => none

/-- The counts of a file. -/
def k6Counts (lines : List K6Line) : List Int := lines.filterMap K6Line.count?

/-- A point of one of the two metrics. The other lines are noise. -/
def K6Line.isMetric : K6Line → Bool
  | .value data => isPointOf "http_req_duration" data || isPointOf "http_reqs" data
  | _ => false

theorem K6Line.count_eq_getD (line : K6Line) : line.count = line.count?.getD 0 := by
  cases line with
  | value data =>
      by_cases isRequests : isPointOf "http_reqs" data = true
      · simp [count, count?, isRequests]
      · simp [count, count?, isRequests]
  | _ => rfl

theorem k6Count_eq_sum (lines : List K6Line) : k6Count lines = (k6Counts lines).sum := by
  induction lines with
  | nil => rfl
  | cons line rest ih =>
      have total : k6Count (line :: rest) = line.count + k6Count rest := by
        rw [k6Count, List.map_cons, List.sum_cons, k6Count]
      rw [total, ih, line.count_eq_getD]
      cases counted : line.count? with
      | none => simp [k6Counts, counted]
      | some i => simp [k6Counts, counted]

/-- Noise records nothing. -/
theorem K6Line.durations_noise {line : K6Line} (noise : ¬ line.isMetric = true) :
    line.durations = [] := by
  cases line with
  | value data =>
      rw [isMetric, Bool.or_eq_true, not_or] at noise
      exact if_neg noise.1
  | _ => rfl

theorem K6Line.count?_noise {line : K6Line} (noise : ¬ line.isMetric = true) :
    line.count? = none := by
  cases line with
  | value data =>
      rw [isMetric, Bool.or_eq_true, not_or] at noise
      exact if_neg noise.2
  | _ => rfl

theorem flatMap_durations_filter (lines : List K6Line) :
    (lines.filter K6Line.isMetric).flatMap K6Line.durations = lines.flatMap K6Line.durations := by
  induction lines with
  | nil => rfl
  | cons line rest ih =>
      by_cases metric : line.isMetric = true
      · rw [List.filter_cons_of_pos metric, List.flatMap_cons, List.flatMap_cons, ih]
      · rw [List.filter_cons_of_neg metric, List.flatMap_cons, ih,
          K6Line.durations_noise metric, List.nil_append]

theorem k6Counts_filter (lines : List K6Line) :
    k6Counts (lines.filter K6Line.isMetric) = k6Counts lines := by
  unfold k6Counts
  induction lines with
  | nil => rfl
  | cons line rest ih =>
      by_cases metric : line.isMetric = true
      · rw [List.filter_cons_of_pos metric, List.filterMap_cons, List.filterMap_cons, ih]
      · rw [List.filter_cons_of_neg metric, ih, List.filterMap_cons_none
          (K6Line.count?_noise metric)]

/-- Noise changes nothing. -/
theorem calculateK6Summary_noise {lines lines' : List K6Line}
    (harmless : ∀ line ∈ lines, line.Harmless) (harmless' : ∀ line ∈ lines', line.Harmless)
    (same : lines'.filter K6Line.isMetric = lines.filter K6Line.isMetric) :
    calculateK6Summary (some ⟨lines', none⟩) = calculateK6Summary (some ⟨lines, none⟩) := by
  have durations : lines'.flatMap K6Line.durations = lines.flatMap K6Line.durations := by
    rw [← flatMap_durations_filter lines', same, flatMap_durations_filter]
  have counts : k6Count lines' = k6Count lines := by
    rw [k6Count_eq_sum, k6Count_eq_sum, ← k6Counts_filter lines', same, k6Counts_filter]
  obtain ⟨sum, summed, summary⟩ := calculateK6Summary_harmless harmless
  obtain ⟨sum', summed', summary'⟩ := calculateK6Summary_harmless harmless'
  rw [durations] at summed' summary'
  rw [counts] at summary'
  cases summed'.symm.trans summed
  exact summary'.trans summary.symm

/-! ### Sums and percentiles of numbers -/

section Numbers

variable {values : List Json}

theorem finite?_eq_some {value : Json} {q : Rat} (number : number? value = some (.finite q)) :
    finite? value = some q := by
  rw [finite?, number]

/-- The sum of finite numbers. -/
theorem sumFrom_eq {type : String}
    (finite : ∀ value ∈ values, ∃ q, number? value = some (.finite q)) :
    sumFrom type values = .ok (.finite (values.filterMap finite?).sum) := by
  induction values generalizing type with
  | nil => rfl
  | cons value rest ih =>
      obtain ⟨⟨q, number⟩, later⟩ := List.forall_mem_cons.mp finite
      rw [sumFrom, number, List.filterMap_cons_some (finite?_eq_some number), List.sum_cons]
      simp only [ih later]
      rfl

/-- The number of a value, and zero for one that is none. -/
def finiteOrZero (value : Json) : Rat := (finite? value).getD 0

theorem filterMap_finite? (finite : ∀ value ∈ values, ∃ q, number? value = some (.finite q)) :
    values.filterMap finite? = values.map finiteOrZero := by
  induction values with
  | nil => rfl
  | cons value rest ih =>
      obtain ⟨⟨q, number⟩, later⟩ := List.forall_mem_cons.mp finite
      rw [List.filterMap_cons_some (finite?_eq_some number), List.map_cons, ih later, finiteOrZero,
        finite?_eq_some number, Option.getD_some]

/-- Sorting finite numbers sorts what they denote. -/
theorem sortNumbers_finite (finite : ∀ value ∈ values, ∃ q, number? value = some (.finite q)) :
    (sortNumbers values).map finiteOrZero = (values.map finiteOrZero).mergeSort (· ≤ ·) := by
  refine List.map_mergeSort ?_
  intro x inX y inY
  obtain ⟨p, isP⟩ := finite x inX
  obtain ⟨q, isQ⟩ := finite y inY
  simp only [isP, isQ, ltDouble, finiteOrZero, finite?_eq_some isP, finite?_eq_some isQ,
    Option.getD_some, ← decide_not, not_lt]

/-- The percentile that the summary reads off the sorted numbers. -/
theorem percentile_finite (finite : ∀ value ∈ values, ∃ q, number? value = some (.finite q))
    {q : Nat} {x : Rat} (found : percentileOf (values.filterMap finite?) q = some x) :
    finite? (percentile (sortNumbers values) q) = some x := by
  rw [filterMap_finite? finite, percentileOf, ← sortNumbers_finite finite, List.length_map,
    List.getElem?_map] at found
  obtain ⟨value, place, same⟩ := Option.map_eq_some_iff.mp found
  have sorted : (sortNumbers values).length = values.length := List.length_mergeSort values
  have here : percentile (sortNumbers values) q = value := by
    unfold percentileIndex at place
    rw [percentile, sorted, place, Option.getD_some]
  obtain ⟨p, number⟩ := finite value (List.mem_mergeSort.mp (List.mem_of_getElem? place))
  rw [here, finite?_eq_some number, ← same, finiteOrZero, finite?_eq_some number,
    Option.getD_some]

end Numbers

/-! ### The figures -/

/-- The figures of k6's summary. -/
structure K6Figures where
  totalRequests : Int
  avgResponseMs : Rat
  p95ResponseMs : Rat
  throughputRps : Rat

def k6Figures? (summary : Dict Json) : Option K6Figures := do
  let report ← rawReport? summary
  match report.get? "total_requests" with
  | some (.int totalRequests) =>
      return {
        totalRequests
        avgResponseMs := ← (summary.get? "avg_response_ms").bind finite?
        p95ResponseMs := ← (summary.get? "p95_response_ms").bind finite?
        throughputRps := ← (summary.get? "throughput_rps").bind finite? }
  | _ => none

/-- The figures are those of the lines; without points of a metric they are
zero. -/
structure K6Figures.Describe (figures : K6Figures) (lines : List K6Line) : Prop where
  total : figures.totalRequests = (k6Counts lines).sum
  throughput : figures.throughputRps = (k6Counts lines).sum / 60
  avg : figures.avgResponseMs = (k6Durations lines).sum / (k6Durations lines).length
  p95 : k6Durations lines ≠ [] → figures.p95ResponseMs ∈ k6Durations lines
  p95Below : (k6Durations lines).length * 95 ≤
    100 * (k6Durations lines).countP fun time => time ≤ figures.p95ResponseMs
  p95Above : (k6Durations lines).length * 5 ≤
    100 * (k6Durations lines).countP fun time => figures.p95ResponseMs ≤ time
  noRequests : k6Counts lines = [] → figures.totalRequests = 0 ∧ figures.throughputRps = 0
  noDurations : k6Durations lines = [] → figures.avgResponseMs = 0 ∧ figures.p95ResponseMs = 0

section Figures

variable {lines : List K6Line}

theorem k6Durations_eq (harmless : ∀ line ∈ lines, line.Harmless) :
    k6Durations lines = (lines.flatMap K6Line.durations).map finiteOrZero :=
  filterMap_finite? fun _ mem => durations_finite harmless mem

/-- The figures of a file, for its two collections of values. -/
def k6FiguresOf (durations : List Rat) (counts : List Int) : K6Figures where
  totalRequests := counts.sum
  avgResponseMs := durations.sum / durations.length
  p95ResponseMs := (percentileOf durations 95).getD 0
  throughputRps := counts.sum / 60

/-- They describe the lines that the values come from. -/
theorem k6FiguresOf_describe (lines : List K6Line) :
    (k6FiguresOf (k6Durations lines) (k6Counts lines)).Describe lines where
  total := rfl
  throughput := rfl
  avg := rfl
  p95 := by
    intro nonempty
    obtain ⟨p95, found⟩ := exists_percentileOf nonempty 95
    rw [k6FiguresOf, found]
    exact percentileOf_mem found
  p95Below := by
    by_cases empty : k6Durations lines = []
    · simp [empty]
    · obtain ⟨p95, found⟩ := exists_percentileOf empty 95
      rw [k6FiguresOf, found]
      exact percentileOf_share (by decide) found
  p95Above := by
    by_cases empty : k6Durations lines = []
    · simp [empty]
    · obtain ⟨p95, found⟩ := exists_percentileOf empty 95
      rw [k6FiguresOf, found]
      exact percentileOf_share_ge (by decide) found
  noRequests := by
    intro empty
    simp [k6FiguresOf, empty]
  noDurations := by
    intro empty
    simp [k6FiguresOf, empty, percentileOf]

/-- The order of the values does not matter. -/
theorem k6FiguresOf_perm {durations durations' : List Rat} {counts counts' : List Int}
    (sameDurations : durations'.Perm durations) (sameCounts : counts'.Perm counts) :
    k6FiguresOf durations' counts' = k6FiguresOf durations counts := by
  unfold k6FiguresOf
  rw [percentileOf_perm sameDurations, sameDurations.sum_eq, sameDurations.length_eq,
    sameCounts.sum_eq]

/-- The figures of harmless lines. -/
theorem k6Figures_eq (harmless : ∀ line ∈ lines, line.Harmless) :
    k6Figures? (calculateK6Summary (some ⟨lines, none⟩)) =
      some (k6FiguresOf (k6Durations lines) (k6Counts lines)) := by
  have finite : ∀ value ∈ lines.flatMap K6Line.durations, ∃ q, number? value = some (.finite q) :=
    fun _ mem => durations_finite harmless mem
  obtain ⟨sum, summed, summary⟩ := calculateK6Summary_harmless harmless
  rw [sumNumbers, sumFrom_eq finite] at summed
  have sum_eq : (k6Durations lines).sum = sum :=
    Double.finite.inj (Except.ok.inj summed)
  have length : (k6Durations lines).length = (lines.flatMap K6Line.durations).length := by
    rw [k6Durations_eq harmless, List.length_map]
  rw [summary, k6Count_eq_sum, k6FiguresOf, sum_eq, length]
  by_cases empty : k6Durations lines = []
  · have none_read : lines.flatMap K6Line.durations = [] :=
      List.eq_nil_of_length_eq_zero (by rw [← length, empty, List.length_nil])
    rw [empty, none_read]
    simp [k6Figures?, rawReport?, k6SummaryItems, Dict.get?_ofItems, Json.asDict?, percentileOf]
  · obtain ⟨p95, found⟩ := exists_percentileOf empty 95
    have some_read : lines.flatMap K6Line.durations ≠ [] := by
      intro none_read
      exact empty (List.eq_nil_of_length_eq_zero (by rw [length, none_read, List.length_nil]))
    have isEmpty : (lines.flatMap K6Line.durations).isEmpty = false :=
      List.isEmpty_eq_false_iff.mpr some_read
    have p95_eq := percentile_finite finite found
    rw [found]
    simp [k6Figures?, rawReport?, k6SummaryItems, Dict.get?_ofItems, Json.asDict?, divNat, isEmpty,
      p95_eq]

end Figures

/-! ### What harm does -/

/-- The zeroed summary has no figures: there is no total in it. -/
theorem k6Figures?_errorSummary (e : Exc) : k6Figures? (errorSummary e) = none := by
  simp [k6Figures?, rawReport?, errorSummary, Dict.get?_ofItems, Json.asDict?]

section Harm

variable {file : OutputFile K6Line} {points : K6Points} {figures : K6Figures}

theorem k6Figures?_of_readError {e : Exc} (read : readK6Points (some file) = .error e) :
    k6Figures? (calculateK6Summary (some file)) = none := by
  unfold calculateK6Summary
  rw [read]
  exact k6Figures?_errorSummary e

/-- The total and the mean of the points that were read. -/
theorem figures_of_points (read : readK6Points (some file) = .ok points)
    (shown : k6Figures? (calculateK6Summary (some file)) = some figures) :
    figures.totalRequests = points.totalReqs ∧
      ∃ sum, sumNumbers points.durations = .ok (.finite sum) ∧
        figures.avgResponseMs = sum / points.durations.length := by
  unfold calculateK6Summary at shown
  rw [read] at shown
  cases summed : sumNumbers points.durations with
  | error e =>
      have failed : k6Summary points = .error e := by
        unfold k6Summary
        rw [summed]
        rfl
      simp only [bind, Except.bind, failed, k6Figures?_errorSummary] at shown
      cases shown
  | ok sum =>
      simp only [bind, Except.bind, k6Summary_eq summed] at shown
      cases empty : points.durations.isEmpty with
      | true =>
          have none_read := List.isEmpty_iff.mp empty
          rw [none_read] at summed ⊢
          cases summed
          simp [k6Figures?, rawReport?, k6SummaryItems, Dict.get?_ofItems, Json.asDict?,
            empty] at shown
          exact ⟨by rw [← shown], 0, rfl, by rw [← shown]; simp⟩
      | false =>
          simp [k6Figures?, rawReport?, k6SummaryItems, Dict.get?_ofItems, Json.asDict?,
            empty, Option.bind_eq_some_iff] at shown
          obtain ⟨avg, isAvg, p95, _, rfl⟩ := shown
          cases sum with
          | finite q =>
              cases isAvg
              exact ⟨rfl, q, rfl, rfl⟩
          | _ => cases isAvg

/-- A finite sum has finite summands. -/
theorem sumFrom_cons_finite {type : String} {value : Json} {values : List Json} {sum : Rat}
    (summed : sumFrom type (value :: values) = .ok (.finite sum)) :
    ∃ p q type', number? value = some (.finite p) ∧ sumFrom type' values = .ok (.finite q) ∧
      sum = p + q := by
  rw [sumFrom] at summed
  cases number : number? value with
  | none =>
      rw [number] at summed
      cases summed
  | some x =>
      rw [number] at summed
      obtain ⟨y, later, added⟩ := bind_ok_iff.mp summed
      have finite : addDouble x y = .finite sum := Except.ok.inj added
      cases x with
      | finite p =>
          cases y with
          | finite q => exact ⟨p, q, _, rfl, later, (Double.finite.inj finite).symm⟩
          | _ => cases finite
      | inf s =>
          cases y with
          | inf t =>
              change (if s = t then Double.inf s else .nan) = _ at finite
              split at finite
              · cases finite
              · cases finite
          | _ => cases finite
      | nan => cases finite

/-- What an object adds to no points. -/
theorem addK6Point_start {data : Json} (object : data.asDict?.isSome = true)
    (added : addK6Point ⟨[], 0⟩ data = .ok points) :
    (isPointOf "http_req_duration" data = true → ∃ value, points.durations = [value]) ∧
      (isPointOf "http_req_duration" data = false → points.durations = []) ∧
      (isPointOf "http_reqs" data = true → ∃ value, pointValue data = .ok value ∧
        value.toInt = .ok points.totalReqs) := by
  rw [addK6Point_eq object] at added
  obtain ⟨middle, first, second⟩ := bind_ok_iff.mp added
  have start : middle.totalReqs = 0 ∧
      (isPointOf "http_req_duration" data = true → ∃ value, middle.durations = [value]) ∧
      (isPointOf "http_req_duration" data = false → middle.durations = []) := by
    cases isDuration : isPointOf "http_req_duration" data with
    | true =>
        rw [isDuration, if_pos rfl] at first
        obtain ⟨value, _, rfl⟩ := map_ok_iff.mp first
        exact ⟨rfl, fun _ => ⟨value, rfl⟩, nofun⟩
    | false =>
        rw [isDuration, if_neg Bool.false_ne_true] at first
        cases first
        exact ⟨rfl, nofun, fun _ => rfl⟩
  obtain ⟨zero, isDuration, noDuration⟩ := start
  cases isRequests : isPointOf "http_reqs" data with
  | true =>
      rw [isRequests, if_pos rfl] at second
      obtain ⟨n, counted, rfl⟩ := map_ok_iff.mp second
      obtain ⟨value, read, isInt⟩ := bind_ok_iff.mp counted
      refine ⟨isDuration, noDuration, fun _ => ⟨value, read, ?_⟩⟩
      rw [isInt, zero, Int.zero_add]
  | false =>
      rw [isRequests, if_neg Bool.false_ne_true] at second
      cases second
      exact ⟨isDuration, noDuration, nofun⟩

/-- What is read from a file that begins with an object that is no JSON. -/
theorem readK6Points_extended {data : Json} {rest : List K6Line}
    (harmless : ∀ line ∈ rest, line.Harmless) (added : addK6Point ⟨[], 0⟩ data = .ok points) :
    readK6Points (some ⟨.extended data :: rest, none⟩) =
      .ok ⟨points.durations ++ rest.flatMap K6Line.durations,
        points.totalReqs + k6Count rest⟩ := by
  unfold readK6Points
  simp [addK6Lines, added, addK6Lines_harmless harmless, bind, Except.bind, pure, Except.pure]

end Harm

/-! ### Exactness -/

/-- A line that is blank, no JSON, or in k6's format. -/
inductive K6Line.Allowed : K6Line → Prop where
  | inFormat {line : K6Line} (inFormat : line.InFormat) : line.Allowed
  | raises (e : Exc) : Allowed (.raises e)
  | extended (data : Json) : Allowed (.extended data)

/-- `lines'` has the values of the complete points of `lines`, in any order, and no
other damage than `lines`. -/
structure SamePoints (lines lines' : List K6Line) : Prop where
  durations : (k6Durations lines').Perm (k6Durations lines)
  counts : (k6Counts lines').Perm (k6Counts lines)
  damage : ∀ line ∈ lines', line.InFormat ∨ line ∈ lines

/-- The summary is about the complete points of the file, and of those that follow:
the figures describe them, in any order and whatever the other lines are, and the
other lines change nothing in the summary. -/
structure K6Correct (file : OutputFile K6Line) : Prop where
  figures : ∀ more, (∀ line ∈ more, line.InFormat) → ∃ figures : K6Figures,
    figures.Describe (file.records ++ more) ∧
      ∀ lines', SamePoints (file.records ++ more) lines' →
        k6Figures? (calculateK6Summary (some ⟨lines', file.readError⟩)) = some figures
  noise : ∀ lines', (∀ line ∈ lines', line.InFormat ∨ line ∈ file.records) →
    lines'.filter K6Line.isMetric = file.records.filter K6Line.isMetric →
    calculateK6Summary (some ⟨lines', file.readError⟩) = calculateK6Summary (some file)

section Exact

variable {file : OutputFile K6Line} {lines : List K6Line}

theorem inFormat_of_isMetric (allowed : ∀ line ∈ lines, line.Allowed) {line : K6Line}
    (mem : line ∈ lines.filter K6Line.isMetric) : line.InFormat := by
  obtain ⟨inLines, metric⟩ := List.mem_filter.mp mem
  cases allowed line inLines with
  | inFormat inFormat => exact inFormat
  | _ => cases metric

/-- The complete points may be read on their own, after one of the other lines. -/
theorem samePoints_cons_filter (allowed : ∀ line ∈ lines, line.Allowed) {line : K6Line}
    (mem : line ∈ lines) (noise : line.isMetric = false) :
    SamePoints lines (line :: lines.filter K6Line.isMetric) := by
  have noMetric : ¬ line.isMetric = true := by simp [noise]
  have values : k6Durations (line :: lines.filter K6Line.isMetric) = k6Durations lines := by
    rw [k6Durations, List.flatMap_cons, K6Line.durations_noise noMetric, List.nil_append,
      flatMap_durations_filter, k6Durations]
  have counts : k6Counts (line :: lines.filter K6Line.isMetric) = k6Counts lines := by
    rw [k6Counts, List.filterMap_cons_none (K6Line.count?_noise noMetric)]
    exact k6Counts_filter lines
  refine ⟨.of_eq values, .of_eq counts, fun other inCons => ?_⟩
  rcases List.mem_cons.mp inCons with rfl | metric
  · exact .inr mem
  · exact .inl (inFormat_of_isMetric allowed metric)

theorem samePoints_refl : SamePoints lines lines :=
  ⟨.refl _, .refl _, fun _ mem => .inr mem⟩

/-- A file that cannot be read to the end has no figures. -/
theorem k6Figures?_unreadable (e : Exc) :
    k6Figures? (calculateK6Summary (some ⟨lines, some e⟩)) = none := by
  cases added : addK6Lines ⟨[], 0⟩ lines with
  | error e' => exact k6Figures?_of_readError (e := e') (by rw [readK6Points, added]; rfl)
  | ok points => exact k6Figures?_of_readError (e := e) (by rw [readK6Points, added]; rfl)

theorem K6Correct.readError_eq (correct : K6Correct file) : file.readError = none := by
  obtain ⟨figures, _, shown⟩ := correct.figures [] nofun
  have same := shown (file.records ++ []) samePoints_refl
  cases unread : file.readError with
  | none => rfl
  | some e =>
      rw [unread, k6Figures?_unreadable] at same
      cases same

theorem allowed_append (allowed : ∀ line ∈ lines, line.Allowed) {more : List K6Line}
    (inFormat : ∀ line ∈ more, line.InFormat) : ∀ line ∈ lines ++ more, line.Allowed := by
  intro line mem
  rcases List.mem_append.mp mem with old | new
  · exact allowed line old
  · exact .inFormat (inFormat line new)

/-- The figures are the same when a noise line comes first and the complete points
follow. -/
theorem K6Correct.noise_first (correct : K6Correct file)
    (allowed : ∀ line ∈ file.records, line.Allowed) {line : K6Line} (mem : line ∈ file.records)
    (noise : line.isMetric = false) (more : List K6Line)
    (inFormat : ∀ line ∈ more, line.InFormat) :
    ∃ figures : K6Figures, figures.Describe (file.records ++ more) ∧
      k6Figures? (calculateK6Summary
        (some ⟨line :: (file.records ++ more).filter K6Line.isMetric, none⟩)) = some figures := by
  obtain ⟨figures, describe, shown⟩ := correct.figures more inFormat
  have same := shown _ (samePoints_cons_filter (allowed_append allowed inFormat)
    (List.mem_append_left more mem) noise)
  rw [correct.readError_eq] at same
  exact ⟨figures, describe, same⟩

/-- A point of the response times. -/
def durationPoint (time : Rat) : K6Line :=
  .value (.obj [("type", .str "Point"), ("metric", .str "http_req_duration"),
    ("data", .obj [("value", .float (.finite time))])])

theorem durationPoint_inFormat (time : Rat) : (durationPoint time).InFormat :=
  .value rfl nofun fun _ => ⟨.float (.finite time), time, rfl, rfl⟩

theorem k6Durations_append_durationPoint (time : Rat) :
    k6Durations (lines ++ [durationPoint time]) = k6Durations lines ++ [time] := by
  unfold k6Durations
  rw [List.flatMap_append, List.filterMap_append]
  rfl

theorem raises_not_mem (correct : K6Correct file)
    (allowed : ∀ line ∈ file.records, line.Allowed) (e : Exc) : .raises e ∉ file.records := by
  intro mem
  obtain ⟨figures, _, shown⟩ := correct.noise_first allowed mem rfl [] nofun
  rw [k6Figures?_of_readError (e := e) rfl] at shown
  cases shown

/-- What an object that is no JSON adds, and what that does to the figures. -/
theorem K6Correct.extended_figures (correct : K6Correct file)
    (allowed : ∀ line ∈ file.records, line.Allowed) {data : Json}
    (mem : .extended data ∈ file.records) (more : List K6Line)
    (inFormat : ∀ line ∈ more, line.InFormat) :
    data.asDict?.isSome = true ∧ ∃ points, addK6Point ⟨[], 0⟩ data = .ok points ∧
      points.totalReqs = 0 ∧ ∀ value, points.durations = [value] →
        ∃ p, number? value = some (.finite p) ∧ (k6Durations (file.records ++ more) ≠ [] →
          p * (k6Durations (file.records ++ more)).length =
            (k6Durations (file.records ++ more)).sum) := by
  obtain ⟨figures, describe, shown⟩ := correct.noise_first allowed mem rfl more inFormat
  set rest := (file.records ++ more).filter K6Line.isMetric with rest_eq
  have harmless : ∀ line ∈ rest, line.Harmless := fun line inRest =>
    .inFormat (inFormat_of_isMetric (allowed_append allowed inFormat) inRest)
  cases added : addK6Point ⟨[], 0⟩ data with
  | error e =>
      rw [k6Figures?_of_readError (e := e) (by simp [readK6Points, addK6Lines, added, bind,
        Except.bind])] at shown
      cases shown
  | ok points =>
      obtain ⟨total, sum, summed, avg⟩ :=
        figures_of_points (readK6Points_extended harmless added) shown
      have object : data.asDict?.isSome = true := by
        cases found : data.asDict? with
        | none =>
            rw [addK6Point, found] at added
            cases added
        | some fields => rfl
      refine ⟨object, points, rfl, ?_, ?_⟩
      · have counted : k6Count rest = (k6Counts (file.records ++ more)).sum := by
          rw [k6Count_eq_sum, rest_eq, k6Counts_filter]
        have same : (k6Counts (file.records ++ more)).sum = points.totalReqs + k6Count rest :=
          describe.total.symm.trans total
        rw [counted] at same
        exact add_eq_right.mp same.symm
      · intro value starts
        rw [starts, List.singleton_append] at summed avg
        obtain ⟨p, q, _, number, later, rfl⟩ := sumFrom_cons_finite summed
        refine ⟨p, number, fun nonempty => ?_⟩
        have finite : ∀ value ∈ rest.flatMap K6Line.durations,
            ∃ q, number? value = some (.finite q) := fun _ mem => durations_finite harmless mem
        have values : k6Durations rest = k6Durations (file.records ++ more) := by
          rw [k6Durations, k6Durations, rest_eq, flatMap_durations_filter]
        have length : (rest.flatMap K6Line.durations).length = (k6Durations rest).length := by
          rw [k6Durations_eq harmless, List.length_map]
        rw [sumFrom_eq finite] at later
        have sum_eq : (k6Durations rest).sum = q := Double.finite.inj (Except.ok.inj later)
        rw [describe.avg, List.length_cons, length, ← sum_eq, values, Nat.cast_add, Nat.cast_one]
          at avg
        have positive : ((k6Durations (file.records ++ more)).length : Rat) ≠ 0 :=
          Nat.cast_ne_zero.mpr (List.length_pos_iff.mpr nonempty).ne'
        rw [div_eq_div_iff positive (Nat.cast_add_one_ne_zero _)] at avg
        linarith

/-- Two further points tell what an object adds to the response times. -/
theorem K6Correct.extended_noDuration (correct : K6Correct file)
    (allowed : ∀ line ∈ file.records, line.Allowed) {data : Json}
    (mem : .extended data ∈ file.records) : isPointOf "http_req_duration" data = false := by
  have further (time : Rat) := correct.extended_figures allowed mem [durationPoint time]
    (by simp [durationPoint_inFormat])
  obtain ⟨object, points, added, _, alone⟩ := further 0
  obtain ⟨_, points', added', _, alone'⟩ := further 1
  cases added.symm.trans added'
  by_contra isDuration
  obtain ⟨value, starts⟩ := (addK6Point_start object added).1 (by simpa using isDuration)
  obtain ⟨p, number, mean⟩ := alone value starts
  obtain ⟨p', number', mean'⟩ := alone' value starts
  cases number.symm.trans number'
  rw [k6Durations_append_durationPoint] at mean mean'
  have atZero := mean (by simp)
  have atOne := mean' (by simp)
  rw [List.length_append, List.sum_append, List.sum_singleton] at atZero atOne
  have same := atZero.symm.trans atOne
  linarith

/-- The summary is about the complete points of a file if and only if the file can be
read to the end and every line is harmless. -/
theorem calculateK6Summary_correct_iff {file : OutputFile K6Line}
    (allowed : ∀ line ∈ file.records, line.Allowed) :
    K6Correct file ↔ file.readError = none ∧ ∀ line ∈ file.records, line.Harmless := by
  constructor
  · intro correct
    refine ⟨correct.readError_eq, fun line mem => ?_⟩
    cases allowed line mem with
    | inFormat inFormat => exact .inFormat inFormat
    | raises e => exact absurd mem (raises_not_mem correct allowed e)
    | extended data =>
        obtain ⟨object, points, added, zero, _⟩ :=
          correct.extended_figures allowed mem [] nofun
        refine .extended object (fun isRequests => ?_) (correct.extended_noDuration allowed mem)
        obtain ⟨value, read, counted⟩ := (addK6Point_start object added).2.2 isRequests
        exact ⟨value, read, zero ▸ counted⟩
  · rintro ⟨readable, harmless⟩
    have old (more : List K6Line) {line : K6Line} (inFormat : ∀ line ∈ more, line.InFormat)
        (form : line.InFormat ∨ line ∈ file.records ++ more) : line.Harmless := by
      rcases form with inFormat | inAppend
      · exact .inFormat inFormat
      · rcases List.mem_append.mp inAppend with old | new
        · exact harmless line old
        · exact .inFormat (inFormat line new)
    obtain ⟨records, readError⟩ := file
    cases readable
    refine ⟨fun more inFormat => ⟨_, k6FiguresOf_describe _, fun lines' same => ?_⟩, ?_⟩
    · rw [k6Figures_eq fun line mem => old more inFormat (same.damage line mem),
        k6FiguresOf_perm same.durations same.counts]
    · intro lines' damage same
      refine calculateK6Summary_noise harmless (fun line mem => ?_) same
      exact old [] nofun ((damage line mem).imp_right fun inRecords => by simpa)

end Exact

/-- Every file of blank lines, lines that are no JSON and lines in k6's format is
summarised by its complete points. -/
def K6CorrectWithNoise : Prop :=
  ∀ file : OutputFile K6Line, (∀ line ∈ file.records, line.Allowed) → K6Correct file

/-- A request and the point of its duration, with a cut-off line between them. -/
def noisyLines : List K6Line :=
  [.value (.obj [("type", .str "Point"), ("metric", .str "http_reqs"),
      ("data", .obj [("value", .int 1)])]),
    .notJson, durationPoint (25 / 2)]

theorem noisyLines_inFormat : ∀ line ∈ noisyLines, line.InFormat := by
  intro line mem
  simp only [noisyLines, List.mem_cons, List.not_mem_nil, or_false] at mem
  rcases mem with rfl | rfl | rfl
  · exact .value rfl (fun _ => ⟨.int 1, 1, rfl, rfl⟩) nofun
  · exact .notJson
  · exact durationPoint_inFormat _

/-- The file ends inside a character. -/
def cutCharacter : Exc :=
  .valueError "'utf-8' codec can't decode byte 0xc3 in position 0: unexpected end of data"

/-- Complete points before the cut are discarded. -/
theorem cutCharacter_zeroes : ¬ K6CorrectWithNoise := by
  intro correct
  have here := correct ⟨noisyLines, some cutCharacter⟩ fun line mem =>
    .inFormat (noisyLines_inFormat line mem)
  cases here.readError_eq

/-- The iff for the same lines: read to the end, and with a line `NaN` among them. -/
theorem noisyLines_correct : K6Correct ⟨noisyLines, none⟩ ∧
    ¬ K6Correct ⟨.extended (.float .nan) :: noisyLines, none⟩ := by
  constructor
  · refine (calculateK6Summary_correct_iff fun line mem => .inFormat ?_).mpr
      ⟨rfl, fun line mem => .inFormat (noisyLines_inFormat line mem)⟩
    exact noisyLines_inFormat line mem
  · intro correct
    have allowed : ∀ line ∈ K6Line.extended (.float .nan) :: noisyLines, line.Allowed := by
      intro line mem
      rcases List.mem_cons.mp mem with rfl | later
      · exact .extended _
      · exact .inFormat (noisyLines_inFormat line later)
    obtain ⟨_, harmless⟩ := (calculateK6Summary_correct_iff allowed).mp correct
    cases harmless _ List.mem_cons_self with
    | inFormat inFormat => cases inFormat
    | extended object => cases object

end PLoadtesting.Worker
