import PLoadtesting.Lib.Csv
import PLoadtesting.Worker.RunFiles

/-!
Damaged rows of a JTL file (`calculate_jmeter_summary` in `workers/agent.py`).

The file is read by `csv.DictReader`, which fills a record that is too short with
nulls. The loop skips a row with a missing column and a text that is no number, but not
a null: `int(None)` raises a `TypeError` and `None.lower()` an `AttributeError`, which
leave the loop, and the handler around it answers with zeros. So does what the reader
raises, and a mean or a span of time that is no float. A row that ends inside quotation
marks takes the following rows with it, up to the next quotation mark; only the last
row may do that. `keepsTheRest_iff` says exactly which files keep the rest. The last
row of a file whose engine was stopped at the timeout is cut like that.
-/

namespace PLoadtesting.Worker

open Keyed Python

/-! ### The reader -/

/-- `csv.field_size_limit()`. -/
def csvFieldLimit : Nat := 131072

def fieldTooLong : Exc := .csvError "field larger than field limit (131072)"

/-- A JTL file: its header row, the rows after it, each on a line of its own, and the
exception that decoding it ends with, if any. A line break is `\n`, as text files are
read. A row holds line breaks inside quotation marks only, and the header ends outside
them; a row need not. -/
structure JtlFile where
  header : List Char
  rows : List (List Char)
  readError : Option Exc
  header_noBreak : Csv.NoBreak header
  header_closed : ¬ Csv.IsOpen header
  rows_noBreak : ∀ row ∈ rows, Csv.NoBreak row

/-- The dictionary of a record. One that is too short has nulls in the last
columns. Fields beyond the header go under a key that is no text and are left
out. -/
def dictRow (header record : List String) : Dict Json :=
  Dict.ofItems (header.zip (record.map Json.str ++
    List.replicate (header.length - record.length) .null))

/-- What `csv.DictReader` yields for the rows of `csv.reader`: the first names the
columns, and empty records are passed over. -/
def dictReader : List (List String) × Option Exc → OutputFile (Dict Json)
  | ([], readError) => ⟨[], readError⟩
  | (header :: records, readError) =>
      ⟨(records.filter fun record => !record.isEmpty).map (dictRow header), readError⟩

def JtlFile.text (file : JtlFile) : List Char := file.header ++ Csv.furtherLines file.rows

def JtlFile.reader (file : JtlFile) : OutputFile (Dict Json) :=
  dictReader (Csv.read csvFieldLimit fieldTooLong file.readError .start file.text)

/-- A column holds a text or, where the record is too short, a null. -/
theorem dictRow_text {header record : List String} {key : String} {value : Json}
    (read : (dictRow header record).get? key = some value) :
    value = .null ∨ ∃ text, value = .str text := by
  rw [dictRow, Dict.get?_ofItems] at read
  obtain ⟨item, found, rfl⟩ := Option.map_eq_some_iff.mp read
  have mem := List.mem_reverse.mp (List.mem_of_find?_eq_some found)
  have inValues := (List.of_mem_zip mem).2
  rw [List.mem_append, List.mem_map, List.mem_replicate] at inValues
  rcases inValues with ⟨text, _, same⟩ | ⟨_, null⟩
  · exact .inr ⟨text, same.symm⟩
  · exact .inl null

/-! ### Floats -/

/-- The first number that is rounded beyond the largest float. -/
def doubleLimit : Nat := 2 ^ 1024 - 2 ^ 970

def fitsDouble (q : Rat) : Bool := decide (-(doubleLimit : Rat) < q) && decide (q < doubleLimit)

/-- The mean can be computed. -/
def JtlStats.meanFits (stats : JtlStats) : Bool :=
  stats.responseTimes.isEmpty || fitsDouble (stats.responseTimes.sum / stats.responseTimes.length)

/-- The time between the first and the last start can be computed, if it is. -/
def JtlStats.spanFits (stats : JtlStats) : Bool :=
  match stats.startTime, stats.endTime with
  | some startTime, some endTime =>
      !decide (startTime ≠ 0 ∧ endTime ≠ 0 ∧ startTime < endTime) ||
        fitsDouble (endTime - startTime : Int)
  | _, _ => true

/-- The summary, where the divisions are Python's. -/
def floatSummary (stats : JtlStats) : Except Exc (Dict Json) :=
  if !stats.meanFits then
    .error (.overflowError "integer division result too large for a float")
  else if !stats.spanFits then .error (.overflowError "int too large to convert to float")
  else .ok (jmeterSummary stats)

/-- `calculate_jmeter_summary` of a file that exists. -/
def JtlFile.calculateJmeterSummary [Runtime] (file : JtlFile) : Dict Json :=
  match readJtlStats (some file.reader) >>= floatSummary with
  | .ok summary => summary
  | .error e => errorSummary e

/-- Floats that are large enough make no difference. -/
theorem JtlFile.calculateJmeterSummary_eq [Runtime] {file : JtlFile}
    (fits : ∀ stats, readJtlStats (some file.reader) = .ok stats →
      stats.meanFits = true ∧ stats.spanFits = true) :
    file.calculateJmeterSummary = Worker.calculateJmeterSummary (some file.reader) := by
  unfold JtlFile.calculateJmeterSummary Worker.calculateJmeterSummary
  cases read : readJtlStats (some file.reader) with
  | error e => rfl
  | ok stats =>
      obtain ⟨mean, span⟩ := fits stats read
      show (match floatSummary stats with | .ok summary => summary | .error e => errorSummary e) = _
      simp [floatSummary, mean, span]

/-! ### Malformed rows -/

/-- A column that holds an integer. -/
def intColumn? (row : Dict Json) (key : String) : Option Int :=
  match row.get? key with
  | some (.str text) => parseInt text
  | _ => none

/-- A column that holds a text. -/
def textColumn? (row : Dict Json) (key : String) : Option String :=
  match row.get? key with
  | some (.str text) => some text
  | _ => none

theorem intColumn?_eq_some_iff {row : Dict Json} {key : String} {i : Int} :
    intColumn? row key = some i ↔ ∃ text, row.get? key = some (.str text) ∧
      parseInt text = some i := by
  unfold intColumn?
  split
  · rename_i text read
    constructor
    · exact fun parsed => ⟨text, read, parsed⟩
    · rintro ⟨text', read', parsed⟩
      cases read.symm.trans read'
      exact parsed
  · rename_i noText
    constructor
    · exact nofun
    · rintro ⟨text, read, _⟩
      exact absurd read (noText text)

theorem textColumn?_eq_some_iff {row : Dict Json} {key text : String} :
    textColumn? row key = some text ↔ row.get? key = some (.str text) := by
  unfold textColumn?
  split
  · rename_i read
    simp [read]
  · rename_i noText
    exact ⟨nofun, fun read => absurd read (noText text)⟩

/-- The row gives the three columns that a sample needs. -/
def isWellFormedRow (row : Dict Json) : Bool :=
  (intColumn? row "timeStamp").isSome && (intColumn? row "elapsed").isSome &&
    (textColumn? row "success").isSome

theorem isWellFormedRow_iff {row : Dict Json} :
    isWellFormedRow row = true ↔ WellFormedRow row := by
  simp only [isWellFormedRow, Bool.and_eq_true, Option.isSome_iff_exists, intColumn?_eq_some_iff,
    textColumn?_eq_some_iff]
  constructor
  · rintro ⟨⟨⟨ts, timeStamp, h⟩, ms, elapsed, h'⟩, success⟩
    exact ⟨⟨timeStamp, ts, h⟩, ⟨elapsed, ms, h'⟩, success⟩
  · rintro ⟨⟨timeStamp, ts, h⟩, ⟨elapsed, ms, h'⟩, success⟩
    exact ⟨⟨⟨ts, timeStamp, h⟩, ms, elapsed, h'⟩, success⟩

/-- The record ends too early: the columns are good up to one that is null. -/
inductive CutShort (row : Dict Json) : Prop where
  | timeStamp (null : row.get? "timeStamp" = some .null)
  | elapsed (timeStamp : (intColumn? row "timeStamp").isSome = true)
      (null : row.get? "elapsed" = some .null)
  | success (timeStamp : (intColumn? row "timeStamp").isSome = true)
      (elapsed : (intColumn? row "elapsed").isSome = true)
      (null : row.get? "success" = some .null)

/-! ### The loop -/

/-- What the loop catches: `except (KeyError, ValueError)`. -/
def isSkipped : Exc → Bool
  | .keyError _ | .valueError _ => true
  | _ => false

/-- `int(row[key])`. -/
def readInt (row : Dict Json) (key : String) : Except Exc Int := do (← column row key).toInt

/-- A row of texts and nulls. -/
def IsTextRow (row : Dict Json) : Prop :=
  ∀ key value, row.get? key = some value → value = .null ∨ ∃ text, value = .str text

section Columns

variable {row : Dict Json} {key : String}

theorem readInt_ok {i : Int} (found : intColumn? row key = some i) : readInt row key = .ok i := by
  obtain ⟨text, read, parsed⟩ := intColumn?_eq_some_iff.mp found
  simp [readInt, column, read, Json.toInt, parsed, bind, Except.bind]

/-- A column with no integer raises; what it raises is caught unless it is a
null. -/
theorem readInt_error (texts : IsTextRow row) (noInt : intColumn? row key = none) :
    ∃ e, readInt row key = .error e ∧ (isSkipped e = false ↔ row.get? key = some .null) := by
  unfold readInt column
  cases read : row.get? key with
  | none => exact ⟨.keyError key, rfl, by simp [isSkipped]⟩
  | some value =>
      rcases texts key value read with rfl | ⟨text, rfl⟩
      · exact ⟨_, rfl, fun _ => rfl, fun _ => rfl⟩
      · have noNumber : parseInt text = none := by
          simpa [intColumn?, read] using noInt
        obtain ⟨message, raised⟩ := Json.toInt_str_error noNumber
        exact ⟨.valueError message, raised, by simp [isSkipped]⟩

end Columns

/-- A row that is cut short is malformed. -/
theorem CutShort.malformed {row : Dict Json} (cut : CutShort row) :
    isWellFormedRow row = false := by
  cases cut with
  | timeStamp null | elapsed _ null => simp [isWellFormedRow, intColumn?, null]
  | success _ _ null => simp [isWellFormedRow, textColumn?, null]

section Loop

variable [Runtime] {row : Dict Json}

/-- `row["success"].lower() == "true"`. -/
def readSuccess (row : Dict Json) : Except Exc Bool := do
  match ← column row "success" with
  | .str success => return decide (Runtime.lower success = "true")
  | success => throw (success.noAttribute "lower")

theorem jtlSample_eq : jtlSample row = (do
    let ts ← readInt row "timeStamp"
    let elapsed ← readInt row "elapsed"
    let success ← readSuccess row
    return (ts, elapsed, success)) := by
  simp only [jtlSample, readInt, readSuccess, bind_assoc]
  refine bind_congr fun _ => bind_congr fun _ => bind_congr fun _ => bind_congr fun _ =>
    bind_congr fun success => ?_
  cases success <;> rfl

/-- A malformed row that is not cut short is skipped; one that is cut short ends
the loop. -/
theorem jtlSample_malformed (texts : IsTextRow row) (malformed : isWellFormedRow row = false) :
    ∃ e, jtlSample row = .error e ∧ (isSkipped e = false ↔ CutShort row) := by
  rw [jtlSample_eq]
  cases hasTimeStamp : intColumn? row "timeStamp" with
  | none =>
      obtain ⟨e, raised, uncaught⟩ := readInt_error texts hasTimeStamp
      refine ⟨e, by rw [raised]; rfl, uncaught.trans ⟨.timeStamp, fun cut => ?_⟩⟩
      cases cut with
      | timeStamp null => exact null
      | elapsed timeStamp | success timeStamp => simp [hasTimeStamp] at timeStamp
  | some ts =>
      rw [readInt_ok hasTimeStamp]
      cases hasElapsed : intColumn? row "elapsed" with
      | none =>
          obtain ⟨e, raised, uncaught⟩ := readInt_error texts hasElapsed
          refine ⟨e, by rw [raised]; rfl, uncaught.trans ⟨.elapsed (by simp [hasTimeStamp]), ?_⟩⟩
          intro cut
          cases cut with
          | timeStamp null => simp [intColumn?, null] at hasTimeStamp
          | elapsed _ null => exact null
          | success _ elapsed => simp [hasElapsed] at elapsed
      | some ms =>
          rw [readInt_ok hasElapsed]
          have noText : textColumn? row "success" = none := by
            simpa [isWellFormedRow, hasTimeStamp, hasElapsed] using malformed
          have cut_iff : CutShort row ↔ row.get? "success" = some .null := by
            refine ⟨fun cut => ?_, .success (by simp [hasTimeStamp]) (by simp [hasElapsed])⟩
            cases cut with
            | timeStamp null => simp [intColumn?, null] at hasTimeStamp
            | elapsed _ null => simp [intColumn?, null] at hasElapsed
            | success _ _ null => exact null
          rw [cut_iff]
          unfold readSuccess column
          cases read : row.get? "success" with
          | none => exact ⟨.keyError "success", rfl, nofun, nofun⟩
          | some value =>
              rcases texts "success" value read with rfl | ⟨text, rfl⟩
              · exact ⟨_, rfl, fun _ => rfl, fun _ => rfl⟩
              · simp [textColumn?, read] at noText

/-- The samples of the rows that give one. -/
def samplesOf (rows : List (Dict Json)) : List JtlSample :=
  rows.filterMap fun row => (jtlSample row).toOption

/-- A row gives a sample if and only if it is well formed. -/
theorem toOption_jtlSample_isSome (texts : IsTextRow row) :
    (jtlSample row).toOption.isSome = isWellFormedRow row := by
  cases wellFormed : isWellFormedRow row with
  | true =>
      obtain ⟨sample, read⟩ := (isWellFormedRow_iff.mp wellFormed).sample
      rw [read]
      rfl
  | false =>
      obtain ⟨e, raised, _⟩ := jtlSample_malformed texts wellFormed
      rw [raised]
      rfl

end Loop

/-! ### Rows of the file -/

namespace JtlFile

variable (file : JtlFile)

/-- The names in the header. -/
def columns : List String := Csv.rowRecord csvFieldLimit fieldTooLong file.header

/-- The dictionary of a row on its own. -/
def dict (row : List Char) : Dict Json :=
  dictRow file.columns (Csv.rowRecord csvFieldLimit fieldTooLong row)

/-- No field of the row is too long. -/
def isShort (row : List Char) : Bool := (Csv.record? csvFieldLimit fieldTooLong row).isSome

/-- The row ends outside quotation marks and gives the three columns that a sample
needs. -/
def isWellFormed (row : List Char) : Bool :=
  !decide (Csv.IsOpen row) && isShort row && isWellFormedRow (file.dict row)

theorem dict_texts (row : List Char) : IsTextRow (file.dict row) := fun _ _ => dictRow_text

/-- Every row has nulls in the place of the columns of an empty one. -/
theorem isWellFormedRow_blank (header : List String) :
    isWellFormedRow (dictRow header []) = false := by
  have noText (key text : String) : (dictRow header []).get? key ≠ some (.str text) := by
    intro read
    rw [dictRow, Dict.get?_ofItems] at read
    obtain ⟨item, found, isText⟩ := Option.map_eq_some_iff.mp read
    have mem := List.mem_reverse.mp (List.mem_of_find?_eq_some found)
    have null := (List.of_mem_zip mem).2
    rw [List.map_nil, List.nil_append, List.mem_replicate] at null
    cases null.2.symm.trans isText
  have noInt : intColumn? (dictRow header []) "timeStamp" = none := by
    by_contra found
    obtain ⟨i, isInt⟩ := Option.ne_none_iff_exists'.mp found
    obtain ⟨text, read, _⟩ := intColumn?_eq_some_iff.mp isInt
    exact noText _ _ read
  simp [isWellFormedRow, noInt]

end JtlFile

section Reader

variable {file : JtlFile}

theorem dictReader_readError (read : List (List String) × Option Exc) :
    (dictReader read).readError = read.2 := by
  obtain ⟨records, readError⟩ := read
  cases records with
  | nil => rfl
  | cons header records => rfl

theorem JtlFile.rows_closed (closed : ∀ row ∈ file.rows.dropLast, ¬ Csv.IsOpen row) :
    ∀ row ∈ (file.header :: file.rows).dropLast, ¬ Csv.IsOpen row := by
  cases rows : file.rows with
  | nil => exact nofun
  | cons first rest =>
      rw [rows] at closed
      rw [List.dropLast_cons_cons]
      exact List.forall_mem_cons.mpr ⟨file.header_closed, closed⟩

theorem JtlFile.lines_noBreak : ∀ row ∈ file.header :: file.rows, Csv.NoBreak row :=
  List.forall_mem_cons.mpr ⟨file.header_noBreak, file.rows_noBreak⟩

/-- When only the last row may be open, reading ends well if and only if decoding does and
no field is too long. -/
theorem JtlFile.readError_iff (closed : ∀ row ∈ file.rows.dropLast, ¬ Csv.IsOpen row) :
    file.reader.readError = none ↔
      file.readError = none ∧ ∀ row ∈ file.header :: file.rows, JtlFile.isShort row = true := by
  rw [reader, dictReader_readError]
  constructor
  · intro ended
    refine ⟨?_, Csv.short_of_read lines_noBreak (rows_closed closed) ended⟩
    cases undecodable : file.readError with
    | none => rfl
    | some e =>
        rw [undecodable] at ended
        exact absurd ended (Csv.read_failing e .start file.text)
  · rintro ⟨readable, short⟩
    rw [readable]
    exact (Csv.read_rows lines_noBreak (rows_closed closed) short).1

/-- Then the rows are read as on their own. -/
theorem JtlFile.reader_records (closed : ∀ row ∈ file.rows.dropLast, ¬ Csv.IsOpen row)
    (ended : file.reader.readError = none) :
    file.reader.records = (file.rows.filter fun row =>
      !(Csv.rowRecord csvFieldLimit fieldTooLong row).isEmpty).map file.dict := by
  obtain ⟨readable, short⟩ := (readError_iff closed).mp ended
  obtain ⟨header, isHeader⟩ := Option.isSome_iff_exists.mp (short _ List.mem_cons_self)
  have columns : file.columns = header := by
    rw [JtlFile.columns, Csv.rowRecord, isHeader]
    rfl
  rw [reader, readable, text]
  cases rows : file.rows with
  | nil =>
      rw [Csv.furtherLines, List.flatMap_nil, Csv.read_append .start file.header_noBreak]
      unfold Csv.record? at isHeader
      cases processed : Csv.Reader.start.processAll csvFieldLimit fieldTooLong file.header with
      | error e => rfl
      | ok r =>
          dsimp only
          rw [Csv.read]
          split <;> rfl
  | cons first rest =>
      rw [rows] at short closed
      have lines : Csv.furtherLines (first :: rest) = '\n' :: (first ++ Csv.furtherLines rest) :=
        rfl
      obtain ⟨_, records⟩ := Csv.read_rows (fun row mem => file.rows_noBreak row (rows ▸ mem))
        closed fun row mem => short row (List.mem_cons_of_mem _ mem)
      rw [lines, Csv.read_row file.header_noBreak file.header_closed isHeader, dictReader, records,
        List.filter_map, List.map_map]
      unfold JtlFile.dict
      rw [columns]
      rfl

end Reader

/-! ### The figures -/

/-- Two files come to the same figures. -/
structure SameFigures (stats stats' : JtlStats) : Prop where
  requests : stats.responseTimes.length = stats'.responseTimes.length
  failed : stats.failedReqs = stats'.failedReqs
  sum : stats.responseTimes.sum = stats'.responseTimes.sum
  percentiles : ∀ q ∈ [90, 95, 99],
    percentile ((stats.responseTimes.mergeSort (· ≤ ·)).map Json.int) q =
      percentile ((stats'.responseTimes.mergeSort (· ≤ ·)).map Json.int) q
  maximum : (stats.responseTimes.mergeSort (· ≤ ·)).getLast? =
    (stats'.responseTimes.mergeSort (· ≤ ·)).getLast?
  throughput : throughput stats.responseTimes.length stats.startTime stats.endTime =
    throughput stats'.responseTimes.length stats'.startTime stats'.endTime

theorem responseTimes_length (samples : List JtlSample) :
    (jtlStats samples).responseTimes.length = samples.length := by
  rw [jtlStats, responseTimes_foldl]
  simp

theorem jmeterSummary_avg {stats : JtlStats} (nonempty : stats.responseTimes ≠ []) :
    (jmeterSummary stats).get? "avg_response_ms" =
      some (.float (.finite (stats.responseTimes.sum / stats.responseTimes.length))) := by
  simp [jmeterSummary, Dict.get?_ofItems, nonempty]

theorem getLast?_mergeSort {times : List Int} (nonempty : times ≠ []) :
    ∃ x, (times.mergeSort (· ≤ ·)).getLast? = some x := by
  rw [← Option.isSome_iff_exists, List.getLast?_isSome]
  intro none_sorted
  have sameLength := (List.mergeSort_perm times (· ≤ ·)).length_eq
  rw [none_sorted, List.length_nil] at sameLength
  exact nonempty (List.eq_nil_of_length_eq_zero sameLength.symm)

theorem sameFigures_iff {stats stats' : JtlStats} :
    SameFigures stats stats' ↔ jmeterSummary stats = jmeterSummary stats' := by
  constructor
  · intro same
    have empty : stats.responseTimes.isEmpty = stats'.responseTimes.isEmpty := by
      rw [Bool.eq_iff_iff, List.isEmpty_iff_length_eq_zero, List.isEmpty_iff_length_eq_zero,
        same.requests]
    have rate : throughput stats'.responseTimes.length stats.startTime stats.endTime =
        throughput stats'.responseTimes.length stats'.startTime stats'.endTime :=
      same.requests ▸ same.throughput
    unfold jmeterSummary
    simp only [empty, same.requests, same.failed, same.sum, same.percentiles 90 (by simp),
      same.percentiles 95 (by simp), same.percentiles 99 (by simp), List.getLast?_map,
      same.maximum, rate]
  · intro same
    have requests := congrArg (fun summary => summary.get? "total_requests") same
    have failed := congrArg (fun summary => summary.get? "failed_requests") same
    have avg := congrArg (fun summary => summary.get? "avg_response_ms") same
    have p90 := congrArg (fun summary => summary.get? "p90_response_ms") same
    have p95 := congrArg (fun summary => summary.get? "p95_response_ms") same
    have p99 := congrArg (fun summary => summary.get? "p99_response_ms") same
    have maximum := congrArg (fun summary => summary.get? "max_response_ms") same
    have rate := congrArg (fun summary => summary.get? "throughput_rps") same
    simp [jmeterSummary, Dict.get?_ofItems] at requests failed p90 p95 p99 maximum rate
    by_cases empty : stats.responseTimes = []
    · have empty' : stats'.responseTimes = [] :=
        List.eq_nil_of_length_eq_zero (by rw [← requests, empty, List.length_nil])
      have times : stats.responseTimes = stats'.responseTimes := empty.trans empty'.symm
      exact ⟨requests, failed, by rw [times], fun q _ => by rw [times], by rw [times], rate⟩
    · have nonempty' : stats'.responseTimes ≠ [] := fun empty' =>
        empty (List.eq_nil_of_length_eq_zero (by rw [requests, empty', List.length_nil]))
      simp only [jmeterSummary_avg empty, jmeterSummary_avg nonempty', Option.some.injEq,
        Json.float.injEq, Double.finite.injEq, requests] at avg
      simp only [if_neg empty, if_neg nonempty'] at p90 p95 p99 maximum
      have length : (stats'.responseTimes.length : Rat) ≠ 0 :=
        Nat.cast_ne_zero.mpr (List.length_pos_iff.mpr nonempty').ne'
      refine ⟨requests, failed, ?_, ?_, ?_, rate⟩
      · exact Rat.intCast_inj.mp ((div_left_inj' length).mp avg)
      · simp only [List.forall_mem_cons]
        exact ⟨p90, p95, p99, fun _ mem => absurd mem List.not_mem_nil⟩
      · obtain ⟨x, isLast⟩ := getLast?_mergeSort empty
        obtain ⟨y, isLast'⟩ := getLast?_mergeSort nonempty'
        rw [isLast, isLast'] at maximum
        rw [isLast, isLast', Json.int.inj maximum]

/-- The mean and the span of the numbers of the rows are not beyond a float. -/
def FloatsFit [Runtime] (rows : List (Dict Json)) : Prop :=
  (jtlStats (samplesOf rows)).meanFits = true ∧ (jtlStats (samplesOf rows)).spanFits = true

/-- The damage of the file does no harm: it is read to its end, no field is too long, only
the last row may end inside quotation marks, which then gives no sample, no row is cut
short, and the well-formed rows' numbers are not beyond a float. -/
structure Undamaging [Runtime] (file : JtlFile) : Prop where
  readable : file.readError = none
  short : ∀ row ∈ file.header :: file.rows, JtlFile.isShort row = true
  closed : ∀ row ∈ file.rows.dropLast, ¬ Csv.IsOpen row
  last : ∀ row ∈ file.rows, Csv.IsOpen row → isWellFormedRow (file.dict row) = false
  whole : ∀ row ∈ file.rows, Csv.rowRecord csvFieldLimit fieldTooLong row ≠ [] →
    ¬ CutShort (file.dict row)
  floats : FloatsFit ((file.rows.filter file.isWellFormed).map file.dict)

/-- The file is read to its end, and the rows that are read come to the same figures as
the well-formed rows. -/
structure Unnoticed [Runtime] (file : JtlFile) : Prop where
  readable : file.reader.readError = none
  whole : ∀ row ∈ file.reader.records, ¬ CutShort row
  floats : FloatsFit file.reader.records
  floatsWellFormed : FloatsFit ((file.rows.filter file.isWellFormed).map file.dict)
  same : SameFigures (jtlStats (samplesOf file.reader.records))
    (jtlStats (samplesOf ((file.rows.filter file.isWellFormed).map file.dict)))

section File

variable [Runtime] {file : JtlFile}

/-- The sample of a row on its own. -/
def JtlFile.sample? (file : JtlFile) (row : List Char) : Option JtlSample :=
  (jtlSample (file.dict row)).toOption

theorem JtlFile.sample?_isSome (row : List Char) :
    (file.sample? row).isSome = isWellFormedRow (file.dict row) :=
  toOption_jtlSample_isSome (file.dict_texts row)

/-- When only the last row may be open, every row is read as on its own. -/
theorem JtlFile.samplesOf_reader (closed : ∀ row ∈ file.rows.dropLast, ¬ Csv.IsOpen row)
    (ended : file.reader.readError = none) :
    samplesOf file.reader.records = file.rows.filterMap file.sample? := by
  rw [reader_records closed ended, samplesOf, List.filterMap_map, List.filterMap_filter]
  refine List.filterMap_congr fun row _ => ?_
  cases blank : Csv.rowRecord csvFieldLimit fieldTooLong row with
  | nil =>
      have noSample : file.sample? row = none := by
        rw [← Option.not_isSome_iff_eq_none, JtlFile.sample?_isSome, dict, blank,
          isWellFormedRow_blank]
        exact Bool.false_ne_true
      rw [noSample]
      rfl
  | cons field fields => rfl

/-- The well-formed rows give the samples of those rows that end outside quotation
marks. -/
theorem JtlFile.samplesOf_wellFormed (rows : List (List Char)) :
    samplesOf ((rows.filter file.isWellFormed).map file.dict) =
      rows.filterMap fun row => if file.isWellFormed row then file.sample? row else none := by
  rw [samplesOf, List.filterMap_map, List.filterMap_filter]
  rfl

/-- For a row that ends outside quotation marks that makes no difference. -/
theorem JtlFile.sample?_of_closed {row : List Char} (short : isShort row = true)
    (closed : Csv.IsOpen row → isWellFormedRow (file.dict row) = false) :
    (if file.isWellFormed row then file.sample? row else none) = file.sample? row := by
  have isSome := @sample?_isSome _ file row
  cases wellFormed : isWellFormedRow (file.dict row) with
  | true =>
      have outside : ¬ Csv.IsOpen row := fun inside => by
        rw [closed inside] at wellFormed
        cases wellFormed
      rw [if_pos]
      simp [isWellFormed, outside, short, wellFormed]
  | false =>
      rw [wellFormed, Option.isSome_eq_false_iff, Option.isNone_iff_eq_none] at isSome
      rw [isSome, ite_self]

/-- An open last row that gives a sample is one request too many. -/
theorem last_of_same (closed : ∀ row ∈ file.rows.dropLast, ¬ Csv.IsOpen row)
    (short : ∀ row ∈ file.rows, JtlFile.isShort row = true)
    (same : (file.rows.filterMap file.sample?).length = (file.rows.filterMap fun row =>
      if file.isWellFormed row then file.sample? row else none).length) :
    ∀ row ∈ file.rows, Csv.IsOpen row → isWellFormedRow (file.dict row) = false := by
  rcases List.eq_nil_or_concat file.rows with empty | ⟨first, last, rows⟩
  · rw [empty]
    exact nofun
  · rw [List.concat_eq_append] at rows
    rw [rows] at closed short same ⊢
    rw [List.dropLast_concat] at closed
    have before : (first.filterMap fun row =>
        if file.isWellFormed row then file.sample? row else none) =
        first.filterMap file.sample? := by
      refine List.filterMap_congr fun row mem => ?_
      exact JtlFile.sample?_of_closed (short row (List.mem_append_left _ mem))
        fun isOpen => absurd isOpen (closed row mem)
    intro row mem isOpen
    rcases List.mem_append.mp mem with inFirst | isLast
    · exact absurd isOpen (closed row inFirst)
    · rw [List.mem_singleton] at isLast
      subst isLast
      have malformed : file.isWellFormed row = false := by simp [JtlFile.isWellFormed, isOpen]
      rw [List.filterMap_append, List.filterMap_append, before, List.length_append,
        List.length_append, Nat.add_left_cancel_iff] at same
      rw [← JtlFile.sample?_isSome]
      cases sampled : file.sample? row with
      | none => rfl
      | some sample => simp [sampled, malformed] at same

/-- Harmless damage has the samples of the well-formed rows. -/
theorem Undamaging.unnoticed (undamaging : Undamaging file) : Unnoticed file := by
  have ended := (JtlFile.readError_iff undamaging.closed).mpr
    ⟨undamaging.readable, undamaging.short⟩
  obtain ⟨_, short⟩ := List.forall_mem_cons.mp undamaging.short
  have samples : samplesOf file.reader.records =
      samplesOf ((file.rows.filter file.isWellFormed).map file.dict) := by
    rw [JtlFile.samplesOf_reader undamaging.closed ended, JtlFile.samplesOf_wellFormed]
    refine List.filterMap_congr fun row mem => ?_
    exact (JtlFile.sample?_of_closed (short row mem) (undamaging.last row mem)).symm
  refine ⟨ended, ?_, ?_, undamaging.floats, ?_⟩
  · intro row mem
    rw [JtlFile.reader_records undamaging.closed ended] at mem
    obtain ⟨text, inRows, rfl⟩ := List.mem_map.mp mem
    obtain ⟨inRows, nonblank⟩ := List.mem_filter.mp inRows
    exact undamaging.whole text inRows (by simpa using nonblank)
  · rw [FloatsFit, samples]
    exact undamaging.floats
  · rw [samples]
    exact sameFigures_iff.mpr rfl

/-- Where only the last row may be open, damage that nobody notices is harmless: every
row is counted on its own, so that nothing can make up for another. -/
theorem Unnoticed.undamaging (unnoticed : Unnoticed file)
    (closed : ∀ row ∈ file.rows.dropLast, ¬ Csv.IsOpen row) : Undamaging file := by
  have ended := unnoticed.readable
  obtain ⟨readable, short⟩ := (JtlFile.readError_iff closed).mp ended
  refine ⟨readable, short, closed, ?_, ?_, unnoticed.floatsWellFormed⟩
  · refine last_of_same closed (List.forall_mem_cons.mp short).2 ?_
    have requests := unnoticed.same.requests
    rw [responseTimes_length, responseTimes_length, JtlFile.samplesOf_reader closed ended,
      JtlFile.samplesOf_wellFormed] at requests
    exact requests
  · intro row mem nonblank
    refine unnoticed.whole _ ?_
    rw [JtlFile.reader_records closed ended]
    exact List.mem_map_of_mem (List.mem_filter.mpr ⟨mem, by simpa using nonblank⟩)

end File

end PLoadtesting.Worker
