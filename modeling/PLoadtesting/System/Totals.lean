import PLoadtesting.ControlPlane.ResultCallback
import PLoadtesting.ControlPlane.ResultSummary
import PLoadtesting.Worker.Reports
import PLoadtesting.Worker.RunFiles

/-!
The number of requests of a run, from the output file over the worker's summary
to the stored result, the read model and InfluxDB.

Both summarisers count the requests under `raw_report`, which InfluxDB gets.
Only JMeter's writes the count at the top level too, where the serializer of the
Control Plane looks for it. A k6 result is stored with the default of the
column, so it is right for runs without requests only (`totalsMatch_iff`).
-/

namespace PLoadtesting.System

open Keyed Python ControlPlane Worker

/-! ### Runs -/

/-- The output file of a run. -/
inductive RunFile where
  | k6 (lines : List K6Line)
  | jmeter (rows : List (Dict Json))

namespace RunFile

/-- Every record has the form that its engine writes. -/
def WellFormed : RunFile → Prop
  | .k6 lines => ∀ line ∈ lines, line.WellFormed
  | .jmeter rows => ∀ row ∈ rows, WellFormedRow row

/-- The number of requests recorded in the file. -/
def requests : RunFile → Nat
  | .k6 lines => k6Requests lines
  | .jmeter rows => rows.length

/-- The branch of `execute_task` that reads the file. -/
def branch [Runtime] (config : WorkerConfig) (world : EngineWorld) (prepared : Prepared)
    (parameters : Json) : RunFile → EngineBranch
  | .k6 lines =>
      k6Branch config { world with k6Output := some ⟨lines, none⟩ } prepared parameters
  | .jmeter rows =>
      jmeterBranch config { world with jtlOutput := some ⟨rows, none⟩ } prepared parameters

end RunFile

/-! ### The posted summary -/

/-- What a summary says about the number of requests: `top` at the top level,
`n` in its report. -/
structure SummaryTotals (summary : Dict Json) (top : Option Json) (n : Nat) : Prop where
  top : summary.get? "total_requests" = top
  raw : ∃ report, rawReport? summary = some report ∧ report.get? "total_requests" = some (.int n)

/-- Another key does not matter. -/
theorem SummaryTotals.set_other {summary : Dict Json} {top : Option Json} {n : Nat}
    (totals : SummaryTotals summary top n) {key : String} (other : key ≠ "total_requests")
    (notReport : key ≠ "raw_report") (value : Json) :
    SummaryTotals (summary.set key value) top n := by
  obtain ⟨topLevel, report, found, total⟩ := totals
  refine ⟨?_, report, ?_, total⟩
  · rw [Dict.get?_set, if_neg other.symm, topLevel]
  · unfold rawReport?
    rw [Dict.get?_set, if_neg notReport.symm]
    exact found

/-- A report with the same count does not matter. -/
theorem SummaryTotals.set_report {summary : Dict Json} {top : Option Json} {n : Nat}
    (totals : SummaryTotals summary top n) {report : Dict Json}
    (total : report.get? "total_requests" = some (.int n)) :
    SummaryTotals (summary.set "raw_report" (dictJson report)) top n := by
  refine ⟨?_, report, ?_, total⟩
  · rw [Dict.get?_set, if_neg (by decide), totals.top]
  · unfold rawReport?
    rw [Dict.get?_set, if_pos rfl]
    exact asDict?_dictJson report

/-- k6's summary has the count in the report only. -/
theorem k6_totals {lines : List K6Line} (wellFormed : ∀ line ∈ lines, line.WellFormed) :
    SummaryTotals (calculateK6Summary (some ⟨lines, none⟩)) none (k6Requests lines) := by
  obtain ⟨sum, _, summary⟩ := calculateK6Summary_wellFormed wellFormed
  rw [summary]
  refine ⟨?_, ?_⟩
  · simp [k6SummaryItems, Dict.get?_ofItems]
  · simp [k6SummaryItems, rawReport?, Dict.get?_ofItems, Json.asDict?]

section Posted

variable [Runtime] {config : WorkerConfig} {world : EngineWorld} {prepared : Prepared}
  {parameters : Json}

/-- JMeter's summary has it in both places. -/
theorem jmeter_totals {rows : List (Dict Json)} (wellFormed : ∀ row ∈ rows, WellFormedRow row) :
    SummaryTotals (calculateJmeterSummary (some ⟨rows, none⟩)) (some (.int rows.length))
      rows.length := by
  obtain ⟨stats, summary, responses⟩ := calculateJmeterSummary_wellFormed wellFormed
  rw [summary, ← responses]
  refine ⟨?_, ?_⟩
  · simp [jmeterSummary, Dict.get?_ofItems]
  · simp [jmeterSummary, rawReport?, Dict.get?_ofItems, Json.asDict?]

/-- The report, the shard and the manifest leave the count alone. -/
theorem completeSummary_totals [Hashing] {branch : EngineBranch} {top : Option Json} {n : Nat}
    (totals : SummaryTotals branch.summary top n) {report : List (String × Json)}
    (fresh : ∀ item ∈ report, item.1 ≠ "total_requests") {summary : Dict Json}
    (completed : completeSummary branch prepared report = .ok summary) :
    SummaryTotals summary top n := by
  obtain ⟨raw, found, total⟩ := totals.raw
  obtain ⟨updated, update, completed⟩ := bind_ok_iff.mp completed
  cases completed
  have updatedTotals : SummaryTotals updated top n := by
    unfold updateRawReport at update
    rw [found] at update
    cases update
    refine totals.set_report ?_
    have absent : report.reverse.find? (fun p => decide (p.1 = "total_requests")) = none := by
      refine List.find?_eq_none.mpr ?_
      intro item mem same
      exact fresh item (List.mem_reverse.mp mem) (of_decide_eq_true same)
    rw [Dict.get?_update, absent, total]
    rfl
  refine SummaryTotals.set_other ?_ (by decide) (by decide) _
  unfold attachShardMetadata
  split
  · exact updatedTotals
  · split
    · exact updatedTotals
    · obtain ⟨raw', found', total'⟩ := updatedTotals.raw
      refine updatedTotals.set_report ?_
      rw [found', Dict.get?_set, if_neg (by decide)]
      exact total'

/-- The count at the top level of a run's summary. -/
def RunFile.topTotal : RunFile → Option Json
  | .k6 _ => none
  | .jmeter rows => some (.int rows.length)

theorem branch_totals {file : RunFile} (wellFormed : file.WellFormed) :
    SummaryTotals (file.branch config world prepared parameters).summary file.topTotal
      file.requests := by
  cases file with
  | k6 lines => exact k6_totals wellFormed
  | jmeter rows => exact jmeter_totals wellFormed

/-- The posted result of a finished run. -/
theorem exitResult_totals [Hashing] {file : RunFile} (wellFormed : file.WellFormed)
    {returncode : Int} {stdout stderr : String} {payload : Json}
    (posted : exitResult (file.branch config world prepared parameters) prepared returncode stdout
      stderr = .ok payload) :
    ∃ summary, payload = dictJson summary ∧
      SummaryTotals summary file.topTotal file.requests := by
  obtain ⟨summary, completed, posted⟩ := bind_ok_iff.mp posted
  have totals := completeSummary_totals (branch_totals wellFormed) (by simp) completed
  split at posted
  · cases posted
    exact ⟨_, rfl, (totals.set_other (by decide) (by decide) _).set_other (by decide) (by decide) _⟩
  · cases posted
    exact ⟨_, rfl, totals.set_other (by decide) (by decide) _⟩

end Posted

/-! ### The stored result -/

/-- The serializer takes the report as it is and the total as a number, with the
default of the column when there is none. -/
structure SerializesTotals (serializer : ResultSerializer) : Prop where
  rawReport : ∀ {data report manifest}, serializer (dictJson data) = .ok (report, manifest) →
    data.get? "raw_report" = some report.fields.rawReport
  omitted : ∀ {data report manifest}, serializer (dictJson data) = .ok (report, manifest) →
    data.get? "total_requests" = none → report.fields.totalRequests = 0
  given : ∀ {data report manifest} {n : Nat}, serializer (dictJson data) = .ok (report, manifest) →
    data.get? "total_requests" = some (.int n) → report.fields.totalRequests = n

/-- The stored total, the total that the read model shows, the total of the
stored report and the total for InfluxDB are all `n`. -/
structure TotalsMatch (n : Nat) (summary : Dict Json) (db : Database) (id : TaskId) : Prop where
  stored : (db.results.find? id).map (·.fields.totalRequests) = some n
  readModel : ∀ task, db.tasks.find? id = some task →
    (resultSummaryReadModel db task).totalRequests = some n
  rawReport : ((db.results.find? id).bind fun result =>
    result.fields.rawReport.dictOrEmpty.get? "total_requests") = some (.int n)
  pushed : pushedCount summary "total_requests" = .ok (n : Int)

section Stored

variable [Runtime] [Hashing] {config : WorkerConfig} {world : EngineWorld} {prepared : Prepared}
  {parameters : Json} {serializer : ResultSerializer} {columns : Columns} {store store' : Store}
  {id : TaskId} {now : Timestamp}

omit [Runtime] [Hashing] in
/-- With the total in the report, everything else depends on the stored total. -/
theorem totalsMatch_iff_stored {n : Nat} {summary raw : Dict Json} {db : Database}
    {fields : ResultFields} (found : db.results.find? id = some ⟨id, fields, now⟩)
    (posted : summary.get? "raw_report" = some fields.rawReport)
    (asDict : fields.rawReport.asDict? = some raw)
    (total : raw.get? "total_requests" = some (.int n)) :
    TotalsMatch n summary db id ↔ fields.totalRequests = n := by
  constructor
  · intro totals
    have := totals.stored
    rw [found] at this
    exact Option.some.inj this
  · intro same
    refine ⟨by rw [found, ← same]; rfl, ?_, ?_, ?_⟩
    · intro task inTasks
      obtain ⟨_, rfl⟩ := Table.find?_eq_some_iff.mp inTasks
      rw [totalRequests_resultSummary, found, ← same]
      rfl
    · rw [found, Option.bind_some]
      show (fields.rawReport.asDict?.getD Table.empty).get? "total_requests" = _
      rw [asDict, Option.getD_some, total]
    · unfold pushedCount
      rw [posted, Option.getD_some]
      dsimp only
      rw [asDict]
      dsimp only
      rw [total]
      rfl

/-- The totals of a finished run match if and only if the engine is JMeter or no
request is recorded. -/
theorem totalsMatch_iff (laws : SerializesTotals serializer) {file : RunFile}
    (wellFormed : file.WellFormed) {returncode : Int} {stdout stderr : String} {payload : Json}
    (posted : exitResult (file.branch config world prepared parameters) prepared returncode stdout
      stderr = .ok payload) {task : TaskId}
    (stored : postCallback serializer columns store id payload now = (.created task, store')) :
    TotalsMatch file.requests payload.dictOrEmpty store'.db id ↔
      (∃ rows, file = .jmeter rows) ∨ file.requests = 0 := by
  obtain ⟨summary, rfl, totals⟩ := exitResult_totals wellFormed posted
  obtain ⟨report, manifest, validated, found⟩ := postCallback_created stored
  obtain ⟨raw, hasRaw, total⟩ := totals.raw
  have kept := laws.rawReport validated
  have asDict : report.fields.rawReport.asDict? = some raw := by
    unfold rawReport? at hasRaw
    rw [kept] at hasRaw
    exact hasRaw
  rw [dictOrEmpty_dictJson, totalsMatch_iff_stored found kept asDict total]
  cases file with
  | jmeter rows => exact iff_of_true (laws.given validated totals.top) (.inl ⟨rows, rfl⟩)
  | k6 lines =>
      rw [laws.omitted validated totals.top]
      constructor
      · intro none_
        exact .inr none_.symm
      · rintro (⟨rows, other⟩ | none_)
        · cases other
        · exact none_.symm

/-- The totals of every stored run match. -/
def EveryTotalMatches : Prop :=
  ∀ (serializer : ResultSerializer) (columns : Columns) (store store' : Store) (id task : TaskId)
    (config : WorkerConfig) (world : EngineWorld) (prepared : Prepared) (parameters payload : Json)
    (file : RunFile) (returncode : Int) (stdout stderr : String) (now : Timestamp),
    SerializesTotals serializer → file.WellFormed →
    exitResult (file.branch config world prepared parameters) prepared returncode stdout stderr =
      .ok payload →
    postCallback serializer columns store id payload now = (.created task, store') →
    TotalsMatch file.requests payload.dictOrEmpty store'.db id

end Stored

/-! ### Runs of one request -/

theorem plainSerializer_ok {data : Dict Json} {report : Report} {manifest : Json}
    (read : plainSerializer (dictJson data) = .ok (report, manifest)) :
    data.get? "raw_report" = some report.fields.rawReport ∧
      countField (data.get? "total_requests") = .ok report.fields.totalRequests := by
  unfold plainSerializer at read
  rw [asDict?_dictJson] at read
  obtain ⟨raw, hasRaw, read⟩ := bind_ok_iff.mp read
  obtain ⟨total, hasTotal, read⟩ := bind_ok_iff.mp read
  iterate 9 obtain ⟨_, _, read⟩ := bind_ok_iff.mp read
  cases read
  refine ⟨?_, hasTotal⟩
  cases found : data.get? "raw_report" with
  | none =>
      rw [found] at hasRaw
      cases hasRaw
  | some value =>
      rw [found] at hasRaw
      cases hasRaw
      rfl

theorem countField_natCast {n count : Nat} (read : countField (some (.int n)) = .ok count) :
    count = n := by
  have unfolded : countField (some (.int n)) =
      if 0 ≤ (n : Int) ∧ (n : Int) ≤ 2147483647 then .ok (n : Int).toNat
      else .error (.validationError (.arr [.str "Ensure this value is in range."])) := rfl
  rw [unfolded] at read
  split at read
  · exact (Except.ok.inj read).symm
  · cases read

theorem plainSerializer_serializes : SerializesTotals plainSerializer where
  rawReport read := (plainSerializer_ok read).1
  omitted read absent := by
    have counted := (plainSerializer_ok read).2
    rw [absent] at counted
    exact (Except.ok.inj counted).symm
  given read given := by
    have counted := (plainSerializer_ok read).2
    rw [given] at counted
    exact countField_natCast counted

/-- The digests of the reports of two runs that exit with 0 and no output. -/
@[reducible] def jmeterRunHashing : Hashing where
  sha256 _ := "e7efcef04b5817bb817af232518b850fb1905798aa9e81f1dfb11ce8c016c391"

@[reducible] def k6RunHashing : Hashing where
  sha256 _ := "a014e50b56cbf031c2674cc71fcda8c08732141c7f1e213df9e68f89ae9a76d5"

def preparedRun : Prepared := ⟨"t", none, none, none, "/app/engines/k6/smoke.js"⟩

def oneRow : RunFile := .jmeter [Dict.ofItems [("timeStamp", .str "1700000000000"),
  ("elapsed", .str "12"), ("success", .str "true")]]

def onePoint : RunFile := .k6 [.value (.obj [("type", .str "Point"), ("metric", .str "http_reqs"),
  ("data", .obj [("value", .int 1)])])]

/-- The result that the run posts. -/
def postedResult [Runtime] [Hashing] (file : RunFile) : Except Exc Json :=
  exitResult (file.branch plainWorker (processWorld (.exited 0 "" "")) preparedRun (.obj []))
    preparedRun 0 "" ""

/-- The answer to the posted result is 201, and `total` is stored. -/
def storesTotal [Runtime] (posted : Except Exc Json) (total : Nat) : Bool :=
  match posted with
  | .error _ => false
  | .ok payload =>
      match postCallback plainSerializer openColumns runningStore "t" payload 9 with
      | (.created _, store) =>
          (store.db.results.find? "t").map (·.fields.totalRequests) == some total
      | _ => false

theorem storesTotal_run [Runtime] {posted : Except Exc Json} {total : Nat}
    (stores : storesTotal posted total = true) :
    ∃ payload task store, posted = .ok payload ∧
      postCallback plainSerializer openColumns runningStore "t" payload 9 =
        (.created task, store) ∧
      (store.db.results.find? "t").map (·.fields.totalRequests) = some total := by
  unfold storesTotal at stores
  split at stores
  · cases stores
  · rename_i payload
    split at stores
    · rename_i task store created
      exact ⟨payload, task, store, rfl, created, eq_of_beq stores⟩
    · cases stores

theorem oneRow_wellFormed : oneRow.WellFormed := by
  intro row mem
  cases List.mem_singleton.mp mem
  exact ⟨⟨"1700000000000", 1700000000000, rfl, by decide⟩, ⟨"12", 12, rfl, by decide⟩,
    ⟨"true", rfl⟩⟩

theorem onePoint_wellFormed : onePoint.WellFormed := by
  intro line mem
  cases List.mem_singleton.mp mem
  refine .value rfl (fun _ => ⟨.int 1, 1, rfl, by decide⟩) ?_
  intro isDuration
  have other : isPointOf "http_req_duration" (.obj [("type", .str "Point"),
      ("metric", .str "http_reqs"), ("data", .obj [("value", .int 1)])]) = false := by decide
  cases other.symm.trans isDuration

/-- A JMeter run of one request is stored with its total. -/
theorem oneRow_totalsMatch : ∃ payload task store,
    @postedResult asciiRuntime jmeterRunHashing oneRow = .ok payload ∧
      @postCallback asciiRuntime plainSerializer openColumns runningStore "t" payload 9 =
        (.created task, store) ∧
      TotalsMatch oneRow.requests payload.dictOrEmpty store.db "t" := by
  let _ := asciiRuntime
  let _ := jmeterRunHashing
  have stores : storesTotal (postedResult oneRow) 1 = true := by decide +kernel
  obtain ⟨payload, task, store, posted, created, _⟩ := storesTotal_run stores
  exact ⟨payload, task, store, posted, created,
    (totalsMatch_iff plainSerializer_serializes oneRow_wellFormed posted created).mpr
      (.inl ⟨_, rfl⟩)⟩

/-- A k6 run of one request is stored with the total 0. -/
theorem onePoint_totalsDiffer : ¬ @EveryTotalMatches asciiRuntime k6RunHashing := by
  let _ := asciiRuntime
  let _ := k6RunHashing
  intro every
  have stores : storesTotal (postedResult onePoint) 0 = true := by decide +kernel
  obtain ⟨payload, task, store, posted, created, zero⟩ := storesTotal_run stores
  have one := (every plainSerializer openColumns runningStore store "t" task plainWorker
    (processWorld (.exited 0 "" "")) preparedRun (.obj []) payload onePoint 0 "" "" 9
    plainSerializer_serializes onePoint_wellFormed posted created).stored
  rw [zero] at one
  revert one
  decide

end PLoadtesting.System
