import PLoadtesting.ControlPlane.ArtifactUpsert
import PLoadtesting.ControlPlane.ResultSummary
import Mathlib.Data.List.Sort
import Mathlib.Data.String.Basic

/-!
The artifacts of a task (`artifact_metadata_read_model` and the download
placeholder in `apps/tasks/read_models.py`).

Two sources are merged by identifier: the rows that manifests have registered, and
items derived from the conventions of the engine and the stored raw report. A
registered row replaces a derived item (`find?_mergedArtifactTable`). Instants are
left as instants; the view renders them.
-/

namespace PLoadtesting.ControlPlane

open Keyed Python Transaction

/-- An item of the listing. -/
structure ArtifactItem where
  artifactId : String
  kind : String
  name : String
  state : String
  sizeBytes : Option Int
  checksumSha256 : Option String
  contentType : Option String
  createdAt : Option Timestamp
  downloadAvailable : Bool
  downloadUrl : Option String
  provenanceEngine : String
  provenanceSource : String

/-- `task_artifact_to_item`. -/
def taskArtifactToItem (row : TaskArtifact) : ArtifactItem where
  artifactId := row.artifactId
  kind := row.kind
  name := row.name
  state := row.state
  sizeBytes := row.sizeBytes
  checksumSha256 := if row.checksumSha256 = "" then none else some row.checksumSha256
  contentType := row.contentType
  createdAt := some row.createdAt
  downloadAvailable := false
  downloadUrl := none
  provenanceEngine := row.provenanceEngine
  provenanceSource := row.provenanceSource

/-! ### Derived items -/

structure ArtifactSpec where
  artifactId : String
  kind : String
  name : String
  contentType : String

/-- The artifacts that an engine is known to make. -/
def artifactSpecs (engine : String) : List ArtifactSpec :=
  if engine = "k6" then
    [⟨"k6-summary-json", "summary_json", "summary.json", "application/json"⟩,
      ⟨"k6-stdout", "stdout", "stdout.txt", "text/plain"⟩,
      ⟨"k6-stderr", "stderr", "stderr.txt", "text/plain"⟩,
      ⟨"k6-engine-output", "engine_output", "raw-report.json", "application/json"⟩,
      ⟨"k6-html-report", "html_report", "report.html", "text/html"⟩]
  else if engine = "jmeter" then
    [⟨"jmeter-jtl", "jtl", "results.jtl", "text/csv"⟩,
      ⟨"jmeter-raw-log", "raw_log", "jmeter.log", "text/plain"⟩,
      ⟨"jmeter-stdout", "stdout", "stdout.txt", "text/plain"⟩,
      ⟨"jmeter-stderr", "stderr", "stderr.txt", "text/plain"⟩,
      ⟨"jmeter-engine-output", "engine_output", "raw-report.json", "application/json"⟩,
      ⟨"jmeter-html-report", "html_report", "report.html", "text/html"⟩]
  else
    [⟨"engine-output", "engine_output", "raw-report.json", "application/json"⟩,
      ⟨"unknown-artifact", "unknown", "artifact.bin", "application/octet-stream"⟩]

/-- `_raw_report`: the stored report, if it is an object. -/
def rawReportOf (db : Database) (task : LoadTestTask) : Dict Json :=
  match db.results.find? task.id with
  | none => Table.empty
  | some result => result.fields.rawReport.dictOrEmpty

/-- The state and the provenance source of a derived item. -/
def derivedState (hasResult : Bool) (rawReport : Dict Json) (kind : String) : String × String :=
  if kind = "stdout" && !isBlank ((rawReport.get? "stdout").getD .null) then
    ("available", "result_raw_report")
  else if kind = "stderr" && !isBlank ((rawReport.get? "stderr").getD .null) then
    ("available", "result_raw_report")
  else if kind = "engine_output" && !rawReport.rows.isEmpty then
    ("available", "result_raw_report")
  else if hasResult && ["summary_json", "jtl", "raw_log"].contains kind then
    ("missing", "worker_output")
  else ("planned", "engine_convention")

/-- `_artifact_item`. -/
def artifactItem (db : Database) (task : LoadTestTask) (spec : ArtifactSpec) : ArtifactItem :=
  let result := db.results.find? task.id
  let (state, provenanceSource) := derivedState result.isSome (rawReportOf db task) spec.kind
  { artifactId := spec.artifactId
    kind := spec.kind
    name := spec.name
    state
    sizeBytes := none
    checksumSha256 := none
    contentType := some spec.contentType
    createdAt := if state = "available" then result.map (·.collectedAt) else none
    downloadAvailable := false
    downloadUrl := none
    provenanceEngine := task.engine
    provenanceSource }

/-- `_derived_artifact_items`. -/
def derivedArtifactItems (db : Database) (task : LoadTestTask) : List ArtifactItem :=
  (artifactSpecs task.engine).map (artifactItem db task)

/-! ### The merged listing -/

/-- Items under their identifiers. -/
abbrev ArtifactTable := Table ArtifactItem.artifactId

/-- `_persisted_artifact_items`: the rows of `task.artifacts`. -/
def persistedArtifactItems (store : Store) (task : LoadTestTask) : ArtifactTable :=
  ((store.artifacts.rows.filter fun row => row.task = task.id).map taskArtifactToItem).foldl
    Table.upsert Table.empty

/-- The derived items, updated with the persisted ones. -/
def mergedArtifactTable (store : Store) (task : LoadTestTask) : ArtifactTable :=
  (persistedArtifactItems store task).rows.foldl Table.upsert
    ((derivedArtifactItems store.db task).foldl Table.upsert Table.empty)

/-- `_merged_artifact_items`: in the order of their identifiers. -/
def mergedArtifactItems (store : Store) (task : LoadTestTask) : List ArtifactItem :=
  (mergedArtifactTable store task).rows.insertionSort fun item item' =>
    item.artifactId ≤ item'.artifactId

/-- `_state_count`. -/
def stateCount (items : List ArtifactItem) (state : String) : Nat :=
  items.countP fun item => item.state = state

/-- The listing. -/
structure ArtifactListing where
  artifactManifestVersion : String
  taskId : TaskId
  count : Nat
  availableCount : Nat
  missingCount : Nat
  plannedCount : Nat
  expiredCount : Nat
  externalCount : Nat
  items : List ArtifactItem
  warnings : List ReadModelWarning

/-- `artifact_metadata_read_model`. -/
def artifactMetadataReadModel (store : Store) (task : LoadTestTask) : ArtifactListing :=
  let items := mergedArtifactItems store task
  { artifactManifestVersion := artifactManifestVersion
    taskId := task.id
    count := items.length
    availableCount := stateCount items "available"
    missingCount := stateCount items "missing"
    plannedCount := stateCount items "planned"
    expiredCount := stateCount items "expired"
    externalCount := stateCount items "external"
    items
    warnings := [] }

/-- `artifact_item_for_download`: the index of the items by identifier. -/
def artifactItemForDownload (store : Store) (task : LoadTestTask) (artifactId : String) :
    Option ArtifactItem :=
  ((mergedArtifactItems store task).foldl Table.upsert
    (Table.empty : ArtifactTable)).find? artifactId

/-- The answer to a download, with status `not_implemented`. -/
structure DownloadPlaceholder where
  taskId : TaskId
  artifactId : String
  status : String
  downloadAvailable : Bool
  warnings : List ReadModelWarning

/-- `artifact_download_placeholder_read_model`. -/
def artifactDownloadPlaceholderReadModel (store : Store) (task : LoadTestTask)
    (artifactId : String) : Option DownloadPlaceholder :=
  (artifactItemForDownload store task artifactId).map fun _ =>
    { taskId := task.id
      artifactId
      status := "not_implemented"
      downloadAvailable := false
      warnings := [⟨"artifact_download_not_implemented",
        "Artifact download is not implemented for this preview route yet."⟩] }

/-! ### Evidence -/

/-- The report holds a value under the key that is neither null nor empty. -/
def Shows (report : Dict Json) (key : String) : Prop :=
  ∃ value, report.get? key = some value ∧ isBlank value = false

/-- The report shows that an artifact of the kind exists. -/
def ShowsKind (report : Dict Json) (kind : String) : Prop :=
  kind = "stdout" ∧ Shows report "stdout" ∨ kind = "stderr" ∧ Shows report "stderr" ∨
    kind = "engine_output" ∧ report.rows ≠ []

/-- The stored raw report of the task is an object that shows the kind. -/
def HasEvidence (db : Database) (task : LoadTestTask) (kind : String) : Prop :=
  ∃ result report, db.results.find? task.id = some result ∧
    result.fields.rawReport.asDict? = some report ∧ ShowsKind report kind

theorem shows_iff {report : Dict Json} {key : String} :
    Shows report key ↔ isBlank ((report.get? key).getD .null) = false := by
  unfold Shows
  cases report.get? key with
  | none => simp [isBlank]
  | some value => simp

theorem not_showsKind_empty {kind : String} : ¬ ShowsKind Table.empty kind := by
  rintro (⟨_, _, found, _⟩ | ⟨_, _, found, _⟩ | ⟨_, rows⟩)
  · cases found
  · cases found
  · exact rows rfl

theorem hasEvidence_iff {db : Database} {task : LoadTestTask} {kind : String} :
    HasEvidence db task kind ↔ ShowsKind (rawReportOf db task) kind := by
  unfold HasEvidence rawReportOf Json.dictOrEmpty
  cases db.results.find? task.id with
  | none => simp [not_showsKind_empty]
  | some result =>
      cases object : result.fields.rawReport.asDict? with
      | none => simp [object, not_showsKind_empty]
      | some report => simp [object]

/-- A derived item is available if and only if the report shows its kind. -/
theorem derivedState_available_iff {hasResult : Bool} {report : Dict Json} {kind : String} :
    (derivedState hasResult report kind).1 = "available" ↔ ShowsKind report kind := by
  unfold derivedState ShowsKind
  rw [shows_iff, shows_iff]
  split
  · rename_i shown
    rw [Bool.and_eq_true, decide_eq_true_eq, Bool.not_eq_true'] at shown
    exact iff_of_true rfl (.inl shown)
  · rename_i noStdout
    split
    · rename_i shown
      rw [Bool.and_eq_true, decide_eq_true_eq, Bool.not_eq_true'] at shown
      exact iff_of_true rfl (.inr (.inl shown))
    · rename_i noStderr
      split
      · rename_i shown
        rw [Bool.and_eq_true, decide_eq_true_eq, Bool.not_eq_true', List.isEmpty_eq_false_iff]
          at shown
        exact iff_of_true rfl (.inr (.inr shown))
      · rename_i noOutput
        have unavailable (p : Prop) [Decidable p] : (if p then ("missing", "worker_output")
            else ("planned", "engine_convention")).1 ≠ "available" := by
          split
          · decide
          · decide
        refine iff_of_false (unavailable _) ?_
        rintro (⟨rfl, given⟩ | ⟨rfl, given⟩ | ⟨rfl, rows⟩)
        · simp [given] at noStdout
        · simp [given] at noStderr
        · simp [rows] at noOutput

theorem derivedState_mem (hasResult : Bool) (report : Dict Json) (kind : String) :
    (derivedState hasResult report kind).1 ∈ ["planned", "available", "missing"] := by
  unfold derivedState
  split
  · decide
  · split
    · decide
    · split
      · decide
      · split
        · decide
        · decide

/-! ### Rows that were registered -/

section Registered

variable [Runtime]

/-- The row is what the registry makes of some entry, with the creation time of the
row that was there. -/
def IsRegistered (row : TaskArtifact) : Prop :=
  ∃ task version now entry normalized, task.id = row.task ∧
    normalizeTaskArtifactMetadata task version now entry = .ok normalized ∧
    row = { normalized with createdAt := row.createdAt }

theorem IsRegistered.state_mem {row : TaskArtifact} (registered : IsRegistered row) :
    row.state ∈ allowedArtifactStates := by
  obtain ⟨task, version, now, entry, normalized, _, ok, same⟩ := registered
  obtain ⟨_, valid, described⟩ := normalize_ok ok
  rw [same, described]
  exact valid.state

/-- Every row is a registered one after a registration, however it ends. -/
theorem isRegistered_registerTaskArtifacts {columns : Columns} {task : LoadTestTask}
    {manifest : Json} {now : Timestamp} {store : Store}
    (registered : ∀ row ∈ store.artifacts, IsRegistered row) :
    ∀ row ∈ ((registerTaskArtifacts columns task manifest now).execute store).2.artifacts,
      IsRegistered row := by
  have step (version : String) (entry : Json) (store : Store)
      (registered : ∀ row ∈ store.artifacts, IsRegistered row) :
      ∀ row ∈ ((registerNormalizedTaskArtifact columns task version now entry).execute
        store).2.artifacts, IsRegistered row := by
    unfold registerNormalizedTaskArtifact
    cases ok : normalizeTaskArtifactMetadata task version now entry with
    | error e => exact registered
    | ok normalized =>
        cases taken : columns.artifact normalized with
        | error e =>
            show ∀ row ∈ ((Action.ofExcept (columns.artifact normalized) >>= _).execute
              store).2.artifacts, IsRegistered row
            rw [taken]
            exact registered
        | ok _ =>
            show ∀ row ∈ ((Action.ofExcept (columns.artifact normalized) >>= _).execute
              store).2.artifacts, IsRegistered row
            rw [taken]
            intro row mem
            rcases Table.mem_upsert.mp mem with rfl | ⟨old, _⟩
            · obtain ⟨_, _, same⟩ := normalize_ok ok
              exact ⟨task, version, now, entry, normalized, by rw [same]; rfl, ok, rfl⟩
            · exact registered row old
  unfold registerTaskArtifacts
  cases normalizeArtifactManifestPayload manifest with
  | error e => exact registered
  | ok parts => exact Action.preserves_forEach (step parts.1) parts.2 registered

end Registered

/-! ### What is listed -/

section Listing

variable {store : Store} {task : LoadTestTask}

theorem artifactSpecs_nodup (engine : String) :
    ((artifactSpecs engine).map ArtifactSpec.artifactId).Nodup := by
  unfold artifactSpecs
  split
  · decide
  · split
    · decide
    · decide

theorem map_artifactId_derived (db : Database) :
    (derivedArtifactItems db task).map ArtifactItem.artifactId =
      (artifactSpecs task.engine).map ArtifactSpec.artifactId := by
  unfold derivedArtifactItems
  rw [List.map_map]
  rfl

/-- The identifiers that are derived for k6, for JMeter and for any other engine. -/
theorem map_artifactId_derived_eq (db : Database) :
    (derivedArtifactItems db task).map ArtifactItem.artifactId =
      if task.engine = "k6" then
        ["k6-summary-json", "k6-stdout", "k6-stderr", "k6-engine-output", "k6-html-report"]
      else if task.engine = "jmeter" then
        ["jmeter-jtl", "jmeter-raw-log", "jmeter-stdout", "jmeter-stderr",
          "jmeter-engine-output", "jmeter-html-report"]
      else ["engine-output", "unknown-artifact"] := by
  rw [map_artifactId_derived]
  unfold artifactSpecs
  split
  · rfl
  · split
    · rfl
    · rfl

theorem find?_derived_eq_some_iff {db : Database} {id : String} {item : ArtifactItem} :
    ((derivedArtifactItems db task).foldl Table.upsert (Table.empty : ArtifactTable)).find? id =
        some item ↔
      item ∈ derivedArtifactItems db task ∧ item.artifactId = id := by
  have nodup := artifactSpecs_nodup task.engine
  rw [← map_artifactId_derived db] at nodup
  rw [Table.find?_eq_some_iff, Table.mem_def, Table.rows_upsertAll_of_fresh _ nodup
    (by simp [Table.empty])]
  rfl

/-- A persisted item is the row of its identifier. -/
theorem find?_persistedArtifactItems (id : String) :
    (persistedArtifactItems store task).find? id =
      (store.artifacts.find? (task.id, id)).map taskArtifactToItem := by
  unfold persistedArtifactItems
  rw [Table.find?_upsertAll]
  have mem_iff {item : ArtifactItem} : item ∈ ((store.artifacts.rows.filter fun row =>
      row.task = task.id).map taskArtifactToItem).reverse ↔
        ∃ row ∈ store.artifacts, row.task = task.id ∧ taskArtifactToItem row = item := by
    simp [Table.mem_def, and_assoc]
  cases found : ((store.artifacts.rows.filter fun row => row.task = task.id).map
      taskArtifactToItem).reverse.find? fun item => decide (item.artifactId = id) with
  | none =>
      have absent : store.artifacts.find? (task.id, id) = none := by
        refine Table.find?_eq_none_iff.mpr ?_
        intro row mem same
        obtain ⟨sameTask, sameId⟩ := Prod.mk.inj same
        exact List.find?_eq_none.mp found _ (mem_iff.mpr ⟨row, mem, sameTask, rfl⟩)
          (decide_eq_true sameId)
      rw [absent]
      rfl
  | some item =>
      obtain ⟨row, mem, sameTask, rfl⟩ := mem_iff.mp (List.mem_of_find?_eq_some found)
      have sameId : (taskArtifactToItem row).artifactId = id := by
        simpa using List.find?_some found
      have here : store.artifacts.find? (task.id, id) = some row :=
        Table.find?_eq_some_iff.mpr ⟨mem, Prod.ext sameTask sameId⟩
      rw [here]
      rfl

/-- The item of an identifier: a registered row's if there is one, else the derived
one. -/
theorem find?_mergedArtifactTable (id : String) :
    (mergedArtifactTable store task).find? id =
      ((store.artifacts.find? (task.id, id)).map taskArtifactToItem).or
        (((derivedArtifactItems store.db task).foldl Table.upsert
          (Table.empty : ArtifactTable)).find? id) := by
  unfold mergedArtifactTable
  rw [Table.find?_update, find?_persistedArtifactItems]

theorem mem_mergedArtifactItems {item : ArtifactItem} : item ∈ mergedArtifactItems store task ↔
    (mergedArtifactTable store task).find? item.artifactId = some item := by
  unfold mergedArtifactItems
  rw [List.mem_insertionSort, Table.find?_eq_some_iff, and_iff_left rfl, Table.mem_def]

/-- Each identifier once, in ascending order. -/
theorem mergedArtifactItems_ascending :
    ((mergedArtifactItems store task).map ArtifactItem.artifactId).Pairwise (· < ·) := by
  have sorted : ((mergedArtifactItems store task).map ArtifactItem.artifactId).Pairwise
      (· ≤ ·) := by
    rw [List.pairwise_map]
    have total : Std.Total fun item item' : ArtifactItem => item.artifactId ≤ item'.artifactId :=
      ⟨fun item item' => le_total item.artifactId item'.artifactId⟩
    have transitive : IsTrans ArtifactItem fun item item' => item.artifactId ≤ item'.artifactId :=
      ⟨fun _ _ _ => le_trans⟩
    exact List.pairwise_insertionSort _ _
  have distinct : ((mergedArtifactItems store task).map ArtifactItem.artifactId).Nodup :=
    ((List.perm_insertionSort _ _).map _).nodup_iff.mpr (mergedArtifactTable store task).keysNodup
  exact (sorted.and distinct).imp fun ⟨le, ne⟩ => lt_of_le_of_ne le ne

/-- A row of the task is listed, in the place of any derived item. -/
theorem taskArtifactToItem_mem {row : TaskArtifact} (mem : row ∈ store.artifacts)
    (own : row.task = task.id) : taskArtifactToItem row ∈ mergedArtifactItems store task := by
  have found : store.artifacts.find? (task.id, row.artifactId) = some row :=
    Table.find?_eq_some_iff.mpr ⟨mem, Prod.ext own rfl⟩
  rw [mem_mergedArtifactItems, find?_mergedArtifactTable]
  show ((store.artifacts.find? (task.id, row.artifactId)).map taskArtifactToItem).or _ = _
  rw [found]
  rfl

/-- An item is a row of the task, or a derived item that no row replaces. -/
theorem mem_mergedArtifactItems_cases {item : ArtifactItem}
    (mem : item ∈ mergedArtifactItems store task) :
    (∃ row ∈ store.artifacts, row.task = task.id ∧ item = taskArtifactToItem row) ∨
      (∀ row ∈ store.artifacts, row.task = task.id → row.artifactId ≠ item.artifactId) ∧
        item ∈ derivedArtifactItems store.db task := by
  rw [mem_mergedArtifactItems, find?_mergedArtifactTable] at mem
  cases found : store.artifacts.find? (task.id, item.artifactId) with
  | some row =>
      obtain ⟨inStore, same⟩ := Table.find?_eq_some_iff.mp found
      rw [found] at mem
      exact .inl ⟨row, inStore, congrArg Prod.fst same, (Option.some.inj mem).symm⟩
  | none =>
      rw [found] at mem
      refine .inr ⟨fun row inStore own same => ?_, (find?_derived_eq_some_iff.mp mem).1⟩
      exact Table.find?_eq_none_iff.mp found row inStore (Prod.ext own same)

/-- A derived item that no row replaces is listed. -/
theorem mem_mergedArtifactItems_of_derived {item : ArtifactItem}
    (derived : item ∈ derivedArtifactItems store.db task)
    (unreplaced : ∀ row ∈ store.artifacts, row.task = task.id →
      row.artifactId ≠ item.artifactId) : item ∈ mergedArtifactItems store task := by
  have absent : store.artifacts.find? (task.id, item.artifactId) = none := by
    refine Table.find?_eq_none_iff.mpr fun row inStore same => ?_
    exact unreplaced row inStore (congrArg Prod.fst same) (congrArg Prod.snd same)
  rw [mem_mergedArtifactItems, find?_mergedArtifactTable, absent]
  exact find?_derived_eq_some_iff.mpr ⟨derived, rfl⟩

/-- Identifiers are listed that are derived or registered. -/
theorem mem_map_artifactId {id : String} :
    id ∈ (mergedArtifactItems store task).map ArtifactItem.artifactId ↔
      id ∈ (artifactSpecs task.engine).map ArtifactSpec.artifactId ∨
        ∃ row ∈ store.artifacts, row.task = task.id ∧ row.artifactId = id := by
  constructor
  · intro mem
    obtain ⟨item, listed, rfl⟩ := List.mem_map.mp mem
    rcases mem_mergedArtifactItems_cases listed with ⟨row, inStore, own, rfl⟩ | ⟨_, derived⟩
    · exact .inr ⟨row, inStore, own, rfl⟩
    · rw [← map_artifactId_derived store.db]
      exact .inl (List.mem_map_of_mem derived)
  · rintro (derived | ⟨row, inStore, own, rfl⟩)
    · by_cases replaced : ∃ row ∈ store.artifacts, row.task = task.id ∧ row.artifactId = id
      · obtain ⟨row, inStore, own, rfl⟩ := replaced
        exact List.mem_map.mpr ⟨_, taskArtifactToItem_mem inStore own, rfl⟩
      · rw [← map_artifactId_derived store.db] at derived
        obtain ⟨item, mem, rfl⟩ := List.mem_map.mp derived
        refine List.mem_map_of_mem (mem_mergedArtifactItems_of_derived mem ?_)
        exact fun row inStore own same => replaced ⟨row, inStore, own, same⟩
    · exact List.mem_map.mpr ⟨_, taskArtifactToItem_mem inStore own, rfl⟩

/-- The download path finds what is listed. -/
theorem artifactItemForDownload_isSome_iff {id : String} :
    (artifactItemForDownload store task id).isSome = true ↔
      id ∈ (mergedArtifactItems store task).map ArtifactItem.artifactId := by
  unfold artifactItemForDownload
  rw [Table.find?_upsertAll, Option.isSome_or, Bool.or_eq_true, List.find?_isSome]
  simp [Table.find?, Table.empty]

/-- Items whose states are all known are counted once each. -/
theorem length_eq_stateCounts {items : List ArtifactItem}
    (known : ∀ item ∈ items, item.state ∈ allowedArtifactStates) :
    items.length = stateCount items "available" + stateCount items "missing" +
      stateCount items "planned" + stateCount items "expired" + stateCount items "external" := by
  unfold stateCount
  induction items with
  | nil => rfl
  | cons item items ih =>
      obtain ⟨here, rest⟩ := List.forall_mem_cons.mp known
      have counts := ih rest
      simp only [List.length_cons, List.countP_cons]
      simp only [allowedArtifactStates, List.mem_cons, List.not_mem_nil, or_false] at here
      rcases here with state | state | state | state | state
      all_goals
        simp only [state]
        simp
        omega

end Listing

/-- The listing says exactly what the task's rows and its derived items say. -/
structure ExactListing (store : Store) (task : LoadTestTask) (listing : ArtifactListing) :
    Prop where
  ascending : (listing.items.map ArtifactItem.artifactId).Pairwise (· < ·)
  ids : ∀ id, id ∈ listing.items.map ArtifactItem.artifactId ↔
    id ∈ (artifactSpecs task.engine).map ArtifactSpec.artifactId ∨
      ∃ row ∈ store.artifacts, row.task = task.id ∧ row.artifactId = id
  /-- Every row of the task is listed, and so replaces a derived item of its
  identifier. -/
  persisted : ∀ row ∈ store.artifacts, row.task = task.id →
    taskArtifactToItem row ∈ listing.items
  /-- The other items are derived, and available only with evidence. -/
  derived : ∀ item ∈ listing.items,
    (∀ row ∈ store.artifacts, row.task = task.id → row.artifactId ≠ item.artifactId) →
      item ∈ derivedArtifactItems store.db task ∧
        item.state ∈ ["planned", "available", "missing"] ∧
        (item.state = "available" → HasEvidence store.db task item.kind)
  count : listing.count = listing.items.length
  counts : listing.count = listing.availableCount + listing.missingCount + listing.plannedCount +
    listing.expiredCount + listing.externalCount
  downloads : ∀ id, (∃ payload, artifactDownloadPlaceholderReadModel store task id =
      some payload ∧ payload.artifactId = id) ↔
    id ∈ listing.items.map ArtifactItem.artifactId

section Exact

variable {store : Store} {task : LoadTestTask}

theorem derivedArtifactItems_state {db : Database} {item : ArtifactItem}
    (mem : item ∈ derivedArtifactItems db task) :
    item.state ∈ ["planned", "available", "missing"] ∧
      (item.state = "available" ↔ HasEvidence db task item.kind) := by
  obtain ⟨spec, _, rfl⟩ := List.mem_map.mp mem
  exact ⟨derivedState_mem _ _ _, derivedState_available_iff.trans hasEvidence_iff.symm⟩

/-- The listing of a task whose rows were registered is exact. -/
theorem artifactMetadataReadModel_exact [Runtime]
    (registered : ∀ row ∈ store.artifacts, row.task = task.id → IsRegistered row) :
    ExactListing store task (artifactMetadataReadModel store task) where
  ascending := mergedArtifactItems_ascending
  ids _ := mem_map_artifactId
  persisted _ mem own := taskArtifactToItem_mem mem own
  derived item mem unregistered := by
    rcases mem_mergedArtifactItems_cases mem with ⟨row, inStore, own, rfl⟩ | ⟨_, derived⟩
    · exact absurd rfl (unregistered row inStore own)
    · obtain ⟨state, evidence⟩ := derivedArtifactItems_state derived
      exact ⟨derived, state, evidence.mp⟩
  count := rfl
  counts := by
    refine length_eq_stateCounts fun item mem => ?_
    rcases mem_mergedArtifactItems_cases mem with ⟨row, inStore, own, rfl⟩ | ⟨_, derived⟩
    · exact (registered row inStore own).state_mem
    · have known : ["planned", "available", "missing"] ⊆ allowedArtifactStates := by decide
      exact known (derivedArtifactItems_state derived).1
  downloads id := by
    refine Iff.trans ?_ artifactItemForDownload_isSome_iff
    rw [Option.isSome_iff_exists]
    unfold artifactDownloadPlaceholderReadModel
    constructor
    · rintro ⟨payload, made, _⟩
      obtain ⟨item, found, _⟩ := Option.map_eq_some_iff.mp made
      exact ⟨item, found⟩
    · rintro ⟨item, found⟩
      rw [found]
      exact ⟨_, rfl, rfl⟩

/-- A task with one registered artifact. -/
theorem stdoutStore_exact : ExactListing (stdoutStore []) runningTask
    (artifactMetadataReadModel (stdoutStore []) runningTask) := by
  let _ := asciiRuntime
  refine artifactMetadataReadModel_exact ?_
  intro row mem _
  rcases Table.mem_upsert.mp mem with rfl | ⟨old, _⟩
  · exact ⟨runningTask, "1.0", 1, stdoutEntry [], _, rfl, rfl, rfl⟩
  · exact absurd old Table.not_mem_empty

end Exact

end PLoadtesting.ControlPlane
