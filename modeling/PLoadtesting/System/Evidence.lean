import PLoadtesting.ControlPlane.ArtifactListing
import PLoadtesting.System.Manifests
import PLoadtesting.Lib.Transition

/-!
What worker and Control Plane take for evidence of the standard output, the
standard error and the engine output of a run.

The worker writes the state into its manifest; the Control Plane derives one from
the stored raw report. Each has its own table of engines and its own rules. They
agree on every engine and every report (`entryEvidence_eq`), and so a listing shows
the same of these artifacts with the manifest and without it
(`listing_agrees_with_worker`).
-/

namespace PLoadtesting.System

open Keyed Python Transaction ControlPlane Worker Transition

/-- The kinds whose evidence is in the raw report. -/
def evidenceKinds : List String := ["stdout", "stderr", "engine_output"]

/-- A text of an entry. -/
def entryText (entry : Json) (key : String) : String :=
  (optionalTextOf (objectField entry key)).getD ""

/-- The identifiers of those kinds in a manifest, and which are available. -/
def entryEvidence (entries : List Json) : List (String × Bool) :=
  (entries.filter fun entry => evidenceKinds.contains (entryText entry "kind")).map fun entry =>
    (entryText entry "artifact_id", entryText entry "state" = "available")

/-- The identifiers of those kinds in a listing, and which are available. -/
def itemEvidence (items : List ArtifactItem) : List (String × Bool) :=
  (items.filter fun item => evidenceKinds.contains item.kind).map fun item =>
    (item.artifactId, item.state = "available")

/-! ### The rules of the two sides -/

section Rules

theorem isGiven_eq (value : Json) : isGiven value = !isBlank value := by
  cases value with
  | str s => by_cases empty : s = "" <;> simp [isGiven, isBlank, empty]
  | _ => rfl

/-- The raw report that a worker posts. -/
def postedReport (result : Dict Json) : Dict Json :=
  ((result.get? "raw_report").getD .null).dictOrEmpty

theorem entryText_of_entryField {entry : Json} {key text : String}
    (read : entryField entry key = .ok (.str text)) : entryText entry key = text := by
  unfold entryField at read
  unfold entryText objectField
  cases object : entry.asDict? with
  | none =>
      rw [object] at read
      cases read
  | some d =>
      rw [object] at read
      have found : field d key = .str text := Except.ok.inj read
      by_cases empty : text = ""
      · simp [found, optionalTextOf, empty]
      · simp [found, optionalTextOf, empty]

section Worker

variable [Hashing]

theorem entryText_kind (source : EntrySource) (taskId : String) :
    entryText (source.entry taskId) "kind" = source.texts.kind :=
  entryText_of_entryField (entryField_entry (List.mem_of_getElem? (i := 1) rfl))

theorem entryText_artifactId (source : EntrySource) (taskId : String) :
    entryText (source.entry taskId) "artifact_id" = source.texts.artifactId :=
  entryText_of_entryField (entryField_entry (List.mem_of_getElem? (i := 0) rfl))

theorem entryText_state (source : EntrySource) (taskId : String) :
    entryText (source.entry taskId) "state" = source.state :=
  entryText_of_entryField (entryField_entry (List.mem_of_getElem? (i := 3) rfl))

omit [Hashing] in
theorem state_available_iff (source : EntrySource) :
    source.state = "available" ↔ source.available = true := by
  unfold EntrySource.state
  cases source.available with
  | true => simp
  | false => simp

/-- The evidence of the entries that the builder makes of its sources. -/
theorem entryEvidence_sources (sources : List EntrySource) (taskId : String) :
    entryEvidence (sources.map (·.entry taskId)) =
      (sources.filter fun source => evidenceKinds.contains source.texts.kind).map fun source =>
        (source.texts.artifactId, source.available) := by
  unfold entryEvidence
  rw [List.filter_map, List.map_map]
  have kinds : ((fun entry => evidenceKinds.contains (entryText entry "kind")) ∘
      fun source : EntrySource => source.entry taskId) =
        fun source => evidenceKinds.contains source.texts.kind := by
    funext source
    rw [Function.comp_apply, entryText_kind]
  rw [kinds]
  refine List.map_congr_left ?_
  intro source _
  rw [Function.comp_apply, entryText_artifactId, entryText_state]
  simp only [state_available_iff, Bool.decide_eq_true]

end Worker

/-- A derived item of the kind is available. -/
def derivedAvailable (hasResult : Bool) (report : Dict Json) (kind : String) : Bool :=
  (derivedState hasResult report kind).1 = "available"

theorem derivedAvailable_iff {hasResult : Bool} {report : Dict Json} {kind : String} :
    derivedAvailable hasResult report kind = true ↔ ShowsKind report kind :=
  decide_eq_true_iff.trans derivedState_available_iff

/-- The evidence of the derived items. -/
theorem itemEvidence_derived (db : Database) (task : LoadTestTask) :
    itemEvidence (derivedArtifactItems db task) =
      ((artifactSpecs task.engine).filter fun spec => evidenceKinds.contains spec.kind).map
        fun spec => (spec.artifactId, derivedAvailable (db.results.find? task.id).isSome
          (rawReportOf db task) spec.kind) := by
  unfold itemEvidence derivedArtifactItems
  rw [List.filter_map, List.map_map]
  rfl

theorem derivedAvailable_stdout (hasResult : Bool) (report : Dict Json) :
    derivedAvailable hasResult report "stdout" =
      isGiven ((report.get? "stdout").getD .null) := by
  rw [isGiven_eq, Bool.eq_iff_iff, derivedAvailable_iff]
  simp [ShowsKind, shows_iff]

theorem derivedAvailable_stderr (hasResult : Bool) (report : Dict Json) :
    derivedAvailable hasResult report "stderr" =
      isGiven ((report.get? "stderr").getD .null) := by
  rw [isGiven_eq, Bool.eq_iff_iff, derivedAvailable_iff]
  simp [ShowsKind, shows_iff]

theorem derivedAvailable_engineOutput (hasResult : Bool) (report : Dict Json) :
    derivedAvailable hasResult report "engine_output" = !report.rows.isEmpty := by
  rw [Bool.eq_iff_iff, derivedAvailable_iff]
  simp [ShowsKind]

/-- Both sides name the same artifacts, and find evidence for the same of them. -/
theorem entryEvidence_eq [Runtime] [Hashing] {db : Database} {task : LoadTestTask}
    {result : Dict Json} (stored : rawReportOf db task = postedReport result) :
    entryEvidence (buildArtifactManifestEntries task.id (.str task.engine) result) =
      itemEvidence (derivedArtifactItems db task) := by
  rw [buildEntries_eq, entryEvidence_sources, itemEvidence_derived, stored]
  unfold manifestSources artifactSpecs
  by_cases k6 : task.engine = "k6"
  · simp [Json.eqStr, k6, evidenceKinds, derivedAvailable_stdout, derivedAvailable_stderr,
      derivedAvailable_engineOutput, postedReport]
  · by_cases jmeter : task.engine = "jmeter"
    · simp [Json.eqStr, jmeter, evidenceKinds, derivedAvailable_stdout, derivedAvailable_stderr,
        derivedAvailable_engineOutput, postedReport]
    · simp [Json.eqStr, k6, jmeter, evidenceKinds, derivedAvailable_engineOutput, postedReport]

end Rules

/-! ### Stored reports -/

/-- What the serializer's JSON fields do: they pass values on as they are. -/
structure PassesJson (serializer : ResultSerializer) : Prop where
  rawReport {data : Dict Json} {report : Report} {manifest : Json}
    (read : serializer (dictJson data) = .ok (report, manifest)) :
    report.fields.rawReport = (data.get? "raw_report").getD .null
  manifest {data : Dict Json} {report : Report} {manifest : Json}
    (read : serializer (dictJson data) = .ok (report, manifest)) :
    manifest = (data.get? "artifact_manifest").getD .null

/-- Every row belongs to a task that has a result. -/
def RowsHaveResults (store : Store) : Prop :=
  ∀ row ∈ store.artifacts, store.db.hasResult row.task = true

section Storing

variable [Runtime] {serializer : ResultSerializer} {columns : Columns} {store store' : Store}
  {task : LoadTestTask} {report : Report} {manifest : Json} {now : Timestamp}

/-- A transaction that commits has stored the report and registered the manifest on
the artifacts from before. -/
theorem storeReport_ok (first : store.db.hasResult task.id = false)
    (ran : (storeReport columns task report manifest now).execute store = (.ok (), store')) :
    (∃ before after, before.artifacts = store.artifacts ∧
      RegistersAll task manifest now before after ∧ store'.artifacts = after.artifacts) ∧
    store'.db = { store.db with
      results := store.db.results.upsert ⟨task.id, report.fields, now⟩ }.saveFinished
        task report now := by
  obtain ⟨_, ran', written⟩ := @storeReport_execute _ columns task report manifest now _ first
  obtain ⟨outcome, rfl⟩ := Prod.mk.inj (ran'.symm.trans ran)
  refine ⟨?_, written outcome⟩
  have taken : columns.result report.fields = .ok () := by
    unfold storeOutcome at outcome
    cases taken : columns.result report.fields with
    | ok _ => rfl
    | error e =>
        rw [taken] at outcome
        cases outcome
  unfold storeReport at ran
  rw [Action.execute_bind_of_ok (createResult_execute first taken)] at ran
  obtain ⟨⟨⟩, after, registered, wrote⟩ := Action.execute_bind_ok_iff.mp ran
  obtain ⟨_, rfl⟩ := Prod.mk.inj wrote
  have registers := registersAll_of_ok registered
  exact ⟨_, after, by rfl, registers, rfl⟩

/-- After a stored report its task has a result, and the others have theirs. -/
theorem hasResult_storeReport (first : store.db.hasResult task.id = false)
    (ran : (storeReport columns task report manifest now).execute store = (.ok (), store'))
    (id : TaskId) :
    store'.db.hasResult id = (decide (id = task.id) || store.db.hasResult id) := by
  rw [(storeReport_ok first ran).2]
  exact hasResult_saveFinished id

theorem rowsHaveResults_postCallback {id : TaskId} {body : Json} (rows : RowsHaveResults store) :
    RowsHaveResults (postCallback serializer columns store id body now).2 := by
  rcases @postCallback_results _ serializer columns store id body now with
    ⟨artifacts, results⟩ | ⟨task, report, manifest, found, first, _, ran⟩
  · intro row mem
    rw [artifacts] at mem
    have has := rows row mem
    unfold Database.hasResult at has ⊢
    rwa [results]
  · obtain ⟨_, rfl⟩ := Table.find?_eq_some_iff.mp found
    obtain ⟨⟨before, after, same, registers, artifacts⟩, _⟩ := storeReport_ok first ran
    obtain ⟨version, items, _, written⟩ := registers
    intro row mem
    rw [hasResult_storeReport first ran, Bool.or_eq_true, decide_eq_true_eq]
    rw [artifacts, written] at mem
    rcases mem_upsertAll mem with old | ⟨_, inRows, sameRow⟩
    · rw [same] at old
      exact .inr (rows row old)
    · obtain ⟨entry, _, rfl⟩ := List.mem_map.mp inRows
      rw [sameRow]
      exact .inl rfl

end Storing

/-! ### Runs of the store -/

/-- A callback, or any other write to the tables of tasks, workers and results. -/
inductive StoreEvent where
  | callback (id : TaskId) (body : Json) (now : Timestamp)
  | database (write : Database → Database)

def takeStore [Runtime] (serializer : ResultSerializer) (columns : Columns) (store : Store) :
    StoreEvent → Option Store
  | .callback id body now => some (postCallback serializer columns store id body now).2
  | .database write => some { store with db := write store.db }

/-- Nothing but a callback concerns results: they stay. -/
def KeepsResults (store : Store) : StoreEvent → Prop
  | .callback _ _ _ => True
  | .database write => ∀ id, store.db.hasResult id = true → (write store.db).hasResult id = true

theorem rowsHaveResults_run [Runtime] {serializer : ResultSerializer} {columns : Columns}
    {start store : Store} {events : List StoreEvent} (unregistered : start.artifacts = Table.empty)
    (run : Run (takeStore serializer columns) KeepsResults start events store) :
    RowsHaveResults store := by
  refine run.preserves ?_ ?_
  · intro store event store' keeps moves rows
    cases event with
    | callback id body now =>
        cases moves
        exact rowsHaveResults_postCallback rows
    | database write =>
        cases moves
        exact fun row mem => keeps row.task (rows row mem)
  · intro row mem
    rw [unregistered] at mem
    exact absurd mem Table.not_mem_empty

/-! ### The listing with and without the manifest -/

section Listing

theorem mem_itemEvidence {items : List ArtifactItem} {p : String × Bool} :
    p ∈ itemEvidence items ↔ ∃ item ∈ items, evidenceKinds.contains item.kind = true ∧
      (item.artifactId, decide (item.state = "available")) = p := by
  unfold itemEvidence
  simp only [List.mem_map, List.mem_filter, and_assoc]

/-- Without rows a listing has the evidence of the derived items. -/
theorem mem_itemEvidence_unregistered {store : Store} {task : LoadTestTask} {p : String × Bool}
    (unregistered : ∀ row ∈ store.artifacts, row.task ≠ task.id) :
    p ∈ itemEvidence (mergedArtifactItems store task) ↔
      p ∈ itemEvidence (derivedArtifactItems store.db task) := by
  have same (item : ArtifactItem) : item ∈ mergedArtifactItems store task ↔
      item ∈ derivedArtifactItems store.db task := by
    constructor
    · intro mem
      rcases mem_mergedArtifactItems_cases mem with ⟨row, inStore, own, _⟩ | ⟨_, derived⟩
      · exact absurd own (unregistered row inStore)
      · exact derived
    · intro derived
      exact mem_mergedArtifactItems_of_derived derived fun row inStore own =>
        absurd own (unregistered row inStore)
  simp only [mem_itemEvidence, same]

variable [Runtime] [Hashing]

/-- The row is an entry's, but for its creation time. -/
def IsRowOf (task : LoadTestTask) (now : Timestamp) (entry : Json) (row : TaskArtifact) : Prop :=
  row = { entryRow task "1.0" now entry with createdAt := row.createdAt }

omit [Runtime] [Hashing] in
theorem strippedText_of_entryText {entry : Json} {key text : String} (given : text ≠ "")
    (stripped : strip text = text) (same : entryText entry key = text) :
    strippedText (objectField entry key) = text := by
  unfold entryText at same
  cases value : objectField entry key with
  | str s =>
      rw [value] at same
      by_cases empty : s = ""
      · simp only [optionalTextOf, empty, if_true, Option.getD_none] at same
        exact absurd same.symm given
      · simp only [optionalTextOf, empty, if_false, Option.getD_some] at same
        rw [same]
        exact stripped
  | _ =>
      rw [value] at same
      exact absurd same.symm given

omit [Hashing] in
theorem key_entryRow (task : LoadTestTask) (now : Timestamp) (entry : Json) :
    (entryRow task "1.0" now entry).key =
      (task.id, strippedText (objectField entry "artifact_id")) := rfl

omit [Hashing] in
theorem isRowOf_entryRow (task : LoadTestTask) (now createdAt : Timestamp) (entry : Json) :
    IsRowOf task now entry { entryRow task "1.0" now entry with createdAt } := rfl

omit [Hashing] in
theorem IsRowOf.columns {task : LoadTestTask} {now : Timestamp} {entry : Json}
    {row : TaskArtifact} (own : IsRowOf task now entry row) :
    row.key = (task.id, strippedText (objectField entry "artifact_id")) ∧
      row.kind = strippedText (objectField entry "kind") ∧
      row.state = strippedText (objectField entry "state") := by
  unfold IsRowOf at own
  rw [own]
  exact ⟨rfl, rfl, rfl⟩

/-- The columns of an entry's row that a listing shows. -/
theorem IsRowOf.source {source : EntrySource} (known : source.texts.Known) {task : LoadTestTask}
    {now : Timestamp} {row : TaskArtifact} (own : IsRowOf task now (source.entry task.id) row) :
    row.key = (task.id, source.texts.artifactId) ∧ row.kind = source.texts.kind ∧
      row.state = source.state := by
  have state : source.state ≠ "" ∧ strip source.state = source.state := by
    unfold EntrySource.state
    cases source.available with
    | true => exact ⟨by decide, by decide⟩
    | false => exact ⟨by decide, by decide⟩
  have columns := own.columns
  rwa [strippedText_of_entryText known.idGiven known.idStripped
      (entryText_artifactId source task.id),
    strippedText_of_entryText known.kindGiven known.kindStripped (entryText_kind source task.id),
    strippedText_of_entryText state.1 state.2 (entryText_state source task.id)] at columns

/-- The entries of a manifest have rows with different keys. -/
theorem entryRows_nodup (task : LoadTestTask) (result : Dict Json) (now : Timestamp) :
    ((((manifestSources (.str task.engine) result).map (·.entry task.id)).map
      (entryRow task "1.0" now)).map TaskArtifact.key).Nodup := by
  have keys : (((manifestSources (.str task.engine) result).map (·.entry task.id)).map
      (entryRow task "1.0" now)).map TaskArtifact.key =
        ((manifestSources (.str task.engine) result).map (·.row task now)).map
          TaskArtifact.key := by
    rw [List.map_map, List.map_map, List.map_map]
    refine List.map_congr_left fun source mem => ?_
    have known := manifestSources_known mem
    rw [Function.comp_apply, Function.comp_apply, Function.comp_apply, key_entryRow,
      strippedText_of_entryText known.idGiven known.idStripped
        (entryText_artifactId source task.id)]
    rfl
  rw [keys]
  exact manifestRows_nodup _ _ task now

/-- A registered manifest decides the evidence of the listing. -/
theorem mem_itemEvidence_registered {before after store : Store} {task : LoadTestTask}
    {result : Dict Json} {now : Timestamp}
    (unregistered : ∀ row ∈ before.artifacts, row.task ≠ task.id)
    (registers : RegistersAll task (buildArtifactManifest task.id (.str task.engine) result) now
      before after)
    (artifacts : store.artifacts = after.artifacts)
    (stored : rawReportOf store.db task = postedReport result) {p : String × Bool} :
    p ∈ itemEvidence (mergedArtifactItems store task) ↔
      p ∈ entryEvidence (buildArtifactManifestEntries task.id (.str task.engine) result) := by
  obtain ⟨version, items, payload, written⟩ := registers
  have same := payload.symm.trans (manifest_payload task.id (.str task.engine) result)
  obtain ⟨rfl, rfl⟩ := Prod.mk.inj (Except.ok.inj same)
  -- The rows of the task are those of the manifest.
  have ofRow {row : TaskArtifact} (mem : row ∈ store.artifacts) (own : row.task = task.id) :
      ∃ source ∈ manifestSources (.str task.engine) result,
        IsRowOf task now (source.entry task.id) row := by
    rw [artifacts, written] at mem
    rcases mem_upsertAll mem with old | ⟨_, inRows, same⟩
    · exact absurd own (unregistered row old)
    · obtain ⟨_, inEntries, rfl⟩ := List.mem_map.mp inRows
      obtain ⟨source, inSources, rfl⟩ := List.mem_map.mp inEntries
      exact ⟨source, inSources, same⟩
  have toRow {source : EntrySource} (mem : source ∈ manifestSources (.str task.engine) result) :
      ∃ row ∈ store.artifacts, IsRowOf task now (source.entry task.id) row := by
    obtain ⟨createdAt, found⟩ := find?_upsertAll (entryRows_nodup task result now)
      (List.mem_map_of_mem (List.mem_map_of_mem mem)) before
    rw [← written, ← artifacts] at found
    exact ⟨_, (Table.find?_eq_some_iff.mp found).1,
      isRowOf_entryRow task now createdAt (source.entry task.id)⟩
  have sources : p ∈ entryEvidence (buildArtifactManifestEntries task.id (.str task.engine)
      result) ↔ ∃ source ∈ manifestSources (.str task.engine) result,
        evidenceKinds.contains source.texts.kind = true ∧
          (source.texts.artifactId, source.available) = p := by
    rw [buildEntries_eq, entryEvidence_sources]
    simp only [List.mem_map, List.mem_filter, and_assoc]
  have available (source : EntrySource) :
      decide (source.state = "available") = source.available := by
    simp only [state_available_iff, Bool.decide_eq_true]
  rw [sources, mem_itemEvidence]
  constructor
  · rintro ⟨item, mem, kind, rfl⟩
    rcases mem_mergedArtifactItems_cases mem with ⟨row, inStore, own, rfl⟩ | ⟨unreplaced, derived⟩
    · obtain ⟨source, inSources, isRow⟩ := ofRow inStore own
      obtain ⟨sameKey, sameKind, sameState⟩ := isRow.source (manifestSources_known inSources)
      refine ⟨source, inSources, ?_, ?_⟩
      · rw [← sameKind]
        exact kind
      · have sameId : row.artifactId = source.texts.artifactId := congrArg Prod.snd sameKey
        rw [← available source, ← sameState, ← sameId]
        rfl
    · -- A derived item of these kinds has an entry, so a row replaces it.
      have evidence : (item.artifactId, decide (item.state = "available")) ∈
          itemEvidence (derivedArtifactItems store.db task) :=
        mem_itemEvidence.mpr ⟨item, derived, kind, rfl⟩
      rw [← entryEvidence_eq stored, buildEntries_eq, entryEvidence_sources] at evidence
      obtain ⟨source, mem, same⟩ := List.mem_map.mp evidence
      have inSources := (List.mem_filter.mp mem).1
      obtain ⟨row, inStore, isRow⟩ := toRow inSources
      obtain ⟨sameKey, _⟩ := isRow.source (manifestSources_known inSources)
      have sameId : row.artifactId = item.artifactId :=
        (congrArg Prod.snd sameKey).trans (congrArg Prod.fst same)
      exact absurd sameId (unreplaced row inStore (congrArg Prod.fst sameKey))
  · rintro ⟨source, mem, kind, rfl⟩
    obtain ⟨row, inStore, isRow⟩ := toRow mem
    obtain ⟨sameKey, sameKind, sameState⟩ := isRow.source (manifestSources_known mem)
    refine ⟨_, taskArtifactToItem_mem inStore (congrArg Prod.fst sameKey), ?_, ?_⟩
    · show evidenceKinds.contains row.kind = true
      rw [sameKind]
      exact kind
    · show (row.artifactId, decide (row.state = "available")) = _
      have sameId : row.artifactId = source.texts.artifactId := congrArg Prod.snd sameKey
      rw [sameId, sameState, available]

end Listing

/-- A callback with this body stores the first result of the task. -/
structure Stores [Runtime] (serializer : ResultSerializer) (columns : Columns) (store : Store)
    (id : TaskId) (body : Json) (now : Timestamp) (after : Store) : Prop where
  posted : (postCallback serializer columns store id body now).2 = after
  first : store.db.hasResult id = false
  stored : after.db.hasResult id = true

section Agreement

variable [Runtime] {serializer : ResultSerializer} {columns : Columns} {store after : Store}
  {task : LoadTestTask} {data : Dict Json} {now : Timestamp}

omit [Runtime] in
theorem rawReportOf_of_stored {db : Database} {result : TestResult}
    (stored : db.results.find? task.id = some result) :
    rawReportOf db task = result.fields.rawReport.dictOrEmpty := by
  unfold rawReportOf
  rw [stored]

/-- What such a callback leaves: its report, and its manifest registered on the
artifacts from before. -/
theorem Stores.outcome (passes : PassesJson serializer)
    (found : store.db.tasks.find? task.id = some task)
    (stores : Stores serializer columns store task.id (dictJson data) now after) :
    rawReportOf after.db task = postedReport data ∧ ∃ before registered,
      before.artifacts = store.artifacts ∧ RegistersAll task
        ((data.get? "artifact_manifest").getD .null) now before registered ∧
      after.artifacts = registered.artifacts := by
  obtain ⟨rfl, first, stored⟩ := stores
  rcases @postCallback_results _ serializer columns store task.id (dictJson data) now with
    ⟨_, results⟩ | ⟨task', report, manifest, found', _, read, ran⟩
  · unfold Database.hasResult at first stored
    rw [results, first] at stored
    cases stored
  · cases found.symm.trans found'
    obtain ⟨⟨before, registered, same, registers, artifacts⟩, written⟩ := storeReport_ok first ran
    rw [passes.manifest read] at registers
    refine ⟨?_, before, registered, same, registers, artifacts⟩
    refine (@rawReportOf_of_stored task _ ⟨task.id, report.fields, now⟩ ?_).trans ?_
    · rw [written]
      exact (@Table.find?_upsert _ _ _ _ store.db.results
        ⟨task.id, report.fields, now⟩ task.id).trans (if_pos rfl)
    · exact congrArg Json.dictOrEmpty (passes.rawReport read)

/-- The worker's manifest, the items that the Control Plane derives from the stored
report, and the listings with the manifest and without it agree on these
artifacts. -/
theorem listing_agrees_with_worker [Hashing] {start : Store} {events : List StoreEvent}
    {summary : Dict Json} {evidence : List (String × Json)} {now' : Timestamp} {after' : Store}
    (passes : PassesJson serializer) (unregistered : start.artifacts = Table.empty)
    (run : Run (takeStore serializer columns) KeepsResults start events store)
    (found : store.db.tasks.find? task.id = some task)
    (stores : Stores serializer columns store task.id
      (dictJson (attachArtifactManifest task.id (.str task.engine) summary evidence)) now after)
    (bare : summary.get? "artifact_manifest" = none)
    (omits : Stores serializer columns store task.id (dictJson summary) now' after') :
    let entries := buildArtifactManifestEntries task.id (.str task.engine)
      (summary.set "artifact_evidence" (.obj evidence))
    entryEvidence entries = itemEvidence (derivedArtifactItems after.db task) ∧
      entryEvidence entries = itemEvidence (derivedArtifactItems after'.db task) ∧
      (∀ p, p ∈ itemEvidence (mergedArtifactItems after task) ↔ p ∈ entryEvidence entries) ∧
      ∀ p, p ∈ itemEvidence (mergedArtifactItems after' task) ↔ p ∈ entryEvidence entries := by
  intro entries
  have noRows : ∀ row ∈ store.artifacts, row.task ≠ task.id := by
    intro row mem own
    have has := rowsHaveResults_run unregistered run row mem
    rw [own, stores.first] at has
    cases has
  obtain ⟨report, before, registered, same, registers, artifacts⟩ := stores.outcome passes found
  obtain ⟨report', before', registered', same', registers', artifacts'⟩ :=
    omits.outcome passes found
  have sameReport : postedReport (attachArtifactManifest task.id (.str task.engine) summary
      evidence) = postedReport (summary.set "artifact_evidence" (.obj evidence)) := by
    simp [attachArtifactManifest, postedReport]
  have sameReport' : postedReport summary =
      postedReport (summary.set "artifact_evidence" (.obj evidence)) := by
    simp [postedReport]
  have manifest : ((attachArtifactManifest task.id (.str task.engine) summary evidence).get?
      "artifact_manifest").getD .null = buildArtifactManifest task.id (.str task.engine)
        (summary.set "artifact_evidence" (.obj evidence)) := by
    simp [attachArtifactManifest]
  rw [sameReport] at report
  rw [sameReport'] at report'
  rw [manifest] at registers
  rw [bare] at registers'
  have derived := entryEvidence_eq report
  have derived' := entryEvidence_eq report'
  refine ⟨derived, derived', ?_, ?_⟩
  · intro p
    exact mem_itemEvidence_registered (same ▸ noRows) registers artifacts report
  · intro p
    obtain ⟨version, items, payload, written⟩ := registers'
    cases payload
    have none : after'.artifacts = store.artifacts := by
      rw [artifacts', written]
      exact same'
    rw [mem_itemEvidence_unregistered (none ▸ noRows), ← derived']

end Agreement

theorem plainSerializer_passesJson : PassesJson plainSerializer := by
  have reads {data : Dict Json} {report : Report} {manifest : Json}
      (read : plainSerializer (dictJson data) = .ok (report, manifest)) :
      report.fields.rawReport = (data.get? "raw_report").getD .null ∧
        manifest = (data.get? "artifact_manifest").getD .null := by
    unfold plainSerializer at read
    rw [asDict?_dictJson] at read
    obtain ⟨raw, required, read⟩ := bind_ok_iff.mp read
    iterate 9 obtain ⟨_, _, read⟩ := bind_ok_iff.mp read
    obtain ⟨_, _, read⟩ := bind_ok_iff.mp read
    cases read
    unfold requiredField at required
    split at required
    · cases required
    · rename_i value given
      cases required
      rw [given]
      exact ⟨rfl, rfl⟩
  exact ⟨fun read => (reads read).1, fun read => (reads read).2⟩

/-- The report `{"stdout": "ok"}`. -/
def stdoutSummary : Dict Json :=
  Dict.ofItems [("raw_report", .obj [("stdout", .str "ok")])]

/-- What posting a body to the running task leaves. -/
def afterPosting (body : Dict Json) : Store :=
  (@postCallback asciiRuntime plainSerializer openColumns runningStore "t" (dictJson body) 1).2

def stdoutWithManifest : Dict Json :=
  @attachArtifactManifest asciiRuntime exitCodeHashing "t" (.str "k6") stdoutSummary []

/-- The standard output is listed as available with the manifest and without it. -/
theorem stdout_agrees :
    ("k6-stdout", true) ∈ itemEvidence
        (mergedArtifactItems (afterPosting stdoutWithManifest) runningTask) ∧
      ("k6-stdout", true) ∈ itemEvidence
        (mergedArtifactItems (afterPosting stdoutSummary) runningTask) := by
  let _ := asciiRuntime
  let _ := exitCodeHashing
  have stores : Stores plainSerializer openColumns runningStore runningTask.id
      (dictJson stdoutWithManifest) 1 (afterPosting stdoutWithManifest) :=
    ⟨rfl, rfl, by decide +kernel⟩
  have omits : Stores plainSerializer openColumns runningStore runningTask.id
      (dictJson stdoutSummary) 1 (afterPosting stdoutSummary) := ⟨rfl, rfl, rfl⟩
  have start : Run (takeStore plainSerializer openColumns) KeepsResults runningStore []
      runningStore := .done _
  obtain ⟨_, _, listed, listed'⟩ := listing_agrees_with_worker plainSerializer_passesJson
    rfl start rfl stores rfl omits
  have available : ("k6-stdout", true) ∈ entryEvidence (buildArtifactManifestEntries
      runningTask.id (.str runningTask.engine)
      (stdoutSummary.set "artifact_evidence" (.obj []))) := by
    rw [buildEntries_eq, entryEvidence_sources]
    exact List.mem_cons_self
  exact ⟨(listed _).mpr available, (listed' _).mpr available⟩

end PLoadtesting.System
