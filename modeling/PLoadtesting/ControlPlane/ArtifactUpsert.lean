import PLoadtesting.ControlPlane.ArtifactMetadata

/-!
Registration as a keyed upsert, with the primary keys of the rows.

`update_or_create` looks a row up by task and trimmed artifact id. It writes every
normalised value over the row that it finds, and creates one otherwise, so what
a manifest leaves is the last entry of each identifier, on the identity of the row
from before (`find?_registered`). `registerRecords_simulates` connects the rows
with primary keys to the registry, which does not look at them.
-/

namespace PLoadtesting.ControlPlane

open Keyed Python Transaction Checks

/-- A row of `TaskArtifact` with its `id`. -/
structure ArtifactRecord where
  id : String
  row : TaskArtifact

def ArtifactRecord.key (record : ArtifactRecord) : TaskId × String := record.row.key

abbrev ArtifactRecords := Table ArtifactRecord.key

/-- The row that `update_or_create` writes: an existing one keeps its `id` and its
`created_at`, a new one draws an `id`. -/
def updateOrCreate (newId : TaskId × String → String) (old : Option ArtifactRecord)
    (row : TaskArtifact) : ArtifactRecord where
  id := old.elim (newId row.key) (·.id)
  row := { row with createdAt := old.elim row.createdAt (·.row.createdAt) }

theorem key_updateOrCreate {newId : TaskId × String → String} (old : Option ArtifactRecord)
    (row : TaskArtifact) : (updateOrCreate newId old row).key = row.key := rfl

/-- `_register_normalized_task_artifact`. -/
def registerRecord [Runtime] (columns : Columns) (newId : TaskId × String → String)
    (task : LoadTestTask) (version : String) (now : Timestamp) (entry : Json) :
    Action ArtifactRecords Exc Unit := do
  let row ← Action.ofExcept (normalizeTaskArtifactMetadata task version now entry)
  Action.ofExcept (columns.artifact row)
  Action.write (fun records => records.merge TaskArtifact.key (updateOrCreate newId) row)

/-- `register_task_artifacts`. -/
def registerRecords [Runtime] (columns : Columns) (newId : TaskId × String → String)
    (task : LoadTestTask) (manifest : Json) (now : Timestamp) :
    Action ArtifactRecords Exc Unit := do
  let (version, items) ← Action.ofExcept (normalizeArtifactManifestPayload manifest)
  Action.forEach (registerRecord columns newId task version now) items

/-- The store of a database whose artifacts are read without their `id`. -/
def storeOf (db : Database) (records : ArtifactRecords) : Store :=
  ⟨db, records.map ArtifactRecord.row fun _ => rfl⟩

theorem storeOf_upsert (db : Database) (records : ArtifactRecords) (record : ArtifactRecord) :
    storeOf db (records.upsert record) =
      { storeOf db records with artifacts := (storeOf db records).artifacts.upsert record.row } :=
  congrArg (Store.mk db) (Table.map_upsert records ArtifactRecord.row (fun _ => rfl) record)

theorem upsertArtifact_storeOf {db : Database} {newId : TaskId × String → String}
    {row : TaskArtifact} (records : ArtifactRecords) :
    upsertArtifact row (storeOf db records) =
      storeOf db (records.merge TaskArtifact.key (updateOrCreate newId) row) := by
  have found : (storeOf db records).artifacts.find? row.key =
      (records.find? row.key).map ArtifactRecord.row :=
    Table.find?_map records ArtifactRecord.row (fun _ => rfl) row.key
  unfold upsertArtifact Table.merge
  rw [storeOf_upsert, found]
  cases records.find? row.key with
  | none => rfl
  | some old => rfl

/-- Rows without primary keys are registered as the rows with them. -/
theorem registerRecords_simulates [Runtime] (columns : Columns)
    (newId : TaskId × String → String) (task : LoadTestTask) (manifest : Json) (now : Timestamp)
    (db : Database) :
    Action.Simulates (storeOf db) (registerRecords columns newId task manifest now)
      (registerTaskArtifacts columns task manifest now) := by
  refine Action.simulates_bind (Action.simulates_ofExcept _) ?_
  rintro ⟨version, items⟩
  refine Action.simulates_forEach ?_ items
  intro entry
  refine Action.simulates_bind (Action.simulates_ofExcept _) fun row => ?_
  refine Action.simulates_bind (Action.simulates_ofExcept _) fun _ => ?_
  exact Action.simulates_write upsertArtifact_storeOf

section Registering

variable [Runtime] {columns : Columns} {newId : TaskId × String → String} {task : LoadTestTask}
  {manifest : Json} {version : String} {items : List Json} {now : Timestamp}

/-- A normalised entry is an object that is valid. -/
theorem normalize_ok {entry : Json} {row : TaskArtifact}
    (normalized : normalizeTaskArtifactMetadata task version now entry = .ok row) :
    (∃ d, entry.asDict? = some d) ∧ ValidEntry task.id entry ∧
      row = entryRow task version now entry := by
  cases object : entry.asDict? with
  | none =>
      unfold normalizeTaskArtifactMetadata entryField at normalized
      rw [object] at normalized
      cases normalized
  | some d =>
      obtain ⟨valid, same⟩ := (gives_normalize task version now object).eq_ok_iff.mp normalized
      exact ⟨⟨d, rfl⟩, valid, same⟩

/-- A manifest whose entries are all normalised and taken is registered. -/
theorem registerRecords_ok (payload : normalizeArtifactManifestPayload manifest =
      .ok (version, items))
    (normalized : ∀ entry ∈ items, normalizeTaskArtifactMetadata task version now entry =
      .ok (entryRow task version now entry))
    (taken : ∀ entry ∈ items, columns.artifact (entryRow task version now entry) = .ok ())
    (records : ArtifactRecords) :
    (registerRecords columns newId task manifest now).execute records =
      (.ok (), (items.map (entryRow task version now)).foldl
        (Table.merge TaskArtifact.key (updateOrCreate newId)) records) := by
  unfold registerRecords
  rw [payload]
  refine Action.execute_forEach_ok (List.forall₂_map_right_iff.mpr (List.forall₂_same.mpr ?_)) _
  intro entry mem records
  unfold registerRecord
  rw [normalized entry mem]
  show (Action.ofExcept (columns.artifact _) >>= _).execute records = _
  rw [taken entry mem]
  rfl

/-- The row of a key after the registration: the last entry's, on the row from
before. -/
theorem find?_registered (records : ArtifactRecords) (key : TaskId × String) :
    ((items.map (entryRow task version now)).foldl
      (Table.merge TaskArtifact.key (updateOrCreate newId)) records).find? key =
      ((items.reverse.find? fun entry => decide ((task.id, trimmedId entry) = key)).map
        fun entry => updateOrCreate newId (records.find? key)
          (entryRow task version now entry)).or (records.find? key) := by
  have absorbs : ∀ row ∈ items.map (entryRow task version now),
      ∀ row' ∈ items.map (entryRow task version now), row.key = row'.key → ∀ old,
        updateOrCreate newId (some (updateOrCreate newId old row)) row' =
          updateOrCreate newId old row' := by
    intro row mem row' mem' same old
    obtain ⟨entry, _, rfl⟩ := List.mem_map.mp mem
    obtain ⟨entry', _, rfl⟩ := List.mem_map.mp mem'
    unfold updateOrCreate
    rw [same]
    rfl
  rw [Table.find?_mergeAll key_updateOrCreate absorbs, ← List.map_reverse, List.find?_map,
    Option.map_map]
  rfl

/-- No entry of the list is about the key. -/
def IsOther (task : LoadTestTask) (items : List Json) (key : TaskId × String) : Prop :=
  ∀ entry ∈ items, (task.id, trimmedId entry) ≠ key

/-- What the registration of the entries leaves of the rows before it. -/
structure KeyedUpsert (task : LoadTestTask) (version : String) (now : Timestamp)
    (items : List Json) (before after : ArtifactRecords) : Prop where
  /-- There is at most one row for a task and an identifier. -/
  unique : ∀ record ∈ after, ∀ record' ∈ after, record.row.task = record'.row.task →
    record.row.artifactId = record'.row.artifactId → record = record'
  /-- Every identifier of the list has the normalised values of its last entry. -/
  last : ∀ entry ∈ items, ∃ lastEntry row record, IsLastEntry items lastEntry ∧
    trimmedId lastEntry = trimmedId entry ∧
    normalizeTaskArtifactMetadata task version now lastEntry = .ok row ∧
    after.find? (task.id, trimmedId entry) = some record ∧
    record.row = { row with createdAt := record.row.createdAt }
  /-- A row from before keeps its identity and its creation time. -/
  kept : ∀ old ∈ before, ∃ record ∈ after, record.key = old.key ∧ record.id = old.id ∧
    record.row.createdAt = old.row.createdAt
  /-- A row from before that the list does not name is not touched. -/
  others : ∀ key, IsOther task items key → after.find? key = before.find? key

/-- The rows of the list's identifiers have a new `updated_at`, and nothing else is
changed. -/
structure OnlyTouched (task : LoadTestTask) (now : Timestamp) (items : List Json)
    (before after : ArtifactRecords) : Prop where
  named : ∀ entry ∈ items, after.find? (task.id, trimmedId entry) =
    (before.find? (task.id, trimmedId entry)).map fun record =>
      { record with row := { record.row with updatedAt := now } }
  others : ∀ key, IsOther task items key → after.find? key = before.find? key

/-- The rows that the entries leave. -/
abbrev registered (newId : TaskId × String → String) (task : LoadTestTask) (version : String)
    (now : Timestamp) (items : List Json) (records : ArtifactRecords) : ArtifactRecords :=
  (items.map (entryRow task version now)).foldl
    (Table.merge TaskArtifact.key (updateOrCreate newId)) records

theorem find?_registered_of_other {key : TaskId × String} (other : IsOther task items key)
    (records : ArtifactRecords) :
    (registered newId task version now items records).find? key = records.find? key := by
  have absent : (items.reverse.find? fun entry => decide ((task.id, trimmedId entry) = key)) =
      none := by
    rw [List.find?_eq_none]
    intro entry mem same
    exact other entry (List.mem_reverse.mp mem) (of_decide_eq_true same)
  rw [find?_registered, absent]
  rfl

/-- The row of an identifier of the list. -/
theorem find?_registered_of_mem (task : LoadTestTask) (version : String) {entry : Json}
    (mem : entry ∈ items) : ∃ last, last ∈ items ∧ IsLastEntry items last ∧
      trimmedId last = trimmedId entry ∧ ∀ newId now (records : ArtifactRecords),
        (registered newId task version now items records).find? (task.id, trimmedId entry) =
          some (updateOrCreate newId (records.find? (task.id, trimmedId entry))
            (entryRow task version now last)) := by
  cases found : items.reverse.find? fun other =>
      decide ((task.id, trimmedId other) = (task.id, trimmedId entry)) with
  | none =>
      have other := List.find?_eq_none.mp found entry (List.mem_reverse.mpr mem)
      exact absurd (decide_eq_true rfl) other
  | some last =>
      obtain ⟨same, front, back, split, others⟩ := Table.find?_reverse_eq_some_iff.mp found
      refine ⟨last, by rw [split]; simp, ⟨front, back, split, ?_⟩, congrArg Prod.snd same, ?_⟩
      · intro later inBack sameId
        exact others later inBack (by rw [sameId, same])
      · intro newId now records
        rw [find?_registered, found]
        rfl

/-- The registration of entries that are all normalised is a keyed upsert. -/
theorem keyedUpsert_registered
    (normalized : ∀ entry ∈ items, normalizeTaskArtifactMetadata task version now entry =
      .ok (entryRow task version now entry)) (records : ArtifactRecords) :
    KeyedUpsert task version now items records
      (registered newId task version now items records) where
  unique record mem record' mem' sameTask sameId :=
    Table.eq_of_key_eq mem mem' (Prod.ext sameTask sameId)
  last entry mem := by
    obtain ⟨last, inItems, isLast, same, found⟩ := find?_registered_of_mem task version mem
    exact ⟨last, _, _, isLast, same, normalized last inItems, found newId now records, rfl⟩
  kept old mem := by
    by_cases other : IsOther task items old.key
    · have found : (registered newId task version now items records).find? old.key =
          records.find? old.key := find?_registered_of_other other records
      rw [Table.find?_key mem] at found
      obtain ⟨mem', _⟩ := Table.find?_eq_some_iff.mp found
      exact ⟨old, mem', rfl, rfl, rfl⟩
    · obtain ⟨entry, inItems, named⟩ : ∃ entry ∈ items, (task.id, trimmedId entry) = old.key := by
        simpa [IsOther] using other
      obtain ⟨last, _, _, _, found⟩ := find?_registered_of_mem task version inItems
      have here := found newId now records
      rw [named, Table.find?_key mem] at here
      obtain ⟨mem', sameKey⟩ := Table.find?_eq_some_iff.mp here
      exact ⟨_, mem', sameKey, rfl, rfl⟩
  others key other := find?_registered_of_other other records

/-- Registering the entries again touches their rows only. -/
theorem onlyTouched_again {newId' : TaskId × String → String} {later : Timestamp}
    (records : ArtifactRecords) :
    OnlyTouched task later items (registered newId task version now items records)
      (registered newId' task version later items
        (registered newId task version now items records)) where
  named entry mem := by
    obtain ⟨last, _, _, _, found⟩ := find?_registered_of_mem task version mem
    rw [found newId' later, found newId now]
    rfl
  others _ other := find?_registered_of_other other _

/-- A registration that returns has written every entry. -/
theorem registered_of_ok {records after : ArtifactRecords}
    (payload : normalizeArtifactManifestPayload manifest = .ok (version, items))
    (ran : (registerRecords columns newId task manifest now).execute records = (.ok (), after)) :
    after = registered newId task version now items records := by
  have erased := registerRecords_simulates columns newId task manifest now
    ⟨Table.empty, Table.empty, Table.empty⟩ records
  rw [ran] at erased
  obtain ⟨_, _, payload', entries⟩ := entriesTaken_of_ok erased
  obtain ⟨rfl, rfl⟩ := Prod.mk.inj (Except.ok.inj (payload.symm.trans payload'))
  have ok : (registerRecords columns newId task manifest now).execute records =
      (.ok (), registered newId task version now items records) :=
    registerRecords_ok payload (fun entry mem => (entries entry mem).1)
      (fun entry mem => (entries entry mem).2) records
  exact (Prod.mk.inj (ran.symm.trans ok)).2

/-- Registration of entries that are all normalised returns where the columns take
their rows. Where it returns it is a keyed upsert, and registering the manifest
again touches `updated_at` only. -/
theorem registerRecords_upserts {newId' : TaskId × String → String} {later : Timestamp}
    (records : ArtifactRecords)
    (payload : normalizeArtifactManifestPayload manifest = .ok (version, items))
    (normalise : ∀ entry ∈ items, ∃ row,
      normalizeTaskArtifactMetadata task version now entry = .ok row) :
    ((∀ entry ∈ items, ∀ row, normalizeTaskArtifactMetadata task version now entry = .ok row →
        columns.artifact row = .ok ()) →
      ∃ after, (registerRecords columns newId task manifest now).execute records =
        (.ok (), after)) ∧
    ∀ after, (registerRecords columns newId task manifest now).execute records =
        (.ok (), after) →
      KeyedUpsert task version now items records after ∧
      ∀ again, (registerRecords columns newId' task manifest later).execute after =
        (.ok (), again) → OnlyTouched task later items after again := by
  have normalized : ∀ entry ∈ items, normalizeTaskArtifactMetadata task version now entry =
      .ok (entryRow task version now entry) := by
    intro entry mem
    obtain ⟨row, ok⟩ := normalise entry mem
    rw [ok, (normalize_ok ok).2.2]
  refine ⟨?_, ?_⟩
  · intro taken
    exact ⟨_, registerRecords_ok payload normalized
      (fun entry mem => taken entry mem _ (normalized entry mem)) records⟩
  · intro after ran
    rw [registered_of_ok payload ran]
    refine ⟨keyedUpsert_registered normalized records, ?_⟩
    intro again ranAgain
    rw [registered_of_ok payload ranAgain]
    exact onlyTouched_again records

end Registering

/-- An entry of the standard output, under an identifier and a name. -/
def namedEntry (artifactId name : String) : Json :=
  .obj [("artifact_id", .str artifactId), ("kind", .str "stdout"), ("name", .str name),
    ("state", .str "available"), ("provenance_source", .str "worker_output"),
    ("metadata", .obj [])]

/-- Two entries whose identifiers agree after trimming. -/
def spacedEntries : List Json :=
  [namedEntry "k6-stdout" "stdout.txt", namedEntry " k6-stdout " "stdout.log"]

def spacedManifest : Json :=
  .obj [("artifact_manifest_version", .str "1.0"), ("items", .arr spacedEntries)]

/-- A row of the identifier, another of its task, and one of another task, from time 0. -/
def storedRecords : ArtifactRecords :=
  let row (task : TaskId) (artifactId : String) : TaskArtifact :=
    @entryRow asciiRuntime { runningTask with id := task } "1.0" 0 (namedEntry artifactId "old.txt")
  ((Table.empty.upsert ⟨"row-1", row "t" "k6-stdout"⟩).upsert
    ⟨"row-2", row "t" "k6-summary"⟩).upsert
    ⟨"row-3", row "u" "k6-stdout"⟩

/-- The two entries, registered at 1 and again at 2: the last one is written over the row
from before, which keeps its `id` and its creation time. -/
theorem spacedEntries_upserted : ∃ after again,
    (@registerRecords asciiRuntime openColumns Prod.snd runningTask spacedManifest 1).execute
      storedRecords = (.ok (), after) ∧
    @KeyedUpsert asciiRuntime runningTask "1.0" 1 spacedEntries storedRecords after ∧
    (@registerRecords asciiRuntime openColumns Prod.snd runningTask spacedManifest 2).execute
      after = (.ok (), again) ∧
    OnlyTouched runningTask 2 spacedEntries after again ∧
    again.rows.map (fun record => (record.id, record.row.name, record.row.createdAt,
        record.row.updatedAt)) =
      [("row-1", "stdout.log", 0, 2), ("row-2", "old.txt", 0, 0), ("row-3", "old.txt", 0, 0)] := by
  let _ := asciiRuntime
  have normalise : ∀ entry ∈ spacedEntries, ∃ row,
      normalizeTaskArtifactMetadata runningTask "1.0" 1 entry = .ok row := by
    intro entry mem
    rcases List.mem_cons.mp mem with rfl | later
    · exact ⟨_, rfl⟩
    · rw [List.mem_singleton.mp later]
      exact ⟨_, rfl⟩
  obtain ⟨_, upserts⟩ := @registerRecords_upserts _ openColumns Prod.snd runningTask
    spacedManifest "1.0" spacedEntries 1 Prod.snd 2 storedRecords rfl normalise
  obtain ⟨upsert, touched⟩ := upserts _ rfl
  exact ⟨_, _, rfl, upsert, rfl, touched _ rfl, by decide +kernel⟩

end PLoadtesting.ControlPlane
