import PLoadtesting.ControlPlane.ArtifactContract
import PLoadtesting.ControlPlane.Models
import PLoadtesting.Lib.Transaction

/-!
The artifact registry (`apps/tasks/artifact_registry.py`): the manifest of a
report, entry by entry, as rows of `TaskArtifact`.

Entries are registered one after another, so a refused entry leaves the rows of
the entries before it; undoing them is left to the caller's transaction. What
the database itself refuses is the parameter `Columns`.
-/

namespace PLoadtesting.ControlPlane

open Keyed Python Transaction

/-- `TaskArtifact`. -/
structure TaskArtifact where
  task : TaskId
  artifactId : String
  kind : String
  name : String
  state : String
  sizeBytes : Option Int
  contentType : Option String
  objectRef : Option String
  storageBackend : String
  checksumSha256 : String
  provenanceEngine : String
  provenanceSource : String
  metadata : Json
  expiresAt : Json
  createdAt : Timestamp
  updatedAt : Timestamp

/-- `UniqueConstraint(fields=["task", "artifact_id"])`. -/
def TaskArtifact.key (row : TaskArtifact) : TaskId × String := (row.task, row.artifactId)

/-- The tables that a report writes. -/
structure Store where
  db : Database
  artifacts : Table TaskArtifact.key

/-- The values that the columns of the database refuse, and how. -/
structure Columns where
  result : ResultFields → Except Exc Unit
  artifact : TaskArtifact → Except Exc Unit

/-- A text that a column of a length takes on every database: without a NUL and
in UTF-8. -/
def textFits (maxLength : Nat) (text : String) : Bool :=
  decide (text.length ≤ maxLength) && !text.toList.contains '\x00' && isEncodable text

/-- A `BigIntegerField` takes the integers of 64 bits. -/
def bigIntegerFits (i : Int) : Bool :=
  decide (-9223372036854775808 ≤ i) && decide (i ≤ 9223372036854775807)

/-- A flat object of short texts. -/
def metadataFits : Json → Bool
  | .obj items => items.all fun
      | (key, .str value) => textFits 512 key && textFits 512 value
      | _ => false
  | _ => false

/-- The values fit the columns of `TaskArtifact`, with no expiry. -/
def TaskArtifact.fits (row : TaskArtifact) : Bool :=
  textFits 128 row.artifactId && textFits 32 row.kind && textFits 256 row.name &&
    textFits 16 row.state && row.sizeBytes.all bigIntegerFits &&
    row.contentType.all (textFits 128) && row.objectRef.all (textFits 512) &&
    textFits 64 row.storageBackend && textFits 128 row.checksumSha256 &&
    textFits 16 row.provenanceEngine && textFits 64 row.provenanceSource &&
    metadataFits row.metadata && row.expiresAt matches .null

/-! ### Normalising -/

/-- `normalize_artifact_manifest_payload`: the version and the entries. -/
def normalizeArtifactManifestPayload (manifest : Json) : Except Exc (String × List Json) :=
  if isBlank manifest then .ok (legacyArtifactManifestVersion, [])
  else
    match manifest with
    | .arr items => .ok (legacyArtifactManifestVersion, items)
    | _ =>
        match manifest.asDict? with
        | none => .error (.valueError "artifact_manifest must be a list or an object with items.")
        | some manifest => do
            let items := (manifest.get? "items").getD .null
            let items ← if isBlank items then .ok [] else
              match items with
              | .arr items => .ok items
              | _ => .error (.valueError "artifact_manifest.items must be a list.")
            let version ← validateArtifactManifestVersion
              ((manifest.get? "artifact_manifest_version").getD .null)
            return (version, items)

/-- `artifact_metadata.get(key)`. -/
def entryField (entry : Json) (key : String) : Except Exc Json :=
  match entry.asDict? with
  | some entry => .ok ((entry.get? key).getD .null)
  | none => .error (entry.noAttribute "get")

theorem entryField_of_mem {items : List (String × Json)} (nodup : (items.map Prod.fst).Nodup)
    {key : String} {value : Json} (mem : (key, value) ∈ items) :
    entryField (.obj items) key = .ok value := by
  have found : (Dict.ofItems items).get? key = some value :=
    Dict.get?_eq_some_iff.mpr ((Dict.mem_ofItems_of_nodup nodup).mpr mem)
  show Except.ok (((Dict.ofItems items).get? key).getD .null) = _
  rw [found]
  rfl

theorem entryField_of_notMem {items : List (String × Json)} {key : String}
    (absent : key ∉ items.map Prod.fst) : entryField (.obj items) key = .ok .null := by
  have missing : (Dict.ofItems items).get? key = none := by
    rw [Dict.get?_ofItems, Option.map_eq_none_iff, List.find?_eq_none]
    intro item mem same
    exact absent (of_decide_eq_true same ▸ List.mem_map_of_mem (List.mem_reverse.mp mem))
  show Except.ok (((Dict.ofItems items).get? key).getD .null) = _
  rw [missing]
  rfl

/-- `normalize_task_artifact_metadata`: the row of an entry, as a new one. -/
def normalizeTaskArtifactMetadata [Runtime] (task : LoadTestTask) (version : String)
    (now : Timestamp) (entry : Json) : Except Exc TaskArtifact := do
  let artifactId ← requiredString (← entryField entry "artifact_id") "artifact_id"
  let metadata ← sanitizeArtifactMetadata (← entryField entry "metadata")
  let metadata :=
    if version ≠ legacyArtifactManifestVersion then
      (Dict.ofItems [("artifact_manifest_version", .str version)]).update metadata.rows
    else metadata
  let kind ← validateArtifactKind (← requiredString (← entryField entry "kind") "kind")
  let name ← requiredString (← entryField entry "name") "name"
  let state ← validateArtifactState (← requiredString (← entryField entry "state") "state")
  let sizeBytes ← optionalInt (← entryField entry "size_bytes")
  let contentType ← optionalString (← entryField entry "content_type")
  let objectRef ← validateObjectRef (← optionalString (← entryField entry "object_ref")) task.id
    artifactId
  let storageBackend ← optionalString (← entryField entry "storage_backend")
  let checksumSha256 ← validateChecksumSha256 (← entryField entry "checksum_sha256")
  let expiresAt ← entryField entry "expires_at"
  let provenanceEngine ← optionalString (← entryField entry "provenance_engine")
  let provenanceSource ←
    requiredString (← entryField entry "provenance_source") "provenance_source"
  return {
    task := task.id
    artifactId
    kind
    name
    state
    sizeBytes
    contentType
    objectRef
    storageBackend := storageBackend.getD ""
    checksumSha256
    provenanceEngine := provenanceEngine.getD task.engine
    provenanceSource
    metadata := dictJson metadata
    expiresAt
    createdAt := now
    updatedAt := now }

/-! ### Registering -/

/-- `update_or_create(task=…, artifact_id=…, defaults=normalized)`: a row that
exists keeps its creation time. -/
def upsertArtifact (row : TaskArtifact) (store : Store) : Store :=
  let createdAt := (store.artifacts.find? row.key).elim row.createdAt (·.createdAt)
  { store with artifacts := store.artifacts.upsert { row with createdAt } }

/-- `_register_normalized_task_artifact`. -/
def registerNormalizedTaskArtifact [Runtime] (columns : Columns) (task : LoadTestTask)
    (version : String) (now : Timestamp) (entry : Json) : Action Store Exc Unit := do
  let row ← Action.ofExcept (normalizeTaskArtifactMetadata task version now entry)
  Action.ofExcept (columns.artifact row)
  Action.write (upsertArtifact row)

/-- `register_task_artifacts`. -/
def registerTaskArtifacts [Runtime] (columns : Columns) (task : LoadTestTask) (manifest : Json)
    (now : Timestamp) : Action Store Exc Unit := do
  let (version, items) ← Action.ofExcept (normalizeArtifactManifestPayload manifest)
  Action.forEach (registerNormalizedTaskArtifact columns task version now) items

section Registering

variable [Runtime] {columns : Columns} {task : LoadTestTask} {manifest : Json} {now : Timestamp}
  {store store' : Store} {e : Exc}

/-- A refused entry writes nothing itself. -/
theorem registerNormalized_raises {version : String} {entry : Json}
    (raised : (registerNormalizedTaskArtifact columns task version now entry).execute store =
      (.error e, store')) : store' = store := by
  unfold registerNormalizedTaskArtifact at raised
  rcases Action.execute_bind_error_iff.mp raised with normalized | ⟨row, _, normalized, rest⟩
  · exact (congrArg Prod.snd normalized).symm
  · have same := congrArg Prod.snd normalized
    rcases Action.execute_bind_error_iff.mp rest with taken | ⟨_, _, _, written⟩
    · exact (congrArg Prod.snd taken).symm.trans same.symm
    · cases written

/-- A manifest that is refused at some entry leaves the rows of the entries
before it. -/
theorem registerTaskArtifacts_raises
    (raised : (registerTaskArtifacts columns task manifest now).execute store =
      (.error e, store')) :
    store' = store ∨ ∃ version before entry after,
      normalizeArtifactManifestPayload manifest = .ok (version, before ++ entry :: after) ∧
        (Action.forEach (registerNormalizedTaskArtifact columns task version now) before).execute
          store = (.ok (), store') := by
  unfold registerTaskArtifacts at raised
  rcases Action.execute_bind_error_iff.mp raised with refused | ⟨⟨version, items⟩, _, read, rest⟩
  · exact .inl (congrArg Prod.snd refused).symm
  · obtain ⟨payload, rfl⟩ := Prod.mk.inj read
    obtain ⟨before, entry, after, u, rfl, ran, refused⟩ := Action.execute_forEach_error rest
    cases registerNormalized_raises refused
    exact .inr ⟨version, before, entry, after, payload, ran⟩

/-- A manifest whose entries are all normalised and taken leaves their rows. -/
theorem registerTaskArtifacts_ok {version : String} {items : List Json} {rows : List TaskArtifact}
    (payload : normalizeArtifactManifestPayload manifest = .ok (version, items))
    (normalized : List.Forall₂ (fun entry row =>
      normalizeTaskArtifactMetadata task version now entry = .ok row ∧
        columns.artifact row = .ok ()) items rows) (store : Store) :
    (registerTaskArtifacts columns task manifest now).execute store =
      (.ok (), rows.foldl (fun store row => upsertArtifact row store) store) := by
  unfold registerTaskArtifacts
  rw [payload]
  refine Action.execute_forEach_ok (normalized.imp ?_) store
  rintro entry row ⟨read, taken⟩ store
  unfold registerNormalizedTaskArtifact
  rw [read]
  show (Action.ofExcept (columns.artifact row) >>= _).execute store = _
  rw [taken]
  rfl

end Registering

/-! ### The rows that are left -/

/-- The row of a key after an upsert. -/
theorem find?_upsertArtifact {row : TaskArtifact} {store : Store} (k : TaskId × String) :
    (upsertArtifact row store).artifacts.find? k =
      if k = row.key then
        some { row with createdAt := ((store.artifacts.find? row.key).elim row.createdAt
          (·.createdAt)) }
      else store.artifacts.find? k :=
  Table.find?_upsert k

/-- Upserts of other keys leave a row alone. -/
theorem find?_upsertAll_of_other {rows : List TaskArtifact} {k : TaskId × String}
    (other : ∀ row ∈ rows, row.key ≠ k) (store : Store) :
    (rows.foldl (fun store row => upsertArtifact row store) store).artifacts.find? k =
      store.artifacts.find? k := by
  induction rows generalizing store with
  | nil => rfl
  | cons row rows ih =>
      obtain ⟨here, later⟩ := List.forall_mem_cons.mp other
      rw [List.foldl_cons, ih later, find?_upsertArtifact, if_neg here.symm]

/-- A row after upserts is an old one, or one of theirs. -/
theorem mem_upsertAll {rows : List TaskArtifact} {store : Store} {row : TaskArtifact}
    (mem : row ∈ (rows.foldl (fun store row => upsertArtifact row store) store).artifacts) :
    row ∈ store.artifacts ∨
      ∃ written ∈ rows, row = { written with createdAt := row.createdAt } := by
  induction rows generalizing store with
  | nil => exact .inl mem
  | cons first rows ih =>
      rcases ih mem with old | ⟨written, inRows, same⟩
      · rcases Table.mem_upsert.mp old with rfl | ⟨inStore, _⟩
        · exact .inr ⟨first, List.mem_cons_self, rfl⟩
        · exact .inl inStore
      · exact .inr ⟨written, List.mem_cons_of_mem _ inRows, same⟩

/-- After upserts of different keys every one of them is stored. -/
theorem find?_upsertAll {rows : List TaskArtifact} (nodup : (rows.map TaskArtifact.key).Nodup)
    {row : TaskArtifact} (mem : row ∈ rows) (store : Store) :
    ∃ createdAt, (rows.foldl (fun store row => upsertArtifact row store) store).artifacts.find?
      row.key = some { row with createdAt } := by
  induction rows generalizing store with
  | nil => cases mem
  | cons first rows ih =>
      rw [List.map_cons, List.nodup_cons] at nodup
      rw [List.foldl_cons]
      rcases List.mem_cons.mp mem with rfl | later
      · have other : ∀ later ∈ rows, later.key ≠ row.key := by
          intro later inRows same
          exact nodup.1 (same ▸ List.mem_map_of_mem inRows)
        rw [find?_upsertAll_of_other other, find?_upsertArtifact, if_pos rfl]
        exact ⟨_, rfl⟩
      · exact ih nodup.2 later _

end PLoadtesting.ControlPlane
