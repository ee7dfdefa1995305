import PLoadtesting.ControlPlane.CleanRejection
import PLoadtesting.ControlPlane.ObjectRefs
import PLoadtesting.ControlPlane.ResultCallback

/-!
Malformed artifact manifests (`register_task_artifacts`), and the exceptions that
they end with.

The result view reports a `ValueError` to the client; any other exception is an
internal error. The normaliser of an entry checks every field that way
(`gives_normalize`), but reads them with `entry.get`, which only objects have,
and leaves sizes, dates and lengths to the columns of the database, whose
refusals are of other kinds. `manifestHandled_iff` says which manifests are
handled.
-/

namespace PLoadtesting.ControlPlane

open Keyed Python Transaction Checks

/-- The exception that the view translates. -/
def IsValueError : Exc → Prop
  | .valueError _ => True
  | _ => False

/-! ### What an entry says -/

/-- A stripped text, empty for anything else. -/
def strippedText : Json → String
  | .str s => strip s
  | _ => ""

def optionalTextOf : Json → Option String
  | .str s => if s = "" then none else some s
  | _ => none

def sizeOf? : Json → Option Int
  | .int i => some i
  | _ => none

mutual

/-- The keys under which the parts of a value are checked. -/
def keysUnder (key : String) : Json → List String
  | .obj items => key :: itemKeys items
  | .arr xs => key :: elementKeys key xs
  | _ => [key]

def itemKeys : List (String × Json) → List String
  | [] => []
  | (key, value) :: items => keysUnder key value ++ itemKeys items

def elementKeys (key : String) : List Json → List String
  | [] => []
  | x :: xs => keysUnder key x ++ elementKeys key xs

end

/-- Null or a text. -/
def IsOptionalText (value : Json) : Prop := value = .null ∨ ∃ s, value = .str s

/-- Null, the empty text, or an integer that is not negative. -/
def IsOptionalSize (value : Json) : Prop :=
  isBlank value = true ∨ ∃ i, value = .int i ∧ 0 ≤ i

theorem isBlank_iff {value : Json} : isBlank value = true ↔ value = .null ∨ value = .str "" := by
  cases value <;> simp [isBlank]

theorem gives_requiredString (value : Json) (fieldName : String) :
    Gives IsValueError (requiredString value fieldName) (strippedText value ≠ "")
      (strippedText value) := by
  unfold requiredString strippedText
  cases value with
  | str s =>
      dsimp only
      split
      · rename_i blank
        exact ⟨fun given => absurd blank given, fun _ => trivial⟩
      · rename_i given
        exact (gives_ok _).congr (iff_of_true trivial given)
  | _ => exact ⟨fun given => absurd rfl given, fun _ => trivial⟩

theorem gives_optionalString (value : Json) :
    Gives IsValueError (optionalString value) (IsOptionalText value) (optionalTextOf value) := by
  unfold optionalString IsOptionalText
  cases value with
  | null => exact (gives_ok _).congr (by simp)
  | str s =>
      by_cases empty : s = ""
      · subst empty
        exact (gives_ok _).congr (by simp)
      · simp only [isBlank, optionalTextOf, empty, decide_false, Bool.false_eq_true, if_false]
        exact (gives_ok _).congr (by simp)
  | _ => exact ⟨by simp, fun _ => trivial⟩

theorem gives_optionalInt (value : Json) :
    Gives IsValueError (optionalInt value) (IsOptionalSize value) (sizeOf? value) := by
  unfold optionalInt IsOptionalSize
  cases value with
  | null => exact (gives_ok _).congr (by simp [isBlank])
  | str s =>
      by_cases empty : s = ""
      · subst empty
        exact (gives_ok _).congr (by simp [isBlank])
      · simp only [isBlank, empty, decide_false, Bool.false_eq_true, if_false]
        exact ⟨by simp, fun _ => trivial⟩
  | int i =>
      simp only [isBlank, Bool.false_eq_true, if_false]
      split
      · rename_i negative
        exact ⟨by simpa using Int.not_le.mpr negative, fun _ => trivial⟩
      · rename_i nonneg
        exact (gives_ok _).congr (by simpa using Int.not_lt.mp nonneg)
  | _ => exact ⟨by simp [isBlank], fun _ => trivial⟩

theorem gives_validateName (what : String) (names : List String) (name : String) :
    Gives IsValueError (validateName what names name) (name ∈ names) name := by
  unfold validateName
  split
  · rename_i known
    exact (gives_ok _).congr (iff_of_true trivial (List.contains_iff_mem.mp known))
  · rename_i unknown
    refine ⟨fun known => absurd (List.contains_iff_mem.mpr known) unknown, fun _ => trivial⟩

section Fields

variable [Runtime]

def checksumOf : Json → String
  | .str s => if s = "" then "" else Runtime.lower s
  | _ => ""

/-- Null, the empty text, or a digest once its letters are small. -/
def IsOptionalDigest (value : Json) : Prop :=
  isBlank value = true ∨ ∃ s, value = .str s ∧ isSha256Hex (Runtime.lower s) = true

theorem gives_validateChecksumSha256 (value : Json) :
    Gives IsValueError (validateChecksumSha256 value) (IsOptionalDigest value)
      (checksumOf value) := by
  unfold validateChecksumSha256 IsOptionalDigest
  cases value with
  | null => exact (gives_ok _).congr (by simp [isBlank])
  | str s =>
      by_cases empty : s = ""
      · subst empty
        exact (gives_ok _).congr (by simp [isBlank])
      · simp only [isBlank, checksumOf, empty, decide_false, Bool.false_eq_true, if_false]
        split
        · rename_i digest
          exact (gives_ok _).congr (by simpa using digest)
        · rename_i other
          exact ⟨by simpa using other, fun _ => trivial⟩
  | _ => exact ⟨by simp [isBlank], fun _ => trivial⟩

/-- The key names no secret. -/
def IsSafeKey (key : String) : Prop :=
  (sensitiveMetadataTokens.any fun token => occursIn token (Runtime.lower key)) = false

theorem gives_checkMetadataKey (key : String) :
    Gives IsValueError (checkMetadataKey key) (IsSafeKey key) () := by
  unfold checkMetadataKey IsSafeKey require
  cases sensitiveMetadataTokens.any fun token => occursIn token (Runtime.lower key) with
  | false => exact (gives_ok _).congr (iff_of_true trivial rfl)
  | true => exact ⟨nofun, fun _ => trivial⟩

/-- A value without parts is checked under its own key. -/
theorem gives_checkedValue (key : String) (value : Json) (keys : keysUnder key value = [key]) :
    Gives IsValueError (checkMetadataKey key >>= fun _ => Except.ok value)
      (∀ k ∈ keysUnder key value, IsSafeKey k) value := by
  rw [keys]
  exact (gives_bind (gives_checkMetadataKey key) fun _ => gives_ok value).congr (by simp)

mutual

/-- Sanitising changes nothing: it only refuses keys. -/
theorem gives_sanitizeMetadataValue (key : String) : ∀ value : Json,
    Gives IsValueError (sanitizeMetadataValue key value)
      (∀ k ∈ keysUnder key value, IsSafeKey k) value
  | .obj items => by
      rw [sanitizeMetadataValue, keysUnder]
      refine Gives.congr (gives_bind (gives_checkMetadataKey key) fun _ =>
        gives_bind (gives_sanitizeMetadataItems items) fun _ => gives_pure _) ?_
      rw [List.forall_mem_cons, and_true]
  | .arr xs => by
      rw [sanitizeMetadataValue, keysUnder]
      refine Gives.congr (gives_bind (gives_checkMetadataKey key) fun _ =>
        gives_bind (gives_sanitizeMetadataElements key xs) fun _ => gives_pure _) ?_
      rw [List.forall_mem_cons, and_true]
  | .null => gives_checkedValue key .null rfl
  | .bool b => gives_checkedValue key (.bool b) rfl
  | .int i => gives_checkedValue key (.int i) rfl
  | .float x => gives_checkedValue key (.float x) rfl
  | .str s => gives_checkedValue key (.str s) rfl

theorem gives_sanitizeMetadataItems : ∀ items : List (String × Json),
    Gives IsValueError (sanitizeMetadataItems items) (∀ k ∈ itemKeys items, IsSafeKey k) items
  | [] => (gives_ok _).congr (by simp [itemKeys])
  | (key, value) :: items => by
      rw [sanitizeMetadataItems, itemKeys]
      refine Gives.congr (gives_bind (gives_sanitizeMetadataValue key value) fun _ =>
        gives_bind (gives_sanitizeMetadataItems items) fun _ => gives_pure _) ?_
      rw [List.forall_mem_append, and_true]

theorem gives_sanitizeMetadataElements (key : String) : ∀ xs : List Json,
    Gives IsValueError (sanitizeMetadataElements key xs)
      (∀ k ∈ elementKeys key xs, IsSafeKey k) xs
  | [] => (gives_ok _).congr (by simp [elementKeys])
  | x :: xs => by
      rw [sanitizeMetadataElements, elementKeys]
      refine Gives.congr (gives_bind (gives_sanitizeMetadataValue key x) fun _ =>
        gives_bind (gives_sanitizeMetadataElements key xs) fun _ => gives_pure _) ?_
      rw [List.forall_mem_append, and_true]

end

/-- Null, the empty text, or an object without secrets. -/
def IsMetadata (value : Json) : Prop :=
  isBlank value = true ∨ ∃ d, value.asDict? = some d ∧ ∀ key ∈ itemKeys d.rows, IsSafeKey key

theorem gives_sanitizeArtifactMetadata (value : Json) :
    Gives IsValueError (sanitizeArtifactMetadata value) (IsMetadata value) value.dictOrEmpty := by
  unfold sanitizeArtifactMetadata IsMetadata Json.dictOrEmpty
  split
  · rename_i blank
    rcases isBlank_iff.mp blank with rfl | rfl
    · exact (gives_ok _).congr (iff_of_true trivial (.inl rfl))
    · exact (gives_ok _).congr (iff_of_true trivial (.inl rfl))
  · rename_i given
    cases object : value.asDict? with
    | none => exact ⟨by simp [given], fun _ => trivial⟩
    | some d =>
        have items := gives_map (f := Dict.ofItems) (gives_sanitizeMetadataItems d.rows)
        rw [Dict.ofItems_rows] at items
        exact items.congr (by simp [given])

omit [Runtime] in
theorem isClean_require {condition : Bool} {refusal : Exc} (translated : IsValueError refusal) :
    IsClean IsValueError (require condition refusal) := by
  cases condition with
  | true => trivial
  | false => exact translated

/-- A reference is refused with a `ValueError` only, by the URL parser too. -/
theorem isClean_validateGivenObjectRef (objectRef taskId artifactId : String) :
    IsClean IsValueError (validateGivenObjectRef objectRef taskId artifactId) := by
  have path (parts : List String) :
      IsClean IsValueError (validateArtifactPath parts taskId artifactId) := by
    unfold validateArtifactPath
    split
    · exact isClean_bind (isClean_require trivial) fun _ _ => isClean_require trivial
    · trivial
  unfold validateGivenObjectRef
  refine isClean_bind (isClean_require trivial) fun _ _ => ?_
  refine isClean_bind (isClean_require trivial) fun _ _ => ?_
  refine isClean_bind ?_ fun parsed _ => ?_
  · cases split : Url.urlsplit objectRef with
    | ok parsed => trivial
    | error e =>
        obtain ⟨text, rfl⟩ := Url.urlsplit_error split
        trivial
  refine isClean_bind (isClean_require trivial) fun _ _ => ?_
  refine isClean_bind (isClean_require trivial) fun _ _ => ?_
  dsimp only
  split
  · refine isClean_bind (isClean_require trivial) fun _ _ => ?_
    exact isClean_bind (path _) fun _ _ => trivial
  · trivial

/-- An optional reference, null unless it is accepted for the artifact. -/
def IsObjectRef (taskId artifactId : String) (value : Json) : Prop :=
  ∀ ref, optionalTextOf value = some ref → IsAccepted ref taskId artifactId

theorem gives_validateObjectRef (value : Json) (taskId artifactId : String) :
    Gives IsValueError (validateObjectRef (optionalTextOf value) taskId artifactId)
      (IsObjectRef taskId artifactId value) (optionalTextOf value) := by
  unfold IsObjectRef
  cases read : optionalTextOf value with
  | none => exact (gives_ok _).congr (by simp)
  | some ref =>
      have given : ref ≠ "" := by
        rintro rfl
        cases value with
        | str s =>
            rw [optionalTextOf] at read
            split at read
            · cases read
            · cases read
              contradiction
        | _ => cases read
      have same : validateObjectRef (some ref) taskId artifactId =
          validateGivenObjectRef ref taskId artifactId := if_neg given
      rw [same]
      have accepted := @validateGivenObjectRef_ok_iff ref taskId artifactId _
      have clean := isClean_validateGivenObjectRef ref taskId artifactId
      cases returned : validateGivenObjectRef ref taskId artifactId with
      | ok result =>
          rw [returned] at accepted
          cases (validateGivenObjectRef_eq_ok_iff.mp returned).1
          exact (gives_ok _).congr (by simpa using accepted)
      | error e =>
          rw [returned] at accepted clean
          exact ⟨by simpa using accepted, fun _ => clean⟩

/-! ### Entries -/

/-- The fields of an entry that passes the normaliser. -/
structure ValidEntry (taskId : TaskId) (entry : Json) : Prop where
  artifactId : strippedText (objectField entry "artifact_id") ≠ ""
  metadata : IsMetadata (objectField entry "metadata")
  kind : strippedText (objectField entry "kind") ∈ allowedArtifactKinds
  name : strippedText (objectField entry "name") ≠ ""
  state : strippedText (objectField entry "state") ∈ allowedArtifactStates
  sizeBytes : IsOptionalSize (objectField entry "size_bytes")
  contentType : IsOptionalText (objectField entry "content_type")
  objectRef : IsOptionalText (objectField entry "object_ref") ∧
    IsObjectRef taskId (strippedText (objectField entry "artifact_id"))
      (objectField entry "object_ref")
  storageBackend : IsOptionalText (objectField entry "storage_backend")
  checksumSha256 : IsOptionalDigest (objectField entry "checksum_sha256")
  provenanceEngine : IsOptionalText (objectField entry "provenance_engine")
  provenanceSource : strippedText (objectField entry "provenance_source") ≠ ""

/-- The row that an entry describes. -/
def entryRow (task : LoadTestTask) (version : String) (now : Timestamp) (entry : Json) :
    TaskArtifact where
  task := task.id
  artifactId := strippedText (objectField entry "artifact_id")
  kind := strippedText (objectField entry "kind")
  name := strippedText (objectField entry "name")
  state := strippedText (objectField entry "state")
  sizeBytes := sizeOf? (objectField entry "size_bytes")
  contentType := optionalTextOf (objectField entry "content_type")
  objectRef := optionalTextOf (objectField entry "object_ref")
  storageBackend := (optionalTextOf (objectField entry "storage_backend")).getD ""
  checksumSha256 := checksumOf (objectField entry "checksum_sha256")
  provenanceEngine := (optionalTextOf (objectField entry "provenance_engine")).getD task.engine
  provenanceSource := strippedText (objectField entry "provenance_source")
  metadata := dictJson
    (if version ≠ legacyArtifactManifestVersion then
      (Dict.ofItems [("artifact_manifest_version", .str version)]).update
        (objectField entry "metadata").dictOrEmpty.rows
    else (objectField entry "metadata").dictOrEmpty)
  expiresAt := objectField entry "expires_at"
  createdAt := now
  updatedAt := now

omit [Runtime] in
theorem bind_entryField {entry : Json} {d : Dict Json} (object : entry.asDict? = some d)
    {β : Type} (key : String) (f : Json → Except Exc β) :
    (entryField entry key >>= f) = f (objectField entry key) := by
  unfold entryField objectField
  rw [object]
  rfl

/-- The normaliser gives the row of an object that is valid, and refuses any
other object with a `ValueError`. -/
theorem gives_normalize (task : LoadTestTask) (version : String) (now : Timestamp) {entry : Json}
    {d : Dict Json} (object : entry.asDict? = some d) :
    Gives IsValueError (normalizeTaskArtifactMetadata task version now entry)
      (ValidEntry task.id entry) (entryRow task version now entry) := by
  unfold normalizeTaskArtifactMetadata
  simp only [bind_entryField object]
  refine Gives.congr (gives_bind (gives_requiredString _ _) fun _ =>
    gives_bind (gives_sanitizeArtifactMetadata _) fun _ =>
    gives_bind (gives_requiredString _ _) fun _ => gives_bind (gives_validateName _ _ _) fun _ =>
    gives_bind (gives_requiredString _ _) fun _ =>
    gives_bind (gives_requiredString _ _) fun _ => gives_bind (gives_validateName _ _ _) fun _ =>
    gives_bind (gives_optionalInt _) fun _ => gives_bind (gives_optionalString _) fun _ =>
    gives_bind (gives_optionalString _) fun _ => gives_bind (gives_validateObjectRef _ _ _) fun _ =>
    gives_bind (gives_optionalString _) fun _ =>
    gives_bind (gives_validateChecksumSha256 _) fun _ =>
    gives_bind (gives_optionalString _) fun _ => gives_bind (gives_requiredString _ _) fun _ =>
    gives_pure _) ?_
  constructor
  · rintro ⟨artifactId, metadata, _, kind, name, _, state, sizeBytes, contentType, optionalRef,
      objectRef, storageBackend, checksumSha256, provenanceEngine, provenanceSource, _⟩
    exact ⟨artifactId, metadata, kind, name, state, sizeBytes, contentType,
      ⟨optionalRef, objectRef⟩, storageBackend, checksumSha256, provenanceEngine, provenanceSource⟩
  · intro valid
    have named {names : List String} (noEmpty : "" ∉ names) {text : String} (mem : text ∈ names) :
        text ≠ "" := fun empty => noEmpty (empty ▸ mem)
    exact ⟨valid.artifactId, valid.metadata, named (by decide) valid.kind, valid.kind, valid.name,
      named (by decide) valid.state, valid.state, valid.sizeBytes, valid.contentType,
      valid.objectRef.1, valid.objectRef.2, valid.storageBackend, valid.checksumSha256,
      valid.provenanceEngine, valid.provenanceSource, trivial⟩

/-- The checks of an entry: it is an object, it is valid, and the columns take
its row, or refuse it with a `ValueError`. -/
def entryChecks (columns : Columns) (task : LoadTestTask) (version : String) (now : Timestamp)
    (entry : Json) : List Check :=
  [⟨entry.asDict?.isSome = true, entry.asDict?.isSome = true⟩,
    .of (ValidEntry task.id entry),
    ⟨IsClean IsValueError (columns.artifact (entryRow task version now entry)),
      columns.artifact (entryRow task version now entry) = .ok ()⟩]

theorem makes_registerEntry (columns : Columns) (task : LoadTestTask) (version : String)
    (now : Timestamp) (entry : Json) :
    Makes IsValueError
      ((normalizeTaskArtifactMetadata task version now entry).bind columns.artifact)
      (entryChecks columns task version now entry) := by
  unfold entryChecks
  cases object : entry.asDict? with
  | none =>
      have raised : normalizeTaskArtifactMetadata task version now entry =
          .error (entry.noAttribute "get") := by
        unfold normalizeTaskArtifactMetadata entryField
        rw [object]
        rfl
      rw [raised]
      refine ⟨iff_of_false id fun safe => absurd safe.1 (by simp), iff_of_false nofun fun all => ?_⟩
      exact absurd all.1 (by simp)
  | some d =>
      have given := gives_normalize task version now object
      refine makes_passed rfl rfl (makes_bind given.makes fun row returned => ?_)
      obtain ⟨_, rfl⟩ := given.eq_ok_iff.mp returned
      exact makes_one Iff.rfl ⟨fun ⟨_, taken⟩ => taken, fun taken => ⟨(), taken⟩⟩

/-- The checks of a manifest. -/
def manifestChecks (columns : Columns) (task : LoadTestTask) (now : Timestamp) (manifest : Json) :
    List Check :=
  match normalizeArtifactManifestPayload manifest with
  | .error _ => [.of False]
  | .ok (version, items) => items.flatMap (entryChecks columns task version now)

omit [Runtime] in
theorem isClean_payload (manifest : Json) :
    IsClean IsValueError (normalizeArtifactManifestPayload manifest) := by
  have version (value : Json) : IsClean IsValueError (validateArtifactManifestVersion value) := by
    unfold validateArtifactManifestVersion
    split
    · trivial
    · split
      · split <;> trivial
      · trivial
  unfold normalizeArtifactManifestPayload
  split
  · trivial
  · split
    · trivial
    · split
      · trivial
      · dsimp only
        have rest (items : List Json) (value : Json) : IsClean IsValueError (do
            let version ← validateArtifactManifestVersion value
            return (version, items)) := isClean_bind (version value) fun _ _ => trivial
        split
        · exact rest _ _
        · split
          · exact rest _ _
          · trivial

theorem makes_registrationOutcome (columns : Columns) (task : LoadTestTask) (now : Timestamp)
    (manifest : Json) :
    Makes IsValueError (registrationOutcome columns task manifest now)
      (manifestChecks columns task now manifest) := by
  unfold registrationOutcome manifestChecks
  have clean := isClean_payload manifest
  cases payload : normalizeArtifactManifestPayload manifest with
  | error e =>
      rw [payload] at clean
      exact makes_refused [] clean trivial id
  | ok parts =>
      obtain ⟨version, items⟩ := parts
      exact makes_forM fun entry _ => makes_registerEntry columns task version now entry

/-! ### Manifests -/

/-- Every entry of the manifest is registered. -/
def RegistersAll (task : LoadTestTask) (manifest : Json) (now : Timestamp) (store store' : Store) :
    Prop :=
  ∃ version items, normalizeArtifactManifestPayload manifest = .ok (version, items) ∧
    store' = (items.map (entryRow task version now)).foldl
      (fun store row => upsertArtifact row store) store

/-- The registration ends with all entries registered, or with a `ValueError`. -/
def ManifestHandled (columns : Columns) (task : LoadTestTask) (manifest : Json) (now : Timestamp)
    (store : Store) : Prop :=
  match (registerTaskArtifacts columns task manifest now).execute store with
  | (.ok (), store') => RegistersAll task manifest now store store'
  | (.error e, _) => IsValueError e

variable {columns : Columns} {task : LoadTestTask} {manifest : Json} {now : Timestamp}

/-- The entries of a manifest that is accepted are all normalised and taken. -/
theorem entriesTaken_of_ok {store store' : Store}
    (registered : (registerTaskArtifacts columns task manifest now).execute store =
      (.ok (), store')) :
    ∃ version items, normalizeArtifactManifestPayload manifest = .ok (version, items) ∧
      ∀ entry ∈ items, normalizeTaskArtifactMetadata task version now entry =
          .ok (entryRow task version now entry) ∧
        columns.artifact (entryRow task version now entry) = .ok () := by
  obtain ⟨_, ran, _⟩ := @registerTaskArtifacts_execute _ columns task manifest now store
  have outcome : registrationOutcome columns task manifest now = .ok () :=
    (Prod.mk.inj (ran.symm.trans registered)).1
  have passed := (makes_registrationOutcome columns task now manifest).ok_iff.mp ⟨(), outcome⟩
  unfold manifestChecks at passed
  split at passed
  · exact absurd passed.1 id
  · rename_i version items payload
    refine ⟨version, items, payload, ?_⟩
    intro entry mem
    obtain ⟨object, valid, taken, _⟩ := allPass_flatMap.mp passed entry mem
    obtain ⟨d, object⟩ := Option.isSome_iff_exists.mp object
    exact ⟨(gives_normalize task version now object).returns valid, taken⟩

/-- A manifest that is accepted has all its entries registered. -/
theorem registersAll_of_ok {store store' : Store}
    (registered : (registerTaskArtifacts columns task manifest now).execute store =
      (.ok (), store')) : RegistersAll task manifest now store store' := by
  obtain ⟨version, items, payload, entries⟩ := entriesTaken_of_ok registered
  have rows : List.Forall₂ (fun entry row =>
      normalizeTaskArtifactMetadata task version now entry = .ok row ∧
        columns.artifact row = .ok ()) items (items.map (entryRow task version now)) :=
    List.forall₂_map_right_iff.mpr (List.forall₂_same.mpr entries)
  have written := registerTaskArtifacts_ok payload rows store
  exact ⟨version, items, payload, (Prod.mk.inj (registered.symm.trans written)).2⟩

theorem manifestHandled_iff_safe (store : Store) :
    ManifestHandled columns task manifest now store ↔
      SafeInOrder (manifestChecks columns task now manifest) := by
  rw [← (makes_registrationOutcome columns task now manifest).clean_iff]
  obtain ⟨store', ran, _⟩ :=
    @registerTaskArtifacts_execute _ columns task manifest now store
  unfold ManifestHandled
  rw [ran]
  cases outcome : registrationOutcome columns task manifest now with
  | error e => exact Iff.rfl
  | ok _ =>
      rw [outcome] at ran
      exact iff_of_true (registersAll_of_ok ran) trivial

/-- After entries that are registered, a valid entry whose row the columns refuse
with another exception (a size beyond 64 bits, a date that is none) is not
handled. -/
theorem not_handled_of_refusedRow {version : String} {before after : List Json} {entry : Json}
    {e : Exc} (payload : normalizeArtifactManifestPayload manifest =
      .ok (version, before ++ entry :: after))
    (registered : ∀ x ∈ before, AllPass (entryChecks columns task version now x))
    (object : entry.asDict?.isSome = true) (valid : ValidEntry task.id entry)
    (refused : columns.artifact (entryRow task version now entry) = .error e)
    (other : ¬ IsValueError e) (store : Store) :
    ¬ ManifestHandled columns task manifest now store := by
  rw [manifestHandled_iff_safe, manifestChecks, payload]
  dsimp only
  rw [List.flatMap_append, safeInOrder_append]
  intro safe
  have here := safe.2 (allPass_flatMap.mpr registered)
  rw [List.flatMap_cons, safeInOrder_append] at here
  have clean := ((here.1.2 object).2 valid).1
  dsimp only at clean
  rw [refused] at clean
  exact other clean

end Fields

end PLoadtesting.ControlPlane
