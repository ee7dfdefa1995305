import PLoadtesting.ControlPlane.ArtifactRegistry
import PLoadtesting.Worker.Artifacts

/-!
The artifact manifest from the worker to the registry. Each side has its own
copy of the contract; every manifest that a worker builds for a task is
registered for that task, entry by entry as it was written
(`manifest_registered`).

The proof follows one entry of the builder through the checks of the registry
(`normalize_artifactEntry`). What differs between entries is the record
`EntryTexts` of fixed texts, whether there is content, and the text whose
fingerprint is taken.
-/

namespace PLoadtesting.System

open Keyed Python Transaction ControlPlane Worker

/-! ### What both sides rest on -/

/-- 64 lower-case hexadecimal digits. -/
structure IsDigest (s : String) : Prop where
  length : s.toList.length = 64
  digits : ∀ c ∈ s.toList, isLowerHex c = true

/-- `hexdigest()` is a digest, and `lower()` leaves digests alone. -/
structure DigestText [Runtime] [Hashing] : Prop where
  sha256 (text : String) : IsDigest (Hashing.sha256 text)
  lower {s : String} (digest : IsDigest s) : Runtime.lower s = s

/-- The columns of the artifact table take every row that fits them. -/
def TakesFitting (columns : Columns) : Prop :=
  ∀ row : TaskArtifact, row.fits = true → columns.artifact row = .ok ()

/-- The canonical text of a UUID: hyphens after 8, 12, 16 and 20 digits. -/
def isUuid (s : String) : Bool :=
  decide (s.toList.length = 36) && s.toList.zipIdx.all fun (c, i) =>
    if i = 8 ∨ i = 13 ∨ i = 18 ∨ i = 23 then decide (c = '-') else isLowerHex c

theorem isLowerHex_isIdChar {c : Char} (hex : isLowerHex c = true) : isIdChar c = true := by
  simp only [isLowerHex, Bool.or_eq_true, Bool.and_eq_true, decide_eq_true_eq] at hex
  simp only [isIdChar, isLower_iff, Bool.or_eq_true, decide_eq_true_eq]
  rcases hex with digit | ⟨low, high⟩
  · exact .inl (.inr digit)
  · refine .inl (.inl ⟨low, ?_⟩)
    exact UInt32.le_trans high (by decide)

theorem isIdText_of_isUuid {s : String} (uuid : isUuid s = true) : IsIdText s := by
  simp only [isUuid, Bool.and_eq_true, List.all_eq_true] at uuid
  intro c mem
  obtain ⟨i, here⟩ := List.mem_iff_getElem?.mp mem
  have checked := uuid.2 (c, i) (List.mk_mem_zipIdx_iff_getElem?.mpr here)
  dsimp only at checked
  split at checked
  · rw [of_decide_eq_true checked]
    decide
  · exact isLowerHex_isIdChar checked

/-! ### One entry -/

/-- The texts of an entry that do not depend on the run. -/
structure EntryTexts where
  artifactId : String
  kind : String
  name : String
  contentType : String

/-- The texts that the contract knows and the columns hold. -/
def EntryTexts.isKnown (texts : EntryTexts) : Bool :=
  texts.artifactId.toList.all isIdChar && strip texts.artifactId = texts.artifactId &&
    texts.artifactId ≠ "" && textFits 128 texts.artifactId &&
    allowedArtifactKinds.contains texts.kind && strip texts.kind = texts.kind &&
    texts.kind ≠ "" && textFits 32 texts.kind && strip texts.name = texts.name &&
    texts.name ≠ "" && textFits 256 texts.name && texts.contentType ≠ "" &&
    textFits 128 texts.contentType

/-- What `isKnown` checks. -/
structure EntryTexts.Known (texts : EntryTexts) : Prop where
  idText : IsIdText texts.artifactId
  idStripped : strip texts.artifactId = texts.artifactId
  idGiven : texts.artifactId ≠ ""
  idFits : textFits 128 texts.artifactId = true
  kindAllowed : allowedArtifactKinds.contains texts.kind = true
  kindStripped : strip texts.kind = texts.kind
  kindGiven : texts.kind ≠ ""
  kindFits : textFits 32 texts.kind = true
  nameStripped : strip texts.name = texts.name
  nameGiven : texts.name ≠ ""
  nameFits : textFits 256 texts.name = true
  typeGiven : texts.contentType ≠ ""
  typeFits : textFits 128 texts.contentType = true

theorem EntryTexts.known_of_isKnown {texts : EntryTexts} (known : texts.isKnown = true) :
    texts.Known := by
  simp only [isKnown, Bool.and_eq_true, decide_eq_true_eq, List.all_eq_true, and_assoc] at known
  obtain ⟨idText, idStripped, idGiven, idFits, kindAllowed, kindStripped, kindGiven, kindFits,
    nameStripped, nameGiven, nameFits, typeGiven, typeFits⟩ := known
  exact ⟨idText, idStripped, idGiven, idFits, kindAllowed, kindStripped, kindGiven, kindFits,
    nameStripped, nameGiven, nameFits, typeGiven, typeFits⟩

/-- An entry of the builder: its texts, whether there is content, and what is
fingerprinted. -/
structure EntrySource where
  texts : EntryTexts
  available : Bool
  content : Json

section Entry

variable [Hashing]

/-- Size and checksum of an entry. -/
def EntrySource.fingerprint (source : EntrySource) : Json × Json :=
  if source.available then computeSafeArtifactFingerprint source.content else (.null, .null)

/-- State of an entry. -/
def EntrySource.state (source : EntrySource) : String :=
  if source.available then "available" else "planned"

/-- `_artifact_entry`. -/
def EntrySource.entry (source : EntrySource) (taskId : String) : Json :=
  artifactEntry taskId source.texts.artifactId source.texts.kind source.texts.name
    source.texts.contentType source.available source.content

/-- The row that belongs to an entry. -/
def EntrySource.row (source : EntrySource) (task : LoadTestTask) (now : Timestamp) :
    TaskArtifact where
  task := task.id
  artifactId := source.texts.artifactId
  kind := source.texts.kind
  name := source.texts.name
  state := source.state
  sizeBytes := match source.fingerprint.1 with
    | .int size => some size
    | _ => none
  contentType := some source.texts.contentType
  objectRef :=
    if source.available then some (artifactRef task.id source.texts.artifactId) else none
  storageBackend := "worker_output"
  checksumSha256 := match source.fingerprint.2 with
    | .str digest => digest
    | _ => ""
  provenanceEngine := task.engine
  provenanceSource := "worker_output"
  metadata := .obj [("artifact_manifest_version", .str "1.0")]
  expiresAt := .null
  createdAt := now
  updatedAt := now

/-- A fingerprint is absent, or the size and the digest of the content. -/
theorem fingerprint_cases (source : EntrySource) :
    source.fingerprint = (.null, .null) ∨
      ∃ text : String, source.content = .str text ∧
        source.fingerprint = (.int text.utf8ByteSize, .str (Hashing.sha256 text)) := by
  unfold EntrySource.fingerprint computeSafeArtifactFingerprint
  split
  · split
    · rename_i text content
      split
      · exact .inl rfl
      · exact .inr ⟨text, content, rfl⟩
    · exact .inl rfl
  · exact .inl rfl

/-- The fields of an entry. -/
def EntrySource.items (source : EntrySource) (taskId : String) : List (String × Json) :=
  [("artifact_id", .str source.texts.artifactId), ("kind", .str source.texts.kind),
    ("name", .str source.texts.name),
    ("state", .str source.state),
    ("size_bytes", source.fingerprint.1), ("content_type", .str source.texts.contentType),
    ("object_ref",
      if source.available then .str (artifactRef taskId source.texts.artifactId) else .null),
    ("storage_backend", .str "worker_output"), ("checksum_sha256", source.fingerprint.2),
    ("provenance_source", .str "worker_output"), ("metadata", .obj [])]

theorem entryField_entry {source : EntrySource} {taskId key : String} {value : Json}
    (mem : (key, value) ∈ source.items taskId) :
    entryField (source.entry taskId) key = .ok value := by
  have keys : (source.items taskId).map Prod.fst = ["artifact_id", "kind", "name", "state",
      "size_bytes", "content_type", "object_ref", "storage_backend", "checksum_sha256",
      "provenance_source", "metadata"] := rfl
  exact entryField_of_mem (keys ▸ by decide) mem

theorem entryField_entry_absent (source : EntrySource) (taskId : String) {key : String}
    (absent : key ∉ ["artifact_id", "kind", "name", "state", "size_bytes", "content_type",
      "object_ref", "storage_backend", "checksum_sha256", "provenance_source", "metadata"]) :
    entryField (source.entry taskId) key = .ok .null :=
  entryField_of_notMem absent

/-! #### The checks that depend on the content -/

section Checks

variable {source : EntrySource} {task : LoadTestTask} {now : Timestamp}

omit [Hashing] in
theorem checked_state : requiredString (.str source.state) "state" = .ok source.state ∧
    validateArtifactState source.state = .ok source.state := by
  unfold EntrySource.state
  cases source.available with
  | true => exact ⟨requiredString_of_stripped (by decide) (by decide) _,
      validateName_of_contains (by decide)⟩
  | false => exact ⟨requiredString_of_stripped (by decide) (by decide) _,
      validateName_of_contains (by decide)⟩

theorem optionalInt_size :
    optionalInt source.fingerprint.1 = .ok (source.row task now).sizeBytes := by
  unfold EntrySource.row
  rcases fingerprint_cases source with absent | ⟨text, content, present⟩
  · rw [absent]
    rfl
  · rw [present]
    exact optionalInt_natCast text.utf8ByteSize

theorem validateChecksumSha256_fingerprint [Runtime] (digests : DigestText) :
    validateChecksumSha256 source.fingerprint.2 = .ok (source.row task now).checksumSha256 := by
  unfold EntrySource.row
  rcases fingerprint_cases source with absent | ⟨text, content, present⟩
  · rw [absent]
    rfl
  · rw [present]
    have digest := digests.sha256 text
    exact validateChecksumSha256_digest digest.length digest.digits (digests.lower digest)

theorem optionalString_ref : optionalString
    (if source.available then .str (artifactRef task.id source.texts.artifactId) else .null) =
      .ok (source.row task now).objectRef := by
  unfold EntrySource.row
  cases source.available with
  | true => exact optionalString_of_given artifactRef_ne_empty
  | false => rfl

theorem validateObjectRef_row [Runtime] (uuid : isUuid task.id = true)
    (artifact : IsIdText source.texts.artifactId) :
    validateObjectRef (source.row task now).objectRef task.id source.texts.artifactId =
      .ok (source.row task now).objectRef := by
  have named : task.id ≠ "" := by
    intro empty
    rw [empty] at uuid
    cases uuid
  unfold EntrySource.row
  cases source.available with
  | true => exact validateObjectRef_artifactRef (isIdText_of_isUuid uuid) artifact named
  | false => rfl

end Checks

/-- An entry of the builder is normalised to its row. -/
theorem normalize_entry [Runtime] (digests : DigestText) {task : LoadTestTask}
    (uuid : isUuid task.id = true) {source : EntrySource} (known : source.texts.Known)
    (now : Timestamp) :
    normalizeTaskArtifactMetadata task "1.0" now (source.entry task.id) =
      .ok (source.row task now) := by
  have field {key : String} {value : Json} (mem : (key, value) ∈ source.items task.id) :=
    entryField_entry mem
  have artifactId := field (List.mem_of_getElem? (i := 0) rfl)
  have kind := field (List.mem_of_getElem? (i := 1) rfl)
  have name := field (List.mem_of_getElem? (i := 2) rfl)
  have state := field (List.mem_of_getElem? (i := 3) rfl)
  have size := field (List.mem_of_getElem? (i := 4) rfl)
  have contentType := field (List.mem_of_getElem? (i := 5) rfl)
  have objectRef := field (List.mem_of_getElem? (i := 6) rfl)
  have backend := field (List.mem_of_getElem? (i := 7) rfl)
  have checksum := field (List.mem_of_getElem? (i := 8) rfl)
  have provenance := field (List.mem_of_getElem? (i := 9) rfl)
  have metadata := field (List.mem_of_getElem? (i := 10) rfl)
  have expires : entryField (source.entry task.id) "expires_at" = .ok .null :=
    entryField_entry_absent source task.id (by decide)
  have engine : entryField (source.entry task.id) "provenance_engine" = .ok .null :=
    entryField_entry_absent source task.id (by decide)
  have allowed : validateArtifactKind source.texts.kind = .ok source.texts.kind :=
    validateName_of_contains known.kindAllowed
  unfold normalizeTaskArtifactMetadata
  rw [artifactId, kind, name, state, size, contentType, objectRef, backend, checksum, provenance,
    metadata, expires, engine]
  simp only [bind, Except.bind, requiredString_of_stripped known.idStripped known.idGiven,
    requiredString_of_stripped known.kindStripped known.kindGiven,
    requiredString_of_stripped known.nameStripped known.nameGiven,
    @optionalInt_size _ source task now, @optionalString_ref _ source task now,
    optionalString_of_given known.typeGiven,
    @validateObjectRef_row _ source task now _ uuid known.idText,
    @validateChecksumSha256_fingerprint _ source task now _ digests, checked_state.1,
    checked_state.2, allowed]
  rfl

omit [Hashing] in
theorem textFits_of_digest {s : String} (digest : IsDigest s) : textFits 128 s = true := by
  have length : s.length = 64 := String.length_toList.symm.trans digest.length
  have noNul : '\x00' ∉ s.toList := fun mem => absurd (digest.digits _ mem) (by decide)
  have encodable : isEncodable s = true :=
    isEncodable_of_ascii fun c mem =>
      (isIdChar_bounds (isLowerHex_isIdChar (digest.digits c mem))).2
  simp [textFits, length, noNul, encodable]

omit [Hashing] in
theorem textFits_artifactRef {taskId artifactId : String} (uuid : isUuid taskId = true)
    (artifact : IsIdText artifactId) (short : textFits 128 artifactId = true) :
    textFits 512 (artifactRef taskId artifactId) = true := by
  have taskLength : taskId.toList.length = 36 := by
    simp only [isUuid, Bool.and_eq_true, decide_eq_true_eq] at uuid
    exact uuid.1
  have artifactLength : artifactId.toList.length ≤ 128 := by
    simp only [textFits, Bool.and_eq_true, decide_eq_true_eq] at short
    exact String.length_toList.trans_le short.1.1
  have length : (artifactRef taskId artifactId).length ≤ 512 := by
    have scheme : "artifact://tasks/".toList.length = 17 := rfl
    rw [← String.length_toList, toList_artifactRef, List.length_append, List.length_append,
      List.length_cons]
    omega
  have noNul : '\x00' ∉ (artifactRef taskId artifactId).toList := by
    intro mem
    rcases mem_artifactRef (isIdText_of_isUuid uuid) artifact mem with id | colon | slash
    · cases id
    · cases colon
    · cases slash
  have encodable : isEncodable (artifactRef taskId artifactId) = true := by
    refine isEncodable_of_ascii fun c mem => ?_
    rcases mem_artifactRef (isIdText_of_isUuid uuid) artifact mem with id | rfl | rfl
    · exact (isIdChar_bounds id).2
    · decide
    · decide
  simp [textFits, length, noNul, encodable]

/-- The text whose fingerprint is taken fits a `bytes` object, whose size is at most
`sys.maxsize`. -/
def EntrySource.InMemory (source : EntrySource) : Prop :=
  ∀ text, source.content = .str text → text.utf8ByteSize ≤ 9223372036854775807

omit [Hashing] in
theorem bigIntegerFits_natCast {n : Nat} (small : n ≤ 9223372036854775807) :
    bigIntegerFits n = true := by
  simp only [bigIntegerFits, Bool.and_eq_true, decide_eq_true_eq]
  omega

/-- The row of an entry fits the columns. -/
theorem row_fits [Runtime] (digests : DigestText) {task : LoadTestTask}
    (uuid : isUuid task.id = true) (engineFits : textFits 16 task.engine = true)
    {source : EntrySource} (known : source.texts.Known) (inMemory : source.InMemory)
    (now : Timestamp) :
    (source.row task now).fits = true := by
  have stateFits : textFits 16 (source.row task now).state = true := by
    show textFits 16 source.state = true
    unfold EntrySource.state
    cases source.available with
    | true => decide
    | false => decide
  have refFits : (source.row task now).objectRef.all (textFits 512) = true := by
    unfold EntrySource.row
    cases source.available with
    | true => exact textFits_artifactRef uuid known.idText known.idFits
    | false => rfl
  have checksumFits : textFits 128 (source.row task now).checksumSha256 = true := by
    unfold EntrySource.row
    rcases fingerprint_cases source with absent | ⟨text, content, present⟩
    · rw [absent]
      show textFits 128 "" = true
      decide
    · rw [present]
      exact textFits_of_digest (digests.sha256 text)
  have sizeFits : (source.row task now).sizeBytes.all bigIntegerFits = true := by
    unfold EntrySource.row
    rcases fingerprint_cases source with absent | ⟨text, content, present⟩
    · rw [absent]
      rfl
    · rw [present]
      simp only [Option.all_some]
      exact bigIntegerFits_natCast (inMemory text content)
  unfold TaskArtifact.fits
  rw [stateFits, sizeFits, refFits, checksumFits]
  show (textFits 128 source.texts.artifactId && textFits 32 source.texts.kind &&
    textFits 256 source.texts.name && true && true && textFits 128 source.texts.contentType &&
    true && textFits 64 "worker_output" && true && textFits 16 task.engine &&
    textFits 64 "worker_output" &&
    metadataFits (.obj [("artifact_manifest_version", .str "1.0")]) && true) = true
  rw [known.idFits, known.kindFits, known.nameFits, known.typeFits, engineFits]
  decide

end Entry

/-! ### The whole manifest -/

/-- The entries of the builder. -/
def manifestSources [Runtime] (engine : Json) (result : Dict Json) : List EntrySource :=
  let rawReport := ((result.get? "raw_report").getD .null).dictOrEmpty
  let artifactEvidence := ((result.get? "artifact_evidence").getD .null).dictOrEmpty
  let stdout := (rawReport.get? "stdout").getD .null
  let stderr := (rawReport.get? "stderr").getD .null
  let hasRawOutput := !rawReport.rows.isEmpty
  let hasEvidence (key : String) : Bool := ((artifactEvidence.get? key).getD .null).truthy
  let engineOutput (artifactId : String) : EntrySource :=
    ⟨⟨artifactId, "engine_output", "raw-report.json", "application/json"⟩, hasRawOutput,
      if hasRawOutput then .str (stableJson (dictJson rawReport)) else .null⟩
  if engine.eqStr "k6" then
    [⟨⟨"k6-summary-json", "summary_json", "summary.json", "application/json"⟩,
        hasEvidence "has_summary_json", .null⟩,
      ⟨⟨"k6-stdout", "stdout", "stdout.txt", "text/plain"⟩, isGiven stdout, stdout⟩,
      ⟨⟨"k6-stderr", "stderr", "stderr.txt", "text/plain"⟩, isGiven stderr, stderr⟩,
      engineOutput "k6-engine-output"]
  else if engine.eqStr "jmeter" then
    [⟨⟨"jmeter-jtl", "jtl", "results.jtl", "text/csv"⟩, hasEvidence "has_jtl", .null⟩,
      ⟨⟨"jmeter-html-report", "html_report", "report.html", "text/html"⟩,
        hasEvidence "has_html_report", .null⟩,
      ⟨⟨"jmeter-stdout", "stdout", "stdout.txt", "text/plain"⟩, isGiven stdout, stdout⟩,
      ⟨⟨"jmeter-stderr", "stderr", "stderr.txt", "text/plain"⟩, isGiven stderr, stderr⟩,
      engineOutput "jmeter-engine-output"]
  else [engineOutput "engine-output"]

/-- The texts of the entries of an engine. -/
def manifestTexts (engine : Json) : List EntryTexts :=
  if engine.eqStr "k6" then
    [⟨"k6-summary-json", "summary_json", "summary.json", "application/json"⟩,
      ⟨"k6-stdout", "stdout", "stdout.txt", "text/plain"⟩,
      ⟨"k6-stderr", "stderr", "stderr.txt", "text/plain"⟩,
      ⟨"k6-engine-output", "engine_output", "raw-report.json", "application/json"⟩]
  else if engine.eqStr "jmeter" then
    [⟨"jmeter-jtl", "jtl", "results.jtl", "text/csv"⟩,
      ⟨"jmeter-html-report", "html_report", "report.html", "text/html"⟩,
      ⟨"jmeter-stdout", "stdout", "stdout.txt", "text/plain"⟩,
      ⟨"jmeter-stderr", "stderr", "stderr.txt", "text/plain"⟩,
      ⟨"jmeter-engine-output", "engine_output", "raw-report.json", "application/json"⟩]
  else [⟨"engine-output", "engine_output", "raw-report.json", "application/json"⟩]

theorem manifestTexts_known (engine : Json) :
    ∀ texts ∈ manifestTexts engine, texts.isKnown = true := by
  unfold manifestTexts
  split
  · decide
  · split
    · decide
    · decide

theorem manifestTexts_nodup (engine : Json) :
    ((manifestTexts engine).map EntryTexts.artifactId).Nodup := by
  unfold manifestTexts
  split
  · decide
  · split
    · decide
    · decide

section Manifest

variable [Runtime] [Hashing]

omit [Hashing] in
theorem manifestSources_texts (engine : Json) (result : Dict Json) :
    (manifestSources engine result).map EntrySource.texts = manifestTexts engine := by
  unfold manifestSources manifestTexts
  split
  · rfl
  · split
    · rfl
    · rfl

/-- The builder writes the entries of its sources. -/
theorem buildEntries_eq (taskId : String) (engine : Json) (result : Dict Json) :
    buildArtifactManifestEntries taskId engine result =
      (manifestSources engine result).map (·.entry taskId) := by
  unfold buildArtifactManifestEntries manifestSources
  split
  · rfl
  · split
    · rfl
    · rfl

/-- The row holds what the entry says; an absent checksum is stored as empty. -/
structure Agrees (entry : Json) (row : TaskArtifact) : Prop where
  artifactId : entryField entry "artifact_id" = .ok (.str row.artifactId)
  kind : entryField entry "kind" = .ok (.str row.kind)
  name : entryField entry "name" = .ok (.str row.name)
  state : entryField entry "state" = .ok (.str row.state)
  sizeBytes : entryField entry "size_bytes" = .ok (row.sizeBytes.elim .null .int)
  contentType : entryField entry "content_type" = .ok (row.contentType.elim .null .str)
  objectRef : entryField entry "object_ref" = .ok (row.objectRef.elim .null .str)
  checksum : entryField entry "checksum_sha256" =
    .ok (if row.checksumSha256 = "" then .null else .str row.checksumSha256)

omit [Runtime] in
theorem agrees_row (digests : ∀ text, IsDigest (Hashing.sha256 text)) (source : EntrySource)
    (task : LoadTestTask) (now createdAt : Timestamp) :
    Agrees (source.entry task.id) { source.row task now with createdAt } := by
  have field {key : String} {value : Json} (mem : (key, value) ∈ source.items task.id) :=
    entryField_entry mem
  refine ⟨field (List.mem_of_getElem? (i := 0) rfl), field (List.mem_of_getElem? (i := 1) rfl),
    field (List.mem_of_getElem? (i := 2) rfl), field (List.mem_of_getElem? (i := 3) rfl), ?_,
    field (List.mem_of_getElem? (i := 5) rfl), ?_, ?_⟩
  · have size := field (List.mem_of_getElem? (i := 4) rfl)
    rw [size]
    unfold EntrySource.row
    rcases fingerprint_cases source with absent | ⟨text, content, present⟩
    · rw [absent]
      rfl
    · rw [present]
      rfl
  · have ref := field (List.mem_of_getElem? (i := 6) rfl)
    rw [ref]
    unfold EntrySource.row
    cases source.available with
    | true => rfl
    | false => rfl
  · have checksum := field (List.mem_of_getElem? (i := 8) rfl)
    rw [checksum]
    unfold EntrySource.row
    rcases fingerprint_cases source with absent | ⟨text, content, present⟩
    · rw [absent]
      rfl
    · rw [present]
      have given : Hashing.sha256 text ≠ "" := by
        intro empty
        have length := (digests text).length
        rw [empty] at length
        cases length
      show _ = Except.ok (if Hashing.sha256 text = "" then _ else _)
      rw [if_neg given]

theorem manifest_payload (taskId : String) (engine : Json) (result : Dict Json) :
    normalizeArtifactManifestPayload (buildArtifactManifest taskId engine result) =
      .ok ("1.0", (manifestSources engine result).map (·.entry taskId)) := by
  rw [← buildEntries_eq]
  rfl

omit [Hashing] in
theorem manifestSources_known {engine : Json} {result : Dict Json} {source : EntrySource}
    (mem : source ∈ manifestSources engine result) : source.texts.Known := by
  refine EntryTexts.known_of_isKnown (manifestTexts_known engine source.texts ?_)
  rw [← manifestSources_texts engine result]
  exact List.mem_map_of_mem mem

/-- The rows of a manifest have different keys. -/
theorem manifestRows_nodup (engine : Json) (result : Dict Json) (task : LoadTestTask)
    (now : Timestamp) : (((manifestSources engine result).map (·.row task now)).map
      TaskArtifact.key).Nodup := by
  have ids := manifestTexts_nodup engine
  rw [← manifestSources_texts engine result, List.map_map] at ids
  rw [List.map_map]
  refine List.Nodup.of_map Prod.snd ?_
  rw [List.map_map]
  exact ids

/-- The row is the one of an entry: of the task, under the entry's id. -/
def Names (entries : List Json) (task : LoadTestTask) (row : TaskArtifact) : Prop :=
  row.task = task.id ∧
    ∃ entry ∈ entries, entryField entry "artifact_id" = .ok (.str row.artifactId)

/-- Registering the entries for a task leaves one row for each entry, which holds what
the entry says; all other rows and the other tables stay as they are. -/
structure RegisteredEntries (entries : List Json) (task : LoadTestTask) (store store' : Store) :
    Prop where
  stored : ∀ entry ∈ entries, ∃ row ∈ store'.artifacts, row.task = task.id ∧ Agrees entry row
  named : ∀ row ∈ store'.artifacts, Names entries task row → ∃ entry ∈ entries, Agrees entry row
  others : ∀ row, ¬ Names entries task row → (row ∈ store'.artifacts ↔ row ∈ store.artifacts)
  db : store'.db = store.db

omit [Runtime] [Hashing] in
/-- Upserts write artifacts only. -/
theorem db_upsertAll (rows : List TaskArtifact) (store : Store) :
    (rows.foldl (fun store row => upsertArtifact row store) store).db = store.db := by
  induction rows generalizing store with
  | nil => rfl
  | cons row rows ih => exact ih _

omit [Runtime] in
/-- The rows of the sources are what registering the entries writes. -/
theorem registered_upsertAll (digests : ∀ text, IsDigest (Hashing.sha256 text))
    {sources : List EntrySource} {task : LoadTestTask} {now : Timestamp} (store : Store)
    (nodup : ((sources.map (·.row task now)).map TaskArtifact.key).Nodup) :
    RegisteredEntries (sources.map (·.entry task.id)) task store
      ((sources.map (·.row task now)).foldl (fun store row => upsertArtifact row store)
        store) := by
  have written {source : EntrySource} (mem : source ∈ sources) :=
    find?_upsertAll nodup (List.mem_map_of_mem mem) store
  have agrees (source : EntrySource) (createdAt : Timestamp) :=
    agrees_row digests source task now createdAt
  refine ⟨?_, ?_, ?_, db_upsertAll _ _⟩
  · intro entry mem
    obtain ⟨source, inSources, rfl⟩ := List.mem_map.mp mem
    obtain ⟨createdAt, found⟩ := written inSources
    exact ⟨_, (Table.find?_eq_some_iff.mp found).1, rfl, agrees source createdAt⟩
  · rintro row mem ⟨ofTask, entry, inEntries, id⟩
    obtain ⟨source, inSources, rfl⟩ := List.mem_map.mp inEntries
    obtain ⟨createdAt, found⟩ := written inSources
    have sameId : source.texts.artifactId = row.artifactId :=
      Json.str.inj (Except.ok.inj ((agrees source now).artifactId.symm.trans id))
    have sameKey : (source.row task now).key = row.key := Prod.ext ofTask.symm sameId
    rw [sameKey, Table.find?_eq_some_iff.mpr ⟨mem, rfl⟩] at found
    rw [Option.some.inj found]
    exact ⟨_, inEntries, agrees source createdAt⟩
  · intro row other
    have unwritten : ∀ row' ∈ sources.map (·.row task now), row'.key ≠ row.key := by
      intro row' inRows same
      obtain ⟨source, inSources, rfl⟩ := List.mem_map.mp inRows
      obtain ⟨sameTask, sameId⟩ := Prod.mk.inj same
      refine other ⟨sameTask.symm, _, List.mem_map_of_mem inSources, ?_⟩
      rw [← sameId]
      exact (agrees source now).artifactId
    have kept := find?_upsertAll_of_other unwritten store
    constructor
    · intro mem
      rw [Table.find?_eq_some_iff.mpr ⟨mem, rfl⟩] at kept
      exact (Table.find?_eq_some_iff.mp kept.symm).1
    · intro mem
      rw [Table.find?_eq_some_iff.mpr ⟨mem, rfl⟩] at kept
      exact (Table.find?_eq_some_iff.mp kept).1

/-- Every manifest that a worker builds for a task is registered for the task,
and its entries' rows are what the registration stores. -/
theorem manifest_registered (digests : DigestText) {columns : Columns}
    (taking : TakesFitting columns) {task : LoadTestTask} (uuid : isUuid task.id = true)
    (engineFits : textFits 16 task.engine = true) (engine : Json) (result : Dict Json)
    (inMemory : ∀ source ∈ manifestSources engine result, source.InMemory)
    (now : Timestamp) (store : Store) :
    ∃ store', (registerTaskArtifacts columns task (buildArtifactManifest task.id engine result)
        now).execute store = (.ok (), store') ∧
      RegisteredEntries (buildArtifactManifestEntries task.id engine result) task store store' := by
  have normalized : List.Forall₂ (fun entry row =>
      normalizeTaskArtifactMetadata task "1.0" now entry = .ok row ∧
        columns.artifact row = .ok ())
      ((manifestSources engine result).map (·.entry task.id))
      ((manifestSources engine result).map (·.row task now)) := by
    rw [List.forall₂_map_left_iff, List.forall₂_map_right_iff, List.forall₂_same]
    intro source mem
    have known := manifestSources_known mem
    exact ⟨normalize_entry digests uuid known now,
      taking _ (row_fits digests uuid engineFits known (inMemory source mem) now)⟩
  refine ⟨_, registerTaskArtifacts_ok (manifest_payload task.id engine result) normalized store, ?_⟩
  rw [buildEntries_eq]
  exact registered_upsertAll digests.sha256 store (manifestRows_nodup engine result task now)

end Manifest

/-! ### A manifest with a report -/

/-- Columns that refuse exactly the rows that do not fit. -/
def fittingColumns : Columns where
  result _ := .ok ()
  artifact row := require row.fits (.integrityError "value too long for type character varying")

/-- The digest of the text of an object with `exit_code` 0 alone. -/
@[reducible] def exitCodeHashing : Hashing where
  sha256 _ := "e81bc160c0843ee56f31f12997bb3aff50528d596002d4866676cb8a1b19195a"

theorem toLower_of_isLowerHex {c : Char} (hex : isLowerHex c = true) : c.toLower = c := by
  have notUpper : ¬ (c.val ≥ 'A'.val ∧ c.val ≤ 'Z'.val) := by
    simp only [isLowerHex, Char.isDigit, Bool.or_eq_true, Bool.and_eq_true, decide_eq_true_eq,
      ge_iff_le, UInt32.le_iff_toNat_le, Char.le_def] at hex ⊢
    have : '9'.val.toNat = 57 := rfl
    have : 'a'.val.toNat = 97 := rfl
    have : 'A'.val.toNat = 65 := rfl
    have : 'Z'.val.toNat = 90 := rfl
    omega
  exact dif_neg notUpper

theorem exitCode_digests : @DigestText asciiRuntime exitCodeHashing := by
  let _ := asciiRuntime
  let _ := exitCodeHashing
  have fixed : IsDigest "e81bc160c0843ee56f31f12997bb3aff50528d596002d4866676cb8a1b19195a" :=
    ⟨by decide, List.all_eq_true.mp (by decide)⟩
  refine ⟨fun _ => fixed, ?_⟩
  intro s digest
  have same : s.toList.map Char.toLower = s.toList := by
    refine (List.map_congr_left ?_).trans (List.map_id _)
    intro c mem
    exact toLower_of_isLowerHex (digest.digits c mem)
  refine String.toList_inj.mp ?_
  show (s.map Char.toLower).toList = s.toList
  rw [String.toList_map, same]

def uuidTask : LoadTestTask where
  id := "8f14e45f-ceea-467f-a9d0-9c1f2f0c6d3b"
  name := "smoke"
  engine := "k6"
  scriptPath := "engines/k6/smoke.js"
  parameters := .obj []
  targetUrl := "http://echo-api:8000"
  scheduledAt := none
  startedAt := some 0
  finishedAt := none
  status := .running
  worker := none
  errorMessage := ""
  createdBy := ""
  createdAt := 0
  updatedAt := 0

/-- The row of another artifact of the task. -/
def olderRow : TaskArtifact where
  task := uuidTask.id
  artifactId := "k6-trace"
  kind := "engine_output"
  name := "trace.json"
  state := "planned"
  sizeBytes := none
  contentType := none
  objectRef := none
  storageBackend := ""
  checksumSha256 := ""
  provenanceEngine := "k6"
  provenanceSource := "worker_output"
  metadata := .obj []
  expiresAt := .null
  createdAt := 1
  updatedAt := 1

/-- The manifest of a k6 run with a raw report and no output. -/
theorem exitCodeReport_registered :
    let result := Dict.ofItems [("raw_report", Json.obj [("exit_code", .int 0)])]
    let store : Store := ⟨⟨Table.empty, Table.empty, Table.empty⟩, ⟨[olderRow], by decide⟩⟩
    ∃ store', (@registerTaskArtifacts asciiRuntime fittingColumns uuidTask
        (@buildArtifactManifest asciiRuntime exitCodeHashing uuidTask.id (.str "k6") result)
        5).execute store = (.ok (), store') ∧
      RegisteredEntries (@buildArtifactManifestEntries asciiRuntime exitCodeHashing uuidTask.id
        (.str "k6") result) uuidTask store store' := by
  let _ := asciiRuntime
  let _ := exitCodeHashing
  intro result store
  have taking : TakesFitting fittingColumns := by
    intro row fits
    show require row.fits _ = _
    rw [fits]
    rfl
  have short : (manifestSources (.str "k6") result).all (fun source =>
      match source.content with
      | .str text => decide (text.utf8ByteSize ≤ 9223372036854775807)
      | _ => true) = true := by
    decide +kernel
  have inMemory : ∀ source ∈ manifestSources (.str "k6") result, source.InMemory := by
    intro source mem text content
    have size := List.all_eq_true.mp short source mem
    rw [content] at size
    exact of_decide_eq_true size
  exact manifest_registered exitCode_digests taking (by decide) (by decide) (.str "k6") result
    inMemory 5 store

end PLoadtesting.System
