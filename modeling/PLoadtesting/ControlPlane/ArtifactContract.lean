import PLoadtesting.Lib.Url

/-!
The Control Plane's copy of the artifact contract
(`apps/tasks/artifact_contract.py`): the manifest version, the kinds and the
states of an artifact, and the checks of one entry's fields.

A refusal is a `ValueError`, which the result view reports as a client error. An
entry that is no object raises an `AttributeError` instead.
-/

namespace PLoadtesting.ControlPlane

open Keyed Python

def artifactManifestVersion : String := "1.0"

def legacyArtifactManifestVersion : String := "unspecified"

def allowedArtifactKinds : List String :=
  ["summary_json", "html_report", "jtl", "raw_log", "stdout", "stderr", "engine_output", "unknown"]

def allowedArtifactStates : List String :=
  ["planned", "available", "missing", "expired", "external"]

def allowedObjectRefSchemes : List String := ["artifact", "object", "external"]

def sensitiveMetadataTokens : List String :=
  ["secret", "token", "credential", "cookie", "session", "authorization", "api_key", "apikey"]

/-- `value in (None, "")`. -/
def isBlank : Json → Bool
  | .null => true
  | .str s => s = ""
  | _ => false

/-- `part in text`. -/
def occursIn (part text : String) : Bool := decide (part.toList <:+: text.toList)

/-- `text.startswith(part)`. -/
def startsWith (part text : String) : Bool := part.toList.isPrefixOf text.toList

/-! ### Strings and numbers -/

/-- `_required_string`. -/
def requiredString (value : Json) (fieldName : String) : Except Exc String :=
  let refusal : Exc := .valueError (fieldName ++ " must be a non-empty string.")
  match value with
  | .str s => if strip s = "" then .error refusal else .ok (strip s)
  | _ => .error refusal

/-- A stripped text passes as it is. -/
theorem requiredString_of_stripped {text : String} (stripped : strip text = text)
    (given : text ≠ "") (fieldName : String) :
    requiredString (.str text) fieldName = .ok text := by
  unfold requiredString
  simp only [stripped, if_neg given]

/-- `_optional_string`. -/
def optionalString (value : Json) : Except Exc (Option String) :=
  if isBlank value then .ok none
  else
    match value with
    | .str s => .ok (some s)
    | _ => .error (.valueError "Optional string fields must be strings when provided.")

/-- `_optional_int`. -/
def optionalInt (value : Json) : Except Exc (Option Int) :=
  if isBlank value then .ok none
  else
    match value with
    | .int i =>
        if i < 0 then .error (.valueError "size_bytes must be non-negative.") else .ok (some i)
    | _ => .error (.valueError "size_bytes must be an integer when provided.")

theorem optionalString_of_given {text : String} (given : text ≠ "") :
    optionalString (.str text) = .ok (some text) := by
  unfold optionalString
  simp [isBlank, given]

theorem optionalInt_natCast (n : Nat) : optionalInt (.int n) = .ok (some (n : Int)) := by
  unfold optionalInt
  simp [isBlank, Int.not_lt.mpr (Int.natCast_nonneg n)]

/-! ### The fields of the contract -/

/-- `validate_artifact_manifest_version(version, allow_legacy_unspecified=True)`. -/
def validateArtifactManifestVersion (version : Json) : Except Exc String :=
  if isBlank version then .ok legacyArtifactManifestVersion
  else
    match version with
    | .str s =>
        if s = artifactManifestVersion then .ok s
        else .error (.valueError ("Unsupported artifact manifest version: " ++ s))
    | _ => .error (.valueError "artifact_manifest_version must be a string.")

/-- `validate_artifact_kind` and `validate_artifact_state`: one of the names. -/
def validateName (what : String) (names : List String) (name : String) : Except Exc String :=
  if names.contains name then .ok name
  else .error (.valueError ("Unsupported artifact " ++ what ++ ": " ++ name))

theorem validateName_of_contains {what name : String} {names : List String}
    (known : names.contains name = true) : validateName what names name = .ok name :=
  if_pos known

def validateArtifactKind (kind : String) : Except Exc String :=
  validateName "kind" allowedArtifactKinds kind

def validateArtifactState (state : String) : Except Exc String :=
  validateName "state" allowedArtifactStates state

/-- `path.lstrip("/").split("/")`. -/
def pathParts (path : String) : List String :=
  (Url.splitOn '/' (path.toList.dropWhile (· = '/'))).map String.ofList

/-- The last check of an `artifact://` reference: the first two parts of its
path are the task and the artifact. -/
def validateArtifactPath (parts : List String) (taskId artifactId : String) : Except Exc Unit :=
  match parts with
  | task :: artifact :: _ => do
      require (task = taskId)
        (.valueError "artifact:// task id must match the owning task.")
      require (artifact = artifactId)
        (.valueError "artifact:// artifact id must match artifact_id.")
  | _ => .error
      (.valueError "artifact:// references must include task and artifact identifiers.")

/-- `validate_object_ref` of a reference that is given. -/
def validateGivenObjectRef [Runtime] (objectRef taskId artifactId : String) :
    Except Exc (Option String) := do
  require (!occursIn ".." objectRef)
    (.valueError "object_ref must not contain path traversal segments.")
  require (!(startsWith "/" objectRef || startsWith "../" objectRef || startsWith "./" objectRef))
    (.valueError "object_ref must not be a local filesystem path.")
  let parsed ← Url.urlsplit objectRef
  require (allowedObjectRefSchemes.contains parsed.scheme)
    (.valueError "object_ref must use artifact://, object://, or external://.")
  require (parsed.scheme ≠ "file") (.valueError "object_ref must not use file://.")
  if parsed.scheme = "artifact" then
    require (parsed.netloc = "tasks")
      (.valueError "artifact:// references must start with artifact://tasks/...")
    validateArtifactPath (pathParts parsed.path) taskId artifactId
  return some objectRef

/-- `validate_object_ref`. -/
def validateObjectRef [Runtime] (objectRef : Option String) (taskId artifactId : String) :
    Except Exc (Option String) :=
  match objectRef with
  | none => .ok none
  | some objectRef =>
      if objectRef = "" then .ok none else validateGivenObjectRef objectRef taskId artifactId

/-! ### References to a task's own artifacts -/

theorem isLower_iff {c : Char} : c.isLower = true ↔ 'a'.val ≤ c.val ∧ c.val ≤ 'z'.val := by
  show (decide ('a'.val ≤ c.val) && decide (c.val ≤ 'z'.val)) = true ↔ _
  rw [Bool.and_eq_true, decide_eq_true_eq, decide_eq_true_eq]

/-- A small letter, a digit or a hyphen. -/
def isIdChar (c : Char) : Bool := c.isLower || c.isDigit || c = '-'

theorem isIdChar_bounds {c : Char} (id : isIdChar c = true) :
    32 < c.val.toNat ∧ c.val.toNat < 128 := by
  simp only [isIdChar, isLower_iff, Char.isDigit, Bool.or_eq_true, Bool.and_eq_true,
    decide_eq_true_eq, ge_iff_le, UInt32.le_iff_toNat_le] at id
  rcases id with (⟨low, high⟩ | ⟨low, high⟩) | rfl
  · have : 'a'.val.toNat = 97 := rfl
    have : 'z'.val.toNat = 122 := rfl
    omega
  · have : '0'.val.toNat = 48 := rfl
    have : '9'.val.toNat = 57 := rfl
    omega
  · decide

/-- A text of letters, digits and hyphens. -/
def IsIdText (s : String) : Prop := ∀ c ∈ s.toList, isIdChar c = true

theorem IsIdText.notMem {s : String} (id : IsIdText s) {c : Char} (other : isIdChar c = false) :
    c ∉ s.toList := by
  intro mem
  rw [id c mem] at other
  cases other

/-- `f"artifact://tasks/{task_id}/{artifact_id}"`. -/
def artifactRef (taskId artifactId : String) : String :=
  "artifact://tasks/" ++ taskId ++ "/" ++ artifactId

section References

variable {taskId artifactId : String}

theorem toList_artifactRef : (artifactRef taskId artifactId).toList =
    "artifact://tasks/".toList ++ (taskId.toList ++ '/' :: artifactId.toList) := by
  have slash : "/".toList ++ artifactId.toList = '/' :: artifactId.toList := rfl
  unfold artifactRef
  rw [String.toList_append, String.toList_append, String.toList_append, List.append_assoc,
    List.append_assoc, slash]

theorem artifactRef_ne_empty : artifactRef taskId artifactId ≠ "" := by
  intro empty
  have chars := congrArg String.toList empty
  rw [toList_artifactRef] at chars
  cases chars

theorem mem_artifactRef (task : IsIdText taskId) (artifact : IsIdText artifactId) {c : Char}
    (mem : c ∈ (artifactRef taskId artifactId).toList) :
    isIdChar c = true ∨ c = ':' ∨ c = '/' := by
  rw [toList_artifactRef, List.mem_append, List.mem_append, List.mem_cons] at mem
  have schemeChars : "artifact://tasks/".toList.all
      (fun c => isIdChar c || c == ':' || c == '/') = true := by decide
  rcases mem with scheme | inTask | slash | inArtifact
  · simpa [or_assoc] using List.all_eq_true.mp schemeChars c scheme
  · exact .inl (task c inTask)
  · exact .inr (.inr slash)
  · exact .inl (artifact c inArtifact)

theorem urlsplit_artifactRef [Runtime] (task : IsIdText taskId) (artifact : IsIdText artifactId) :
    Url.urlsplit (artifactRef taskId artifactId) =
      .ok ⟨"artifact", "tasks", String.ofList ('/' :: taskId.toList ++ '/' :: artifactId.toList),
        "", ""⟩ := by
  have plain : Url.cleaned (artifactRef taskId artifactId) =
      "artifact://tasks/".toList ++ (taskId.toList ++ '/' :: artifactId.toList) := by
    rw [← toList_artifactRef]
    refine Url.cleaned_of_plain ?_
    intro c mem
    rcases mem_artifactRef task artifact mem with id | rfl | rfl
    · exact (isIdChar_bounds id).1
    · decide
    · decide
  have absent : ∀ c, c ≠ '/' → isIdChar c = false →
      c ∉ '/' :: taskId.toList ++ '/' :: artifactId.toList := by
    intro c notSlash other mem
    simp only [List.cons_append, List.mem_cons, List.mem_append] at mem
    rcases mem with rfl | inTask | rfl | inArtifact
    · exact notSlash rfl
    · exact task.notMem other inTask
    · exact notSlash rfl
    · exact artifact.notMem other inArtifact
  have scheme : Url.splitScheme
      ("artifact://tasks/".toList ++ (taskId.toList ++ '/' :: artifactId.toList)) =
        ("artifact".toList, "//tasks/".toList ++ (taskId.toList ++ '/' :: artifactId.toList)) := rfl
  have netloc : Url.netlocAndRest
      ("//tasks/".toList ++ (taskId.toList ++ '/' :: artifactId.toList)) =
        .ok ("tasks".toList, '/' :: taskId.toList ++ '/' :: artifactId.toList) := rfl
  unfold Url.urlsplit
  simp only [plain, scheme, netloc, Url.partition_of_notMem (absent '#' (by decide) (by decide)),
    Url.partition_of_notMem (absent '?' (by decide) (by decide)), bind, Except.bind]
  rfl

/-- The path names the task and the artifact. -/
theorem pathParts_artifactRef (task : IsIdText taskId) (artifact : IsIdText artifactId)
    (named : taskId ≠ "") :
    pathParts (String.ofList ('/' :: taskId.toList ++ '/' :: artifactId.toList)) =
      [taskId, artifactId] := by
  have noSlash : ('/' :: taskId.toList ++ '/' :: artifactId.toList).dropWhile
      (fun c => decide (c = '/')) = taskId.toList ++ '/' :: artifactId.toList := by
    cases chars : taskId.toList with
    | nil => exact (named (String.toList_eq_nil_iff.mp chars)).elim
    | cons c rest =>
        have other : c ≠ '/' := fun slash =>
          task.notMem (c := '/') (by decide) (by rw [chars, slash]; exact List.mem_cons_self)
        simp [other]
  unfold pathParts
  rw [String.toList_ofList, noSlash, Url.splitOn_append (task.notMem (by decide)),
    Url.splitOn_of_notMem (artifact.notMem (by decide))]
  simp

/-- The reference to an artifact of the task itself is accepted. -/
theorem validateObjectRef_artifactRef [Runtime] (task : IsIdText taskId)
    (artifact : IsIdText artifactId) (named : taskId ≠ "") :
    validateObjectRef (some (artifactRef taskId artifactId)) taskId artifactId =
      .ok (some (artifactRef taskId artifactId)) := by
  have noDot : '.' ∉ (artifactRef taskId artifactId).toList := by
    intro mem
    rcases mem_artifactRef task artifact mem with id | colon | slash
    · cases id
    · cases colon
    · cases slash
  have noDots : occursIn ".." (artifactRef taskId artifactId) = false := by
    refine decide_eq_false ?_
    intro occurs
    exact noDot (occurs.subset List.mem_cons_self)
  have notLocal (part : String) (mem : part ∈ ["/", "../", "./"]) :
      startsWith part (artifactRef taskId artifactId) = false := by
    unfold startsWith
    rw [toList_artifactRef]
    simp only [List.mem_cons, List.not_mem_nil, or_false] at mem
    rcases mem with rfl | rfl | rfl
    · rfl
    · rfl
    · rfl
  unfold validateObjectRef validateGivenObjectRef
  simp only [if_neg artifactRef_ne_empty, noDots, notLocal "/" (by decide),
    notLocal "../" (by decide), notLocal "./" (by decide), urlsplit_artifactRef task artifact,
    pathParts_artifactRef task artifact named, bind, Except.bind, require, validateArtifactPath]
  rfl

end References

/-! ### Checksums -/

/-- `[0-9a-f]`. -/
def isLowerHex (c : Char) : Bool := c.isDigit || ('a' ≤ c && c ≤ 'f')

/-- `^[0-9a-f]{64}$`, whose `$` also stands before a final line break. -/
def isSha256Hex (s : String) : Bool :=
  let cs := s.toList
  let digits := if cs.getLast? = some '\n' then cs.dropLast else cs
  decide (digits.length = 64) && digits.all isLowerHex

/-- `validate_checksum_sha256`. -/
def validateChecksumSha256 [Runtime] (value : Json) : Except Exc String :=
  if isBlank value then .ok ""
  else
    match value with
    | .str s =>
        if isSha256Hex (Runtime.lower s) then .ok (Runtime.lower s)
        else .error (.valueError
          "checksum_sha256 must be a 64-character lowercase hex SHA-256 value.")
    | _ => .error (.valueError "checksum_sha256 must be a string when provided.")

/-- A lower-case hexadecimal digest passes, and is stored as it is. -/
theorem validateChecksumSha256_digest [Runtime] {digest : String}
    (length : digest.toList.length = 64) (digits : ∀ c ∈ digest.toList, isLowerHex c = true)
    (lower : Runtime.lower digest = digest) :
    validateChecksumSha256 (.str digest) = .ok digest := by
  have given : digest ≠ "" := by
    rintro rfl
    cases length
  have noBreak : digest.toList.getLast? ≠ some '\n' := by
    intro last
    exact absurd (digits '\n' (List.mem_of_getLast? last)) (by decide)
  have hex : isSha256Hex digest = true := by
    unfold isSha256Hex
    simp only [if_neg noBreak, length, decide_true, Bool.true_and]
    exact List.all_eq_true.mpr digits
  unfold validateChecksumSha256
  simp [isBlank, given, lower, hex]

/-! ### Metadata -/

/-- The test of the key that opens `_sanitize_metadata_value`. -/
def checkMetadataKey [Runtime] (key : String) : Except Exc Unit :=
  require (!sensitiveMetadataTokens.any fun token => occursIn token (Runtime.lower key))
    (.valueError ("metadata key '" ++ key ++ "' is not allowed."))

mutual

/-- `_sanitize_metadata_value`. Every JSON value is JSON-safe; the items of an
array are checked under the array's key. -/
def sanitizeMetadataValue [Runtime] (key : String) : Json → Except Exc Json
  | .obj items => do
      checkMetadataKey key
      return .obj (← sanitizeMetadataItems items)
  | .arr xs => do
      checkMetadataKey key
      return .arr (← sanitizeMetadataElements key xs)
  | value => do
      checkMetadataKey key
      return value

def sanitizeMetadataItems [Runtime] : List (String × Json) → Except Exc (List (String × Json))
  | [] => .ok []
  | (key, value) :: items => do
      let value ← sanitizeMetadataValue key value
      let items ← sanitizeMetadataItems items
      return (key, value) :: items

def sanitizeMetadataElements [Runtime] (key : String) : List Json → Except Exc (List Json)
  | [] => .ok []
  | x :: xs => do
      let x ← sanitizeMetadataValue key x
      let xs ← sanitizeMetadataElements key xs
      return x :: xs

end

/-- `sanitize_artifact_metadata`. -/
def sanitizeArtifactMetadata [Runtime] (value : Json) : Except Exc (Dict Json) :=
  if isBlank value then .ok Table.empty
  else
    match value.asDict? with
    | none => .error (.valueError "metadata must be a JSON object.")
    | some metadata => (sanitizeMetadataItems metadata.rows).map Dict.ofItems

end PLoadtesting.ControlPlane
