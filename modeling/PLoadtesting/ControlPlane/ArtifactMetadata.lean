import PLoadtesting.ControlPlane.ManifestRejection

/-!
The metadata of an artifact: which objects `sanitize_artifact_metadata` accepts,
and what becomes of the manifest version that the registry writes beside them.

The sanitizer looks at keys only, at any depth, and gives its input back
(`sanitize_accepts_iff`). It does not keep the name `artifact_manifest_version`
to the registry, and the registry sets the version first and the entry's items
after it, so the stored version is the entry's where the entry gives one
(`recordsVersion_iff`).
-/

namespace PLoadtesting.ControlPlane

open Keyed Python Transaction Checks

/-! ### Keys at any depth -/

/-- `key` names a member of the value, or of a value inside it. -/
inductive HasKey (key : String) : Json → Prop where
  | member {items : List (String × Json)} {value : Json} (mem : (key, value) ∈ items) :
      HasKey key (.obj items)
  | inMember {items : List (String × Json)} {name : String} {value : Json}
      (mem : (name, value) ∈ items) (inside : HasKey key value) : HasKey key (.obj items)
  | inElement {xs : List Json} {x : Json} (mem : x ∈ xs) (inside : HasKey key x) :
      HasKey key (.arr xs)

theorem hasKey_obj_iff {key : String} {items : List (String × Json)} :
    HasKey key (.obj items) ↔ ∃ item ∈ items, key = item.1 ∨ HasKey key item.2 := by
  constructor
  · intro has
    cases has with
    | member mem => exact ⟨_, mem, .inl rfl⟩
    | inMember mem inside => exact ⟨_, mem, .inr inside⟩
  · rintro ⟨⟨name, value⟩, mem, rfl | inside⟩
    · exact .member mem
    · exact .inMember mem inside

theorem hasKey_arr_iff {key : String} {xs : List Json} :
    HasKey key (.arr xs) ↔ ∃ x ∈ xs, HasKey key x := by
  constructor
  · intro has
    cases has with
    | inElement mem inside => exact ⟨_, mem, inside⟩
  · rintro ⟨x, mem, inside⟩
    exact .inElement mem inside

/-- A value without parts. -/
theorem mem_keysUnder_leaf {key name : String} {value : Json}
    (keys : keysUnder key value = [key]) (leaf : ¬ HasKey name value) :
    name ∈ keysUnder key value ↔ name = key ∨ HasKey name value := by
  rw [keys, List.mem_singleton, or_iff_left leaf]

mutual

/-- The sanitizer checks the key that leads to a value and every key inside. -/
theorem mem_keysUnder {key name : String} : ∀ value : Json,
    name ∈ keysUnder key value ↔ name = key ∨ HasKey name value
  | .obj items => by
      rw [keysUnder, List.mem_cons, mem_itemKeys items, hasKey_obj_iff]
  | .arr xs => by
      rw [keysUnder, List.mem_cons, mem_elementKeys xs, hasKey_arr_iff]
      constructor
      · rintro (here | ⟨x, mem, here | inside⟩)
        · exact .inl here
        · exact .inl here
        · exact .inr ⟨x, mem, inside⟩
      · rintro (here | ⟨x, mem, inside⟩)
        · exact .inl here
        · exact .inr ⟨x, mem, .inr inside⟩
  | .null => mem_keysUnder_leaf rfl (by rintro ⟨⟩)
  | .bool _ => mem_keysUnder_leaf rfl (by rintro ⟨⟩)
  | .int _ => mem_keysUnder_leaf rfl (by rintro ⟨⟩)
  | .float _ => mem_keysUnder_leaf rfl (by rintro ⟨⟩)
  | .str _ => mem_keysUnder_leaf rfl (by rintro ⟨⟩)

theorem mem_itemKeys {name : String} : ∀ items : List (String × Json),
    name ∈ itemKeys items ↔ ∃ item ∈ items, name = item.1 ∨ HasKey name item.2
  | [] => by simp [itemKeys]
  | (key, value) :: items => by
      rw [itemKeys, List.mem_append, mem_keysUnder value, mem_itemKeys items,
        List.exists_mem_cons_iff]

theorem mem_elementKeys {key name : String} : ∀ xs : List Json,
    name ∈ elementKeys key xs ↔ ∃ x ∈ xs, name = key ∨ HasKey name x
  | [] => by simp [elementKeys]
  | x :: xs => by
      rw [elementKeys, List.mem_append, mem_keysUnder x, mem_elementKeys xs,
        List.exists_mem_cons_iff]

end

section Sanitizing

variable [Runtime]

/-- A token of the deny list occurs in the key, in small letters. -/
def IsSensitive (key : String) : Prop :=
  ∃ token ∈ sensitiveMetadataTokens, token.toList <:+: (Runtime.lower key).toList

theorem isSafeKey_iff {key : String} : IsSafeKey key ↔ ¬ IsSensitive key := by
  simp [IsSafeKey, IsSensitive, occursIn]

/-- An object is accepted if no key at any depth is sensitive, and then it is
returned as it is. -/
theorem sanitize_accepts_iff (metadata : Dict Json) :
    ((∃ sanitized, sanitizeArtifactMetadata (dictJson metadata) = .ok sanitized) ↔
      ¬ ∃ key, HasKey key (dictJson metadata) ∧ IsSensitive key) ∧
    ∀ sanitized, sanitizeArtifactMetadata (dictJson metadata) = .ok sanitized →
      sanitized = metadata := by
  have given := gives_sanitizeArtifactMetadata (dictJson metadata)
  have safe_iff : IsMetadata (dictJson metadata) ↔
      ¬ ∃ key, HasKey key (dictJson metadata) ∧ IsSensitive key := by
    have given : isBlank (dictJson metadata) = false := rfl
    have inside (key : String) :
        key ∈ itemKeys metadata.rows ↔ HasKey key (dictJson metadata) :=
      (mem_itemKeys metadata.rows).trans hasKey_obj_iff.symm
    simp only [IsMetadata, given, asDict?_dictJson, Option.some.injEq, exists_eq_left',
      isSafeKey_iff, Bool.false_eq_true, false_or, not_exists, not_and, inside]
  refine ⟨given.makes.ok_iff.trans ?_, ?_⟩
  · rw [← safe_iff]
    simp [AllPass, Check.of]
  · intro sanitized accepted
    exact (given.eq_ok_iff.mp accepted).2.trans (dictOrEmpty_dictJson metadata)

end Sanitizing

/-! ### The recorded version -/

/-- The version that a payload declares: an envelope's, if it is a text that is
not empty. A list declares none. -/
def declaredVersion (manifest : Json) : Option String :=
  optionalTextOf (objectField manifest "artifact_manifest_version")

/-- `metadata.get("artifact_manifest_version")`. -/
def versionIn (metadata : Json) : Option Json :=
  metadata.dictOrEmpty.get? "artifact_manifest_version"

/-- The identifier of an entry, trimmed. -/
def trimmedId (entry : Json) : String := strippedText (objectField entry "artifact_id")

/-- An accepted version is the declared one, or the name for none. -/
theorem validateVersion_ok {value : Json} {version : String}
    (valid : validateArtifactManifestVersion value = .ok version) :
    optionalTextOf value =
      if version ≠ legacyArtifactManifestVersion then some version else none := by
  unfold validateArtifactManifestVersion at valid
  split at valid
  · rename_i blank
    cases valid
    rcases isBlank_iff.mp blank with rfl | rfl
    · rfl
    · rfl
  · rename_i given
    cases value with
    | str s =>
        dsimp only at valid
        split at valid
        · rename_i current
          cases valid
          subst current
          rfl
        · cases valid
    | _ => cases valid

/-- The version that the entries of a payload are registered under. -/
theorem declaredVersion_of_payload {manifest : Json} {version : String} {items : List Json}
    (payload : normalizeArtifactManifestPayload manifest = .ok (version, items)) :
    declaredVersion manifest =
      if version ≠ legacyArtifactManifestVersion then some version else none := by
  unfold normalizeArtifactManifestPayload at payload
  unfold declaredVersion
  split at payload
  · rename_i blank
    cases payload
    rcases isBlank_iff.mp blank with rfl | rfl
    · rfl
    · rfl
  · split at payload
    · cases payload
      rfl
    · split at payload
      · cases payload
      · rename_i envelope object
        rw [objectField_of_asDict? object]
        have checked {items' : List Json} (read : (do
            let version ← validateArtifactManifestVersion
              (field envelope "artifact_manifest_version")
            return (version, items')) = Except.ok (version, items)) :
            optionalTextOf (field envelope "artifact_manifest_version") =
              if version ≠ legacyArtifactManifestVersion then some version else none := by
          obtain ⟨_, valid, returned⟩ := bind_ok_iff.mp read
          cases returned
          exact validateVersion_ok valid
        dsimp only at payload
        split at payload
        · exact checked payload
        · split at payload
          · exact checked payload
          · cases payload

/-- The last entry with an identifier decides its row. -/
def IsLastEntry (items : List Json) (entry : Json) : Prop :=
  ∃ before after, items = before ++ entry :: after ∧
    ∀ later ∈ after, trimmedId later ≠ trimmedId entry

theorem exists_isLastEntry {items : List Json} {entry : Json} (mem : entry ∈ items) :
    ∃ last, IsLastEntry items last ∧ trimmedId last = trimmedId entry := by
  cases found : items.reverse.find? fun other => decide (trimmedId other = trimmedId entry) with
  | none =>
      have other := List.find?_eq_none.mp found entry (List.mem_reverse.mpr mem)
      exact absurd (decide_eq_true rfl) other
  | some last =>
      obtain ⟨same, before, after, split, others⟩ := Table.find?_reverse_eq_some_iff.mp found
      exact ⟨last, ⟨before, after, split, same ▸ others⟩, same⟩

/-- An upsert that no later one replaces is stored. -/
theorem find?_upsertAll_last {before after : List TaskArtifact} {row : TaskArtifact}
    (last : ∀ later ∈ after, later.key ≠ row.key) (store : Store) :
    ∃ createdAt, ((before ++ row :: after).foldl (fun store row => upsertArtifact row store)
      store).artifacts.find? row.key = some { row with createdAt } := by
  rw [List.foldl_append, List.foldl_cons, find?_upsertAll_of_other last, find?_upsertArtifact,
    if_pos rfl]
  exact ⟨_, rfl⟩

/-- The row of an entry holds the entry's version, or else the one that the
payload is registered under. -/
theorem versionIn_entryRow [Runtime] {task : LoadTestTask} {version : String} {now : Timestamp}
    {entry : Json} : versionIn (entryRow task version now entry).metadata =
      (versionIn (objectField entry "metadata")).or
        (if version ≠ legacyArtifactManifestVersion then some (.str version) else none) := by
  unfold versionIn entryRow
  simp only [dictOrEmpty_dictJson]
  split
  · rw [Dict.get?_update_ofItems, Dict.ofItems_rows]
    rfl
  · rw [Option.or_none]

/-- Every artifact of the manifest has a row with the version that the payload
declares, and with none if it declares none. -/
def RecordsVersion (task : LoadTestTask) (manifest : Json) (items : List Json) (store : Store) :
    Prop :=
  ∀ entry ∈ items, ∃ row, store.artifacts.find? (task.id, trimmedId entry) = some row ∧
    versionIn row.metadata = (declaredVersion manifest).map .str

/-- After a registration the row of an artifact is the one of its last entry. -/
theorem find?_lastEntry [Runtime] {task : LoadTestTask} {version : String} {now : Timestamp}
    {items : List Json} {store store' : Store}
    (stored : store' = (items.map (entryRow task version now)).foldl
      (fun store row => upsertArtifact row store) store)
    {entry : Json} (last : IsLastEntry items entry) :
    ∃ createdAt, store'.artifacts.find? (task.id, trimmedId entry) =
      some { entryRow task version now entry with createdAt } := by
  obtain ⟨before, after, rfl, others⟩ := last
  rw [stored, List.map_append, List.map_cons]
  refine find?_upsertAll_last ?_ store
  intro later mem same
  obtain ⟨entry', inAfter, rfl⟩ := List.mem_map.mp mem
  exact others entry' inAfter (congrArg Prod.snd same)

/-- A row holds the declared version if its entry names no other. -/
theorem versionIn_entryRow_iff [Runtime] {task : LoadTestTask} {manifest : Json}
    {version : String} {now : Timestamp}
    (declared : declaredVersion manifest =
      if version ≠ legacyArtifactManifestVersion then some version else none) (entry : Json) :
    versionIn (entryRow task version now entry).metadata = (declaredVersion manifest).map .str ↔
      versionIn (objectField entry "metadata") = none ∨
        versionIn (objectField entry "metadata") = (declaredVersion manifest).map .str := by
  rw [versionIn_entryRow, declared]
  cases versionIn (objectField entry "metadata") with
  | none => simp [apply_ite]
  | some own => simp

/-- After a registration every row holds the version that its payload was
registered under if and only if the last entry of each artifact names no version
in its metadata, or exactly that one. -/
theorem recordsVersion_iff [Runtime] {columns : Columns} {task : LoadTestTask} {manifest : Json}
    {version : String} {items : List Json} {now : Timestamp} {store store' : Store}
    (payload : normalizeArtifactManifestPayload manifest = .ok (version, items))
    (registered : (registerTaskArtifacts columns task manifest now).execute store =
      (.ok (), store')) :
    RecordsVersion task manifest items store' ↔
      ∀ entry, IsLastEntry items entry →
        versionIn (objectField entry "metadata") = none ∨
          versionIn (objectField entry "metadata") = (declaredVersion manifest).map .str := by
  obtain ⟨_, _, payload', stored⟩ := registersAll_of_ok registered
  obtain ⟨rfl, rfl⟩ := Prod.mk.inj (Except.ok.inj (payload.symm.trans payload'))
  have right_iff := @versionIn_entryRow_iff _ task manifest version now
    (declaredVersion_of_payload payload)
  constructor
  · intro records entry last
    obtain ⟨createdAt, found⟩ := find?_lastEntry stored last
    obtain ⟨before, after, split, _⟩ := last
    obtain ⟨row, found', right⟩ := records entry (by rw [split]; simp)
    cases found.symm.trans found'
    exact (right_iff entry).mp right
  · intro honest entry mem
    obtain ⟨last, isLast, same⟩ := exists_isLastEntry mem
    obtain ⟨createdAt, found⟩ := find?_lastEntry stored isLast
    rw [← same]
    exact ⟨_, found, (right_iff last).mpr (honest last isLast)⟩

/-- An entry with the given metadata. -/
def stdoutEntry (metadata : List (String × Json)) : Json :=
  .obj [("artifact_id", .str "k6-stdout"), ("kind", .str "stdout"), ("name", .str "stdout.txt"),
    ("state", .str "available"), ("provenance_source", .str "worker_output"),
    ("metadata", .obj metadata)]

/-- An envelope of version 1.0 with one entry. -/
def stdoutManifest (metadata : List (String × Json)) : Json :=
  .obj [("artifact_manifest_version", .str "1.0"), ("items", .arr [stdoutEntry metadata])]

/-- What the registration of the entry leaves. -/
def stdoutStore (metadata : List (String × Json)) : Store :=
  upsertArtifact (@entryRow asciiRuntime runningTask "1.0" 1 (stdoutEntry metadata)) runningStore

/-- An entry without metadata is stored under the version of its envelope. -/
theorem plainEntry_recorded :
    RecordsVersion runningTask (stdoutManifest []) [stdoutEntry []] (stdoutStore []) := by
  let _ := asciiRuntime
  have registered : (registerTaskArtifacts openColumns runningTask (stdoutManifest []) 1).execute
      runningStore = (.ok (), stdoutStore []) := rfl
  refine (recordsVersion_iff rfl registered).mpr ?_
  rintro entry ⟨before, after, split, _⟩
  have mem : entry ∈ [stdoutEntry []] := by rw [split]; simp
  rw [List.mem_singleton.mp mem]
  exact .inl rfl

theorem versionKey_safe : @IsSafeKey asciiRuntime "artifact_manifest_version" := by
  unfold IsSafeKey
  decide +kernel

/-- An entry that names version 9.9 in its metadata is stored under that one. -/
theorem forgedVersion_recorded :
    let forged := [("artifact_manifest_version", Json.str "9.9")]
    normalizeArtifactManifestPayload (stdoutManifest forged) = .ok ("1.0", [stdoutEntry forged]) ∧
    (@registerTaskArtifacts asciiRuntime openColumns runningTask (stdoutManifest forged)
      1).execute runningStore = (.ok (), stdoutStore forged) ∧
    ¬ RecordsVersion runningTask (stdoutManifest forged) [stdoutEntry forged]
      (stdoutStore forged) := by
  let _ := asciiRuntime
  intro forged
  have valid : ValidEntry runningTask.id (stdoutEntry forged) := by
    refine ⟨by decide, .inr ⟨Dict.ofItems forged, rfl, ?_⟩, by decide, by decide, by decide,
      .inl rfl, .inl rfl, ⟨.inl rfl, by rintro _ ⟨⟩⟩, .inl rfl, .inl rfl, .inl rfl, by decide⟩
    intro key mem
    have named : key ∈ ["artifact_manifest_version"] := mem
    rw [List.mem_singleton.mp named]
    exact versionKey_safe
  have normalized : normalizeTaskArtifactMetadata runningTask "1.0" 1 (stdoutEntry forged) =
      .ok (entryRow runningTask "1.0" 1 (stdoutEntry forged)) :=
    (gives_normalize runningTask "1.0" 1 rfl).returns valid
  refine ⟨rfl, registerTaskArtifacts_ok rfl (.cons ⟨normalized, rfl⟩ .nil) runningStore, ?_⟩
  intro records
  obtain ⟨row, found, right⟩ := records _ List.mem_cons_self
  cases found
  exact absurd (Json.str.inj (Option.some.inj right)) (by decide)

end PLoadtesting.ControlPlane
