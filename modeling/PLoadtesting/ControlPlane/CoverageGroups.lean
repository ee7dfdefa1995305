import PLoadtesting.ControlPlane.TemplateCoverage

/-!
The key under which the dashboard groups equivalent profiles.

Which profiles are equivalent is what they declare; their group is spelled from
their ids. `_coverage_group` puts the stem of the id, what is left of it without
the name of the application and of an engine, behind the application's key, so
an exact pair shares its group when the two ids have one stem
(`exactPair_sharesGroup_iff`). Ids of the form `<application>-<engine>-<name>`
do (`conventional_sharesGroup`).
-/

namespace PLoadtesting.ControlPlane

open Keyed Python Affixes

/-! ### Stems -/

/-- The name of an application in its profile ids: its id without `-api` and
`-flow` at the end, with hyphens for underscores. -/
def ProfileName (targetAppId name : String) : Prop :=
  ∃ service flow : String, Unsuffixed "-api".toList targetAppId.toList service.toList ∧
    Unsuffixed "-flow".toList service.toList flow.toList ∧ name = replaceChar '_' '-' flow

/-- What is left of a profile id without the name of its application, `k6-` and
`jmeter-` in front, in this order. -/
def ProfileStem (targetAppId targetProfileId stem : String) : Prop :=
  ∃ name unnamed unscripted : String, ProfileName targetAppId name ∧
    Unprefixed (name ++ "-").toList targetProfileId.toList unnamed.toList ∧
    Unprefixed "k6-".toList unnamed.toList unscripted.toList ∧
    Unprefixed "jmeter-".toList unscripted.toList stem.toList

/-- The stems of the two profile ids differ in nothing but hyphens and
underscores. -/
def AlikeStems (targetAppId id id' : String) : Prop :=
  ∃ stem stem', ProfileStem targetAppId id stem ∧ ProfileStem targetAppId id' stem' ∧
    AlikeUpTo '-' '_' stem stem'

/-- Hyphens turned to underscores and back. -/
theorem replaceChar_replaceChar (s : String) :
    replaceChar '_' '-' (replaceChar '-' '_' s) = replaceChar '_' '-' s := by
  unfold replaceChar
  rw [String.toList_ofList, List.map_map]
  congr 1
  refine List.map_congr_left ?_
  intro c _
  by_cases hyphen : c = '-'
  · simp [hyphen]
  · simp [hyphen]

theorem profileName_iff {targetAppId name : String} :
    ProfileName targetAppId name ↔
      name = replaceChar '_' '-' (targetCoverageKey targetAppId) := by
  unfold ProfileName targetCoverageKey
  simp only [← removeSuffix_eq_iff, replaceChar_replaceChar]
  constructor
  · rintro ⟨_, _, rfl, rfl, rfl⟩
    rfl
  · rintro rfl
    exact ⟨_, _, rfl, rfl, rfl⟩

/-- The slug of an id before its hyphens are turned to underscores. -/
def stemOf (targetAppId targetProfileId : String) : String :=
  removePrefix "jmeter-" (removePrefix "k6-"
    (removePrefix (replaceChar '_' '-' (targetCoverageKey targetAppId) ++ "-") targetProfileId))

theorem profileStem_iff {targetAppId targetProfileId stem : String} :
    ProfileStem targetAppId targetProfileId stem ↔ stem = stemOf targetAppId targetProfileId := by
  unfold ProfileStem stemOf
  simp only [← removePrefix_eq_iff, profileName_iff]
  constructor
  · rintro ⟨_, _, _, rfl, rfl, rfl, rfl⟩
    rfl
  · rintro rfl
    exact ⟨_, _, _, rfl, rfl, rfl, rfl⟩

/-- Behind one key, the groups differ where the stems do. -/
theorem coverageGroup_eq_iff {targetAppId id id' : String} :
    coverageGroup targetAppId id = coverageGroup targetAppId id' ↔
      AlikeStems targetAppId id id' := by
  have slug (id : String) : profileCoverageSlug targetAppId id =
      replaceChar '-' '_' (stemOf targetAppId id) := rfl
  have alike : AlikeStems targetAppId id id' ↔
      AlikeUpTo '-' '_' (stemOf targetAppId id) (stemOf targetAppId id') := by
    unfold AlikeStems
    simp only [profileStem_iff]
    constructor
    · rintro ⟨_, _, rfl, rfl, same⟩
      exact same
    · intro same
      exact ⟨_, _, rfl, rfl, same⟩
  rw [alike, ← replaceChar_eq_iff]
  unfold coverageGroup
  rw [slug, slug, String.append_right_inj]

/-! ### The naming convention -/

/-- Ids of the form `<application>-<engine>-<name>` have the stem `<name>`, and
so one group. -/
theorem conventional_sharesGroup {targetAppId app name : String}
    (appName : ProfileName targetAppId app) (unscripted : ¬ "jmeter-".toList <+: name.toList) :
    coverageGroup targetAppId (app ++ "-" ++ ("k6-" ++ name)) =
      coverageGroup targetAppId (app ++ "-" ++ ("jmeter-" ++ name)) := by
  obtain rfl := profileName_iff.mp appName
  have otherEngine : ¬ "k6-".toList <+: ("jmeter-" ++ name).toList := by
    rw [String.toList_append]
    rintro ⟨rest, same⟩
    exact absurd (List.cons.inj same).1 (by decide)
  have k6Stem := calc
    removePrefix "jmeter-" (removePrefix "k6-" ("k6-" ++ name))
    _ = removePrefix "jmeter-" name := by rw [removePrefix_append]
    _ = name := removePrefix_eq_self unscripted
  have jmeterStem := calc
    removePrefix "jmeter-" (removePrefix "k6-" ("jmeter-" ++ name))
    _ = removePrefix "jmeter-" ("jmeter-" ++ name) := by
        rw [removePrefix_eq_self otherEngine]
    _ = name := removePrefix_append _ _
  refine coverageGroup_eq_iff.mpr ⟨name, name, ?_, ?_, List.forall₂_same.mpr fun _ _ => .inl rfl⟩
  · rw [profileStem_iff, stemOf, removePrefix_append, k6Stem]
  · rw [profileStem_iff, stemOf, removePrefix_append, jmeterStem]

/-! ### Pairs in the export -/

/-- The two rows of an application are exact and name each other. -/
structure MutuallyExact (p q : TemplateRow) : Prop where
  sameTarget : p.targetAppId = q.targetAppId
  exact : p.coverageStatus = .exact ∧ q.coverageStatus = .exact
  names : p.equivalentProfileId = some q.targetProfileId
  namesBack : q.equivalentProfileId = some p.targetProfileId

theorem coverageMetadata_group (template : ProfileTemplate) (templates : TemplateIndex) :
    (coverageMetadata template templates).coverageGroup =
      coverageGroup template.targetAppId template.targetProfileId := by
  unfold coverageMetadata
  dsimp only
  split
  · rfl
  · rfl
  · split
    · rfl
    · split
      · rfl
      · split
        · rfl
        · rfl

theorem row_coverageGroup {manifests : ManifestIndex} {templates : TemplateIndex}
    {row : TemplateRow} (mem : row ∈ listTaskTemplates manifests templates) :
    row.coverageGroup = coverageGroup row.targetAppId row.targetProfileId := by
  obtain ⟨item, _, rfl⟩ := mem_listTaskTemplates.mp mem
  exact coverageMetadata_group item.2 templates

/-- In the export of every catalog, an exact pair shares its group if and only if
the stems of its ids are alike. -/
theorem exactPair_sharesGroup_iff {directories : CatalogDirectories} {p q : TemplateRow}
    (pMem : p ∈ (coverageExport directories).profiles)
    (qMem : q ∈ (coverageExport directories).profiles) (pair : MutuallyExact p q) :
    p.coverageGroup = q.coverageGroup ↔
      AlikeStems p.targetAppId p.targetProfileId q.targetProfileId := by
  rw [row_coverageGroup pMem, row_coverageGroup qMem, ← pair.sameTarget]
  exact coverageGroup_eq_iff

/-! ### Catalogs of one file -/

/-- The row of a profile where its file is the only one. -/
def rowOf (file : TemplateFile) (profile : TemplateProfile) : TemplateRow :=
  templateRow (indexedTemplate file.targetAppId profile).2
    ((loadTargetManifests (echoDirectories file)).find?
      (indexedTemplate file.targetAppId profile).2.targetAppId)
    (loadTaskTemplates (echoDirectories file))

/-- Profiles with different ids are all listed. -/
theorem rowOf_mem {file : TemplateFile} {profile : TemplateProfile}
    (nodup : (file.profiles.map fun profile => profile.targetProfileId).Nodup)
    (mem : profile ∈ file.profiles) :
    rowOf file profile ∈ (coverageExport (echoDirectories file)).profiles := by
  have items : (file.profiles.map (indexedTemplate file.targetAppId)).map Prod.fst =
      (file.profiles.map fun profile => profile.targetProfileId).map
        fun id => (file.targetAppId, id) := by
    rw [List.map_map, List.map_map]
    rfl
  have keys : ((file.profiles.map (indexedTemplate file.targetAppId)).map Prod.fst).Nodup := by
    rw [items]
    exact nodup.map fun _ _ same => congrArg Prod.snd same
  have rows := Table.rows_upsertAll_of_fresh (t := Table.empty) _ keys (by simp [Table.empty])
  refine mem_listTaskTemplates.mpr ⟨indexedTemplate file.targetAppId profile, ?_, rfl⟩
  have onlyFile : (echoDirectories file).templateFiles = [file] := rfl
  rw [loadTaskTemplates_eq, onlyFile, Table.mem_def, List.flatMap_singleton, rows]
  exact List.mem_append_right _ (List.mem_map_of_mem mem)

/-- The profiles of `echoFile` that pair up. -/
theorem echoPair_sharesGroup :
    let p := rowOf echoFile (echoProfile "echo-k6-smoke" "k6" (some "echo-jmeter-smoke"))
    let q := rowOf echoFile (echoProfile "echo-jmeter-smoke" "jmeter" (some "echo-k6-smoke"))
    p.coverageGroup = "echo.smoke" ∧ q.coverageGroup = "echo.smoke" ∧
      AlikeStems "echo-api" p.targetProfileId q.targetProfileId := by
  intro p q
  have nodup : (echoFile.profiles.map fun profile => profile.targetProfileId).Nodup := by decide
  have pMem : p ∈ (coverageExport (echoDirectories echoFile)).profiles :=
    rowOf_mem nodup (by simp [echoFile])
  have qMem : q ∈ (coverageExport (echoDirectories echoFile)).profiles :=
    rowOf_mem nodup (by simp [echoFile])
  have pair : MutuallyExact p q :=
    ⟨rfl, ⟨by decide +kernel, by decide +kernel⟩, rfl, rfl⟩
  have pGroup : p.coverageGroup = "echo.smoke" := by decide +kernel
  have qGroup : q.coverageGroup = "echo.smoke" := by decide +kernel
  exact ⟨pGroup, qGroup, (exactPair_sharesGroup_iff pMem qMem pair).mp (pGroup.trans qGroup.symm)⟩

/-- An exact pair whose ids do not spell what it has in common. -/
def unlikeFile : TemplateFile where
  targetAppId := "echo-api"
  profiles := [echoProfile "echo-k6-smoke" "k6" (some "echo-jmeter-baseline"),
    echoProfile "echo-jmeter-baseline" "jmeter" (some "echo-k6-smoke")]

/-- The pair is split over the groups `echo.smoke` and `echo.baseline`. -/
theorem unlikePair_splits :
    ¬ ∀ (directories : CatalogDirectories) (p q : TemplateRow),
      p ∈ (coverageExport directories).profiles → q ∈ (coverageExport directories).profiles →
      MutuallyExact p q → p.coverageGroup = q.coverageGroup := by
  intro shares
  have nodup : (unlikeFile.profiles.map fun profile => profile.targetProfileId).Nodup := by decide
  let p := rowOf unlikeFile (echoProfile "echo-k6-smoke" "k6" (some "echo-jmeter-baseline"))
  let q := rowOf unlikeFile (echoProfile "echo-jmeter-baseline" "jmeter" (some "echo-k6-smoke"))
  have pair : MutuallyExact p q :=
    ⟨rfl, ⟨by decide +kernel, by decide +kernel⟩, rfl, rfl⟩
  have same : p.coverageGroup = q.coverageGroup := shares (echoDirectories unlikeFile) p q
    (rowOf_mem nodup (by simp [unlikeFile])) (rowOf_mem nodup (by simp [unlikeFile])) pair
  revert same
  decide +kernel

end PLoadtesting.ControlPlane
