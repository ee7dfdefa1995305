import PLoadtesting.ControlPlane.TemplateCatalog

/-!
What the coverage export says about a catalog.

A profile is exact when it and a profile of the same application on another
engine name each other (`Reciprocal`). The four checks of `_coverage_metadata`
look at one profile at a time; that they pair the profiles up follows because
the relation they test reads the same from both ends, except at a profile whose
id is empty: naming it is naming no profile, so its partner is a gap.
-/

namespace PLoadtesting.ControlPlane

open Keyed Python

/-! ### Loaded templates -/

/-- The template stands under its own application and profile. -/
def IsKeyed (templates : TemplateIndex) : Prop :=
  ∀ item ∈ templates, item.1 = (item.2.targetAppId, item.2.targetProfileId)

theorem loadTaskTemplates_eq (directories : CatalogDirectories) :
    loadTaskTemplates directories = (directories.templateFiles.flatMap fun file =>
      file.profiles.map (indexedTemplate file.targetAppId)).foldl Table.upsert Table.empty := by
  unfold loadTaskTemplates
  rw [List.foldl_flatMap]
  simp only [List.foldl_map]

theorem loadTaskTemplates_keyed {directories : CatalogDirectories}
    (noOwn : ∀ file ∈ directories.templateFiles, ∀ profile ∈ file.profiles,
      profile.targetAppId = none) : IsKeyed (loadTaskTemplates directories) := by
  intro item mem
  rw [loadTaskTemplates_eq] at mem
  rcases Table.mem_upsertAll mem with loaded | none_
  · obtain ⟨file, fileMem, inFile⟩ := List.mem_flatMap.mp loaded
    obtain ⟨profile, profileMem, rfl⟩ := List.mem_map.mp inFile
    simp [indexedTemplate, noOwn file fileMem profile profileMem]
  · exact absurd none_ Table.not_mem_empty

/-- Every profile of the files is loaded under its key. -/
theorem exists_loaded {directories : CatalogDirectories} {file : TemplateFile}
    (fileMem : file ∈ directories.templateFiles) {profile : TemplateProfile}
    (profileMem : profile ∈ file.profiles) :
    ∃ item ∈ loadTaskTemplates directories,
      item.1 = (file.targetAppId, profile.targetProfileId) := by
  rw [loadTaskTemplates_eq]
  generalize listing : (directories.templateFiles.flatMap fun file =>
    file.profiles.map (indexedTemplate file.targetAppId)) = items
  have listed : indexedTemplate file.targetAppId profile ∈ items :=
    listing ▸ List.mem_flatMap.mpr ⟨file, fileMem, List.mem_map_of_mem profileMem⟩
  have written : (items.reverse.find? fun item =>
      decide (item.1 = (file.targetAppId, profile.targetProfileId))).isSome = true := by
    rw [List.find?_isSome]
    exact ⟨_, List.mem_reverse.mpr listed, decide_eq_true rfl⟩
  obtain ⟨item, last⟩ := Option.isSome_iff_exists.mp written
  refine ⟨item, Table.find?_eq_some_iff.mp ?_⟩
  rw [Table.find?_upsertAll, last]
  rfl

/-! ### Rows -/

section Rows

variable {manifests : ManifestIndex} {templates : TemplateIndex} {template : ProfileTemplate}

theorem coverageMetadata_exact_iff :
    (coverageMetadata template templates).coverageStatus = .exact ↔
      ∃ key equivalent, templates.find? key = some (key, equivalent) ∧
        template.equivalentProfileId = some key.2 ∧ key.2 ≠ "" ∧
        key.1 = template.targetAppId ∧ equivalent.engine ≠ template.engine ∧
        equivalent.equivalentProfileId = some template.targetProfileId := by
  unfold coverageMetadata
  dsimp only
  split
  · rename_i missing
    simp [missing]
  · rename_i empty
    simp only [empty, Option.some.injEq, reduceCtorEq, false_iff, not_exists, not_and]
    rintro key equivalent _ names nonempty
    exact absurd names.symm nonempty
  · rename_i equivalentProfileId nonempty names
    constructor
    · intro isExact
      split at isExact
      · cases isExact
      · rename_i key equivalent found
        split at isExact
        · cases isExact
        · rename_i engines
          split at isExact
          · cases isExact
          · rename_i namesBack
            obtain rfl := (Table.find?_eq_some_iff.mp found).2
            exact ⟨_, equivalent, found, names, fun empty => nonempty empty, rfl, engines,
              not_ne_iff.mp namesBack⟩
    · rintro ⟨⟨app, id⟩, equivalent, found, names', _, rfl, engines, namesBack⟩
      cases names.symm.trans names'
      rw [found]
      simp [engines, namesBack]

/-- Profile `t` names `u` as its equivalent, on another engine of the same
application, and `u` names it back. -/
structure Reciprocal (t u : ProfileTemplate) : Prop where
  names : t.equivalentProfileId = some u.targetProfileId
  named : u.targetProfileId ≠ ""
  sameTarget : u.targetAppId = t.targetAppId
  engines : u.engine ≠ t.engine
  namesBack : u.equivalentProfileId = some t.targetProfileId

theorem Reciprocal.symm {t u : ProfileTemplate} (h : Reciprocal t u)
    (named : t.targetProfileId ≠ "") : Reciprocal u t :=
  ⟨h.namesBack, named, h.sameTarget.symm, h.engines.symm, h.names⟩

theorem exact_iff_reciprocal (keyed : IsKeyed templates) :
    (coverageMetadata template templates).coverageStatus = .exact ↔
      ∃ item ∈ templates, Reciprocal template item.2 := by
  rw [coverageMetadata_exact_iff]
  constructor
  · rintro ⟨key, equivalent, found, names, named, sameTarget, engines, namesBack⟩
    obtain ⟨mem, _⟩ := Table.find?_eq_some_iff.mp found
    obtain rfl : key = (equivalent.targetAppId, equivalent.targetProfileId) := keyed _ mem
    exact ⟨_, mem, names, named, sameTarget, engines, namesBack⟩
  · rintro ⟨⟨key, equivalent⟩, mem, h⟩
    obtain rfl : key = (equivalent.targetAppId, equivalent.targetProfileId) := keyed _ mem
    exact ⟨_, equivalent, Table.find?_key mem, h.names, h.named, h.sameTarget, h.engines,
      h.namesBack⟩

theorem mem_listTaskTemplates {row : TemplateRow} :
    row ∈ listTaskTemplates manifests templates ↔ ∃ item ∈ templates,
      row = templateRow item.2 (manifests.find? item.2.targetAppId) templates := by
  unfold listTaskTemplates
  rw [List.mem_insertionSort, List.mem_map]
  simp only [eq_comm, Table.mem_def]

/-- The application and the profile of a row. -/
def TemplateRow.key (row : TemplateRow) : String × String :=
  (row.targetAppId, row.targetProfileId)

/-- Every loaded template has one row. -/
theorem listTaskTemplates_keys_perm (keyed : IsKeyed templates) :
    ((listTaskTemplates manifests templates).map TemplateRow.key).Perm
      (templates.rows.map Prod.fst) := by
  have sorted := (List.perm_insertionSort rowBefore (templates.rows.map fun item =>
    templateRow item.2 (manifests.find? item.2.targetAppId) templates)).map TemplateRow.key
  rw [List.map_map] at sorted
  refine sorted.trans (List.Perm.of_eq (List.map_congr_left ?_))
  intro item mem
  exact (keyed item mem).symm

theorem listTaskTemplates_keys_nodup (keyed : IsKeyed templates) :
    ((listTaskTemplates manifests templates).map TemplateRow.key).Nodup :=
  (listTaskTemplates_keys_perm keyed).nodup_iff.mpr templates.keysNodup

/-- A row pairs up with another one. -/
def TemplateRow.Reciprocates (p q : TemplateRow) : Prop :=
  Reciprocal p.toProfileTemplate q.toProfileTemplate

theorem row_exact_iff (keyed : IsKeyed templates) {row : TemplateRow}
    (mem : row ∈ listTaskTemplates manifests templates) :
    row.coverageStatus = .exact ↔
      ∃ partner ∈ listTaskTemplates manifests templates, row.Reciprocates partner := by
  obtain ⟨item, itemMem, rfl⟩ := mem_listTaskTemplates.mp mem
  refine (@exact_iff_reciprocal templates item.2 keyed).trans ?_
  constructor
  · rintro ⟨other, otherMem, h⟩
    exact ⟨_, mem_listTaskTemplates.mpr ⟨other, otherMem, rfl⟩, h⟩
  · rintro ⟨partner, partnerMem, h⟩
    obtain ⟨other, otherMem, rfl⟩ := mem_listTaskTemplates.mp partnerMem
    exact ⟨other, otherMem, h⟩

end Rows

/-! ### Pairs -/

/-- `p` and `q` are exact and reciprocate, and neither does so with any other
row. -/
structure ExactPair (rows : List TemplateRow) (p q : TemplateRow) : Prop where
  exact : q.coverageStatus = .exact
  distinct : p ≠ q
  reciprocal : p.Reciprocates q ∧ q.Reciprocates p
  only : ∀ r ∈ rows, p.Reciprocates r ∨ r.Reciprocates p → r = q
  onlyBack : ∀ r ∈ rows, q.Reciprocates r ∨ r.Reciprocates q → r = p

/-- The exact rows of an application on one engine. -/
def exactProfileCount (rows : List TemplateRow) (targetAppId engine : String) : Nat :=
  rows.countP fun row =>
    decide (row.targetAppId = targetAppId ∧ row.coverageStatus = .exact ∧ row.engine = engine)

section Pairs

variable {manifests : ManifestIndex} {templates : TemplateIndex}

theorem row_eq_of_key (keyed : IsKeyed templates) {p q : TemplateRow}
    (pMem : p ∈ listTaskTemplates manifests templates)
    (qMem : q ∈ listTaskTemplates manifests templates) (same : p.key = q.key) : p = q :=
  List.inj_on_of_nodup_map (listTaskTemplates_keys_nodup keyed) pMem qMem same

/-- The row that reciprocates with `p` in either direction is one. -/
theorem partner_unique (keyed : IsKeyed templates) {p q r : TemplateRow}
    (qMem : q ∈ listTaskTemplates manifests templates)
    (rMem : r ∈ listTaskTemplates manifests templates)
    (left : p.Reciprocates q ∨ q.Reciprocates p) (right : p.Reciprocates r ∨ r.Reciprocates p) :
    r = q := by
  have partner (s : TemplateRow) (h : p.Reciprocates s ∨ s.Reciprocates p) :
      p.equivalentProfileId = some s.targetProfileId ∧ s.targetAppId = p.targetAppId := by
    rcases h with names | namedBy
    · exact ⟨names.names, names.sameTarget⟩
    · exact ⟨namedBy.namesBack, namedBy.sameTarget.symm⟩
  obtain ⟨toQ, appQ⟩ := partner q left
  obtain ⟨toR, appR⟩ := partner r right
  refine row_eq_of_key keyed rMem qMem (Prod.ext (appR.trans appQ.symm) ?_)
  exact Option.some.inj (toR.symm.trans toQ)

/-- An exact row whose id is not empty stands in a pair. -/
theorem exists_exactPair (keyed : IsKeyed templates) {p : TemplateRow}
    (mem : p ∈ listTaskTemplates manifests templates) (isExact : p.coverageStatus = .exact)
    (named : p.targetProfileId ≠ "") : ∃ q ∈ listTaskTemplates manifests templates,
      ExactPair (listTaskTemplates manifests templates) p q := by
  obtain ⟨q, qMem, h⟩ := (row_exact_iff keyed mem).mp isExact
  have back : q.Reciprocates p := Reciprocal.symm h named
  refine ⟨q, qMem, (row_exact_iff keyed qMem).mpr ⟨p, mem, back⟩, ?_, ⟨h, back⟩, ?_, ?_⟩
  · rintro rfl
    exact h.engines rfl
  · intro r rMem related
    exact partner_unique keyed qMem rMem (.inl h) related
  · intro r rMem related
    exact partner_unique keyed mem rMem (.inl back) related

/-- An application on two engines has as many exact profiles on one as on the
other, unless one of them has an empty id. -/
theorem exactProfileCount_eq (keyed : IsKeyed templates) {app k6 jmeter : String}
    (engines : ∀ p ∈ listTaskTemplates manifests templates, p.targetAppId = app →
      p.engine = k6 ∨ p.engine = jmeter)
    (named : ∀ p ∈ listTaskTemplates manifests templates, p.targetAppId = app →
      p.coverageStatus = .exact → p.targetProfileId ≠ "") :
    exactProfileCount (listTaskTemplates manifests templates) app k6 =
      exactProfileCount (listTaskTemplates manifests templates) app jmeter := by
  have finds (e e' : String) (engines : ∀ p ∈ listTaskTemplates manifests templates,
      p.targetAppId = app → p.engine = e ∨ p.engine = e') :
      ∀ p ∈ listTaskTemplates manifests templates,
        decide (p.targetAppId = app ∧ p.coverageStatus = .exact ∧ p.engine = e) = true →
        ∃ q ∈ listTaskTemplates manifests templates,
          decide (q.targetAppId = app ∧ q.coverageStatus = .exact ∧ q.engine = e') = true ∧
            p.Reciprocates q := by
    intro p mem isExact
    obtain ⟨inApp, isExact, onEngine⟩ := of_decide_eq_true isExact
    obtain ⟨q, qMem, pair⟩ := exists_exactPair keyed mem isExact (named p mem inApp isExact)
    have qInApp : q.targetAppId = app := pair.reciprocal.1.sameTarget.trans inApp
    have otherEngine : q.engine ≠ e := fun same =>
      pair.reciprocal.1.engines (same.trans onEngine.symm)
    exact ⟨q, qMem, decide_eq_true ⟨qInApp, pair.exact,
      (engines q qMem qInApp).resolve_left otherEngine⟩, pair.reciprocal.1⟩
  refine Grouping.countP_eq_of_partners
    (List.Nodup.of_map TemplateRow.key (listTaskTemplates_keys_nodup keyed))
    (finds k6 jmeter engines) (finds jmeter k6 fun p mem inApp => (engines p mem inApp).symm) ?_
  intro p pMem p' pMem' q names names'
  exact partner_unique keyed pMem' pMem (.inr names') (.inr names)

end Pairs

/-! ### Totals -/

/-- The counts of the targets sum to the counts of the summary. -/
structure TargetsSum (report : CoverageExport) : Prop where
  profiles : (report.targets.map TargetCoverage.profileCount).sum = report.summary.profileCount
  k6 : (report.targets.map TargetCoverage.k6ProfileCount).sum = report.summary.k6ProfileCount
  jmeter : (report.targets.map TargetCoverage.jmeterProfileCount).sum =
    report.summary.jmeterProfileCount
  exact : (report.targets.map TargetCoverage.exactCoverageProfileCount).sum =
    report.summary.exactCoverageProfileCount
  gaps : (report.targets.map TargetCoverage.gapProfileCount).sum = report.summary.gapProfileCount

section Totals

variable {manifests : ManifestIndex} {templates : TemplateIndex}

/-- A row is exact or a gap. -/
theorem exact_add_gap (rows : List TemplateRow) :
    rows.countP (TemplateRow.hasStatus .exact) + rows.countP (TemplateRow.hasStatus .gap) =
      rows.length := by
  rw [List.length_eq_countP_add_countP (TemplateRow.hasStatus .exact)]
  congr 1
  refine List.countP_congr ?_
  intro row _
  unfold TemplateRow.hasStatus
  cases row.coverageStatus with
  | exact => simp
  | gap => simp

theorem summary_gapProfileCount :
    (getTemplateCoverageExport manifests templates).summary.gapProfileCount =
      (listTaskTemplates manifests templates).countP (TemplateRow.hasStatus .gap) := by
  rw [List.countP_eq_length_filter]
  exact List.length_map _

theorem targets_perm : (getTemplateCoverageExport manifests templates).targets.Perm
    (manifests.rows.map fun manifest => targetCoverage manifest
      ((listTaskTemplates manifests templates).filter fun row =>
        decide (row.targetAppId = manifest.targetAppId))) := by
  have groups := Grouping.groupBy_getD (fun row : TemplateRow => row.targetAppId)
    (listTaskTemplates manifests templates)
  unfold getTemplateCoverageExport
  simp only [groups]
  exact List.perm_insertionSort _ _

/-- A count that a target takes over its own rows sums to the count over all
rows. -/
theorem sum_targets {count : TargetCoverage → Nat} {p : TemplateRow → Bool}
    (counts : ∀ manifest rows, count (targetCoverage manifest rows) = rows.countP p)
    (covered : ∀ row ∈ listTaskTemplates manifests templates,
      ∃ manifest ∈ manifests, manifest.targetAppId = row.targetAppId) :
    ((getTemplateCoverageExport manifests templates).targets.map count).sum =
      (listTaskTemplates manifests templates).countP p := by
  rw [(targets_perm.map count).sum_eq, List.map_map]
  have groups := @Grouping.sum_countP_groups TemplateRow (listTaskTemplates manifests templates) p
    String _ (fun row => row.targetAppId) (manifests.rows.map TargetManifest.targetAppId)
    manifests.keysNodup (fun row mem => List.mem_map.mpr (covered row mem))
  rw [← groups, List.map_map]
  refine congrArg List.sum (List.map_congr_left ?_)
  intro manifest _
  exact counts manifest _

theorem targetsSum (covered : ∀ row ∈ listTaskTemplates manifests templates,
      ∃ manifest ∈ manifests, manifest.targetAppId = row.targetAppId) :
    TargetsSum (getTemplateCoverageExport manifests templates) := by
  refine ⟨?_, ?_, ?_, ?_, ?_⟩
  · have whole (rows : List TemplateRow) : rows.length = rows.countP fun _ => true :=
      (congrFun List.countP_true rows).symm
    exact (sum_targets (fun _ rows => whole rows) covered).trans (whole _).symm
  · exact sum_targets (fun _ _ => rfl) covered
  · exact sum_targets (fun _ _ => rfl) covered
  · exact sum_targets (fun _ _ => rfl) covered
  · exact (sum_targets (fun _ _ => rfl) covered).trans summary_gapProfileCount.symm

end Totals

/-! ### The export -/

/-- The export of a catalog. -/
def coverageExport (directories : CatalogDirectories) : CoverageExport :=
  getTemplateCoverageExport (loadTargetManifests directories) (loadTaskTemplates directories)

/-- What the export of a catalog promises. -/
structure ConsistentCoverage (directories : CatalogDirectories) (report : CoverageExport) :
    Prop where
  listed : ∀ file ∈ directories.templateFiles, ∀ profile ∈ file.profiles,
    ∃ row ∈ report.profiles,
      row.targetAppId = file.targetAppId ∧ row.targetProfileId = profile.targetProfileId
  exact_iff : ∀ p ∈ report.profiles,
    p.coverageStatus = .exact ↔ ∃ q ∈ report.profiles, p.Reciprocates q
  pairs : ∀ p ∈ report.profiles, p.coverageStatus = .exact → p.targetProfileId ≠ "" →
    ∃ q ∈ report.profiles, ExactPair report.profiles p q
  balanced : ∀ app, (∀ p ∈ report.profiles, p.targetAppId = app →
      p.engine = "k6" ∨ p.engine = "jmeter") →
    (∀ p ∈ report.profiles, p.targetAppId = app → p.coverageStatus = .exact →
      p.targetProfileId ≠ "") →
    exactProfileCount report.profiles app "k6" = exactProfileCount report.profiles app "jmeter"
  total : report.summary.exactCoverageProfileCount + report.summary.gapProfileCount =
    report.summary.profileCount
  targetTotal : ∀ target ∈ report.targets,
    target.exactCoverageProfileCount + target.gapProfileCount = target.profileCount
  gaps : report.gaps = (report.profiles.filter fun p => decide (p.coverageStatus = .gap)).map
    fun p => ⟨p.targetAppId, p.targetProfileId, p.engine, p.coverageGroup, p.coverageGap⟩
  sums : (∀ p ∈ report.profiles, ∃ manifest ∈ loadTargetManifests directories,
      manifest.targetAppId = p.targetAppId) → TargetsSum report

/-- The export of every catalog whose profiles carry no application of their own
is consistent. -/
theorem coverageExport_consistent {directories : CatalogDirectories}
    (noOwn : ∀ file ∈ directories.templateFiles, ∀ profile ∈ file.profiles,
      profile.targetAppId = none) :
    ConsistentCoverage directories (coverageExport directories) := by
  have keyed := loadTaskTemplates_keyed noOwn
  constructor
  case listed =>
    intro file fileMem profile profileMem
    obtain ⟨item, mem, key⟩ := exists_loaded fileMem profileMem
    refine ⟨_, mem_listTaskTemplates.mpr ⟨item, mem, rfl⟩, ?_⟩
    have same := (keyed item mem).symm.trans key
    exact ⟨congrArg Prod.fst same, congrArg Prod.snd same⟩
  case exact_iff =>
    intro p mem
    exact row_exact_iff keyed mem
  case pairs =>
    intro p mem isExact named
    exact exists_exactPair keyed mem isExact named
  case balanced =>
    intro app engines named
    exact exactProfileCount_eq keyed engines named
  case total =>
    rw [coverageExport, summary_gapProfileCount]
    exact exact_add_gap _
  case targetTotal =>
    intro target mem
    obtain ⟨manifest, _, rfl⟩ := List.mem_map.mp (targets_perm.mem_iff.mp mem)
    exact exact_add_gap _
  case gaps => rfl
  case sums => exact targetsSum

/-! ### Small catalogs -/

/-- A profile of the echo service. -/
def echoProfile (targetProfileId engine : String) (equivalentProfileId : Option String) :
    TemplateProfile where
  targetAppId := none
  targetProfileId
  displayName := "Echo"
  description := "Echo requests"
  engine
  scriptPath := "engines/echo"
  targetUrl := "http://echo-api:8000"
  equivalentProfileId
  execution := none

def echoManifest : TargetManifest where
  targetAppId := "echo-api"
  displayName := some (.str "Echo API")
  protocol := some (.str "http")
  baseUrl := none
  workloadTypes := none
  safeLimits := none

/-- A pair and a profile without an equivalent. -/
def echoFile : TemplateFile where
  targetAppId := "echo-api"
  profiles := [echoProfile "echo-k6-smoke" "k6" (some "echo-jmeter-smoke"),
    echoProfile "echo-jmeter-smoke" "jmeter" (some "echo-k6-smoke"),
    echoProfile "echo-k6-soak" "k6" none]

/-- A profile with an empty id, and one that names it. -/
def namelessFile : TemplateFile where
  targetAppId := "echo-api"
  profiles := [echoProfile "" "k6" (some "echo-jmeter-smoke"),
    echoProfile "echo-jmeter-smoke" "jmeter" (some "")]

/-- A deployment with the echo service and one template file. -/
def echoDirectories (file : TemplateFile) : CatalogDirectories where
  manifests := [("echo-api.yaml", echoManifest)]
  bundledManifests := []
  templates := [("echo-api.yaml", file)]
  bundledTemplates := []

theorem echoExport_consistent :
    (coverageExport (echoDirectories echoFile)).summary.exactCoverageProfileCount = 2 ∧
      (coverageExport (echoDirectories echoFile)).summary.gapProfileCount = 1 ∧
      ConsistentCoverage (echoDirectories echoFile)
        (coverageExport (echoDirectories echoFile)) := by
  have noOwn : ∀ file ∈ (echoDirectories echoFile).templateFiles, ∀ profile ∈ file.profiles,
      profile.targetAppId = none := by
    intro file mem
    obtain rfl := List.mem_singleton.mp mem
    simp [echoFile, echoProfile]
  exact ⟨by decide +kernel, by decide +kernel, coverageExport_consistent noOwn⟩

/-- The nameless profile is exact and its partner is a gap. -/
theorem namelessExport_unbalanced :
    ¬ ∀ directories : CatalogDirectories,
      (∀ file ∈ directories.templateFiles, ∀ profile ∈ file.profiles,
        profile.targetAppId = none) →
      (∀ file ∈ directories.templateFiles, ∀ profile ∈ file.profiles,
        profile.engine = "k6" ∨ profile.engine = "jmeter") →
      ∀ app, exactProfileCount (coverageExport directories).profiles app "k6" =
        exactProfileCount (coverageExport directories).profiles app "jmeter" := by
  intro balanced
  have same := balanced (echoDirectories namelessFile) ?noOwn ?engines "echo-api"
  case noOwn =>
    intro file mem
    obtain rfl := List.mem_singleton.mp mem
    simp [namelessFile, echoProfile]
  case engines =>
    intro file mem
    obtain rfl := List.mem_singleton.mp mem
    simp [namelessFile, echoProfile]
  revert same
  decide +kernel

end PLoadtesting.ControlPlane
