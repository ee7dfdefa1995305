import PLoadtesting.ControlPlane.TemplateRegistry
import PLoadtesting.Lib.Affixes
import PLoadtesting.Lib.Grouping
import Mathlib.Data.List.Sort

/-!
The catalog of target applications and their profiles
(`apps/tasks/template_registry.py`): loading the manifests and templates, the
coverage of each profile by an equivalent one on the other engine, and the two
exports of the template endpoints.

A YAML file is the record of the entries that these functions read; its values
that are only passed on are `Json`. A profile may carry a `target_app_id` of its
own, which replaces the one of its file in the template but not in the key.
-/

namespace PLoadtesting.ControlPlane

open Keyed Python Affixes

/-! ### Loading -/

/-- The entries of a profile but for its application. -/
structure ProfileEntries where
  targetProfileId : String
  displayName : String
  description : String
  engine : String
  scriptPath : String
  targetUrl : String
  equivalentProfileId : Option String
  execution : Option Json

/-- A profile in a template file. -/
structure TemplateProfile extends ProfileEntries where
  targetAppId : Option String

/-- A file of `task-templates`. -/
structure TemplateFile where
  targetAppId : String
  profiles : List TemplateProfile

/-- A loaded template. -/
structure ProfileTemplate extends ProfileEntries where
  targetAppId : String

/-- A file of `manifests`. -/
structure TargetManifest where
  targetAppId : String
  displayName : Option Json
  protocol : Option Json
  baseUrl : Option Json
  workloadTypes : Option Json
  safeLimits : Option Json

/-- The loaded templates under the application of their file and their profile
id. -/
abbrev TemplateIndex := Table (Prod.fst : (String × String) × ProfileTemplate → String × String)

/-- The loaded manifests. -/
abbrev ManifestIndex := Table TargetManifest.targetAppId

/-- `_catalog_paths`: the files of the first directory that has any, by name. -/
def catalogPaths {α : Type} (primary fallback : List (String × α)) : List α :=
  ((if primary.isEmpty then fallback else primary).insertionSort fun f g => f.1 ≤ g.1).map Prod.snd

/-- The catalog directories of a deployment and the bundled ones, each file under
its name. -/
structure CatalogDirectories where
  manifests : List (String × TargetManifest)
  bundledManifests : List (String × TargetManifest)
  templates : List (String × TemplateFile)
  bundledTemplates : List (String × TemplateFile)

/-- The template files in the order in which they are loaded. -/
def CatalogDirectories.templateFiles (directories : CatalogDirectories) : List TemplateFile :=
  catalogPaths directories.templates directories.bundledTemplates

/-- `load_target_manifests`. -/
def loadTargetManifests (directories : CatalogDirectories) : ManifestIndex :=
  (catalogPaths directories.manifests directories.bundledManifests).foldl Table.upsert Table.empty

/-- `{"target_app_id": target_app_id, **profile}` under its key. -/
def indexedTemplate (targetAppId : String) (profile : TemplateProfile) :
    (String × String) × ProfileTemplate :=
  ((targetAppId, profile.targetProfileId),
    { profile with targetAppId := profile.targetAppId.getD targetAppId })

/-- `load_task_templates`. -/
def loadTaskTemplates (directories : CatalogDirectories) : TemplateIndex :=
  directories.templateFiles.foldl (fun templates file =>
    file.profiles.foldl (fun templates profile =>
      templates.upsert (indexedTemplate file.targetAppId profile)) templates) Table.empty

/-! ### Coverage -/

inductive CoverageStatus where
  | exact | gap
deriving DecidableEq, Repr

structure CoverageMetadata where
  coverageStatus : CoverageStatus
  coverageGroup : String
  coverageGap : Option String

def noExactEquivalentGap : String := "No exact equivalent profile is currently defined."

/-- `_target_coverage_key`. -/
def targetCoverageKey (targetAppId : String) : String :=
  replaceChar '-' '_' (removeSuffix "-flow" (removeSuffix "-api" targetAppId))

/-- `_profile_coverage_slug`. -/
def profileCoverageSlug (targetAppId targetProfileId : String) : String :=
  let targetKey := replaceChar '_' '-' (targetCoverageKey targetAppId)
  let slug := removePrefix (targetKey ++ "-") targetProfileId
  replaceChar '-' '_' (["k6-", "jmeter-"].foldl (fun slug engine => removePrefix engine slug) slug)

/-- `_coverage_group`. -/
def coverageGroup (targetAppId targetProfileId : String) : String :=
  targetCoverageKey targetAppId ++ "." ++ profileCoverageSlug targetAppId targetProfileId

/-- `_coverage_metadata`. -/
def coverageMetadata (template : ProfileTemplate) (templates : TemplateIndex) :
    CoverageMetadata :=
  let group := coverageGroup template.targetAppId template.targetProfileId
  match template.equivalentProfileId with
  | none | some "" => ⟨.gap, group, some noExactEquivalentGap⟩
  | some equivalentProfileId =>
      match templates.find? (template.targetAppId, equivalentProfileId) with
      | none => ⟨.gap, group, some ("Equivalent profile '" ++ equivalentProfileId
          ++ "' is not defined for this target app.")⟩
      | some (_, equivalent) =>
          if equivalent.engine = template.engine then
            ⟨.gap, group, some "Equivalent profile uses the same engine."⟩
          else if equivalent.equivalentProfileId ≠ some template.targetProfileId then
            ⟨.gap, group, some "Equivalent profile is not reciprocal."⟩
          else ⟨.exact, group, none⟩

/-! ### The list of templates -/

/-- A row of `list_task_templates`. -/
structure TemplateRow extends ProfileTemplate, CoverageMetadata where
  workloadTypes : Json
  safeLimits : Json

/-- `_template_row`, with the manifest of the application if there is one. -/
def templateRow (template : ProfileTemplate) (manifest : Option TargetManifest)
    (templates : TemplateIndex) : TemplateRow :=
  { template, coverageMetadata template templates with
    workloadTypes := (manifest.bind TargetManifest.workloadTypes).getD (.arr [])
    safeLimits := (manifest.bind TargetManifest.safeLimits).getD (.obj []) }

/-- The order of the rows: by application, then by profile. -/
def rowBefore (p q : TemplateRow) : Prop :=
  p.targetAppId < q.targetAppId ∨
    (p.targetAppId = q.targetAppId ∧ p.targetProfileId ≤ q.targetProfileId)

instance (p q : TemplateRow) : Decidable (rowBefore p q) :=
  inferInstanceAs (Decidable (_ ∨ _))

/-- `list_task_templates`. -/
def listTaskTemplates (manifests : ManifestIndex) (templates : TemplateIndex) : List TemplateRow :=
  (templates.rows.map fun item =>
    templateRow item.2 (manifests.find? item.2.targetAppId) templates).insertionSort rowBefore

/-! ### The coverage export -/

/-- A row of `targets`. -/
structure TargetCoverage where
  targetAppId : String
  displayName : Option Json
  protocol : Option Json
  baseUrl : Option Json
  workloadTypes : Json
  profileCount : Nat
  k6ProfileCount : Nat
  jmeterProfileCount : Nat
  exactCoverageProfileCount : Nat
  gapProfileCount : Nat

/-- A row of `gaps`. -/
structure CoverageGap where
  targetAppId : String
  targetProfileId : String
  engine : String
  coverageGroup : String
  coverageGap : Option String
deriving DecidableEq

structure CoverageSummary where
  targetAppCount : Nat
  profileCount : Nat
  k6ProfileCount : Nat
  jmeterProfileCount : Nat
  exactCoverageProfileCount : Nat
  gapProfileCount : Nat

structure CoverageExport where
  summary : CoverageSummary
  targets : List TargetCoverage
  profiles : List TemplateRow
  gaps : List CoverageGap

def TemplateRow.usesEngine (engine : String) (row : TemplateRow) : Bool :=
  decide (row.engine = engine)

def TemplateRow.hasStatus (status : CoverageStatus) (row : TemplateRow) : Bool :=
  decide (row.coverageStatus = status)

def targetCoverage (manifest : TargetManifest) (targetProfiles : List TemplateRow) :
    TargetCoverage where
  targetAppId := manifest.targetAppId
  displayName := manifest.displayName
  protocol := manifest.protocol
  baseUrl := manifest.baseUrl
  workloadTypes := manifest.workloadTypes.getD (.arr [])
  profileCount := targetProfiles.length
  k6ProfileCount := targetProfiles.countP (TemplateRow.usesEngine "k6")
  jmeterProfileCount := targetProfiles.countP (TemplateRow.usesEngine "jmeter")
  exactCoverageProfileCount := targetProfiles.countP (TemplateRow.hasStatus .exact)
  gapProfileCount := targetProfiles.countP (TemplateRow.hasStatus .gap)

/-- The entry of a gap. -/
def TemplateRow.coverageGapRow (row : TemplateRow) : CoverageGap :=
  ⟨row.targetAppId, row.targetProfileId, row.engine, row.coverageGroup, row.coverageGap⟩

/-- `get_template_coverage_export`. -/
def getTemplateCoverageExport (manifests : ManifestIndex) (templates : TemplateIndex) :
    CoverageExport :=
  let profiles := listTaskTemplates manifests templates
  let groupedProfiles := Grouping.groupBy (fun row => row.targetAppId) profiles
  let targets := manifests.rows.map fun manifest =>
    targetCoverage manifest ((groupedProfiles.get? manifest.targetAppId).getD [])
  let gaps := (profiles.filter (TemplateRow.hasStatus .gap)).map TemplateRow.coverageGapRow
  { summary :=
      { targetAppCount := manifests.rows.length
        profileCount := profiles.length
        k6ProfileCount := profiles.countP (TemplateRow.usesEngine "k6")
        jmeterProfileCount := profiles.countP (TemplateRow.usesEngine "jmeter")
        exactCoverageProfileCount := profiles.countP (TemplateRow.hasStatus .exact)
        gapProfileCount := gaps.length }
    targets := targets.insertionSort fun s t => s.targetAppId ≤ t.targetAppId
    profiles
    gaps }

end PLoadtesting.ControlPlane
