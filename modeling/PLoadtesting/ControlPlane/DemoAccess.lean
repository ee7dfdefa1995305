import PLoadtesting.ControlPlane.StoredParameters
import PLoadtesting.ControlPlane.ResultViews
import PLoadtesting.ControlPlane.WorkerViews

/-!
What a request without the shared token can do.

With a token configured, only the demo creation writes without it. It is
confined when it either changes nothing or adds one bounded smoke task of the
catalog and dispatches it (`Confined`). Two things get in the way
(`createTask_confined_iff`): the dispatch that ends a demo creation raises when
it asks a worker whose capabilities are no collection, after the task was
stored; and a catalog template for an engine without settings can hold free-form
ones, which the demo bounds read through `int()`.
-/

namespace PLoadtesting.ControlPlane

open Keyed Python

/-! ### The demo checks -/

theorem isSafeDemoProfile_true_iff {targetAppId targetProfileId : Json} :
    isSafeDemoProfile targetAppId targetProfileId = .ok true ↔
      targetAppId = .str safeDemoTargetAppId ∧
        ∃ profile ∈ safeDemoProfileIds, targetProfileId = .str profile := by
  unfold isSafeDemoProfile
  by_cases app : targetAppId.eqStr safeDemoTargetAppId = true
  · rw [if_pos app, ← Json.eqStr_iff]
    constructor
    · intro member
      exact ⟨app, Json.inSet_ok_true member⟩
    · rintro ⟨_, profile, mem, rfl⟩
      simp [Json.inSet, mem]
  · rw [if_neg app, ← Json.eqStr_iff]
    exact iff_of_false nofun fun both => app both.1

/-- The payload of a demo creation has the allowed fields only. -/
theorem mem_allowed_of_payload {body : Json} (h : demoCreatePayloadAllowed body = .ok true)
    {field : String} (given : body.dictOrEmpty.contains field = true) :
    field ∈ allowedDemoCreateFields := by
  unfold demoCreatePayloadAllowed at h
  cases object : body.asDict? with
  | none => simp [object] at h
  | some d =>
      simp only [object] at h
      split at h
      · cases h
      · rename_i checked
        obtain ⟨value, found⟩ := Option.isSome_iff_exists.mp given
        simp only [Json.dictOrEmpty, object, Option.getD_some] at found
        have mem := Dict.get?_eq_some_iff.mp found
        by_contra notAllowed
        refine checked (Bool.or_eq_true_iff.mpr (.inr (List.any_eq_true.mpr ⟨_, mem, ?_⟩)))
        simpa using notAllowed

theorem executionWithinDemoBounds_true_iff {execution : Dict Json} :
    executionWithinDemoBounds execution = .ok true ↔
      ∃ duration maxRun, ((execution.get? "duration_seconds").getD .null).toInt = .ok duration ∧
        ((execution.get? "max_run_seconds").getD .null).toInt = .ok maxRun ∧
        duration ≤ maxDemoDurationSeconds ∧ maxRun ≤ maxDemoRunSeconds := by
  simp only [← Json.caughtInt_some_iff]
  unfold executionWithinDemoBounds
  rw [bind_ok_iff]
  constructor
  · rintro ⟨duration?, duration_eq, h⟩
    cases duration? with
    | none => cases h
    | some duration =>
        obtain ⟨maxRun?, maxRun_eq, h⟩ := bind_ok_iff.mp h
        cases maxRun? with
        | none => cases h
        | some maxRun =>
            have bounds := Except.ok.inj h
            rw [Bool.and_eq_true, decide_eq_true_eq, decide_eq_true_eq] at bounds
            exact ⟨duration, maxRun, duration_eq, maxRun_eq, bounds⟩
  · rintro ⟨duration, maxRun, duration_eq, maxRun_eq, durationBound, maxRunBound⟩
    refine ⟨some duration, duration_eq, bind_ok_iff.mpr ⟨some maxRun, maxRun_eq, ?_⟩⟩
    simp [durationBound, maxRunBound, pure, Except.pure]

theorem matchesDemoTemplate_true_iff [Runtime] {catalog : Catalog} {appId profileId : String}
    {targetUrl scriptPath engine : String} {parameters : Dict Json} :
    matchesDemoTemplate catalog appId profileId targetUrl scriptPath engine parameters =
        .ok true ↔
      ∃ template, catalog.find? (appId, profileId) = some template ∧
        (targetUrl = template.targetUrl ∧ scriptPath = template.scriptPath ∧
          engine = template.engine) ∧
        executionWithinDemoBounds ((parameters.get? "execution").getD .null).dictOrEmpty =
          .ok true := by
  unfold matchesDemoTemplate
  cases found : getTaskTemplate catalog appId profileId with
  | error e =>
      refine iff_of_false ?_ ?_
      · intro raised
        cases raised
      · rintro ⟨template, listed, _⟩
        rw [← getTaskTemplate_ok_iff, found] at listed
        cases listed
  | ok template =>
      rw [getTaskTemplate_ok_iff] at found
      simp only [found, Option.some.injEq, exists_eq_left']
      split
      · rename_i same
        simp [same]
      · rename_i differs
        refine iff_of_false ?_ fun both => differs both.1
        intro same
        cases same

/-! ### A demo request -/

section Demo

variable [Runtime] {deployment : Deployment} {body : Json} {attrs : Attrs} {data : ValidatedData}

/-- A request without the token that passes the checks on the payload and on the
validated data. -/
structure AdmitsDemo (deployment : Deployment) (body : Json) (attrs : Attrs)
    (data : ValidatedData) : Prop where
  enabled : deployment.settings.enableDemoTaskApi = true
  payload : demoCreatePayloadAllowed body = .ok true
  accepts : Accepts deployment body attrs data
  safe : validatedDemoDataIsSafe deployment.catalog data = .ok true

/-- The template parameters carry no sharding. -/
def Unsharded (catalog : Catalog) : Prop :=
  ∀ template ∈ catalog, ∀ k ∈ ["distribution", "shard_execution_plan"],
    template.parameters.get? k = none

/-- A field that the payload may not have is left out. -/
theorem AdmitsDemo.not_given (admits : AdmitsDemo deployment body attrs data) (field : String)
    (notAllowed : field ∉ allowedDemoCreateFields) : attrs.given field = false := by
  cases given : attrs.given field with
  | false => rfl
  | true =>
      have sent := deployment.fields.given_mem _ _ admits.accepts.read field given
      exact absurd (mem_allowed_of_payload admits.payload sent) notAllowed

/-- What an admitted request resolves to: a safe template, validated without
anything from the request. -/
structure Resolved (deployment : Deployment) (attrs : Attrs) (data : ValidatedData)
    (profile : String) (template : TaskTemplate) (execution : Option (Dict Json)) : Prop where
  validated : Validated deployment.catalog attrs data (some template) execution none
  listed : deployment.catalog.find? (safeDemoTargetAppId, profile) = some template
  profile_mem : profile ∈ safeDemoProfileIds
  appId_eq : attrs.targetAppId = some safeDemoTargetAppId
  profileId_eq : attrs.targetProfileId = some profile
  targetUrl_eq : data.targetUrl = template.targetUrl
  scriptPath_eq : data.scriptPath = template.scriptPath
  engine_eq : data.engine = template.engine
  bounded : executionWithinDemoBounds
    ((data.parameters.get? "execution").getD .null).dictOrEmpty = .ok true

omit [Runtime] in
theorem optionalStr_eq_str {s? : Option String} {s : String} (h : optionalStr s? = .str s) :
    s? = some s := by
  cases s? with
  | none => cases h
  | some t =>
      cases h
      rfl

theorem requestedTemplate_of_find? {catalog : Catalog} {appId profileId : String}
    {template : TaskTemplate} (app : attrs.targetAppId = some appId)
    (profile : attrs.targetProfileId = some profileId) (app_ne : appId ≠ "")
    (profile_ne : profileId ≠ "") (listed : catalog.find? (appId, profileId) = some template) :
    requestedTemplate catalog attrs = .ok (some template) := by
  simp [requestedTemplate, truthyStr, app, profile, app_ne, profile_ne,
    getTaskTemplate_ok_iff.mpr listed]

theorem AdmitsDemo.resolved (admits : AdmitsDemo deployment body attrs data) :
    ∃ profile template execution, Resolved deployment attrs data profile template execution := by
  obtain ⟨requested, execution, distribution, v⟩ := validate_ok admits.accepts.validated
  have safe := admits.safe
  unfold validatedDemoDataIsSafe at safe
  obtain ⟨safeProfile, checked, safe⟩ := bind_ok_iff.mp safe
  cases safeProfile with
  | false => cases safe
  | true =>
      obtain ⟨app, profile, profile_mem, profile_eq⟩ := isSafeDemoProfile_true_iff.mp checked
      have appId_eq := optionalStr_eq_str app
      have profileId_eq := optionalStr_eq_str profile_eq
      simp only [if_true, appId_eq, profileId_eq, Option.getD_some] at safe
      obtain ⟨template, listed, ⟨targetUrl_eq, scriptPath_eq, engine_eq⟩, bounded⟩ :=
        matchesDemoTemplate_true_iff.mp safe
      rw [v.targetAppId_eq] at appId_eq
      rw [v.targetProfileId_eq] at profileId_eq
      have profile_ne : profile ≠ "" := by
        rintro rfl
        exact absurd profile_mem (by decide)
      have requested_eq := v.template_eq.symm.trans
        (requestedTemplate_of_find? appId_eq profileId_eq (by decide) profile_ne listed)
      cases requested_eq
      have undistributed : attrs.distribution = none := by
        simpa [Attrs.given] using admits.not_given "distribution" (by decide)
      have distribution_eq := v.distribution_eq
      rw [undistributed] at distribution_eq
      cases distribution_eq
      exact ⟨profile, template, execution, v, listed, profile_mem, appId_eq, profileId_eq,
        targetUrl_eq, scriptPath_eq, engine_eq, bounded⟩

/-! ### The stored smoke task -/

omit [Runtime] in
/-- Both ids of the template are written. -/
theorem setTemplateIds_of_given {parameters : Dict Json} {appId profileId : String}
    (app : attrs.targetAppId = some appId) (profile : attrs.targetProfileId = some profileId)
    (app_ne : appId ≠ "") (profile_ne : profileId ≠ "") :
    setTemplateIds attrs parameters = (parameters.set "target_app_id" (.str appId)).set
      "target_profile_id" (.str profileId) := by
  simp [setTemplateIds, truthyStr, app, profile, app_ne, profile_ne]

section Row

variable {profile : String} {template : TaskTemplate} {execution : Option (Dict Json)}
  {id : TaskId} {now : Timestamp}

/-- The parameters of a demo task are the template's, but for four keys. -/
theorem Resolved.get? (r : Resolved deployment attrs data profile template execution)
    (own : ∀ k, attrs.own? k = none) (k : String) :
    data.parameters.get? k =
      if k = "execution" then
        (execution.map dictJson).or (template.parameters.get? "execution")
      else if k = "target_profile_id" then some (.str profile)
      else if k = "target_app_id" then some (.str safeDemoTargetAppId)
      else if k = "target_url" then some (.str template.targetUrl)
      else template.parameters.get? k := by
  have profile_ne : profile ≠ "" := by
    rintro rfl
    exact absurd r.profile_mem (by decide)
  have undistributed : ∀ parameters : Dict Json,
      setIfSome parameters "distribution" none = parameters := fun _ => rfl
  have templateUrl : (freeForm (some template) attrs template.targetUrl).get? "target_url" =
      some (.str template.targetUrl) := by
    simp [freeForm]
  rw [r.validated.parameters_eq, undistributed, r.targetUrl_eq, setIfSome_get?,
    setTemplateIds_of_given r.appId_eq r.profileId_eq (by decide) profile_ne]
  simp only [Dict.get?_set]
  split
  · simp [freeForm_get?, own]
  · split
    · rfl
    · split
      · rfl
      · split
        · rename_i url
          rw [url, templateUrl]
        · rename_i notUrl
          simp [freeForm_get? notUrl, own]

/-- The numeric value that a comparison sees. -/
def numeric? : Json → Option Rat
  | .bool b => some (if b then 1 else 0)
  | .int i => some i
  | .float (.finite q) => some q
  | _ => none

/-- A number of at most `bound`. -/
def AtMost (bound : Int) (value : Json) : Prop := ∃ q ∈ numeric? value, q ≤ bound

/-- Execution settings within the demo bounds. -/
def WithinDemoBounds (execution : Json) : Prop :=
  ∃ d, execution.asDict? = some d ∧
    AtMost maxDemoDurationSeconds ((d.get? "duration_seconds").getD .null) ∧
    AtMost maxDemoRunSeconds ((d.get? "max_run_seconds").getD .null)

/-- Free-form settings of the template that no validated ones replace are within
the bounds as numbers. -/
def SettingsBounded (catalog : Catalog) (attrs : Attrs) : Prop :=
  attrs.LacksExecution catalog →
    ∀ value ∈ attrs.free? catalog "execution", WithinDemoBounds value

omit [Runtime] in
theorem atMost_int_iff {bound i : Int} : AtMost bound (.int i) ↔ i ≤ bound := by
  simp only [AtMost, numeric?, Option.mem_some_iff, exists_eq_left', Rat.intCast_le_intCast]

/-- Validated settings that pass the demo check are within the bounds: `int()`
reads validated settings as they are. -/
theorem withinDemoBounds_of_validated {x : Json} {r : Dict Json}
    (valid : validateExecution x = .ok r) (bounded : executionWithinDemoBounds r = .ok true) :
    WithinDemoBounds (dictJson r) := by
  obtain ⟨p, describes⟩ := validateExecution_describes valid
  obtain ⟨duration, maxRun, duration_eq, maxRun_eq, durationBound, maxRunBound⟩ :=
    executionWithinDemoBounds_true_iff.mp bounded
  refine ⟨r, asDict?_dictJson r, ?_, ?_⟩
  · rw [describes.duration] at duration_eq ⊢
    cases duration_eq
    exact atMost_int_iff.mpr durationBound
  · have maxRun_describes := describes.maxRun
    cases limit : p.maxRunSeconds with
    | none =>
        -- An absent or null limit is refused by `int()`.
        exfalso
        rw [limit, Option.map_none] at maxRun_describes
        unfold present? at maxRun_describes
        split at maxRun_describes
        · rename_i absent
          rw [absent] at maxRun_eq
          cases maxRun_eq
        · rename_i null
          rw [null] at maxRun_eq
          cases maxRun_eq
        · cases maxRun_describes
    | some m =>
        rw [limit, Option.map_some, present?_eq_some_iff] at maxRun_describes
        rw [maxRun_describes.1] at maxRun_eq ⊢
        cases maxRun_eq
        exact atMost_int_iff.mpr maxRunBound

/-- Nothing of a demo request is sharded. -/
theorem Resolved.storedDistribution_eq
    (r : Resolved deployment attrs data profile template execution)
    (own : ∀ k, attrs.own? k = none) (unsharded : Unsharded deployment.catalog) :
    data.storedDistribution = .null := by
  have listed := (Table.find?_eq_some_iff.mp r.listed).1
  rw [ValidatedData.storedDistribution, r.get? own,
    if_neg (by decide), if_neg (by decide), if_neg (by decide), if_neg (by decide),
    unsharded template listed _ List.mem_cons_self]
  rfl

/-- The row of a demo task. -/
def demoTask (data : ValidatedData) (id : TaskId) (now : Timestamp) : LoadTestTask :=
  markedTask (storedTask data id now) now

theorem Resolved.parameter?_eq (r : Resolved deployment attrs data profile template execution)
    (own : ∀ k, attrs.own? k = none) (unsharded : Unsharded deployment.catalog) {k : String}
    (hk : k ≠ "task_operation_mode") :
    (demoTask data id now).parameter? k = data.parameters.get? k := by
  have stored := storedRow_markedTask data id now
  have unshaped : ¬ PlanShaped data.storedDistribution := by
    intro shaped
    have truthy := shaped.truthy
    rw [r.storedDistribution_eq own unsharded] at truthy
    cases truthy
  rw [demoTask, LoadTestTask.parameter?, stored.parameters_eq hk,
    storedParameters_of_not_shaped unshaped]

/-- The settings of a demo task are within the bounds exactly when free-form
ones are. -/
theorem Resolved.execution_iff (r : Resolved deployment attrs data profile template execution)
    (own : ∀ k, attrs.own? k = none) (unsharded : Unsharded deployment.catalog) :
    (∃ value, (demoTask data id now).parameter? "execution" = some value ∧
        WithinDemoBounds value) ↔ SettingsBounded deployment.catalog attrs := by
  have bounded := r.bounded
  have free : attrs.free? deployment.catalog "execution" =
      template.parameters.get? "execution" := by
    rw [Attrs.free?, own, r.validated.templateOf_eq]
    rfl
  rw [r.parameter?_eq own unsharded (by decide), SettingsBounded, r.validated.lacksExecution_iff,
    free]
  rw [r.get? own, if_pos rfl] at bounded ⊢
  cases execution with
  | some settings =>
      obtain ⟨x, valid⟩ := resolveExecution_some r.validated.execution_eq
      refine iff_of_true ⟨_, rfl, ?_⟩ fun lacks => absurd lacks (Option.some_ne_none settings)
      exact withinDemoBounds_of_validated valid (by simpa using bounded)
  | none =>
      cases stored : template.parameters.get? "execution" with
      | none =>
          -- Without settings there is no duration to read.
          rw [stored] at bounded
          obtain ⟨_, _, duration_eq, _⟩ := executionWithinDemoBounds_true_iff.mp bounded
          cases duration_eq
      | some value => simp

end Row

/-! ### Confinement -/

/-- Nothing gets in the way of a demo request: free-form settings are bounded,
and the workers that are asked have capabilities that can be searched. -/
structure Undisturbed (catalog : Catalog) (db : Database) (attrs : Attrs) : Prop where
  settings : SettingsBounded catalog attrs
  workers : AsksCollections (((templateOf catalog attrs).map (·.engine)).getD "") (idleWorkers db)

end Demo

/-! ### The shipped smoke profile -/

/-- The k6 smoke profile of the shipped catalog. -/
def echoTemplate : TaskTemplate where
  targetAppId := "echo-api"
  targetProfileId := "echo-k6-smoke"
  displayName := "Echo Smoke via k6"
  engine := "k6"
  scriptPath := "engines/k6/target_apps_echo_smoke.js"
  targetUrl := "http://echo-api:8000"
  execution := some (.obj [("duration_seconds", .int 10), ("ramp_up_seconds", .int 0),
    ("ramp_down_seconds", .int 0), ("stop_policy", .str "graceful_stop"),
    ("graceful_stop_seconds", .int 10), ("max_run_seconds", .int 30), ("iteration_limit", .null),
    ("data_policy", .str "duration_first")])
  parameters := Dict.ofItems [("TARGET_URL", .str "http://echo-api:8000"),
    ("ECHO_MESSAGE", .str "smoke"), ("ECHO_REPEAT", .str "1")]

/-- A deployment with a token and the demo switched on. -/
def demoDeployment : Deployment where
  settings := ⟨"secret", true⟩
  catalog := Table.empty.upsert echoTemplate
  fields := @plainFields asciiRuntime

def noHeaders : Headers := ⟨"", ""⟩

end PLoadtesting.ControlPlane
