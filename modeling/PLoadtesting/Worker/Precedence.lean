import PLoadtesting.Worker.EngineInput

/-!
Settings against free-form parameters.

The execution and shard settings reach k6 as environment variables and JMeter as
properties. Both engines see all of them as they were received exactly when no
free-form parameter gets in the way (`settingsPrevail_iff`): for k6 one named
like the variable of a null setting, for JMeter one that defines the property of
any setting, unless it says the same.
-/

namespace PLoadtesting.Worker

open Keyed Python

theorem free_of_k6Key : ∀ key ∈ (executionEnvKeys ++ shardEnvKeys).map Prod.snd,
    key ∉ workerMetadataParameterKeys := by decide

theorem jmeterKey_ne_target : ∀ key ∈ (executionJmeterKeys ++ shardJmeterKeys).map Prod.snd,
    key ≠ "TARGET_HOST" ∧ key ≠ "TARGET_PORT" := by decide

section Precedence

variable [Runtime]

theorem prepare_metadata {call : ExecuteCall} {prepared : Prepared}
    (prepares : prepare call = .ok prepared) :
    prepared.execution = extractExecution call.parameters ∧
      prepared.shardMetadata = extractShardMetadata call.parameters := by
  obtain ⟨_, _, prepares⟩ := bind_ok_iff.mp prepares
  obtain ⟨_, _, prepares⟩ := bind_ok_iff.mp prepares
  cases prepares
  exact ⟨rfl, rfl⟩

/-- Each setting is seen as it is, and not at all where it is null. -/
def SeesSettings (settings : List (String × Option String)) (seen : Dict String) : Prop :=
  ∀ setting ∈ settings, seen.get? setting.1 = setting.2

/-- No free-form parameter has the name of a null setting. -/
def LeavesNullSettings (settings : List (String × Option String)) (parameters : Dict Json) :
    Prop :=
  ∀ setting ∈ settings, setting.2 = none → parameters.get? setting.1 = none

/-- What the free-form parameters define under the name of a setting is that
setting. -/
def RepeatsSettings (settings : List (String × Option String)) (parameters : Dict Json) : Prop :=
  ∀ setting ∈ settings, ∀ text ∈ (freeProperties parameters).get? setting.1,
    setting.2 = some text

/-- k6: a setting wins over a parameter of its name, a null setting does not. -/
theorem k6_seesSettings_iff {environ : Dict String} {parameters execution : Dict Json}
    {shardMetadata : Option (Dict Json)}
    (clean : ∀ key ∈ (executionEnvKeys ++ shardEnvKeys).map Prod.snd, environ.get? key = none) :
    SeesSettings (k6Settings execution shardMetadata)
        (k6Environment environ parameters (some execution) shardMetadata) ↔
      LeavesNullSettings (k6Settings execution shardMetadata) parameters := by
  unfold SeesSettings LeavesNullSettings
  refine forall₂_congr ?_
  rintro ⟨key, setting⟩ mem
  have mapped := mappedSettings_key mem
  have own : ((Dict.ofItems (shardEnv shardMetadata)).get? key).or
      ((Dict.ofItems (executionEnv (some execution))).get? key) = setting :=
    get?_settings k6Keys_distinct execution shardMetadata mem
  rw [get?_k6Environment, own, get?_ofItems_freeParameters (free_of_k6Key key mapped),
    clean key mapped, Option.or_none]
  cases setting with
  | none => simp
  | some text => simp

/-- JMeter: a parameter that defines the property of a setting wins. -/
theorem jmeter_seesSettings_iff {config : WorkerConfig} {call : ExecuteCall}
    {prepared : Prepared} {started : EngineCall} {parameters execution : Dict Json}
    (prepares : prepare call = .ok prepared) (object : call.parameters.asDict? = some parameters)
    (received : prepared.execution = some execution)
    (built : jmeterCall config prepared call.parameters = .ok started) :
    SeesSettings (jmeterSettings execution prepared.shardMetadata)
        (CommandLine.properties "-J" started.cmd) ↔
      RepeatsSettings (jmeterSettings execution prepared.shardMetadata) parameters := by
  unfold SeesSettings RepeatsSettings
  refine forall₂_congr ?_
  rintro ⟨key, setting⟩ mem
  obtain ⟨notHost, notPort⟩ := jmeterKey_ne_target key (mappedSettings_key mem)
  obtain ⟨target, read, seen⟩ := get?_properties_jmeterCall prepares object built key
  have own : ((Dict.ofItems (Dict.renamed shardJmeterKeys
        (text? (shardValues prepared.shardMetadata)))).get? key).or
      ((Dict.ofItems (executionProperties prepared.execution)).get? key) = setting := by
    rw [received]
    exact get?_settings jmeterKeys_distinct execution prepared.shardMetadata mem
  have noTarget : (Dict.ofItems target).get? key = none := by
    rw [Dict.get?_ofItems, Option.map_eq_none_iff, List.find?_eq_none]
    intro item itemMem same
    have name : item.1 = key := of_decide_eq_true same
    rcases mem_jmeterTarget read item (List.mem_reverse.mp itemMem) with host | port
    · exact notHost (name.symm.trans host)
    · exact notPort (name.symm.trans port)
  rw [seen, own, noTarget, Option.or_none]
  cases defined : (freeProperties parameters).get? key with
  | none => simp
  | some text => simp [eq_comm]

/-- For every parameters object with execution settings and every worker whose
own environment leaves the variables alone: k6 sees all settings as received if
and only if no free-form parameter has the name of a null one, JMeter if and only
if the free-form parameters repeat what they define of them. -/
theorem settingsPrevail_iff (config : WorkerConfig) (call : ExecuteCall) (prepared : Prepared)
    (parameters execution : Dict Json) (object : call.parameters.asDict? = some parameters)
    (received : extractExecution call.parameters = some execution)
    (prepares : prepare call = .ok prepared)
    (clean : ∀ key ∈ (executionEnvKeys ++ shardEnvKeys).map Prod.snd,
      config.environ.get? key = none) :
    (∀ started, k6Call config prepared call.parameters = .ok started →
      (SeesSettings (k6Settings execution (extractShardMetadata call.parameters)) started.env ↔
        LeavesNullSettings (k6Settings execution (extractShardMetadata call.parameters))
          parameters)) ∧
    ∀ started, jmeterCall config prepared call.parameters = .ok started →
      (SeesSettings (jmeterSettings execution (extractShardMetadata call.parameters))
          (CommandLine.properties "-J" started.cmd) ↔
        RepeatsSettings (jmeterSettings execution (extractShardMetadata call.parameters))
          parameters) := by
  obtain ⟨executionEq, shardEq⟩ := prepare_metadata prepares
  rw [← shardEq]
  rw [← executionEq] at received
  constructor
  · intro started built
    obtain ⟨items, found, built⟩ := bind_ok_iff.mp built
    have itemsEq : parameters = items :=
      Except.ok.inj ((k6Items_of_asDict? object).symm.trans found)
    subst itemsEq
    cases built
    rw [received]
    exact k6_seesSettings_iff clean
  · intro started built
    exact jmeter_seesSettings_iff prepares object received built

/-- Validated settings are seen by both engines, whatever else is among the
parameters. -/
def SettingsPrevail : Prop :=
  ∀ (config : WorkerConfig) (call : ExecuteCall) (prepared : Prepared) (execution : Dict Json),
    (∃ x, ControlPlane.validateExecution x = .ok execution) →
    extractExecution call.parameters = some execution → prepare call = .ok prepared →
    (∀ key ∈ (executionEnvKeys ++ shardEnvKeys).map Prod.snd, config.environ.get? key = none) →
    (∀ started, k6Call config prepared call.parameters = .ok started →
      SeesSettings (k6Settings execution (extractShardMetadata call.parameters)) started.env) ∧
    ∀ started, jmeterCall config prepared call.parameters = .ok started →
      SeesSettings (jmeterSettings execution (extractShardMetadata call.parameters))
        (CommandLine.properties "-J" started.cmd)

end Precedence

/-! ### A JMeter run of twenty seconds -/

/-- The default settings of a JMeter run. -/
def twentySeconds : Dict Json :=
  ControlPlane.defaultExecutionForEngine "jmeter"

/-- A call with these settings and more parameters. -/
def jmeterRequest (others : List (String × Json)) : ExecuteCall where
  taskId := .str "7"
  engine := .str "jmeter"
  scriptPath := .str "engines/jmeter/target_apps_latency_delay.jmx"
  parameters := .obj (("execution", dictJson twentySeconds) :: others)

def jmeterPrepared : Prepared where
  taskId := "7"
  execution := some twentySeconds
  shardMetadata := none
  processTimeout := some 40
  fullScriptPath := "/app/engines/jmeter/target_apps_latency_delay.jmx"

/-- A free-form `duration_seconds` replaces the validated one. -/
theorem freeDuration_replaces : ¬ @SettingsPrevail asciiRuntime := by
  let _ := asciiRuntime
  intro prevail
  have seen := (prevail plainWorker (jmeterRequest [("duration_seconds", .int 3600)])
    jmeterPrepared twentySeconds ⟨dictJson twentySeconds, rfl⟩ rfl rfl (fun _ _ => rfl)).2 _ rfl
  have duration := seen ("duration_seconds", some "20") (by decide +kernel)
  exact absurd duration (by decide +kernel)

/-- Without further parameters both engines see the settings. -/
theorem plainParameters_prevail :
    (∀ started, @k6Call asciiRuntime plainWorker jmeterPrepared (jmeterRequest []).parameters =
        .ok started →
      SeesSettings (@k6Settings asciiRuntime twentySeconds none) started.env) ∧
    ∀ started, @jmeterCall asciiRuntime plainWorker jmeterPrepared (jmeterRequest []).parameters =
        .ok started →
      SeesSettings (@jmeterSettings asciiRuntime twentySeconds none)
        (CommandLine.properties "-J" started.cmd) := by
  let _ := asciiRuntime
  obtain ⟨k6_iff, jmeter_iff⟩ := settingsPrevail_iff plainWorker (jmeterRequest []) jmeterPrepared
    (Dict.ofItems [("execution", dictJson twentySeconds)]) twentySeconds rfl rfl rfl
    (fun _ _ => rfl)
  refine ⟨fun started built => (k6_iff started built).mpr ?_,
    fun started built => (jmeter_iff started built).mpr ?_⟩
  · intro setting mem null
    revert null
    revert setting
    decide +kernel
  · intro setting _ text defined
    have nothing : freeProperties (Dict.ofItems [("execution", dictJson twentySeconds)]) =
        Table.empty := rfl
    rw [nothing] at defined
    cases defined

end PLoadtesting.Worker
