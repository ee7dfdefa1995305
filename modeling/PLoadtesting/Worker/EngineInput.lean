import PLoadtesting.ControlPlane.Dispatch
import PLoadtesting.ControlPlane.Execution
import PLoadtesting.Worker.Agent

/-!
What an engine effectively reads from the call that the worker builds: k6 the
final environment, JMeter the last `-J` argument of each name.

The two branches put the parts together in opposite orders. For k6 the settings
are written over the free-form parameters (`get?_k6Environment`), so only a
setting that is null leaves room for a parameter of its name. For JMeter the
parameters come after the settings (`get?_jmeterProperties`), so any parameter
that defines a setting's property replaces it (`settingsPrevail_iff`).
-/

namespace PLoadtesting.Worker

open Keyed Python

/-! ### The mapped keys -/

theorem plain_of_mem_renamed {keys : List (String × String)} {read : String → Option String}
    (plain : ∀ key ∈ keys, '=' ∉ key.2.toList) :
    ∀ item ∈ Dict.renamed keys read, '=' ∉ item.1.toList := by
  rintro ⟨target, v⟩ mem
  obtain ⟨source, mem, _⟩ := Dict.mem_renamed.mp mem
  exact plain _ mem

theorem plain_executionJmeterKeys : ∀ key ∈ executionJmeterKeys, '=' ∉ key.2.toList := by decide

theorem plain_shardJmeterKeys : ∀ key ∈ shardJmeterKeys, '=' ∉ key.2.toList := by decide

theorem k6Keys_distinct : ((executionEnvKeys ++ shardEnvKeys).map Prod.snd).Nodup := by decide

theorem jmeterKeys_distinct : ((executionJmeterKeys ++ shardJmeterKeys).map Prod.snd).Nodup := by
  decide

/-! ### What the branches read first -/

/-- An object is read as its items, an empty one too. -/
theorem k6Items_of_asDict? {parameters : Json} {items : Dict Json}
    (object : parameters.asDict? = some items) : k6Items parameters = .ok items := by
  unfold k6Items
  split
  · rw [parameterItems, object]
  · rename_i falsy
    cases parameters with
    | obj entries =>
        have noEntries : entries = [] := by simpa [Json.truthy] using falsy
        subst noEntries
        rw [← Option.some.inj object]
        rfl
    | _ => cases object

/-- The script path of a prepared execution is absolute. -/
theorem fullScriptPath_absolute {scriptPath : Json} {path : String}
    (full : fullScriptPath scriptPath = .ok path) : ∃ rest, path.toList = '/' :: rest := by
  cases scriptPath with
  | str given =>
      cases full
      split
      · rename_i absolute
        obtain ⟨rest, eq⟩ := List.head?_eq_some_iff.mp absolute
        exact ⟨rest, eq⟩
      · exact ⟨'a' :: 'p' :: 'p' :: '/' :: given.toList, by rw [String.toList_append]; rfl⟩
  | _ => cases full

section EngineInput

variable [Runtime]

/-! ### The free-form parameters -/

theorem mem_freeParameters {parameters : Dict Json} {k v : String} :
    (k, v) ∈ freeParameters parameters ↔
      k ∉ workerMetadataParameterKeys ∧ ∃ value, parameters.get? k = some value ∧
        value.toStr = v := by
  simp only [freeParameters, List.mem_map, List.mem_filter, Prod.mk.injEq, Dict.get?_eq_some_iff,
    Table.mem_def]
  constructor
  · rintro ⟨⟨key, value⟩, ⟨mem, free⟩, rfl, rfl⟩
    exact ⟨by simpa using free, value, mem, rfl⟩
  · rintro ⟨free, value, mem, rfl⟩
    exact ⟨(k, value), ⟨mem, by simpa using free⟩, rfl, rfl⟩

theorem freeParameters_nodup (parameters : Dict Json) :
    ((freeParameters parameters).map Prod.fst).Nodup := by
  have keys : (freeParameters parameters).map Prod.fst =
      (parameters.rows.filter fun p => !workerMetadataParameterKeys.contains p.1).map
        Prod.fst := by
    simp [freeParameters, Function.comp_def]
  rw [keys]
  exact parameters.keysNodup.sublist (List.filter_sublist.map _)

/-- A parameter is handed on under its own name unless it is metadata. -/
theorem get?_ofItems_freeParameters {parameters : Dict Json} {k : String}
    (free : k ∉ workerMetadataParameterKeys) :
    (Dict.ofItems (freeParameters parameters)).get? k = (parameters.get? k).map Json.toStr := by
  ext v
  rw [Dict.get?_eq_some_iff, Dict.mem_ofItems_of_nodup (freeParameters_nodup parameters),
    mem_freeParameters, Option.map_eq_some_iff]
  exact and_iff_right free

/-! ### The environment of k6 -/

theorem get?_k6Environment (environ : Dict String) (parameters : Dict Json)
    (execution shardMetadata : Option (Dict Json)) (k : String) :
    (k6Environment environ parameters execution shardMetadata).get? k =
      (((Dict.ofItems (shardEnv shardMetadata)).get? k).or
        ((Dict.ofItems (executionEnv execution)).get? k)).or
        (((Dict.ofItems (freeParameters parameters)).get? k).or (environ.get? k)) := by
  rw [k6Environment, Dict.get?_update_ofItems, Dict.get?_update_ofItems,
    Dict.get?_update_ofItems, Option.or_assoc]

/-- Without settings nothing is set, as with empty ones. -/
theorem executionEnv_eq (execution : Option (Dict Json)) : executionEnv execution =
    Dict.renamed executionEnvKeys (text? (execution.getD Table.empty)) := by
  cases execution with
  | none => rfl
  | some execution => rfl

/-! ### The properties of JMeter -/

/-- The properties that the free-form parameters define. A key is cut at its
first `=`, and of several keys with one name the last one counts. -/
def freeProperties (parameters : Dict Json) : Dict String :=
  Dict.ofItems ((jmeterParameters parameters).map fun item =>
    (CommandLine.nameOf item.1, CommandLine.valueOf item.1 item.2))

/-- The entries that define a property count, the last one of them. -/
theorem get?_freeProperties (parameters : Dict Json) (name : String) :
    (freeProperties parameters).get? name =
      (((parameters.rows.filter fun p => decide (CommandLine.nameOf p.1 = name)).reverse.find?
        fun p => !workerMetadataParameterKeys.contains p.1 && decide (p.1 ≠ "target_url"))).map
        fun p => CommandLine.valueOf p.1 p.2.toStr := by
  rw [freeProperties, Dict.get?_ofItems]
  simp only [jmeterParameters, freeParameters, List.filter_map, List.map_map, List.filter_filter,
    ← List.map_reverse, ← List.filter_reverse, List.find?_map, List.find?_filter, Option.map_map,
    Function.comp_def]
  congr 2
  funext p
  grind

/-- Properties of other names are not touched by a write. -/
theorem freeProperties_written {keys : List String} {parameters parameters' : Dict Json}
    (w : Dict.Written keys parameters parameters') {name : String}
    (others : ∀ k ∈ keys, CommandLine.nameOf k ≠ name) :
    (freeProperties parameters').get? name = (freeProperties parameters).get? name := by
  have kept := w.filter_rows_eq (fun k => decide (CommandLine.nameOf k = name))
    fun k mem => decide_eq_false (others k mem)
  rw [get?_freeProperties, get?_freeProperties, kept]

/-- The execution settings as JMeter properties. -/
def executionProperties (execution : Option (Dict Json)) : List (String × String) :=
  Dict.renamed executionJmeterKeys (text? (execution.getD Table.empty))

theorem executionJmeterProperties_eq (execution : Option (Dict Json)) :
    executionJmeterProperties execution = jmeterArguments (executionProperties execution) := by
  cases execution with
  | none => rfl
  | some execution => rfl

theorem plain_executionProperties (execution : Option (Dict Json)) :
    ∀ item ∈ executionProperties execution, '=' ∉ item.1.toList :=
  plain_of_mem_renamed plain_executionJmeterKeys

/-- The target of a JMeter run defines the host and the port, or nothing. -/
theorem mem_jmeterTarget {targetUrl : Json} {target : List (String × String)}
    (read : jmeterTarget targetUrl = .ok target) :
    ∀ item ∈ target, item.1 = "TARGET_HOST" ∨ item.1 = "TARGET_PORT" := by
  unfold jmeterTarget at read
  split at read
  · split at read
    · obtain ⟨parsed, _, read⟩ := bind_ok_iff.mp read
      obtain ⟨port, _, read⟩ := bind_ok_iff.mp read
      cases read
      simp
    · cases read
  · cases read
    simp

theorem plain_jmeterTarget {targetUrl : Json} {target : List (String × String)}
    (read : jmeterTarget targetUrl = .ok target) :
    ∀ item ∈ target, '=' ∉ item.1.toList := by
  intro item mem
  rcases mem_jmeterTarget read item mem with name | name
  · rw [name]
    decide
  · rw [name]
    decide

/-- The parts in the order in which they win: parameters, shard, execution,
target. -/
theorem get?_jmeterProperties {target : List (String × String)}
    (plainTarget : ∀ item ∈ target, '=' ∉ item.1.toList) (parameters : Dict Json)
    (execution shardMetadata : Option (Dict Json)) (k : String) :
    (CommandLine.properties "-J" (jmeterProperties target parameters execution shardMetadata)).get?
        k =
      ((freeProperties parameters).get? k).or
        ((((Dict.ofItems (Dict.renamed shardJmeterKeys
          (text? (shardValues shardMetadata)))).get? k).or
          ((Dict.ofItems (executionProperties execution)).get? k)).or
          ((Dict.ofItems target).get? k)) := by
  have shardPlain : ∀ item ∈ Dict.renamed shardJmeterKeys (text? (shardValues shardMetadata)),
      '=' ∉ item.1.toList := plain_of_mem_renamed plain_shardJmeterKeys
  rw [jmeterProperties, CommandLine.properties_append, CommandLine.properties_append,
    CommandLine.properties_append, executionJmeterProperties_eq, shardJmeterProperties]
  simp only [jmeterArguments]
  rw [CommandLine.properties_define, CommandLine.properties_define_plain _ _ shardPlain,
    CommandLine.properties_define_plain _ _ (plain_executionProperties execution),
    CommandLine.properties_define_plain _ _ plainTarget, Option.or_assoc]
  rfl

/-- The arguments before the properties define nothing. -/
theorem properties_jmeterCommand {call : ExecuteCall} {prepared : Prepared}
    (prepares : prepare call = .ok prepared) :
    CommandLine.properties "-J" (jmeterCommand prepared) = Table.empty := by
  have absolute : ∃ rest, prepared.fullScriptPath.toList = '/' :: rest := by
    obtain ⟨_, _, prepares⟩ := bind_ok_iff.mp prepares
    obtain ⟨path, full, prepares⟩ := bind_ok_iff.mp prepares
    cases prepares
    exact fullScriptPath_absolute full
  obtain ⟨rest, path⟩ := absolute
  apply CommandLine.properties_other
  intro argument mem
  simp only [jmeterCommand, List.mem_cons, List.not_mem_nil, or_false] at mem
  rcases mem with rfl | rfl | rfl | rfl | rfl | rfl | rfl | rfl
  · decide
  · decide
  · decide
  · rw [path]
    rfl
  · decide
  · rw [String.toList_append, String.toList_append]
    rfl
  · decide
  · rw [String.toList_append, String.toList_append]
    rfl

/-- What JMeter reads from a call that was built. -/
theorem get?_properties_jmeterCall {config : WorkerConfig} {call : ExecuteCall}
    {prepared : Prepared} {started : EngineCall} {parameters : Dict Json}
    (prepares : prepare call = .ok prepared) (object : call.parameters.asDict? = some parameters)
    (built : jmeterCall config prepared call.parameters = .ok started) (k : String) :
    ∃ target, jmeterTarget ((parameters.get? "target_url").getD .null) = .ok target ∧
      (CommandLine.properties "-J" started.cmd).get? k =
        ((freeProperties parameters).get? k).or
          ((((Dict.ofItems (Dict.renamed shardJmeterKeys
            (text? (shardValues prepared.shardMetadata)))).get? k).or
            ((Dict.ofItems (executionProperties prepared.execution)).get? k)).or
            ((Dict.ofItems target).get? k)) := by
  obtain ⟨items, found, built⟩ := bind_ok_iff.mp built
  simp only [parameterItems, object, Except.ok.injEq] at found
  subst found
  obtain ⟨target, read, built⟩ := bind_ok_iff.mp built
  cases built
  refine ⟨target, read, ?_⟩
  rw [CommandLine.properties_append, properties_jmeterCommand prepares,
    get?_jmeterProperties (plain_jmeterTarget read), Dict.get?_empty, Option.or_none]

/-! ### Settings and the keys they are mapped to -/

/-- The settings under their mapped keys. Shard settings are there when there is
shard metadata. -/
def mappedSettings (executionKeys shardKeys : List (String × String)) (execution : Dict Json)
    (shardMetadata : Option (Dict Json)) : List (String × Option String) :=
  executionKeys.map (fun key => (key.2, text? execution key.1)) ++
    match shardMetadata with
    | none => []
    | some shard => shardKeys.map fun key => (key.2, text? (shardValues (some shard)) key.1)

def k6Settings : Dict Json → Option (Dict Json) → List (String × Option String) :=
  mappedSettings executionEnvKeys shardEnvKeys

def jmeterSettings : Dict Json → Option (Dict Json) → List (String × Option String) :=
  mappedSettings executionJmeterKeys shardJmeterKeys

/-- Where the target keys are distinct, the two parts together hold the
settings. -/
theorem get?_settings {executionKeys shardKeys : List (String × String)}
    (distinct : ((executionKeys ++ shardKeys).map Prod.snd).Nodup) (execution : Dict Json)
    (shardMetadata : Option (Dict Json)) {key : String} {setting : Option String}
    (mem : (key, setting) ∈ mappedSettings executionKeys shardKeys execution shardMetadata) :
    ((Dict.ofItems (Dict.renamed shardKeys (text? (shardValues shardMetadata)))).get? key).or
      ((Dict.ofItems (Dict.renamed executionKeys (text? execution))).get? key) = setting := by
  rw [List.map_append, List.nodup_append] at distinct
  obtain ⟨executionDistinct, shardDistinct, apart⟩ := distinct
  rcases List.mem_append.mp mem with mem | mem
  · obtain ⟨mapped, mappedMem, eq⟩ := List.mem_map.mp mem
    cases eq
    have noShard : mapped.2 ∉ shardKeys.map Prod.snd := by
      intro shardKey
      exact apart _ (List.mem_map_of_mem mappedMem) _ shardKey rfl
    rw [Dict.get?_ofItems_renamed_eq_none noShard, Option.none_or,
      Dict.get?_ofItems_renamed executionDistinct _ mappedMem]
  · cases shardMetadata with
    | none => cases mem
    | some shard =>
        obtain ⟨mapped, mappedMem, eq⟩ := List.mem_map.mp mem
        cases eq
        have noExecution : mapped.2 ∉ executionKeys.map Prod.snd := by
          intro executionKey
          exact apart _ executionKey _ (List.mem_map_of_mem mappedMem) rfl
        rw [Dict.get?_ofItems_renamed_eq_none noExecution, Option.or_none,
          Dict.get?_ofItems_renamed shardDistinct _ mappedMem]

/-- Other names hold no setting. -/
theorem get?_settings_none {executionKeys shardKeys : List (String × String)} {key : String}
    (unmapped : key ∉ (executionKeys ++ shardKeys).map Prod.snd) (execution : Dict Json)
    (shardMetadata : Option (Dict Json)) :
    ((Dict.ofItems (Dict.renamed shardKeys (text? (shardValues shardMetadata)))).get? key).or
      ((Dict.ofItems (Dict.renamed executionKeys (text? execution))).get? key) = none := by
  rw [List.map_append, List.mem_append, not_or] at unmapped
  rw [Dict.get?_ofItems_renamed_eq_none unmapped.2, Option.none_or,
    Dict.get?_ofItems_renamed_eq_none unmapped.1]

theorem mappedSettings_key {executionKeys shardKeys : List (String × String)}
    {execution : Dict Json} {shardMetadata : Option (Dict Json)} {key : String}
    {setting : Option String}
    (mem : (key, setting) ∈ mappedSettings executionKeys shardKeys execution shardMetadata) :
    key ∈ (executionKeys ++ shardKeys).map Prod.snd := by
  rw [List.map_append]
  rcases List.mem_append.mp mem with mem | mem
  · obtain ⟨mapped, mappedMem, eq⟩ := List.mem_map.mp mem
    cases eq
    exact List.mem_append_left _ (List.mem_map_of_mem mappedMem)
  · cases shardMetadata with
    | none => cases mem
    | some shard =>
        obtain ⟨mapped, mappedMem, eq⟩ := List.mem_map.mp mem
        cases eq
        exact List.mem_append_right _ (List.mem_map_of_mem mappedMem)

end EngineInput

/-! ### The request of the Control Plane -/

/-- An accepted request of the dispatcher is executed as it was sent. -/
theorem executeEndpoint_payload {config : WorkerConfig} {headers : RequestHeaders}
    {request : ControlPlane.ExecuteRequest} {call : ExecuteCall}
    (accepted : executeEndpoint config headers request.payload = .accepted call) :
    call = ⟨.str request.taskId, .str request.engine, .str request.scriptPath,
      dictJson request.parameters⟩ := by
  simp only [executeEndpoint, ControlPlane.ExecuteRequest.payload, Json.asDict?] at accepted
  split at accepted
  · split at accepted
    · cases accepted
    · split at accepted
      · cases accepted
      · cases accepted
        rfl
  · cases accepted

end PLoadtesting.Worker
