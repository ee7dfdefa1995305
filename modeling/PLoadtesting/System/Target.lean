import PLoadtesting.ControlPlane.DemoAccess
import PLoadtesting.Worker.EngineInput
import PLoadtesting.Worker.Reports

/-!
The target of a run, from the create request to the engine.

The URL of a task travels under three names: `target_url` is written into the
parameters by `validate` when there is a template, `TARGET_URL` by the dispatcher
when it is not there yet, and the worker makes `TARGET_HOST` and `TARGET_PORT` of
`target_url` for JMeter. A request without parameters of its own leaves the
template's among them. The engine is given the task's URL exactly when these do
not say otherwise (`effectiveTarget_iff`), and for JMeter only when there is a
template at all.
-/

namespace PLoadtesting.System

open Keyed Python ControlPlane Worker

/-! ### The keys the system writes -/

/-- The keys that validation, creation and the demo mark write. -/
def systemKeys : List String :=
  ["target_app_id", "target_profile_id", "execution", "distribution", "shard_execution_plan",
    "task_operation_mode"]

section Writes

variable {keys : List String} {d e : Dict Json}

theorem written_setIfSome (w : Dict.Written keys d e) {key : String} (mem : key ∈ keys)
    (value : Option Json) : Dict.Written keys d (setIfSome e key value) := by
  cases value with
  | none => exact w
  | some value => exact w.set mem value

theorem written_setTemplateIds (w : Dict.Written keys d e) (app : "target_app_id" ∈ keys)
    (profile : "target_profile_id" ∈ keys) (attrs : Attrs) :
    Dict.Written keys d (setTemplateIds attrs e) := by
  unfold setTemplateIds
  split
  · split
    · exact (w.set app _).set profile _
    · exact w.set app _
  · split
    · exact w.set profile _
    · exact w

theorem written_storedParameters {data : ValidatedData} (w : Dict.Written keys d data.parameters)
    (plan : "shard_execution_plan" ∈ keys) (id : TaskId) :
    Dict.Written keys d (data.storedParameters id) := by
  unfold ValidatedData.storedParameters
  split
  · split
    · exact w.set plan _
    · exact w
  · exact w

theorem written_setdefault (w : Dict.Written keys d e) {key : String} (mem : key ∈ keys)
    (value : Json) : Dict.Written keys d (e.setdefault key value) := by
  unfold Dict.setdefault
  split
  · exact w
  · exact w.set mem value

end Writes

theorem targetUrl_unmapped : "TARGET_URL" ∉ (executionEnvKeys ++ shardEnvKeys).map Prod.snd := by
  decide

theorem nameOf_systemKeys {k : String} (mem : k ∈ "TARGET_URL" :: "target_url" :: systemKeys) :
    CommandLine.nameOf k ≠ "TARGET_HOST" ∧ CommandLine.nameOf k ≠ "TARGET_PORT" := by
  have plain : ∀ k ∈ "TARGET_URL" :: "target_url" :: systemKeys,
      '=' ∉ k.toList ∧ k ≠ "TARGET_HOST" ∧ k ≠ "TARGET_PORT" := by decide
  obtain ⟨noSign, notHost, notPort⟩ := plain k mem
  rw [CommandLine.nameOf_of_not_mem noSign]
  exact ⟨notHost, notPort⟩

theorem target_unmapped : ∀ k ∈ ["TARGET_HOST", "TARGET_PORT"],
    k ∉ (executionJmeterKeys ++ shardJmeterKeys).map Prod.snd := by decide

/-- The port that the worker computes is the URL's unless that is 0. -/
theorem port_eq_iff {port : Option Nat} {scheme : String} :
    toString (if port.getD 0 = 0 then if scheme = "https" then 443 else 80 else port.getD 0) =
        toString (port.getD (if scheme = "https" then 443 else 80)) ↔
      port.getD (if scheme = "https" then 443 else 80) ≠ 0 := by
  have default : (if scheme = "https" then 443 else 80) ≠ 0 := by
    split
    · decide
    · decide
  cases port with
  | none => exact iff_of_true rfl default
  | some n =>
      by_cases zero : n = 0
      · subst zero
        refine iff_of_false ?_ (fun nonzero => nonzero rfl)
        rw [Option.getD_some, if_pos rfl]
        split
        · decide
        · decide
      · rw [Option.getD_some, if_neg zero]
        exact iff_of_true rfl zero

section Target

variable [Runtime]

/-! ### The stages -/

/-- The engine process that a worker starts for a stored task: the dispatcher's
request, what the endpoint accepts of it, and the call of the engine's branch. -/
def engineCall (config : WorkerConfig) (headers : RequestHeaders) (row : LoadTestTask) :
    Option EngineCall :=
  match executeRequest row with
  | .error _ => none
  | .ok request =>
      match executeEndpoint config headers request.payload with
      | .accepted call => startedCall config call
      | _ => none

variable {catalog : Catalog} {attrs : Attrs} {data : ValidatedData}
  {template : Option TaskTemplate} {execution : Option (Dict Json)} {distribution : Option Json}
  {id : TaskId} {row : LoadTestTask}

/-- The stored parameters are the free-form ones, written over under the
system's keys. -/
theorem storedRow_written (v : Validated catalog attrs data template execution distribution)
    (stored : StoredRow data id row) :
    ∃ parameters, row.parameters = dictJson parameters ∧
      Dict.Written systemKeys (freeForm template attrs data.targetUrl) parameters := by
  obtain ⟨mark, parameters⟩ := stored.marked
  refine ⟨_, parameters, ?_⟩
  apply written_setIfSome _ (by decide)
  apply written_storedParameters _ (by decide)
  rw [v.parameters_eq]
  apply written_setIfSome _ (by decide)
  apply written_setIfSome _ (by decide)
  exact written_setTemplateIds .refl (by decide) (by decide) attrs

/-- What the dispatcher sends for a stored row. -/
theorem executeRequest_storedRow
    (v : Validated catalog attrs data template execution distribution)
    (stored : StoredRow data id row) {request : ExecuteRequest}
    (sent : executeRequest row = .ok request) :
    request.engine = row.engine ∧ ∃ parameters,
      Dict.Written systemKeys (freeForm template attrs data.targetUrl) parameters ∧
      request.parameters = parameters.setdefault "TARGET_URL" (.str row.targetUrl) := by
  obtain ⟨parameters, rowParameters, written⟩ := storedRow_written v stored
  have hasUrl : row.targetUrl ≠ "" := by
    rw [stored.targetUrl_eq]
    exact v.targetUrl_ne
  obtain ⟨read, readEq, sent⟩ := bind_ok_iff.mp sent
  rw [rowParameters, toDict_orEmpty_dictJson] at readEq
  cases readEq
  cases sent
  exact ⟨rfl, parameters, written, by simp only [if_pos hasUrl]⟩

/-- The engine's call, with the parameters it was built from. -/
theorem engineCall_cases (v : Validated catalog attrs data template execution distribution)
    (stored : StoredRow data id row) {config : WorkerConfig} {headers : RequestHeaders}
    {started : EngineCall} (starts : engineCall config headers row = some started) :
    ∃ call prepared parameters,
      Dict.Written systemKeys (freeForm template attrs data.targetUrl) parameters ∧
      call.parameters.asDict? = some (parameters.setdefault "TARGET_URL" (.str row.targetUrl)) ∧
      prepare call = .ok prepared ∧
      ((row.engine = "k6" ∧ k6Call config prepared call.parameters = .ok started) ∨
        (row.engine = "jmeter" ∧ jmeterCall config prepared call.parameters = .ok started)) := by
  unfold engineCall at starts
  split at starts
  · cases starts
  · rename_i request sent
    split at starts
    · rename_i call accepted
      obtain ⟨engine, parameters, written, sentParameters⟩ :=
        executeRequest_storedRow v stored sent
      obtain ⟨prepared, prepares, branch⟩ := startedCall_cases starts
      have callEq := executeEndpoint_payload accepted
      refine ⟨call, prepared, parameters, written, ?_, prepares, ?_⟩
      · rw [callEq, asDict?_dictJson, sentParameters]
      · rcases branch with ⟨isK6, built⟩ | ⟨isJmeter, built⟩
        · rw [callEq, Json.str.injEq, engine] at isK6
          exact .inl ⟨isK6, built⟩
        · rw [callEq, Json.str.injEq, engine] at isJmeter
          exact .inr ⟨isJmeter, built⟩
    · cases starts

/-- The parameters of the template, if there is one. -/
def templateParameters (template : Option TaskTemplate) : Dict Json :=
  (template.map (·.parameters)).getD Table.empty

/-- Without parameters of its own a request has the template's, with the URL
written over them. -/
theorem written_freeForm (noOwn : attrs.ownItems = []) (template : Option TaskTemplate)
    (targetUrl : String) : Dict.Written ["target_url"] (templateParameters template)
      (freeForm template attrs targetUrl) := by
  cases template with
  | none =>
      rw [freeForm, noOwn]
      exact .refl
  | some template =>
      rw [freeForm, noOwn]
      exact Dict.Written.refl.set List.mem_cons_self _

/-- The URL is there when there is a template. -/
theorem freeForm_targetUrl (noOwn : attrs.ownItems = []) (template : Option TaskTemplate)
    (targetUrl : String) : (freeForm template attrs targetUrl).get? "target_url" =
      template.map fun _ => .str targetUrl := by
  cases template with
  | none =>
      rw [freeForm, noOwn]
      rfl
  | some template => simp [freeForm]

/-! ### k6 -/

/-- The template does not set `TARGET_URL`, or sets it to the URL. -/
def RepeatsUrl (template : Option TaskTemplate) (targetUrl : String) : Prop :=
  ∀ value ∈ (templateParameters template).get? "TARGET_URL", value.toStr = targetUrl

theorem k6Call_targetUrl {config : WorkerConfig} {call : ExecuteCall} {prepared : Prepared}
    {started : EngineCall} {parameters : Dict Json} {targetUrl : String}
    (noOwn : attrs.ownItems = [])
    (written : Dict.Written systemKeys (freeForm template attrs targetUrl) parameters)
    (object : call.parameters.asDict? =
      some (parameters.setdefault "TARGET_URL" (.str targetUrl)))
    (built : k6Call config prepared call.parameters = .ok started) :
    started.env.get? "TARGET_URL" = some targetUrl ↔ RepeatsUrl template targetUrl := by
  obtain ⟨items, found, built⟩ := bind_ok_iff.mp built
  cases (k6Items_of_asDict? object).symm.trans found
  cases built
  have kept : parameters.get? "TARGET_URL" = (templateParameters template).get? "TARGET_URL" := by
    rw [written.get?_eq (by decide),
      (written_freeForm noOwn template targetUrl).get?_eq (by decide)]
  rw [get?_k6Environment, executionEnv_eq, shardEnv,
    get?_settings_none targetUrl_unmapped, Option.none_or,
    get?_ofItems_freeParameters (by decide), Dict.get?_setdefault, if_pos rfl, kept, RepeatsUrl]
  cases (templateParameters template).get? "TARGET_URL" with
  | none => simp
  | some value => simp

/-! ### JMeter -/

/-- The host and the port of a URL. Without a port it is the one of the
scheme. -/
def urlTarget (url : String) : Option (String × Nat) :=
  match Url.urlsplit url with
  | .error _ => none
  | .ok parsed =>
      match parsed.hostname, parsed.port with
      | some host, .ok port =>
          some (host, port.getD (if parsed.scheme = "https" then 443 else 80))
      | _, _ => none

/-- The effective host and port are those of the URL. -/
def SeesTarget (seen : Dict String) (targetUrl : String) : Prop :=
  ∃ host port, urlTarget targetUrl = some (host, port) ∧
    seen.get? "TARGET_HOST" = some host ∧ seen.get? "TARGET_PORT" = some (toString port)

/-- There is a template and the URL has a host, and what the template's
parameters define as the host and the port, if anything, are those of the URL. A
port 0 counts as missing, so it has to be defined by the template. -/
def RepeatsTarget (template : Option TaskTemplate) (targetUrl : String) : Prop :=
  ∃ t ∈ template, ∃ host port, urlTarget targetUrl = some (host, port) ∧
    (∀ text ∈ (freeProperties t.parameters).get? "TARGET_HOST", text = host) ∧
    match (freeProperties t.parameters).get? "TARGET_PORT" with
    | some text => text = toString port
    | none => port ≠ 0

/-- The properties of the target URL. -/
theorem jmeterTarget_ok {targetUrl : String} (hasUrl : targetUrl ≠ "")
    {target : List (String × String)} (read : jmeterTarget (.str targetUrl) = .ok target) :
    ∃ parsed port, Url.urlsplit targetUrl = .ok parsed ∧ parsed.port = .ok port ∧
      (Dict.ofItems target).get? "TARGET_HOST" = some (parsed.hostname.getD "None") ∧
      (Dict.ofItems target).get? "TARGET_PORT" = some (toString
        (if port.getD 0 = 0 then if parsed.scheme = "https" then 443 else 80
          else port.getD 0)) := by
  have truthy : (Json.str targetUrl).truthy = true := by simpa [Json.truthy] using hasUrl
  rw [jmeterTarget, if_pos truthy] at read
  obtain ⟨parsed, split, read⟩ := bind_ok_iff.mp read
  obtain ⟨port, portEq, read⟩ := bind_ok_iff.mp read
  cases read
  refine ⟨parsed, port, split, portEq, ?_, ?_⟩
  · simp [Dict.get?_ofItems]
  · simp [Dict.get?_ofItems]

/-- What JMeter sees of the target: the template's properties, else those of the
URL, which is sent only when there is a template. -/
theorem jmeterCall_seen {config : WorkerConfig} {call : ExecuteCall} {prepared : Prepared}
    {started : EngineCall} {parameters : Dict Json} {targetUrl : String}
    (noOwn : attrs.ownItems = [])
    (written : Dict.Written systemKeys (freeForm template attrs targetUrl) parameters)
    (object : call.parameters.asDict? =
      some (parameters.setdefault "TARGET_URL" (.str targetUrl)))
    (prepares : prepare call = .ok prepared)
    (built : jmeterCall config prepared call.parameters = .ok started) :
    ∃ target, jmeterTarget ((template.map fun _ => Json.str targetUrl).getD .null) = .ok target ∧
      ∀ k ∈ ["TARGET_HOST", "TARGET_PORT"],
        (CommandLine.properties "-J" started.cmd).get? k =
          ((freeProperties (templateParameters template)).get? k).or
            ((Dict.ofItems target).get? k) := by
  have sent : Dict.Written ("TARGET_URL" :: systemKeys) (freeForm template attrs targetUrl)
      (parameters.setdefault "TARGET_URL" (.str targetUrl)) :=
    written_setdefault (written.mono (List.subset_cons_self _ _)) List.mem_cons_self _
  have url : (parameters.setdefault "TARGET_URL" (.str targetUrl)).get? "target_url" =
      template.map fun _ => Json.str targetUrl := by
    rw [sent.get?_eq (by decide), freeForm_targetUrl noOwn]
  obtain ⟨target, read, _⟩ := get?_properties_jmeterCall prepares object built "TARGET_HOST"
  refine ⟨target, by rwa [url] at read, ?_⟩
  intro k mem
  obtain ⟨target', read', seen⟩ := get?_properties_jmeterCall prepares object built k
  cases read.symm.trans read'
  have others : ∀ key ∈ "TARGET_URL" :: "target_url" :: systemKeys,
      CommandLine.nameOf key ≠ k := by
    intro key keyMem same
    obtain ⟨notHost, notPort⟩ := nameOf_systemKeys keyMem
    simp only [List.mem_cons, List.not_mem_nil, or_false] at mem
    rcases mem with rfl | rfl
    · exact notHost same
    · exact notPort same
  have fromTemplate : Dict.Written ("TARGET_URL" :: "target_url" :: systemKeys)
      (templateParameters template) (parameters.setdefault "TARGET_URL" (.str targetUrl)) := by
    exact ((written_freeForm noOwn template targetUrl).mono (by decide)).trans
      (sent.mono (by decide))
  rw [seen, executionProperties, get?_settings_none (target_unmapped k mem), Option.none_or,
    freeProperties_written fromTemplate others]

theorem jmeterCall_target {config : WorkerConfig} {call : ExecuteCall} {prepared : Prepared}
    {started : EngineCall} {parameters : Dict Json} {targetUrl : String} (hasUrl : targetUrl ≠ "")
    (noOwn : attrs.ownItems = [])
    (written : Dict.Written systemKeys (freeForm template attrs targetUrl) parameters)
    (object : call.parameters.asDict? =
      some (parameters.setdefault "TARGET_URL" (.str targetUrl)))
    (prepares : prepare call = .ok prepared)
    (built : jmeterCall config prepared call.parameters = .ok started) :
    SeesTarget (CommandLine.properties "-J" started.cmd) targetUrl ↔
      RepeatsTarget template targetUrl := by
  obtain ⟨target, read, seen⟩ := jmeterCall_seen noOwn written object prepares built
  have seenHost := seen "TARGET_HOST" (by simp)
  have seenPort := seen "TARGET_PORT" (by simp)
  rw [SeesTarget, RepeatsTarget, seenHost, seenPort]
  cases template with
  | none =>
      cases read
      refine iff_of_false ?_ ?_
      · rintro ⟨_, _, _, defined, _⟩
        cases defined
      · rintro ⟨_, noTemplate, _⟩
        cases noTemplate
  | some t =>
      obtain ⟨parsed, port, split, portEq, hostProperty, portProperty⟩ :=
        jmeterTarget_ok hasUrl read
      have same : templateParameters (some t) = t.parameters := rfl
      rw [same, hostProperty, portProperty]
      cases hostname : parsed.hostname with
      | none =>
          have noTarget : urlTarget targetUrl = none := by simp [urlTarget, split, hostname]
          simp [noTarget]
      | some host =>
          have found : urlTarget targetUrl =
              some (host, port.getD (if parsed.scheme = "https" then 443 else 80)) := by
            simp [urlTarget, split, hostname, portEq]
          have host_iff : ((freeProperties t.parameters).get? "TARGET_HOST").or (some host) =
              some host ↔ ∀ text ∈ (freeProperties t.parameters).get? "TARGET_HOST",
                text = host := by
            cases (freeProperties t.parameters).get? "TARGET_HOST" with
            | none => simp
            | some text => simp
          have port_iff : ((freeProperties t.parameters).get? "TARGET_PORT").or
                (some (toString (if port.getD 0 = 0 then if parsed.scheme = "https" then 443 else 80
                  else port.getD 0))) =
              some (toString (port.getD (if parsed.scheme = "https" then 443 else 80))) ↔
              match (freeProperties t.parameters).get? "TARGET_PORT" with
              | some text =>
                  text = toString (port.getD (if parsed.scheme = "https" then 443 else 80))
              | none => port.getD (if parsed.scheme = "https" then 443 else 80) ≠ 0 := by
            cases (freeProperties t.parameters).get? "TARGET_PORT" with
            | none => rw [Option.none_or, Option.some.injEq, port_eq_iff]
            | some text => simp
          rw [found, Option.getD_some]
          constructor
          · rintro ⟨_, _, ⟨⟩, hostSeen, portSeen⟩
            exact ⟨t, rfl, _, _, rfl, host_iff.mp hostSeen, port_iff.mp portSeen⟩
          · rintro ⟨_, ⟨⟩, _, _, foundEq, hostFree, portFree⟩
            cases foundEq
            exact ⟨_, _, rfl, host_iff.mpr hostFree, port_iff.mpr portFree⟩

/-! ### From the create request to the engine -/

/-- For every task that a creation stores for a request without parameters of
its own, and every engine process that a worker starts for it: k6 is given the
task's URL if and only if the template does not set `TARGET_URL` to another one,
and JMeter its host and port if and only if there is a template whose parameters
define no other ones, and the URL has a host. -/
theorem effectiveTarget_iff (deployment : Deployment) (headers : Headers) (db : Database)
    (body : Json) (occasion : Occasion) (attrs : Attrs) (row : LoadTestTask)
    (config : WorkerConfig) (workerHeaders : RequestHeaders) (started : EngineCall)
    (passes : PassesValidation deployment body attrs) (noOwn : attrs.ownItems = [])
    (fresh : db.tasks.find? occasion.id = none)
    (found : (createTask deployment headers db body occasion).2.tasks.find? occasion.id = some row)
    (starts : engineCall config workerHeaders row = some started) :
    (row.engine = "k6" → (started.env.get? "TARGET_URL" = some row.targetUrl ↔
      RepeatsUrl (templateOf deployment.catalog attrs) row.targetUrl)) ∧
    (row.engine = "jmeter" →
      (SeesTarget (CommandLine.properties "-J" started.cmd) row.targetUrl ↔
        RepeatsTarget (templateOf deployment.catalog attrs) row.targetUrl)) := by
  obtain ⟨attrs', data, accepts, stored⟩ := createTask_storedRow fresh found
  obtain ⟨_, passes⟩ := passes
  cases accepts.read.symm.trans passes.read
  obtain ⟨template, execution, distribution, v⟩ := validate_ok accepts.validated
  obtain ⟨call, prepared, parameters, written, object, prepares, branch⟩ :=
    engineCall_cases v stored starts
  have hasUrl : row.targetUrl ≠ "" := by
    rw [stored.targetUrl_eq]
    exact v.targetUrl_ne
  rw [← stored.targetUrl_eq] at written
  rw [v.templateOf_eq]
  constructor
  · intro isK6
    rcases branch with ⟨_, built⟩ | ⟨isJmeter, _⟩
    · exact k6Call_targetUrl noOwn written object built
    · exact absurd (isK6.symm.trans isJmeter) (by decide)
  · intro isJmeter
    rcases branch with ⟨isK6, _⟩ | ⟨_, built⟩
    · exact absurd (isK6.symm.trans isJmeter) (by decide)
    · exact jmeterCall_target hasUrl noOwn written object prepares built

/-- Every task that is created without parameters of its own is run against its
own target. -/
def TargetKept : Prop :=
  ∀ (deployment : Deployment) (headers : Headers) (db : Database) (body : Json)
    (occasion : Occasion) (attrs : Attrs) (row : LoadTestTask) (config : WorkerConfig)
    (workerHeaders : RequestHeaders) (started : EngineCall),
    PassesValidation deployment body attrs → attrs.parameters = none →
    db.tasks.find? occasion.id = none →
    (createTask deployment headers db body occasion).2.tasks.find? occasion.id = some row →
    engineCall config workerHeaders row = some started →
    (row.engine = "k6" → started.env.get? "TARGET_URL" = some row.targetUrl) ∧
      (row.engine = "jmeter" →
        SeesTarget (CommandLine.properties "-J" started.cmd) row.targetUrl)

end Target

/-! ### The shipped smoke profile, with and without another URL -/

/-- The smoke profile, with further fields. -/
def echoRequest (others : List (String × Json)) : Json :=
  .obj ([("target_app_id", .str "echo-api"), ("target_profile_id", .str "echo-k6-smoke")] ++ others)

/-- What the creation stores for it. -/
def echoRow (others : List (String × Json)) : Option LoadTestTask :=
  (@createTask asciiRuntime demoDeployment tokenHeaders emptyDatabase (echoRequest others)
    firstOccasion).2.tasks.find? "t"

/-- The process that a worker starts for it. -/
def echoCall (others : List (String × Json)) : Option EngineCall :=
  (echoRow others).bind (@engineCall asciiRuntime plainWorker ⟨some "secret", none⟩)

/-- A task is stored for it, and a k6 process is started. -/
theorem echo_run (others : List (String × Json))
    (runs : (echoRow others).any (fun row => decide (row.engine = "k6")) = true)
    (starts : (echoCall others).isSome = true) :
    ∃ attrs row started, @PassesValidation asciiRuntime demoDeployment (echoRequest others) attrs ∧
      echoRow others = some row ∧ row.engine = "k6" ∧ echoCall others = some started ∧
      @engineCall asciiRuntime plainWorker ⟨some "secret", none⟩ row = some started := by
  obtain ⟨row, found, engine⟩ := (Option.any_eq_true _ _).mp runs
  obtain ⟨started, starts⟩ := Option.isSome_iff_exists.mp starts
  obtain ⟨attrs, data, accepts, _⟩ := @createTask_storedRow asciiRuntime _ _ _ _ _ _ rfl found
  refine ⟨attrs, row, started, ⟨data, accepts⟩, found, of_decide_eq_true engine, starts, ?_⟩
  rw [echoCall, found] at starts
  exact starts

/-- The profile with the URL of a local target. -/
def localTarget : List (String × Json) := [("target_url", .str "http://localhost:9000")]

/-- k6 is run against the template's URL although the task has another one. -/
theorem overriddenUrl_ignored : ¬ @TargetKept asciiRuntime := by
  let _ := asciiRuntime
  intro kept
  obtain ⟨attrs, row, started, ⟨data, accepts⟩, found, engine, callEq, starts⟩ :=
    echo_run localTarget (by decide +kernel) (by decide +kernel)
  have noParameters : (match demoDeployment.fields.toInternalValue (echoRequest localTarget) with
      | .ok attrs => attrs.parameters.isNone
      | .error _ => false) = true := by decide +kernel
  rw [accepts.read] at noParameters
  have sees := (kept _ _ _ _ _ attrs row _ _ started ⟨data, accepts⟩
    (Option.isNone_iff_eq_none.mp noParameters) rfl found starts).1 engine
  have differs : (echoRow localTarget).all (fun row => (echoCall localTarget).all fun started =>
      decide (started.env.get? "TARGET_URL" ≠ some row.targetUrl)) = true := by decide +kernel
  rw [found, callEq] at differs
  exact of_decide_eq_true differs sees

/-- Without another URL k6 is run against the task's, which is the
template's. -/
theorem shippedUrl_kept :
    ∃ row started, echoRow [] = some row ∧ echoCall [] = some started ∧
      started.env.get? "TARGET_URL" = some row.targetUrl := by
  let _ := asciiRuntime
  obtain ⟨attrs, row, started, ⟨data, accepts⟩, found, engine, callEq, starts⟩ :=
    echo_run [] (by decide +kernel) (by decide +kernel)
  have read : (match demoDeployment.fields.toInternalValue (echoRequest []) with
      | .ok attrs => attrs.ownItems.isEmpty && (echoRow []).all fun row =>
          decide (((templateParameters (templateOf demoDeployment.catalog attrs)).get?
            "TARGET_URL").map Json.toStr = some row.targetUrl)
      | .error _ => false) = true := by decide +kernel
  rw [accepts.read, found] at read
  simp only [Option.all_some, Bool.and_eq_true, List.isEmpty_iff, decide_eq_true_eq] at read
  obtain ⟨noOwn, repeats⟩ := read
  refine ⟨row, started, found, callEq, ?_⟩
  apply ((effectiveTarget_iff demoDeployment tokenHeaders emptyDatabase (echoRequest [])
    firstOccasion attrs row plainWorker ⟨some "secret", none⟩ started ⟨data, accepts⟩ noOwn rfl
    found starts).1 engine).mpr
  intro value mem
  rw [Option.mem_def.mp mem] at repeats
  exact Option.some.inj repeats

end PLoadtesting.System
