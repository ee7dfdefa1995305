import PLoadtesting.ControlPlane.Permissions
import PLoadtesting.Lib.Url
import PLoadtesting.Worker.Parameters
import PLoadtesting.Worker.Summary
import PLoadtesting.Worker.Artifacts

/-!
Task execution by a worker (`execute_task` and `execute_endpoint` in
`workers/agent.py`).

The engine is a function from the command that the worker builds to the outcome
of its process, together with the output files it leaves. A post to the Control
Plane either arrives or raises a request exception, which is logged. The push to
InfluxDB catches everything itself and changes no report: what it writes is
`summaryPoint`, and the push is left out here, as is the log.

The statements before the `try` of `execute_task` can raise as well: such an
exception leaves the function (`Execution.raised`), while one of the body ends
in the handler that only logs (`Execution.caught`).
-/

namespace PLoadtesting.Worker

open Keyed Python

/-- The configuration of a worker process. -/
structure WorkerConfig where
  apiToken : String
  influxdbUrl : String
  influxdbToken : String
  influxdbOrg : String
  influxdbBucket : String
  environ : Dict String

/-- A worker without InfluxDB and with an empty environment. -/
def plainWorker : WorkerConfig where
  apiToken := "secret"
  influxdbUrl := ""
  influxdbToken := ""
  influxdbOrg := "pLoadtesting"
  influxdbBucket := "loadtest"
  environ := Table.empty

/-- The arguments of `execute_task`, as they came in the request. -/
structure ExecuteCall where
  taskId : Json
  engine : Json
  scriptPath : Json
  parameters : Json

/-- The arguments of `subprocess.run`. -/
structure EngineCall where
  cmd : List String
  env : Dict String
  timeout : Option Int

/-- What `subprocess.run` does. The texts of a timeout are those that
`_timeout_text` makes of the output so far. -/
inductive ProcessOutcome where
  | exited (returncode : Int) (stdout stderr : String)
  | timedOut (stdout stderr : String)
  | raised (e : Exc)

/-- The surroundings of one execution. -/
structure EngineWorld where
  run : EngineCall → ProcessOutcome
  k6Output : Option (OutputFile K6Line)
  jtlOutput : Option (OutputFile (Dict Json))
  delivers : Json → Bool

section Execution

variable [Runtime]

/-! ### Before the engine -/

/-- `os.path.join("/app", script_path)` unless the path is absolute. Values that
are no text are refused by `os.fspath`. -/
def fullScriptPath : Json → Except Exc String
  | .str path => .ok (if path.toList.head? = some '/' then path else "/app/" ++ path)
  | path => .error (.typeError
      ("join() argument must be str, bytes, or os.PathLike object, not '" ++ path.typeName ++ "'"))

/-- What is computed before the `try`. -/
structure Prepared where
  taskId : String
  execution : Option (Dict Json)
  shardMetadata : Option (Dict Json)
  processTimeout : Option Int
  fullScriptPath : String

def prepare (call : ExecuteCall) : Except Exc Prepared := do
  let execution := extractExecution call.parameters
  let processTimeout ← executionTimeoutSeconds execution
  return {
    taskId := call.taskId.toStr
    execution
    shardMetadata := extractShardMetadata call.parameters
    processTimeout
    fullScriptPath := ← fullScriptPath call.scriptPath }

/-! ### The commands -/

/-- `parameters.items()`. -/
def parameterItems (parameters : Json) : Except Exc (Dict Json) :=
  match parameters.asDict? with
  | some parameters => .ok parameters
  | none => .error (parameters.noAttribute "items")

/-- k6 streams to InfluxDB as well when that is configured. -/
def k6Command (config : WorkerConfig) (prepared : Prepared) : List String :=
  ["k6", "run", "--out", "json=/tmp/result_" ++ prepared.taskId ++ ".json"]
    ++ (if config.influxdbUrl ≠ "" ∧ config.influxdbToken ≠ "" then
        ["--out", "influxdb=" ++ config.influxdbUrl ++ "?org=" ++ config.influxdbOrg ++ "&bucket="
          ++ config.influxdbBucket ++ "&token=" ++ config.influxdbToken]
      else [])
    ++ [prepared.fullScriptPath]

/-- The free-form parameters come first, the settings over them. -/
def k6Environment (environ : Dict String) (parameters : Dict Json)
    (execution shardMetadata : Option (Dict Json)) : Dict String :=
  ((environ.update (freeParameters parameters)).update (executionEnv execution)).update
    (shardEnv shardMetadata)

/-- `if parameters: for k, v in parameters.items()`: falsy parameters of any type
count as none. -/
def k6Items (parameters : Json) : Except Exc (Dict Json) :=
  if parameters.truthy then parameterItems parameters else .ok Table.empty

def k6Call (config : WorkerConfig) (prepared : Prepared) (parameters : Json) :
    Except Exc EngineCall := do
  let items ← k6Items parameters
  return {
    cmd := k6Command config prepared
    env := k6Environment config.environ items prepared.execution prepared.shardMetadata
    timeout := prepared.processTimeout }

/-- `TARGET_HOST` and `TARGET_PORT` of a target URL, if there is one. -/
def jmeterTarget (targetUrl : Json) : Except Exc (List (String × String)) :=
  if targetUrl.truthy then
    match targetUrl with
    | .str targetUrl => do
        let parsed ← Url.urlsplit targetUrl
        let port ← parsed.port
        let defaultPort := if parsed.scheme = "https" then 443 else 80
        let port := if port.getD 0 = 0 then defaultPort else port.getD 0
        return [("TARGET_HOST", parsed.hostname.getD "None"), ("TARGET_PORT", toString port)]
    | targetUrl => .error (targetUrl.noAttribute "decode")
  else .ok []

/-- The free-form parameters that become JMeter properties and environment
variables. -/
def jmeterParameters (parameters : Dict Json) : List (String × String) :=
  (freeParameters parameters).filter fun p => p.1 ≠ "target_url"

/-- The settings come first, the free-form parameters after them. -/
def jmeterProperties (target : List (String × String)) (parameters : Dict Json)
    (execution shardMetadata : Option (Dict Json)) : List String :=
  jmeterArguments target ++ executionJmeterProperties execution
    ++ shardJmeterProperties shardMetadata ++ jmeterArguments (jmeterParameters parameters)

/-- `["jmeter", "-n", "-t", …]`. -/
def jmeterCommand (prepared : Prepared) : List String :=
  ["jmeter", "-n", "-t", prepared.fullScriptPath, "-l", "/tmp/jmeter_" ++ prepared.taskId ++ ".jtl",
    "-j", "/tmp/jmeter_" ++ prepared.taskId ++ ".log"]

def jmeterCall (config : WorkerConfig) (prepared : Prepared) (parameters : Json) :
    Except Exc EngineCall := do
  let items ← parameterItems parameters
  let target ← jmeterTarget ((items.get? "target_url").getD .null)
  return {
    cmd := jmeterCommand prepared
      ++ jmeterProperties target items prepared.execution prepared.shardMetadata
    env := config.environ.update (jmeterParameters items)
    timeout := prepared.processTimeout }

/-! ### After the engine -/

/-- `summary["raw_report"].update(items)`. -/
def updateRawReport (summary : Dict Json) (items : List (String × Json)) :
    Except Exc (Dict Json) :=
  match rawReport? summary with
  | some report => .ok (summary.set "raw_report" (dictJson (report.update items)))
  | none => .error (.keyError "raw_report")

def attachShardMetadata (summary : Dict Json) (shard : Option (Dict Json)) : Dict Json :=
  match shard with
  | none => summary
  | some shard =>
      if shard.rows.isEmpty then summary
      else
        let report := (rawReport? summary).getD Table.empty
        summary.set "raw_report" (dictJson (report.set "shard" (dictJson shard)))

/-- What differs between the branches of the two engines. -/
structure EngineBranch where
  engine : String
  label : String
  call : Except Exc EngineCall
  summary : Dict Json
  artifactEvidence : List (String × Json)

def k6Branch (config : WorkerConfig) (world : EngineWorld) (prepared : Prepared)
    (parameters : Json) : EngineBranch where
  engine := "k6"
  label := "k6"
  call := k6Call config prepared parameters
  summary := calculateK6Summary world.k6Output
  artifactEvidence := [("has_summary_json", .bool world.k6Output.isSome)]

def jmeterBranch (config : WorkerConfig) (world : EngineWorld) (prepared : Prepared)
    (parameters : Json) : EngineBranch where
  engine := "jmeter"
  label := "JMeter"
  call := jmeterCall config prepared parameters
  summary := calculateJmeterSummary world.jtlOutput
  artifactEvidence := [("has_jtl", .bool world.jtlOutput.isSome), ("has_html_report", .bool false)]

variable [Hashing]

/-- The summary with the report, the shard and the manifest. -/
def completeSummary (branch : EngineBranch) (prepared : Prepared) (report : List (String × Json)) :
    Except Exc (Dict Json) := do
  let summary ← updateRawReport branch.summary report
  let summary := attachShardMetadata summary prepared.shardMetadata
  return attachArtifactManifest prepared.taskId (.str branch.engine) summary branch.artifactEvidence

/-- A timeout as text, `None` when there is none. -/
def timeoutText : Option Int → String
  | none => "None"
  | some seconds => toString seconds

/-- `timeout_summary`, its report. -/
def timeoutReport (prepared : Prepared) (stdout stderr : String) : List (String × Json) :=
  [("error", .str "worker_timeout"), ("stop_reason", .str "worker_timeout"),
    ("forced_stop", .bool true),
    ("timeout_seconds", match prepared.processTimeout with | none => .null | some s => .int s),
    ("execution", dictJson (prepared.execution.getD Table.empty)), ("stdout", .str stdout),
    ("stderr", .str stderr)]

/-- The result posted after a timeout. -/
def timeoutResult (branch : EngineBranch) (prepared : Prepared) (stdout stderr : String) :
    Except Exc Json := do
  let summary ← completeSummary branch prepared (timeoutReport prepared stdout stderr)
  return dictJson ((summary.set "execution_status" (.str "failed")).set "error_message"
    (.str ("Engine process exceeded max_run_seconds (" ++ timeoutText prepared.processTimeout
      ++ ").")))

/-- The result posted after the process ended. -/
def exitResult (branch : EngineBranch) (prepared : Prepared) (returncode : Int)
    (stdout stderr : String) : Except Exc Json := do
  let summary ← completeSummary branch prepared
    [("stdout", .str stdout), ("stderr", .str stderr), ("exit_code", .int returncode)]
  if returncode ≠ 0 then
    let errorMessage :=
      if stderr ≠ "" then stderr
      else branch.label ++ " exited with code " ++ toString returncode
    return dictJson ((summary.set "execution_status" (.str "failed")).set "error_message"
      (.str errorMessage))
  else return dictJson (summary.set "execution_status" (.str "completed"))

/-- `post_task_result` inside its handler: what arrives. -/
def postTaskResult (world : EngineWorld) (payload : Json) : List Json :=
  if world.delivers payload then [payload] else []

/-- The posts of the body and the exception that its handler logs. -/
structure BodyResult where
  posts : List Json
  caught : Option Exc

/-- The branch of an engine. The posts are done before the target URL is read
for InfluxDB. -/
def runBranch (world : EngineWorld) (prepared : Prepared) (parameters : Json)
    (branch : EngineBranch) : BodyResult :=
  match branch.call with
  | .error e => ⟨[], some e⟩
  | .ok call =>
      match world.run call with
      | .raised e => ⟨[], some e⟩
      | .timedOut stdout stderr =>
          match timeoutResult branch prepared stdout stderr with
          | .error e => ⟨[], some e⟩
          | .ok payload => ⟨postTaskResult world payload, none⟩
      | .exited returncode stdout stderr =>
          match exitResult branch prepared returncode stdout stderr with
          | .error e => ⟨[], some e⟩
          | .ok payload =>
              ⟨postTaskResult world payload,
                match parameters.asDict? with
                | some _ => none
                | none => some (parameters.noAttribute "get")⟩

/-- The result posted for an engine the worker does not know. -/
def unsupportedResult (prepared : Prepared) (engine : Json) : Json :=
  let message := "Unsupported engine: " ++ engine.toStr
  let payload := Dict.ofItems [("execution_status", .str "failed"),
    ("error_message", .str message), ("raw_report", .obj [("error", .str message)])]
  dictJson (attachArtifactManifest prepared.taskId engine payload [])

/-- The body of the `try`. -/
def executeBody (config : WorkerConfig) (world : EngineWorld) (prepared : Prepared)
    (call : ExecuteCall) : BodyResult :=
  if call.engine.eqStr "k6" then
    runBranch world prepared call.parameters (k6Branch config world prepared call.parameters)
  else if call.engine.eqStr "jmeter" then
    runBranch world prepared call.parameters (jmeterBranch config world prepared call.parameters)
  else ⟨postTaskResult world (unsupportedResult prepared call.engine), none⟩

/-- The outcome of one execution. -/
structure Execution where
  posts : List Json
  activeTaskCount : Int
  caught : Option Exc
  raised : Option Exc

/-- `execute_task`, with the worker's count of active tasks before it. -/
def executeTask (config : WorkerConfig) (world : EngineWorld) (activeTaskCount : Int)
    (call : ExecuteCall) : Execution :=
  let running := postTaskResult world (.obj [("execution_status", .str "running")])
  match prepare call with
  | .error e =>
      { posts := running, activeTaskCount := activeTaskCount + 1, caught := none, raised := some e }
  | .ok prepared =>
      let body := executeBody config world prepared call
      { posts := running ++ body.posts
        activeTaskCount := activeTaskCount + 1 - 1
        caught := body.caught
        raised := none }

end Execution

/-! ### The endpoint -/

/-- The credentials of a request; a header can be missing. -/
structure RequestHeaders where
  apiToken : Option String
  authorization : Option String

inductive ExecuteResponse where
  | forbidden
  | badRequest
  | accepted (call : ExecuteCall)
  | serverError (e : Exc)

/-- The token check of `execute_endpoint`. -/
def executeAllowed (config : WorkerConfig) (headers : RequestHeaders) : Bool :=
  if headers.apiToken = some config.apiToken then true
  else
    let authHeader := headers.authorization.getD ""
    let bearerToken :=
      if ControlPlane.hasBearerPrefix authHeader then
        strip (String.ofList (ControlPlane.afterFirstSpace authHeader.toList))
      else ""
    decide (bearerToken = config.apiToken)

/-- `execute_endpoint`. The task is handed over with the answer, which names the
task id: one that cannot be sent as JSON raises, and nothing is executed. -/
def executeEndpoint (config : WorkerConfig) (headers : RequestHeaders) (body : Json) :
    ExecuteResponse :=
  if executeAllowed config headers then
    match body.asDict? with
    | none => .serverError (body.noAttribute "get")
    | some data =>
        let taskId := (data.get? "task_id").getD .null
        let engine := (data.get? "engine").getD .null
        let scriptPath := (data.get? "script_path").getD .null
        if !taskId.truthy || !engine.truthy || !scriptPath.truthy then .badRequest
        else if !taskId.isRenderable then
          .serverError (.valueError "Out of range float values are not JSON compliant")
        else .accepted ⟨taskId, engine, scriptPath, (data.get? "parameters").getD (.obj [])⟩
  else .forbidden

end PLoadtesting.Worker
