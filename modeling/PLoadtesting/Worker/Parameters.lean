import PLoadtesting.Lib.CommandLine
import PLoadtesting.Lib.Python

/-!
What the worker takes from a task's parameters (`workers/agent.py`): execution
settings, shard metadata, the subprocess timeout, and the environment variables
and JMeter properties made of them.

A setting that is absent or null is skipped by every one of these functions.
-/

namespace PLoadtesting.Worker

open Keyed Python

/-- `EXECUTION_ENV_KEYS`. -/
def executionEnvKeys : List (String × String) :=
  [("duration_seconds", "DURATION_SECONDS"), ("ramp_up_seconds", "RAMP_UP_SECONDS"),
    ("ramp_down_seconds", "RAMP_DOWN_SECONDS"), ("graceful_stop_seconds", "GRACEFUL_STOP_SECONDS"),
    ("iteration_limit", "ITERATION_LIMIT"), ("stop_policy", "STOP_POLICY"),
    ("data_policy", "DATA_POLICY")]

/-- `EXECUTION_JMETER_KEYS`: each is the property's name as well. -/
def executionJmeterKeys : List (String × String) :=
  ["duration_seconds", "ramp_up_seconds", "ramp_down_seconds", "stop_policy",
    "graceful_stop_seconds", "iteration_limit"].map fun key => (key, key)

/-- `WORKER_METADATA_PARAMETER_KEYS`. -/
def workerMetadataParameterKeys : List String :=
  ["execution", "distribution", "shard_execution_plan", "shard", "shard_metadata"]

/-- `SHARD_ENV_KEYS`. -/
def shardEnvKeys : List (String × String) :=
  [("shard_id", "SHARD_ID"), ("source", "DATASET_SOURCE"), ("format", "DATASET_FORMAT"),
    ("offset", "DATASET_OFFSET"), ("limit", "DATASET_LIMIT")]

/-- `SHARD_JMETER_KEYS`. -/
def shardJmeterKeys : List (String × String) :=
  [("shard_id", "shard_id"), ("source", "dataset_source"), ("format", "dataset_format"),
    ("offset", "dataset_offset"), ("limit", "dataset_limit")]

def extractExecution (parameters : Json) : Option (Dict Json) :=
  match parameters.asDict? with
  | none => none
  | some parameters => ((parameters.get? "execution").getD .null).asDict?

def extractShardMetadata (parameters : Json) : Option (Dict Json) :=
  match parameters.asDict? with
  | none => none
  | some parameters =>
      ["shard", "shard_metadata"].findSome? fun key => ((parameters.get? key).getD .null).asDict?

/-- `_optional_int`. -/
def optionalInt (value : Json) : Except Exc (Option Int) :=
  match value with
  | .null => .ok none
  | value => if value.eqStr "" then .ok none else value.caughtInt

/-- `_optional_int(execution.get(key))`. -/
def optionalSetting (execution : Dict Json) (key : String) : Except Exc (Option Int) :=
  optionalInt ((execution.get? key).getD .null)

/-- `execution_timeout_seconds`. A zero counts as missing. -/
def executionTimeoutSeconds (execution : Option (Dict Json)) : Except Exc (Option Int) :=
  match execution with
  | none => .ok none
  | some execution =>
      if execution.rows.isEmpty then .ok none
      else do
        let maxRunSeconds := (← optionalSetting execution "max_run_seconds").getD 0
        if maxRunSeconds ≠ 0 then return some maxRunSeconds
        else
          let durationSeconds := (← optionalSetting execution "duration_seconds").getD 0
          if durationSeconds = 0 then return none
          else
            let rampUpSeconds := (← optionalSetting execution "ramp_up_seconds").getD 0
            let rampDownSeconds := (← optionalSetting execution "ramp_down_seconds").getD 0
            let gracefulStopSeconds := (← optionalSetting execution "graceful_stop_seconds").getD 0
            return some
              (durationSeconds + rampUpSeconds + rampDownSeconds + gracefulStopSeconds + 5)

/-- `_shard_values`. -/
def shardValues (shard : Option (Dict Json)) : Dict Json :=
  match shard with
  | none => Table.empty
  | some shard =>
      let dataset := ((shard.get? "dataset").getD .null).dictOrEmpty
      Dict.ofItems [("shard_id", (shard.get? "shard_id").getD .null),
        ("source", (dataset.get? "source").getD .null),
        ("format", (dataset.get? "format").getD .null),
        ("offset", (dataset.get? "offset").getD .null),
        ("limit", (dataset.get? "limit").getD .null)]

section Text

variable [Runtime]

/-- The text of a value that is present and not null. -/
def text? (values : Dict Json) (key : String) : Option String :=
  (present? values key).map Json.toStr

def executionEnv : Option (Dict Json) → List (String × String)
  | none => []
  | some execution => Dict.renamed executionEnvKeys (text? execution)

def shardEnv (shard : Option (Dict Json)) : List (String × String) :=
  Dict.renamed shardEnvKeys (text? (shardValues shard))

/-- A JMeter argument `-J{key}={value}`. -/
def jmeterArguments (items : List (String × String)) : List String :=
  items.map fun item => CommandLine.define "-J" item.1 item.2

def executionJmeterProperties : Option (Dict Json) → List String
  | none => []
  | some execution => jmeterArguments (Dict.renamed executionJmeterKeys (text? execution))

def shardJmeterProperties (shard : Option (Dict Json)) : List String :=
  jmeterArguments (Dict.renamed shardJmeterKeys (text? (shardValues shard)))

/-- The parameters the worker hands on, as text: all but its own metadata. -/
def freeParameters (parameters : Dict Json) : List (String × String) :=
  (parameters.rows.filter fun p => !workerMetadataParameterKeys.contains p.1).map fun p =>
    (p.1, p.2.toStr)

end Text

end PLoadtesting.Worker
