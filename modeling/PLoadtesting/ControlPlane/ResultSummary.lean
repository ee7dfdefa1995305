import PLoadtesting.ControlPlane.Models

/-!
The result summary of a task (`result_summary_read_model` in
`apps/tasks/read_models.py`). Instants are left as instants; the view renders
them.
-/

namespace PLoadtesting.ControlPlane

open Keyed Python

/-- `LoadTestTask.duration_seconds`. -/
def LoadTestTask.durationSeconds (task : LoadTestTask) : Option Rat :=
  match task.startedAt, task.finishedAt with
  | some started, some finished => some ((finished - started : Int) / 1000000)
  | _, _ => none

structure ReadModelWarning where
  code : String
  message : String

/-- `result_summary_read_model`. What is null is `none`; `errorRatePct` and
`collectedAt` are left out of a summary that is not available. -/
structure ResultSummary where
  taskId : TaskId
  status : String
  totalRequests : Option Nat
  totalErrors : Option Nat
  durationSeconds : Option Rat
  throughputRps : Option Double
  errorRatePct : Option Double
  collectedAt : Option Timestamp
  avgMs : Option Double
  p50Ms : Option Double
  p95Ms : Option Double
  p99Ms : Option Double
  metricsSource : Option String
  engine : String
  percentilePolicy : Option String
  thresholdsPassed : Option Bool
  thresholdsDetail : Json
  warnings : List ReadModelWarning

/-- The summary of a task without a result. -/
def unavailableSummary (task : LoadTestTask) : ResultSummary where
  taskId := task.id
  status := "not_available"
  totalRequests := none
  totalErrors := none
  durationSeconds := none
  throughputRps := none
  errorRatePct := none
  collectedAt := none
  avgMs := none
  p50Ms := none
  p95Ms := none
  p99Ms := none
  metricsSource := none
  engine := task.engine
  percentilePolicy := none
  thresholdsPassed := none
  thresholdsDetail := .arr []
  warnings := [⟨"result_summary_not_available",
    "Result summary is not available for this task yet."⟩]

/-- The summary of a task with a result. -/
def availableSummary (task : LoadTestTask) (result : TestResult) : ResultSummary where
  taskId := task.id
  status := "available"
  totalRequests := some result.fields.totalRequests
  totalErrors := some result.fields.failedRequests
  durationSeconds := task.durationSeconds
  throughputRps := some result.fields.throughputRps
  errorRatePct := some result.fields.errorRatePct
  collectedAt := some result.collectedAt
  avgMs := some result.fields.avgResponseMs
  p50Ms := none
  p95Ms := some result.fields.p95ResponseMs
  p99Ms := some result.fields.p99ResponseMs
  metricsSource := some "test_result"
  engine := task.engine
  percentilePolicy := some "engine_reported"
  thresholdsPassed := result.fields.thresholdsPassed
  thresholdsDetail := result.fields.thresholdsDetail
  warnings := [⟨"percentiles_engine_reported",
      "Latency percentiles are engine-reported task result values and are not cross-shard merged."⟩,
    ⟨"p50_not_available", "P50 latency is not available because the current stored result " ++
      "model does not persist that percentile."⟩]

def resultSummaryReadModel (db : Database) (task : LoadTestTask) : ResultSummary :=
  match db.results.find? task.id with
  | none => unavailableSummary task
  | some result => availableSummary task result

/-- A summary is available if and only if the task has a result, and then shows
its total. -/
theorem totalRequests_resultSummary (db : Database) (task : LoadTestTask) :
    (resultSummaryReadModel db task).totalRequests =
      (db.results.find? task.id).map (·.fields.totalRequests) := by
  unfold resultSummaryReadModel
  cases db.results.find? task.id with
  | none => rfl
  | some result => rfl

end PLoadtesting.ControlPlane
