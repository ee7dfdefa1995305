import PLoadtesting.Lib.Table
import PLoadtesting.Lib.Transition
import PLoadtesting.Lib.Transaction
import PLoadtesting.Lib.Python
import PLoadtesting.Lib.Url
import PLoadtesting.Lib.CommandLine
import PLoadtesting.Lib.JavaScript
import PLoadtesting.Lib.OrderStatistics
import PLoadtesting.Lib.Checks
import PLoadtesting.Lib.Affixes
import PLoadtesting.Lib.Grouping
import PLoadtesting.Lib.Ledger
import PLoadtesting.Lib.Encodings
import PLoadtesting.Lib.Sql
import PLoadtesting.Lib.Csv
import PLoadtesting.Lib.ServerSentEvents
import PLoadtesting.ControlPlane.Execution
import PLoadtesting.ControlPlane.Distribution
import PLoadtesting.ControlPlane.CleanRejection
import PLoadtesting.ControlPlane.ExecutionRules
import PLoadtesting.ControlPlane.ShardPlans
import PLoadtesting.ControlPlane.SubmittedNumbers
import PLoadtesting.ControlPlane.Models
import PLoadtesting.ControlPlane.TemplateRegistry
import PLoadtesting.ControlPlane.TemplateCatalog
import PLoadtesting.ControlPlane.TemplateCoverage
import PLoadtesting.ControlPlane.CoverageGroups
import PLoadtesting.ControlPlane.Serializers
import PLoadtesting.ControlPlane.Permissions
import PLoadtesting.ControlPlane.Dispatch
import PLoadtesting.ControlPlane.DispatchSoundness
import PLoadtesting.ControlPlane.ResultViews
import PLoadtesting.ControlPlane.ArtifactContract
import PLoadtesting.ControlPlane.ObjectRefs
import PLoadtesting.ControlPlane.ArtifactRegistry
import PLoadtesting.ControlPlane.ResultCallback
import PLoadtesting.ControlPlane.ManifestRejection
import PLoadtesting.ControlPlane.ArtifactMetadata
import PLoadtesting.ControlPlane.ArtifactUpsert
import PLoadtesting.ControlPlane.ArtifactListing
import PLoadtesting.ControlPlane.ResultSummary
import PLoadtesting.ControlPlane.WorkerViews
import PLoadtesting.ControlPlane.WorkerPatrol
import PLoadtesting.ControlPlane.TaskViews
import PLoadtesting.ControlPlane.Creation
import PLoadtesting.ControlPlane.CreationAnswer
import PLoadtesting.ControlPlane.StoredParameters
import PLoadtesting.ControlPlane.DemoAccess
import PLoadtesting.ControlPlane.TaskHistory
import PLoadtesting.ControlPlane.TaskReads
import PLoadtesting.Worker.Parameters
import PLoadtesting.Worker.Summary
import PLoadtesting.Worker.RunFiles
import PLoadtesting.Worker.Agreement
import PLoadtesting.Worker.JtlDamage
import PLoadtesting.Worker.JmeterStatistics
import PLoadtesting.Worker.K6Statistics
import PLoadtesting.Worker.Artifacts
import PLoadtesting.Worker.Agent
import PLoadtesting.Worker.Reports
import PLoadtesting.Worker.BusyCounter
import PLoadtesting.Worker.Registration
import PLoadtesting.Worker.EngineInput
import PLoadtesting.Worker.Precedence
import PLoadtesting.Engine.K6Options
import PLoadtesting.System.Interleaving
import PLoadtesting.System.TerminalStatus
import PLoadtesting.System.Delivery
import PLoadtesting.System.Booking
import PLoadtesting.System.TaskRecord
import PLoadtesting.System.StateMachine
import PLoadtesting.System.WorkerRegistry
import PLoadtesting.System.Liveness
import PLoadtesting.System.Manifests
import PLoadtesting.System.Totals
import PLoadtesting.System.Target
import PLoadtesting.System.Timeout
import PLoadtesting.System.Evidence
import PLoadtesting.System.Diagnostics
import PLoadtesting.System.Draining
import PLoadtesting.System.Agents
import PLoadtesting.System.Credentials
import PLoadtesting.System.TaskLife
import PLoadtesting.System.StaleCopies
import PLoadtesting.TargetApps.Common
import PLoadtesting.TargetApps.AuthFlow
import PLoadtesting.TargetApps.AuthAccounts
import PLoadtesting.TargetApps.AuthCredentials
import PLoadtesting.TargetApps.MfaCap
import PLoadtesting.TargetApps.WebSocket
import PLoadtesting.TargetApps.WebSocketMoves
import PLoadtesting.TargetApps.WebSocketSlots
import PLoadtesting.TargetApps.WebSocketRooms
import PLoadtesting.TargetApps.WebSocketFanOut
import PLoadtesting.TargetApps.WebSocketEchoes
import PLoadtesting.TargetApps.WebSocketOrder
import PLoadtesting.TargetApps.WebSocketProgress
import PLoadtesting.TargetApps.Records
import PLoadtesting.TargetApps.RecordListing
import PLoadtesting.TargetApps.Payload
import PLoadtesting.TargetApps.Filler
import PLoadtesting.TargetApps.PayloadDownloads
import PLoadtesting.Lib.Clients
import PLoadtesting.Engine.AuthScripts
import PLoadtesting.Load.MfaCodes
import PLoadtesting.Load.AuthLoad
import PLoadtesting.Lib.Tar
import PLoadtesting.TargetApps.Crud
import PLoadtesting.TargetApps.RecordRequests
import PLoadtesting.TargetApps.PayloadPacks
import PLoadtesting.Engine.RecordScripts
import PLoadtesting.Engine.PayloadScripts
import PLoadtesting.Load.RecordLoad
import PLoadtesting.Load.PayloadFlows
import PLoadtesting.TargetApps.Sse
import PLoadtesting.Engine.SseScripts
import PLoadtesting.Load.SseSmoke
