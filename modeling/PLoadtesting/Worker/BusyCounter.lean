import PLoadtesting.Worker.Reports

/-!
The count of active tasks (`worker_state["active_task_count"]`), which decides
whether a heartbeat says `online` or `busy` and with it whether the worker gets
tasks at all.

The count goes down in the `finally` of `execute_task`, whose `try` starts after
the settings of the timeout and the script path are read. A request on which
these raise is accepted and leaves the count one too high for good: after any
requests the count is the number of such requests (`activeTaskCount_eq_leaks`).
-/

namespace PLoadtesting.Worker

open Keyed Python

/-! ### The heartbeat -/

/-- The measures of `psutil` that a heartbeat carries. -/
structure ResourceUsage where
  cpuPct : Double
  memPct : Double
  diskPct : Double

/-- The body that `send_heartbeat` posts. -/
def heartbeatPayload (activeTaskCount : Int) (usage : ResourceUsage) : Json :=
  .obj [("status", .str (if activeTaskCount > 0 then "busy" else "online")),
    ("active_task_count", .int activeTaskCount),
    ("resource_snapshot", .obj [("cpu_pct", .float usage.cpuPct), ("mem_pct", .float usage.memPct),
      ("disk_pct", .float usage.diskPct)])]

/-- The status that a heartbeat reports. -/
def reportedStatus (payload : Json) : Option Json := payload.dictOrEmpty.get? "status"

theorem reportedStatus_heartbeat (activeTaskCount : Int) (usage : ResourceUsage) :
    reportedStatus (heartbeatPayload activeTaskCount usage) =
      some (.str (if activeTaskCount > 0 then "busy" else "online")) := rfl

/-! ### Requests one after another -/

/-- A request to `/execute`, and what its execution meets. -/
structure Request where
  headers : RequestHeaders
  body : Json
  world : EngineWorld

section Requests

variable [Runtime] [Hashing] {config : WorkerConfig}

/-- The count after a request: an accepted one is executed in the background,
here before the next request. -/
def serve (config : WorkerConfig) (activeTaskCount : Int) (request : Request) : Int :=
  match executeEndpoint config request.headers request.body with
  | .accepted call => (executeTask config request.world activeTaskCount call).activeTaskCount
  | _ => activeTaskCount

/-- The count after requests to a fresh worker. -/
def activeTaskCount (config : WorkerConfig) (requests : List Request) : Int :=
  requests.foldl (serve config) 0

omit [Runtime] [Hashing] in
/-- The script path is text and the settings of the timeout are numbers that
`int()` takes. -/
structure Readable (call : ExecuteCall) : Prop where
  timeout : TimeoutReadable (extractExecution call.parameters)
  scriptPath : ∃ path, call.scriptPath = .str path

omit [Hashing] in
theorem prepare_ok_iff_readable {call : ExecuteCall} :
    (∃ prepared, prepare call = .ok prepared) ↔ Readable call :=
  prepare_ok_iff.trans ⟨fun h => ⟨h.1, h.2⟩, fun h => ⟨h.timeout, h.scriptPath⟩⟩

/-- The request is accepted and its execution keeps the count that it took. -/
def leaks (config : WorkerConfig) (request : Request) : Bool :=
  match executeEndpoint config request.headers request.body with
  | .accepted call => (prepare call).toOption.isNone
  | _ => false

omit [Hashing] in
theorem leaks_eq_false_iff {request : Request} :
    leaks config request = false ↔
      ∀ call, executeEndpoint config request.headers request.body = .accepted call →
        Readable call := by
  unfold leaks
  cases answered : executeEndpoint config request.headers request.body with
  | accepted call =>
      simp only [ExecuteResponse.accepted.injEq, forall_eq', ← prepare_ok_iff_readable]
      cases prepare call with
      | error e => simp [Except.toOption]
      | ok prepared => simp [Except.toOption]
  | _ => simp

/-- Only the statements before the `try` decide whether the count comes back. -/
theorem executeTask_count (config : WorkerConfig) (world : EngineWorld) (count : Int)
    (call : ExecuteCall) :
    (executeTask config world count call).activeTaskCount =
      if (prepare call).toOption.isNone then count + 1 else count := by
  unfold executeTask
  cases prepare call with
  | error e => rfl
  | ok prepared =>
      show count + 1 - 1 = count
      omega

/-- One request raises the count by one or leaves it. -/
theorem serve_eq (count : Int) (request : Request) :
    serve config count request = if leaks config request then count + 1 else count := by
  unfold serve
  cases answered : executeEndpoint config request.headers request.body with
  | accepted call =>
      have leak : leaks config request = (prepare call).toOption.isNone := by
        unfold leaks
        rw [answered]
      rw [leak]
      exact executeTask_count config request.world count call
  | _ =>
      have kept : leaks config request = false := by
        unfold leaks
        rw [answered]
      rw [kept]
      rfl

theorem foldl_serve_eq (requests : List Request) (count : Int) :
    requests.foldl (serve config) count = count + requests.countP (leaks config) := by
  induction requests generalizing count with
  | nil => exact (Int.add_zero count).symm
  | cons request rest ih =>
      rw [List.foldl_cons, ih, serve_eq, List.countP_cons]
      cases leaks config request with
      | true => simp only [if_true, Nat.cast_add, Nat.cast_one]; omega
      | false => simp

/-- After any requests the count is the number of those that leaked. -/
theorem activeTaskCount_eq_leaks (config : WorkerConfig) (requests : List Request) :
    activeTaskCount config requests = requests.countP (leaks config) :=
  (foldl_serve_eq requests 0).trans (Int.zero_add _)

/-- A worker that leaked once never reports `online` again. -/
theorem leaked_staysBusy {before after : List Request} {request : Request}
    (leaked : leaks config request = true) (usage : ResourceUsage) :
    reportedStatus (heartbeatPayload (activeTaskCount config (before ++ request :: after)) usage) =
      some (.str "busy") := by
  have positive : activeTaskCount config (before ++ request :: after) > 0 := by
    rw [activeTaskCount_eq_leaks, List.countP_append, List.countP_cons_of_pos leaked]
    omega
  rw [reportedStatus_heartbeat, if_pos positive]

/-! ### Balance -/

/-- Every execution gives its count back, and between the executions the worker
counts no task and reports `online`. -/
structure Balanced (config : WorkerConfig) (requests : List Request) : Prop where
  restored : ∀ before request after, requests = before ++ request :: after →
    serve config (activeTaskCount config before) request = activeTaskCount config before
  idle : ∀ before, before <+: requests → activeTaskCount config before = 0
  online : ∀ before, before <+: requests → ∀ usage,
    reportedStatus (heartbeatPayload (activeTaskCount config before) usage) =
      some (.str "online")

/-- The count balances over a sequence of requests if and only if the arguments
of every accepted one can be read. -/
theorem balanced_iff (config : WorkerConfig) (requests : List Request) :
    Balanced config requests ↔
      ∀ request ∈ requests, ∀ call,
        executeEndpoint config request.headers request.body = .accepted call → Readable call := by
  simp only [← leaks_eq_false_iff]
  constructor
  · intro balanced
    have idle := balanced.idle requests (List.prefix_refl requests)
    rw [activeTaskCount_eq_leaks] at idle
    have none_ := List.countP_eq_zero.mp (Int.natCast_eq_zero.mp idle)
    intro request mem
    simpa using none_ request mem
  · intro kept
    have idle (before : List Request) (isPrefix : before <+: requests) :
        activeTaskCount config before = 0 := by
      rw [activeTaskCount_eq_leaks, Int.natCast_eq_zero, List.countP_eq_zero]
      intro request mem
      rw [kept request (isPrefix.subset mem)]
      exact Bool.false_ne_true
    refine ⟨?_, idle, ?_⟩
    · rintro before request after rfl
      rw [serve_eq, kept request (List.mem_append_right _ List.mem_cons_self)]
      rfl
    · intro before isPrefix usage
      rw [reportedStatus_heartbeat, idle before isPrefix]
      rfl

end Requests

/-- A request whose script path is a number is accepted. -/
def numericPathRequest : Request where
  headers := ⟨some "secret", none⟩
  body := .obj [("task_id", .str "7"), ("engine", .str "k6"), ("script_path", .int 5)]
  world := processWorld (.exited 0 "" "")

/-- The script path 5 raises before the `try`, and the worker stays busy. -/
theorem numericPath_unbalanced :
    ¬ @Balanced asciiRuntime silentRunHashing plainWorker [numericPathRequest] := by
  let _ := asciiRuntime
  let _ := silentRunHashing
  intro balanced
  have idle := balanced.idle [numericPathRequest] (List.prefix_refl _)
  revert idle
  decide +kernel

end PLoadtesting.Worker
