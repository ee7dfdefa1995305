import PLoadtesting.Worker.Agent

/-!
Terminal reports of an execution.

A result is posted at one place of each branch, so there are never two
(`executeTask_reportsOnce_iff`). There is none when an exception reaches the
outer handler, which only logs, or leaves `execute_task` before its `try`: a
script path that is no text, an infinite number among the settings the timeout
is computed from, parameters or a target URL that the branch cannot read, and
an engine process that does not start.
-/

namespace PLoadtesting.Worker

open Keyed Python

/-- A report with `execution_status` `completed` or `failed`. -/
def isTerminal (payload : Json) : Bool :=
  let status := (payload.dictOrEmpty.get? "execution_status").getD .null
  status.eqStr "completed" || status.eqStr "failed"

/-! ### The results are terminal -/

section Results

theorem isTerminal_of_get? {payload : Dict Json} (status : String)
    (terminal : status ∈ ["completed", "failed"])
    (found : payload.get? "execution_status" = some (.str status)) :
    isTerminal (dictJson payload) = true := by
  simp only [List.mem_cons, List.not_mem_nil, or_false] at terminal
  rcases terminal with rfl | rfl
  · simp [isTerminal, found, Json.eqStr]
  · simp [isTerminal, found, Json.eqStr]

variable [Runtime] [Hashing]

theorem completeSummary_ok {branch : EngineBranch}
    (hasReport : (rawReport? branch.summary).isSome = true) (prepared : Prepared)
    (report : List (String × Json)) :
    ∃ summary, completeSummary branch prepared report = .ok summary := by
  obtain ⟨raw, found⟩ := Option.isSome_iff_exists.mp hasReport
  simp [completeSummary, updateRawReport, found, bind, Except.bind, pure, Except.pure]

theorem timeoutResult_terminal {branch : EngineBranch}
    (hasReport : (rawReport? branch.summary).isSome = true) (prepared : Prepared)
    (stdout stderr : String) :
    ∃ payload, timeoutResult branch prepared stdout stderr = .ok payload ∧
      isTerminal payload = true := by
  obtain ⟨summary, completed⟩ :=
    completeSummary_ok hasReport prepared (timeoutReport prepared stdout stderr)
  refine ⟨_, bind_ok_iff.mpr ⟨summary, completed, rfl⟩, ?_⟩
  apply isTerminal_of_get? "failed" (by simp)
  simp

theorem exitResult_terminal {branch : EngineBranch}
    (hasReport : (rawReport? branch.summary).isSome = true) (prepared : Prepared)
    (returncode : Int) (stdout stderr : String) :
    ∃ payload, exitResult branch prepared returncode stdout stderr = .ok payload ∧
      isTerminal payload = true := by
  obtain ⟨summary, completed⟩ := completeSummary_ok hasReport prepared
    [("stdout", .str stdout), ("stderr", .str stderr), ("exit_code", .int returncode)]
  by_cases failed : returncode ≠ 0
  · refine ⟨_, bind_ok_iff.mpr ⟨summary, completed, if_pos failed⟩, ?_⟩
    apply isTerminal_of_get? "failed" (by simp)
    simp
  · refine ⟨_, bind_ok_iff.mpr ⟨summary, completed, if_neg failed⟩, ?_⟩
    apply isTerminal_of_get? "completed" (by simp)
    simp

theorem unsupportedResult_terminal (prepared : Prepared) (engine : Json) :
    isTerminal (unsupportedResult prepared engine) = true := by
  apply isTerminal_of_get? "failed" (by simp)
  simp [attachArtifactManifest, Dict.get?_ofItems]

/-- The engine process is started and comes to an end. -/
def ProcessEnds (world : EngineWorld) (call : Except Exc EngineCall) : Prop :=
  ∃ started, call = .ok started ∧ ∀ e, world.run started ≠ .raised e

/-- A branch posts one terminal result if its process comes to an end, and
nothing otherwise. -/
theorem runBranch_posts (branch : EngineBranch) {world : EngineWorld}
    (delivers : ∀ payload, world.delivers payload = true)
    (hasReport : (rawReport? branch.summary).isSome = true) (prepared : Prepared)
    (parameters : Json) :
    (ProcessEnds world branch.call ∧ ∃ payload, isTerminal payload = true ∧
        (runBranch world prepared parameters branch).posts = [payload]) ∨
      (¬ ProcessEnds world branch.call ∧
        (runBranch world prepared parameters branch).posts = []) := by
  unfold runBranch
  cases built : branch.call with
  | error e =>
      refine .inr ⟨?_, rfl⟩
      rintro ⟨started, eq, _⟩
      cases eq
  | ok started =>
      dsimp only
      cases outcome : world.run started with
      | raised e =>
          refine .inr ⟨?_, rfl⟩
          rintro ⟨started', eq, ends⟩
          cases eq
          exact ends e outcome
      | timedOut stdout stderr =>
          obtain ⟨payload, posted, terminal⟩ :=
            timeoutResult_terminal hasReport prepared stdout stderr
          refine .inl ⟨⟨started, rfl, by simp [outcome]⟩, payload, terminal, ?_⟩
          simp [posted, postTaskResult, delivers]
      | exited returncode stdout stderr =>
          obtain ⟨payload, posted, terminal⟩ :=
            exitResult_terminal hasReport prepared returncode stdout stderr
          refine .inl ⟨⟨started, rfl, by simp [outcome]⟩, payload, terminal, ?_⟩
          simp [posted, postTaskResult, delivers]

end Results

/-! ### What the statements before and around the engine read -/

/-- An infinite number, which `int()` refuses with an `OverflowError`. -/
def IsInfinite (value : Json) : Prop := ∃ negative, value = .float (.inf negative)

/-- No infinite number is read for the timeout. A later setting is read only
when the earlier ones leave it open. -/
def TimeoutReadable (execution : Option (Dict Json)) : Prop :=
  let setting (key : String) := (((execution.getD Table.empty).get? key).getD .null)
  let missing (key : String) :=
    optionalInt (setting key) = .ok none ∨ optionalInt (setting key) = .ok (some 0)
  ¬ IsInfinite (setting "max_run_seconds") ∧
    (missing "max_run_seconds" → ¬ IsInfinite (setting "duration_seconds") ∧
      (¬ missing "duration_seconds" → ∀ key ∈ ["ramp_up_seconds", "ramp_down_seconds",
        "graceful_stop_seconds"], ¬ IsInfinite (setting key)))

/-- A target URL that is falsy, or text whose parts can be read. -/
def TargetReadable [Runtime] (targetUrl : Json) : Prop :=
  targetUrl.truthy = false ∨ ∃ url parsed port,
    targetUrl = .str url ∧ Url.urlsplit url = .ok parsed ∧ parsed.port = .ok port

theorem optionalInt_ok_iff {value : Json} :
    (∃ i, optionalInt value = .ok i) ↔ ¬ IsInfinite value := by
  unfold IsInfinite
  cases value with
  | float x =>
      cases x with
      | finite q => simp [optionalInt, Json.eqStr, Json.caughtInt, Json.toInt]
      | inf negative => simp [optionalInt, Json.eqStr, Json.caughtInt, Json.toInt]
      | nan => simp [optionalInt, Json.eqStr, Json.caughtInt, Json.toInt]
  | str s =>
      refine iff_of_true ?_ (by simp)
      by_cases empty : s = ""
      · exact ⟨none, by simp [optionalInt, Json.eqStr, empty]⟩
      · cases parsed : parseInt s with
        | none => simp [optionalInt, Json.eqStr, empty, Json.caughtInt, Json.toInt, parsed]
        | some i => simp [optionalInt, Json.eqStr, empty, Json.caughtInt, Json.toInt, parsed]
  | _ => simp [optionalInt, Json.eqStr, Json.caughtInt, Json.toInt]

/-- A setting reads as missing or zero exactly when it counts as zero. -/
theorem missing_iff {value : Json} {i : Option Int} (read : optionalInt value = .ok i) :
    (optionalInt value = .ok none ∨ optionalInt value = .ok (some 0)) ↔ i.getD 0 = 0 := by
  rw [read]
  cases i with
  | none => simp
  | some i => simp

theorem executionTimeoutSeconds_ok_iff {execution : Option (Dict Json)} :
    (∃ timeout, executionTimeoutSeconds execution = .ok timeout) ↔ TimeoutReadable execution := by
  have unset : TimeoutReadable none := by
    simp [TimeoutReadable, IsInfinite]
  cases execution with
  | none => exact iff_of_true ⟨none, rfl⟩ unset
  | some execution =>
      by_cases empty : execution.rows.isEmpty = true
      · have noSettings : execution = Table.empty := Table.ext (List.isEmpty_iff.mp empty)
        rw [noSettings]
        exact iff_of_true ⟨none, rfl⟩ unset
      · have setting : ∀ key, (∃ i, optionalSetting execution key = .ok i) ↔
            ¬ IsInfinite ((execution.get? key).getD .null) := fun key => optionalInt_ok_iff
        simp only [executionTimeoutSeconds, if_neg empty, TimeoutReadable, Option.getD_some,
          ← setting]
        cases maxRun : optionalSetting execution "max_run_seconds" with
        | error e => exact iff_of_false nofun fun readable => nomatch readable.1
        | ok maxRunSeconds =>
            rw [missing_iff maxRun]
            by_cases unlimited : maxRunSeconds.getD 0 = 0
            · cases duration : optionalSetting execution "duration_seconds" with
              | error e =>
                  refine iff_of_false ?_ fun readable => nomatch (readable.2 unlimited).1
                  simp [bind, Except.bind, unlimited]
              | ok durationSeconds =>
                  rw [missing_iff duration]
                  by_cases endless : durationSeconds.getD 0 = 0
                  · refine iff_of_true ⟨none, ?_⟩ ?_
                    · simp [bind, Except.bind, unlimited, endless, pure, Except.pure]
                    · exact ⟨⟨_, rfl⟩, fun _ => ⟨⟨_, rfl⟩, fun open_ => absurd endless open_⟩⟩
                  · simp only [bind, Except.bind, pure, Except.pure, unlimited, endless, ne_eq,
                      not_true_eq_false, not_false_eq_true, if_false, forall_const, Except.ok.injEq,
                      exists_eq', true_and, List.forall_mem_cons, List.not_mem_nil, false_imp_iff,
                      and_true]
                    cases optionalSetting execution "ramp_up_seconds" with
                    | error e => simp
                    | ok rampUp =>
                        cases optionalSetting execution "ramp_down_seconds" with
                        | error e => simp
                        | ok rampDown =>
                            cases optionalSetting execution "graceful_stop_seconds" with
                            | error e => simp
                            | ok gracefulStop => simp
            · refine iff_of_true ⟨some (maxRunSeconds.getD 0), ?_⟩ ?_
              · simp [bind, Except.bind, unlimited, pure, Except.pure]
              · exact ⟨⟨_, rfl⟩, fun none_ => absurd none_ unlimited⟩

theorem fullScriptPath_ok_iff {scriptPath : Json} :
    (∃ path, fullScriptPath scriptPath = .ok path) ↔ ∃ path, scriptPath = .str path := by
  cases scriptPath with
  | str path => simp [fullScriptPath]
  | _ => simp [fullScriptPath]

theorem parameterItems_ok_iff {parameters : Json} {items : Dict Json} :
    parameterItems parameters = .ok items ↔ parameters.asDict? = some items := by
  unfold parameterItems
  cases parameters.asDict? with
  | none => simp
  | some d => simp

theorem processEnds_iff {world : EngineWorld} {call : Except Exc EngineCall} :
    ProcessEnds world call ↔
      (∃ started, call = .ok started) ∧
        ∀ started ∈ call.toOption, ∀ e, world.run started ≠ .raised e := by
  simp only [ProcessEnds, Option.mem_def, toOption_eq_some_iff]
  constructor
  · rintro ⟨started, rfl, ends⟩
    refine ⟨⟨started, rfl⟩, ?_⟩
    rintro _ ⟨⟩
    exact ends
  · rintro ⟨⟨started, rfl⟩, ends⟩
    exact ⟨started, rfl, ends started rfl⟩

/-! ### One report -/

section Reports

variable [Runtime]

theorem prepare_ok_iff {call : ExecuteCall} :
    (∃ prepared, prepare call = .ok prepared) ↔
      TimeoutReadable (extractExecution call.parameters) ∧
        ∃ path, call.scriptPath = .str path := by
  rw [← executionTimeoutSeconds_ok_iff, ← fullScriptPath_ok_iff]
  simp only [prepare, bind_ok_iff]
  constructor
  · rintro ⟨_, timeout, timeout_eq, path, path_eq, _⟩
    exact ⟨⟨timeout, timeout_eq⟩, path, path_eq⟩
  · rintro ⟨⟨timeout, timeout_eq⟩, path, path_eq⟩
    exact ⟨_, timeout, timeout_eq, path, path_eq, rfl⟩

theorem k6Call_ok_iff {config : WorkerConfig} {prepared : Prepared} {parameters : Json} :
    (∃ call, k6Call config prepared parameters = .ok call) ↔
      (parameters.truthy = true → ∃ items, parameters.asDict? = some items) := by
  simp only [k6Call, k6Items, bind_ok_iff]
  by_cases truthy : parameters.truthy = true
  · simp only [truthy, if_true, parameterItems_ok_iff, true_imp_iff]
    constructor
    · rintro ⟨_, items, found, _⟩
      exact ⟨items, found⟩
    · rintro ⟨items, found⟩
      exact ⟨_, items, found, rfl⟩
  · refine iff_of_true ⟨_, Table.empty, if_neg truthy, rfl⟩ ?_
    intro truthy'
    exact absurd truthy' truthy

theorem jmeterTarget_ok_iff {targetUrl : Json} :
    (∃ target, jmeterTarget targetUrl = .ok target) ↔ TargetReadable targetUrl := by
  unfold jmeterTarget TargetReadable
  by_cases truthy : targetUrl.truthy = true
  · rw [if_pos truthy]
    cases targetUrl with
    | str url =>
        simp only [bind_ok_iff, truthy, Bool.true_eq_false, false_or]
        constructor
        · rintro ⟨_, parsed, split, port, read, _⟩
          exact ⟨url, parsed, port, rfl, split, read⟩
        · rintro ⟨_, parsed, port, same, split, read⟩
          cases same
          exact ⟨_, parsed, split, port, read, rfl⟩
    | _ => simp [truthy]
  · refine iff_of_true ⟨[], if_neg truthy⟩ (.inl ?_)
    simpa using truthy

theorem jmeterCall_ok_iff {config : WorkerConfig} {prepared : Prepared} {parameters : Json} :
    (∃ call, jmeterCall config prepared parameters = .ok call) ↔
      ∃ items, parameters.asDict? = some items ∧
        TargetReadable ((items.get? "target_url").getD .null) := by
  simp only [jmeterCall, bind_ok_iff, parameterItems_ok_iff, ← jmeterTarget_ok_iff]
  constructor
  · rintro ⟨_, items, found, target, read, _⟩
    exact ⟨items, found, target, read⟩
  · rintro ⟨items, found, target, read⟩
    exact ⟨_, items, found, target, read, rfl⟩

/-- The engine process that an execution tries to start. -/
def startedCall (config : WorkerConfig) (call : ExecuteCall) : Option EngineCall :=
  match prepare call with
  | .error _ => none
  | .ok prepared =>
      if call.engine.eqStr "k6" then (k6Call config prepared call.parameters).toOption
      else if call.engine.eqStr "jmeter" then (jmeterCall config prepared call.parameters).toOption
      else none

/-- A process is started for one of the two engines, by the call of its
branch. -/
theorem startedCall_cases {config : WorkerConfig} {call : ExecuteCall} {started : EngineCall}
    (starts : startedCall config call = some started) :
    ∃ prepared, prepare call = .ok prepared ∧
      ((call.engine = .str "k6" ∧ k6Call config prepared call.parameters = .ok started) ∨
        (call.engine = .str "jmeter" ∧
          jmeterCall config prepared call.parameters = .ok started)) := by
  unfold startedCall at starts
  split at starts
  · cases starts
  · rename_i prepared prepares
    refine ⟨prepared, prepares, ?_⟩
    split at starts
    · rename_i engine
      exact .inl ⟨Json.eqStr_iff.mp engine, toOption_eq_some_iff.mp starts⟩
    · split at starts
      · rename_i engine
        exact .inr ⟨Json.eqStr_iff.mp engine, toOption_eq_some_iff.mp starts⟩
      · cases starts

/-- Nothing that is read raises, and neither does the engine process. -/
structure ReportsOnce (config : WorkerConfig) (world : EngineWorld) (call : ExecuteCall) :
    Prop where
  timeout : TimeoutReadable (extractExecution call.parameters)
  scriptPath : ∃ path, call.scriptPath = .str path
  k6 : call.engine = .str "k6" → call.parameters.truthy = true →
    ∃ items, call.parameters.asDict? = some items
  jmeter : call.engine = .str "jmeter" → ∃ items, call.parameters.asDict? = some items ∧
    TargetReadable ((items.get? "target_url").getD .null)
  process : ∀ started ∈ startedCall config call, ∀ e, world.run started ≠ .raised e

variable [Hashing]

/-- A prepared execution posts one terminal result and nothing else, or
nothing. -/
theorem executeBody_posts (config : WorkerConfig) {world : EngineWorld} {call : ExecuteCall}
    {prepared : Prepared} (delivers : ∀ payload, world.delivers payload = true)
    (prepares : prepare call = .ok prepared) :
    (ReportsOnce config world call ∧ ∃ payload, isTerminal payload = true ∧
        (executeBody config world prepared call).posts = [payload]) ∨
      (¬ ReportsOnce config world call ∧ (executeBody config world prepared call).posts = []) := by
  obtain ⟨timeout, scriptPath⟩ := prepare_ok_iff.mp ⟨prepared, prepares⟩
  unfold executeBody
  split
  · rename_i engine
    have started : startedCall config call =
        (k6Call config prepared call.parameters).toOption := by
      simp [startedCall, prepares, engine]
    rw [Json.eqStr_iff] at engine
    have once_iff : ProcessEnds world (k6Call config prepared call.parameters) ↔
        ReportsOnce config world call := by
      rw [processEnds_iff, k6Call_ok_iff, ← started]
      constructor
      · rintro ⟨readable, ends⟩
        exact ⟨timeout, scriptPath, fun _ => readable, by simp [engine], ends⟩
      · intro once
        exact ⟨once.k6 engine, once.process⟩
    rw [← once_iff]
    exact runBranch_posts (k6Branch config world prepared call.parameters) delivers
      (rawReport_calculateK6Summary _) prepared call.parameters
  · rename_i notK6
    split
    · rename_i engine
      have started : startedCall config call =
          (jmeterCall config prepared call.parameters).toOption := by
        simp [startedCall, prepares, notK6, engine]
      rw [Json.eqStr_iff] at engine
      have once_iff : ProcessEnds world (jmeterCall config prepared call.parameters) ↔
          ReportsOnce config world call := by
        rw [processEnds_iff, jmeterCall_ok_iff, ← started]
        constructor
        · rintro ⟨readable, ends⟩
          exact ⟨timeout, scriptPath, by simp [engine], fun _ => readable, ends⟩
        · intro once
          exact ⟨once.jmeter engine, once.process⟩
      rw [← once_iff]
      exact runBranch_posts (jmeterBranch config world prepared call.parameters) delivers
        (rawReport_calculateJmeterSummary _) prepared call.parameters
    · rename_i notJmeter
      have unstarted : startedCall config call = none := by
        simp [startedCall, prepares, notK6, notJmeter]
      rw [Json.eqStr_iff] at notK6 notJmeter
      refine .inl ⟨⟨timeout, scriptPath, fun h => absurd h notK6, fun h => absurd h notJmeter, ?_⟩,
        _, unsupportedResult_terminal prepared call.engine, ?_⟩
      · rw [unstarted]
        nofun
      · simp [postTaskResult, delivers]

/-- The same surroundings, with a network that takes every post. -/
def EngineWorld.connected (world : EngineWorld) : EngineWorld :=
  { world with delivers := fun _ => true }

/-- What an execution posts, whether it arrives or not. -/
def attemptedPosts (config : WorkerConfig) (world : EngineWorld) (activeTaskCount : Int)
    (call : ExecuteCall) : List Json :=
  (executeTask config world.connected activeTaskCount call).posts

omit [Hashing] [Runtime] in
theorem postTaskResult_eq_filter (world : EngineWorld) (payload : Json) :
    postTaskResult world payload =
      (postTaskResult world.connected payload).filter world.delivers := by
  show (if world.delivers payload then [payload] else []) = [payload].filter world.delivers
  rw [List.filter_singleton]
  cases world.delivers payload <;> rfl

theorem runBranch_posts_eq_filter (world : EngineWorld) (prepared : Prepared) (parameters : Json)
    (branch : EngineBranch) :
    (runBranch world prepared parameters branch).posts =
      (runBranch world.connected prepared parameters branch).posts.filter world.delivers := by
  unfold runBranch
  cases branch.call with
  | error e => rfl
  | ok started =>
      have same : world.connected.run started = world.run started := rfl
      dsimp only
      rw [same]
      cases world.run started with
      | raised e => rfl
      | timedOut stdout stderr =>
          dsimp only
          cases timeoutResult branch prepared stdout stderr with
          | error e => rfl
          | ok payload => exact postTaskResult_eq_filter world payload
      | exited returncode stdout stderr =>
          dsimp only
          cases exitResult branch prepared returncode stdout stderr with
          | error e => rfl
          | ok payload => exact postTaskResult_eq_filter world payload

/-- A post that does not arrive changes nothing else of the execution. -/
theorem posts_eq_filter (config : WorkerConfig) (world : EngineWorld) (activeTaskCount : Int)
    (call : ExecuteCall) :
    (executeTask config world activeTaskCount call).posts =
      (attemptedPosts config world activeTaskCount call).filter world.delivers := by
  unfold attemptedPosts executeTask
  cases prepare call with
  | error e => exact postTaskResult_eq_filter world _
  | ok prepared =>
      dsimp only
      rw [List.filter_append, ← postTaskResult_eq_filter]
      refine congrArg _ ?_
      unfold executeBody
      split
      · exact runBranch_posts_eq_filter world prepared call.parameters _
      · split
        · exact runBranch_posts_eq_filter world prepared call.parameters _
        · exact postTaskResult_eq_filter world _

/-- The posts of an execution on a network that takes them. -/
theorem attemptedPosts_reportsOnce (config : WorkerConfig) (world : EngineWorld)
    (call : ExecuteCall) (activeTaskCount : Int) :
    ((attemptedPosts config world activeTaskCount call).countP isTerminal ≤ 1) ∧
      ((attemptedPosts config world activeTaskCount call).countP isTerminal = 1 ↔
        ReportsOnce config world call) := by
  have delivers : ∀ payload, world.connected.delivers payload = true := fun _ => rfl
  have same : ReportsOnce config world.connected call ↔ ReportsOnce config world call :=
    ⟨fun once => ⟨once.timeout, once.scriptPath, once.k6, once.jmeter, once.process⟩,
      fun once => ⟨once.timeout, once.scriptPath, once.k6, once.jmeter, once.process⟩⟩
  have running : isTerminal (.obj [("execution_status", .str "running")]) = false := by decide
  rw [← same]
  unfold attemptedPosts executeTask
  cases prepares : prepare call with
  | error e =>
      have silent : ¬ ReportsOnce config world.connected call := by
        intro once
        obtain ⟨prepared, prepares'⟩ := prepare_ok_iff.mpr ⟨once.timeout, once.scriptPath⟩
        cases prepares.symm.trans prepares'
      simp [postTaskResult, delivers, running, silent]
  | ok prepared =>
      rcases executeBody_posts config delivers prepares with
        ⟨once, payload, terminal, posts⟩ | ⟨silent, posts⟩
      · simp [postTaskResult, delivers, running, posts, terminal, once]
      · simp [postTaskResult, delivers, running, posts, silent]

/-- An execution whose posts arrive makes at most one terminal report, and it
makes one if and only if nothing that it reads and no engine process raises. The
call can be any, accepted by the endpoint or not. -/
theorem executeTask_reportsOnce_iff (config : WorkerConfig) (world : EngineWorld)
    (call : ExecuteCall) (activeTaskCount : Int)
    (delivers : ∀ payload ∈ attemptedPosts config world activeTaskCount call,
      world.delivers payload = true) :
    ((executeTask config world activeTaskCount call).posts.countP isTerminal ≤ 1) ∧
      ((executeTask config world activeTaskCount call).posts.countP isTerminal = 1 ↔
        ReportsOnce config world call) := by
  rw [posts_eq_filter, List.filter_eq_self.mpr delivers]
  exact attemptedPosts_reportsOnce config world call activeTaskCount

/-- Every accepted execution makes exactly one terminal report. -/
def EveryExecutionReports : Prop :=
  ∀ (config : WorkerConfig) (world : EngineWorld) (headers : RequestHeaders) (body : Json)
    (call : ExecuteCall) (activeTaskCount : Int),
    executeEndpoint config headers body = .accepted call →
    (∀ payload ∈ attemptedPosts config world activeTaskCount call,
      world.delivers payload = true) →
    (executeTask config world activeTaskCount call).posts.countP isTerminal = 1

end Reports

/-! ### Two runs of k6 -/

def k6Request : ExecuteCall where
  taskId := .str "7"
  engine := .str "k6"
  scriptPath := .str "engines/k6/target_apps_echo_smoke.js"
  parameters := .obj []

/-- Engine processes that leave no output file, with a network that works. -/
def processWorld (outcome : ProcessOutcome) : EngineWorld where
  run _ := outcome
  k6Output := none
  jtlOutput := none
  delivers _ := true

/-- The digest of the raw report of a silent k6 run that exits with 0. -/
@[reducible] def silentRunHashing : Hashing where
  sha256 _ := "fdf254c0082438aeeb19fb2c6e24e2b515a003048f179d7e270c9c7fae9d8d66"

/-- Where k6 is not installed its process cannot be started, and the task is
reported as running only. -/
theorem missingEngine_reportsNothing : ¬ @EveryExecutionReports asciiRuntime silentRunHashing := by
  let _ := asciiRuntime
  let _ := silentRunHashing
  intro reports
  have once := reports plainWorker
    (processWorld (.raised (.osError "[Errno 2] No such file or directory: 'k6'")))
    ⟨some "secret", none⟩
    (.obj [("task_id", .str "7"), ("engine", .str "k6"),
      ("script_path", .str "engines/k6/target_apps_echo_smoke.js")])
    k6Request 0 rfl (fun _ _ => rfl)
  exact absurd once (by decide +kernel)

/-- A k6 process that exits with 0 is reported once. -/
theorem silentRun_reportsOnce :
    (@executeTask asciiRuntime silentRunHashing plainWorker (processWorld (.exited 0 "" "")) 0
      k6Request).posts.countP isTerminal = 1 := by
  let _ := asciiRuntime
  let _ := silentRunHashing
  apply (executeTask_reportsOnce_iff plainWorker (processWorld (.exited 0 "" "")) k6Request 0
    (fun _ _ => rfl)).2.mpr
  refine ⟨?_, ⟨_, rfl⟩, ?_, ?_, ?_⟩
  · apply executionTimeoutSeconds_ok_iff.mp
    exact ⟨none, rfl⟩
  · intro _ truthy
    cases truthy
  · intro jmeter
    simp [k6Request] at jmeter
  · intro started _ e raised
    cases raised

end PLoadtesting.Worker
