import PLoadtesting.ControlPlane.ResultCallback
import PLoadtesting.System.TaskRecord
import PLoadtesting.Worker.Reports

/-!
The diagnostic of a failed task.

A task fails by a result callback with `execution_status` `failed`, and takes the
`error_message` of the callback, which the serializer trims and which may be left
out. So every failed task has a diagnostic in a run whose failed callbacks carry
one (`failures_explained_run`).

A worker always sends a message. After a process that exits with another code than
0 it is the standard error as it is, unless that is empty, so it explains nothing
where the standard error is white space only (`executeTask_explains_iff`).
-/

namespace PLoadtesting.System

open Keyed Python ControlPlane Worker Transition

/-- The body of a result callback reports a failure. -/
def ReportsFailure (body : Json) : Prop :=
  body.dictOrEmpty.get? "execution_status" = some (.str "failed")

/-- The body has an `error_message`, and not only white space in it. -/
def Explains [Runtime] (body : Json) : Prop :=
  ∃ value, body.dictOrEmpty.get? "error_message" = some value ∧ ¬ IsBlankText value.toStr

/-- What the fields of the serializer do: the `ChoiceField` of the status, and the
trimming `CharField` of the message, which may be left out. -/
structure ReadsFailure [Runtime] (layer : ReportLayer) : Prop where
  failed {body : Json} {report : Report} (read : layer.toInternalValue body = .ok report) :
    report.failed = true → ReportsFailure body
  message {body : Json} {report : Report} (read : layer.toInternalValue body = .ok report)
    {value : Json} (given : body.dictOrEmpty.get? "error_message" = some value) :
    charField "error_message" none true value = .ok report.errorMessage

/-- Every failed task has a diagnostic. -/
def FailuresExplained (db : Database) : Prop :=
  ∀ task ∈ db.tasks, task.status = .failed → ¬ IsBlankText task.errorMessage

/-! ### Executions -/

section Worker

variable [Runtime] [Hashing]

/-- The engine process ends with another code than 0, and its standard error is
white space only, though not empty. -/
def ExitsBlank (config : WorkerConfig) (world : EngineWorld) (call : ExecuteCall) : Prop :=
  ∃ started code stdout stderr, startedCall config call = some started ∧
    world.run started = .exited code stdout stderr ∧ code ≠ 0 ∧ stderr ≠ "" ∧ IsBlankText stderr

omit [Hashing] in
theorem explains_of_get? {payload : Dict Json} {text : String}
    (found : payload.get? "error_message" = some (.str text)) :
    Explains (dictJson payload) ↔ ¬ IsBlankText text := by
  unfold Explains
  rw [dictOrEmpty_dictJson, found]
  constructor
  · rintro ⟨_, ⟨⟩, explained⟩
    exact explained
  · exact fun explained => ⟨_, rfl, explained⟩

omit [Runtime] [Hashing] in
theorem not_isBlankText {text : String} {c : Char} (mem : c ∈ text.toList)
    (letter : isSpace c = false) : ¬ IsBlankText text := by
  intro blank
  have space := blank c mem
  rw [letter] at space
  cases space

omit [Runtime] [Hashing] in
/-- A text with a letter of its own in front of the rest. -/
theorem not_isBlankText_append {first rest : String} {c : Char} (mem : c ∈ first.toList)
    (letter : isSpace c = false) : ¬ IsBlankText (first ++ rest) := by
  refine not_isBlankText ?_ letter
  rw [String.toList_append]
  exact List.mem_append_left _ mem

theorem explains_timeoutResult {branch : EngineBranch} {prepared : Prepared}
    {stdout stderr : String} {payload : Json}
    (made : timeoutResult branch prepared stdout stderr = .ok payload) : Explains payload := by
  obtain ⟨summary, _, returned⟩ := bind_ok_iff.mp made
  cases returned
  refine (explains_of_get? (Dict.get?_set.trans (if_pos rfl))).mpr ?_
  rw [String.append_assoc]
  exact not_isBlankText_append (c := 'E') (by decide) (by decide)

theorem explains_unsupportedResult (prepared : Prepared) (engine : Json) :
    Explains (unsupportedResult prepared engine) := by
  refine (@explains_of_get? _ _ ("Unsupported engine: " ++ engine.toStr) ?_).mpr ?_
  · simp [attachArtifactManifest, Dict.get?_ofItems]
  · exact not_isBlankText_append (c := 'U') (by decide) (by decide)

/-- A result of an exit that reports a failure is one of another code than 0. -/
theorem explains_exitResult_iff {branch : EngineBranch} {prepared : Prepared} {code : Int}
    {stdout stderr : String} {payload : Json}
    (made : exitResult branch prepared code stdout stderr = .ok payload)
    (failed : ReportsFailure payload) :
    Explains payload ↔ ¬ (code ≠ 0 ∧ stderr ≠ "" ∧ IsBlankText stderr) := by
  obtain ⟨summary, _, returned⟩ := bind_ok_iff.mp made
  by_cases zero : code = 0
  · rw [if_neg (not_not.mpr zero)] at returned
    cases returned
    simp [ReportsFailure] at failed
  · rw [if_pos zero] at returned
    cases returned
    refine (explains_of_get? (Dict.get?_set.trans (if_pos rfl))).trans (not_congr ?_)
    by_cases silent : stderr = ""
    · rw [if_neg (not_not.mpr silent), String.append_assoc]
      have speaks : ¬ IsBlankText (branch.label ++ (" exited with code " ++ toString code)) := by
        intro blank
        exact absurd (blank 'e' (by simp)) (by decide)
      exact iff_of_false speaks fun blank => blank.2.1 silent
    · rw [if_pos silent]
      simp [zero, silent]

omit [Runtime] [Hashing] in
theorem mem_postTaskResult {world : EngineWorld} {payload body : Json}
    (posted : body ∈ postTaskResult world payload) : body = payload := by
  unfold postTaskResult at posted
  split at posted
  · exact List.mem_singleton.mp posted
  · cases posted

/-- A branch posts the result of the timeout of its process or of its exit. -/
theorem mem_runBranch_posts {branch : EngineBranch} {world : EngineWorld} {prepared : Prepared}
    {parameters body : Json} (posted : body ∈ (runBranch world prepared parameters branch).posts) :
    ∃ started, branch.call = .ok started ∧
      ((∃ stdout stderr, world.run started = .timedOut stdout stderr ∧
          timeoutResult branch prepared stdout stderr = .ok body) ∨
        ∃ code stdout stderr, world.run started = .exited code stdout stderr ∧
          exitResult branch prepared code stdout stderr = .ok body) := by
  unfold runBranch at posted
  cases built : branch.call with
  | error e =>
      rw [built] at posted
      cases posted
  | ok started =>
      rw [built] at posted
      dsimp only at posted
      refine ⟨started, rfl, ?_⟩
      cases outcome : world.run started with
      | raised e =>
          rw [outcome] at posted
          cases posted
      | timedOut stdout stderr =>
          rw [outcome] at posted
          dsimp only at posted
          cases made : timeoutResult branch prepared stdout stderr with
          | error e =>
              rw [made] at posted
              cases posted
          | ok payload =>
              rw [made] at posted
              cases mem_postTaskResult posted
              exact .inl ⟨stdout, stderr, rfl, made⟩
      | exited code stdout stderr =>
          rw [outcome] at posted
          dsimp only at posted
          cases made : exitResult branch prepared code stdout stderr with
          | error e =>
              rw [made] at posted
              cases posted
          | ok payload =>
              rw [made] at posted
              cases mem_postTaskResult posted
              exact .inr ⟨code, stdout, stderr, rfl, made⟩

/-- The result of a branch explains its failure unless its process exits blank. -/
theorem runBranch_explains_iff {branch : EngineBranch} {world : EngineWorld}
    {prepared : Prepared} {parameters body : Json}
    (posted : body ∈ (runBranch world prepared parameters branch).posts)
    (failed : ReportsFailure body) :
    Explains body ↔ ¬ ∃ started code stdout stderr, branch.call.toOption = some started ∧
      world.run started = .exited code stdout stderr ∧ code ≠ 0 ∧ stderr ≠ "" ∧
      IsBlankText stderr := by
  obtain ⟨started, built, outcome⟩ := mem_runBranch_posts posted
  rw [built]
  rcases outcome with ⟨stdout, stderr, timedOut, made⟩ | ⟨code, stdout, stderr, exited, made⟩
  · refine iff_of_true (explains_timeoutResult made) ?_
    rintro ⟨_, _, _, _, ⟨⟩, exited, _⟩
    rw [timedOut] at exited
    cases exited
  · rw [explains_exitResult_iff made failed]
    refine not_congr ⟨fun blank => ⟨started, code, stdout, stderr, rfl, exited, blank⟩, ?_⟩
    rintro ⟨_, _, _, _, ⟨⟩, exited', blank⟩
    cases exited.symm.trans exited'
    exact blank

/-- A failure that an execution reports is explained unless its process exits
blank. -/
theorem executeTask_explains_iff {config : WorkerConfig} {world : EngineWorld}
    {activeTaskCount : Int} {call : ExecuteCall} {body : Json}
    (posted : body ∈ (executeTask config world activeTaskCount call).posts)
    (failed : ReportsFailure body) : Explains body ↔ ¬ ExitsBlank config world call := by
  have notRunning : body ∉ postTaskResult world
      (.obj [("execution_status", .str "running")]) := by
    intro running
    cases mem_postTaskResult running
    exact absurd (Json.str.inj (Option.some.inj failed)) (by decide)
  unfold executeTask at posted
  unfold ExitsBlank startedCall
  cases prepares : prepare call with
  | error e =>
      rw [prepares] at posted
      exact absurd posted notRunning
  | ok prepared =>
      rw [prepares] at posted
      have inBody := (List.mem_append.mp posted).resolve_left notRunning
      unfold executeBody at inBody
      dsimp only
      split at inBody
      · rename_i k6
        rw [if_pos k6]
        exact runBranch_explains_iff inBody failed
      · rename_i notK6
        rw [if_neg notK6]
        split at inBody
        · rename_i jmeter
          rw [if_pos jmeter]
          exact runBranch_explains_iff inBody failed
        · rename_i other
          rw [if_neg other]
          cases mem_postTaskResult inBody
          refine iff_of_true (explains_unsupportedResult prepared call.engine) ?_
          rintro ⟨_, _, _, _, ⟨⟩, _⟩

end Worker

/-! ### Operations -/

section Operations

variable {db : Database}

theorem FailuresExplained.updateTask {id : TaskId} {f : LoadTestTask → LoadTestTask}
    {keeps : ∀ task, (f task).id = task.id} (explained : FailuresExplained db)
    (writes : ∀ task ∈ db.tasks, task.id = id → (f task).status = .failed →
      ¬ IsBlankText (f task).errorMessage) : FailuresExplained (db.updateTask id f keeps) := by
  intro task mem failed
  rcases Database.mem_updateTask_cases mem with ⟨row, stored, same, rfl⟩ | ⟨stored, _⟩
  · exact writes row stored same failed
  · exact explained task stored failed

theorem FailuresExplained.insertTask {task : LoadTestTask} (explained : FailuresExplained db)
    (pending : task.status = .pending) : FailuresExplained (db.insertTask task) := by
  intro row mem failed
  rcases Table.mem_upsert.mp mem with rfl | ⟨stored, _⟩
  · rw [pending] at failed
    cases failed
  · exact explained row stored failed

variable [Runtime] {now : Timestamp}

/-- A dispatch call writes the row of a pending task. -/
theorem FailuresExplained.dispatch (explained : FailuresExplained db) (id : TaskId)
    (delivery : WorkerNode → Delivery) :
    FailuresExplained (dispatchTaskOnce db id delivery now).2 := by
  have outcome := dispatchTaskOnce_cases db id delivery now
  generalize dispatchTaskOnce db id delivery now = result at outcome ⊢
  cases outcome with
  | kept notDispatched => exact explained
  | @noted task errorMessage stored pending =>
      refine explained.updateTask ?_
      intro row mem same failed
      obtain ⟨taskMem, rfl⟩ := Table.find?_eq_some_iff.mp stored
      cases Table.eq_of_key_eq mem taskMem same
      exact absurd (pending.symm.trans failed) (by rintro ⟨⟩)
  | dispatched stored pending selected delivered =>
      refine explained.updateTask ?_
      rintro row _ _ ⟨⟩

theorem FailuresExplained.create (explained : FailuresExplained db) (deployment : Deployment)
    (headers : Headers) (body : Json) (occasion : Occasion) :
    FailuresExplained (createTask deployment headers db body occasion).2 := by
  have served : ∀ demoCreate,
      FailuresExplained (createServed deployment demoCreate db body occasion).2 := by
    intro demoCreate
    have outcome := createServed_cases deployment demoCreate db body occasion
    generalize createServed deployment demoCreate db body occasion = result at outcome ⊢
    cases outcome with
    | invalid notCreated invalid => exact explained
    | denied notCreated accepts demo notSafe => exact explained
    | taken e taken => exact explained
    | unplanned e accepts fresh unplanned safe => exact explained.insertTask rfl
    | stored accepts fresh planned shared => exact explained.insertTask rfl
    | demo accepts fresh planned demo safe =>
        rw [finishDemoCreate_snd]
        exact (explained.insertTask rfl).dispatch occasion.id occasion.delivery
  unfold createTask
  split
  · exact served false
  · split
    · split
      · exact explained
      · exact explained
      · exact served true
    · exact explained

/-- A `CharField` trims. -/
theorem charField_eq {field text : String} {maxLength : Option Nat} {allowBlank : Bool}
    {value : Json} (read : charField field maxLength allowBlank value = .ok text) :
    text = strip value.toStr := by
  obtain ⟨_, _, read⟩ := bind_ok_iff.mp read
  obtain ⟨_, _, read⟩ := bind_ok_iff.mp read
  obtain ⟨_, _, read⟩ := bind_ok_iff.mp read
  exact (Except.ok.inj read).symm

/-- A callback that reports no failure, or explains it. -/
theorem FailuresExplained.callback {layer : ReportLayer} (reads : ReadsFailure layer)
    (explained : FailuresExplained db) {id : TaskId} {body : Json}
    (explains : ReportsFailure body → Explains body) :
    FailuresExplained (postResult layer db id body now).2 := by
  have outcome := postResult_cases layer db id body now
  generalize postResult layer db id body now = result at outcome ⊢
  cases outcome with
  | missing missing => exact explained
  | conflict stored had => exact explained
  | refused stored notAccepted notRunning noReport => exact explained
  | started stored first running =>
      refine explained.updateTask ?_
      rintro row _ _ ⟨⟩
  | @finished task report stored first reports =>
      have committed : FailuresExplained
          { db with results := db.results.upsert ⟨task.id, report.fields, now⟩ } := explained
      refine committed.updateTask ?_
      intro row _ _ failed
      cases hasFailed : report.failed with
      | false =>
          rw [hasFailed] at failed
          cases failed
      | true =>
          obtain ⟨value, given, speaks⟩ := explains (reads.failed reports.read hasFailed)
          have trimmed := charField_eq (reads.message reports.read given)
          show ¬ IsBlankText report.errorMessage
          rw [trimmed, isBlankText_strip_iff]
          exact speaks

end Operations

/-! ### Runs -/

section Runs

variable [Runtime] [Hashing]

/-- A callback that reports a failure explains it. -/
def IsDiagnostic (_ : Timed Database) (e : Timestamp × TaskOperation) : Prop :=
  ∀ id body, e.2 = .request (.callback id body) → ReportsFailure body → Explains body

/-- In every run whose failure reports are diagnostic every failed task has a
diagnostic; and a failure that a worker reports is diagnostic unless the process
of its execution exits blank. -/
theorem failures_explained {deployment : Deployment} {layer : ReportLayer}
    (reads : ReadsFailure layer) :
    (∀ {s t : Timed Database} {es : List (Timestamp × TaskOperation)},
      FailuresExplained s.state →
      Run (Timed.take (TaskOperation.apply deployment layer)) IsDiagnostic s es t →
      FailuresExplained t.state) ∧
    ∀ (config : WorkerConfig) (world : EngineWorld) (activeTaskCount : Int) (call : ExecuteCall),
      ∀ body ∈ (executeTask config world activeTaskCount call).posts, ReportsFailure body →
        (Explains body ↔ ¬ ExitsBlank config world call) := by
  refine ⟨?_, fun _ _ _ _ _ posted failed => executeTask_explains_iff posted failed⟩
  intro s t es init run
  refine run.preserves (I := fun s => FailuresExplained s.state) ?_ init
  rintro s ⟨now, operation⟩ t diagnostic moves explained
  obtain ⟨_, rfl⟩ := Timed.take_eq_some_iff.mp moves
  cases operation with
  | create headers body id delivery => exact explained.create deployment headers body _
  | workers table => exact explained
  | request step =>
      cases step with
      | dispatch id delivery => exact explained.dispatch id delivery
      | callback id body =>
          exact explained.callback reads fun failed => diagnostic id body rfl failed

end Runs

/-! ### A process that exits with code 1 -/

/-- The serializer, of which only the status and the message are read. -/
def statusLayer [Runtime] : ReportLayer where
  toInternalValue body := do
    let message ← optionalField body.dictOrEmpty "error_message"
      (charField "error_message" none true)
    let status := (body.dictOrEmpty.get? "execution_status").getD .null
    return { emptyReport with failed := status.eqStr "failed", errorMessage := message.getD "" }
  registerTaskArtifacts _ _ := .ok ()

theorem statusLayer_reads [Runtime] : ReadsFailure statusLayer := by
  constructor
  · intro body report read hasFailed
    obtain ⟨message, _, returned⟩ := bind_ok_iff.mp read
    cases returned
    unfold ReportsFailure
    cases found : body.dictOrEmpty.get? "execution_status" with
    | none => simp [found, Json.eqStr] at hasFailed
    | some status =>
        have same : status = .str "failed" := by
          simpa [found, Json.eqStr_iff] using hasFailed
        rw [same]
  · intro body report read value given
    obtain ⟨message, made, returned⟩ := bind_ok_iff.mp read
    cases returned
    unfold optionalField at made
    rw [given] at made
    obtain ⟨text, trimmed, rfl⟩ := map_ok_iff.mp made
    exact trimmed

def failedBody (message : String) : Json :=
  .obj [("execution_status", .str "failed"), ("error_message", .str message)]

/-- A running task that is reported as failed, with a message. -/
theorem brokenPipe_explained :
    FailuresExplained (@postResult (@statusLayer asciiRuntime) runningStore.db "t"
      (failedBody "broken pipe") 1).2 := by
  let _ := asciiRuntime
  let _ := silentRunHashing
  have init : FailuresExplained runningStore.db := by
    intro task mem failed
    cases List.mem_singleton.mp mem
    cases failed
  have admitted (s : Timed Database) : IsDiagnostic s
      (1, .request (.callback "t" (failedBody "broken pipe"))) := by
    rintro id body ⟨⟩ _
    exact ⟨_, rfl, not_isBlankText (c := 'b') (by decide) (by decide)⟩
  have run : Run (Timed.take (TaskOperation.apply tokenDeployment statusLayer)) IsDiagnostic
      ⟨runningStore.db, 0⟩ [(1, .request (.callback "t" (failedBody "broken pipe")))]
      ⟨(postResult statusLayer runningStore.db "t" (failedBody "broken pipe") 1).2, 1⟩ :=
    .next (admitted _) rfl (.done _)
  exact (failures_explained statusLayer_reads).1 init run

/-- What a worker posts of a k6 process that exits with code 1 and a line break. -/
def blankExitPosts : List Json :=
  (@executeTask asciiRuntime silentRunHashing plainWorker (processWorld (.exited 1 "" "\n")) 0
    k6Request).posts

/-- The task is created and dispatched, and the worker's callbacks arrive. -/
def blankExitRun : List (Timestamp × TaskOperation) :=
  [(0, .workers oneTask.db.workers), (1, .create tokenHeaders (k6Body []) "t" fun _ => .answered),
    (2, .request (.dispatch "t" fun _ => .answered))] ++
    blankExitPosts.map fun body => (3, .request (.callback "t" body))

/-- The task fails without a diagnostic. -/
theorem blankExit_unexplained :
    let apply := @TaskOperation.apply asciiRuntime tokenDeployment (@statusLayer asciiRuntime)
    ∃ t, exec (Timed.take apply) ⟨emptyDatabase, 0⟩ blankExitRun = some t ∧
      ¬ FailuresExplained t.state := by
  intro apply
  have replays : (exec (Timed.take apply) ⟨emptyDatabase, 0⟩ blankExitRun).map (fun t =>
      t.state.tasks.rows.map fun task => (task.status, task.errorMessage)) =
        some [(.failed, "")] := by
    decide +kernel
  obtain ⟨t, run, ends⟩ := Option.map_eq_some_iff.mp replays
  refine ⟨t, run, ?_⟩
  intro explained
  have only : (TaskStatus.failed, "") ∈ t.state.tasks.rows.map fun task =>
      (task.status, task.errorMessage) := by
    rw [ends]
    exact List.mem_singleton.mpr rfl
  obtain ⟨task, mem, same⟩ := List.mem_map.mp only
  have failed : task.status = .failed := congrArg Prod.fst same
  have empty : task.errorMessage = "" := congrArg Prod.snd same
  refine explained task mem failed ?_
  rw [empty]
  intro c inEmpty
  exact absurd inEmpty List.not_mem_nil

end PLoadtesting.System
