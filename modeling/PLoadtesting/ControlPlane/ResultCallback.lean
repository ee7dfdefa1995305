import PLoadtesting.ControlPlane.ArtifactRegistry
import PLoadtesting.ControlPlane.ResultViews

/-!
`TaskResultCreateView.post` with everything it writes: the result, the artifacts
of the manifest and the task, in one transaction. `ResultViews` has the same
view with the registration of the artifacts reduced to its outcome;
`postCallback_db` says that the two agree on the database.

The answer to a stored report is rendered after the transaction, and the
renderer refuses numbers that JSON does not have and texts that UTF-8 cannot
write. Such a report is stored and answered with a server error
(`callbackAtomic_iff`).
-/

namespace PLoadtesting.ControlPlane

open Keyed Python Transaction

/-- Every value of the result can be sent as JSON. -/
def ResultFields.isRenderable (fields : ResultFields) : Bool :=
  Json.isRenderable fields.rawReport && Json.isRenderable fields.thresholdsDetail &&
    [fields.errorRatePct, fields.avgResponseMs, fields.p90ResponseMs, fields.p95ResponseMs,
      fields.p99ResponseMs, fields.maxResponseMs, fields.throughputRps].all Double.isFinite

/-- `TestResultCreateSerializer`: the validated report, and its
`artifact_manifest` or null. -/
abbrev ResultSerializer := Json → Except Exc (Report × Json)

/-! ### The transaction -/

/-- `TestResult.objects.create(task=task, …)`. -/
def createResult (columns : Columns) (task : LoadTestTask) (report : Report) (now : Timestamp) :
    Action Store Exc Unit := do
  Action.ofExcept (columns.result report.fields)
  let inserted ← Action.read (·.db.results.insert? ⟨task.id, report.fields, now⟩)
  match inserted with
  | some results => Action.write fun store => { store with db := { store.db with results } }
  | none =>
      Action.ofExcept (Except.error
        (.integrityError "UNIQUE constraint failed: results_testresult.task_id"))

/-- The body of `with transaction.atomic():`. -/
def storeReport [Runtime] (columns : Columns) (task : LoadTestTask) (report : Report)
    (manifest : Json) (now : Timestamp) : Action Store Exc Unit := do
  createResult columns task report now
  registerTaskArtifacts columns task manifest now
  Action.write fun store => { store with db := store.db.saveFinished task report now }

/-- `raise serializers.ValidationError({"artifact_manifest": [str(exc)]})`. -/
def manifestRefused (text : String) : Exc :=
  .validationError (.obj [("artifact_manifest", .arr [.str text])])

/-- The renderer's refusal: of a number as not compliant, or of a surrogate. -/
def notRenderable : Exc := .valueError "Out of range float values are not JSON compliant"

/-- The answer to a stored report, once rendered. -/
def renderedAnswer (task : LoadTestTask) (report : Report) : CallbackResponse :=
  if report.fields.isRenderable then .created task.id else .serverError notRenderable

/-- The result branch of the view, after the task is loaded. -/
def answerReport [Runtime] (serializer : ResultSerializer) (columns : Columns) (store : Store)
    (task : LoadTestTask) (body : Json) (now : Timestamp) : CallbackResponse × Store :=
  match serializer body with
  | .error (.validationError detail) => (.badRequest (.validationError detail), store)
  | .error e => (.serverError e, store)
  | .ok (report, manifest) =>
      match (Action.atomic (storeReport columns task report manifest now)).execute store with
      | (.error (.valueError text), store) => (.badRequest (manifestRefused text), store)
      | (.error e, store) => (.serverError e, store)
      | (.ok (), store) => (renderedAnswer task report, store)

/-- `TaskResultCreateView.post`. -/
def postCallback [Runtime] (serializer : ResultSerializer) (columns : Columns) (store : Store)
    (taskId : TaskId) (body : Json) (now : Timestamp) : CallbackResponse × Store :=
  match store.db.tasks.find? taskId with
  | none => (.notFound, store)
  | some task =>
      match executionStatus body with
      | .error e => (.serverError e, store)
      | .ok status =>
          if store.db.hasResult taskId then (.conflict, store)
          else if status.eqStr "running" then
            (.accepted task.id, { store with db := store.db.saveRunning task now })
          else answerReport serializer columns store task body now

/-! ### What the transaction does -/

/-- What registering the manifest comes to, apart from the rows it writes. -/
def registrationOutcome [Runtime] (columns : Columns) (task : LoadTestTask) (manifest : Json)
    (now : Timestamp) : Except Exc Unit := do
  let (version, items) ← normalizeArtifactManifestPayload manifest
  items.forM fun entry =>
    (normalizeTaskArtifactMetadata task version now entry).bind columns.artifact

/-- What the transaction of a first result comes to, apart from the rows it
writes. -/
def storeOutcome [Runtime] (columns : Columns) (task : LoadTestTask) (report : Report)
    (manifest : Json) (now : Timestamp) : Except Exc Unit :=
  (columns.result report.fields).bind fun _ => registrationOutcome columns task manifest now

section Transaction

variable [Runtime] {columns : Columns} {task : LoadTestTask} {report : Report} {manifest : Json}
  {now : Timestamp} {store store' : Store}

/-- Registering an entry writes the artifact table only, and its outcome does
not depend on the store. -/
theorem registerNormalized_execute (version : String) (entry : Json) (store : Store) :
    ∃ store',
      (registerNormalizedTaskArtifact columns task version now entry).execute store =
          ((normalizeTaskArtifactMetadata task version now entry).bind columns.artifact, store') ∧
        store'.db = store.db := by
  unfold registerNormalizedTaskArtifact
  cases normalizeTaskArtifactMetadata task version now entry with
  | error e => exact ⟨store, rfl, rfl⟩
  | ok row =>
      cases taken : columns.artifact row with
      | error e =>
          refine ⟨store, ?_, rfl⟩
          show (Action.ofExcept (columns.artifact row) >>= _).execute store =
            (columns.artifact row, store)
          rw [taken]
          rfl
      | ok _ =>
          refine ⟨upsertArtifact row store, ?_, rfl⟩
          show (Action.ofExcept (columns.artifact row) >>= _).execute store =
            (columns.artifact row, upsertArtifact row store)
          rw [taken]
          rfl

theorem registerTaskArtifacts_execute (store : Store) :
    ∃ store', (registerTaskArtifacts columns task manifest now).execute store =
        (registrationOutcome columns task manifest now, store') ∧ store'.db = store.db := by
  unfold registerTaskArtifacts registrationOutcome
  cases normalizeArtifactManifestPayload manifest with
  | error e => exact ⟨store, rfl, rfl⟩
  | ok payload =>
      obtain ⟨version, items⟩ := payload
      exact Action.execute_forEach_of_outcome
        (fun entry store => registerNormalized_execute version entry store) items store

omit [Runtime] in
/-- The first result of a task is created unless the columns refuse it. -/
theorem createResult_execute (first : store.db.hasResult task.id = false)
    (taken : columns.result report.fields = .ok ()) :
    (createResult columns task report now).execute store = (.ok (), { store with db :=
      { store.db with results := store.db.results.upsert ⟨task.id, report.fields, now⟩ } }) := by
  have fresh : store.db.results.find? task.id = none := by
    unfold Database.hasResult at first
    simpa using first
  have accepted : (Action.ofExcept (columns.result report.fields)).execute store =
      (.ok (), store) := congrArg (·, store) taken
  have inserted : (Action.read (E := Exc) fun store : Store =>
      store.db.results.insert? ⟨task.id, report.fields, now⟩).execute store =
        (.ok (some (store.db.results.upsert ⟨task.id, report.fields, now⟩)), store) :=
    congrArg (fun results => (Except.ok results, store))
      (Table.insert?_eq_some_iff.mpr ⟨fresh, rfl⟩)
  unfold createResult
  rw [Action.execute_bind_of_ok accepted, Action.execute_bind_of_ok inserted]
  rfl

/-- The transaction of a first result raises what `storeOutcome` raises, and
otherwise writes the result and the task. -/
theorem storeReport_execute (first : store.db.hasResult task.id = false) :
    ∃ store', (storeReport columns task report manifest now).execute store =
        (storeOutcome columns task report manifest now, store') ∧
      (storeOutcome columns task report manifest now = .ok () →
        store'.db = { store.db with
          results := store.db.results.upsert ⟨task.id, report.fields, now⟩ }.saveFinished
            task report now) := by
  unfold storeReport storeOutcome
  cases taken : columns.result report.fields with
  | error e =>
      refine ⟨store, ?_, nofun⟩
      apply Action.execute_bind_of_error
      show (Action.ofExcept (columns.result report.fields) >>= _).execute store = _
      rw [taken]
      rfl
  | ok _ =>
      rw [Action.execute_bind_of_ok (createResult_execute first taken)]
      obtain ⟨store', ran, kept⟩ := @registerTaskArtifacts_execute _ columns task manifest now
        { store with db :=
          { store.db with results := store.db.results.upsert ⟨task.id, report.fields, now⟩ } }
      cases registered : registrationOutcome columns task manifest now with
      | error e =>
          rw [registered] at ran
          exact ⟨store', Action.execute_bind_of_error ran, nofun⟩
      | ok _ =>
          rw [registered] at ran
          refine ⟨_, Action.execute_bind_of_ok ran, fun _ => ?_⟩
          show store'.db.saveFinished task report now = _
          rw [kept]

end Transaction

/-! ### The outcomes of a callback -/

/-- The body is a result callback's, and the transaction stores its report. -/
structure Commits [Runtime] (serializer : ResultSerializer) (columns : Columns)
    (task : LoadTestTask) (body : Json) (now : Timestamp) (report : Report) (manifest : Json) :
    Prop where
  notRunning : ¬ IsRunning body
  readable : ∃ status, executionStatus body = .ok status
  read : serializer body = .ok (report, manifest)
  stored : storeOutcome columns task report manifest now = .ok ()

/-- The outcomes of a callback, with the artifacts. -/
inductive PostCase [Runtime] (serializer : ResultSerializer) (columns : Columns) (store : Store)
    (id : TaskId) (body : Json) (now : Timestamp) : CallbackResponse × Store → Prop where
  | missing (missing : store.db.tasks.find? id = none) :
      PostCase serializer columns store id body now (.notFound, store)
  | conflict {task : LoadTestTask} (stored : store.db.tasks.find? id = some task)
      (had : store.db.hasResult id = true) :
      PostCase serializer columns store id body now (.conflict, store)
  | started {task : LoadTestTask} (stored : store.db.tasks.find? id = some task)
      (first : store.db.hasResult id = false) (running : IsRunning body) :
      PostCase serializer columns store id body now
        (.accepted task.id, { store with db := store.db.saveRunning task now })
  | refused {response : CallbackResponse} {task : LoadTestTask}
      (stored : store.db.tasks.find? id = some task) (notAccepted : response.isAccepted = false)
      (first : (∃ status, executionStatus body = .ok status) → store.db.hasResult id = false)
      (notRunning : ¬ IsRunning body)
      (noCommit : ∀ report manifest, ¬ Commits serializer columns task body now report manifest) :
      PostCase serializer columns store id body now (response, store)
  | finished {task : LoadTestTask} {report : Report} {manifest : Json} {store' : Store}
      (stored : store.db.tasks.find? id = some task) (first : store.db.hasResult id = false)
      (commits : Commits serializer columns task body now report manifest)
      (written : store'.db = { store.db with
        results := store.db.results.upsert ⟨task.id, report.fields, now⟩ }.saveFinished
          task report now) :
      PostCase serializer columns store id body now (renderedAnswer task report, store')

section Post

variable [Runtime] {serializer : ResultSerializer} {columns : Columns} {store : Store}
  {id : TaskId} {body : Json} {now : Timestamp} {task : LoadTestTask}

theorem answerReport_cases (stored : store.db.tasks.find? id = some task)
    (first : store.db.hasResult id = false) (notRunning : ¬ IsRunning body)
    (readable : ∃ status, executionStatus body = .ok status) :
    PostCase serializer columns store id body now
      (answerReport serializer columns store task body now) := by
  obtain ⟨mem, rfl⟩ := Table.find?_eq_some_iff.mp stored
  unfold answerReport
  cases read : serializer body with
  | error e =>
      have noCommit : ∀ report manifest,
          ¬ Commits serializer columns task body now report manifest := by
        intro report manifest commits
        cases read.symm.trans commits.read
      cases e with
      | _ => exact .refused stored rfl (fun _ => first) notRunning noCommit
  | ok validated =>
      obtain ⟨report, manifest⟩ := validated
      obtain ⟨store', ran, written⟩ :=
        @storeReport_execute _ columns task report manifest now store first
      dsimp only
      cases outcome : storeOutcome columns task report manifest now with
      | ok _ =>
          rw [outcome] at ran
          rw [Action.execute_atomic_ok_iff.mpr ran]
          exact .finished stored first ⟨notRunning, readable, read, outcome⟩ (written outcome)
      | error e =>
          rw [outcome] at ran
          rw [Action.execute_atomic_error_iff.mpr ⟨rfl, store', ran⟩]
          have noCommit : ∀ report manifest,
              ¬ Commits serializer columns task body now report manifest := by
            intro report' manifest' commits
            cases read.symm.trans commits.read
            cases outcome.symm.trans commits.stored
          cases e with
          | _ => exact .refused stored rfl (fun _ => first) notRunning noCommit

theorem postCallback_cases :
    PostCase serializer columns store id body now
      (postCallback serializer columns store id body now) := by
  unfold postCallback
  cases stored : store.db.tasks.find? id with
  | none => exact .missing stored
  | some task =>
      dsimp only
      cases read : executionStatus body with
      | error e =>
          refine .refused stored rfl ?_ ?_ ?_
          · rintro ⟨status, readable⟩
            cases read.symm.trans readable
          · rintro ⟨status, readable, _⟩
            cases read.symm.trans readable
          · intro report manifest commits
            obtain ⟨status, readable⟩ := commits.readable
            cases read.symm.trans readable
      | ok status =>
          dsimp only
          cases had : store.db.hasResult id with
          | true => exact .conflict stored had
          | false =>
              cases isRunning : status.eqStr "running" with
              | true => exact .started stored had ⟨status, read, isRunning⟩
              | false =>
                  refine answerReport_cases stored had ?_ ⟨status, read⟩
                  rintro ⟨status', readable, running⟩
                  cases read.symm.trans readable
                  rw [isRunning] at running
                  cases running

/-- A callback leaves the results and the artifacts as they were, or has run the
transaction of a first result. -/
theorem postCallback_results :
    ((postCallback serializer columns store id body now).2.artifacts = store.artifacts ∧
      (postCallback serializer columns store id body now).2.db.results = store.db.results) ∨
    ∃ task report manifest, store.db.tasks.find? id = some task ∧
      store.db.hasResult id = false ∧ serializer body = .ok (report, manifest) ∧
      (storeReport columns task report manifest now).execute store =
        (.ok (), (postCallback serializer columns store id body now).2) := by
  unfold postCallback
  cases stored : store.db.tasks.find? id with
  | none => exact .inl ⟨rfl, rfl⟩
  | some task =>
      dsimp only
      cases executionStatus body with
      | error e => exact .inl ⟨rfl, rfl⟩
      | ok status =>
          dsimp only
          cases first : store.db.hasResult id with
          | true => exact .inl ⟨rfl, rfl⟩
          | false =>
              cases status.eqStr "running" with
              | true => exact .inl ⟨rfl, rfl⟩
              | false =>
                  show ((answerReport serializer columns store task body now).2.artifacts = _ ∧
                    (answerReport serializer columns store task body now).2.db.results = _) ∨ _
                  unfold answerReport
                  cases read : serializer body with
                  | error e =>
                      cases e with
                      | _ => exact .inl ⟨rfl, rfl⟩
                  | ok validated =>
                      obtain ⟨report, manifest⟩ := validated
                      dsimp only
                      cases ran : (Action.atomic
                          (storeReport columns task report manifest now)).execute store with
                      | mk outcome store' =>
                          cases outcome with
                          | error e =>
                              obtain ⟨rfl, _⟩ := Action.execute_atomic_error_iff.mp ran
                              cases e with
                              | _ => exact .inl ⟨rfl, rfl⟩
                          | ok _ =>
                              refine .inr ⟨task, report, manifest, rfl, rfl, rfl, ?_⟩
                              exact Action.execute_atomic_ok_iff.mp ran

/-- A report that is answered with 201 is stored as it was validated. -/
theorem postCallback_created {created : TaskId} {store' : Store}
    (posted : postCallback serializer columns store id body now = (.created created, store')) :
    ∃ report manifest, serializer body = .ok (report, manifest) ∧
      store'.db.results.find? id = some ⟨id, report.fields, now⟩ := by
  have outcome := @postCallback_cases _ serializer columns store id body now
  rw [posted] at outcome
  generalize answered : (CallbackResponse.created created, store') = answer at outcome
  cases outcome with
  | missing => cases answered
  | conflict => cases answered
  | started => cases answered
  | refused _ notAccepted =>
      cases answered
      cases notAccepted
  | @finished task report manifest store'' stored first commits written =>
      obtain ⟨_, rfl⟩ := Table.find?_eq_some_iff.mp stored
      obtain ⟨_, rfl⟩ := Prod.mk.inj answered
      refine ⟨report, manifest, commits.read, ?_⟩
      rw [written]
      exact (Table.find?_upsert task.id).trans (if_pos rfl)

end Post

/-! ### The database alone -/

/-- The layer of `ResultViews` that a serializer and columns give at an
instant. -/
def reportLayerAt [Runtime] (serializer : ResultSerializer) (columns : Columns) (now : Timestamp) :
    ReportLayer where
  toInternalValue body := (serializer body).map Prod.fst
  registerTaskArtifacts task body :=
    (serializer body).bind fun (report, manifest) =>
      storeOutcome columns task report manifest now

section Refinement

variable [Runtime] {serializer : ResultSerializer} {columns : Columns} {store : Store}
  {id : TaskId} {body : Json} {now : Timestamp} {task : LoadTestTask}

theorem answerReport_db (first : store.db.hasResult task.id = false) :
    (answerReport serializer columns store task body now).2.db =
      (reportResult (reportLayerAt serializer columns now) store.db task body now).2 := by
  unfold answerReport reportResult
  cases read : serializer body with
  | error e =>
      simp only [reportLayerAt, read, Except.map]
      cases e with
      | _ => rfl
  | ok validated =>
      obtain ⟨report, manifest⟩ := validated
      obtain ⟨store', ran, written⟩ :=
        @storeReport_execute _ columns task report manifest now store first
      simp only [reportLayerAt, read, Except.map, Except.bind]
      rw [commitResult_of_first first]
      cases outcome : storeOutcome columns task report manifest now with
      | ok _ =>
          rw [outcome] at ran
          rw [Action.execute_atomic_ok_iff.mpr ran]
          exact written outcome
      | error e =>
          rw [outcome] at ran
          rw [Action.execute_atomic_error_iff.mpr ⟨rfl, store', ran⟩]
          cases e with
          | _ => rfl

/-- `postResult` is what this view does to the database. -/
theorem postCallback_db :
    (postCallback serializer columns store id body now).2.db =
      (postResult (reportLayerAt serializer columns now) store.db id body now).2 := by
  unfold postCallback postResult
  cases stored : store.db.tasks.find? id with
  | none => rfl
  | some task =>
      obtain ⟨mem, rfl⟩ := Table.find?_eq_some_iff.mp stored
      dsimp only
      cases executionStatus body with
      | error e => rfl
      | ok status =>
          dsimp only
          cases had : store.db.hasResult task.id with
          | true => rfl
          | false =>
              cases status.eqStr "running" with
              | true => rfl
              | false => exact answerReport_db had

end Refinement

/-! ### Atomicity -/

/-- One callback with a JSON object for a body: without an accepted answer
nothing is written, and a task that has a result keeps it. -/
structure CallbackAtomic [Runtime] (serializer : ResultSerializer) (columns : Columns)
    (store : Store) (id : TaskId) (items : List (String × Json)) (now : Timestamp) : Prop where
  unchanged : (postCallback serializer columns store id (.obj items) now).1.isAccepted = false →
    (postCallback serializer columns store id (.obj items) now).2 = store
  firstWins : (store.db.tasks.find? id).isSome = true → store.db.hasResult id = true →
    postCallback serializer columns store id (.obj items) now = (.conflict, store)

/-- The callback stores a report with a number that JSON does not have, or a text
that holds a surrogate. -/
def CommitsUnrenderable [Runtime] (serializer : ResultSerializer) (columns : Columns)
    (store : Store) (id : TaskId) (body : Json) (now : Timestamp) : Prop :=
  store.db.hasResult id = false ∧ ∃ task, store.db.tasks.find? id = some task ∧
    ∃ report manifest, Commits serializer columns task body now report manifest ∧
      report.fields.isRenderable = false

theorem renderedAnswer_isAccepted {task : LoadTestTask} {report : Report} :
    (renderedAnswer task report).isAccepted = report.fields.isRenderable := by
  unfold renderedAnswer
  cases report.fields.isRenderable with
  | true => rfl
  | false => rfl

section Atomicity

variable [Runtime] {serializer : ResultSerializer} {columns : Columns} {store : Store}
  {id : TaskId} {body : Json} {now : Timestamp}

/-- A task with a result is answered with a conflict. -/
theorem postCallback_conflict (stored : (store.db.tasks.find? id).isSome = true)
    (had : store.db.hasResult id = true) (readable : ∃ status, executionStatus body = .ok status) :
    postCallback serializer columns store id body now = (.conflict, store) := by
  obtain ⟨task, found⟩ := Option.isSome_iff_exists.mp stored
  obtain ⟨status, read⟩ := readable
  simp [postCallback, found, read, had]

/-- A report that cannot be rendered is stored and answered with a server
error. -/
theorem commitsUnrenderable_writes
    (h : CommitsUnrenderable serializer columns store id body now) :
    (postCallback serializer columns store id body now).1.isAccepted = false ∧
      (postCallback serializer columns store id body now).2 ≠ store := by
  obtain ⟨first, task, stored, report, manifest, commits, notRenderable⟩ := h
  have outcome := @postCallback_cases _ serializer columns store id body now
  generalize postCallback serializer columns store id body now = answer at outcome ⊢
  cases outcome with
  | missing missing => cases stored.symm.trans missing
  | conflict _ had => cases first.symm.trans had
  | started _ _ running => exact absurd running commits.notRunning
  | refused stored' _ _ _ noCommit =>
      cases stored.symm.trans stored'
      exact absurd commits (noCommit report manifest)
  | @finished task' report' manifest' store' stored' first' commits' written =>
      obtain ⟨_, rfl⟩ := Table.find?_eq_some_iff.mp stored
      cases stored.symm.trans stored'
      cases commits.read.symm.trans commits'.read
      refine ⟨renderedAnswer_isAccepted.trans notRenderable, ?_⟩
      intro same
      have has : store'.db.hasResult task.id = true := by
        rw [written, hasResult_saveFinished]
        simp
      have same : store' = store := same
      rw [same, first] at has
      cases has

/-- Any other callback without an accepted answer writes nothing. -/
theorem postCallback_unchanged
    (renderable : ¬ CommitsUnrenderable serializer columns store id body now)
    (notAccepted : (postCallback serializer columns store id body now).1.isAccepted = false) :
    (postCallback serializer columns store id body now).2 = store := by
  have outcome := @postCallback_cases _ serializer columns store id body now
  generalize postCallback serializer columns store id body now = answer at outcome notAccepted ⊢
  cases outcome with
  | missing => rfl
  | conflict => rfl
  | started => cases notAccepted
  | refused => rfl
  | finished stored first commits =>
      have notRenderable := renderedAnswer_isAccepted.symm.trans notAccepted
      exact absurd ⟨first, _, stored, _, _, commits, notRenderable⟩ renderable

end Atomicity

/-- A callback is atomic unless it stores a report that cannot be rendered. -/
theorem callbackAtomic_iff [Runtime] (serializer : ResultSerializer) (columns : Columns)
    (store : Store) (id : TaskId) (items : List (String × Json)) (now : Timestamp) :
    CallbackAtomic serializer columns store id items now ↔
      ¬ CommitsUnrenderable serializer columns store id (.obj items) now := by
  constructor
  · intro atomic commits
    obtain ⟨notAccepted, changed⟩ := commitsUnrenderable_writes commits
    exact changed (atomic.unchanged notAccepted)
  · intro renderable
    refine ⟨postCallback_unchanged renderable, ?_⟩
    intro stored had
    exact postCallback_conflict stored had ⟨_, rfl⟩

/-- A field that must be there. -/
def requiredField : Option Json → Except Exc Json
  | none => .error (.validationError (.arr [.str "This field is required."]))
  | some value => .ok value

/-- `FloatField`, on numbers and the names of the infinite ones. -/
def floatField : Option Json → Except Exc Double
  | none => .ok (.finite 0)
  | some (.int i) => .ok (.finite i)
  | some (.float x) => .ok x
  | some (.str "inf") => .ok (.inf false)
  | some (.str "-inf") => .ok (.inf true)
  | some _ => .error (.validationError (.arr [.str "A valid number is required."]))

/-- `IntegerField` of a count, on integers. -/
def countField : Option Json → Except Exc Nat
  | none => .ok 0
  | some (.int i) =>
      if 0 ≤ i ∧ i ≤ 2147483647 then .ok i.toNat
      else .error (.validationError (.arr [.str "Ensure this value is in range."]))
  | some _ => .error (.validationError (.arr [.str "A valid integer is required."]))

/-- The serializer, on reports whose summary is written in numbers. -/
def plainSerializer : ResultSerializer := fun body =>
  match body.asDict? with
  | none => .error (.validationError (.arr [.str "Invalid data. Expected a dictionary."]))
  | some data => do
      let fields : ResultFields :=
        { rawReport := ← requiredField (data.get? "raw_report")
          totalRequests := ← countField (data.get? "total_requests")
          failedRequests := ← countField (data.get? "failed_requests")
          errorRatePct := ← floatField (data.get? "error_rate_pct")
          avgResponseMs := ← floatField (data.get? "avg_response_ms")
          p90ResponseMs := ← floatField (data.get? "p90_response_ms")
          p95ResponseMs := ← floatField (data.get? "p95_response_ms")
          p99ResponseMs := ← floatField (data.get? "p99_response_ms")
          maxResponseMs := ← floatField (data.get? "max_response_ms")
          throughputRps := ← floatField (data.get? "throughput_rps")
          peakVus := ← countField (data.get? "peak_vus")
          thresholdsPassed := none
          thresholdsDetail := .arr [] }
      return (⟨fields, ((data.get? "execution_status").getD .null).eqStr "failed", ""⟩,
        (data.get? "artifact_manifest").getD .null)

/-- Columns that take every value. -/
def openColumns : Columns := ⟨fun _ => .ok (), fun _ => .ok ()⟩

/-- A running k6 task. -/
def runningTask : LoadTestTask where
  id := "t"
  name := "smoke"
  engine := "k6"
  scriptPath := "scripts/k6/smoke.js"
  parameters := .obj []
  targetUrl := "http://echo:8080"
  scheduledAt := none
  startedAt := some 0
  finishedAt := none
  status := .running
  worker := none
  errorMessage := ""
  createdBy := ""
  createdAt := 0
  updatedAt := 0

def runningStore : Store := ⟨⟨⟨[runningTask], by decide⟩, Table.empty, Table.empty⟩, Table.empty⟩

/-- `{"raw_report": {}, "avg_response_ms": "inf"}`: the average is validated, the
result is stored, and the answer cannot be rendered. -/
theorem infiniteAverage_stored :
    ¬ @CallbackAtomic asciiRuntime plainSerializer openColumns runningStore "t"
      [("raw_report", .obj []), ("avg_response_ms", .str "inf")] 1 := by
  let _ := asciiRuntime
  intro atomic
  have same := congrArg (fun store => store.db.hasResult "t") (atomic.unchanged (by decide))
  revert same
  decide

end PLoadtesting.ControlPlane
