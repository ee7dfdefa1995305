import PLoadtesting.Lib.Python

/-!
Execution settings (`apps/tasks/execution.py`): defaults for each engine,
resolution of the three layers default, template and request, and validation.

A validated object is described by an `ExecutionPlan`: the typed settings with
the bounds that validation guarantees (`validateExecution_describes`). The
worker and the k6 helper are compared on the plan.
-/

namespace PLoadtesting.ControlPlane

open Keyed Python

def maxDurationSeconds : Int := 86400

def supportedStopPolicies : List String := ["graceful_stop", "hard_stop"]

def futureStopPolicies : List String := ["drain_inflight", "complete_dataset", "whichever_first"]

def supportedDataPolicies : List String := ["duration_first", "iteration_first"]

/-- The items of `ENGINE_DEFAULT_EXECUTION`. -/
def engineDefaultExecution : String → Option (List (String × Json))
  | "k6" => some
      [("duration_seconds", .int 10), ("ramp_up_seconds", .int 0), ("ramp_down_seconds", .int 0),
        ("stop_policy", .str "graceful_stop"), ("graceful_stop_seconds", .int 10),
        ("max_run_seconds", .int 30), ("iteration_limit", .null),
        ("data_policy", .str "duration_first")]
  | "jmeter" => some
      [("duration_seconds", .int 20), ("ramp_up_seconds", .int 5), ("ramp_down_seconds", .int 0),
        ("stop_policy", .str "graceful_stop"), ("graceful_stop_seconds", .int 10),
        ("max_run_seconds", .int 40), ("iteration_limit", .null),
        ("data_policy", .str "duration_first")]
  | _ => none

def defaultExecutionForEngine (engine : String) : Dict Json :=
  match engineDefaultExecution engine with
  | none => Table.empty
  | some items => Dict.ofItems items

/-- `{"execution": {field: message}}`. -/
def executionError (field message : String) : Exc :=
  .validationError (.obj [("execution", .obj [(field, .str message)])])

/-- The integer checks of the two functions below: booleans and absent values
are refused, what `int()` cannot read is refused, and what it reads is stored
back. An overflow in `int()` is not caught. -/
def checkedInt (admits : Int → Bool) (message : String) (payload : Dict Json) (field : String) :
    Except Exc (Int × Dict Json) :=
  match (payload.get? field).getD .null with
  | .null | .bool _ => .error (executionError field message)
  | value =>
      match value.toInt with
      | .error (.typeError _) | .error (.valueError _) => .error (executionError field message)
      | .error e => .error e
      | .ok i =>
          if admits i then .ok (i, payload.set field (.int i))
          else .error (executionError field message)

/-- `_positive_int`. -/
def positiveInt : Dict Json → String → Except Exc (Int × Dict Json) :=
  checkedInt (fun i => decide (0 < i)) "Must be a positive integer."

/-- `_non_negative_int`. -/
def nonNegativeInt : Dict Json → String → Except Exc (Int × Dict Json) :=
  checkedInt (fun i => decide (0 ≤ i)) "Must be a non-negative integer."

/-- `iteration_limit` is checked when it is present and not null. -/
def checkIterationLimit (normalized : Dict Json) : Except Exc (Dict Json) :=
  match present? normalized "iteration_limit" with
  | none => .ok normalized
  | some _ => (positiveInt normalized "iteration_limit").map Prod.snd

/-- Policies planned for later are refused with a text of their own. -/
def checkStopPolicy [Runtime] (normalized : Dict Json) : Except Exc Unit := do
  let stopPolicy := (normalized.get? "stop_policy").getD .null
  require (!(← stopPolicy.inSet futureStopPolicies))
    (executionError "stop_policy"
      (stopPolicy.toStr ++ " is planned for future policy support. MVP supports: "
        ++ ", ".intercalate supportedStopPolicies ++ "."))
  stopPolicy.requireIn supportedStopPolicies
    (executionError "stop_policy"
      ("Unsupported stop_policy. Use one of: " ++ ", ".intercalate supportedStopPolicies ++ "."))

def checkDataPolicy (normalized : Dict Json) : Except Exc Unit :=
  ((normalized.get? "data_policy").getD .null).requireIn supportedDataPolicies
    (executionError "data_policy"
      ("Unsupported data_policy. Use one of: " ++ ", ".intercalate supportedDataPolicies ++ "."))

/-- `max_run_seconds` may be absent or null; otherwise it covers the duration and
the grace period. The ramps are not counted. The text of the refusal shows the
sum. -/
def checkMaxRun (durationSeconds gracefulStopSeconds : Int) (normalized : Dict Json) :
    Except Exc (Dict Json) :=
  match present? normalized "max_run_seconds" with
  | none => .ok normalized
  | some _ => do
      let (maxRunSeconds, normalized) ← positiveInt normalized "max_run_seconds"
      let minRequired := durationSeconds + gracefulStopSeconds
      if minRequired ≤ maxRunSeconds then return normalized
      else throw (executionError "max_run_seconds"
        ("Must be greater than or equal to duration_seconds + graceful_stop_seconds ("
          ++ (← intText minRequired) ++ ")."))

/-- The checks on an object, in the order of the source. -/
def validateFields [Runtime] (normalized : Dict Json) : Except Exc (Dict Json) := do
  let (durationSeconds, normalized) ← positiveInt normalized "duration_seconds"
  require (decide (durationSeconds ≤ maxDurationSeconds))
    (executionError "duration_seconds"
      ("Must be less than or equal to " ++ toString maxDurationSeconds ++ "."))
  let (_, normalized) ← nonNegativeInt normalized "ramp_up_seconds"
  let (_, normalized) ← nonNegativeInt normalized "ramp_down_seconds"
  let (gracefulStopSeconds, normalized) ← nonNegativeInt normalized "graceful_stop_seconds"
  let normalized ← checkIterationLimit normalized
  checkStopPolicy normalized
  checkDataPolicy normalized
  checkMaxRun durationSeconds gracefulStopSeconds normalized

def validateExecution [Runtime] (execution : Json) : Except Exc (Dict Json) :=
  match execution.asDict? with
  | none => .error (.validationError (.obj [("execution", .str "Execution must be an object.")]))
  | some normalized => validateFields normalized

/-- The request wins over the template, the template over the engine's default.
Nothing is resolved only when all three are missing. A template or request value
of `none` is Python's `None`, as is a JSON null. -/
def resolveExecution [Runtime] (engine : String)
    (templateExecution requestExecution : Option Json) : Except Exc (Option (Dict Json)) := do
  let template := templateExecution.getD .null
  let request := requestExecution.getD .null
  let execution := defaultExecutionForEngine engine
  match execution.rows, template, request with
  | [], .null, .null => return none
  | _, _, _ =>
      let execution := execution.update (← template.orEmpty.asItems)
      let execution := execution.update (← request.orEmpty.asItems)
      return some (← validateExecution (dictJson execution))

/-! ### What is resolved -/

theorem defaultExecutionForEngine_rows_eq_nil_iff {engine : String} :
    (defaultExecutionForEngine engine).rows = [] ↔ engineDefaultExecution engine = none := by
  unfold defaultExecutionForEngine
  cases found : engineDefaultExecution engine with
  | none => simp [Table.empty]
  | some items =>
      simp only [Dict.ofItems_rows_eq_nil_iff, reduceCtorEq, iff_false]
      unfold engineDefaultExecution at found
      split at found <;> cases found <;> simp

/-- What is resolved has been validated. -/
theorem resolveExecution_some [Runtime] {engine : String} {template request : Option Json}
    {r : Dict Json} (h : resolveExecution engine template request = .ok (some r)) :
    ∃ x, validateExecution x = .ok r := by
  unfold resolveExecution at h
  dsimp only at h
  split at h
  · cases h
  · obtain ⟨_, _, h⟩ := bind_ok_iff.mp h
    obtain ⟨_, _, h⟩ := bind_ok_iff.mp h
    obtain ⟨validated, valid, h⟩ := bind_ok_iff.mp h
    cases h
    exact ⟨_, valid⟩

/-- Nothing is resolved only when all three layers are missing. -/
theorem resolveExecution_none_iff [Runtime] {engine : String} {template request : Option Json} :
    resolveExecution engine template request = .ok none ↔
      engineDefaultExecution engine = none ∧ template.getD .null = .null ∧
        request.getD .null = .null := by
  rw [← defaultExecutionForEngine_rows_eq_nil_iff]
  unfold resolveExecution
  dsimp only
  constructor
  · intro h
    split at h
    · rename_i noDefault noTemplate noRequest
      exact ⟨noDefault, noTemplate, noRequest⟩
    · obtain ⟨_, _, h⟩ := bind_ok_iff.mp h
      obtain ⟨_, _, h⟩ := bind_ok_iff.mp h
      obtain ⟨_, _, h⟩ := bind_ok_iff.mp h
      cases h
  · rintro ⟨noDefault, noTemplate, noRequest⟩
    rw [noDefault, noTemplate, noRequest]
    rfl

/-! ### What validation guarantees -/

/-- Validated settings, with the bounds that validation establishes. -/
@[ext]
structure ExecutionPlan where
  durationSeconds : Int
  rampUpSeconds : Int
  rampDownSeconds : Int
  gracefulStopSeconds : Int
  iterationLimit : Option Int
  stopPolicy : String
  dataPolicy : String
  maxRunSeconds : Option Int
  duration_pos : 0 < durationSeconds
  duration_le : durationSeconds ≤ maxDurationSeconds
  rampUp_nonneg : 0 ≤ rampUpSeconds
  rampDown_nonneg : 0 ≤ rampDownSeconds
  gracefulStop_nonneg : 0 ≤ gracefulStopSeconds
  iterationLimit_pos : ∀ n ∈ iterationLimit, 0 < n
  stopPolicy_mem : stopPolicy ∈ supportedStopPolicies
  dataPolicy_mem : dataPolicy ∈ supportedDataPolicies
  maxRun_ge : ∀ m ∈ maxRunSeconds, durationSeconds + gracefulStopSeconds ≤ m

/-- The object `r` holds the settings of the plan `p`. A null setting and an
absent one are the same. -/
structure Describes (r : Dict Json) (p : ExecutionPlan) : Prop where
  duration : r.get? "duration_seconds" = some (.int p.durationSeconds)
  rampUp : r.get? "ramp_up_seconds" = some (.int p.rampUpSeconds)
  rampDown : r.get? "ramp_down_seconds" = some (.int p.rampDownSeconds)
  gracefulStop : r.get? "graceful_stop_seconds" = some (.int p.gracefulStopSeconds)
  iterationLimit : present? r "iteration_limit" = p.iterationLimit.map .int
  stopPolicy : r.get? "stop_policy" = some (.str p.stopPolicy)
  dataPolicy : r.get? "data_policy" = some (.str p.dataPolicy)
  maxRun : present? r "max_run_seconds" = p.maxRunSeconds.map .int

/-- An object holds the settings of one plan only. -/
theorem Describes.unique {r : Dict Json} {p q : ExecutionPlan} (hp : Describes r p)
    (hq : Describes r q) : p = q := by
  have intOf : ∀ {i j : Int}, some (Json.int i) = some (.int j) → i = j := by
    rintro i _ ⟨⟩
    rfl
  have strOf : ∀ {s t : String}, some (Json.str s) = some (.str t) → s = t := by
    rintro s _ ⟨⟩
    rfl
  have injective : Function.Injective Json.int := fun _ _ eq => Json.int.inj eq
  ext1
  · exact intOf (hp.duration.symm.trans hq.duration)
  · exact intOf (hp.rampUp.symm.trans hq.rampUp)
  · exact intOf (hp.rampDown.symm.trans hq.rampDown)
  · exact intOf (hp.gracefulStop.symm.trans hq.gracefulStop)
  · exact Option.map_injective injective (hp.iterationLimit.symm.trans hq.iterationLimit)
  · exact strOf (hp.stopPolicy.symm.trans hq.stopPolicy)
  · exact strOf (hp.dataPolicy.symm.trans hq.dataPolicy)
  · exact Option.map_injective injective (hp.maxRun.symm.trans hq.maxRun)

/-- An integer check that passes returns an admitted integer and stores it. -/
theorem checkedInt_ok {admits : Int → Bool} {message : String} {payload payload' : Dict Json}
    {field : String} {i : Int} (h : checkedInt admits message payload field = .ok (i, payload')) :
    admits i = true ∧ payload' = payload.set field (.int i) := by
  unfold checkedInt at h
  split at h
  · cases h
  · cases h
  · split at h
    · cases h
    · cases h
    · cases h
    · split at h
      · cases h
        exact ⟨‹_›, rfl⟩
      · cases h

/-- An optional integer check touches its own field only, and leaves there a
checked integer or nothing. -/
theorem checkIterationLimit_ok {d d' : Dict Json} (h : checkIterationLimit d = .ok d') :
    (∃ n : Option Int, (∀ i ∈ n, 0 < i) ∧ present? d' "iteration_limit" = n.map .int) ∧
      ∀ k ≠ "iteration_limit", d'.get? k = d.get? k := by
  unfold checkIterationLimit at h
  split at h
  · rename_i absent
    cases h
    exact ⟨⟨none, by simp, absent⟩, fun _ _ => rfl⟩
  · obtain ⟨⟨i, e⟩, checked, rfl⟩ := map_ok_iff.mp h
    obtain ⟨pos, rfl⟩ := checkedInt_ok checked
    refine ⟨⟨some i, by simpa using pos, ?_⟩, fun k hk => by simp [hk]⟩
    simp [present?]

theorem checkMaxRun_ok {duration graceful : Int} {d d' : Dict Json}
    (h : checkMaxRun duration graceful d = .ok d') :
    (∃ n : Option Int, (∀ m ∈ n, duration + graceful ≤ m) ∧
        present? d' "max_run_seconds" = n.map .int) ∧
      ∀ k ≠ "max_run_seconds", d'.get? k = d.get? k := by
  unfold checkMaxRun at h
  split at h
  · rename_i absent
    cases h
    exact ⟨⟨none, by simp, absent⟩, fun _ _ => rfl⟩
  · obtain ⟨⟨m, e⟩, checked, h⟩ := bind_ok_iff.mp h
    obtain ⟨_, rfl⟩ := checkedInt_ok checked
    dsimp only at h
    split at h
    · rename_i enough
      cases h
      exact ⟨⟨some m, by simpa using enough, by simp [present?]⟩, fun k hk => by simp [hk]⟩
    · obtain ⟨_, _, h⟩ := bind_ok_iff.mp h
      cases h

theorem get?_of_getD_str {d : Dict Json} {k s : String}
    (h : (d.get? k).getD .null = .str s) : d.get? k = some (.str s) := by
  cases found : d.get? k with
  | none => simp [found] at h
  | some v => simpa [found] using h

theorem checkStopPolicy_ok [Runtime] {d : Dict Json} (h : checkStopPolicy d = .ok ()) :
    ∃ s ∈ supportedStopPolicies, d.get? "stop_policy" = some (.str s) := by
  obtain ⟨_, _, h⟩ := bind_ok_iff.mp h
  obtain ⟨_, _, supported⟩ := bind_ok_iff.mp h
  obtain ⟨s, hs, eq⟩ := Json.requireIn_ok supported
  exact ⟨s, hs, get?_of_getD_str eq⟩

theorem checkDataPolicy_ok {d : Dict Json} (h : checkDataPolicy d = .ok ()) :
    ∃ s ∈ supportedDataPolicies, d.get? "data_policy" = some (.str s) := by
  obtain ⟨s, hs, eq⟩ := Json.requireIn_ok h
  exact ⟨s, hs, get?_of_getD_str eq⟩

/-- What validation returns is described by a plan. -/
theorem validateExecution_describes [Runtime] {execution : Json} {r : Dict Json}
    (h : validateExecution execution = .ok r) : ∃ p, Describes r p := by
  unfold validateExecution at h
  cases object : execution.asDict? with
  | none => simp [object] at h
  | some d =>
      simp only [object, validateFields] at h
      obtain ⟨⟨duration, d₁⟩, checked₁, h⟩ := bind_ok_iff.mp h
      obtain ⟨positive, rfl⟩ := checkedInt_ok checked₁
      obtain ⟨_, bounded, h⟩ := bind_ok_iff.mp h
      have bounded := of_decide_eq_true (require_ok_iff.mp bounded)
      obtain ⟨⟨rampUp, d₂⟩, checked₂, h⟩ := bind_ok_iff.mp h
      obtain ⟨rampUp_nonneg, rfl⟩ := checkedInt_ok checked₂
      obtain ⟨⟨rampDown, d₃⟩, checked₃, h⟩ := bind_ok_iff.mp h
      obtain ⟨rampDown_nonneg, rfl⟩ := checkedInt_ok checked₃
      obtain ⟨⟨graceful, d₄⟩, checked₄, h⟩ := bind_ok_iff.mp h
      obtain ⟨graceful_nonneg, rfl⟩ := checkedInt_ok checked₄
      obtain ⟨d₅, iterations, h⟩ := bind_ok_iff.mp h
      obtain ⟨⟨limit, limit_pos, limit_eq⟩, frame₅⟩ := checkIterationLimit_ok iterations
      obtain ⟨_, stop, h⟩ := bind_ok_iff.mp h
      obtain ⟨stopPolicy, stop_mem, stop_eq⟩ := checkStopPolicy_ok stop
      obtain ⟨_, data, maxRun⟩ := bind_ok_iff.mp h
      obtain ⟨dataPolicy, data_mem, data_eq⟩ := checkDataPolicy_ok data
      obtain ⟨⟨most, most_ge, most_eq⟩, frame₆⟩ := checkMaxRun_ok maxRun
      -- A field checked early is still there: the later checks write elsewhere.
      have kept : ∀ k ≠ "iteration_limit", k ≠ "max_run_seconds" → r.get? k =
          (((((d.set "duration_seconds" (.int duration)).set "ramp_up_seconds" (.int rampUp)).set
            "ramp_down_seconds" (.int rampDown)).set "graceful_stop_seconds" (.int graceful)).get?
            k) :=
        fun k hk hk' => (frame₆ k hk').trans (frame₅ k hk)
      refine ⟨⟨duration, rampUp, rampDown, graceful, limit, stopPolicy, dataPolicy, most,
        of_decide_eq_true positive, bounded, of_decide_eq_true rampUp_nonneg,
        of_decide_eq_true rampDown_nonneg, of_decide_eq_true graceful_nonneg, limit_pos, stop_mem,
        data_mem, most_ge⟩, ?_⟩
      constructor
      · simp [kept]
      · simp [kept]
      · simp [kept]
      · simp [kept]
      · exact (present?_congr (frame₆ _ (by decide))).trans limit_eq
      · exact (frame₆ _ (by decide)).trans stop_eq
      · exact (frame₆ _ (by decide)).trans data_eq
      · exact most_eq

end PLoadtesting.ControlPlane
