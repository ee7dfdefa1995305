import PLoadtesting.ControlPlane.CleanRejection

/-!
The execution object that is resolved for a task (`resolve_execution` in
`apps/tasks/execution.py`): which layer each value comes from, the form that it
has, and that validating it again changes nothing (`resolveExecution_rules`).

Validation stores the integers that it reads and leaves every other value as it
was given (`validateFields_stores`). An engine without a default resolves to
what the template and the request give, so that there `iteration_limit` and
`max_run_seconds` may be missing.
-/

namespace PLoadtesting.ControlPlane

open Keyed Python

/-- The fields that validation converts. -/
def numericFields : List String :=
  ["duration_seconds", "ramp_up_seconds", "ramp_down_seconds", "graceful_stop_seconds",
    "iteration_limit", "max_run_seconds"]

/-- The value as the integer that is read from it, if there is one. -/
def asInteger (value : Json) : Json :=
  match readInt? value with
  | some i => .int i
  | none => value

theorem asInteger_idem (value : Json) : asInteger (asInteger value) = asInteger value := by
  unfold asInteger
  cases read : readInt? value with
  | none => simp only [read]
  | some i => rfl

/-! ### What validation stores -/

/-- `d'` is `d` with the integers under the keys stored back. -/
def Stores (keys : List String) (d d' : Dict Json) : Prop :=
  ∀ key, d'.get? key = if key ∈ keys then (d.get? key).map asInteger else d.get? key

theorem Stores.refl (d : Dict Json) : Stores [] d d := fun _ => rfl

theorem Stores.trans {keys keys' : List String} {d e f : Dict Json} (first : Stores keys d e)
    (second : Stores keys' e f) : Stores (keys ++ keys') d f := by
  intro key
  rw [second key, first key]
  by_cases here : key ∈ keys
  · by_cases there : key ∈ keys'
    · simp [here, there, Function.comp_def, asInteger_idem]
    · simp [here, there]
  · by_cases there : key ∈ keys'
    · simp [here, there]
    · simp [here, there]

theorem get?_of_field {d : Dict Json} {key : String} (given : field d key ≠ .null) :
    d.get? key = some (field d key) := by
  unfold field at given ⊢
  cases found : d.get? key with
  | none => simp [found] at given
  | some value => rfl

theorem checkedInt_stores {admits : Int → Bool} {message : String} {d d' : Dict Json}
    {key : String} {i : Int} (checked : checkedInt admits message d key = .ok (i, d')) :
    Stores [key] d d' := by
  obtain ⟨read, _, rfl⟩ := checkedInt_ok_iff.mp checked
  have given : field d key ≠ .null := by
    intro null
    rw [null] at read
    cases read
  intro key'
  simp only [Dict.get?_set, List.mem_singleton]
  by_cases here : key' = key
  · subst here
    rw [if_pos rfl, if_pos rfl, get?_of_field given, Option.map_some, asInteger, read]
  · rw [if_neg here, if_neg here]

/-- A field that reads as null is missing or null. -/
theorem get?_of_null {d : Dict Json} {key : String} (null : field d key = .null) :
    d.get? key = none ∨ d.get? key = some .null := by
  unfold field at null
  cases found : d.get? key with
  | none => exact .inl rfl
  | some value =>
      rw [found, Option.getD_some] at null
      exact .inr (congrArg some null)

/-- A null is left as it is. -/
theorem stores_of_null {d : Dict Json} {key : String} (null : field d key = .null) :
    Stores [key] d d := by
  intro key'
  simp only [List.mem_singleton]
  by_cases here : key' = key
  · subst here
    rw [if_pos rfl]
    rcases get?_of_null null with found | found <;> rw [found] <;> rfl
  · rw [if_neg here]

theorem checkIterationLimit_stores {d d' : Dict Json} (checked : checkIterationLimit d = .ok d') :
    Stores ["iteration_limit"] d d' := by
  unfold checkIterationLimit at checked
  split at checked
  · rename_i absent
    cases checked
    exact stores_of_null (present?_eq_none_iff.mp absent)
  · obtain ⟨⟨i, e⟩, read, rfl⟩ := map_ok_iff.mp checked
    exact checkedInt_stores read

theorem checkMaxRun_stores {duration graceful : Int} {d d' : Dict Json}
    (checked : checkMaxRun duration graceful d = .ok d') : Stores ["max_run_seconds"] d d' := by
  unfold checkMaxRun at checked
  split at checked
  · rename_i absent
    cases checked
    exact stores_of_null (present?_eq_none_iff.mp absent)
  · obtain ⟨⟨m, e⟩, read, checked⟩ := bind_ok_iff.mp checked
    dsimp only at checked
    split at checked
    · cases checked
      exact checkedInt_stores read
    · obtain ⟨_, _, checked⟩ := bind_ok_iff.mp checked
      cases checked

/-- Validation converts the numeric fields and changes nothing else. -/
theorem validateFields_stores [Runtime] {d r : Dict Json} (valid : validateFields d = .ok r) :
    Stores numericFields d r := by
  obtain ⟨⟨_, d₁⟩, checked₁, valid⟩ := bind_ok_iff.mp valid
  obtain ⟨_, _, valid⟩ := bind_ok_iff.mp valid
  obtain ⟨⟨_, d₂⟩, checked₂, valid⟩ := bind_ok_iff.mp valid
  obtain ⟨⟨_, d₃⟩, checked₃, valid⟩ := bind_ok_iff.mp valid
  obtain ⟨⟨_, d₄⟩, checked₄, valid⟩ := bind_ok_iff.mp valid
  obtain ⟨d₅, checked₅, valid⟩ := bind_ok_iff.mp valid
  obtain ⟨_, _, valid⟩ := bind_ok_iff.mp valid
  obtain ⟨_, _, checked₆⟩ := bind_ok_iff.mp valid
  exact ((((checkedInt_stores checked₁).trans (checkedInt_stores checked₂)).trans
    (checkedInt_stores checked₃)).trans (checkedInt_stores checked₄)).trans
      ((checkIterationLimit_stores checked₅).trans (checkMaxRun_stores checked₆))

/-! ### Validating again -/

section Again

variable {d : Dict Json} {key : String} {i : Int}

/-- An integer that passed its check passes it again and is stored as it is. -/
theorem checkedInt_of_int {admits : Int → Bool} {message : String}
    (stored : d.get? key = some (.int i)) (admitted : admits i = true) :
    checkedInt admits message d key = .ok (i, d) := by
  refine checkedInt_ok_iff.mpr ⟨?_, admitted, (Dict.set_eq_self stored).symm⟩
  rw [field, stored]
  rfl

theorem checkIterationLimit_of_plan {limit : Option Int}
    (stored : present? d "iteration_limit" = limit.map .int) (positive : ∀ n ∈ limit, 0 < n) :
    checkIterationLimit d = .ok d := by
  unfold checkIterationLimit
  rw [stored]
  cases limit with
  | none => rfl
  | some n =>
      obtain ⟨found, _⟩ := present?_eq_some_iff.mp stored
      have checked : positiveInt d "iteration_limit" = .ok (n, d) :=
        checkedInt_of_int found (decide_eq_true (positive n rfl))
      simp only [Option.map_some, checked, Except.map]

theorem checkMaxRun_of_plan {most : Option Int} {duration graceful : Int}
    (stored : present? d "max_run_seconds" = most.map .int)
    (covers : ∀ m ∈ most, duration + graceful ≤ m) (positive : 0 < duration)
    (nonneg : 0 ≤ graceful) : checkMaxRun duration graceful d = .ok d := by
  unfold checkMaxRun
  rw [stored]
  cases most with
  | none => rfl
  | some m =>
      obtain ⟨found, _⟩ := present?_eq_some_iff.mp stored
      have enough := covers m rfl
      have checked : positiveInt d "max_run_seconds" = .ok (m, d) :=
        checkedInt_of_int found (decide_eq_true (by omega))
      simp only [Option.map_some, checked, bind, Except.bind, if_pos enough]
      rfl

/-- Validating described settings again gives them back. -/
theorem validateExecution_of_describes [Runtime] {r : Dict Json} {p : ExecutionPlan}
    (described : Describes r p) : validateExecution (dictJson r) = .ok r := by
  have duration : positiveInt r "duration_seconds" = .ok (p.durationSeconds, r) :=
    checkedInt_of_int described.duration (decide_eq_true p.duration_pos)
  have rampUp : nonNegativeInt r "ramp_up_seconds" = .ok (p.rampUpSeconds, r) :=
    checkedInt_of_int described.rampUp (decide_eq_true p.rampUp_nonneg)
  have rampDown : nonNegativeInt r "ramp_down_seconds" = .ok (p.rampDownSeconds, r) :=
    checkedInt_of_int described.rampDown (decide_eq_true p.rampDown_nonneg)
  have graceful : nonNegativeInt r "graceful_stop_seconds" = .ok (p.gracefulStopSeconds, r) :=
    checkedInt_of_int described.gracefulStop (decide_eq_true p.gracefulStop_nonneg)
  have iterations := checkIterationLimit_of_plan described.iterationLimit p.iterationLimit_pos
  have maxRun := checkMaxRun_of_plan described.maxRun p.maxRun_ge p.duration_pos
    p.gracefulStop_nonneg
  have isStop : field r "stop_policy" = .str p.stopPolicy := by
    rw [field, described.stopPolicy, Option.getD_some]
  have isData : field r "data_policy" = .str p.dataPolicy := by
    rw [field, described.dataPolicy, Option.getD_some]
  obtain ⟨_, stop⟩ := (makes_checkStopPolicy isStop).ok_iff.mpr
    ⟨⟨_, p.stopPolicy_mem, rfl⟩, trivial⟩
  obtain ⟨_, data⟩ := (makes_checkDataPolicy isData).ok_iff.mpr
    ⟨⟨_, p.dataPolicy_mem, rfl⟩, trivial⟩
  have bounded : decide (p.durationSeconds ≤ maxDurationSeconds) = true :=
    decide_eq_true p.duration_le
  unfold validateExecution
  rw [asDict?_dictJson]
  simp only [validateFields, duration, rampUp, rampDown, graceful, iterations, stop, data, bounded,
    maxRun, require, bind, Except.bind, if_true]

end Again

/-! ### The three layers -/

/-- The value that the layers give for a key: the request's if it has the key,
else the template's, else the engine's default. -/
def givenValue (engine : String) (template request : Option (Dict Json)) (key : String) :
    Option Json :=
  ((request.bind fun d => d.get? key).or (template.bind fun d => d.get? key)).or
    ((defaultExecutionForEngine engine).get? key)

/-- Null, missing, or an integer that the condition holds for. -/
def NullOrInt (value : Option Json) (holds : Int → Prop) : Prop :=
  value = none ∨ value = some .null ∨ ∃ i, value = some (.int i) ∧ holds i

/-- What is known of a resolved execution object. -/
structure ResolvedExecution [Runtime] (engine : String) (template request : Option (Dict Json))
    (r : Dict Json) : Prop where
  precedence : ∀ key, r.get? key =
    if key ∈ numericFields then (givenValue engine template request key).map asInteger
    else givenValue engine template request key
  duration : ∃ i, r.get? "duration_seconds" = some (.int i) ∧ 1 ≤ i ∧ i ≤ 86400
  seconds : ∀ key ∈ ["ramp_up_seconds", "ramp_down_seconds", "graceful_stop_seconds"],
    ∃ i, r.get? key = some (.int i) ∧ 0 ≤ i
  iterationLimit : NullOrInt (r.get? "iteration_limit") fun i => 0 < i
  stopPolicy : ∃ s ∈ supportedStopPolicies, r.get? "stop_policy" = some (.str s)
  dataPolicy : ∃ s ∈ supportedDataPolicies, r.get? "data_policy" = some (.str s)
  maxRun : NullOrInt (r.get? "max_run_seconds") fun i =>
    secondsOf r "duration_seconds" + secondsOf r "graceful_stop_seconds" ≤ i
  idempotent : validateExecution (dictJson r) = .ok r

section Layers

theorem get?_mergedExecution (engine : String) (template request : Option (Dict Json))
    (key : String) :
    (mergedExecution engine template ((request.map (·.rows)).getD [])).get? key =
      givenValue engine template request key := by
  have layer (d : Dict Json) (given : Option (Dict Json)) :
      (d.update ((given.map (·.rows)).getD [])).get? key =
        (given.bind fun g => g.get? key).or (d.get? key) := by
    cases given with
    | none => rfl
    | some g =>
        rw [Option.map_some, Option.getD_some, Dict.get?_update_ofItems, Dict.ofItems_rows]
        rfl
  rw [mergedExecution, layer, layer, givenValue, Option.or_assoc]

theorem nullOrInt_of_present? {d : Dict Json} {key : String} {value : Option Int}
    {holds : Int → Prop} (read : present? d key = value.map .int) (bound : ∀ i ∈ value, holds i) :
    NullOrInt (d.get? key) holds := by
  cases value with
  | none => exact (get?_of_null (present?_eq_none_iff.mp read)).imp id .inl
  | some i => exact .inr (.inr ⟨i, (present?_eq_some_iff.mp read).1, bound i rfl⟩)

variable [Runtime]

/-- What is resolved is the validated merge of the layers. -/
theorem validateFields_of_resolved {engine : String} {template request : Option (Dict Json)}
    {r : Dict Json}
    (resolved : resolveExecution engine (template.map dictJson) (request.map dictJson) =
      .ok (some r)) :
    validateFields (mergedExecution engine template ((request.map (·.rows)).getD [])) = .ok r := by
  have asJson : resolveExecution engine (template.map dictJson) (request.map dictJson) =
      resolveExecution engine (template.map dictJson)
        (some ((request.map dictJson).getD .null)) := by
    cases request with
    | none => rfl
    | some d => rfl
  have items : ((request.map dictJson).getD .null).orEmpty.asItems =
      .ok ((request.map (·.rows)).getD []) := by
    cases request with
    | none => rfl
    | some d => exact asItems_orEmpty_obj d.rows
  by_cases nothing : NothingGiven engine template ((request.map dictJson).getD .null)
  · obtain ⟨noDefault, rfl, noRequest⟩ := nothing
    have returned : resolveExecution engine none (request.map dictJson) = .ok none :=
      resolveExecution_none_iff.mpr ⟨noDefault, rfl, noRequest⟩
    cases resolved.symm.trans returned
  · rw [asJson, resolveExecution_eq nothing, items] at resolved
    obtain ⟨_, same, resolved⟩ := bind_ok_iff.mp resolved
    cases same
    obtain ⟨_, valid, same⟩ := bind_ok_iff.mp resolved
    cases same
    exact valid

/-- Every object that is resolved follows the rules, and nothing is resolved only
when nothing is given. -/
theorem resolveExecution_rules (engine : String) (template request : Option (Dict Json)) :
    (∀ r, resolveExecution engine (template.map dictJson) (request.map dictJson) = .ok (some r) →
      ResolvedExecution engine template request r) ∧
      (resolveExecution engine (template.map dictJson) (request.map dictJson) = .ok none →
        engineDefaultExecution engine = none ∧ template = none ∧ request = none) := by
  refine ⟨fun r resolved => ?_, fun unresolved => ?_⟩
  · have valid := validateFields_of_resolved resolved
    have validated : validateExecution (dictJson (mergedExecution engine template
        ((request.map (·.rows)).getD []))) = .ok r := by
      rw [validateExecution, asDict?_dictJson]
      exact valid
    obtain ⟨p, described⟩ := validateExecution_describes validated
    have isDuration : secondsOf r "duration_seconds" = p.durationSeconds := by
      rw [secondsOf, field, described.duration]
      rfl
    have isGraceful : secondsOf r "graceful_stop_seconds" = p.gracefulStopSeconds := by
      rw [secondsOf, field, described.gracefulStop]
      rfl
    exact {
      precedence := by
        intro key
        rw [validateFields_stores valid key, get?_mergedExecution]
      duration := ⟨p.durationSeconds, described.duration, p.duration_pos, p.duration_le⟩
      seconds := by
        simp only [List.mem_cons, List.not_mem_nil, or_false, forall_eq_or_imp, forall_eq]
        exact ⟨⟨_, described.rampUp, p.rampUp_nonneg⟩, ⟨_, described.rampDown, p.rampDown_nonneg⟩,
          ⟨_, described.gracefulStop, p.gracefulStop_nonneg⟩⟩
      iterationLimit := nullOrInt_of_present? described.iterationLimit p.iterationLimit_pos
      stopPolicy := ⟨_, p.stopPolicy_mem, described.stopPolicy⟩
      dataPolicy := ⟨_, p.dataPolicy_mem, described.dataPolicy⟩
      maxRun := by
        rw [isDuration, isGraceful]
        exact nullOrInt_of_present? described.maxRun p.maxRun_ge
      idempotent := validateExecution_of_describes described }
  · obtain ⟨noDefault, noTemplate, noRequest⟩ := resolveExecution_none_iff.mp unresolved
    refine ⟨noDefault, ?_, ?_⟩
    · cases template with
      | none => rfl
      | some d => cases noTemplate
    · cases request with
      | none => rfl
      | some d => cases noRequest

end Layers

/-- A request for the default of k6 with another duration. -/
def sevenSeconds : Dict Json := Dict.ofItems [("duration_seconds", .str "7")]

theorem sevenSeconds_rules : ∃ r,
    @resolveExecution asciiRuntime "k6" none (some (dictJson sevenSeconds)) = .ok (some r) ∧
      @ResolvedExecution asciiRuntime "k6" none (some sevenSeconds) r := by
  let _ := asciiRuntime
  exact ⟨_, rfl, (resolveExecution_rules "k6" none (some sevenSeconds)).1 _ rfl⟩

/-- A full request for an engine without a default. -/
def withoutLimit : Dict Json :=
  Dict.ofItems [("duration_seconds", .int 20), ("ramp_up_seconds", .int 0),
    ("ramp_down_seconds", .int 0), ("stop_policy", .str "hard_stop"),
    ("graceful_stop_seconds", .int 0), ("data_policy", .str "duration_first")]

/-- `iteration_limit` stays missing. -/
theorem withoutLimit_unlimited :
    ¬ ∀ (engine : String) (template request : Option (Dict Json)) (r : Dict Json),
      @resolveExecution asciiRuntime engine (template.map dictJson) (request.map dictJson) =
        .ok (some r) →
      r.get? "iteration_limit" = some .null ∨
        ∃ i, r.get? "iteration_limit" = some (.int i) ∧ 0 < i := by
  intro every
  have limit := every "loadrunner" none (some withoutLimit) withoutLimit rfl
  have missing : withoutLimit.get? "iteration_limit" = none := rfl
  rw [missing] at limit
  rcases limit with null | ⟨i, found, _⟩
  · cases null
  · cases found

end PLoadtesting.ControlPlane
