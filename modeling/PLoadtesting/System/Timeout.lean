import PLoadtesting.ControlPlane.Execution
import PLoadtesting.Engine.K6Options
import PLoadtesting.Worker.Precedence
import Mathlib.Tactic.NormNum
import Mathlib.Tactic.GCongr
import Mathlib.Tactic.Ring

/-!
The worker's timeout against the schedule of the k6 helper.

Validation bounds `max_run_seconds` from below by the duration and the grace
period, the worker takes it as the timeout or else adds everything up, and the
helper makes one of three scenarios of the same settings. The timeout covers the
longest legal run exactly when `Fits` holds of the settings
(`timeout_covers_iff`): a given `max_run_seconds` may leave out the ramps, and an
iteration-bounded run has the grace period twice.
-/

namespace PLoadtesting.System

open Keyed Python ControlPlane Worker Engine

/-! ### The timeout -/

section WorkerTimeout

variable {r : Dict Json} {p : ExecutionPlan}

theorem optionalSetting_int {key : String} {i : Int} (found : r.get? key = some (.int i)) :
    optionalSetting r key = .ok (some i) := by
  rw [optionalSetting, found]
  rfl

theorem optionalSetting_maxRun (describes : Describes r p) :
    optionalSetting r "max_run_seconds" = .ok p.maxRunSeconds := by
  cases given : p.maxRunSeconds with
  | none =>
      have missing := describes.maxRun
      rw [given] at missing
      have null : (r.get? "max_run_seconds").getD .null = .null := by
        unfold present? at missing
        split at missing
        · rename_i found
          rw [found]
          rfl
        · rename_i found
          rw [found]
          rfl
        · cases missing
      rw [optionalSetting, null]
      rfl
  | some m =>
      have found := describes.maxRun
      rw [given] at found
      exact optionalSetting_int (present?_eq_some_iff.mp found).1

/-- The timeout of validated settings: the given bound, or the sum of all parts
and five seconds. -/
def plannedTimeout (p : ExecutionPlan) : Int :=
  p.maxRunSeconds.getD
    (p.durationSeconds + p.rampUpSeconds + p.rampDownSeconds + p.gracefulStopSeconds + 5)

theorem executionTimeoutSeconds_describes (describes : Describes r p) :
    executionTimeoutSeconds (some r) = .ok (some (plannedTimeout p)) := by
  have given : ¬ r.rows.isEmpty = true := by
    intro empty
    have noRow := (Dict.get?_eq_some_iff.mp describes.duration)
    rw [Table.mem_def, List.isEmpty_iff.mp empty] at noRow
    cases noRow
  simp only [executionTimeoutSeconds, if_neg given, optionalSetting_maxRun describes,
    optionalSetting_int describes.duration, optionalSetting_int describes.rampUp,
    optionalSetting_int describes.rampDown, optionalSetting_int describes.gracefulStop]
  have duration : p.durationSeconds ≠ 0 := p.duration_pos.ne'
  cases bound : p.maxRunSeconds with
  | none => simp [plannedTimeout, bound, bind, Except.bind, pure, Except.pure, duration]
  | some m =>
      have positive : m ≠ 0 := by
        have enough := p.maxRun_ge m bound
        have := p.duration_pos
        have := p.gracefulStop_nonneg
        omega
      simp [plannedTimeout, bound, bind, Except.bind, pure, Except.pure, positive]

end WorkerTimeout

/-! ### What the helper reads -/

/-- What `numberFromEnv` makes of the text of a setting. -/
def helperNumber (i : Int) (fallback : Nat) : Rat :=
  (JavaScript.finite? (JavaScript.round i)).getD fallback

/-- A setting as the helper counts it: one that is out of the range of numbers
gives way to the script's default. -/
def counted (i : Int) (fallback : Nat) : Int :=
  if (JavaScript.finite? (JavaScript.round i)).isSome then i else fallback

theorem numberFromEnv_int {env : Dict String} {name : String} {i : Int} (nonneg : 0 ≤ i)
    (found : env.get? name = some (toString i)) (fallback : Nat) :
    numberFromEnv env name fallback = helperNumber i fallback := by
  obtain ⟨n, rfl⟩ := Int.eq_ofNat_of_zero_le nonneg
  have text : toString (n : Int) = toString n := rfl
  have nonempty : toString n ≠ "" := by
    intro empty
    have digits : (toString n).toList = Nat.toDigits 10 n := Nat.toList_repr
    rw [empty] at digits
    exact Nat.toDigits_ne_nil digits.symm
  rw [numberFromEnv, found, text]
  dsimp only
  rw [if_neg nonempty, JavaScript.toNumber_toString, helperNumber, Int.cast_natCast]

/-- A setting is counted as itself and read exactly, unless it is beyond all
durations: then it is read as a number that is too, or gives way to the
default. -/
theorem helperNumber_cases {i : Int} (nonneg : 0 ≤ i) (fallback : Nat) :
    (counted i fallback = i ∧ helperNumber i fallback = i) ∨
      (2 ^ 53 ≤ i ∧ counted i fallback = i ∧ 2 ^ 53 ≤ helperNumber i fallback) ∨
      (2 ^ 53 ≤ i ∧ JavaScript.finite? (JavaScript.round i) = none ∧
        counted i fallback = fallback ∧ helperNumber i fallback = fallback) := by
  obtain ⟨n, rfl⟩ := Int.eq_ofNat_of_zero_le nonneg
  unfold counted helperNumber
  rw [Int.cast_natCast]
  by_cases small : n < 2 ^ 53
  · rw [JavaScript.round_natCast small]
    exact .inl ⟨rfl, rfl⟩
  · have large : 2 ^ 53 ≤ n := not_lt.mp small
    have large' : (2 : Int) ^ 53 ≤ n := by exact_mod_cast large
    have atLeast := fun q => JavaScript.le_of_round_natCast (q := q) large
    generalize JavaScript.round n = rounded at atLeast ⊢
    cases rounded with
    | finite q => exact .inr (.inl ⟨large', rfl, atLeast q rfl⟩)
    | inf negative => exact .inr (.inr ⟨large', rfl, rfl, rfl⟩)
    | nan => exact .inr (.inr ⟨large', rfl, rfl, rfl⟩)

theorem helperNumber_of_lt {i : Int} (nonneg : 0 ≤ i) {fallback : Nat} (small : i < 2 ^ 53) :
    helperNumber i fallback = i := by
  rcases helperNumber_cases nonneg fallback with ⟨_, read⟩ | ⟨large, _⟩ | ⟨large, _⟩
  · exact read
  · omega
  · omega

/-- A counted setting is the setting itself, or that is beyond all durations. -/
theorem counted_cases {i : Int} (nonneg : 0 ≤ i) (fallback : Nat) :
    counted i fallback = i ∨ (2 ^ 53 ≤ i ∧ counted i fallback = fallback) := by
  rcases helperNumber_cases nonneg fallback with
    ⟨same, _⟩ | ⟨_, same, _⟩ | ⟨large, _, default, _⟩
  · exact .inl same
  · exact .inl same
  · exact .inr ⟨large, default⟩

theorem counted_nonneg {i : Int} (nonneg : 0 ≤ i) (fallback : Nat) : 0 ≤ counted i fallback := by
  rcases counted_cases nonneg fallback with same | ⟨_, default⟩
  · omega
  · omega

theorem helperNumber_nonneg {i : Int} (nonneg : 0 ≤ i) (fallback : Nat) :
    0 ≤ helperNumber i fallback := by
  rcases helperNumber_cases nonneg fallback with
    ⟨_, read⟩ | ⟨_, _, large⟩ | ⟨_, _, _, read⟩
  · rw [read]
    exact_mod_cast nonneg
  · exact le_trans (by positivity) large
  · rw [read]
    positivity

/-- A positive setting reads as zero only when it gives way to a default of
zero. -/
theorem helperNumber_ne_zero_iff {i : Int} (positive : 0 < i) (fallback : Nat) :
    helperNumber i fallback ≠ 0 ↔
      (JavaScript.finite? (JavaScript.round i)).isSome = true ∨ fallback ≠ 0 := by
  cases finite : JavaScript.finite? (JavaScript.round i) with
  | none =>
      rw [helperNumber, finite, Option.getD_none, Nat.cast_ne_zero]
      simp
  | some q =>
      refine iff_of_true ?_ (.inl rfl)
      rcases helperNumber_cases positive.le fallback with
        ⟨_, read⟩ | ⟨_, _, far⟩ | ⟨_, outOfRange, _⟩
      · rw [read]
        exact_mod_cast positive.ne'
      · exact (lt_of_lt_of_le (by positivity) far).ne'
      · rw [outOfRange] at finite
        cases finite

/-- A number in the range of durations is read exactly. -/
theorem helperNumber_eq_counted {i : Int} (nonneg : 0 ≤ i) {fallback : Nat}
    (inRange : counted i fallback ≤ maxSeconds) :
    helperNumber i fallback = counted i fallback := by
  rcases helperNumber_cases nonneg fallback with
    ⟨same, read⟩ | ⟨large, same, _⟩ | ⟨_, _, default, read⟩
  · rw [read, same]
  · rw [same, maxSeconds] at inRange
    omega
  · rw [read, default, Int.cast_natCast]

/-- k6 takes the number that the helper reads when the counted setting is in
range. -/
theorem seconds?_helperNumber {i : Int} (nonneg : 0 ≤ i) (fallback : Nat) :
    seconds? (.finite (helperNumber i fallback)) =
      if counted i fallback ≤ maxSeconds then some (counted i fallback : Rat) else none := by
  by_cases inRange : counted i fallback ≤ maxSeconds
  · rw [helperNumber_eq_counted nonneg inRange, seconds?_intCast (counted_nonneg nonneg fallback)]
  · rw [if_neg inRange]
    rcases helperNumber_cases nonneg fallback with
      ⟨same, read⟩ | ⟨_, _, far⟩ | ⟨_, _, default, read⟩
    · rw [read, ← same, seconds?_intCast (counted_nonneg nonneg fallback), if_neg inRange]
    · have outOfRange : ¬ helperNumber i fallback * 10 ^ 9 < 2 ^ 63 := by
        rw [not_lt]
        calc (2 : Rat) ^ 63 ≤ 2 ^ 53 * 10 ^ 9 := by norm_num
          _ ≤ helperNumber i fallback * 10 ^ 9 := by gcongr
      rw [seconds?, if_neg fun taken => outOfRange taken.2]
    · have whole : helperNumber i fallback = ((counted i fallback : Int) : Rat) := by
        rw [read, default, Int.cast_natCast]
      rw [whole, seconds?_intCast (counted_nonneg nonneg fallback), if_neg inRange]

/-! ### When the timeout is long enough -/

/-- The helper has an iteration limit: that of the settings, unless it is out of
the range of numbers, or the script's. -/
def LimitsIterations (p : ExecutionPlan) (defaults : Defaults) : Prop :=
  (∃ n ∈ p.iterationLimit, (JavaScript.finite? (JavaScript.round n)).isSome = true) ∨
    defaults.iterations.getD 0 ≠ 0

/-- The iteration limit bounds the run. -/
def RunsIterations (p : ExecutionPlan) (defaults : Defaults) : Prop :=
  p.dataPolicy = "iteration_first" ∧ LimitsIterations p defaults

/-- The three ramps and graces as the helper counts them. -/
def rampUp (p : ExecutionPlan) (defaults : Defaults) : Int :=
  counted p.rampUpSeconds (orElse defaults.rampUpSeconds 0)

def rampDown (p : ExecutionPlan) (defaults : Defaults) : Int :=
  counted p.rampDownSeconds (orElse defaults.rampDownSeconds 0)

def gracefulStop (p : ExecutionPlan) (defaults : Defaults) : Int :=
  counted p.gracefulStopSeconds (orElse defaults.gracefulStopSeconds 10)

/-- Without `max_run_seconds` an iteration-bounded run has to have a grace period
of at most the ramps and five seconds. A given one has to cover the grace period
twice for such a run, and the ramps for any other. Durations that k6 refuses do
not count. -/
def Fits (p : ExecutionPlan) (defaults : Defaults) : Prop :=
  match p.maxRunSeconds with
  | none =>
      RunsIterations p defaults → p.durationSeconds + p.gracefulStopSeconds ≤ maxSeconds →
        p.gracefulStopSeconds ≤ p.rampUpSeconds + p.rampDownSeconds + 5
  | some m =>
      (RunsIterations p defaults → p.durationSeconds + p.gracefulStopSeconds ≤ maxSeconds →
        p.durationSeconds + 2 * p.gracefulStopSeconds ≤ m) ∧
      (¬ RunsIterations p defaults → rampUp p defaults ≤ maxSeconds →
        rampDown p defaults ≤ maxSeconds → p.gracefulStopSeconds ≤ maxSeconds →
        p.durationSeconds + rampUp p defaults + rampDown p defaults + p.gracefulStopSeconds ≤ m)

/-- The timeout covers an iteration-bounded run, on the settings alone: where the
helper counts its default instead of the grace period, both sides hold. -/
theorem covers_iterations_iff (p : ExecutionPlan) (defaults : Defaults) :
    (p.durationSeconds + gracefulStop p defaults ≤ maxSeconds →
        p.durationSeconds + 2 * gracefulStop p defaults ≤ plannedTimeout p) ↔
      match p.maxRunSeconds with
      | none => p.durationSeconds + p.gracefulStopSeconds ≤ maxSeconds →
          p.gracefulStopSeconds ≤ p.rampUpSeconds + p.rampDownSeconds + 5
      | some m => p.durationSeconds + p.gracefulStopSeconds ≤ maxSeconds →
          p.durationSeconds + 2 * p.gracefulStopSeconds ≤ m := by
  have grace := counted_cases p.gracefulStop_nonneg (orElse defaults.gracefulStopSeconds 10)
  have positive := p.duration_pos
  have up := p.rampUp_nonneg
  have down := p.rampDown_nonneg
  have enough := p.maxRun_ge
  unfold gracefulStop plannedTimeout maxSeconds
  cases bound : p.maxRunSeconds with
  | none =>
      dsimp only [Option.getD_none]
      omega
  | some m =>
      have := enough m bound
      dsimp only [Option.getD_some]
      omega

/-- The same for any other run. Without `max_run_seconds` the timeout adds up the
same parts. -/
theorem covers_duration_iff (p : ExecutionPlan) (defaults : Defaults) :
    (rampUp p defaults ≤ maxSeconds ∧ rampDown p defaults ≤ maxSeconds ∧
          gracefulStop p defaults ≤ maxSeconds →
        p.durationSeconds + rampUp p defaults + rampDown p defaults + gracefulStop p defaults ≤
          plannedTimeout p) ↔
      ∀ m ∈ p.maxRunSeconds, rampUp p defaults ≤ maxSeconds → rampDown p defaults ≤ maxSeconds →
        p.gracefulStopSeconds ≤ maxSeconds →
        p.durationSeconds + rampUp p defaults + rampDown p defaults + p.gracefulStopSeconds ≤
          m := by
  have grace := counted_cases p.gracefulStop_nonneg (orElse defaults.gracefulStopSeconds 10)
  have upCases := counted_cases p.rampUp_nonneg (orElse defaults.rampUpSeconds 0)
  have downCases := counted_cases p.rampDown_nonneg (orElse defaults.rampDownSeconds 0)
  have positive := p.duration_pos
  have short := p.duration_le
  have up := p.rampUp_nonneg
  have down := p.rampDown_nonneg
  have graceNonneg := p.gracefulStop_nonneg
  unfold rampUp rampDown gracefulStop plannedTimeout maxSeconds
  unfold maxDurationSeconds at short
  cases bound : p.maxRunSeconds with
  | none =>
      refine iff_of_true ?_ (by simp)
      dsimp only [Option.getD_none]
      omega
  | some m =>
      have := p.maxRun_ge m bound
      simp only [Option.getD_some, Option.mem_some_iff, forall_eq']
      omega

/-! ### The helper's scenario for validated settings -/

/-- Four durations, three of which can be out of range. -/
theorem addAll_eq (u d w g : Rat) (up down grace : Prop) [Decidable up] [Decidable down]
    [Decidable grace] :
    (do
      let rampUpSeconds ← (if up then some u else none)
      let durationSeconds ← some d
      let rampDownSeconds ← (if down then some w else none)
      let gracefulStopSeconds ← (if grace then some g else none)
      return rampUpSeconds + durationSeconds + rampDownSeconds + gracefulStopSeconds) =
      if up ∧ down ∧ grace then some (u + d + w + g) else none := by
  by_cases upTaken : up
  · by_cases downTaken : down
    · by_cases graceTaken : grace
      · simp [upTaken, downTaken, graceTaken]
      · simp [upTaken, downTaken, graceTaken]
    · simp [upTaken, downTaken]
  · simp [upTaken]

theorem forall_mem_ite_some {c : Prop} [Decidable c] {x t : Int} :
    (∀ longest ∈ (if c then some (x : Rat) else none), longest ≤ t) ↔ (c → x ≤ t) := by
  by_cases taken : c
  · rw [if_pos taken]
    simp [taken]
  · rw [if_neg taken]
    simp [taken]

section Schedule

variable [Runtime] {r : Dict Json} {p : ExecutionPlan} {env : Dict String} {defaults : Defaults}

/-- The helper's variables hold the settings. -/
def HoldsSettings (env : Dict String) (r : Dict Json) : Prop :=
  ∀ key ∈ executionEnvKeys, env.get? key.2 = text? r key.1

/-- The environment that the worker builds holds them when no free-form parameter
has the name of a null one. -/
theorem holdsSettings_k6Environment {environ : Dict String} {parameters : Dict Json}
    {shardMetadata : Option (Dict Json)}
    (clean : ∀ key ∈ (executionEnvKeys ++ shardEnvKeys).map Prod.snd, environ.get? key = none)
    (leaves : LeavesNullSettings (k6Settings r shardMetadata) parameters) :
    HoldsSettings (k6Environment environ parameters (some r) shardMetadata) r := by
  intro key mem
  have sees := (k6_seesSettings_iff clean).mpr leaves
  exact sees (key.2, text? r key.1) (List.mem_append_left _ (List.mem_map_of_mem mem))

theorem text?_of_get? {key : String} {value : Json} (found : r.get? key = some value)
    (given : value ≠ .null) : text? r key = some value.toStr := by
  rw [text?, present?_eq_some_iff.mpr ⟨found, given⟩, Option.map_some]

theorem HoldsSettings.get?_int (holds : HoldsSettings env r) {key variable_ : String} {i : Int}
    (mem : (key, variable_) ∈ executionEnvKeys) (found : r.get? key = some (.int i)) :
    env.get? variable_ = some (toString i) := by
  rw [holds _ mem, text?_of_get? found nofun, Json.toStr_int]

theorem iterationLimit_ne_zero_iff (holds : HoldsSettings env r) (describes : Describes r p) :
    (readSettings env defaults).iterationLimit ≠ 0 ↔ LimitsIterations p defaults := by
  have limit := describes.iterationLimit
  cases given : p.iterationLimit with
  | none =>
      have unset : env.get? "ITERATION_LIMIT" = none := by
        rw [holds ("iteration_limit", "ITERATION_LIMIT") (by decide), text?, limit, given]
        rfl
      have read : (readSettings env defaults).iterationLimit = defaults.iterations.getD 0 := by
        simp only [readSettings, numberFromEnv, unset, orElse_zero]
      rw [read, LimitsIterations, given, Nat.cast_ne_zero]
      simp
  | some n =>
      have positive := p.iterationLimit_pos n given
      rw [given] at limit
      have read : (readSettings env defaults).iterationLimit =
          helperNumber n (orElse defaults.iterations 0) :=
        numberFromEnv_int positive.le
          (holds.get?_int (by decide) (present?_eq_some_iff.mp limit).1) _
      rw [read, helperNumber_ne_zero_iff positive, orElse_zero, LimitsIterations, given]
      simp

/-- The settings that the helper reads. -/
theorem readSettings_describes (defaults : Defaults) (holds : HoldsSettings env r)
    (describes : Describes r p) :
    (readSettings env defaults).durationSeconds = p.durationSeconds ∧
      (readSettings env defaults).rampUpSeconds =
        helperNumber p.rampUpSeconds (orElse defaults.rampUpSeconds 0) ∧
      (readSettings env defaults).rampDownSeconds =
        helperNumber p.rampDownSeconds (orElse defaults.rampDownSeconds 0) ∧
      (readSettings env defaults).gracefulStopSeconds =
        helperNumber p.gracefulStopSeconds (orElse defaults.gracefulStopSeconds 10) ∧
      (readSettings env defaults).dataPolicy = p.dataPolicy := by
  refine ⟨?_, ?_, ?_, ?_, ?_⟩
  · have read : (readSettings env defaults).durationSeconds =
        helperNumber p.durationSeconds (orElse defaults.durationSeconds 10) :=
      numberFromEnv_int p.duration_pos.le (holds.get?_int (by decide) describes.duration) _
    have short := p.duration_le
    rw [maxDurationSeconds] at short
    rw [read, helperNumber_of_lt p.duration_pos.le (by omega)]
  · exact numberFromEnv_int p.rampUp_nonneg (holds.get?_int (by decide) describes.rampUp) _
  · exact numberFromEnv_int p.rampDown_nonneg (holds.get?_int (by decide) describes.rampDown) _
  · exact numberFromEnv_int p.gracefulStop_nonneg
      (holds.get?_int (by decide) describes.gracefulStop) _
  · have found : env.get? "DATA_POLICY" = some p.dataPolicy := by
      rw [holds ("data_policy", "DATA_POLICY") (by decide),
        text?_of_get? describes.dataPolicy nofun]
      rfl
    apply dataPolicyOf_given found
    intro empty
    have supported := p.dataPolicy_mem
    rw [empty] at supported
    exact absurd supported (by decide)

theorem boundsIterations_iff (defaults : Defaults) (holds : HoldsSettings env r)
    (describes : Describes r p) :
    (readSettings env defaults).BoundsIterations ↔ RunsIterations p defaults := by
  obtain ⟨_, _, _, _, dataPolicy⟩ := readSettings_describes defaults holds describes
  rw [Settings.BoundsIterations, RunsIterations, iterationLimit_ne_zero_iff holds describes,
    dataPolicy]
  exact and_comm

/-- The grace period that k6 takes. -/
theorem seconds?_gracefulStop (holds : HoldsSettings env r) (describes : Describes r p) :
    seconds? (.finite (readSettings env defaults).gracefulStopSeconds) =
      if gracefulStop p defaults ≤ maxSeconds then some (gracefulStop p defaults : Rat)
      else none := by
  obtain ⟨_, _, _, graceful, _⟩ := readSettings_describes defaults holds describes
  rw [graceful]
  exact seconds?_helperNumber p.gracefulStop_nonneg _

/-- The longest run under an iteration limit has the grace period twice. -/
theorem longestRun_iterations (holds : HoldsSettings env r) (describes : Describes r p)
    (runs : RunsIterations p defaults) :
    (executionOptions env defaults).longestRun =
      if p.durationSeconds + gracefulStop p defaults ≤ maxSeconds then
        some ((p.durationSeconds + 2 * gracefulStop p defaults : Int) : Rat)
      else none := by
  have bounds := (boundsIterations_iff defaults holds describes).mpr runs
  obtain ⟨duration, _, _, graceful, _⟩ := readSettings_describes defaults holds describes
  have positive := p.duration_pos
  have short := p.duration_le
  rw [maxDurationSeconds] at short
  have nonneg : 0 ≤ gracefulStop p defaults := counted_nonneg p.gracefulStop_nonneg _
  rw [executionOptions, longestRun_of_boundsIterations bounds,
    seconds?_gracefulStop holds describes]
  by_cases inRange : gracefulStop p defaults ≤ maxSeconds
  · have read : (readSettings env defaults).gracefulStopSeconds = gracefulStop p defaults :=
      graceful.trans (helperNumber_eq_counted p.gracefulStop_nonneg inRange)
    have small : p.durationSeconds + gracefulStop p defaults < 2 ^ 53 := by
      rw [maxSeconds] at inRange
      omega
    have maxDuration : JavaScript.round ((readSettings env defaults).durationSeconds +
          (readSettings env defaults).gracefulStopSeconds) =
        .finite ((p.durationSeconds + gracefulStop p defaults : Int) : Rat) := by
      rw [duration, read, ← Int.cast_add, JavaScript.round_intCast (by omega) small]
    rw [maxDuration, seconds?_intCast (by omega), if_pos inRange]
    by_cases taken : p.durationSeconds + gracefulStop p defaults ≤ maxSeconds
    · rw [if_pos taken, if_pos taken]
      simp only [bind, Option.bind, pure, Option.some.injEq]
      push_cast
      ring
    · rw [if_neg taken, if_neg taken]
      rfl
  · rw [if_neg inRange, if_neg (by omega)]
    cases seconds? _ with
    | none => rfl
    | some maxDuration => rfl

/-- The longest run without one is the sum of all parts. -/
theorem longestRun_duration (holds : HoldsSettings env r) (describes : Describes r p)
    (runs : ¬ RunsIterations p defaults) :
    (executionOptions env defaults).longestRun =
      if rampUp p defaults ≤ maxSeconds ∧ rampDown p defaults ≤ maxSeconds ∧
          gracefulStop p defaults ≤ maxSeconds then
        some ((p.durationSeconds + rampUp p defaults + rampDown p defaults +
          gracefulStop p defaults : Int) : Rat)
      else none := by
  have unbounded := (boundsIterations_iff defaults holds describes).not.mpr runs
  obtain ⟨duration, up, down, _, _⟩ := readSettings_describes defaults holds describes
  have short : p.durationSeconds ≤ maxSeconds := by
    have := p.duration_le
    rw [maxDurationSeconds] at this
    rw [maxSeconds]
    omega
  have upSeconds : seconds? (.finite (readSettings env defaults).rampUpSeconds) =
      if rampUp p defaults ≤ maxSeconds then some (rampUp p defaults : Rat) else none := by
    rw [up]
    exact seconds?_helperNumber p.rampUp_nonneg _
  have downSeconds : seconds? (.finite (readSettings env defaults).rampDownSeconds) =
      if rampDown p defaults ≤ maxSeconds then some (rampDown p defaults : Rat) else none := by
    rw [down]
    exact seconds?_helperNumber p.rampDown_nonneg _
  have upNonneg : 0 ≤ (readSettings env defaults).rampUpSeconds := by
    rw [up]
    exact helperNumber_nonneg p.rampUp_nonneg _
  have downNonneg : 0 ≤ (readSettings env defaults).rampDownSeconds := by
    rw [down]
    exact helperNumber_nonneg p.rampDown_nonneg _
  rw [executionOptions, longestRun_of_not_boundsIterations unbounded upNonneg downNonneg,
    upSeconds, downSeconds, seconds?_gracefulStop holds describes, duration,
    seconds?_intCast p.duration_pos.le, if_pos short, addAll_eq]
  push_cast
  congr 2
  ring

/-! ### The timeout covers the run -/

/-- For every validated settings, every script's defaults and every environment
that holds the settings: the worker has a timeout, and it is at least the longest
run of the helper's scenario if and only if the settings fit. -/
theorem timeout_covers_iff (execution : Dict Json) (env : Dict String) (defaults : Defaults)
    (valid : ∃ x, validateExecution x = .ok execution) (holds : HoldsSettings env execution) :
    ∃ plan timeout, Describes execution plan ∧
      executionTimeoutSeconds (some execution) = .ok (some timeout) ∧
      ((∀ longest ∈ (executionOptions env defaults).longestRun, longest ≤ timeout) ↔
        Fits plan defaults) := by
  obtain ⟨_, valid⟩ := valid
  obtain ⟨p, describes⟩ := validateExecution_describes valid
  refine ⟨p, plannedTimeout p, describes,
    executionTimeoutSeconds_describes describes, ?_⟩
  have iterations := covers_iterations_iff p defaults
  have duration := covers_duration_iff p defaults
  unfold Fits
  by_cases runs : RunsIterations p defaults
  · rw [longestRun_iterations holds describes runs, forall_mem_ite_some, iterations]
    cases p.maxRunSeconds with
    | none => simp [runs]
    | some m => simp [runs]
  · rw [longestRun_duration holds describes runs, forall_mem_ite_some, duration]
    cases p.maxRunSeconds with
    | none => simp [runs]
    | some m => simp [runs]

/-- The timeout covers the longest run of the helper's scenario, whatever was
validated. -/
def TimeoutCovers : Prop :=
  ∀ (execution : Dict Json) (env : Dict String) (defaults : Defaults),
    (∃ x, validateExecution x = .ok execution) → HoldsSettings env execution →
    ∃ timeout, executionTimeoutSeconds (some execution) = .ok (some timeout) ∧
      ∀ longest ∈ (executionOptions env defaults).longestRun, longest ≤ timeout

end Schedule

/-! ### The echo script with the default settings -/

/-- The defaults of `target_apps_echo_smoke.js`. -/
def echoDefaults : Defaults where
  vus := some 1
  durationSeconds := some 10
  rampUpSeconds := none
  rampDownSeconds := none
  gracefulStopSeconds := none
  iterations := none
  dataPolicy := none

/-- The settings of a k6 request that gives a ramp only: they keep the default
`max_run_seconds`. -/
def rampedExecution (rampUpSeconds : Nat) : Dict Json :=
  (defaultExecutionForEngine "k6").set "ramp_up_seconds" (.int rampUpSeconds)

/-- The environment that the worker builds for them. -/
def rampedEnvironment (rampUpSeconds : Nat) : Dict String :=
  @k6Environment asciiRuntime Table.empty Table.empty (some (rampedExecution rampUpSeconds)) none

theorem holdsSettings_rampedEnvironment (rampUpSeconds : Nat) :
    @HoldsSettings asciiRuntime (rampedEnvironment rampUpSeconds)
      (rampedExecution rampUpSeconds) :=
  @holdsSettings_k6Environment asciiRuntime _ _ _ _ (fun _ _ => rfl) (fun _ _ _ => rfl)

/-- With a ramp of a minute the run takes 80 seconds and the timeout is 30. -/
theorem minuteRamp_isCut : ¬ @TimeoutCovers asciiRuntime := by
  let _ := asciiRuntime
  intro covers
  have resolved : resolveExecution "k6" none (some (.obj [("ramp_up_seconds", .int 60)])) =
      .ok (some (rampedExecution 60)) := rfl
  obtain ⟨timeout, computed, covered⟩ := covers (rampedExecution 60) (rampedEnvironment 60)
    echoDefaults (resolveExecution_some resolved) (holdsSettings_rampedEnvironment 60)
  have thirty : executionTimeoutSeconds (some (rampedExecution 60)) = .ok (some 30) := rfl
  have eighty : (executionOptions (rampedEnvironment 60) echoDefaults).longestRun = some 80 := by
    decide +kernel
  rw [thirty] at computed
  cases computed
  exact absurd (covered 80 eighty) (by decide)

/-- The plan of these settings with a ramp of ten seconds. -/
def tenSecondRamp : ExecutionPlan where
  durationSeconds := 10
  rampUpSeconds := 10
  rampDownSeconds := 0
  gracefulStopSeconds := 10
  iterationLimit := none
  stopPolicy := "graceful_stop"
  dataPolicy := "duration_first"
  maxRunSeconds := some 30
  duration_pos := by decide
  duration_le := by decide
  rampUp_nonneg := by decide
  rampDown_nonneg := by decide
  gracefulStop_nonneg := by decide
  iterationLimit_pos := nofun
  stopPolicy_mem := by decide
  dataPolicy_mem := by decide
  maxRun_ge := by rintro _ ⟨⟩; decide

theorem tenSecondRamp_describes : Describes (rampedExecution 10) tenSecondRamp where
  duration := rfl
  rampUp := rfl
  rampDown := rfl
  gracefulStop := rfl
  iterationLimit := rfl
  stopPolicy := rfl
  dataPolicy := rfl
  maxRun := rfl

/-- With a ramp of ten seconds the timeout is just enough. -/
theorem tenSecondRamp_isCovered : ∃ timeout,
    executionTimeoutSeconds (some (rampedExecution 10)) = .ok (some timeout) ∧
      ∀ longest ∈ (executionOptions (rampedEnvironment 10) echoDefaults).longestRun,
        longest ≤ timeout := by
  let _ := asciiRuntime
  obtain ⟨plan, timeout, describes, computed, covers⟩ := timeout_covers_iff (rampedExecution 10)
    (rampedEnvironment 10) echoDefaults ⟨dictJson (rampedExecution 10), rfl⟩
    (holdsSettings_rampedEnvironment 10)
  refine ⟨timeout, computed, covers.mpr ?_⟩
  rw [describes.unique tenSecondRamp_describes]
  refine ⟨fun runs => absurd runs.1 (by decide), ?_⟩
  intro _ _ _ _
  have up : rampUp tenSecondRamp echoDefaults = 10 := by
    have := counted_cases tenSecondRamp.rampUp_nonneg (orElse echoDefaults.rampUpSeconds 0)
    simpa [rampUp, tenSecondRamp] using this
  have down : rampDown tenSecondRamp echoDefaults = 0 := by
    have := counted_cases tenSecondRamp.rampDown_nonneg (orElse echoDefaults.rampDownSeconds 0)
    simpa [rampDown, tenSecondRamp] using this
  rw [up, down]
  decide

end PLoadtesting.System
