import PLoadtesting.Lib.JavaScript

/-!
The k6 helper (`engines/k6/lib/execution.js`): the scenario that it makes of the
environment and of a script's defaults.

A duration is the number of seconds in its text, which is that number followed by
an `s`. The thresholds are handed through and are left out.

`longestRun` is the longest time a scenario can take. k6 keeps durations as 64-bit
numbers of nanoseconds: a scenario with one that is out of range is not run.
-/

namespace PLoadtesting.Engine

open Keyed Python

/-- The argument of `executionOptions`, in which the scripts give whole
numbers. -/
structure Defaults where
  vus : Option Nat
  durationSeconds : Option Nat
  rampUpSeconds : Option Nat
  rampDownSeconds : Option Nat
  gracefulStopSeconds : Option Nat
  iterations : Option Nat
  dataPolicy : Option String

/-- `value || fallback`: a zero counts as missing. -/
def orElse (value : Option Nat) (fallback : Nat) : Nat :=
  if value.getD 0 = 0 then fallback else value.getD 0

theorem orElse_zero (value : Option Nat) : orElse value 0 = value.getD 0 := by
  unfold orElse
  split
  · rename_i zero
    exact zero.symm
  · rfl

/-- `numberFromEnv`: the variable when its text is a finite number. -/
def numberFromEnv (env : Dict String) (name : String) (fallback : Nat) : Rat :=
  match env.get? name with
  | none => fallback
  | some value =>
      if value = "" then fallback
      else (JavaScript.finite? (JavaScript.toNumber value)).getD fallback

/-- `__ENV.DATA_POLICY || defaults.dataPolicy || 'duration_first'`. -/
def dataPolicyOf (env : Dict String) (defaults : Defaults) : String :=
  let given := (env.get? "DATA_POLICY").getD ""
  let default := defaults.dataPolicy.getD ""
  if given ≠ "" then given else if default ≠ "" then default else "duration_first"

theorem dataPolicyOf_given {env : Dict String} {defaults : Defaults} {value : String}
    (found : env.get? "DATA_POLICY" = some value) (nonempty : value ≠ "") :
    dataPolicyOf env defaults = value := by
  simp only [dataPolicyOf, found, Option.getD_some]
  exact if_pos nonempty

/-- The numbers that the helper reads. A missing iteration limit is null in the
source and counts like 0. -/
structure Settings where
  vus : Nat
  durationSeconds : Rat
  rampUpSeconds : Rat
  rampDownSeconds : Rat
  gracefulStopSeconds : Rat
  iterationLimit : Rat
  dataPolicy : String

def readSettings (env : Dict String) (defaults : Defaults) : Settings where
  vus := orElse defaults.vus 1
  durationSeconds := numberFromEnv env "DURATION_SECONDS" (orElse defaults.durationSeconds 10)
  rampUpSeconds := numberFromEnv env "RAMP_UP_SECONDS" (orElse defaults.rampUpSeconds 0)
  rampDownSeconds := numberFromEnv env "RAMP_DOWN_SECONDS" (orElse defaults.rampDownSeconds 0)
  gracefulStopSeconds :=
    numberFromEnv env "GRACEFUL_STOP_SECONDS" (orElse defaults.gracefulStopSeconds 10)
  iterationLimit := numberFromEnv env "ITERATION_LIMIT" (orElse defaults.iterations 0)
  dataPolicy := dataPolicyOf env defaults

structure Stage where
  duration : Double
  target : Nat

/-- The scenarios of the three executors. -/
inductive Scenario where
  | sharedIterations (vus : Nat) (iterations : Rat) (maxDuration gracefulStop : Double)
  | rampingVus (stages : List Stage) (gracefulStop : Double)
  | constantVus (vus : Nat) (duration gracefulStop : Double)

/-- `compactStages`: a stage of `0s` is dropped. -/
def compactStages (stages : List Stage) : List Stage :=
  stages.filter fun stage => decide (stage.duration ≠ .finite 0)

/-- The settings under which the iteration limit bounds the run. -/
def Settings.BoundsIterations (s : Settings) : Prop :=
  s.iterationLimit ≠ 0 ∧ s.dataPolicy = "iteration_first"

instance (s : Settings) : Decidable s.BoundsIterations :=
  inferInstanceAs (Decidable (_ ∧ _))

def Settings.scenario (s : Settings) : Scenario :=
  if s.BoundsIterations then
    .sharedIterations s.vus s.iterationLimit
      (JavaScript.round (s.durationSeconds + s.gracefulStopSeconds))
      (.finite s.gracefulStopSeconds)
  else if 0 < s.rampUpSeconds ∨ 0 < s.rampDownSeconds then
    .rampingVus
      (compactStages [⟨.finite s.rampUpSeconds, s.vus⟩, ⟨.finite s.durationSeconds, s.vus⟩,
        ⟨.finite s.rampDownSeconds, 0⟩])
      (.finite s.gracefulStopSeconds)
  else .constantVus s.vus (.finite s.durationSeconds) (.finite s.gracefulStopSeconds)

/-- `executionOptions`. -/
def executionOptions (env : Dict String) (defaults : Defaults) : Scenario :=
  (readSettings env defaults).scenario

/-! ### The longest run -/

/-- A duration that k6 takes, in seconds. -/
def seconds? : Double → Option Rat
  | .finite q => if 0 ≤ q ∧ q * 10 ^ 9 < 2 ^ 63 then some q else none
  | _ => none

/-- The stages of a run one after another. -/
def totalSeconds : List Stage → Option Rat
  | [] => some 0
  | stage :: stages => do return (← seconds? stage.duration) + (← totalSeconds stages)

/-- The longest time from the start to the end of the graceful stop. -/
def Scenario.longestRun : Scenario → Option Rat
  | .sharedIterations _ _ maxDuration gracefulStop => do
      return (← seconds? maxDuration) + (← seconds? gracefulStop)
  | .rampingVus stages gracefulStop => do
      return (← totalSeconds stages) + (← seconds? gracefulStop)
  | .constantVus _ duration gracefulStop => do
      return (← seconds? duration) + (← seconds? gracefulStop)

/-- The longest whole number of seconds that k6 takes. -/
def maxSeconds : Int := 9223372036

theorem seconds?_intCast {i : Int} (nonneg : 0 ≤ i) :
    seconds? (.finite i) = if i ≤ maxSeconds then some (i : Rat) else none := by
  have inRange : ((i : Rat) * 10 ^ 9 < 2 ^ 63) ↔ i ≤ maxSeconds := by
    have whole : ((i : Rat) * 10 ^ 9 < 2 ^ 63) ↔ i * 10 ^ 9 < 2 ^ 63 := by
      exact_mod_cast Iff.rfl
    rw [whole, maxSeconds]
    omega
  have notNegative : (0 : Rat) ≤ i := by exact_mod_cast nonneg
  by_cases short : i ≤ maxSeconds
  · rw [seconds?, if_pos ⟨notNegative, inRange.mpr short⟩, if_pos short]
  · rw [seconds?, if_neg fun taken => short (inRange.mp taken.2), if_neg short]

@[simp] theorem seconds?_zero : seconds? (.finite 0) = some 0 := by
  have := seconds?_intCast (i := 0) (by decide)
  simpa [maxSeconds] using this

theorem longestRun_of_boundsIterations {s : Settings} (bounds : s.BoundsIterations) :
    s.scenario.longestRun = do
      return (← seconds? (JavaScript.round (s.durationSeconds + s.gracefulStopSeconds))) +
        (← seconds? (.finite s.gracefulStopSeconds)) := by
  rw [Settings.scenario, if_pos bounds]
  rfl

/-- Dropping empty stages does not change the sum. -/
theorem totalSeconds_compactStages (stages : List Stage) :
    totalSeconds (compactStages stages) = totalSeconds stages := by
  induction stages with
  | nil => rfl
  | cons stage stages ih =>
      unfold compactStages at ih ⊢
      by_cases empty : stage.duration = .finite 0
      · rw [List.filter_cons_of_neg (by simp [empty]), ih, totalSeconds, empty, seconds?_zero]
        cases totalSeconds stages with
        | none => rfl
        | some rest => simp
      · rw [List.filter_cons_of_pos (by simp [empty]), totalSeconds, ih]
        rfl

/-- Without an iteration limit the run is as long as the ramps, the duration and
the graceful stop together, whichever executor is chosen. -/
theorem longestRun_of_not_boundsIterations {s : Settings} (unbounded : ¬ s.BoundsIterations)
    (rampUp : 0 ≤ s.rampUpSeconds) (rampDown : 0 ≤ s.rampDownSeconds) :
    s.scenario.longestRun = do
      let rampUpSeconds ← seconds? (.finite s.rampUpSeconds)
      let durationSeconds ← seconds? (.finite s.durationSeconds)
      let rampDownSeconds ← seconds? (.finite s.rampDownSeconds)
      let gracefulStopSeconds ← seconds? (.finite s.gracefulStopSeconds)
      return rampUpSeconds + durationSeconds + rampDownSeconds + gracefulStopSeconds := by
  rw [Settings.scenario, if_neg unbounded]
  by_cases ramps : 0 < s.rampUpSeconds ∨ 0 < s.rampDownSeconds
  · rw [if_pos ramps, Scenario.longestRun, totalSeconds_compactStages]
    simp only [totalSeconds]
    cases seconds? (.finite s.rampUpSeconds) with
    | none => rfl
    | some u =>
        cases seconds? (.finite s.durationSeconds) with
        | none => rfl
        | some d =>
            cases seconds? (.finite s.rampDownSeconds) with
            | none => rfl
            | some w =>
                cases seconds? (.finite s.gracefulStopSeconds) with
                | none => rfl
                | some g => simp [add_assoc]
  · rw [not_or, not_lt, not_lt] at ramps
    rw [if_neg (by simpa using ramps), le_antisymm ramps.1 rampUp, le_antisymm ramps.2 rampDown,
      Scenario.longestRun, seconds?_zero]
    simp

end PLoadtesting.Engine
