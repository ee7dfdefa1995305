import PLoadtesting.ControlPlane.Execution
import PLoadtesting.ControlPlane.Distribution
import PLoadtesting.Lib.Checks

/-!
Malformed `execution` and `distribution` values of a create request, and the
exceptions that they end with.

The framework reports a `ValidationError` to the client; any other exception is
an internal error. Both validators are lists of checks made in order
(`makes_validateFields`, `makes_validateDistributionFields`). A check of an
integer does not catch the `OverflowError` of an infinite float, membership in a
set raises on a list and on an object, and the text about `max_run_seconds`
shows a sum that may have more digits than `str()` writes. A value of
`execution` that is no object is merged like one, or taken for a missing one
when it is false. The values that are handled cleanly are exactly those of
`cleanRejection_iff`.
-/

namespace PLoadtesting.ControlPlane

open Keyed Python Checks

/-- The exception that is reported to the client. -/
def IsValidationError : Exc → Prop
  | .validationError _ => True
  | _ => False

/-- What the object holds under a key, null when it holds nothing. -/
def field (d : Dict Json) (key : String) : Json := (d.get? key).getD .null

/-! ### Single checks -/

/-- The integer that a validator reads: of a number or a text that `int()`
takes, but not of a boolean. -/
def readInt? : Json → Option Int
  | .null | .bool _ => none
  | value => value.toInt.toOption

def isInfinite : Json → Bool
  | .float (.inf _) => true
  | _ => false

def isHashable : Json → Bool
  | .arr _ | .obj _ => false
  | _ => true

/-- An integer within bounds. `int()` of an infinite float is not caught. -/
def intCheck (admits : Int → Bool) (value : Json) : Check where
  safe := isInfinite value = false
  passes := ∃ i, readInt? value = some i ∧ admits i = true

/-- One of the names. Lists and objects cannot be looked up in a set. -/
def memberCheck (names : List String) (value : Json) : Check where
  safe := isHashable value = true
  passes := ∃ s ∈ names, value = .str s

/-- A null, or an integer within bounds. -/
def optionalCheck (check : Check) (value : Json) : Check where
  safe := value = .null ∨ check.safe
  passes := value = .null ∨ check.passes

section Single

/-- What `int()` does to a value that is neither null nor a boolean. -/
theorem toInt_cases {value : Json} (notNull : value ≠ .null) (notBool : ∀ b, value ≠ .bool b) :
    (∃ i, value.toInt = .ok i ∧ readInt? value = some i ∧ isInfinite value = false) ∨
      (∃ text, (value.toInt = .error (.typeError text) ∨ value.toInt = .error (.valueError text)) ∧
        readInt? value = none ∧ isInfinite value = false) ∨
      (∃ text, value.toInt = .error (.overflowError text) ∧ readInt? value = none ∧
        isInfinite value = true) := by
  cases value with
  | null => exact absurd rfl notNull
  | bool b => exact absurd rfl (notBool b)
  | int i => exact .inl ⟨i, rfl, rfl, rfl⟩
  | float x =>
      cases x with
      | finite q => exact .inl ⟨_, rfl, rfl, rfl⟩
      | inf negative => exact .inr (.inr ⟨_, rfl, rfl, rfl⟩)
      | nan => exact .inr (.inl ⟨_, .inr rfl, rfl, rfl⟩)
  | str s =>
      cases read : parseInt s with
      | some i =>
          refine .inl ⟨i, ?_, ?_, rfl⟩ <;> simp [readInt?, Json.toInt, read, Except.toOption]
      | none =>
          obtain ⟨text, raised⟩ := Json.toInt_str_error read
          exact .inr (.inl ⟨text, .inr raised, by simp [readInt?, raised, Except.toOption], rfl⟩)
  | arr xs => exact .inr (.inl ⟨_, .inl rfl, rfl, rfl⟩)
  | obj items => exact .inr (.inl ⟨_, .inl rfl, rfl, rfl⟩)

theorem checkedInt_ok_iff {admits : Int → Bool} {message : String} {payload payload' : Dict Json}
    {key : String} {i : Int} : checkedInt admits message payload key = .ok (i, payload') ↔
      readInt? (field payload key) = some i ∧ admits i = true ∧
        payload' = payload.set key (.int i) := by
  unfold checkedInt field
  split
  · rename_i null
    simp [null, readInt?]
  · rename_i b isBool
    simp [isBool, readInt?]
  · rename_i value notNull notBool
    rcases toInt_cases notNull notBool with ⟨j, read, reads, _⟩ | ⟨text, raised | raised, none, _⟩ |
      ⟨text, raised, none, _⟩
    · rw [read, reads]
      dsimp only
      split
      · rename_i admitted
        simp only [Except.ok.injEq, Prod.mk.injEq, Option.some.injEq]
        constructor
        · rintro ⟨rfl, rfl⟩
          exact ⟨rfl, admitted, rfl⟩
        · rintro ⟨rfl, _, rfl⟩
          exact ⟨rfl, rfl⟩
      · rename_i refused
        simp only [reduceCtorEq, Option.some.injEq, false_iff, not_and]
        rintro rfl admitted
        exact absurd admitted refused
    · simp [raised, none]
    · simp [raised, none]
    · simp [raised, none]

theorem makes_checkedInt {admits : Int → Bool} {message : String} {payload : Dict Json}
    {key : String} {value : Json} (held : field payload key = value) :
    Makes IsValidationError (checkedInt admits message payload key) [intCheck admits value] := by
  subst held
  refine makes_one ?_ ?_
  · unfold checkedInt field intCheck
    split
    · rename_i null
      simp [null, isInfinite, IsClean, executionError, IsValidationError]
    · rename_i b isBool
      simp [isBool, isInfinite, IsClean, executionError, IsValidationError]
    · rename_i value notNull notBool
      rcases toInt_cases notNull notBool with ⟨j, read, _, finite⟩ |
        ⟨text, raised | raised, _, finite⟩ | ⟨text, raised, _, infinite⟩
      · rw [read]
        dsimp only
        split <;> simp [finite, IsClean, executionError, IsValidationError]
      · simp [raised, finite, IsClean, executionError, IsValidationError]
      · simp [raised, finite, IsClean, executionError, IsValidationError]
      · simp [raised, infinite, IsClean, IsValidationError]
  · constructor
    · rintro ⟨⟨i, payload'⟩, returned⟩
      obtain ⟨read, admitted, _⟩ := checkedInt_ok_iff.mp returned
      exact ⟨i, read, admitted⟩
    · rintro ⟨i, read, admitted⟩
      exact ⟨_, checkedInt_ok_iff.mpr ⟨read, admitted, rfl⟩⟩

/-- The outcomes of a membership test. -/
theorem inSet_cases (names : List String) (value : Json) :
    (value.inSet names = .ok true ∧ isHashable value = true ∧ ∃ s ∈ names, value = .str s) ∨
      (value.inSet names = .ok false ∧ isHashable value = true ∧ ¬ ∃ s ∈ names, value = .str s) ∨
      (∃ text, value.inSet names = .error (.typeError text) ∧ isHashable value = false ∧
        ¬ ∃ s ∈ names, value = .str s) := by
  cases value with
  | str s =>
      by_cases known : s ∈ names
      · exact .inl ⟨by simp [Json.inSet, known], rfl, s, known, rfl⟩
      · refine .inr (.inl ⟨by simp [Json.inSet, known], rfl, ?_⟩)
        rintro ⟨t, mem, same⟩
        cases same
        exact known mem
  | arr xs => exact .inr (.inr ⟨_, rfl, rfl, by simp⟩)
  | obj items => exact .inr (.inr ⟨_, rfl, rfl, by simp⟩)
  | _ => exact .inr (.inl ⟨rfl, rfl, by simp⟩)

theorem makes_requireIn {names : List String} {refusal : Exc} (reported : IsValidationError refusal)
    (value : Json) :
    Makes IsValidationError (value.requireIn names refusal) [memberCheck names value] := by
  unfold Json.requireIn memberCheck
  rcases inSet_cases names value with ⟨found, hashable, member⟩ | ⟨found, hashable, other⟩ |
    ⟨text, found, unhashable, other⟩
  · rw [found]
    exact makes_one (iff_of_true trivial hashable) (iff_of_true ⟨(), rfl⟩ member)
  · rw [found]
    exact makes_one (iff_of_true reported hashable) (iff_of_false nofun other)
  · rw [found]
    exact makes_one (iff_of_false id (by simp [unhashable])) (iff_of_false nofun other)

theorem makes_require {condition : Bool} {refusal : Exc} {passes : Prop}
    (reported : IsValidationError refusal) (holds : condition = true ↔ passes) :
    Makes IsValidationError (require condition refusal) [.of passes] := by
  cases condition with
  | true => exact makes_one (iff_of_true trivial trivial) (iff_of_true ⟨(), rfl⟩ (holds.mp rfl))
  | false =>
      refine makes_one (iff_of_true reported trivial) (iff_of_false nofun ?_)
      exact fun passed => Bool.false_ne_true (holds.mpr passed)

end Single

/-! ### Execution settings -/

/-- The seconds under a key. -/
def secondsOf (d : Dict Json) (key : String) : Int := (readInt? (field d key)).getD 0

/-- A limit of the run that covers the required seconds. The text of its refusal
shows them. -/
def maxRunCheck (minRequired : Int) (value : Json) : Check where
  safe := isInfinite value = false ∧
    ∀ m, readInt? value = some m → 0 < m → m < minRequired → HasText minRequired
  passes := ∃ m, readInt? value = some m ∧ 0 < m ∧ minRequired ≤ m

/-- The checks of an execution object, in the order of the source. -/
def executionChecks (d : Dict Json) : List Check :=
  [intCheck (fun i => decide (0 < i)) (field d "duration_seconds"),
    .of (secondsOf d "duration_seconds" ≤ maxDurationSeconds),
    intCheck (fun i => decide (0 ≤ i)) (field d "ramp_up_seconds"),
    intCheck (fun i => decide (0 ≤ i)) (field d "ramp_down_seconds"),
    intCheck (fun i => decide (0 ≤ i)) (field d "graceful_stop_seconds"),
    optionalCheck (intCheck (fun i => decide (0 < i)) (field d "iteration_limit"))
      (field d "iteration_limit"),
    memberCheck supportedStopPolicies (field d "stop_policy"),
    memberCheck supportedDataPolicies (field d "data_policy"),
    optionalCheck
      (maxRunCheck (secondsOf d "duration_seconds" + secondsOf d "graceful_stop_seconds")
        (field d "max_run_seconds"))
      (field d "max_run_seconds")]

section Execution

theorem present?_eq_none_iff {d : Dict Json} {key : String} :
    present? d key = none ↔ field d key = .null := by
  unfold present? field
  split
  · rename_i absent
    simp [absent]
  · rename_i null
    simp [null]
  · rename_i value notNull found
    rw [found]
    exact ⟨nofun, fun null => (notNull null).elim⟩

/-- A check that a null is exempt from. -/
theorem makes_optional {α : Type} {x : Except Exc α} {check : Check} {value : Json}
    (null : value = .null → ∃ a, x = .ok a)
    (given : value ≠ .null → Makes IsValidationError x [check]) :
    Makes IsValidationError x [optionalCheck check value] := by
  by_cases isNull : value = .null
  · obtain ⟨a, returned⟩ := null isNull
    rw [returned]
    exact makes_one (iff_of_true trivial (.inl isNull)) (iff_of_true ⟨a, rfl⟩ (.inl isNull))
  · have made := given isNull
    refine makes_one ?_ ?_
    · rw [made.clean_iff]
      simp [SafeInOrder, optionalCheck, isNull]
    · rw [made.ok_iff]
      simp [AllPass, optionalCheck, isNull]

theorem makes_checkIterationLimit {d : Dict Json} {value : Json}
    (held : field d "iteration_limit" = value) :
    Makes IsValidationError (checkIterationLimit d)
      [optionalCheck (intCheck (fun i => decide (0 < i)) value) value] := by
  subst held
  unfold checkIterationLimit
  refine makes_optional ?_ ?_
  · intro null
    rw [present?_eq_none_iff.mpr null]
    exact ⟨d, rfl⟩
  · intro given
    split
    · rename_i absent
      exact absurd (present?_eq_none_iff.mp absent) given
    · exact makes_map (makes_checkedInt rfl)

/-- A limit that has to cover the required seconds. -/
theorem makes_covering {α : Type} (a : α) (m minRequired : Int) {refusal : String → Exc}
    (reported : ∀ text, IsValidationError (refusal text)) :
    Makes IsValidationError
      (if minRequired ≤ m then .ok a else intText minRequired >>= fun text => .error (refusal text))
      [⟨m < minRequired → HasText minRequired, minRequired ≤ m⟩] := by
  by_cases covers : minRequired ≤ m
  · rw [if_pos covers]
    refine makes_one (iff_of_true trivial fun short => ?_) (iff_of_true ⟨a, rfl⟩ covers)
    exact absurd covers (Int.not_le.mpr short)
  · rw [if_neg covers]
    unfold intText
    by_cases text : HasText minRequired
    · rw [if_pos text]
      exact makes_one (iff_of_true (reported _) fun _ => text) (iff_of_false nofun covers)
    · rw [if_neg text]
      refine makes_one (iff_of_false id fun safe => ?_) (iff_of_false nofun covers)
      exact text (safe (Int.not_le.mp covers))

/-- The limit is checked after the seconds that it has to cover are known. -/
theorem makes_checkMaxRun (duration graceful : Int) {d : Dict Json} {value : Json}
    (held : field d "max_run_seconds" = value) :
    Makes IsValidationError (checkMaxRun duration graceful d)
      [optionalCheck (maxRunCheck (duration + graceful) value) value] := by
  subst held
  unfold checkMaxRun
  refine makes_optional ?_ ?_
  · intro null
    rw [present?_eq_none_iff.mpr null]
    exact ⟨d, rfl⟩
  · intro given
    split
    · rename_i absent
      exact absurd (present?_eq_none_iff.mp absent) given
    · have limit : Makes IsValidationError (positiveInt d "max_run_seconds")
          [intCheck (fun i => decide (0 < i)) (field d "max_run_seconds")] :=
        makes_checkedInt rfl
      refine @makes_merged _ _ _ _ _
        ⟨secondsOf d "max_run_seconds" < duration + graceful → HasText (duration + graceful),
          duration + graceful ≤ secondsOf d "max_run_seconds"⟩ _
        (makes_cons limit fun result returned => ?_) ?_ ?_
      · obtain ⟨m, d'⟩ := result
        obtain ⟨read, _, _⟩ := checkedInt_ok_iff.mp returned
        rw [secondsOf, read]
        exact makes_covering d' m _ fun _ => trivial
      · constructor
        · rintro ⟨finite, later⟩
          refine ⟨finite, fun m read pos short => later ⟨m, read, decide_eq_true pos⟩ ?_⟩
          rwa [secondsOf, read]
        · rintro ⟨finite, later⟩
          refine ⟨finite, ?_⟩
          rintro ⟨m, read, pos⟩ short
          rw [secondsOf, read] at short
          exact later m read (of_decide_eq_true pos) short
      · constructor
        · rintro ⟨⟨m, read, pos⟩, covers⟩
          rw [secondsOf, read] at covers
          exact ⟨m, read, of_decide_eq_true pos, covers⟩
        · rintro ⟨m, read, pos, covers⟩
          refine ⟨⟨m, read, decide_eq_true pos⟩, ?_⟩
          rwa [secondsOf, read]

theorem makes_checkDataPolicy {d : Dict Json} {value : Json}
    (held : field d "data_policy" = value) :
    Makes IsValidationError (checkDataPolicy d) [memberCheck supportedDataPolicies value] := by
  subst held
  exact makes_requireIn (by trivial) _

variable [Runtime]

theorem makes_checkStopPolicy {d : Dict Json} {value : Json}
    (held : field d "stop_policy" = value) :
    Makes IsValidationError (checkStopPolicy d) [memberCheck supportedStopPolicies value] := by
  subst held
  have apart : ∀ s ∈ supportedStopPolicies, s ∉ futureStopPolicies := by decide
  unfold checkStopPolicy
  dsimp only
  rcases inSet_cases futureStopPolicies (field d "stop_policy") with
    ⟨found, hashable, s, future, isFuture⟩ | ⟨found, _, _⟩ | ⟨text, found, unhashable, _⟩
  · have other : ¬ ∃ t ∈ supportedStopPolicies, field d "stop_policy" = .str t := by
      rintro ⟨t, supported, same⟩
      rw [isFuture] at same
      cases same
      exact apart s supported future
    unfold field at found
    rw [found]
    exact makes_one (iff_of_true trivial hashable) (iff_of_false nofun other)
  · unfold field at found
    rw [found]
    exact makes_requireIn (by trivial) _
  · have other : ¬ ∃ t ∈ supportedStopPolicies, field d "stop_policy" = .str t := by
      rintro ⟨t, _, same⟩
      rw [same] at unhashable
      cases unhashable
    unfold field at found
    rw [found]
    exact makes_one (iff_of_false id (by simp [memberCheck, unhashable]))
      (iff_of_false nofun other)

/-- Validation makes the checks of the object it is given: what a check stores is
read by no later one, but for the seconds that the limit covers. -/
theorem makes_validateFields (d : Dict Json) :
    Makes IsValidationError (validateFields d) (executionChecks d) := by
  unfold validateFields executionChecks
  refine makes_cons (makes_checkedInt rfl) ?_
  rintro ⟨duration, d₁⟩ checked
  obtain ⟨readDuration, _, rfl⟩ := checkedInt_ok_iff.mp checked
  have isDuration : secondsOf d "duration_seconds" = duration := by
    rw [secondsOf, readDuration, Option.getD_some]
  rw [isDuration]
  refine makes_cons (makes_require (by trivial) decide_eq_true_iff) fun _ _ => ?_
  refine makes_cons (makes_checkedInt (by simp [field])) ?_
  rintro ⟨rampUp, d₂⟩ checked
  obtain ⟨_, _, rfl⟩ := checkedInt_ok_iff.mp checked
  refine makes_cons (makes_checkedInt (by simp [field])) ?_
  rintro ⟨rampDown, d₃⟩ checked
  obtain ⟨_, _, rfl⟩ := checkedInt_ok_iff.mp checked
  refine makes_cons (makes_checkedInt (by simp [field])) ?_
  rintro ⟨graceful, d₄⟩ checked
  obtain ⟨readGraceful, _, rfl⟩ := checkedInt_ok_iff.mp checked
  have isGraceful : secondsOf d "graceful_stop_seconds" = graceful := by
    have same : readInt? (field d "graceful_stop_seconds") = some graceful := by
      simpa [field] using readGraceful
    rw [secondsOf, same, Option.getD_some]
  rw [isGraceful]
  refine makes_cons (makes_checkIterationLimit (by simp [field])) fun d₅ checked => ?_
  obtain ⟨_, kept⟩ := checkIterationLimit_ok checked
  refine makes_cons (makes_checkStopPolicy (by simp [field, kept])) fun _ _ => ?_
  refine makes_cons (makes_checkDataPolicy (by simp [field, kept])) fun _ _ => ?_
  exact makes_checkMaxRun duration graceful (by simp [field, kept])

end Execution

/-! #### The three layers -/

/-- The engine's default, updated by the template and then by the items of the
request. -/
def mergedExecution (engine : String) (template : Option (Dict Json))
    (items : List (String × Json)) : Dict Json :=
  ((defaultExecutionForEngine engine).update ((template.map (·.rows)).getD [])).update items

/-- The value is handled cleanly: something is returned or a validation error
raised, and a value that is neither null nor an object is refused. -/
structure HandledCleanly {α : Type} (value : Json) (outcome : Except Exc α) : Prop where
  clean : IsClean IsValidationError outcome
  refused : value ≠ .null → value.asDict? = none → IsRefused IsValidationError outcome

/-- A request that `resolve_execution` handles cleanly. -/
def ExecutionHandled [Runtime] (engine : String) (template : Option (Dict Json)) (request : Json) :
    Prop :=
  match request with
  | .null => (engineDefaultExecution engine = none ∧ template = none) ∨
      SafeInOrder (executionChecks (mergedExecution engine template []))
  | .obj items => SafeInOrder (executionChecks (mergedExecution engine template items))
  | request => ∃ items, request.orEmpty.asItems = .ok items ∧
      SafeInOrder (executionChecks (mergedExecution engine template items)) ∧
      ¬ AllPass (executionChecks (mergedExecution engine template items))

section Layers

variable [Runtime]

theorem asKey_error {key : Json} {e : Exc} (raised : key.asKey = .error e) :
    ¬ IsValidationError e := by
  cases key <;> cases raised <;> exact id

theorem asPair_error {element : Json} {e : Exc} (raised : element.asPair = .error e) :
    ¬ IsValidationError e := by
  unfold Json.asPair at raised
  split at raised
  · rename_i key value
    cases read : key.asKey with
    | error e' =>
        rw [read] at raised
        cases raised
        exact asKey_error read
    | ok k =>
        rw [read] at raised
        cases raised
  · split at raised <;> cases raised
    exact id
  · cases raised
  · cases raised
    exact id
  · cases raised
    exact id
  · cases raised
    exact id

omit [Runtime] in
theorem mapM_error {α β : Type} {f : α → Except Exc β} {xs : List α}
    (steps : ∀ x e, f x = .error e → ¬ IsValidationError e) {e : Exc}
    (raised : xs.mapM f = .error e) : ¬ IsValidationError e := by
  induction xs with
  | nil => cases raised
  | cons x xs ih =>
      rw [List.mapM_cons] at raised
      cases first : f x with
      | error e' =>
          rw [first] at raised
          cases raised
          exact steps x e first
      | ok y =>
          rw [first] at raised
          cases rest : xs.mapM f with
          | error e' =>
              simp only [rest, bind, Except.bind, Except.error.injEq] at raised
              subst raised
              exact ih rest
          | ok ys => simp [rest, bind, Except.bind, pure, Except.pure] at raised

/-- A value that cannot be merged is not refused cleanly. -/
theorem asItems_error {value : Json} {e : Exc} (raised : value.asItems = .error e) :
    ¬ IsValidationError e := by
  cases value with
  | obj items => cases raised
  | arr xs => exact mapM_error (fun _ _ => asPair_error) raised
  | str s => exact mapM_error (fun _ _ => asPair_error) raised
  | _ =>
      cases raised
      exact id

theorem asItems_orEmpty_obj (items : List (String × Json)) :
    (Json.obj items).orEmpty.asItems = .ok items := by
  cases items with
  | nil => rfl
  | cons item items => rfl

/-- Nothing is given and the engine has no default. -/
def NothingGiven (engine : String) (template : Option (Dict Json)) (request : Json) : Prop :=
  engineDefaultExecution engine = none ∧ template = none ∧ request = .null

theorem resolveExecution_eq {engine : String} {template : Option (Dict Json)} {request : Json}
    (given : ¬ NothingGiven engine template request) :
    resolveExecution engine (template.map dictJson) (some request) = (do
      let items ← request.orEmpty.asItems
      return some (← validateFields (mergedExecution engine template items))) := by
  have templateItems : ((template.map dictJson).getD .null).orEmpty.asItems =
      .ok ((template.map (·.rows)).getD []) := by
    cases template with
    | none => rfl
    | some d => exact asItems_orEmpty_obj d.rows
  unfold resolveExecution
  dsimp only
  split
  · rename_i noDefault noTemplate noRequest
    refine absurd ⟨defaultExecutionForEngine_rows_eq_nil_iff.mp noDefault, ?_, noRequest⟩ given
    cases template with
    | none => rfl
    | some d => cases noTemplate
  · rw [templateItems, Option.getD_some]
    simp only [validateExecution, asDict?_dictJson]
    rfl

/-- A value that can be merged is checked with the two other layers. -/
theorem makes_resolveExecution {engine : String} {template : Option (Dict Json)} {request : Json}
    {items : List (String × Json)} (given : ¬ NothingGiven engine template request)
    (read : request.orEmpty.asItems = .ok items) :
    Makes IsValidationError (resolveExecution engine (template.map dictJson) (some request))
      (executionChecks (mergedExecution engine template items)) := by
  rw [resolveExecution_eq given, read]
  exact makes_map (makes_validateFields _)

/-- A value that is no object is refused if it can be merged and a safe check
then fails. -/
theorem handled_iff_of_noObject {engine : String} {template : Option (Dict Json)} {request : Json}
    (given : ¬ NothingGiven engine template request) (notNull : request ≠ .null)
    (noObject : request.asDict? = none) :
    HandledCleanly request (resolveExecution engine (template.map dictJson) (some request)) ↔
      ∃ items, request.orEmpty.asItems = .ok items ∧
        SafeInOrder (executionChecks (mergedExecution engine template items)) ∧
        ¬ AllPass (executionChecks (mergedExecution engine template items)) := by
  constructor
  · intro handled
    have refused := handled.refused notNull noObject
    cases read : request.orEmpty.asItems with
    | error e =>
        rw [resolveExecution_eq given, read] at refused
        exact absurd refused (asItems_error read)
    | ok items =>
        exact ⟨items, rfl, (makes_resolveExecution given read).isRefused_iff.mp refused⟩
  · rintro ⟨items, read, refuses⟩
    have made := makes_resolveExecution given read
    exact ⟨made.clean_iff.mpr refuses.1, fun _ _ => made.isRefused_iff.mpr refuses⟩

theorem resolveExecution_handled_iff (engine : String) (template : Option (Dict Json))
    (request : Json) :
    HandledCleanly request (resolveExecution engine (template.map dictJson) (some request)) ↔
      ExecutionHandled engine template request := by
  by_cases nothing : NothingGiven engine template request
  · obtain ⟨noDefault, rfl, rfl⟩ := nothing
    have returned : resolveExecution engine none (some .null) = .ok none :=
      resolveExecution_none_iff.mpr ⟨noDefault, rfl, rfl⟩
    refine iff_of_true ⟨?_, fun given => absurd rfl given⟩ (.inl ⟨noDefault, rfl⟩)
    rw [Option.map_none, returned]
    trivial
  · cases request with
    | null =>
        have items : Json.null.orEmpty.asItems = .ok [] := rfl
        have made := makes_resolveExecution nothing items
        constructor
        · exact fun handled => .inr (made.clean_iff.mp handled.clean)
        · rintro (⟨noDefault, noTemplate⟩ | safe)
          · exact absurd ⟨noDefault, noTemplate, rfl⟩ nothing
          · exact ⟨made.clean_iff.mpr safe, fun given => absurd rfl given⟩
    | obj items =>
        have made := makes_resolveExecution nothing (asItems_orEmpty_obj items)
        constructor
        · exact fun handled => made.clean_iff.mp handled.clean
        · exact fun safe => ⟨made.clean_iff.mpr safe, fun _ noObject => nomatch noObject⟩
    | bool _ | int _ | float _ | str _ | arr _ =>
        exact handled_iff_of_noObject nothing nofun rfl

end Layers

/-! ### Distributions -/

/-- What an object holds under a key; another value holds nothing. -/
def objectField (value : Json) (key : String) : Json :=
  match value.asDict? with
  | some d => field d key
  | none => .null

theorem objectField_of_asDict? {value : Json} {d : Dict Json} (object : value.asDict? = some d)
    (key : String) : objectField value key = field d key := by
  rw [objectField, object]

/-- An agent selector: null, or an object whose labels, if given, are texts. -/
def SelectorAccepted (selector : Json) : Prop :=
  selector = .null ∨ ∃ d labels, selector.asDict? = some d ∧
    (d.get? "labels").getD (.arr []) = .arr labels ∧ labels.all (· matches .str _) = true

/-- The checks of a dataset, in the order of the source. -/
def datasetChecks (dataset : Json) : List Check :=
  [.of (dataset.asDict?.isSome = true),
    .of ((nonEmptyStr? (objectField dataset "source")).isSome = true),
    .of (∀ source, nonEmptyStr? (objectField dataset "source") = some source →
      (safeDatasetSourcePrefixes.any fun p => p.toList.isPrefixOf source.toList) = true),
    memberCheck supportedDatasetFormats (objectField dataset "format"),
    intCheck (fun _ => true) (objectField dataset "offset"),
    .of (0 ≤ (readInt? (objectField dataset "offset")).getD 0),
    intCheck (fun _ => true) (objectField dataset "limit"),
    .of (0 < (readInt? (objectField dataset "limit")).getD 0)]

/-- The checks of a shard. -/
def shardChecks (shard : Json) : List Check :=
  .of (shard.asDict?.isSome = true) ::
    .of ((nonEmptyStr? (objectField shard "shard_id")).isSome = true) ::
    .of (SelectorAccepted (objectField shard "agent_selector")) ::
    datasetChecks (objectField shard "dataset")

def shardIdOf (shard : Json) : String := (nonEmptyStr? (objectField shard "shard_id")).getD ""

/-- The checks of the shards after the given ids. -/
def shardsChecks : List String → List Json → List Check
  | _, [] => []
  | seenShardIds, shard :: shards =>
      shardChecks shard ++ .of (shardIdOf shard ∉ seenShardIds) ::
        shardsChecks (shardIdOf shard :: seenShardIds) shards

/-- The checks of a distribution, in the order of the source. -/
def distributionChecks (d : Dict Json) : List Check :=
  memberCheck supportedDistributionModes (field d "mode") ::
    memberCheck supportedResultMergePolicies
      ((d.get? "result_merge_policy").getD (.str "summary_only")) ::
    .of ((shardList? d).isSome = true) :: shardsChecks [] ((shardList? d).getD [])

section Distribution

theorem makes_integerValue (value : Json) (path : String) :
    Makes IsValidationError (integerValue value path) [intCheck (fun _ => true) value] ∧
      ∀ i, integerValue value path = .ok i → readInt? value = some i := by
  have noValue (e : Exc) (i : Int) (returned : Except.error e = .ok i) :
      readInt? value = some i := by
    cases returned
  unfold integerValue
  split
  · exact ⟨makes_refused [] trivial rfl (by simp [intCheck, readInt?]), noValue _⟩
  · exact ⟨makes_refused [] trivial rfl (by simp [intCheck, readInt?]), noValue _⟩
  · rename_i notNull notBool
    rcases toInt_cases notNull notBool with ⟨i, read, reads, finite⟩ |
      ⟨text, raised | raised, noInt, finite⟩ | ⟨text, raised, noInt, infinite⟩
    · rw [read]
      exact ⟨makes_one (iff_of_true trivial finite) (iff_of_true ⟨i, rfl⟩ ⟨i, reads, rfl⟩), by
        rintro j ⟨⟩
        exact reads⟩
    · rw [raised]
      exact ⟨makes_refused [] trivial finite (by simp [intCheck, noInt]), noValue _⟩
    · rw [raised]
      exact ⟨makes_refused [] trivial finite (by simp [intCheck, noInt]), noValue _⟩
    · rw [raised]
      exact ⟨makes_one (iff_of_false id (by simp [intCheck, infinite]))
        (iff_of_false (by rintro ⟨_, ⟨⟩⟩) (by simp [intCheck, noInt])), noValue _⟩

theorem makes_normalizeDataset (dataset : Json) (index : Nat) :
    Makes IsValidationError (normalizeDataset dataset index) (datasetChecks dataset) := by
  unfold normalizeDataset datasetChecks objectField
  cases dataset.asDict? with
  | none => exact makes_refused _ trivial trivial (by simp [Check.of])
  | some d =>
      refine makes_passed trivial rfl ?_
      dsimp only
      unfold field
      cases named : nonEmptyStr? ((d.get? "source").getD .null) with
      | none => exact makes_refused _ trivial trivial (by simp [Check.of])
      | some source =>
          refine makes_passed trivial rfl (makes_cons ?_ fun _ _ => ?_)
          · exact makes_require (by trivial) (by simp)
          refine makes_cons (makes_requireIn (by trivial) _) fun _ _ => ?_
          obtain ⟨offset, readsOffset⟩ := makes_integerValue ((d.get? "offset").getD .null)
            (shardField index ".dataset.offset")
          refine makes_cons offset fun i returned => ?_
          rw [readsOffset i returned]
          refine makes_cons (makes_require (by trivial) decide_eq_true_iff) fun _ _ => ?_
          obtain ⟨limit, readsLimit⟩ := makes_integerValue ((d.get? "limit").getD .null)
            (shardField index ".dataset.limit")
          refine makes_cons limit fun j returned => ?_
          rw [readsLimit j returned]
          refine makes_bind (makes_require (by trivial) decide_eq_true_iff) fun _ _ => ?_
          exact makes_ok _

theorem makes_normalizeAgentSelector (selector : Json) (index : Nat) :
    Makes IsValidationError (normalizeAgentSelector selector index)
      [.of (SelectorAccepted selector)] := by
  unfold normalizeAgentSelector
  split
  · exact makes_one (iff_of_true trivial trivial) (iff_of_true ⟨_, rfl⟩ (.inl rfl))
  · rename_i notNull noObject
    refine makes_refused [] trivial trivial ?_
    rintro (null | ⟨d, labels, object, _⟩)
    · exact notNull null
    · rw [noObject] at object
      cases object
  · rename_i d notNull object
    split
    · rename_i labels listed
      split
      · rename_i texts
        exact makes_one (iff_of_true trivial trivial)
          (iff_of_true ⟨_, rfl⟩ (.inr ⟨d, labels, object, listed, texts⟩))
      · rename_i noTexts
        refine makes_refused [] trivial trivial ?_
        rintro (null | ⟨d', labels', object', listed', texts⟩)
        · exact notNull null
        · cases object.symm.trans object'
          cases listed.symm.trans listed'
          exact noTexts texts
    · rename_i noList
      refine makes_refused [] trivial trivial ?_
      rintro (null | ⟨d', labels, object', listed, _⟩)
      · exact notNull null
      · cases object.symm.trans object'
        exact noList labels listed

theorem makes_normalizeShard (shard : Json) (index : Nat) :
    Makes IsValidationError (normalizeShard shard index) (shardChecks shard) ∧
      ∀ shardId normalized, normalizeShard shard index = .ok (shardId, normalized) →
        shardId = shardIdOf shard := by
  unfold normalizeShard shardChecks shardIdOf objectField
  cases shard.asDict? with
  | none => exact ⟨makes_refused _ trivial trivial (by simp [Check.of]), nofun⟩
  | some d =>
      dsimp only
      unfold field
      cases named : nonEmptyStr? ((d.get? "shard_id").getD .null) with
      | none =>
          refine ⟨makes_passed trivial rfl ?_, nofun⟩
          exact makes_refused _ trivial trivial (by simp [Check.of])
      | some shardId =>
          refine ⟨makes_passed trivial rfl (makes_passed trivial rfl ?_), ?_⟩
          · refine makes_cons (makes_normalizeAgentSelector _ index) fun _ _ => ?_
            exact makes_map (makes_normalizeDataset _ index)
          · intro shardId' normalized returned
            obtain ⟨_, _, returned⟩ := bind_ok_iff.mp returned
            obtain ⟨_, _, returned⟩ := bind_ok_iff.mp returned
            cases returned
            rfl

theorem makes_normalizeShards (shards : List Json) (index : Nat) (seenShardIds : List String) :
    Makes IsValidationError (normalizeShards shards index seenShardIds)
      (shardsChecks seenShardIds shards) := by
  induction shards generalizing index seenShardIds with
  | nil => exact makes_ok []
  | cons shard shards ih =>
      obtain ⟨made, named⟩ := makes_normalizeShard shard index
      unfold normalizeShards shardsChecks
      refine makes_bind made ?_
      rintro ⟨shardId, normalized⟩ returned
      cases named shardId normalized returned
      refine makes_cons (makes_require (by trivial) (by simp)) fun _ _ => ?_
      exact makes_map (ih (index + 1) _)

theorem makes_validateDistributionFields (d : Dict Json) :
    Makes IsValidationError (validateDistributionFields d) (distributionChecks d) := by
  unfold validateDistributionFields distributionChecks
  refine makes_cons (makes_requireIn (by trivial) _) fun _ _ => ?_
  refine makes_cons (makes_requireIn (by trivial) _) fun _ _ => ?_
  cases shardList? d with
  | none => exact makes_refused _ trivial trivial (by simp [Check.of])
  | some shards => exact makes_passed trivial rfl (makes_map (makes_normalizeShards shards 0 []))

/-- A distribution is handled cleanly if and only if the first check that it does
not pass is a safe one. -/
theorem validateDistribution_handled_iff (distribution : Json) :
    HandledCleanly distribution (validateDistribution distribution) ↔
      ∀ d, distribution.asDict? = some d → SafeInOrder (distributionChecks d) := by
  unfold validateDistribution
  split
  · exact iff_of_true ⟨trivial, fun given => absurd rfl given⟩ nofun
  · rename_i notNull noObject
    refine iff_of_true ⟨trivial, fun _ _ => trivial⟩ fun d object => ?_
    rw [noObject] at object
    cases object
  · rename_i d notNull object
    have made := makes_map (f := some) (makes_validateDistributionFields d)
    constructor
    · intro handled d' object'
      cases object.symm.trans object'
      exact made.clean_iff.mp handled.clean
    · intro safe
      refine ⟨made.clean_iff.mpr (safe d object), fun _ noObject => ?_⟩
      rw [object] at noObject
      cases noObject

end Distribution

/-! ### Both values -/

/-- The values of `execution` and of `distribution` that are handled cleanly are
those whose checks are safe in order. -/
theorem cleanRejection_iff [Runtime] :
    (∀ (engine : String) (template : Option (Dict Json)) (request : Json),
      HandledCleanly request (resolveExecution engine (template.map dictJson) (some request)) ↔
        ExecutionHandled engine template request) ∧
      ∀ distribution : Json, HandledCleanly distribution (validateDistribution distribution) ↔
        ∀ d, distribution.asDict? = some d → SafeInOrder (distributionChecks d) :=
  ⟨resolveExecution_handled_iff, validateDistribution_handled_iff⟩

/-- A list of policies raises a `TypeError`. -/
theorem policyList_raises :
    ¬ ((∀ (engine : String) (template : Option (Dict Json)) (request : Json),
      HandledCleanly request
        (@resolveExecution asciiRuntime engine (template.map dictJson) (some request))) ∧
      ∀ distribution : Json, HandledCleanly distribution (validateDistribution distribution)) := by
  let _ := asciiRuntime
  rintro ⟨every, _⟩
  have handled := (every "k6" none (.obj [("stop_policy", .arr [.str "hard_stop"])])).clean
  have raised : resolveExecution "k6" none
      (some (.obj [("stop_policy", .arr [.str "hard_stop"])])) =
        .error (.typeError "unhashable type: 'list'") := rfl
  rw [Option.map_none, raised] at handled
  exact handled

end PLoadtesting.ControlPlane
