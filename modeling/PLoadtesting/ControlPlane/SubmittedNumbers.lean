import PLoadtesting.ControlPlane.ExecutionRules
import PLoadtesting.ControlPlane.ShardPlans
import Mathlib.Algebra.Order.Field.Rat
import Mathlib.Data.List.TakeWhile

/-!
The numbers of a request and the integers that are stored for them (the integer
fields of `validate_execution` and the datasets of `validate_distribution`).

A text is accepted only if it writes an integer, and that integer is stored
(`writtenNumber?_of_parseInt`). The fraction of a float is cut off before any
bound is checked, so that a float is stored as given exactly when it has none
(`storedAsGiven_iff`).
-/

namespace PLoadtesting.ControlPlane

open Keyed Python

/-! ### The number that a text writes -/

def digitsValue (digits : List Nat) : Nat := digits.foldl (fun n d => 10 * n + d) 0

/-- The digits of a run, with single underscores between them. -/
def digitRun? : List Char → Option (List Nat)
  | [] => none
  | c :: rest => do
      let d ← decimal c
      let ds ← digitsTail rest
      return d :: ds

def digitPart? : List Char → Option (List Nat)
  | [] => some []
  | cs => digitRun? cs

/-- An optional sign in front of what `read` reads. -/
def signed? {α : Type} [Neg α] (read : List Char → Option α) : List Char → Option α
  | '-' :: rest => (read rest).map Neg.neg
  | '+' :: rest => read rest
  | rest => read rest

theorem signed?_unsigned {α : Type} [Neg α] {read : List Char → Option α} {cs : List Char}
    (notMinus : ∀ rest, cs ≠ '-' :: rest) (notPlus : ∀ rest, cs ≠ '+' :: rest) :
    signed? read cs = read cs := by
  unfold signed?
  split
  · exact absurd rfl (notMinus _)
  · exact absurd rfl (notPlus _)
  · rfl

def isExponentMark (c : Char) : Bool := c = 'e' || c = 'E'

/-- Digits with at most one point. -/
def mantissa? (cs : List Char) : Option Rat :=
  match cs.dropWhile (· ≠ '.') with
  | [] => (digitRun? cs).map fun ds => (digitsValue ds : Rat)
  | _ :: fraction =>
      let whole := cs.takeWhile (· ≠ '.')
      if whole = [] ∧ fraction = [] then none
      else do
        let ds ← digitPart? whole
        let es ← digitPart? fraction
        return (digitsValue (ds ++ es) : Rat) / (10 : Rat) ^ es.length

/-- What stands after the mantissa: nothing, or a mark and an integer. -/
def exponent? : List Char → Option Int
  | [] => some 0
  | _ :: power => signed? (fun cs => (digitRun? cs).map fun ds => (digitsValue ds : Int)) power

def unsignedNumber? (cs : List Char) : Option Rat := do
  let mantissa ← mantissa? (cs.takeWhile (!isExponentMark ·))
  let exponent ← exponent? (cs.dropWhile (!isExponentMark ·))
  return mantissa * (10 : Rat) ^ exponent

/-- The number that a text writes in decimal notation, with blanks around it. -/
def writtenNumber? (s : String) : Option Rat :=
  signed? unsignedNumber? (stripChars isIntSpace s.toList)

/-- A character of a run of digits. -/
def IsRunChar (c : Char) : Prop := c = '_' ∨ (decimal c).isSome = true

theorem not_point_of_isRunChar {c : Char} (run : IsRunChar c) :
    c ≠ '.' ∧ isExponentMark c = false := by
  have point : ¬ IsRunChar '.' := by
    unfold IsRunChar
    decide
  have small : ¬ IsRunChar 'e' := by
    unfold IsRunChar
    decide
  have capital : ¬ IsRunChar 'E' := by
    unfold IsRunChar
    decide
  refine ⟨fun isPoint => point (isPoint ▸ run), ?_⟩
  rw [isExponentMark, Bool.or_eq_false_iff]
  exact ⟨decide_eq_false fun isSmall => small (isSmall ▸ run),
    decide_eq_false fun isCapital => capital (isCapital ▸ run)⟩

theorem digitsTail_chars {cs : List Char} {ds : List Nat} (run : digitsTail cs = some ds) :
    ∀ c ∈ cs, IsRunChar c := by
  induction cs using digitsTail.induct generalizing ds with
  | case1 => exact fun _ mem => absurd mem List.not_mem_nil
  | case2 c rest ih =>
      rw [digitsTail] at run
      obtain ⟨d, digit, run⟩ := Option.bind_eq_some_iff.mp run
      obtain ⟨es, later, _⟩ := Option.bind_eq_some_iff.mp run
      refine List.forall_mem_cons.mpr ⟨.inl rfl, List.forall_mem_cons.mpr ⟨.inr ?_, ih later⟩⟩
      rw [digit, Option.isSome_some]
  | case3 c rest single ih =>
      rw [digitsTail.eq_3 _ _ single] at run
      obtain ⟨d, digit, run⟩ := Option.bind_eq_some_iff.mp run
      obtain ⟨es, later, _⟩ := Option.bind_eq_some_iff.mp run
      refine List.forall_mem_cons.mpr ⟨.inr ?_, ih later⟩
      rw [digit, Option.isSome_some]

theorem digitRun?_chars {cs : List Char} {ds : List Nat} (run : digitRun? cs = some ds) :
    ∀ c ∈ cs, IsRunChar c := by
  cases cs with
  | nil => cases run
  | cons c rest =>
      obtain ⟨d, digit, run⟩ := Option.bind_eq_some_iff.mp run
      obtain ⟨es, later, _⟩ := Option.bind_eq_some_iff.mp run
      refine List.forall_mem_cons.mpr ⟨.inr ?_, digitsTail_chars later⟩
      rw [digit, Option.isSome_some]

/-- A run of digits writes its value. -/
theorem unsignedNumber?_of_digitRun {cs : List Char} {ds : List Nat}
    (run : digitRun? cs = some ds) : unsignedNumber? cs = some (digitsValue ds : Rat) := by
  have unmarked : ∀ c ∈ cs, (!isExponentMark c) = true := by
    intro c mem
    rw [(not_point_of_isRunChar (digitRun?_chars run c mem)).2]
    rfl
  have noPoint : ∀ c ∈ cs, decide (c ≠ '.') = true :=
    fun c mem => decide_eq_true (not_point_of_isRunChar (digitRun?_chars run c mem)).1
  unfold unsignedNumber?
  rw [List.takeWhile_eq_self_iff.mpr unmarked, List.dropWhile_eq_nil_iff.mpr unmarked]
  unfold mantissa?
  rw [List.dropWhile_eq_nil_iff.mpr noPoint]
  simp [run, exponent?]

theorem parseNat_eq_some {cs : List Char} {n : Nat} (read : parseNat cs = some n) :
    ∃ ds, digitRun? cs = some ds ∧ digitsValue ds = n := by
  cases cs with
  | nil => cases read
  | cons c rest =>
      obtain ⟨d, digit, read⟩ := Option.bind_eq_some_iff.mp read
      obtain ⟨ds, later, read⟩ := Option.bind_eq_some_iff.mp read
      split at read
      · cases read
        refine ⟨d :: ds, ?_, rfl⟩
        simp [digitRun?, digit, later]
      · cases read

/-- What `int()` reads in a text is the number that the text writes. -/
theorem writtenNumber?_of_parseInt {s : String} {i : Int} (read : parseInt s = some i) :
    writtenNumber? s = some (i : Rat) := by
  have unsigned {cs : List Char} {n : Int} (read : (parseNat cs >>= fun m => some (m : Int)) =
      some n) : unsignedNumber? cs = some (n : Rat) := by
    obtain ⟨m, read, same⟩ := Option.bind_eq_some_iff.mp read
    obtain ⟨ds, run, rfl⟩ := parseNat_eq_some read
    cases same
    exact unsignedNumber?_of_digitRun run
  unfold parseInt at read
  unfold writtenNumber?
  split at read
  · rename_i digits same
    obtain ⟨n, digitsRead, rfl⟩ := Option.map_eq_some_iff.mp read
    simp [same, signed?, unsigned digitsRead]
  · rename_i digits same
    obtain ⟨n, digitsRead, rfl⟩ := Option.map_eq_some_iff.mp read
    simp [same, signed?, unsigned digitsRead]
  · rename_i notMinus notPlus
    obtain ⟨n, digitsRead, rfl⟩ := Option.map_eq_some_iff.mp read
    rw [signed?_unsigned notMinus notPlus]
    simp [unsigned digitsRead]

/-! ### Numbers and stored integers -/

/-- The numeric value of a number or of a text that writes one. -/
def numericValue? : Json → Option Rat
  | .int i => some i
  | .float (.finite q) => some q
  | .str s => writtenNumber? s
  | _ => none

/-- A float that is no integer. -/
def hasFraction : Json → Bool
  | .float (.finite q) => q.den ≠ 1
  | _ => false

/-- The stored value is the integer with the value of the given one. -/
def StoredAsGiven (given stored : Json) : Prop :=
  ∃ i : Int, stored = .int i ∧ numericValue? given = some (i : Rat)

theorem truncate_eq_iff {q : Rat} : (truncate q : Rat) = q ↔ q.den = 1 := by
  constructor
  · intro whole
    rw [← whole, Rat.den_intCast]
  · intro whole
    rw [truncate, whole, Nat.cast_one, Int.tdiv_one]
    exact (Rat.den_eq_one_iff q).mp whole

/-- An integer that is read has the value of what it is read from, unless that
has a fraction. -/
theorem storedAsGiven_iff_of_read {value : Json} {i : Int} (read : readInt? value = some i) :
    StoredAsGiven value (.int i) ↔ hasFraction value = false := by
  have same : StoredAsGiven value (.int i) ↔ numericValue? value = some (i : Rat) := by
    constructor
    · rintro ⟨_, ⟨⟩, value_eq⟩
      exact value_eq
    · exact fun value_eq => ⟨i, rfl, value_eq⟩
  rw [same]
  cases value with
  | null => cases read
  | bool b => cases read
  | int j =>
      cases read
      exact iff_of_true rfl rfl
  | float x =>
      cases x with
      | finite q =>
          cases read
          rw [numericValue?, hasFraction, decide_eq_false_iff_not, not_not, ← truncate_eq_iff,
            Option.some_inj]
          exact eq_comm
      | inf negative => cases read
      | nan => cases read
  | str s =>
      refine iff_of_true ?_ rfl
      cases number : parseInt s with
      | none =>
          obtain ⟨text, raised⟩ := Json.toInt_str_error number
          simp [readInt?, raised, Except.toOption] at read
      | some j =>
          have isRead : j = i := by
            simpa [readInt?, Json.toInt, number, Except.toOption] using read
          exact writtenNumber?_of_parseInt (isRead ▸ number)
  | arr xs => cases read
  | obj items => cases read

/-! ### Execution settings -/

theorem asInteger_eq_int {value : Json} {i : Int} (stored : asInteger value = .int i) :
    readInt? value = some i := by
  unfold asInteger at stored
  split at stored
  · rename_i j read
    cases stored
    exact read
  · subst stored
    rfl

theorem asInteger_eq_null {value : Json} (stored : asInteger value = .null) : value = .null := by
  unfold asInteger at stored
  split at stored
  · cases stored
  · exact stored

theorem field_of_present? {d : Dict Json} {key : String} {value : Option Int}
    (read : present? d key = value.map .int) :
    field d key = .null ∨ ∃ i, field d key = .int i := by
  cases value with
  | none => exact .inl (present?_eq_none_iff.mp read)
  | some i =>
      refine .inr ⟨i, ?_⟩
      rw [field, (present?_eq_some_iff.mp read).1, Option.getD_some]

/-- The numeric fields of described settings hold integers or nothing. -/
theorem field_of_describes {r : Dict Json} {p : ExecutionPlan} (described : Describes r p)
    {key : String} (mem : key ∈ numericFields) :
    field r key = .null ∨ ∃ i, field r key = .int i := by
  have held {key : String} {i : Int} (found : r.get? key = some (.int i)) :
      field r key = .null ∨ ∃ i, field r key = .int i :=
    .inr ⟨i, by rw [field, found, Option.getD_some]⟩
  simp only [numericFields, List.mem_cons, List.not_mem_nil, or_false] at mem
  rcases mem with rfl | rfl | rfl | rfl | rfl | rfl
  · exact held described.duration
  · exact held described.rampUp
  · exact held described.rampDown
  · exact held described.gracefulStop
  · exact field_of_present? described.iterationLimit
  · exact field_of_present? described.maxRun

/-- A numeric field of an accepted object is stored as the integer that is read
from it. -/
theorem read_of_validateExecution [Runtime] {execution : Json} {r : Dict Json}
    (accepted : validateExecution execution = .ok r) {key : String} (mem : key ∈ numericFields)
    (given : objectField execution key ≠ .null) :
    ∃ i, readInt? (objectField execution key) = some i ∧ field r key = .int i := by
  obtain ⟨p, described⟩ := validateExecution_describes accepted
  unfold validateExecution at accepted
  unfold objectField at given ⊢
  cases object : execution.asDict? with
  | none => simp [object] at accepted
  | some d =>
      simp only [object] at accepted given ⊢
      have stored : field r key = asInteger (field d key) := by
        rw [field, validateFields_stores accepted key, if_pos mem, get?_of_field given]
        rfl
      rcases field_of_describes described mem with null | ⟨i, isInt⟩
      · exact absurd (asInteger_eq_null (stored.symm.trans null)) given
      · exact ⟨i, asInteger_eq_int (stored.symm.trans isInt), isInt⟩

/-! ### Datasets -/

/-- A field of a shard's dataset. -/
def datasetField (shard : Json) (key : String) : Json :=
  objectField (objectField shard "dataset") key

theorem datasetField_json (shard : NormalShard) :
    datasetField shard.json "offset" = .int shard.dataset.offset ∧
      datasetField shard.json "limit" = .int shard.dataset.limit := by
  obtain ⟨d, object, _, _, dataset⟩ := shard.json_get
  obtain ⟨e, object', _, _, offset, limit⟩ := shard.dataset.json_get
  have inner : objectField shard.json "dataset" = shard.dataset.json :=
    (objectField_of_asDict? object _).trans (congrArg (Option.getD · Json.null) dataset)
  unfold datasetField
  rw [inner, objectField_of_asDict? object', objectField_of_asDict? object']
  exact ⟨congrArg (Option.getD · Json.null) offset, congrArg (Option.getD · Json.null) limit⟩

/-- The integers of accepted settings and of accepted datasets are stored as
given exactly where no float with a fraction is given. -/
theorem storedAsGiven_iff [Runtime] :
    (∀ (execution : Json) (r : Dict Json), validateExecution execution = .ok r →
      ∀ key ∈ numericFields, objectField execution key ≠ .null →
        (StoredAsGiven (objectField execution key) (field r key) ↔
          hasFraction (objectField execution key) = false)) ∧
      ∀ distribution validated, validateDistribution distribution = .ok (some validated) →
        List.Forall₂ (fun shard stored => ∀ key ∈ ["offset", "limit"],
          (StoredAsGiven (datasetField shard key) (datasetField stored key) ↔
            hasFraction (datasetField shard key) = false))
          (requestedShards distribution) (requestedShards validated) := by
  refine ⟨fun execution r accepted key mem given => ?_, fun distribution validated accepted => ?_⟩
  · obtain ⟨i, read, stored⟩ := read_of_validateExecution accepted mem given
    rw [stored]
    exact storedAsGiven_iff_of_read read
  · obtain ⟨normal, rfl, one_by_one⟩ := validateDistribution_ok accepted
    rw [normal.requestedShards_json, List.forall₂_map_right_iff]
    refine one_by_one.imp fun shard stored normalizes => ?_
    obtain ⟨offset, limit⟩ := datasetField_json stored
    simp only [List.mem_cons, List.not_mem_nil, or_false, forall_eq_or_imp, forall_eq]
    rw [offset, limit]
    exact ⟨storedAsGiven_iff_of_read normalizes.offset, storedAsGiven_iff_of_read normalizes.limit⟩

/-- Settings with the given duration and ramp. -/
def settings (duration rampUp : Json) : Json :=
  .obj [("duration_seconds", duration), ("ramp_up_seconds", rampUp), ("ramp_down_seconds", .int 0),
    ("stop_policy", .str "hard_stop"), ("graceful_stop_seconds", .int 0),
    ("data_policy", .str "duration_first")]

theorem settings_rampUp (duration rampUp : Json) :
    objectField (settings duration rampUp) "ramp_up_seconds" = rampUp := by
  simp [objectField, field, settings, Json.asDict?, Dict.get?_ofItems]

theorem settings_storedAsGiven : (∃ r,
    @validateExecution asciiRuntime (settings (.int 20) (.str "5")) = .ok r ∧
      StoredAsGiven (.str "5") (field r "ramp_up_seconds")) ∧
    ∃ validated, validateDistribution twoShards = .ok (some validated) ∧
      List.Forall₂ (fun shard stored => ∀ key ∈ ["offset", "limit"],
        (StoredAsGiven (datasetField shard key) (datasetField stored key) ↔
          hasFraction (datasetField shard key) = false))
        (requestedShards twoShards) (requestedShards validated) := by
  let _ := asciiRuntime
  have given := settings_rampUp (.int 20) (.str "5")
  have kept := storedAsGiven_iff.1 (settings (.int 20) (.str "5")) _ rfl "ramp_up_seconds"
    (by decide) (given ▸ nofun)
  rw [given] at kept
  exact ⟨⟨_, rfl, kept.mpr rfl⟩, _, rfl, storedAsGiven_iff.2 twoShards _ rfl⟩

/-- The number -0.5. -/
def minusHalf : Json := .float (.finite ⟨-1, 2, by decide, by decide⟩)

/-- A ramp of -0.5 seconds is accepted, as one of 0 seconds. -/
theorem negativeRamp_accepted :
    ¬ ∀ (execution : Json) (r : Dict Json),
      @validateExecution asciiRuntime execution = .ok r →
      ∀ key ∈ numericFields, objectField execution key ≠ .null →
        StoredAsGiven (objectField execution key) (field r key) := by
  intro every
  have given := settings_rampUp (.int 20) minusHalf
  have notNull : objectField (settings (.int 20) minusHalf) "ramp_up_seconds" ≠ .null :=
    given ▸ nofun
  have accepted : ∃ r, @validateExecution asciiRuntime (settings (.int 20) minusHalf) = .ok r :=
    ⟨_, rfl⟩
  obtain ⟨r, accepted⟩ := accepted
  obtain ⟨i, read, isInt⟩ := @read_of_validateExecution asciiRuntime _ r accepted
    "ramp_up_seconds" (by decide) notNull
  have stored := every _ r accepted "ramp_up_seconds" (by decide) notNull
  rw [given] at read stored
  rw [isInt] at stored
  cases (storedAsGiven_iff_of_read read).mp stored

end PLoadtesting.ControlPlane
