import PLoadtesting.Lib.Python
import Mathlib.Data.List.TakeWhile
import Mathlib.Data.Rat.Cast.Order
import Mathlib.Tactic.FieldSimp
import Mathlib.Tactic.Positivity

/-!
Numbers of JavaScript: rounding to binary64 and `Number(text)`.

A magnitude is counted in units of the least positive number of the format, so
that rounding is arithmetic on natural numbers. Signed zeros are not told apart.

Whole numbers below `2^53` are kept (`round_natCast`), larger ones stay at least
`2^53` (`le_of_round_natCast`), and the decimal text of a whole number is read as
that number, rounded (`toNumber_toString`).
-/

namespace JavaScript

open Python

/-! ### Rounding -/

/-- A binary floating-point format: its numbers are the multiples of
`2^-leastExponent` below `2^topExponent` with a mantissa of one more than
`fractionBits` bits. -/
structure Format where
  fractionBits : Nat
  leastExponent : Nat
  topExponent : Nat
  fractionBits_lt : fractionBits < topExponent

def binary64 : Format := ⟨52, 1074, 1024, by decide⟩

/-- `n / d` to the nearest whole number, a tie to the even one. -/
def roundHalfEven (n d : Nat) : Nat :=
  if 2 * (n % d) < d then n / d
  else if d < 2 * (n % d) then n / d + 1
  else n / d + n / d % 2

/-- The number of the format nearest to `n / d`, counted in its least number, if
it is in range. -/
def roundUnits (f : Format) (n d : Nat) : Option Nat :=
  let scaled := n * 2 ^ f.leastExponent
  let unit := 2 ^ ((scaled / d).log2 - f.fractionBits)
  let units := roundHalfEven scaled (d * unit) * unit
  if units < 2 ^ (f.topExponent + f.leastExponent) then some units else none

/-- The number of the format nearest to a rational. -/
def roundTo (f : Format) (q : Rat) : Double :=
  match roundUnits f q.num.natAbs q.den with
  | none => .inf (decide (q < 0))
  | some units =>
      .finite (if q < 0 then -(units / 2 ^ f.leastExponent) else units / 2 ^ f.leastExponent)

/-- The number that a rational is written as. It is never computed with in a
proof. -/
@[irreducible] def round : Rat → Double := roundTo binary64

theorem roundHalfEven_mul {k d : Nat} (pos : 0 < d) : roundHalfEven (k * d) d = k := by
  rw [roundHalfEven, Nat.mul_mod_left, Nat.mul_zero, if_pos pos, Nat.mul_div_cancel _ pos]

/-- A multiple of the unit is kept. -/
theorem roundHalfEven_mul_unit {m k unit : Nat} (pos : 0 < unit) (multiple : m = k * unit) :
    roundHalfEven m unit * unit = m := by
  rw [multiple, roundHalfEven_mul pos]

theorem div_le_roundHalfEven (n d : Nat) : n / d ≤ roundHalfEven n d := by
  unfold roundHalfEven
  split
  · exact Nat.le_refl _
  · split
    · exact Nat.le_succ _
    · exact Nat.le_add_right _ _

section Format

variable {f : Format} {n : Nat}

/-- A whole number that fits the mantissa is its own multiple of the unit. -/
theorem roundUnits_of_lt (small : n < 2 ^ (f.fractionBits + 1)) :
    roundUnits f n 1 = some (n * 2 ^ f.leastExponent) := by
  have bound : n * 2 ^ f.leastExponent < 2 ^ (f.fractionBits + 1 + f.leastExponent) := by
    rw [Nat.pow_add]
    exact Nat.mul_lt_mul_of_pos_right small (Nat.two_pow_pos _)
  have log : (n * 2 ^ f.leastExponent).log2 - f.fractionBits ≤ f.leastExponent := by
    rcases Nat.eq_zero_or_pos n with rfl | pos
    · simp
    · have nonzero : n * 2 ^ f.leastExponent ≠ 0 := (Nat.mul_pos pos (Nat.two_pow_pos _)).ne'
      have := (Nat.log2_lt nonzero).mpr bound
      omega
  obtain ⟨k, exponent⟩ := Nat.exists_eq_add_of_le log
  have multiple : n * 2 ^ f.leastExponent =
      n * 2 ^ k * 2 ^ ((n * 2 ^ f.leastExponent).log2 - f.fractionBits) := by
    rw [Nat.mul_assoc, ← Nat.pow_add, Nat.add_comm k, ← exponent]
  have kept := roundHalfEven_mul_unit (Nat.two_pow_pos _) multiple
  have inRange : n * 2 ^ f.leastExponent < 2 ^ (f.topExponent + f.leastExponent) :=
    bound.trans_le (Nat.pow_le_pow_right (by decide) (by have := f.fractionBits_lt; omega))
  simp only [roundUnits, Nat.div_one, Nat.one_mul, kept, if_pos inRange]

/-- Rounding does not go below a power of two. -/
theorem le_of_roundUnits {units : Nat} (large : 2 ^ (f.fractionBits + 1) ≤ n)
    (rounded : roundUnits f n 1 = some units) :
    2 ^ (f.fractionBits + 1 + f.leastExponent) ≤ units := by
  have bound : 2 ^ (f.fractionBits + 1 + f.leastExponent) ≤ n * 2 ^ f.leastExponent := by
    rw [Nat.pow_add]
    exact Nat.mul_le_mul_right _ large
  have nonzero : n * 2 ^ f.leastExponent ≠ 0 := ((Nat.two_pow_pos _).trans_le bound).ne'
  have log := (Nat.le_log2 nonzero).mpr bound
  have top := Nat.log2_self_le nonzero
  simp only [roundUnits, Nat.div_one, Nat.one_mul] at rounded
  split at rounded
  · cases rounded
    generalize (n * 2 ^ f.leastExponent).log2 = l at log top ⊢
    have mantissa : 2 ^ f.fractionBits ≤ n * 2 ^ f.leastExponent / 2 ^ (l - f.fractionBits) := by
      rw [Nat.le_div_iff_mul_le (Nat.two_pow_pos _), ← Nat.pow_add]
      have : f.fractionBits + (l - f.fractionBits) = l := by omega
      rwa [this]
    calc 2 ^ (f.fractionBits + 1 + f.leastExponent)
        ≤ 2 ^ (f.fractionBits + (l - f.fractionBits)) :=
          Nat.pow_le_pow_right (by decide) (by omega)
      _ = 2 ^ f.fractionBits * 2 ^ (l - f.fractionBits) := Nat.pow_add ..
      _ ≤ _ := Nat.mul_le_mul_right _ (mantissa.trans (div_le_roundHalfEven _ _))
  · cases rounded

theorem roundTo_natCast (small : n < 2 ^ (f.fractionBits + 1)) : roundTo f n = .finite n := by
  have notNegative : ¬ (n : Rat) < 0 := not_lt.mpr (Nat.cast_nonneg n)
  rw [roundTo, Rat.num_natCast, Rat.den_natCast, Int.natAbs_natCast, roundUnits_of_lt small]
  simp only [if_neg notNegative, Double.finite.injEq]
  push_cast
  field_simp

theorem le_of_roundTo_natCast {q : Rat} (large : 2 ^ (f.fractionBits + 1) ≤ n)
    (rounded : roundTo f n = .finite q) : 2 ^ (f.fractionBits + 1) ≤ q := by
  have notNegative : ¬ (n : Rat) < 0 := not_lt.mpr (Nat.cast_nonneg n)
  rw [roundTo, Rat.num_natCast, Rat.den_natCast, Int.natAbs_natCast] at rounded
  cases found : roundUnits f n 1 with
  | none => simp [found] at rounded
  | some units =>
      simp only [found, if_neg notNegative, Double.finite.injEq] at rounded
      have enough : (2 : Rat) ^ (f.fractionBits + 1 + f.leastExponent) ≤ units := by
        exact_mod_cast le_of_roundUnits large found
      rw [← rounded, le_div_iff₀ (by positivity), ← pow_add]
      exact enough

end Format

theorem round_natCast {n : Nat} (small : n < 2 ^ 53) : round n = .finite n := by
  unfold round
  exact roundTo_natCast (f := binary64) small

theorem round_intCast {i : Int} (nonneg : 0 ≤ i) (small : i < 2 ^ 53) : round i = .finite i := by
  obtain ⟨n, rfl⟩ := Int.eq_ofNat_of_zero_le nonneg
  rw [Int.cast_natCast, round_natCast (by exact_mod_cast small)]

theorem le_of_round_natCast {n : Nat} {q : Rat} (large : 2 ^ 53 ≤ n)
    (rounded : round n = .finite q) : 2 ^ 53 ≤ q := by
  unfold round at rounded
  exact le_of_roundTo_natCast (f := binary64) large rounded

/-- The value of a number for which `Number.isFinite` holds. -/
def finite? : Double → Option Rat
  | .finite q => some q
  | .inf _ | .nan => none

/-! ### Numbers from text -/

/-- White space and line ends. -/
def isWhiteSpace (c : Char) : Bool :=
  let n := c.val.toNat
  (9 ≤ n ∧ n ≤ 13) ∨ n = 0x20 ∨ n = 0xa0 ∨ n = 0x1680 ∨ (0x2000 ≤ n ∧ n ≤ 0x200a) ∨ n = 0x2028 ∨
    n = 0x2029 ∨ n = 0x202f ∨ n = 0x205f ∨ n = 0x3000 ∨ n = 0xfeff

/-- The value of an ASCII digit or letter, if it is a digit of the radix. -/
def digit? (radix : Nat) (c : Char) : Option Nat :=
  let value :=
    if c.isDigit then c.toNat - '0'.toNat
    else if 'a' ≤ c ∧ c ≤ 'f' then c.toNat - 'a'.toNat + 10
    else if 'A' ≤ c ∧ c ≤ 'F' then c.toNat - 'A'.toNat + 10
    else radix
  if value < radix then some value else none

/-- A run of digits, at least one. -/
def natural? (radix : Nat) (cs : List Char) : Option Nat :=
  if cs.isEmpty then none
  else (cs.mapM (digit? radix)).map fun digits => digits.foldl (fun n d => radix * n + d) 0

/-- Digits with at most one point. -/
def mantissa? (cs : List Char) : Option Rat :=
  let (whole, rest) := cs.span (· ≠ '.')
  match rest with
  | [] => (natural? 10 whole).map fun n : Nat => (n : Rat)
  | _ :: fraction =>
      (natural? 10 (whole ++ fraction)).map fun n : Nat => (n : Rat) / 10 ^ fraction.length

/-- The factor of an exponent part, which starts with its `e` and can be
missing. -/
def scale? : List Char → Option Rat
  | [] => some 1
  | _ :: '-' :: digits => (natural? 10 digits).map fun n : Nat => (1 : Rat) / 10 ^ n
  | _ :: '+' :: digits => (natural? 10 digits).map fun n : Nat => (10 : Rat) ^ n
  | _ :: digits => (natural? 10 digits).map fun n : Nat => (10 : Rat) ^ n

/-- A decimal literal without a sign. -/
def unsigned? (cs : List Char) : Option Double :=
  if cs = "Infinity".toList then some (.inf false)
  else
    let (mantissa, exponent) := cs.span fun c => c ≠ 'e' ∧ c ≠ 'E'
    match mantissa? mantissa, scale? exponent with
    | some m, some s => some (round (m * s))
    | _, _ => none

def negate : Double → Double
  | .finite q => .finite (-q)
  | .inf negative => .inf !negative
  | .nan => .nan

/-- A number in another radix, after its prefix. -/
def inRadix (radix : Nat) (digits : List Char) : Double :=
  match natural? radix digits with
  | some n => round n
  | none => .nan

/-- The number that trimmed text stands for. -/
def numericLiteral : List Char → Double
  | [] => .finite 0
  | '0' :: 'x' :: digits | '0' :: 'X' :: digits => inRadix 16 digits
  | '0' :: 'o' :: digits | '0' :: 'O' :: digits => inRadix 8 digits
  | '0' :: 'b' :: digits | '0' :: 'B' :: digits => inRadix 2 digits
  | '-' :: rest => ((unsigned? rest).map negate).getD .nan
  | '+' :: rest => (unsigned? rest).getD .nan
  | cs => (unsigned? cs).getD .nan

/-- `Number(text)`. -/
def toNumber (s : String) : Double := numericLiteral (stripChars isWhiteSpace s.toList)

/-! ### The text of a whole number -/

section Digits

variable {cs : List Char}

theorem stripChars_of_all {p : Char → Bool} (none_ : ∀ c ∈ cs, p c = false) :
    stripChars p cs = cs := by
  have kept : ∀ ds : List Char, (∀ c ∈ ds, p c = false) → ds.dropWhile p = ds := by
    intro ds all
    cases ds with
    | nil => rfl
    | cons d ds => exact List.dropWhile_cons_of_neg (by simp [all d List.mem_cons_self])
  rw [stripChars, kept cs none_, kept cs.reverse (by simpa using none_), List.reverse_reverse]

theorem isDigit_iff {c : Char} : c.isDigit = true ↔ 48 ≤ c.val.toNat ∧ c.val.toNat ≤ 57 := by
  simp [Char.isDigit, UInt32.le_iff_toNat_le]

theorem not_isWhiteSpace_of_isDigit {c : Char} (digit : c.isDigit = true) :
    isWhiteSpace c = false := by
  obtain ⟨low, high⟩ := isDigit_iff.mp digit
  simp only [isWhiteSpace, decide_eq_false_iff_not]
  omega

/-- A digit is none of the characters that a literal gives a meaning to. -/
theorem ne_of_isDigit {c d : Char} (digit : c.isDigit = true) (other : d.isDigit = false) :
    c ≠ d := by
  rintro rfl
  rw [digit] at other
  cases other

theorem digit?_of_isDigit {c : Char} (digit : c.isDigit = true) :
    digit? 10 c = some (c.toNat - '0'.toNat) := by
  have high := (isDigit_iff.mp digit).2
  have small : c.toNat - '0'.toNat < 10 := by
    change c.val.toNat - 48 < 10
    omega
  simp only [digit?, if_pos digit, if_pos small]

theorem natural?_of_digits (nonempty : cs ≠ []) (digits : ∀ c ∈ cs, c.isDigit = true) :
    natural? 10 cs = some (Nat.ofDigitChars 10 cs 0) := by
  have values : cs.mapM (digit? 10) = some (cs.map fun c => c.toNat - '0'.toNat) := by
    clear nonempty
    induction cs with
    | nil => rfl
    | cons c cs ih =>
        rw [List.mapM_cons, digit?_of_isDigit (digits c List.mem_cons_self),
          ih fun d mem => digits d (List.mem_cons_of_mem _ mem)]
        rfl
  have given : cs.isEmpty = false := by simpa using nonempty
  rw [natural?, given, values, Nat.ofDigitChars_eq_foldl]
  simp [List.foldl_map]

theorem span_of_all {p : Char → Bool} (all : ∀ c ∈ cs, p c = true) : cs.span p = (cs, []) := by
  rw [List.span_eq_takeWhile_dropWhile, List.takeWhile_eq_self_iff.mpr all,
    List.dropWhile_eq_nil_iff.mpr all]

theorem unsigned?_of_digits (nonempty : cs ≠ []) (digits : ∀ c ∈ cs, c.isDigit = true) :
    unsigned? cs = some (round (Nat.ofDigitChars 10 cs 0)) := by
  have notInfinity : cs ≠ "Infinity".toList := by
    rintro rfl
    exact absurd (digits 'I' (by decide)) (by decide)
  have noExponent : cs.span (fun c => decide (c ≠ 'e' ∧ c ≠ 'E')) = (cs, []) := by
    apply span_of_all
    intro c mem
    exact decide_eq_true ⟨ne_of_isDigit (digits c mem) (by decide),
      ne_of_isDigit (digits c mem) (by decide)⟩
  have noPoint : cs.span (fun c => decide (c ≠ '.')) = (cs, []) := by
    apply span_of_all
    intro c mem
    exact decide_eq_true (ne_of_isDigit (digits c mem) (by decide))
  rw [unsigned?, if_neg notInfinity, noExponent]
  simp only [mantissa?, noPoint, natural?_of_digits nonempty digits, Option.map_some, scale?,
    mul_one]

theorem numericLiteral_of_digits (nonempty : cs ≠ []) (digits : ∀ c ∈ cs, c.isDigit = true) :
    numericLiteral cs = round (Nat.ofDigitChars 10 cs 0) := by
  have read : (unsigned? cs).getD .nan = round (Nat.ofDigitChars 10 cs 0) := by
    rw [unsigned?_of_digits nonempty digits, Option.getD_some]
  -- A prefix or a sign would be a character of the text that is no digit.
  have noDigit : ∀ c ∈ cs, c.isDigit = false → False := by
    intro c mem other
    rw [digits c mem] at other
    cases other
  unfold numericLiteral
  split
  · exact absurd rfl nonempty
  · exact (noDigit 'x' (by simp) (by decide)).elim
  · exact (noDigit 'X' (by simp) (by decide)).elim
  · exact (noDigit 'o' (by simp) (by decide)).elim
  · exact (noDigit 'O' (by simp) (by decide)).elim
  · exact (noDigit 'b' (by simp) (by decide)).elim
  · exact (noDigit 'B' (by simp) (by decide)).elim
  · exact (noDigit '-' (by simp) (by decide)).elim
  · exact (noDigit '+' (by simp) (by decide)).elim
  · exact read

/-- The decimal text of a whole number. -/
theorem toNumber_toString (n : Nat) : toNumber (toString n) = round n := by
  have text : (toString n).toList = Nat.toDigits 10 n := Nat.toList_repr
  have digits : ∀ c ∈ Nat.toDigits 10 n, c.isDigit = true :=
    fun c mem => Nat.isDigit_of_mem_toDigits (by decide) (by decide) mem
  have nonempty : Nat.toDigits 10 n ≠ [] := Nat.toDigits_ne_nil
  rw [toNumber, text, stripChars_of_all fun c mem => not_isWhiteSpace_of_isDigit (digits c mem),
    numericLiteral_of_digits nonempty digits, Nat.ofDigitChars_toDigits (by decide) (by decide)]

end Digits

end JavaScript
