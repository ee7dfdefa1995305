import PLoadtesting.Lib.Table
import Mathlib.Data.List.Infix
import Mathlib.Data.List.TakeWhile
import Mathlib.Data.Rat.Defs

/-!
JSON values as Python holds them after decoding, and the built-in operations
that programs apply to them: truth, `int()`, `str()`, `dict()`, `in`.

Numbers split as in Python into unbounded integers and floats. A finite float is
the rational it denotes; the sign of zero is not kept. Objects keep their items
in order; a repeated key reads as its last value (`Dict.ofItems`).

The tables of the interpreter that are too large to write out here are the
fields of `Runtime`: the parts of the Unicode database behind `str.lower`,
`str.isprintable` and `unicodedata.normalize`, and the shortest decimal text of
a float. White space and decimal digits, which `int()` and `strip()` need, are
given in full (Unicode 14, the database of Python 3.11).

A Python text may hold surrogates, which `json.loads` makes of unpaired escapes
and UTF-8 cannot write. Lean has no such characters; the last 2048 characters of
the last private-use plane stand for them here (`isSurrogate`) and not for
themselves.
-/

namespace Python

open Keyed

/-- Floating-point values. -/
inductive Double where
  | finite (q : Rat)
  | inf (negative : Bool)
  | nan
deriving DecidableEq, Repr

/-- A finite number. -/
def Double.isFinite : Double → Bool
  | .finite _ => true
  | _ => false

/-- Decoded JSON. -/
inductive Json where
  | null
  | bool (b : Bool)
  | int (i : Int)
  | float (x : Double)
  | str (s : String)
  | arr (xs : List Json)
  | obj (items : List (String × Json))
deriving Repr, Inhabited

/-- Exceptions, with the text or the detail they carry. `validationError` is the
one that a web framework reports to the client. -/
inductive Exc where
  | typeError (text : String)
  | valueError (text : String)
  | keyError (key : String)
  | attributeError (text : String)
  | overflowError (text : String)
  | doesNotExist (text : String)
  | integrityError (text : String)
  | osError (text : String)
  | recursionError (text : String)
  | csvError (text : String)
  | validationError (detail : Json)
deriving Repr, Inhabited

/-- `str(exc)`. -/
def Exc.text : Exc → String
  | .typeError t | .valueError t | .attributeError t | .overflowError t | .doesNotExist t
  | .integrityError t | .osError t | .recursionError t | .csvError t => t
  | .keyError k => "'" ++ k ++ "'"
  | .validationError _ => "validation error"

/-- A computation that continues after a step succeeds if the step does and the
rest does. -/
theorem bind_ok_iff {ε α β : Type} {x : Except ε α} {f : α → Except ε β} {b : β} :
    (x >>= f) = .ok b ↔ ∃ a, x = .ok a ∧ f a = .ok b := by
  cases x with
  | error e => exact ⟨nofun, fun ⟨_, h, _⟩ => nomatch h⟩
  | ok a => exact ⟨fun h => ⟨a, rfl, h⟩, fun ⟨_, h, h'⟩ => Except.ok.inj h ▸ h'⟩

theorem map_ok_iff {ε α β : Type} {x : Except ε α} {f : α → β} {b : β} :
    x.map f = .ok b ↔ ∃ a, x = .ok a ∧ f a = b := by
  cases x <;> simp [Except.map]

theorem toOption_eq_some_iff {ε α : Type} {x : Except ε α} {a : α} :
    x.toOption = some a ↔ x = .ok a := by
  cases x with
  | error e => simp [Except.toOption]
  | ok b => simp [Except.toOption]

/-- Raise `refusal` unless the condition holds. -/
def require {ε : Type} (condition : Bool) (refusal : ε) : Except ε Unit :=
  if condition then .ok () else .error refusal

theorem require_ok_iff {ε : Type} {condition : Bool} {refusal : ε} {u : Unit} :
    require condition refusal = .ok u ↔ condition = true := by
  cases condition <;> simp [require]

/-- A loop of checked steps succeeds if every step does. -/
theorem exists_mapM_ok_iff {ε α β : Type} {f : α → Except ε β} {xs : List α} :
    (∃ ys, xs.mapM f = .ok ys) ↔ ∀ x ∈ xs, ∃ y, f x = .ok y := by
  induction xs with
  | nil => simp [pure, Except.pure]
  | cons x xs ih =>
      rw [List.forall_mem_cons, ← ih]
      simp only [List.mapM_cons, bind_ok_iff]
      constructor
      · rintro ⟨_, y, hy, ys, hys, _⟩
        exact ⟨⟨y, hy⟩, ys, hys⟩
      · rintro ⟨⟨y, hy⟩, ys, hys⟩
        exact ⟨y :: ys, y, hy, ys, hys, rfl⟩

/-- What a loop of checked steps collects comes from its steps. -/
theorem of_mem_mapM_ok {ε α β : Type} {f : α → Except ε β} {xs : List α} {ys : List β}
    (ran : xs.mapM f = .ok ys) {y : β} (mem : y ∈ ys) : ∃ x ∈ xs, f x = .ok y := by
  induction xs generalizing ys with
  | nil =>
      cases ran
      exact absurd mem List.not_mem_nil
  | cons x xs ih =>
      rw [List.mapM_cons] at ran
      obtain ⟨first, here, ran⟩ := bind_ok_iff.mp ran
      obtain ⟨rest, later, ran⟩ := bind_ok_iff.mp ran
      cases ran
      rcases List.mem_cons.mp mem with rfl | inRest
      · exact ⟨x, List.mem_cons_self, here⟩
      · obtain ⟨x', inXs, read⟩ := ih later inRest
        exact ⟨x', List.mem_cons_of_mem _ inXs, read⟩

/-- The interpreter's text tables. -/
class Runtime where
  lower : String → String
  isPrintable : Char → Bool
  nfkc : String → String
  floatRepr : Rat → String

/-- The tables cut down to ASCII text, with a float written as a fraction. Runs
on fixed inputs use it where only ASCII text and integers occur. -/
@[reducible] def asciiRuntime : Runtime where
  lower s := s.map Char.toLower
  isPrintable _ := false
  nfkc s := s
  floatRepr q := toString q.num ++ "/" ++ toString q.den

/-! ### Characters -/

/-- The character stands for a surrogate: U+10F800 for U+D800, and so on. -/
def isSurrogate (c : Char) : Bool := 0x10f800 ≤ c.val.toNat

/-- `ord(c)`. -/
def codePoint (c : Char) : Nat :=
  if isSurrogate c then c.val.toNat - 0x10f800 + 0xd800 else c.val.toNat

/-- `s.encode()` succeeds. -/
def isEncodable (s : String) : Bool := s.toList.all fun c => !isSurrogate c

theorem isEncodable_of_ascii {s : String} (ascii : ∀ c ∈ s.toList, c.val.toNat < 128) :
    isEncodable s = true := by
  refine List.all_eq_true.mpr fun c mem => ?_
  have plain : isSurrogate c = false := by
    refine decide_eq_false ?_
    have := ascii c mem
    omega
  rw [plain]
  rfl

/-- `str.isspace` of one character. -/
def isSpace (c : Char) : Bool :=
  let n := c.val.toNat
  (9 ≤ n ∧ n ≤ 13) ∨ (28 ≤ n ∧ n ≤ 32) ∨ n = 0x85 ∨ n = 0xa0 ∨ n = 0x1680 ∨
    (0x2000 ≤ n ∧ n ≤ 0x200a) ∨ n = 0x2028 ∨ n = 0x2029 ∨ n = 0x202f ∨ n = 0x205f ∨ n = 0x3000

/-- The code points of the decimal digits zero. -/
def decimalZeros : List Nat :=
  [0x30, 0x660, 0x6f0, 0x7c0, 0x966, 0x9e6, 0xa66, 0xae6, 0xb66, 0xbe6, 0xc66, 0xce6, 0xd66,
    0xde6, 0xe50, 0xed0, 0xf20, 0x1040, 0x1090, 0x17e0, 0x1810, 0x1946, 0x19d0, 0x1a80, 0x1a90,
    0x1b50, 0x1bb0, 0x1c40, 0x1c50, 0xa620, 0xa8d0, 0xa900, 0xa9d0, 0xa9f0, 0xaa50, 0xabf0,
    0xff10, 0x104a0, 0x10d30, 0x11066, 0x110f0, 0x11136, 0x111d0, 0x112f0, 0x11450, 0x114d0,
    0x11650, 0x116c0, 0x11730, 0x118e0, 0x11950, 0x11c50, 0x11d50, 0x11da0, 0x16a60, 0x16ac0,
    0x16b50, 0x1d7ce, 0x1d7d8, 0x1d7e2, 0x1d7ec, 0x1d7f6, 0x1e140, 0x1e2f0, 0x1e950, 0x1fbf0]

/-- The value of a decimal digit in any script. -/
def decimal (c : Char) : Option Nat :=
  (decimalZeros.find? fun base => base ≤ c.val.toNat ∧ c.val.toNat < base + 10).map
    fun base => c.val.toNat - base

/-- The digits that are no decimals, such as superscripts, in ranges. -/
def otherDigits : List (Nat × Nat) :=
  [(0xb2, 0xb3), (0xb9, 0xb9), (0x1369, 0x1371), (0x19da, 0x19da), (0x2070, 0x2070),
    (0x2074, 0x2079), (0x2080, 0x2089), (0x2460, 0x2468), (0x2474, 0x247c), (0x2488, 0x2490),
    (0x24ea, 0x24ea), (0x24f5, 0x24fd), (0x24ff, 0x24ff), (0x2776, 0x277e), (0x2780, 0x2788),
    (0x278a, 0x2792), (0x10a40, 0x10a43), (0x10e60, 0x10e68), (0x11052, 0x1105a),
    (0x1f100, 0x1f10a)]

/-- `s.isdigit()`, of the characters of `s`. -/
def isDigitText (cs : List Char) : Bool :=
  !cs.isEmpty && cs.all fun c => (decimal c).isSome ||
    otherDigits.any fun range => range.1 ≤ c.val.toNat ∧ c.val.toNat ≤ range.2

/-- Drop the characters of a class from both ends. -/
def stripChars (p : Char → Bool) (cs : List Char) : List Char :=
  ((cs.dropWhile p).reverse.dropWhile p).reverse

/-- `s.strip()`. -/
def strip (s : String) : String := String.ofList (stripChars isSpace s.toList)

/-! ### Integers from text -/

/-- The digits after the first one: a single underscore may stand between two
digits. -/
def digitsTail : List Char → Option (List Nat)
  | [] => some []
  | '_' :: c :: rest => do
      let d ← decimal c
      let ds ← digitsTail rest
      return d :: ds
  | c :: rest => do
      let d ← decimal c
      let ds ← digitsTail rest
      return d :: ds

/-- A run of digits. More than 4300 digits are refused
(`sys.int_info.default_max_str_digits`). -/
def parseNat : List Char → Option Nat
  | [] => none
  | c :: rest => do
      let d ← decimal c
      let ds ← digitsTail rest
      if ds.length < 4300 then return (d :: ds).foldl (fun n d => 10 * n + d) 0 else none

/-- White space that `int()` accepts around a number: the file, group, record
and unit separators count for `strip()` only. -/
def isIntSpace (c : Char) : Bool := isSpace c && !(28 ≤ c.val.toNat && c.val.toNat ≤ 31)

/-- `int(s)` for a string. -/
def parseInt (s : String) : Option Int :=
  match stripChars isIntSpace s.toList with
  | '-' :: digits => (parseNat digits).map fun n => -(n : Int)
  | '+' :: digits => (parseNat digits).map fun n => (n : Int)
  | digits => (parseNat digits).map fun n => (n : Int)

/-! #### Texts of integers -/

/-- The integer has at most 4300 digits. -/
def HasText (i : Int) : Prop := (Nat.toDigits 10 i.natAbs).length ≤ 4300

instance (i : Int) : Decidable (HasText i) :=
  inferInstanceAs (Decidable ((Nat.toDigits 10 i.natAbs).length ≤ 4300))

/-- `str(i)`. -/
def intText (i : Int) : Except Exc String :=
  if HasText i then .ok (toString i)
  else .error (.valueError "Exceeds the limit (4300 digits) for integer string conversion")

theorem isDigit_bounds {c : Char} (digit : c.isDigit = true) :
    48 ≤ c.val.toNat ∧ c.val.toNat ≤ 57 := by
  simp only [Char.isDigit, Bool.and_eq_true, decide_eq_true_eq, ge_iff_le,
    UInt32.le_iff_toNat_le] at digit
  exact digit

/-- The ASCII digits. -/
theorem decimal_of_isDigit {c : Char} (digit : c.isDigit = true) :
    decimal c = some (c.toNat - '0'.toNat) := by
  obtain ⟨low, high⟩ := isDigit_bounds digit
  have base : decimalZeros.find? (fun base => base ≤ c.val.toNat ∧ c.val.toNat < base + 10) =
      some 0x30 := by
    unfold decimalZeros
    exact List.find?_cons_of_pos (decide_eq_true ⟨low, by omega⟩)
  unfold decimal
  rw [base]
  rfl

theorem digitsTail_of_digits {cs : List Char} (digits : ∀ c ∈ cs, c.isDigit = true) :
    digitsTail cs = some (cs.map fun c => c.toNat - '0'.toNat) := by
  induction cs with
  | nil => rfl
  | cons c rest ih =>
      obtain ⟨here, later⟩ := List.forall_mem_cons.mp digits
      have other : c ≠ '_' := by
        rintro rfl
        cases here
      rw [digitsTail]
      · simp [decimal_of_isDigit here, ih later]
      · intro _ _ same
        exact absurd same other

/-- A run of ASCII digits is read as the number that it writes. -/
theorem parseNat_of_digits {cs : List Char} (digits : ∀ c ∈ cs, c.isDigit = true)
    (nonempty : cs ≠ []) (short : cs.length ≤ 4300) :
    parseNat cs = some (Nat.ofDigitChars 10 cs 0) := by
  cases cs with
  | nil => exact absurd rfl nonempty
  | cons c rest =>
      obtain ⟨here, later⟩ := List.forall_mem_cons.mp digits
      have length : rest.length < 4300 := by
        rw [List.length_cons] at short
        omega
      simp only [parseNat, decimal_of_isDigit here, digitsTail_of_digits later, bind, Option.bind,
        List.length_map, if_pos length, Nat.ofDigitChars, pure,
        ← List.map_cons (f := fun c : Char => c.toNat - '0'.toNat), List.foldl_map]

theorem stripChars_eq_self {p : Char → Bool} {cs : List Char} (absent : ∀ c ∈ cs, p c = false) :
    stripChars p cs = cs := by
  have keeps (cs : List Char) (absent : ∀ c ∈ cs, p c = false) : cs.dropWhile p = cs := by
    cases cs with
    | nil => rfl
    | cons c rest => exact List.dropWhile_cons_of_neg (by simp [absent c List.mem_cons_self])
  unfold stripChars
  rw [keeps cs absent, keeps cs.reverse fun c mem => absent c (List.mem_reverse.mp mem),
    List.reverse_reverse]

/-- Stripping keeps every character that is outside the class. -/
theorem mem_stripChars {p : Char → Bool} {c : Char} (kept : p c = false) {cs : List Char} :
    c ∈ stripChars p cs ↔ c ∈ cs := by
  have mem_dropWhile (cs : List Char) : c ∈ cs.dropWhile p ↔ c ∈ cs := by
    conv_rhs => rw [← List.takeWhile_append_dropWhile (p := p) (l := cs)]
    rw [List.mem_append]
    refine ⟨.inr, ?_⟩
    rintro (dropped | rest)
    · rw [List.mem_takeWhile_imp dropped] at kept
      cases kept
    · exact rest
  unfold stripChars
  rw [List.mem_reverse, mem_dropWhile, List.mem_reverse, mem_dropWhile]

/-- White space and nothing else. -/
def IsBlankText (s : String) : Prop := ∀ c ∈ s.toList, isSpace c = true

theorem isBlankText_strip_iff {s : String} : IsBlankText (strip s) ↔ IsBlankText s := by
  unfold IsBlankText strip
  rw [String.toList_ofList]
  constructor
  · intro blank c mem
    cases space : isSpace c with
    | true => rfl
    | false => rw [← space, blank c ((mem_stripChars space).mpr mem)]
  · intro blank c mem
    cases space : isSpace c with
    | true => rfl
    | false => rw [← space, blank c ((mem_stripChars space).mp mem)]

theorem isIntSpace_of_isDigit {c : Char} (digit : c.isDigit = true) : isIntSpace c = false := by
  obtain ⟨low, high⟩ := isDigit_bounds digit
  have notSpace : isSpace c = false := by
    refine decide_eq_false ?_
    omega
  unfold isIntSpace
  rw [notSpace]
  rfl

/-- `int(str(i))` is `i` within the limit of digits. -/
theorem parseInt_toString {i : Int} (short : (Nat.toDigits 10 i.natAbs).length ≤ 4300) :
    parseInt (toString i) = some i := by
  have digits {n : Nat} {c : Char} (mem : c ∈ Nat.toDigits 10 n) : c.isDigit = true :=
    Nat.isDigit_of_mem_toDigits (by decide) (by decide) mem
  have read (n : Nat) (short : (Nat.toDigits 10 n).length ≤ 4300) :
      parseNat (Nat.toDigits 10 n) = some n :=
    (parseNat_of_digits (fun _ mem => digits mem) Nat.toDigits_ne_nil short).trans
      (congrArg some Nat.ofDigitChars_ten_toDigits)
  have sign (c : Char) (notDigit : c.isDigit = false) (n : Nat) (rest : List Char) :
      Nat.toDigits 10 n ≠ c :: rest := by
    intro same
    have digit := digits (n := n) (c := c) (same ▸ List.mem_cons_self)
    rw [notDigit] at digit
    cases digit
  cases i with
  | ofNat n =>
      have text : (toString (Int.ofNat n)).toList = Nat.toDigits 10 n := Nat.toList_repr
      unfold parseInt
      rw [text, stripChars_eq_self fun c mem => isIntSpace_of_isDigit (digits mem)]
      split
      · rename_i rest same
        exact absurd same (sign '-' (by decide) n rest)
      · rename_i rest same
        exact absurd same (sign '+' (by decide) n rest)
      · rw [read n short]
        rfl
  | negSucc n =>
      have text : (toString (Int.negSucc n)).toList = '-' :: Nat.toDigits 10 (n + 1) := by
        show ("-" ++ Nat.repr (n + 1)).toList = _
        rw [String.toList_append, Nat.toList_repr]
        rfl
      have spaces : ∀ c ∈ '-' :: Nat.toDigits 10 (n + 1), isIntSpace c = false := by
        refine List.forall_mem_cons.mpr ⟨by decide, ?_⟩
        exact fun c mem => isIntSpace_of_isDigit (digits mem)
      unfold parseInt
      rw [text, stripChars_eq_self spaces]
      show (parseNat (Nat.toDigits 10 (n + 1))).map (fun n => -(n : Int)) = _
      rw [read (n + 1) short]
      rfl

/-- `int(x)` for a finite float: the fraction is cut off, towards zero. -/
def truncate (q : Rat) : Int := q.num.tdiv q.den

namespace Json

/-- `type(value).__name__`. -/
def typeName : Json → String
  | .null => "NoneType"
  | .bool _ => "bool"
  | .int _ => "int"
  | .float _ => "float"
  | .str _ => "str"
  | .arr _ => "list"
  | .obj _ => "dict"

/-- What `value.name` raises when there is no such attribute. -/
def noAttribute (name : String) (value : Json) : Exc :=
  .attributeError ("'" ++ value.typeName ++ "' object has no attribute '" ++ name ++ "'")

/-- `int(value)`. -/
def toInt : Json → Except Exc Int
  | .bool b => .ok (if b then 1 else 0)
  | .int i => .ok i
  | .float (.finite q) => .ok (truncate q)
  | .float (.inf _) => .error (.overflowError "cannot convert float infinity to integer")
  | .float .nan => .error (.valueError "cannot convert float NaN to integer")
  | .str s =>
      match parseInt s with
      | some i => .ok i
      | none => .error (.valueError ("invalid literal for int() with base 10: '" ++ s ++ "'"))
  | j => .error (.typeError
      ("int() argument must be a string, a bytes-like object or a real number, not '" ++
        j.typeName ++ "'"))

/-- A text that is no number is refused. -/
theorem toInt_str_error {s : String} (noNumber : parseInt s = none) :
    ∃ text, (str s).toInt = .error (.valueError text) := by
  simp only [toInt, noNumber]
  exact ⟨_, rfl⟩

/-- `int(value)` where a `TypeError` or a `ValueError` is caught. -/
def caughtInt (value : Json) : Except Exc (Option Int) :=
  match value.toInt with
  | .ok i => .ok (some i)
  | .error (.typeError _) | .error (.valueError _) => .ok none
  | .error e => .error e

/-- `int()` reads the value as an integer. -/
theorem caughtInt_some_iff {value : Json} {i : Int} :
    caughtInt value = .ok (some i) ↔ value.toInt = .ok i := by
  unfold caughtInt
  split
  · rename_i read
    simp [read]
  · rename_i read
    simp [read]
  · rename_i read
    simp [read]
  · rename_i e _ _ read
    simp [read]

/-- `bool(value)`. -/
def truthy : Json → Bool
  | .null => false
  | .bool b => b
  | .int i => i ≠ 0
  | .float (.finite q) => q ≠ 0
  | .float _ => true
  | .str s => s ≠ ""
  | .arr xs => !xs.isEmpty
  | .obj items => !items.isEmpty

/-- `value == s` for a string. -/
def eqStr (s : String) : Json → Bool
  | .str t => t = s
  | _ => false

theorem eqStr_iff {s : String} {j : Json} : j.eqStr s = true ↔ j = .str s := by
  cases j with
  | str t => simp [eqStr]
  | _ => simp [eqStr]

/-- `value or {}`. -/
def orEmpty (j : Json) : Json := if j.truthy then j else .obj []

/-- The dictionary behind an object: `isinstance(value, dict)`. -/
def asDict? : Json → Option (Dict Json)
  | .obj items => some (Dict.ofItems items)
  | _ => none

/-- `value if isinstance(value, dict) else {}`. -/
def dictOrEmpty (j : Json) : Dict Json := j.asDict?.getD Table.empty

mutual

/-- No number of the value is infinite or no number: it can be written as JSON. -/
def isCompliant : Json → Bool
  | .float (.finite _) => true
  | .float _ => false
  | .arr xs => areCompliant xs
  | .obj items => itemsCompliant items
  | _ => true

def areCompliant : List Json → Bool
  | [] => true
  | x :: xs => isCompliant x && areCompliant xs

def itemsCompliant : List (String × Json) → Bool
  | [] => true
  | (_, x) :: items => isCompliant x && itemsCompliant items

end

mutual

/-- The texts and keys of the value satisfy one test, its floats another. -/
def all (text : String → Bool) (number : Double → Bool) : Json → Bool
  | .float x => number x
  | .str s => text s
  | .arr xs => allOf text number xs
  | .obj items => allItems text number items
  | _ => true

def allOf (text : String → Bool) (number : Double → Bool) : List Json → Bool
  | [] => true
  | x :: xs => all text number x && allOf text number xs

def allItems (text : String → Bool) (number : Double → Bool) : List (String × Json) → Bool
  | [] => true
  | (k, x) :: items => text k && all text number x && allItems text number items

end

/-- The value can be sent as JSON in UTF-8: no number is infinite or no number,
and no text or key holds a surrogate. -/
def isRenderable : Json → Bool := all isEncodable Double.isFinite

section All

variable {text : String → Bool} {number : Double → Bool}

theorem all_arr_iff {xs : List Json} :
    (arr xs).all text number = true ↔ ∀ x ∈ xs, x.all text number = true := by
  show allOf text number xs = true ↔ _
  induction xs with
  | nil => simp [allOf]
  | cons x xs ih => rw [allOf, Bool.and_eq_true, ih, List.forall_mem_cons]

theorem all_obj_iff {items : List (String × Json)} :
    (obj items).all text number = true ↔
      ∀ item ∈ items, text item.1 = true ∧ item.2.all text number = true := by
  show allItems text number items = true ↔ _
  induction items with
  | nil => simp [allItems]
  | cons item items ih =>
      rw [allItems, Bool.and_eq_true, Bool.and_eq_true, ih, List.forall_mem_cons]

theorem all_orEmpty {j : Json} (h : j.all text number = true) :
    j.orEmpty.all text number = true := by
  unfold orEmpty
  split
  · exact h
  · rfl

end All

/-! ### Text -/

section Text

variable [Runtime]

/-- `repr` of a float. -/
def floatText : Double → String
  | .finite q => Runtime.floatRepr q
  | .inf negative => if negative then "-inf" else "inf"
  | .nan => "nan"

/-- The `width` lower-case hexadecimal digits of `n`. -/
def hexPadded (width n : Nat) : String :=
  let digits := Nat.toDigits 16 n
  String.ofList (List.replicate (width - digits.length) '0' ++ digits)

/-- One character of a string's `repr`, inside the quotation mark `quote`. -/
def reprChar (quote c : Char) : String :=
  if c = quote ∨ c = '\\' then String.ofList ['\\', c]
  else if c = '\t' then "\\t"
  else if c = '\n' then "\\n"
  else if c = '\r' then "\\r"
  else
    let n := codePoint c
    if n < 0x80 then if 0x20 ≤ n ∧ n < 0x7f then c.toString else "\\x" ++ hexPadded 2 n
    else if !isSurrogate c && Runtime.isPrintable c then c.toString
    else if n < 0x100 then "\\x" ++ hexPadded 2 n
    else if n < 0x10000 then "\\u" ++ hexPadded 4 n
    else "\\U" ++ hexPadded 8 n

/-- `repr` of a string: single quotation marks unless the text has one and no
double ones. -/
def reprStr (s : String) : String :=
  let quote := if s.toList.contains '\'' ∧ ¬ s.toList.contains '"' then '"' else '\''
  quote.toString ++ String.join (s.toList.map (reprChar quote)) ++ quote.toString

mutual

/-- `repr(value)`. -/
def repr : Json → String
  | .null => "None"
  | .bool b => if b then "True" else "False"
  | .int i => toString i
  | .float x => floatText x
  | .str s => reprStr s
  | .arr xs => "[" ++ ", ".intercalate (reprAll xs) ++ "]"
  | .obj items => "\x7b" ++ ", ".intercalate (reprItems items) ++ "\x7d"

def reprAll : List Json → List String
  | [] => []
  | x :: xs => repr x :: reprAll xs

def reprItems : List (String × Json) → List String
  | [] => []
  | (k, v) :: rest => (reprStr k ++ ": " ++ repr v) :: reprItems rest

end

/-- `str(value)`: a string is itself, anything else its `repr`. -/
def toStr : Json → String
  | .str s => s
  | j => repr j

@[simp] theorem toStr_str (s : String) : toStr (.str s) = s := rfl

@[simp] theorem toStr_int (i : Int) : toStr (.int i) = toString i := by
  simp [toStr, repr]

end Text

/-! ### Membership -/

/-- `value in {names}` for a set of strings: lists and objects cannot be
hashed. -/
def inSet (names : List String) : Json → Except Exc Bool
  | .str s => .ok (names.contains s)
  | .arr _ => .error (.typeError "unhashable type: 'list'")
  | .obj _ => .error (.typeError "unhashable type: 'dict'")
  | _ => .ok false

/-- Raise `refusal` unless `value in {names}`. -/
def requireIn (names : List String) (refusal : Exc) (j : Json) : Except Exc Unit := do
  require (← j.inSet names) refusal

theorem inSet_ok_true {names : List String} {j : Json} (h : j.inSet names = .ok true) :
    ∃ s ∈ names, j = .str s := by
  unfold inSet at h
  split at h
  · rename_i s
    exact ⟨s, by simpa using h, rfl⟩
  all_goals cases h

theorem requireIn_ok {names : List String} {refusal : Exc} {j : Json} {u : Unit}
    (h : j.requireIn names refusal = .ok u) : ∃ s ∈ names, j = .str s := by
  obtain ⟨member, found, required⟩ := bind_ok_iff.mp h
  rw [require_ok_iff] at required
  subst required
  exact inSet_ok_true found

/-- `needle in value`: an element of a list, a part of a string, a key of an
object. Other values are not iterable. -/
def hasElem (needle : String) : Json → Except Exc Bool
  | .arr xs => .ok (xs.any fun | .str s => s = needle | _ => false)
  | .str s => .ok (decide (needle.toList <:+: s.toList))
  | .obj items => .ok (items.any fun p => p.1 = needle)
  | j => .error (.typeError ("argument of type '" ++ j.typeName ++ "' is not iterable"))

/-! ### Dictionaries from values -/

section Items

variable [Runtime]

/-- A dictionary key. One that is not a string is written as JSON stores it. -/
def asKey : Json → Except Exc String
  | .str s => .ok s
  | .null => .ok "null"
  | .bool b => .ok (if b then "true" else "false")
  | .int i => .ok (toString i)
  | .float x => .ok (floatText x)
  | .arr _ => .error (.typeError "unhashable type: 'list'")
  | .obj _ => .error (.typeError "unhashable type: 'dict'")

/-- One element of a sequence of key-value pairs. -/
def asPair : Json → Except Exc (String × Json)
  | .arr [k, v] => do return (← asKey k, v)
  | .str s =>
      match s.toList with
      | [k, v] => .ok (k.toString, .str v.toString)
      | _ => .error (.valueError "dictionary update sequence element has the wrong length")
  | .obj [(k, _), (v, _)] => .ok (k, .str v)
  | .arr _ | .obj _ =>
      .error (.valueError "dictionary update sequence element has the wrong length")
  | _ => .error (.typeError "cannot convert dictionary update sequence element to a sequence")

/-- The items `dict(value)` and `d.update(value)` take: those of an object, or a
sequence of pairs. -/
def asItems : Json → Except Exc (List (String × Json))
  | .obj items => .ok items
  | .arr xs => xs.mapM asPair
  | .str s => s.toList.mapM fun c => asPair (.str c.toString)
  | j => .error (.typeError ("'" ++ j.typeName ++ "' object is not iterable"))

/-- `dict(value)`. -/
def toDict (j : Json) : Except Exc (Dict Json) := (asItems j).map Dict.ofItems

end Items

/-! ### Subscripts and iteration -/

/-- `value[key]` for a string key. -/
def getItem (key : String) : Json → Except Exc Json
  | .obj items =>
      match (Dict.ofItems items).get? key with
      | some v => .ok v
      | none => .error (.keyError key)
  | .str _ => .error (.typeError "string indices must be integers, not 'str'")
  | .arr _ => .error (.typeError "list indices must be integers or slices, not str")
  | j => .error (.typeError ("'" ++ j.typeName ++ "' object is not subscriptable"))

/-- An item of an object satisfies the tests that the object does. -/
theorem all_of_getItem {text : String → Bool} {number : Double → Bool} {j v : Json} {key : String}
    (h : j.all text number = true) (read : j.getItem key = .ok v) : v.all text number = true := by
  cases j with
  | obj items =>
      simp only [getItem] at read
      split at read
      · rename_i found
        cases read
        have mem := Dict.mem_of_mem_ofItems (Dict.get?_eq_some_iff.mp found)
        exact (all_obj_iff.mp h _ mem).2
      · cases read
  | _ => cases read

/-- `len(value)`. -/
def len : Json → Except Exc Nat
  | .str s => .ok s.length
  | .arr xs => .ok xs.length
  | .obj items => .ok (Dict.ofItems items).rows.length
  | j => .error (.typeError ("object of type '" ++ j.typeName ++ "' has no len()"))

/-- The elements a loop over the value sees: those of a list, the characters of
a string, the keys of an object. -/
def elements : Json → Except Exc (List Json)
  | .str s => .ok (s.toList.map fun c => .str c.toString)
  | .arr xs => .ok xs
  | .obj items => .ok ((Dict.ofItems items).rows.map fun p => .str p.1)
  | j => .error (.typeError ("'" ++ j.typeName ++ "' object is not iterable"))

end Json

/-- `d.get(k)` when that is not `None`. -/
def present? (d : Dict Json) (k : String) : Option Json :=
  match d.get? k with
  | none | some .null => none
  | some v => some v

theorem present?_eq_some_iff {d : Dict Json} {k : String} {v : Json} :
    present? d k = some v ↔ d.get? k = some v ∧ v ≠ .null := by
  unfold present?
  split
  · rename_i h
    simp [h]
  · rename_i h
    simp only [reduceCtorEq, false_iff, h, Option.some.injEq, ne_eq, not_and, not_not]
    exact Eq.symm
  · rename_i w notNull h
    simp only [h, Option.some.injEq, ne_eq, iff_self_and]
    rintro rfl rfl
    exact notNull rfl

/-- `present?` reads one entry. -/
theorem present?_congr {d e : Dict Json} {k : String} (h : d.get? k = e.get? k) :
    present? d k = present? e k := by
  simp only [present?, h]

/-- A dictionary as a value. -/
def dictJson (d : Dict Json) : Json := .obj d.rows

@[simp] theorem asDict?_dictJson (d : Dict Json) : (dictJson d).asDict? = some d := by
  simp [dictJson, Json.asDict?]

@[simp] theorem dictOrEmpty_dictJson (d : Dict Json) : (dictJson d).dictOrEmpty = d := by
  simp [Json.dictOrEmpty]

@[simp] theorem toDict_dictJson [Runtime] (d : Dict Json) : (dictJson d).toDict = .ok d := by
  simp [dictJson, Json.toDict, Json.asItems, Except.map]

/-- `dict(d or {})` is `d`. -/
@[simp] theorem toDict_orEmpty_dictJson [Runtime] (d : Dict Json) :
    (dictJson d).orEmpty.toDict = .ok d := by
  unfold Json.orEmpty
  split
  · exact toDict_dictJson d
  · rename_i falsy
    have noRows : d.rows = [] := by simpa [dictJson, Json.truthy] using falsy
    have : Json.obj [] = dictJson d := by rw [dictJson, noRows]
    rw [this, toDict_dictJson]

end Python
