import PLoadtesting.Lib.Encodings
import PLoadtesting.Lib.JavaScript

/-!
What the target apps share (`common.py`): SHA-256 digests and the numbers drawn from
them, the refusals of an endpoint, and the disk workload.
-/

namespace PLoadtesting.TargetApps

open Python

/-- `hashlib`. -/
class Hashlib where
  /-- `hashlib.sha256(data).hexdigest()`. -/
  sha256 : List UInt8 → String

/-- `hashlib.sha256(text.encode("utf-8")).hexdigest()`. -/
def hexdigest [Hashlib] (text : String) : String := Hashlib.sha256 (encode text)

/-- `hashlib.sha256(data).hexdigest()[:16]`. -/
def sha256Prefix [Hashlib] (data : List UInt8) : String :=
  String.ofList ((Hashlib.sha256 data).toList.take 16)

/-- SHA-256 digests of distinct texts are distinct. -/
def DistinctDigests [Hashlib] : Prop := ∀ s t : String, hexdigest s = hexdigest t → s = t

/-- SHA-256 digests have 64 hexadecimal digits. -/
def HexDigests [Hashlib] : Prop := ∀ data, (Hashlib.sha256 data).length = 64

/-- Digests of some texts; one of another text keeps its last 64 characters. -/
@[reducible] def knownDigests (known : List (List UInt8 × String)) : Hashlib where
  sha256 data := (known.lookup data).getD (String.ofList (List.leftpad 64 '0'
    ((data.map fun b => Char.ofNat b.toNat).drop (data.length - 64))))

theorem knownDigests_hex {known : List (List UInt8 × String)}
    (valid : ∀ d ∈ known, d.2.length = 64) : @HexDigests (knownDigests known) := by
  intro data
  change ((known.lookup data).getD _).length = 64
  cases found : known.lookup data with
  | some digest =>
      obtain ⟨before, after, rfl, _⟩ := List.lookup_eq_some_iff.mp found
      exact valid (data, digest) (by simp)
  | none =>
      rw [Option.getD_none, String.length_ofList, List.length_leftpad, List.length_drop,
        List.length_map]
      omega

/-- `HTTPException(status_code=…, detail=…)`. -/
structure HTTPException where
  statusCode : Nat
  detail : String
  deriving DecidableEq

/-- `Field(min_length=…, max_length=…)` of a text. -/
def lengthBetween (least most : Nat) (s : String) : Bool := least ≤ s.length && s.length ≤ most

/-- `Field(ge=…, le=…)` of an integer. -/
def between (least most n : Int) : Bool := least ≤ n && n ≤ most

/-! ### `deterministic_fraction` -/

/-- `DEFAULT_SEED`. -/
def defaultSeed : Int := 17

/-- An operation on a float: its exact result, rounded. -/
def floatOp (f : Rat → Rat) : Double → Double
  | .finite q => JavaScript.round (f q)
  | x => x

/-- `round(x, digits)`: the nearest decimal of the exact value, a tie to the even one. -/
def roundDigits (digits : Nat) : Double → Double :=
  floatOp fun q =>
    let scaled : Rat := JavaScript.roundHalfEven (q.num.natAbs * 10 ^ digits) q.den
    (if q < 0 then -scaled else scaled) / 10 ^ digits

def hexDigitValue (c : Char) : Nat :=
  if c.isDigit then c.toNat - '0'.toNat else 10 + (c.toNat - 'a'.toNat)

/-- `int.from_bytes(digest[:8], "big")`; a byte is two of the hexadecimal digits. -/
def leadingInteger (digest : String) : Nat :=
  (digest.toList.take 16).foldl (fun n c => 16 * n + hexDigitValue c) 0

/-- `deterministic_fraction`; the integer becomes a float before it is divided. -/
def deterministicFraction [Hashlib] (nameSpace key : String) (seed : Int) : Double :=
  let digest := hexdigest (nameSpace ++ "|" ++ key ++ "|" ++ toString seed)
  floatOp (· / 2 ^ 64) (JavaScript.round (leadingInteger digest))

/-! ### `io_burn` -/

/-- What `io_burn` writes to its temporary file and reads from it, and what it
reports, without the time that it took. -/
structure IoBurn where
  written : List UInt8
  readBack : List UInt8
  writtenKb : Nat
  writtenBytes : Nat
  checksum : String

/-- `io_burn`. -/
def ioBurn [Hashlib] (kb : Nat) : IoBurn :=
  let sizeBytes := kb * 1024
  let payload := cutTo (encode "ploadtesting-io-block-") 23 sizeBytes
  let readBack := payload
  { written := payload
    readBack
    writtenKb := kb
    writtenBytes := sizeBytes
    checksum := sha256Prefix readBack }

end PLoadtesting.TargetApps
