import PLoadtesting.Engine.AuthScripts
import Mathlib.Data.Nat.ModEq

/-!
The MFA codes of the session and MFA flow.

`target_apps_auth_session_mfa_flow.js` computes the code itself. It adds up the
UTF-16 code units of a text where the app adds up its UTF-8 bytes, so the two codes
are the same for ASCII. For the rest of Latin-1 the bytes of a character add up to
more than its code unit, and a username is too short for the difference to go round
the modulus (`scriptMfaCode_eq_iff_ascii`).
-/

namespace PLoadtesting.Load

open Python TargetApps TargetApps.AuthFlow Engine

/-! ### Six digits -/

theorem toList_sixDigits (n : Nat) : (sixDigits n).toList =
    List.replicate (6 - (Nat.toDigits 10 n).length) '0' ++ Nat.toDigits 10 n := by
  simp [sixDigits, List.leftpad]

theorem length_sixDigits {n : Nat} (small : n < 1000000) : (sixDigits n).length = 6 := by
  have digits : (Nat.toDigits 10 n).length ≤ 6 :=
    (Nat.length_toDigits_le_iff (by decide) (by decide)).mpr small
  rw [← String.length_toList, toList_sixDigits, List.length_append, List.length_replicate]
  omega

/-- The digits are read back as the number. -/
theorem sixDigits_injective : Function.Injective sixDigits := by
  have reads (n : Nat) : Nat.ofDigitChars 10 (sixDigits n).toList 0 = n := by
    rw [toList_sixDigits, Nat.ofDigitChars_append, Nat.ofDigitChars_replicate_zero, Nat.mul_zero,
      Nat.ofDigitChars_ten_toDigits]
  intro m n same
  rw [← reads m, same, reads n]

/-! ### Sums of code units -/

/-- The sum of the code units of a text. -/
def unitSum (text : List Char) : Nat := (text.flatMap utf16).sum

/-- The sum of the UTF-8 bytes of a text. -/
def byteSum (text : List Char) : Nat := ((text.flatMap String.utf8EncodeChar).map UInt8.toNat).sum

theorem unitSum_cons (c : Char) (cs : List Char) :
    unitSum (c :: cs) = unitSum [c] + unitSum cs := by
  simp [unitSum]

theorem byteSum_cons (c : Char) (cs : List Char) :
    byteSum (c :: cs) = byteSum [c] + byteSum cs := by
  simp [byteSum]

theorem scriptMfaCode_eq (username channel : String) : scriptMfaCode username channel =
    sixDigits (unitSum (username ++ "|" ++ channel).toList * 137 % 1000000) := by
  rw [scriptMfaCode, unitSum, List.sum_eq_foldl]

theorem expectedMfaCode_eq (username channel : String) : AuthFlow.expectedMfaCode username channel =
    sixDigits (byteSum (username ++ "|" ++ channel).toList * 137 % 1000000) := by
  rw [AuthFlow.expectedMfaCode, encode, byteSum, List.sum_eq_foldl, List.foldl_map]

/-- The two codes agree exactly if the sums do, modulo a million. -/
theorem scriptMfaCode_eq_iff (username channel : String) :
    scriptMfaCode username channel = AuthFlow.expectedMfaCode username channel ↔
      unitSum (username ++ "|" ++ channel).toList ≡ byteSum (username ++ "|" ++ channel).toList
        [MOD 1000000] := by
  rw [scriptMfaCode_eq, expectedMfaCode_eq, sixDigits_injective.eq_iff]
  constructor
  · intro same
    exact Nat.ModEq.cancel_right_of_coprime (by decide) same
  · intro sums
    exact sums.mul_right 137

/-- Numbers less than a million apart. -/
theorem modEq_iff_eq {m n : Nat} (below : m ≤ n) (near : n < m + 1000000) :
    m ≡ n [MOD 1000000] ↔ m = n := by
  constructor
  · intro same
    have := Nat.eq_zero_of_dvd_of_lt ((Nat.modEq_iff_dvd' below).mp same) (by omega)
    omega
  · rintro rfl
    rfl

/-! ### Latin-1 -/

/-- What the bytes of a Latin-1 character add up to more than its code unit. -/
theorem latin_sums {c : Char} (latin : c.toNat < 256) :
    unitSum [c] ≤ byteSum [c] ∧ byteSum [c] ≤ unitSum [c] + 194 ∧
      (unitSum [c] = byteSum [c] ↔ c.toNat < 128) := by
  have all : ∀ n < 256, let c := Char.ofNat n
      unitSum [c] ≤ byteSum [c] ∧ byteSum [c] ≤ unitSum [c] + 194 ∧
        (unitSum [c] = byteSum [c] ↔ n < 128) := by
    decide +kernel
  have char := all c.toNat latin
  rwa [Char.ofNat_toNat] at char

theorem latin_sums_le {text : List Char} (latin : ∀ c ∈ text, c.toNat < 256) :
    unitSum text ≤ byteSum text ∧ byteSum text ≤ unitSum text + 194 * text.length ∧
      (unitSum text = byteSum text ↔ ∀ c ∈ text, c.toNat < 128) := by
  induction text with
  | nil => simp [unitSum, byteSum]
  | cons c cs ih =>
      obtain ⟨below, above, same⟩ := latin_sums (latin c List.mem_cons_self)
      obtain ⟨belows, aboves, sames⟩ := ih fun d mem => latin d (List.mem_cons_of_mem _ mem)
      rw [unitSum_cons, byteSum_cons, List.length_cons, List.forall_mem_cons, ← same, ← sames]
      omega

/-- For a Latin-1 username of a length that the app accepts, the script computes the
code that the app expects exactly if the username is ASCII. -/
theorem scriptMfaCode_eq_iff_ascii {username channel : String}
    (length : lengthBetween 1 64 username = true)
    (channels : channel ∈ ["sms", "email", "authenticator"])
    (latin : ∀ c ∈ username.toList, c.toNat < 256) :
    scriptMfaCode username channel = AuthFlow.expectedMfaCode username channel ↔
      ∀ c ∈ username.toList, c.toNat < 128 := by
  have suffix : (∀ c ∈ ("|" ++ channel).toList, c.toNat < 128) ∧
      ("|" ++ channel).toList.length ≤ 14 := by
    simp only [List.mem_cons, List.not_mem_nil, or_false] at channels
    rcases channels with rfl | rfl | rfl <;> simp
  have text : (username ++ "|" ++ channel).toList = username.toList ++ ("|" ++ channel).toList := by
    simp [String.toList_append]
  have latins : ∀ c ∈ (username ++ "|" ++ channel).toList, c.toNat < 256 := by
    intro c mem
    rw [text, List.mem_append] at mem
    rcases mem with user | rest
    · exact latin c user
    · exact (suffix.1 c rest).trans (by decide)
  have short : (username ++ "|" ++ channel).toList.length ≤ 78 := by
    simp only [lengthBetween, Bool.and_eq_true, decide_eq_true_eq, ← String.length_toList] at length
    rw [text, List.length_append]
    omega
  obtain ⟨below, above, ascii⟩ := latin_sums_le latins
  rw [scriptMfaCode_eq_iff, modEq_iff_eq below (by omega), ascii, text]
  simp only [List.mem_append, or_imp, forall_and]
  exact and_iff_left suffix.1

theorem scriptMfaCode_ne_of_umlaut :
    scriptMfaCode "jürgen" "sms" ≠ AuthFlow.expectedMfaCode "jürgen" "sms" := by
  rw [Ne, scriptMfaCode_eq_iff_ascii (by decide) (by simp) (by simp)]
  simp

end PLoadtesting.Load
