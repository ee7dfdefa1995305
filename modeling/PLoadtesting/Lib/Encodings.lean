import Mathlib.Data.List.Basic

/-!
Text as bytes: UTF-8, which every text has, and Latin-1, which only the texts of
the first 256 characters have. Then bytes by the length: a chunk that is repeated
and cut.
-/

namespace Python

/-- `s.encode("utf-8")`. -/
def encode (s : String) : List UInt8 := s.toList.flatMap String.utf8EncodeChar

theorem encode_append (s t : String) : encode (s ++ t) = encode s ++ encode t := by
  simp [encode]

/-- The encoding loses nothing. -/
theorem encode_injective {s t : String} (same : encode s = encode t) : s = t := by
  have bytes (u : String) : u.toByteArray = (encode u).toByteArray := by
    conv_lhs => rw [← String.ofList_toList (s := u)]
    rw [String.toByteArray_ofList]
    rfl
  rw [← String.toByteArray_inj, bytes s, bytes t, same]

/-- `data.decode("utf-8", errors="ignore")`. Of an ill-formed sequence every byte is
ill-formed on its own, so it is skipped byte by byte. -/
def decodeIgnore : List UInt8 → List Char
  | [] => []
  | b :: rest =>
      match (b :: rest).toByteArray.utf8DecodeChar? 0 with
      | some c => c :: decodeIgnore (rest.drop (c.utf8Size - 1))
      | none => decodeIgnore rest
termination_by data => data.length
decreasing_by
  · simp only [List.length_drop, List.length_cons]
    omega
  · simp

theorem decodeIgnore_encodeChar (c : Char) (data : List UInt8) :
    decodeIgnore (String.utf8EncodeChar c ++ data) = c :: decodeIgnore data := by
  have size := String.length_utf8EncodeChar c
  cases bytes : String.utf8EncodeChar c with
  | nil =>
      rw [bytes] at size
      exact absurd size.symm (Nat.ne_of_gt c.utf8Size_pos)
  | cons b tail =>
      rw [bytes, List.length_cons] at size
      have first : (b :: tail ++ data).toByteArray.utf8DecodeChar? 0 = some c := by
        rw [← bytes, List.toByteArray_append]
        exact ByteArray.utf8DecodeChar?_utf8EncodeChar_append
      rw [List.cons_append] at first ⊢
      rw [decodeIgnore, first]
      have whole : c.utf8Size - 1 = tail.length := by omega
      dsimp only
      rw [whole, List.drop_left]

/-- Decoding reads back what was encoded. -/
theorem decodeIgnore_encode (s : String) : decodeIgnore (encode s) = s.toList := by
  unfold encode
  induction s.toList with
  | nil => rw [List.flatMap_nil, decodeIgnore]
  | cons c cs ih => rw [List.flatMap_cons, decodeIgnore_encodeChar, ih]

/-- The text of bytes of ASCII. -/
theorem encode_decodeIgnore {data : List UInt8} (ascii : ∀ b ∈ data, b.toNat < 128) :
    encode (String.ofList (decodeIgnore data)) = data := by
  have char (n : Nat) (small : n < 128) :
      String.utf8EncodeChar (Char.ofNat n) = [UInt8.ofNat n] := by
    revert n
    decide
  have text : encode (String.ofList (data.map fun b => Char.ofNat b.toNat)) = data := by
    unfold encode
    rw [String.toList_ofList, List.flatMap_map]
    induction data with
    | nil => rfl
    | cons b data ih =>
        rw [List.flatMap_cons, char _ (ascii b List.mem_cons_self), UInt8.ofNat_toNat,
          ih fun x mem => ascii x (List.mem_cons_of_mem _ mem)]
        rfl
  conv_lhs => rw [← text, decodeIgnore_encode]
  rw [String.ofList_toList, text]

/-! ### Latin-1 -/

/-- `s.encode("latin-1")`; `none` is `UnicodeEncodeError`. -/
def encodeLatin1 (s : String) : Option (List UInt8) :=
  if s.toList.all fun c => c.toNat < 256 then some (s.toList.map fun c => UInt8.ofNat c.toNat)
  else none

/-- `data.decode("latin-1")`. -/
def decodeLatin1 (data : List UInt8) : String :=
  String.ofList (data.map fun b => Char.ofNat b.toNat)

theorem isSome_encodeLatin1_iff {s : String} :
    (encodeLatin1 s).isSome = true ↔ ∀ c ∈ s.toList, c.toNat < 256 := by
  unfold encodeLatin1
  split
  · rename_i small
    simpa using small
  · rename_i large
    simpa using large

theorem encodeLatin1_decodeLatin1 (data : List UInt8) :
    encodeLatin1 (decodeLatin1 data) = some data := by
  have code (b : UInt8) : (Char.ofNat b.toNat).toNat = b.toNat := by
    have small : b.toNat < 256 := b.toNat_lt
    have valid : b.toNat.isValidChar := .inl (by omega)
    rw [Char.ofNat, dif_pos valid]
    rfl
  have small : (decodeLatin1 data).toList.all (fun c => c.toNat < 256) = true := by
    simpa [decodeLatin1, code] using fun b _ => UInt8.toNat_lt b
  rw [encodeLatin1, if_pos small]
  simp [decodeLatin1, code, Function.comp_def]

/-! ### Repeated and cut -/

/-- `data * n`. -/
def times (data : List UInt8) (n : Nat) : List UInt8 := (List.replicate n data).flatten

theorem length_times (data : List UInt8) (n : Nat) : (times data n).length = n * data.length := by
  simp [times]

theorem mem_of_mem_times {data : List UInt8} {n : Nat} {b : UInt8} (mem : b ∈ times data n) :
    b ∈ data := by
  obtain ⟨copy, among, mem⟩ := List.mem_flatten.mp mem
  rwa [List.eq_of_mem_replicate among] at mem

/-- `(chunk * ((size // divisor) + 1))[:size]`. -/
def cutTo (chunk : List UInt8) (divisor size : Nat) : List UInt8 :=
  (times chunk (size / divisor + 1)).take size

theorem length_cutTo (chunk : List UInt8) (divisor size : Nat) :
    (cutTo chunk divisor size).length = min size ((size / divisor + 1) * chunk.length) := by
  rw [cutTo, List.length_take, length_times]

/-- The size is met when the divisor is the length of the chunk. -/
theorem length_cutTo_self {chunk : List UInt8} (nonempty : 0 < chunk.length) (size : Nat) :
    (cutTo chunk chunk.length size).length = size := by
  rw [length_cutTo, Nat.mul_comm]
  exact Nat.min_eq_left (Nat.le_of_lt (Nat.lt_mul_div_succ size nonempty))

theorem mem_of_mem_cutTo {chunk : List UInt8} {divisor size : Nat} {b : UInt8}
    (mem : b ∈ cutTo chunk divisor size) : b ∈ chunk :=
  mem_of_mem_times (List.mem_of_mem_take mem)

end Python
