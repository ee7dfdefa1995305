import Mathlib.Data.List.TakeWhile
import Mathlib.Data.Nat.Digits.Defs

/-!
TAR archives of regular files, in the ustar format.

A header is a list of fields of fixed widths, so it is read by cutting a block at the
widths (`cut_flatten`). Its checksum counts the bytes of the fields with blanks in
place of the checksum. Reading an archive gives the members that were written
(`read_write`).
-/

namespace Tar

/-- A file of an archive. -/
structure Member where
  name : List UInt8
  data : List UInt8
  deriving DecidableEq

def blockSize : Nat := 512
def recordSize : Nat := 20 * blockSize

/-! ### Fields -/

/-- A text, cut or filled with NULs. -/
def textField (width : Nat) (text : List UInt8) : List UInt8 :=
  text.take width ++ List.replicate (width - text.length) 0

/-- Octal digits with leading zeros. -/
def octal (digits n : Nat) : List UInt8 :=
  (List.leftpad digits '0' (Nat.toDigits 8 n)).map fun c => UInt8.ofNat c.toNat

/-- A number, and a NUL. -/
def numberField (width n : Nat) : List UInt8 := octal (width - 1) n ++ [0]

/-- The text of a field. -/
def text (field : List UInt8) : List UInt8 := field.takeWhile (· ≠ 0)

/-- A digit of base 8. -/
def octalDigit (c : Char) : Bool := '0' ≤ c && c ≤ '7'

/-- The number of a field. -/
def number (field : List UInt8) : Option Nat :=
  let digits := (text field).map fun b => Char.ofNat b.toNat
  if digits.all octalDigit then some (Nat.ofDigitChars 8 digits 0) else none

/-- The first bytes by the widths. -/
def cut : List Nat → List UInt8 → List (List UInt8)
  | [], _ => []
  | width :: widths, bytes => bytes.take width :: cut widths (bytes.drop width)

/-! ### Headers -/

/-- The fields of a header: name, mode, uid, gid, size, mtime, checksum, type,
linkname, magic and version, uname, gname, devmajor, devminor, prefix, filler. -/
def widths : List Nat := [100, 8, 8, 8, 12, 12, 8, 1, 100, 8, 32, 32, 8, 8, 155, 12]

/-- `ustar`, a NUL, and the version `00`. -/
def magic : List UInt8 := [117, 115, 116, 97, 114, 0, 48, 48]

/-- The type of a regular file. -/
def regular : List UInt8 := [48]

def blanks : List UInt8 := List.replicate 8 32

def byteSum (fields : List (List UInt8)) : Nat := (fields.flatten.map UInt8.toNat).sum

/-- The fields for a member, with the field for the checksum. -/
def fields (m : Member) (checksum : List UInt8) : List (List UInt8) :=
  [textField 100 m.name, numberField 8 0o644, numberField 8 0, numberField 8 0,
    numberField 12 m.data.length, numberField 12 0, checksum, regular, textField 100 [], magic,
    textField 32 [], textField 32 [], textField 8 [], textField 8 [], textField 155 [],
    textField 12 []]

/-- `%06o`, a NUL and a blank. -/
def checksumField (m : Member) : List UInt8 := octal 6 (byteSum (fields m blanks)) ++ [0, 32]

def header (m : Member) : List UInt8 := (fields m (checksumField m)).flatten

/-- The name and the size in a header whose checksum is right. -/
def readHeader (block : List UInt8) : Option (List UInt8 × Nat) :=
  match cut widths block with
  | [name, mode, uid, gid, size, mtime, checksum, type, linkname, version, uname, gname, major,
      minor, pre, filler] =>
      let sum := byteSum [name, mode, uid, gid, size, mtime, blanks, type, linkname, version, uname,
        gname, major, minor, pre, filler]
      if number checksum = some sum ∧ type = regular ∧ version = magic then
        (number size).map fun size => (text name, size)
      else none
  | _ => none

/-! ### Archives -/

/-- How many bytes fill up the last unit. -/
def filling (unit size : Nat) : Nat := (unit - size % unit) % unit

/-- A member with its header, in blocks. -/
def writeMember (m : Member) : List UInt8 :=
  header m ++ m.data ++ List.replicate (filling blockSize m.data.length) 0

/-- The members, two empty blocks, and as many bytes as fill the last record. -/
def write (members : List Member) : List UInt8 :=
  let archive := members.flatMap writeMember ++ List.replicate (2 * blockSize) 0
  archive ++ List.replicate (filling recordSize archive.length) 0

/-- The members up to the first empty block. -/
def read (archive : List UInt8) : Option (List Member) :=
  if _empty : (archive.take blockSize).all (· = 0) then some []
  else
    match readHeader (archive.take blockSize) with
    | none => none
    | some (name, size) =>
        let rest := archive.drop blockSize
        if rest.length < size then none
        else
          (read (rest.drop (size + filling blockSize size))).map fun members =>
            ⟨name, rest.take size⟩ :: members
termination_by archive.length
decreasing_by
  have pos : 0 < archive.length := by
    refine List.length_pos_iff.mpr ?_
    rintro rfl
    exact _empty rfl
  simp only [List.length_drop, blockSize]
  omega

/-! ### Reading back -/

theorem length_textField (width : Nat) (bytes : List UInt8) :
    (textField width bytes).length = width := by
  simp only [textField, List.length_append, List.length_take, List.length_replicate]
  omega

theorem length_octal {digits n : Nat} (pos : 0 < digits) (small : n < 8 ^ digits) :
    (octal digits n).length = digits := by
  have short := (Nat.length_toDigits_le_iff (by decide) pos).mpr small
  simp only [octal, List.length_map, List.length_leftpad]
  omega

theorem length_numberField {width n : Nat} (pos : 1 < width) (small : n < 8 ^ (width - 1)) :
    (numberField width n).length = width := by
  rw [numberField, List.length_append, length_octal (by omega) small, List.length_singleton]
  omega

/-- A block that was put together from fields is cut into them. -/
theorem cut_flatten {parts : List (List UInt8)} :
    cut (parts.map List.length) parts.flatten = parts := by
  induction parts with
  | nil => rfl
  | cons part parts ih =>
      rw [List.map_cons, cut, List.flatten_cons, List.take_left, List.drop_left, ih]

/-- A text is the bytes before the first NUL. -/
theorem text_append_zero {bytes rest : List UInt8} (noNul : 0 ∉ bytes) :
    text (bytes ++ 0 :: rest) = bytes := by
  have here : ∀ b ∈ bytes, decide (b ≠ 0) = true := fun b mem =>
    decide_eq_true fun zero => noNul (zero ▸ mem)
  rw [text, List.takeWhile_append_of_pos here]
  simp

theorem text_textField {width : Nat} {bytes : List UInt8} (short : bytes.length ≤ width)
    (noNul : 0 ∉ bytes) : text (textField width bytes) = bytes := by
  rw [textField, List.take_of_length_le short]
  cases fill : width - bytes.length with
  | zero =>
      rw [List.replicate_zero, List.append_nil, text, List.takeWhile_eq_self_iff]
      exact fun b mem => decide_eq_true fun zero => noNul (zero ▸ mem)
  | succ k =>
      rw [List.replicate_succ]
      exact text_append_zero noNul

theorem octalDigit_toDigits (n : Nat) : ∀ c ∈ Nat.toDigits 8 n, octalDigit c = true := by
  have digits : ∀ d < 8, octalDigit (Nat.digitChar d) = true := by
    decide
  induction n using Nat.strongRecOn with
  | ind n ih =>
      rw [Nat.toDigits_eq_if (by decide)]
      split
      · rename_i small
        simpa using digits n small
      · rename_i large
        intro c mem
        rcases List.mem_append.mp mem with first | last
        · exact ih (n / 8) (by omega) c first
        · rw [List.mem_singleton.mp last]
          exact digits _ (Nat.mod_lt n (by decide))

theorem octalDigit_leftpad (digits n : Nat) :
    ∀ c ∈ List.leftpad digits '0' (Nat.toDigits 8 n), octalDigit c = true := by
  intro c mem
  rcases List.mem_append.mp mem with zero | digit
  · rw [(List.mem_replicate.mp zero).2]
    rfl
  · exact octalDigit_toDigits n c digit

theorem byte_of_octalDigit {c : Char} (digit : octalDigit c = true) :
    (UInt8.ofNat c.toNat).toNat = c.toNat ∧ c.toNat ≠ 0 := by
  simp only [octalDigit, Bool.and_eq_true, decide_eq_true_eq, Char.le_def] at digit
  have low : 48 ≤ c.toNat := digit.1
  have high : c.toNat ≤ 55 := digit.2
  rw [UInt8.toNat_ofNat']
  omega

/-- A number is read back. -/
theorem number_octal (digits n : Nat) (rest : List UInt8) :
    number (octal digits n ++ 0 :: rest) = some n := by
  have digit := octalDigit_leftpad digits n
  have noNul : 0 ∉ octal digits n := by
    intro mem
    obtain ⟨c, here, zero⟩ := List.mem_map.mp mem
    obtain ⟨byte, nonzero⟩ := byte_of_octalDigit (digit c here)
    rw [← byte, zero] at nonzero
    exact nonzero rfl
  have chars : (octal digits n).map (fun b => Char.ofNat b.toNat) =
      List.leftpad digits '0' (Nat.toDigits 8 n) := by
    rw [octal, List.map_map]
    refine (List.map_congr_left fun c here => ?_).trans (List.map_id _)
    rw [Function.comp_apply, (byte_of_octalDigit (digit c here)).1, Char.ofNat_toNat, id]
  rw [number, text_append_zero noNul, chars, if_pos (List.all_eq_true.mpr digit), List.leftpad,
    Nat.ofDigitChars_append, Nat.ofDigitChars_replicate_zero, Nat.mul_zero,
    Nat.ofDigitChars_toDigits (by decide) (by decide)]

/-! ### Headers are read back -/

/-- What a header can hold. -/
structure Member.Fits (m : Member) : Prop where
  name : m.name.length ≤ 100
  noNul : 0 ∉ m.name
  size : m.data.length < 8 ^ 11

theorem byteSum_le (parts : List (List UInt8)) : byteSum parts ≤ 255 * parts.flatten.length := by
  unfold byteSum
  generalize parts.flatten = bytes
  induction bytes with
  | nil => exact Nat.le_refl 0
  | cons b bytes ih =>
      have byte := b.toNat_lt
      rw [List.map_cons, List.sum_cons, List.length_cons]
      omega

section Header

variable {m : Member}

theorem widths_fields (fits : m.Fits) {checksum : List UInt8} (length : checksum.length = 8) :
    (fields m checksum).map List.length = widths := by
  have size : (numberField 12 m.data.length).length = 12 :=
    length_numberField (by decide) fits.size
  have mode : (numberField 8 0o644).length = 8 := length_numberField (by decide) (by decide)
  have zero : (numberField 8 0).length = 8 := length_numberField (by decide) (by decide)
  have mtime : (numberField 12 0).length = 12 := length_numberField (by decide) (by decide)
  simp only [fields, List.map_cons, List.map_nil, length_textField, length, size, mode, zero, mtime]
  rfl

theorem length_header_fields (fits : m.Fits) {checksum : List UInt8}
    (length : checksum.length = 8) : (fields m checksum).flatten.length = blockSize := by
  rw [List.length_flatten, widths_fields fits length]
  rfl

theorem length_checksumField (fits : m.Fits) : (checksumField m).length = 8 := by
  have sum := byteSum_le (fields m blanks)
  rw [length_header_fields fits rfl] at sum
  have small : byteSum (fields m blanks) < 8 ^ 6 := sum.trans_lt (by decide)
  rw [checksumField, List.length_append, length_octal (by decide) small]
  rfl

theorem length_header (fits : m.Fits) : (header m).length = blockSize :=
  length_header_fields fits (length_checksumField fits)

theorem readHeader_header (fits : m.Fits) :
    readHeader (header m) = some (m.name, m.data.length) := by
  have parts : cut widths (header m) = fields m (checksumField m) := by
    rw [← widths_fields fits (length_checksumField fits)]
    exact cut_flatten
  have sum : number (checksumField m) = some (byteSum (fields m blanks)) := number_octal 6 _ [32]
  have size : number (numberField 12 m.data.length) = some m.data.length := number_octal 11 _ []
  rw [readHeader, parts]
  change (if number (checksumField m) = some (byteSum (fields m blanks)) ∧ regular = regular ∧
    magic = magic then (number (numberField 12 m.data.length)).map _ else none) = _
  rw [if_pos ⟨sum, rfl, rfl⟩, size, text_textField fits.name fits.noNul]
  rfl

end Header

/-! ### Archives are read back -/

/-- A header is no empty block. -/
theorem header_not_empty (m : Member) : (header m).all (· = 0) = false := by
  refine List.all_eq_false.mpr ⟨48, ?_, by decide⟩
  exact List.mem_flatten.mpr ⟨regular, by simp [fields], List.mem_singleton.mpr rfl⟩

theorem read_append {m : Member} (fits : m.Fits) (rest : List UInt8) :
    read (writeMember m ++ rest) = (read rest).map (m :: ·) := by
  have block : (writeMember m ++ rest).take blockSize = header m := by
    rw [writeMember, List.append_assoc, List.append_assoc, ← length_header fits, List.take_left]
  have after : (writeMember m ++ rest).drop blockSize =
      m.data ++ (List.replicate (filling blockSize m.data.length) 0 ++ rest) := by
    rw [writeMember, List.append_assoc, List.append_assoc, ← length_header fits, List.drop_left]
  have enough : ¬ (m.data ++ (List.replicate (filling blockSize m.data.length) 0 ++ rest)).length <
      m.data.length := by
    rw [List.length_append]
    omega
  have next : (m.data ++ (List.replicate (filling blockSize m.data.length) 0 ++ rest)).drop
      (m.data.length + filling blockSize m.data.length) = rest := by
    rw [← List.drop_drop, List.drop_left, List.drop_left' (List.length_replicate ..)]
  rw [read, block, header_not_empty, readHeader_header fits, after]
  simp only [Bool.false_eq_true, dite_false, enough, if_false, next, List.take_left]

theorem read_empty (archive : List UInt8) :
    read (List.replicate blockSize 0 ++ archive) = some [] := by
  have empty : ((List.replicate blockSize (0 : UInt8) ++ archive).take blockSize).all (· = 0) =
      true := by
    rw [List.take_left' (List.length_replicate ..)]
    simp
  rw [read, dif_pos empty]

/-- Reading an archive gives the members that were written. -/
theorem read_write {members : List Member} (fits : ∀ m ∈ members, m.Fits) :
    read (write members) = some members := by
  have body (filler : List UInt8) : read (members.flatMap writeMember ++
      (List.replicate blockSize 0 ++ filler)) = some members := by
    induction members with
    | nil => exact read_empty filler
    | cons m members ih =>
        rw [List.flatMap_cons, List.append_assoc, read_append (fits m List.mem_cons_self),
          ih fun n mem => fits n (List.mem_cons_of_mem _ mem)]
        rfl
  have empties : List.replicate (2 * blockSize) (0 : UInt8) =
      List.replicate blockSize 0 ++ List.replicate blockSize 0 := by
    rw [List.replicate_append_replicate, ← Nat.two_mul]
  rw [write, List.append_assoc, empties, List.append_assoc]
  exact body _

/-- Every member takes its data and a block. -/
theorem length_write {members : List Member} (fits : ∀ m ∈ members, m.Fits) :
    ((members.map fun m => blockSize + m.data.length).sum : Nat) < (write members).length := by
  have body : (members.map fun m => blockSize + m.data.length).sum ≤
      (members.flatMap writeMember).length := by
    induction members with
    | nil => exact Nat.le_refl 0
    | cons m members ih =>
        have rest := ih fun n mem => fits n (List.mem_cons_of_mem _ mem)
        have head := length_header (fits m List.mem_cons_self)
        rw [List.map_cons, List.sum_cons, List.flatMap_cons, List.length_append, writeMember,
          List.length_append, List.length_append, head]
        omega
  have empties : 0 < 2 * blockSize := by decide
  rw [write, List.length_append, List.length_append, List.length_replicate]
  omega

end Tar
