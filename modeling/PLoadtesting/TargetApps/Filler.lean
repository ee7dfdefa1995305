import PLoadtesting.TargetApps.Payload

/-!
The sizes of the filler.

Each generator repeats a chunk until it is long enough and cuts it. Two of them
divide the size by the length of their chunk and meet it. `io_burn` divides by 23,
its chunk has 22 bytes, and so it writes less than it reports for every size
(`not_sizesExact`).
-/

namespace PLoadtesting.TargetApps.PayloadApi

open Python

/-- All generators make the size that they are asked for, and `io_burn` writes and
reads as many bytes as it reports. -/
structure SizesExact [Hashlib] (fileId : String) (kb : Nat) : Prop where
  downloadText : (encode (makeDownloadText kb)).length = kb * 1024
  fileBytes : (makeFileBytes fileId kb).length = kb * 1024
  reported : (ioBurn kb).writtenBytes = kb * 1024
  written : (ioBurn kb).written.length = (ioBurn kb).writtenBytes
  readBack : (ioBurn kb).readBack.length = (ioBurn kb).writtenBytes

theorem length_makeFileBytes (fileId : String) (kb : Nat) :
    (makeFileBytes fileId kb).length = kb * 1024 := by
  refine length_cutTo_self ?_ _
  rw [length_times, encode_append, encode_append, List.length_append, List.length_append]
  have separator : (encode "|").length = 1 := by decide
  omega

/-- A chunk of ASCII is cut to a text of as many characters. -/
theorem length_makeDownloadText (kb : Nat) :
    (encode (makeDownloadText kb)).length = kb * 1024 := by
  have ascii : ∀ b ∈ encode "ploadtesting-payload-block-", b.toNat < 128 := by
    decide +kernel
  unfold makeDownloadText
  rw [encode_decodeIgnore]
  · refine length_cutTo_self ?_ _
    rw [length_times]
    decide +kernel
  · intro b mem
    exact ascii b (mem_of_mem_times (mem_of_mem_cutTo mem))

/-- What `io_burn` writes. -/
theorem length_ioBurn [Hashlib] (kb : Nat) :
    (ioBurn kb).written.length = min (kb * 1024) ((kb * 1024 / 23 + 1) * 22) := by
  have chunk : (encode "ploadtesting-io-block-").length = 22 := by
    decide +kernel
  unfold ioBurn
  rw [length_cutTo, chunk]

/-- `io_burn` writes less than it reports, for every size. -/
theorem not_sizesExact [Hashlib] (fileId : String) (kb : Nat) (pos : 1 ≤ kb) :
    ¬ SizesExact fileId kb ∧ (encode (makeDownloadText kb)).length = kb * 1024 ∧
      (makeFileBytes fileId kb).length = kb * 1024 ∧
      (ioBurn kb).written.length < (ioBurn kb).writtenBytes := by
  have short : (ioBurn kb).written.length < (ioBurn kb).writtenBytes := by
    have reported : (ioBurn kb).writtenBytes = kb * 1024 := rfl
    rw [length_ioBurn, reported]
    omega
  refine ⟨?_, length_makeDownloadText kb, length_makeFileBytes fileId kb, short⟩
  intro exact_
  exact absurd exact_.written (Nat.ne_of_lt short)

/-- SHA-256 of the 990 bytes that `io_burn(1)` writes. -/
@[reducible] def oneKbDigest : Hashlib :=
  ⟨fun data =>
    if data = times (encode "ploadtesting-io-block-") 45 then
      "d41c2fd079ca6f14359fc202f28f688bc26c2955b04af6e98ed918ec9e2f4df7"
    else ""⟩

theorem oneKb_not_sizesExact :
    let _ := oneKbDigest
    (ioBurn 1).written.length = 990 ∧ ¬ SizesExact "fixture-1" 1 := by
  let _ := oneKbDigest
  exact ⟨length_ioBurn 1, (not_sizesExact "fixture-1" 1 (Nat.le_refl 1)).1⟩

theorem sizesExact_fails :
    ¬ ∀ (fileId : String) (kb : Nat), 1 ≤ kb → @SizesExact oneKbDigest fileId kb := by
  let _ := oneKbDigest
  intro always
  have written : (ioBurn 1).written.length = (ioBurn 1).writtenBytes :=
    (always "fixture-1" 1 (Nat.le_refl 1)).written
  rw [length_ioBurn] at written
  cases written

end PLoadtesting.TargetApps.PayloadApi
