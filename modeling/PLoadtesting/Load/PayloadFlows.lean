import PLoadtesting.Engine.PayloadScripts

/-!
When the checks of the payload flow pass.

The script takes the ids of a manifest of `PACK_COUNT` files, fetches the first
`SELECTIVE_COUNT` of them and packs the same ones. Each endpoint has bounds of its own,
and the script does not check any: `tarSelectiveFlow_passed_iff` says which environments
meet all of them.
-/

namespace PLoadtesting.Load

open Keyed Python TargetApps TargetApps.PayloadApi Engine

/-- A number that is sent as a whole number. -/
theorem eq_of_integer? {x : Double} {n : Int} (integral : integer? x = some n) :
    x = .finite n := by
  cases x with
  | finite q =>
      rw [integer?] at integral
      split at integral
      · rename_i whole
        cases integral
        rw [Rat.coe_int_num_of_den_eq_one whole]
      · cases integral
  | _ => cases integral

theorem withNumbers_eq_ok_iff {α : Type} {endpoint : Int → Int → Except Failure α} {x y : Double}
    {a : α} : withNumbers endpoint x y = .ok a ↔
      ∃ m n : Int, x = .finite m ∧ y = .finite n ∧ endpoint m n = .ok a := by
  unfold withNumbers
  constructor
  · intro ok
    split at ok
    · rename_i m n first second
      exact ⟨m, n, eq_of_integer? first, eq_of_integer? second, ok⟩
    · cases ok
  · rintro ⟨m, n, rfl, rfl, ok⟩
    simpa only [integer?_intCast] using ok

theorem equals_eq_true_iff {n : Nat} {x : Double} :
    equals n x = true ↔ x = .finite (n : Rat) := by
  cases x with
  | finite q => simp [equals]
  | _ => simp [equals]

theorem times256_natCast {k : Nat} (few : k ≤ 8) :
    times256 (.finite k) = .finite ((k * 256 : Nat) : Rat) := by
  have product : (k : Rat) * 256 = ((k * 256 : Nat) : Rat) := by
    rw [Nat.cast_mul, Nat.cast_ofNat]
  have small : k * 256 ≤ 2 ^ 11 := Nat.mul_le_mul_right 256 few
  have bound := small.trans_lt (Nat.pow_lt_pow_right (by decide) (by decide : 11 < 53))
  rw [times256, product, JavaScript.round_natCast bound]

/-- The first ids of a manifest. -/
theorem take_fixtureIds {count n : Nat} (few : n ≤ count) :
    (fixtureIds count).take n = fixtureIds n := by
  rw [fixtureIds, fixtureIds, ← List.map_take, List.take_range, Nat.min_eq_left few]

theorem sliceTo_natCast {α : Type} (xs : List α) (n : Nat) :
    sliceTo xs (.finite n) = xs.take n := by
  have whole : truncate (n : Rat) = n := by
    simp [truncate]
  have nonneg : ¬ ((n : Int) < 0) := by omega
  rw [sliceTo]
  simp only [whole, nonneg, if_false, Int.toNat_natCast]

theorem length_sliceTo_le {α : Type} (xs : List α) (x : Double) :
    (sliceTo xs x).length ≤ xs.length := by
  cases x with
  | finite q =>
      simp only [sliceTo]
      split <;> exact List.length_take_le' _ _
  | inf negative =>
      simp only [sliceTo]
      split
      · exact Nat.zero_le _
      · exact Nat.le_refl _
  | nan => exact Nat.zero_le _

/-- The environments that the flow is made for. -/
structure TarFlowEnv (env : Dict String) (count kb selected : Nat) : Prop where
  packCount : envNumber env "PACK_COUNT" "5" = .finite count
  packKb : envNumber env "PACK_KB_PER_FILE" "10" = .finite kb
  selectiveCount : envNumber env "SELECTIVE_COUNT" "3" = .finite selected
  files : 1 ≤ count ∧ count ≤ maxFileManifestCount
  size : 1 ≤ kb ∧ kb ≤ maxArchiveKbPerFile
  few : 1 ≤ selected ∧ selected ≤ count ∧ selected ≤ maxSelectiveFetchCount

theorem fetchChecks_pass {x : Double} {reply : Except Failure SelectiveFetchResponse}
    (pass : ∀ c ∈ fetchChecks x reply, c.2 = true) :
    ∃ response, reply = .ok response ∧ equals response.selectedCount x = true := by
  cases reply with
  | error e => exact absurd (pass _ List.mem_cons_self) Bool.false_ne_true
  | ok response =>
      exact ⟨response, rfl, pass _ (List.mem_cons_of_mem _ List.mem_cons_self)⟩

theorem tarChecks_pass {x : Double} {refusalBytes : Failure → Nat}
    {reply : Except Failure ArchiveResponse}
    {tar : ArchiveResponse} {bytes : List UInt8} (ok : reply = .ok tar)
    (mediaType : tar.mediaType = "application/x-tar") (written : tarBytes tar.members = some bytes)
    (more : exceeds bytes.length (times256 x) = true) :
    ∀ c ∈ tarChecks x refusalBytes reply, c.2 = true := by
  subst ok
  simp only [tarChecks, List.forall_mem_cons, mediaType, written, Option.any_some, more]
  exact ⟨trivial, decide_eq_true trivial, trivial, fun c mem => absurd mem List.not_mem_nil⟩

theorem length_fixtureIds (n : Nat) : (fixtureIds n).length = n := by
  simp [fixtureIds]

section Environment

variable {env : Dict String} {count kb selected : Nat} (fits : TarFlowEnv env count kb selected)

include fits

theorem TarFlowEnv.listed : withNumbers fileManifest (.finite count) (.finite kb) =
    .ok ⟨count, kb, fixturePackMetadata (fixtureIds count) kb⟩ :=
  withNumbers_eq_ok_iff.mpr ⟨count, kb, rfl, rfl,
    fileManifest_eq fits.files ⟨fits.size.1, fits.size.2.trans (by decide)⟩⟩

theorem TarFlowEnv.selectedIds :
    (sliceTo (fixturePackMetadata (fixtureIds count) kb) (.finite selected)).map (·.fileId) =
      fixtureIds selected := by
  rw [sliceTo_natCast, List.map_take, map_fileId_metadata, take_fixtureIds fits.few.2.1]

theorem TarFlowEnv.bounds : 1 ≤ (fixtureIds selected).length ∧
    (fixtureIds selected).length ≤ maxSelectiveFetchCount := by
  rw [length_fixtureIds]
  exact ⟨fits.few.1, fits.few.2.2⟩

theorem TarFlowEnv.valid : (∀ fileId ∈ fixtureIds selected, FixtureId fileId ∧ Ascii fileId) ∧
    (fixtureIds selected).Nodup :=
  fixtureIds_valid (fits.few.2.1.trans fits.files.2)

end Environment

section Flow

variable [Hashlib] {env : Dict String} {refusalBytes : Failure → Nat}

/-- What `postSelectiveFetch` takes, and what it answers. -/
theorem postSelectiveFetch_ok {fileIds : List String} {x : Double}
    {response : SelectiveFetchResponse} (ok : postSelectiveFetch fileIds x = .ok response) :
    (∃ kb : Nat, x = .finite kb ∧ 1 ≤ kb ∧ kb ≤ maxArchiveKbPerFile) ∧ 1 ≤ fileIds.length ∧
      fileIds.length ≤ maxSelectiveFetchCount ∧ response.selectedCount = fileIds.length := by
  unfold postSelectiveFetch at ok
  split at ok
  · cases ok
  · rename_i kb integral
    split at ok
    · rename_i valid
      obtain ⟨count, size⟩ := valid
      have whole : x = .finite (kb.toNat : Nat) := by
        have nonneg : ((kb.toNat : Nat) : Int) = kb := by omega
        rw [eq_of_integer? integral, ← nonneg]
        rfl
      refine ⟨⟨kb.toNat, whole, size⟩, count.1, count.2, ?_⟩
      cases fetched : selectiveFetch ⟨fileIds, kb.toNat, count, size⟩ with
      | error e =>
          rw [fetched] at ok
          cases ok
      | ok response' =>
          rw [fetched] at ok
          cases ok
          obtain ⟨_, _, rfl⟩ := selectiveFetch_eq_ok_iff.mp fetched
          rfl
    · cases ok

/-- The flow meets a bound of every endpoint. -/
theorem tarFlowEnv_of_passed (passed : (tarSelectiveFlow refusalBytes env).Passed) :
    ∃ count kb selected, TarFlowEnv env count kb selected := by
  obtain ⟨completed, checks⟩ := passed
  simp only [tarSelectiveFlow] at completed checks
  split at completed
  · cases completed
  · rename_i manifest listed
    obtain ⟨m, n, packCount, packKb, made⟩ := withNumbers_eq_ok_iff.mp listed
    obtain ⟨count, kb, rfl, rfl, files, _, rfl⟩ := fileManifest_eq_ok_iff.mp made
    rw [listed] at checks
    obtain ⟨response, fetched, matched⟩ := fetchChecks_pass fun c mem =>
      checks c (List.mem_append_left _ (List.mem_append_right _ mem))
    obtain ⟨⟨k, size, bounds⟩, least, most, selected⟩ := postSelectiveFetch_ok fetched
    rw [equals_eq_true_iff, selected] at matched
    cases packKb.symm.trans size
    refine ⟨count, kb, _, packCount, packKb, matched, files, bounds, least, ?_, most⟩
    rw [List.length_map]
    refine (length_sliceTo_le _ _).trans (Nat.le_of_eq ?_)
    simp [fixturePackMetadata, fixtureIds]

section Fits

variable {count kb selected : Nat} (fits : TarFlowEnv env count kb selected)

include fits

theorem TarFlowEnv.fetched : postSelectiveFetch (fixtureIds selected) (.finite kb) =
    .ok (described ⟨fixtureIds selected, kb, fits.bounds, fits.size⟩) := by
  have whole : integer? (.finite (kb : Rat)) = some (kb : Int) := integer?_intCast kb
  have accepted := selectiveFetch_eq_ok_iff.mpr ⟨fun id mem => (fits.valid.1 id mem).1,
    fits.valid.2, (rfl : described ⟨fixtureIds selected, kb, fits.bounds, fits.size⟩ = _)⟩
  simp only [postSelectiveFetch, whole, Int.toNat_natCast]
  rw [dif_pos ⟨fits.bounds, fits.size⟩, accepted]
  rfl

theorem TarFlowEnv.packed : withNumbers (tarPackage · · (some (fixtureIds selected)))
    (.finite ((4 : Int) : Rat)) (.finite kb) =
      .ok { members := archived (fixtureIds selected) kb
            mediaType := "application/x-tar"
            headers := archiveHeaders (packId "tar-package" (fixtureIds selected) kb) ".tar" "Tar"
              (fixtureIds selected).length kb } := by
  have valid : validatedSelectiveFileIds (fixtureIds selected) = .ok (fixtureIds selected) :=
    (validatedSelectiveFileIds_eq_ok_iff fits.bounds).mpr
      ⟨fun id mem => (fits.valid.1 id mem).1, fits.valid.2, rfl⟩
  refine withNumbers_eq_ok_iff.mpr ⟨4, kb, rfl, rfl, ?_⟩
  refine (tarPackage_some (by decide : 1 ≤ 4 ∧ 4 ≤ _) fits.size fits.bounds.1).trans ?_
  rw [valid]
  rfl

theorem TarFlowEnv.fetchPasses (hex : HexDigests) :
    ∀ c ∈ fetchChecks (.finite selected) (postSelectiveFetch (fixtureIds selected) (.finite kb)),
      c.2 = true := by
  have checksum (data : List UInt8) : (sha256Prefix data).length = 16 := by
    rw [sha256Prefix, String.length_ofList, List.length_take, String.length_toList, hex]
    rfl
  have selectedCount : (described ⟨fixtureIds selected, kb, fits.bounds, fits.size⟩).selectedCount =
      selected := length_fixtureIds selected
  rw [fits.fetched]
  simp only [fetchChecks, List.forall_mem_cons, selectedCount]
  exact ⟨trivial, equals_eq_true_iff.mpr rfl, decide_eq_true (checksum _),
    fun c mem => absurd mem List.not_mem_nil⟩

/-- A TAR archive has more than 256 bytes for each file. -/
theorem TarFlowEnv.tarPasses :
    ∀ c ∈ tarChecks (.finite selected) refusalBytes
      (withNumbers (tarPackage · · (some (fixtureIds selected)))
        (.finite ((4 : Int) : Rat)) (.finite kb)), c.2 = true := by
  obtain ⟨bytes, written, _, long⟩ := untar_archived (fun id mem => (fits.valid.1 id mem).1)
    (fun id mem => (fits.valid.1 id mem).2) fits.size.2
  rw [length_fixtureIds] at long
  have more : exceeds bytes.length (times256 (.finite selected)) = true := by
    rw [times256_natCast fits.few.2.2]
    exact decide_eq_true (Nat.cast_lt.mpr (by omega))
  exact tarChecks_pass fits.packed rfl written more

/-- In an environment that the flow is made for, every check passes. -/
theorem TarFlowEnv.passed (hex : HexDigests) : (tarSelectiveFlow refusalBytes env).Passed := by
  have some_ids : fixtureIds selected ≠ [] := List.ne_nil_of_length_pos fits.bounds.1
  have files : (fixturePackMetadata (fixtureIds count) kb).length = count := by
    rw [fixturePackMetadata, List.length_map, length_fixtureIds]
  have enough : (selected : Rat) ≤ (count : Rat) := by exact_mod_cast fits.few.2.1
  simp only [Iteration.Passed, tarSelectiveFlow, fits.packCount, fits.selectiveCount, fits.packKb,
    fits.listed, fits.selectedIds, if_neg some_ids]
  refine ⟨trivial, ?_⟩
  rw [List.forall_mem_append, List.forall_mem_append]
  refine ⟨⟨?_, fits.fetchPasses hex⟩, fits.tarPasses⟩
  simp [manifestChecks, files, atLeast, enough]

end Fits

/-- All checks of an iteration pass exactly in the environments that the flow is made
for. -/
theorem tarSelectiveFlow_passed_iff (hex : HexDigests) (refusalBytes : Failure → Nat)
    (env : Dict String) : (tarSelectiveFlow refusalBytes env).Passed ↔
      ∃ count kb selected, TarFlowEnv env count kb selected :=
  ⟨tarFlowEnv_of_passed, fun ⟨_, _, _, fits⟩ => fits.passed hex⟩

end Flow

theorem packDigests_hex : @HexDigests packDigests := by
  apply knownDigests_hex
  simp only [List.forall_mem_cons]
  exact ⟨rfl, rfl, rfl, rfl, rfl, fun d mem => absurd mem List.not_mem_nil⟩

theorem tarSelectiveFlow_passed_default : let _ : Hashlib := packDigests
    (tarSelectiveFlow (fun _ => 100) Table.empty).Passed := by
  intro _
  exact (tarSelectiveFlow_passed_iff packDigests_hex _ Table.empty).mpr ⟨5, 10, 3,
    { packCount := envNumber_default "PACK_COUNT" (n := 5) (by decide)
      packKb := envNumber_default "PACK_KB_PER_FILE" (n := 10) (by decide)
      selectiveCount := envNumber_default "SELECTIVE_COUNT" (n := 3) (by decide)
      files := by decide
      size := by decide
      few := by decide }⟩

end PLoadtesting.Load
