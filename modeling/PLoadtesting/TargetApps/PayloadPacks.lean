import PLoadtesting.Lib.Tar
import PLoadtesting.TargetApps.PayloadDownloads

/-!
The packs of fixtures of `payload_api.py`: one set of files, shown as a manifest, as
descriptions with digests, and as ZIP and TAR archives.

An archive is what is written to it, file by file. The bytes of a TAR archive are
made as `tarfile` makes them for names in ASCII; other names need extended headers,
which are left out, as is the encoding of ZIP.
-/

namespace PLoadtesting.TargetApps.PayloadApi

open Python

def maxDownloadKb : Nat := 512
def maxUploadBytes : Nat := 262144
def maxFileManifestCount : Nat := 20
def maxArchiveFileCount : Nat := 10

/-! ### Packs -/

/-- `_fixture_pack_files`. -/
def fixturePackFiles (count kbPerFile : Nat) : List FixtureMetadata :=
  (List.range count).map fun index =>
    ⟨s!"fixture-{index + 1}", s!"fixture-{index + 1}.bin", kbPerFile⟩

/-- `_pack_id`. -/
def packId [Hashlib] (kind : String) (fileIds : List String) (kbPerFile : Nat) : String :=
  let normalized := ",".intercalate fileIds
  sha256Prefix (encode (kind ++ "|" ++ normalized ++ "|" ++ toString kbPerFile))

/-- `_validate_archive_args`. -/
def validateArchiveArgs (count kbPerFile : Nat) : Except HTTPException Unit := do
  if count > maxArchiveFileCount then
    throw ⟨422, s!"archive count exceeds safe limit of {maxArchiveFileCount}."⟩
  if kbPerFile > maxArchiveKbPerFile then
    throw ⟨422, s!"archive kb_per_file exceeds safe limit of {maxArchiveKbPerFile}."⟩

/-- FastAPI: `Query(ge=1, le=…)` of the two parameters. -/
def packArgs (maxCount maxKb : Nat) (count kbPerFile : Int) : Except Failure (Nat × Nat) :=
  if between 1 maxCount count && between 1 maxKb kbPerFile then
    .ok (count.toNat, kbPerFile.toNat)
  else .error .validation

structure FileManifest where
  count : Nat
  kbPerFile : Nat
  files : List FixtureMetadata

/-- `file_manifest`. -/
def fileManifest (count kbPerFile : Int) : Except Failure FileManifest := do
  let (count, kbPerFile) ← packArgs maxFileManifestCount maxFileKb count kbPerFile
  return ⟨count, kbPerFile, fixturePackFiles count kbPerFile⟩

structure FixturePack where
  packId : String
  count : Nat
  kbPerFile : Nat
  totalBytes : Nat
  files : List FixtureMetadata

/-- A file as it is added to an archive. -/
structure ArchivedFile where
  filename : String
  content : List UInt8
  deriving DecidableEq

/-- The files of an archive in the order in which they are added. -/
def archived (fileIds : List String) (kbPerFile : Nat) : List ArchivedFile :=
  (fixturePackMetadata fileIds kbPerFile).map fun fixture =>
    ⟨fixture.filename, makeFileBytes fixture.fileId kbPerFile⟩

/-- An archive with its headers. -/
structure ArchiveResponse where
  members : List ArchivedFile
  mediaType : String
  headers : List (String × String)

/-- The headers of an archive; `kind` is `Archive` or `Tar`. -/
def archiveHeaders (packId extension kind : String) (count kbPerFile : Nat) :
    List (String × String) :=
  [("Content-Disposition", "attachment; filename=\"fixture-pack-" ++ packId ++ extension ++ "\""),
    ("X-" ++ kind ++ "-File-Count", toString count),
    ("X-" ++ kind ++ "-KB-Per-File", toString kbPerFile)]

/-- An item of `files` of `read_many`. -/
structure ReadFile extends FixtureMetadata where
  sha256Prefix : String

structure ReadManyResponse where
  count : Nat
  kbPerFile : Nat
  totalBytes : Nat
  combinedSha256Prefix : String
  files : List ReadFile

/-- The local variables of the loop of `read_many`; `combined` is what was hashed. -/
structure Reading where
  combined : List UInt8 := []
  totalBytes : Nat := 0
  files : List ReadFile := []

section Endpoints

variable [Hashlib]

/-- `fixture_pack`. -/
def fixturePack (count kbPerFile : Int) : Except Failure FixturePack := do
  let (count, kbPerFile) ← packArgs maxArchiveFileCount maxArchiveKbPerFile count kbPerFile
  (validateArchiveArgs count kbPerFile).mapError .refused
  let fileIds := (fixturePackFiles count kbPerFile).map (·.fileId)
  return {
    packId := packId "fixture-pack" fileIds kbPerFile
    count, kbPerFile
    totalBytes := count * kbPerFile * 1024
    files := fixturePackMetadata fileIds kbPerFile }

/-- `file_archive`. -/
def fileArchive (count kbPerFile : Int) : Except Failure ArchiveResponse := do
  let (count, kbPerFile) ← packArgs maxArchiveFileCount maxArchiveKbPerFile count kbPerFile
  (validateArchiveArgs count kbPerFile).mapError .refused
  let fileIds := (fixturePackFiles count kbPerFile).map (·.fileId)
  return {
    members := archived fileIds kbPerFile
    mediaType := "application/zip"
    headers := archiveHeaders (packId "fixture-pack" fileIds kbPerFile) ".zip" "Archive" count
      kbPerFile }

/-- The body of the loop of `read_many`. -/
def Reading.next (kbPerFile : Nat) (l : Reading) (fixture : FixtureMetadata) : Reading :=
  let payload := makeFileBytes fixture.fileId kbPerFile
  { combined := l.combined ++ payload
    totalBytes := l.totalBytes + payload.length
    files := l.files ++ [{ fixture with sha256Prefix := sha256Prefix payload }] }

/-- `read_many`. -/
def readMany (count kbPerFile : Int) : Except Failure ReadManyResponse := do
  let (count, kbPerFile) ← packArgs maxArchiveFileCount maxArchiveKbPerFile count kbPerFile
  (validateArchiveArgs count kbPerFile).mapError .refused
  let read := (fixturePackFiles count kbPerFile).foldl (Reading.next kbPerFile) {}
  return {
    count, kbPerFile
    totalBytes := read.totalBytes
    combinedSha256Prefix := sha256Prefix read.combined
    files := read.files }

/-- `tar_package`. -/
def tarPackage (count kbPerFile : Int) (fileIds : Option (List String)) :
    Except Failure ArchiveResponse := do
  let (count, kbPerFile) ← packArgs maxArchiveFileCount maxArchiveKbPerFile count kbPerFile
  let selectedFileIds ←
    match fileIds with
    | some (fileId :: rest) =>
        (validatedSelectiveFileIds (fileId :: rest)).mapError Failure.refused
    | _ => do
        (validateArchiveArgs count kbPerFile).mapError .refused
        pure ((fixturePackFiles count kbPerFile).map (·.fileId))
  return {
    members := archived selectedFileIds kbPerFile
    mediaType := "application/x-tar"
    headers := archiveHeaders (packId "tar-package" selectedFileIds kbPerFile) ".tar" "Tar"
      selectedFileIds.length kbPerFile }

end Endpoints

/-- The name is in ASCII. -/
def Ascii (s : String) : Prop := ∀ c ∈ s.toList, c.toNat < 128

instance (s : String) : Decidable (Ascii s) :=
  decidable_of_iff (s.toList.all fun c => c.toNat < 128) (by simp [Ascii])

/-- The bytes of a TAR archive, when no name needs an extended header. -/
def tarBytes (files : List ArchivedFile) : Option (List UInt8) :=
  if files.all fun f => decide (Ascii f.filename) then
    some (Tar.write (files.map fun f => ⟨encode f.filename, f.content⟩))
  else none

/-- The files of a TAR archive. -/
def untar (archive : List UInt8) : Option (List ArchivedFile) :=
  (Tar.read archive).map fun members =>
    members.map fun m => ⟨String.ofList (decodeIgnore m.name), m.data⟩

/-! ### Uploads -/

structure UploadResponse where
  receivedBytes : Nat
  receivedChars : Nat
  deriving DecidableEq

/-- `download`: the text and the header with the size. -/
def download (kb : Int) : Except Failure (String × String) :=
  if between 1 maxDownloadKb kb then .ok (makeDownloadText kb.toNat, toString kb)
  else .error .validation

/-- `upload`. A body without bytes is a missing one. -/
def upload (body : String) : Except Failure UploadResponse :=
  let byteSize := (encode body).length
  if byteSize = 0 then .error .validation
  else if byteSize > maxUploadBytes then
    .error (.refused ⟨422, s!"Upload body exceeds safe limit of {maxUploadBytes} bytes."⟩)
  else .ok ⟨byteSize, body.length⟩

structure FileUploadResponse where
  filename : String
  receivedBytes : Nat
  sha256Prefix : String
  deriving DecidableEq

/-- `file_upload`. -/
def fileUpload [Hashlib] (body : List UInt8) (filename : String) :
    Except Failure FileUploadResponse :=
  if !lengthBetween 1 maxFilenameLength filename || body.isEmpty then .error .validation
  else if body.length > maxUploadBytes then
    .error (.refused ⟨422, s!"Upload body exceeds safe limit of {maxUploadBytes} bytes."⟩)
  else .ok ⟨filename, body.length, sha256Prefix body⟩

/-! ### The fixtures of a pack -/

/-- `f"fixture-{index + 1}"`. -/
def fixtureId (index : Nat) : String := s!"fixture-{index + 1}"

def fixtureIds (count : Nat) : List String := (List.range count).map fixtureId

theorem fixturePackFiles_eq (count kb : Nat) :
    fixturePackFiles count kb = fixturePackMetadata (fixtureIds count) kb := by
  rw [fixturePackFiles, fixturePackMetadata, fixtureIds, List.map_map]
  rfl

theorem map_fileId_metadata (fileIds : List String) (kb : Nat) :
    (fixturePackMetadata fileIds kb).map (·.fileId) = fileIds := by
  rw [fixturePackMetadata, List.map_map]
  exact List.map_id fileIds

/-- The ids of a manifest are distinct fixtures in ASCII. -/
theorem fixtureIds_valid {count : Nat} (few : count ≤ maxFileManifestCount) :
    (∀ fileId ∈ fixtureIds count, FixtureId fileId ∧ Ascii fileId) ∧ (fixtureIds count).Nodup := by
  have valid : ∀ i < 20, (validateFileId (fixtureId i) true).isOk = true ∧ Ascii (fixtureId i) := by
    decide +kernel
  have distinct : ((List.range 20).map fixtureId).Nodup := by
    decide +kernel
  constructor
  · intro fileId mem
    obtain ⟨i, inside, rfl⟩ := List.mem_map.mp mem
    obtain ⟨ok, ascii⟩ := valid i ((List.mem_range.mp inside).trans_le few)
    have all : ([fixtureId i].all fun fileId => (validateFileId fileId true).isOk) = true := by
      simpa using ok
    exact ⟨fixtures_of_valid all _ List.mem_cons_self, ascii⟩
  · exact distinct.sublist (List.Sublist.map _ (List.range_sublist.mpr few))

/-! ### One pack in all views -/

/-- The files with these ids, as an archive. -/
theorem archived_eq (fileIds : List String) (kb : Nat) : archived fileIds kb =
    fileIds.map fun fileId => ⟨fileId ++ ".bin", makeFileBytes fileId kb⟩ := by
  rw [archived, fixturePackMetadata, List.map_map]
  rfl

theorem Ascii.latin1 {s : String} (ascii : Ascii s) : Latin1 s :=
  fun c mem => (ascii c mem).trans (by decide)

theorem Ascii.append {s t : String} (first : Ascii s) (second : Ascii t) : Ascii (s ++ t) := by
  intro c mem
  rw [String.toList_append] at mem
  exact (List.mem_append.mp mem).elim (first c) (second c)

/-- A name in ASCII takes a byte for each character, and none of them is NUL. -/
theorem encode_ascii {s : String} (ascii : Ascii s) :
    encode s = s.toList.map fun c => UInt8.ofNat c.toNat := by
  have char (n : Nat) (small : n < 128) :
      String.utf8EncodeChar (Char.ofNat n) = [UInt8.ofNat n] := by
    revert n
    decide
  rw [encode]
  unfold Ascii at ascii
  generalize s.toList = cs at ascii
  induction cs with
  | nil => rfl
  | cons c cs ih =>
      have here := char c.toNat (ascii c List.mem_cons_self)
      rw [Char.ofNat_toNat] at here
      rw [List.flatMap_cons, here, ih fun d mem => ascii d (List.mem_cons_of_mem _ mem)]
      rfl

/-- A file with such a name fits a TAR archive, when it is not too large. -/
theorem fits_tar {fileId : String} (fixture : FixtureId fileId) (ascii : Ascii fileId) {kb : Nat}
    (small : kb ≤ maxArchiveKbPerFile) :
    Tar.Member.Fits ⟨encode (fileId ++ ".bin"), makeFileBytes fileId kb⟩ := by
  have text := encode_ascii (ascii.append (t := ".bin") (by decide))
  refine ⟨?_, ?_, ?_⟩
  · rw [text, List.length_map, String.length_toList, String.length_append]
    have short := fixture.1
    have suffix : ".bin".length = 4 := rfl
    have limit : maxFilenameLength = 64 := rfl
    omega
  · rw [text]
    intro mem
    obtain ⟨c, here, zero⟩ := List.mem_map.mp mem
    have code : c.toNat = 0 := by
      have byte : c.toNat % 256 = 0 := UInt8.toNat_ofNat' ▸ congrArg UInt8.toNat zero
      have small := ascii.append (t := ".bin") (by decide) c here
      omega
    have nul : c = '\x00' := by
      rw [← Char.ofNat_toNat c, code]
    rw [nul, String.toList_append, List.mem_append] at here
    rcases here with own | suffix
    · exact fixture.not_mem (by decide) (by decide +kernel) own
    · exact absurd suffix (by decide)
  · change (makeFileBytes fileId kb).length < 8 ^ 11
    rw [length_makeFileBytes]
    have limit : maxArchiveKbPerFile = 64 := rfl
    omega

section Archive

variable {fileIds : List String} (valid : ∀ fileId ∈ fileIds, FixtureId fileId)
  (ascii : ∀ fileId ∈ fileIds, Ascii fileId) {kb : Nat} (small : kb ≤ maxArchiveKbPerFile)

include valid ascii small

/-- The files as members of a TAR archive. -/
theorem archived_fits : ∀ m ∈ (archived fileIds kb).map fun f =>
    (⟨encode f.filename, f.content⟩ : Tar.Member), m.Fits := by
  rw [archived_eq, List.map_map]
  intro m mem
  obtain ⟨fileId, here, rfl⟩ := List.mem_map.mp mem
  exact fits_tar (valid fileId here) (ascii fileId here) small

/-- The files of the archive are read back, and each takes more than a block. -/
theorem untar_archived : ∃ bytes, tarBytes (archived fileIds kb) = some bytes ∧
    untar bytes = some (archived fileIds kb) ∧ 512 * fileIds.length < bytes.length := by
  have names : (archived fileIds kb).all (fun f => decide (Ascii f.filename)) = true := by
    rw [List.all_eq_true, archived_eq]
    intro f mem
    obtain ⟨fileId, here, rfl⟩ := List.mem_map.mp mem
    exact decide_eq_true ((ascii fileId here).append (by decide))
  have fits := archived_fits valid ascii small
  refine ⟨_, if_pos names, ?_, ?_⟩
  · rw [untar, Tar.read_write fits, Option.map_some, List.map_map]
    refine congrArg some ((List.map_congr_left fun f _ => ?_).trans (List.map_id _))
    simp only [Function.comp_apply, decodeIgnore_encode, String.ofList_toList, id]
  · refine Nat.lt_of_le_of_lt ?_ (Tar.length_write fits)
    simp only [archived_eq, List.map_map, Function.comp_def, length_makeFileBytes]
    rw [List.map_const', List.sum_replicate_nat, Nat.mul_comm]
    exact Nat.mul_le_mul_left _ (Nat.le_add_right _ _)

end Archive

theorem packArgs_of_bounds {maxCount maxKb count kb : Nat} (files : 1 ≤ count ∧ count ≤ maxCount)
    (size : 1 ≤ kb ∧ kb ≤ maxKb) : packArgs maxCount maxKb count kb = .ok (count, kb) := by
  have bounds : (between 1 maxCount count && between 1 maxKb kb) = true := by
    simp only [between, Bool.and_eq_true, decide_eq_true_eq]
    omega
  rw [packArgs, if_pos bounds]
  rfl

theorem packArgs_cases (maxCount maxKb : Nat) (count kb : Int) :
    (∃ n k : Nat, count = n ∧ kb = k ∧ (1 ≤ n ∧ n ≤ maxCount) ∧ 1 ≤ k ∧ k ≤ maxKb) ∨
    packArgs maxCount maxKb count kb = .error .validation := by
  unfold packArgs
  split
  · rename_i bounds
    simp only [between, Bool.and_eq_true, decide_eq_true_eq] at bounds
    exact .inl ⟨count.toNat, kb.toNat, by omega, by omega, by omega, by omega⟩
  · exact .inr rfl

theorem validateArchiveArgs_of_bounds {count kb : Nat} (files : count ≤ maxArchiveFileCount)
    (size : kb ≤ maxArchiveKbPerFile) : validateArchiveArgs count kb = .ok () := by
  rw [validateArchiveArgs, if_neg (Nat.not_lt.mpr files), if_neg (Nat.not_lt.mpr size)]
  rfl

section Views

variable [Hashlib]

/-- The loop of `read_many`. -/
theorem foldl_reading (kb : Nat) (fileIds : List String) (l : Reading) :
    (fixturePackMetadata fileIds kb).foldl (Reading.next kb) l =
      { combined := l.combined ++ fileIds.flatMap (makeFileBytes · kb)
        totalBytes := l.totalBytes + fileIds.length * kb * 1024
        files := l.files ++ (fixturePackMetadata fileIds kb).map fun fixture =>
          { fixture with sha256Prefix := sha256Prefix (makeFileBytes fixture.fileId kb) } } := by
  induction fileIds generalizing l with
  | nil => simp [fixturePackMetadata]
  | cons fileId rest ih =>
      have tail := ih (l.next kb ⟨fileId, fileId ++ ".bin", kb⟩)
      simp only [fixturePackMetadata, List.map_cons, List.foldl_cons] at tail ⊢
      rw [tail]
      simp only [Reading.next, length_makeFileBytes, List.flatMap_cons, List.append_assoc,
        List.length_cons, Reading.mk.injEq, true_and]
      refine ⟨?_, rfl⟩
      rw [Nat.succ_mul, Nat.add_mul]
      omega

/-! ### What the endpoints answer -/

omit [Hashlib] in
/-- The manifest of some files. -/
theorem fileManifest_eq {count kb : Nat} (files : 1 ≤ count ∧ count ≤ maxFileManifestCount)
    (size : 1 ≤ kb ∧ kb ≤ maxFileKb) : fileManifest count kb =
      .ok ⟨count, kb, fixturePackMetadata (fixtureIds count) kb⟩ := by
  rw [fileManifest, packArgs_of_bounds files size, ← fixturePackFiles_eq]
  rfl

omit [Hashlib] in
/-- A manifest is of a number of files and a size within the bounds. -/
theorem fileManifest_eq_ok_iff {count kb : Int} {manifest : FileManifest} :
    fileManifest count kb = .ok manifest ↔ ∃ n k : Nat, count = n ∧ kb = k ∧
      (1 ≤ n ∧ n ≤ maxFileManifestCount) ∧ (1 ≤ k ∧ k ≤ maxFileKb) ∧
      manifest = ⟨n, k, fixturePackMetadata (fixtureIds n) k⟩ := by
  constructor
  · intro ok
    rcases packArgs_cases maxFileManifestCount maxFileKb count kb with
      ⟨n, k, rfl, rfl, files, size⟩ | refused
    · rw [fileManifest_eq files size] at ok
      cases ok
      exact ⟨n, k, rfl, rfl, files, size, rfl⟩
    · rw [fileManifest, refused] at ok
      cases ok
  · rintro ⟨n, k, rfl, rfl, files, size, rfl⟩
    exact fileManifest_eq files size

section Answers

variable {count kb : Nat} (files : 1 ≤ count ∧ count ≤ maxArchiveFileCount)
  (size : 1 ≤ kb ∧ kb ≤ maxArchiveKbPerFile)

include files size

theorem fixturePack_eq : fixturePack count kb = .ok
    { packId := packId "fixture-pack" (fixtureIds count) kb
      count, kbPerFile := kb
      totalBytes := count * kb * 1024
      files := fixturePackMetadata (fixtureIds count) kb } := by
  rw [fixturePack, packArgs_of_bounds files size]
  simp only [bind, Except.bind, validateArchiveArgs_of_bounds files.2 size.2, Except.mapError,
    fixturePackFiles_eq, map_fileId_metadata]
  rfl

theorem fileArchive_eq : fileArchive count kb = .ok
    { members := archived (fixtureIds count) kb
      mediaType := "application/zip"
      headers := archiveHeaders (packId "fixture-pack" (fixtureIds count) kb) ".zip" "Archive" count
        kb } := by
  rw [fileArchive, packArgs_of_bounds files size]
  simp only [bind, Except.bind, validateArchiveArgs_of_bounds files.2 size.2, Except.mapError,
    fixturePackFiles_eq, map_fileId_metadata]
  rfl

theorem tarPackage_eq : tarPackage count kb none = .ok
    { members := archived (fixtureIds count) kb
      mediaType := "application/x-tar"
      headers := archiveHeaders (packId "tar-package" (fixtureIds count) kb) ".tar" "Tar"
        (fixtureIds count).length kb } := by
  rw [tarPackage, packArgs_of_bounds files size]
  simp only [bind, Except.bind, validateArchiveArgs_of_bounds files.2 size.2, Except.mapError,
    fixturePackFiles_eq, map_fileId_metadata]
  rfl

theorem readMany_eq : readMany count kb = .ok
    { count, kbPerFile := kb
      totalBytes := count * kb * 1024
      combinedSha256Prefix := sha256Prefix ((fixtureIds count).flatMap (makeFileBytes · kb))
      files := (fixturePackMetadata (fixtureIds count) kb).map fun fixture =>
        { fixture with sha256Prefix := sha256Prefix (makeFileBytes fixture.fileId kb) } } := by
  rw [readMany, packArgs_of_bounds files size]
  simp only [bind, Except.bind, validateArchiveArgs_of_bounds files.2 size.2, Except.mapError,
    fixturePackFiles_eq, foldl_reading, List.nil_append, Nat.zero_add, fixtureIds,
    List.length_map, List.length_range]
  rfl

end Answers

/-- One pack of files: what a manifest lists, what is described with digests, what the
archives contain, and what is downloaded one by one. -/
structure SamePack (kb : Nat) (manifest : FileManifest) (pack : FixturePack)
    (many : ReadManyResponse) (zip tar : ArchiveResponse) : Prop where
  manifest : manifest.files = pack.files
  listed : many.files.map (·.toFixtureMetadata) = pack.files
  archives : zip.members = tar.members
  names : zip.members.map (·.filename) = pack.files.map (·.filename)
  digests : zip.members.map (fun f => sha256Prefix f.content) = many.files.map (·.sha256Prefix)
  combined : many.combinedSha256Prefix = sha256Prefix (zip.members.flatMap (·.content))
  total : many.totalBytes = pack.totalBytes ∧
    pack.totalBytes = (zip.members.map (·.content.length)).sum
  packId : zip.headers = archiveHeaders pack.packId ".zip" "Archive" pack.count kb
  extracted : ∃ bytes, tarBytes tar.members = some bytes ∧ untar bytes = some zip.members
  downloads : ∀ f ∈ pack.files, ∃ file, get (downloadPath f.fileId kb) = some (.ok file) ∧
    ⟨f.filename, file.content⟩ ∈ zip.members

/-- Within the bounds, the five views of a pack show the same files. -/
theorem samePack {count kb : Nat} (files : 1 ≤ count ∧ count ≤ maxArchiveFileCount)
    (size : 1 ≤ kb ∧ kb ≤ maxArchiveKbPerFile) : ∃ manifest pack many zip tar,
      fileManifest count kb = .ok manifest ∧ fixturePack count kb = .ok pack ∧
      readMany count kb = .ok many ∧ fileArchive count kb = .ok zip ∧
      tarPackage count kb none = .ok tar ∧ SamePack kb manifest pack many zip tar := by
  obtain ⟨fixtures, nodup⟩ := fixtureIds_valid (files.2.trans (by decide))
  refine ⟨_, _, _, _, _, fileManifest_eq ⟨files.1, files.2.trans (by decide)⟩
    ⟨size.1, size.2.trans (by decide)⟩, fixturePack_eq files size,
    readMany_eq files size, fileArchive_eq files size, tarPackage_eq files size, ?_⟩
  refine ⟨rfl, ?_, rfl, ?_, ?_, ?_, ⟨rfl, ?_⟩, rfl, ?_, ?_⟩
  · rw [List.map_map]
    exact List.map_id _
  · rw [archived_eq, fixturePackMetadata, List.map_map, List.map_map]
    rfl
  · rw [archived_eq, fixturePackMetadata, List.map_map, List.map_map, List.map_map]
    rfl
  · rw [archived_eq, List.flatMap_map]
  · simp only [archived_eq, List.map_map, Function.comp_def, length_makeFileBytes]
    rw [List.map_const', List.sum_replicate_nat, fixtureIds, List.length_map, List.length_range,
      Nat.mul_assoc]
  · obtain ⟨bytes, written, extracted, _⟩ := untar_archived (fun _ mem => (fixtures _ mem).1)
      (fun _ mem => (fixtures _ mem).2) size.2
    exact ⟨bytes, written, extracted⟩
  · intro f mem
    obtain ⟨fileId, here, rfl⟩ := List.mem_map.mp mem
    obtain ⟨fixture, ascii⟩ := fixtures fileId here
    have bounds : 1 ≤ kb ∧ kb ≤ maxFileKb := ⟨size.1, size.2.trans (by decide)⟩
    rcases fileDownload_cases fixture.1 bounds with ⟨_, file, served, content⟩ | ⟨other, _⟩
    · refine ⟨file, (get_downloadPath fixture size.2).trans (congrArg some served), ?_⟩
      rw [content, archived_eq]
      exact List.mem_map.mpr ⟨fileId, here, rfl⟩
    · exact absurd ascii.latin1 other

/-- For all sizes, the views of a pack are all refused, or they show the same files. -/
theorem packs_agree (count kb : Int) :
    (∃ manifest pack many zip tar,
      fileManifest count kb = .ok manifest ∧ fixturePack count kb = .ok pack ∧
      readMany count kb = .ok many ∧ fileArchive count kb = .ok zip ∧
      tarPackage count kb none = .ok tar ∧ SamePack kb.toNat manifest pack many zip tar) ∨
    (fixturePack count kb = .error .validation ∧ readMany count kb = .error .validation ∧
      fileArchive count kb = .error .validation ∧
      ∀ fileIds, tarPackage count kb fileIds = .error .validation) := by
  rcases packArgs_cases maxArchiveFileCount maxArchiveKbPerFile count kb with
    ⟨n, k, rfl, rfl, files, size⟩ | refused
  · exact .inl (samePack files size)
  · refine .inr ⟨?_, ?_, ?_, fun fileIds => ?_⟩
    · rw [fixturePack, refused]
      rfl
    · rw [readMany, refused]
      rfl
    · rw [fileArchive, refused]
      rfl
    · rw [tarPackage, refused]
      rfl

/-! ### Selected files -/

/-- The package of selected files. -/
theorem tarPackage_some {count kb : Nat} (files : 1 ≤ count ∧ count ≤ maxArchiveFileCount)
    (size : 1 ≤ kb ∧ kb ≤ maxArchiveKbPerFile) {fileIds : List String}
    (some_ids : 1 ≤ fileIds.length) : tarPackage count kb (some fileIds) =
      ((validatedSelectiveFileIds fileIds).mapError .refused).map fun fileIds =>
        { members := archived fileIds kb
          mediaType := "application/x-tar"
          headers := archiveHeaders (packId "tar-package" fileIds kb) ".tar" "Tar" fileIds.length
            kb } := by
  cases fileIds with
  | nil => cases some_ids
  | cons fileId rest =>
      rw [tarPackage, packArgs_of_bounds files size]
      simp only [bind, Except.bind]
      cases validatedSelectiveFileIds (fileId :: rest) <;> rfl

/-- What `selective_fetch` describes is what `tar_package` packs, for the same ids; both
refuse the same ids with the same error. -/
theorem tarPackage_selected {count : Nat} (files : 1 ≤ count ∧ count ≤ maxArchiveFileCount)
    (body : SelectiveFetchRequest) :
    (∃ error, selectiveFetch body = .error error ∧
      tarPackage count body.kbPerFile (some body.fileIds) = .error (.refused error)) ∨
    ∃ response tar, selectiveFetch body = .ok response ∧
      tarPackage count body.kbPerFile (some body.fileIds) = .ok tar ∧
      tar.members.map (·.filename) = response.files.map (·.filename) ∧
      tar.members.map (fun f => sha256Prefix f.content) = response.files.map (·.sha256Prefix) ∧
      response.combinedSha256Prefix = sha256Prefix (tar.members.flatMap (·.content)) ∧
      response.totalBytes = (tar.members.map (·.content.length)).sum ∧
      ((∀ fileId ∈ body.fileIds, Ascii fileId) →
        ∃ bytes, tarBytes tar.members = some bytes ∧ untar bytes = some tar.members) := by
  rw [tarPackage_some files body.size body.count.1]
  cases checked : validatedSelectiveFileIds body.fileIds with
  | error e =>
      refine .inl ⟨e, ?_, rfl⟩
      rw [selectiveFetch, checked]
      rfl
  | ok fileIds =>
      obtain ⟨fixtures, nodup, rfl⟩ := (validatedSelectiveFileIds_eq_ok_iff body.count).mp checked
      refine .inr ⟨described body, _, selectiveFetch_eq_ok_iff.mpr ⟨fixtures, nodup, rfl⟩, rfl, ?_,
        ?_, ?_, ?_, ?_⟩
      · simp only [archived_eq, described, List.map_map]
        rfl
      · simp only [archived_eq, described, List.map_map]
        rfl
      · simp only [archived_eq, described, List.flatMap_map]
      · simp only [archived_eq, described, List.map_map, Function.comp_def, length_makeFileBytes]
        rw [List.map_const', List.sum_replicate_nat, Nat.mul_comm]
      · intro ascii
        obtain ⟨bytes, written, extracted, _⟩ := untar_archived fixtures ascii body.size.2
        exact ⟨bytes, written, extracted⟩

end Views

/-- The SHA-256 digests of the first three fixtures and of their package. -/
@[reducible] def packDigests : Hashlib := knownDigests
  [(["fixture-1", "fixture-2", "fixture-3"].flatMap (makeFileBytes · 10),
      "76ebdec2c1cd2b05ae1da53f8b348c77a155c1cd35eb40433442c55005189297"),
    (makeFileBytes "fixture-1" 10,
      "b8150407ca228b75ed966006fff500e0249596d23bedfabd0c410495946016a2"),
    (makeFileBytes "fixture-2" 10,
      "f9c49d06a34a98f9e5ddb8a3477a14f49af8f844d86183656f8437773765f38b"),
    (makeFileBytes "fixture-3" 10,
      "66c65752f7c4ebb39f417808de7f9643718974c9c2c7362b4def81f9d1a2c0e4"),
    (encode "tar-package|fixture-1,fixture-2,fixture-3|10",
      "43f0289b8a848580f2a57791dee21a940b80e8a14ec7515720f33af6d5511785")]

/-- The first three fixtures, packed and extracted again. -/
theorem tarPackage_selected_three : let _ : Hashlib := packDigests
    ∃ tar bytes, tarPackage 4 10 (some (fixtureIds 3)) = .ok tar ∧
      tarBytes tar.members = some bytes ∧ untar bytes = some tar.members := by
  intro _
  obtain ⟨fixtures, nodup⟩ := fixtureIds_valid (by decide : 3 ≤ maxFileManifestCount)
  let body : SelectiveFetchRequest := ⟨fixtureIds 3, 10, by decide, by decide⟩
  rcases tarPackage_selected (by decide : 1 ≤ 4 ∧ 4 ≤ maxArchiveFileCount) body with
    ⟨error, fails, _⟩ | ⟨_, tar, _, packed, views⟩
  · have accepted := selectiveFetch_eq_ok_iff.mpr
      ⟨fun fileId mem => (fixtures fileId mem).1, nodup, Eq.refl (described body)⟩
    cases fails.symm.trans accepted
  · obtain ⟨bytes, written, extracted⟩ := views.2.2.2.2 fun fileId mem => (fixtures fileId mem).2
    exact ⟨tar, bytes, packed, written, extracted⟩

/-! ### Uploads of what was downloaded -/

section Uploads

/-- Bytes of ASCII are the characters of their text. -/
theorem decodeIgnore_of_ascii {data : List UInt8} (ascii : ∀ b ∈ data, b.toNat < 128) :
    decodeIgnore data = data.map fun b => Char.ofNat b.toNat := by
  have code (n : Nat) (small : n < 128) : (Char.ofNat n).toNat = n := by
    revert n
    decide
  let s := String.ofList (data.map fun b => Char.ofNat b.toNat)
  have chars : s.toList = data.map fun b => Char.ofNat b.toNat := String.toList_ofList
  have ascii' : Ascii s := by
    intro c mem
    rw [chars] at mem
    obtain ⟨b, here, rfl⟩ := List.mem_map.mp mem
    rw [code _ (ascii b here)]
    exact ascii b here
  have bytes : encode s = data := by
    rw [encode_ascii ascii', chars, List.map_map]
    refine (List.map_congr_left fun b mem => ?_).trans (List.map_id _)
    rw [Function.comp_apply, code _ (ascii b mem), UInt8.ofNat_toNat, id]
  rw [← chars, ← decodeIgnore_encode, bytes]

/-- The text of a download has as many characters as bytes. -/
theorem length_chars_makeDownloadText (kb : Nat) : (makeDownloadText kb).length = kb * 1024 := by
  have ascii : ∀ b ∈ encode "ploadtesting-payload-block-", b.toNat < 128 := by
    decide +kernel
  rw [makeDownloadText, decodeIgnore_of_ascii, ← String.length_toList, String.toList_ofList,
    List.length_map]
  · refine length_cutTo_self ?_ _
    rw [length_times]
    decide +kernel
  · intro b mem
    exact ascii b (mem_of_mem_times (mem_of_mem_cutTo mem))

theorem content_of_fileDownload {fileId disposition : String} {kb : Int} {file : FileResponse}
    (served : fileDownload fileId kb disposition = .ok file) :
    (1 ≤ kb.toNat ∧ kb.toNat ≤ maxFileKb) ∧ file.content = makeFileBytes fileId kb.toNat := by
  unfold fileDownload at served
  split at served
  · cases served
  · rename_i valid
    obtain ⟨_, _, served⟩ := bind_ok_iff.mp served
    obtain ⟨headers, _, made⟩ := bind_ok_iff.mp served
    cases made
    refine ⟨?_, rfl⟩
    have bounds : between 1 maxFileKb kb = true := by
      by_contra outside
      simp [outside] at valid
    simp only [between, Bool.and_eq_true, decide_eq_true_eq] at bounds
    omega

/-- What is downloaded can be uploaded: a text up to half of the largest size, a file of
every size, with the digest that describes it. -/
theorem upload_download [Hashlib] :
    (∀ kb text header, download kb = .ok (text, header) →
      ((upload text).isOk = true ↔ kb ≤ 256) ∧
        ∀ response, upload text = .ok response → response = ⟨kb.toNat * 1024, kb.toNat * 1024⟩) ∧
    ∀ fileId kb disposition file filename, fileDownload fileId kb disposition = .ok file →
      lengthBetween 1 maxFilenameLength filename = true →
      fileUpload file.content filename = .ok ⟨filename, kb.toNat * 1024,
        sha256Prefix (makeFileBytes fileId kb.toNat)⟩ := by
  constructor
  · intro kb text header downloads
    rw [download] at downloads
    split at downloads
    · rename_i bounds
      cases downloads
      simp only [between, Bool.and_eq_true, decide_eq_true_eq] at bounds
      have limit : maxUploadBytes = 256 * 1024 := rfl
      rw [upload, length_makeDownloadText, length_chars_makeDownloadText, if_neg (by omega)]
      split
      · refine ⟨iff_of_false Bool.false_ne_true (by omega), fun _ ok => by cases ok⟩
      · refine ⟨iff_of_true rfl (by omega), fun _ ok => ?_⟩
        cases ok
        rfl
    · cases downloads
  · intro fileId kb disposition file filename served valid
    obtain ⟨⟨least, most⟩, content⟩ := content_of_fileDownload served
    have limit : maxUploadBytes = maxFileKb * 1024 := rfl
    have length := length_makeFileBytes fileId kb.toNat
    have nonempty : (makeFileBytes fileId kb.toNat).isEmpty = false := by
      rw [List.isEmpty_eq_false_iff, ← List.length_pos_iff, length]
      omega
    rw [fileUpload, valid, content, nonempty, length, if_neg (by decide), if_neg (by omega)]

/-- A text and a file of one kilobyte. -/
theorem upload_download_kilobyte : let _ : Hashlib := knownDigests []
    (∃ text header, download 1 = .ok (text, header) ∧ upload text = .ok ⟨1024, 1024⟩) ∧
      ∃ file, fileDownload "a" 1 "inline" = .ok file ∧
        fileUpload file.content "a.bin" =
          .ok ⟨"a.bin", 1024, sha256Prefix (makeFileBytes "a" 1)⟩ := by
  intro _
  obtain ⟨texts, files⟩ := upload_download
  refine ⟨⟨_, _, rfl, ?_⟩, ⟨_, rfl, files "a" 1 "inline" _ "a.bin" rfl (by decide)⟩⟩
  obtain ⟨accepted, described⟩ := texts 1 _ _ rfl
  cases answer : upload (makeDownloadText (Int.toNat 1)) with
  | error e =>
      rw [answer] at accepted
      cases accepted.mpr (by decide)
  | ok response => rw [described response answer]; rfl

end Uploads

end PLoadtesting.TargetApps.PayloadApi
