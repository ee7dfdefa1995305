import PLoadtesting.TargetApps.Filler

/-!
What `selective_fetch` describes, and what `file_download` serves.

The identifiers that `selective_fetch` takes are `fixture-` and digits
(`selectiveFetch_eq_ok_iff`). Their download paths lead to `file_download`
(`get_downloadPath`), which makes the same bytes and fails on nothing but the
headers: digits outside of Latin-1 cannot be in them (`describesDownloads_iff`).
-/

namespace PLoadtesting.TargetApps.PayloadApi

open Python Python.Url

/-- The description of the files is right: their order, their sizes, and what is
downloaded from their paths. -/
structure DescribesDownloads [Hashlib] (body : SelectiveFetchRequest)
    (response : SelectiveFetchResponse) : Prop where
  order : response.files.map (·.fileId) = body.fileIds
  distinct : (response.files.map (·.fileId)).Nodup
  total : response.totalBytes = body.kbPerFile * 1024 * response.files.length
  downloads : ∀ f ∈ response.files, ∃ download, get f.downloadPath = some (.ok download) ∧
    download.content = makeFileBytes f.fileId body.kbPerFile ∧
    sha256Prefix download.content = f.sha256Prefix ∧
    download.content.length = body.kbPerFile * 1024

/-- `fixture-` and digits. -/
def FixtureId (fileId : String) : Prop :=
  fileId.length ≤ maxFilenameLength ∧
    ∃ digits, fileId.toList = "fixture-".toList ++ digits ∧ isDigitText digits = true

/-! ### Identifiers -/

theorem validateFileId_eq_ok_iff {fileId : String} :
    validateFileId fileId true = .ok () ↔ FixtureId fileId := by
  have absent : '-' ∉ "fixture".toList := by
    decide
  have cut (digits : List Char) : partition '-' ("fixture-".toList ++ digits) =
      ("fixture".toList, true, digits) := partition_append absent digits
  unfold validateFileId FixtureId
  by_cases long : fileId.length > maxFilenameLength
  · rw [if_pos long]
    refine iff_of_false (fun error => by cases error) fun fits => ?_
    exact absurd fits.1 (Nat.not_le.mpr long)
  · rw [if_neg long, if_pos rfl]
    have short := Nat.not_lt.mp long
    cases starts : "fixture-".toList.isPrefixOf fileId.toList with
    | false =>
        refine iff_of_false (fun error => by cases error) ?_
        rintro ⟨_, digits, text, _⟩
        rw [text, List.isPrefixOf_iff_prefix.mpr (List.prefix_append _ _)] at starts
        cases starts
    | true =>
        obtain ⟨digits, text⟩ := List.isPrefixOf_iff_prefix.mp starts
        rw [← text, cut]
        simp only [Bool.not_true, Bool.false_eq_true, if_false]
        cases numeric : isDigitText digits with
        | false =>
            refine iff_of_false ?_ ?_
            · rw [if_pos (by rfl)]
              exact fun error => by cases error
            rintro ⟨_, digits', same, numeric'⟩
            rw [List.append_cancel_left same, numeric'] at numeric
            cases numeric
        | true => exact iff_of_true rfl ⟨short, digits, rfl, numeric⟩

/-- Characters below the digits of ASCII and `?` are no digits. -/
theorem not_mem_of_isDigitText {digits : List Char} (numeric : isDigitText digits = true)
    {c : Char} (other : isDigitText [c] = false) : c ∉ digits := by
  intro mem
  simp only [isDigitText, Bool.and_eq_true, List.all_eq_true] at numeric
  have here := numeric.2 c mem
  simp only [isDigitText, List.isEmpty_cons, Bool.not_false, List.all_cons, List.all_nil,
    Bool.and_true, here] at other
  cases other

theorem FixtureId.not_mem {fileId : String} (fixture : FixtureId fileId) {c : Char}
    (notPrefix : c ∉ "fixture-".toList) (notDigit : isDigitText [c] = false) :
    c ∉ fileId.toList := by
  obtain ⟨_, digits, text, numeric⟩ := fixture
  rw [text, List.mem_append]
  rintro (mem | mem)
  · exact notPrefix mem
  · exact not_mem_of_isDigitText numeric notDigit mem

/-- The loop keeps the identifiers, which are distinct fixtures. -/
theorem dedupe_eq_ok_iff {deduped fileIds result : List String} :
    dedupe deduped fileIds = .ok result ↔
      (∀ fileId ∈ fileIds, FixtureId fileId) ∧ fileIds.Nodup ∧
        (∀ fileId ∈ fileIds, fileId ∉ deduped) ∧ result = deduped ++ fileIds := by
  induction fileIds generalizing deduped with
  | nil => simp [dedupe, eq_comm]
  | cons fileId rest ih =>
      rw [dedupe]
      cases checked : validateFileId fileId true with
      | error e =>
          refine iff_of_false (fun ok => by cases ok) ?_
          rintro ⟨fixtures, _⟩
          rw [validateFileId_eq_ok_iff.mpr (fixtures fileId List.mem_cons_self)] at checked
          cases checked
      | ok _ =>
          have fixture := validateFileId_eq_ok_iff.mp checked
          by_cases seen : fileId ∈ deduped
          · have here : deduped.contains fileId = true := by simpa using seen
            refine iff_of_false ?_ fun ⟨_, _, fresh, _⟩ => fresh fileId List.mem_cons_self seen
            simp only [here, if_true]
            exact fun ok => by cases ok
          · have here : deduped.contains fileId = false := by simpa using seen
            have rest_iff := @ih (deduped ++ [fileId])
            simp only [here, Bool.false_eq_true, if_false, bind, Except.bind]
            rw [rest_iff]
            simp only [List.forall_mem_cons, List.nodup_cons, List.mem_append, List.mem_singleton,
              not_or, List.append_assoc, List.singleton_append]
            constructor
            · rintro ⟨fixtures, nodup, fresh, rfl⟩
              exact ⟨⟨fixture, fixtures⟩, ⟨fun mem => (fresh fileId mem).2 rfl, nodup⟩,
                ⟨seen, fun x mem => (fresh x mem).1⟩, rfl⟩
            · rintro ⟨⟨_, fixtures⟩, ⟨absent, nodup⟩, ⟨_, fresh⟩, rfl⟩
              exact ⟨fixtures, nodup, fun x mem =>
                ⟨fresh x mem, fun same => absent (same ▸ mem)⟩, rfl⟩

theorem validatedSelectiveFileIds_eq_ok_iff {fileIds result : List String}
    (count : 1 ≤ fileIds.length ∧ fileIds.length ≤ maxSelectiveFetchCount) :
    validatedSelectiveFileIds fileIds = .ok result ↔
      (∀ fileId ∈ fileIds, FixtureId fileId) ∧ fileIds.Nodup ∧ result = fileIds := by
  have inside : ¬ (fileIds.length < 1 || fileIds.length > maxSelectiveFetchCount) = true := by
    simp only [Bool.or_eq_true, decide_eq_true_eq]
    omega
  rw [validatedSelectiveFileIds, if_neg inside, dedupe_eq_ok_iff]
  simp

/-! ### What is fetched -/

section Fetch

variable [Hashlib]

/-- The description of a file. -/
def describeFile (kb : Nat) (fileId : String) : FetchedFile where
  fileId := fileId
  filename := fileId ++ ".bin"
  sizeKb := kb
  sha256Prefix := sha256Prefix (makeFileBytes fileId kb)
  downloadPath := downloadPath fileId kb

/-- The loop adds up the bytes of the files and lists them. -/
theorem foldl_next (kb : Nat) (fileIds : List String) (l : Fetching) :
    (fixturePackMetadata fileIds kb).foldl (Fetching.next kb) l =
      { combined := l.combined ++ fileIds.flatMap (makeFileBytes · kb)
        totalBytes := l.totalBytes + kb * 1024 * fileIds.length
        files := l.files ++ fileIds.map (describeFile kb) } := by
  induction fileIds generalizing l with
  | nil => simp [fixturePackMetadata]
  | cons fileId rest ih =>
      have tail := ih (l.next kb ⟨fileId, fileId ++ ".bin", kb⟩)
      simp only [fixturePackMetadata, List.map_cons, List.foldl_cons] at tail ⊢
      rw [tail]
      simp only [Fetching.next, length_makeFileBytes, List.flatMap_cons, List.append_assoc,
        List.length_cons, Fetching.mk.injEq, true_and]
      refine ⟨?_, rfl⟩
      rw [Nat.mul_add, Nat.mul_one]
      omega

/-- The response for identifiers that are accepted. -/
def described (body : SelectiveFetchRequest) : SelectiveFetchResponse where
  selectedCount := body.fileIds.length
  kbPerFile := body.kbPerFile
  totalBytes := body.kbPerFile * 1024 * body.fileIds.length
  combinedSha256Prefix := sha256Prefix (body.fileIds.flatMap (makeFileBytes · body.kbPerFile))
  files := body.fileIds.map (describeFile body.kbPerFile)

theorem selectiveFetch_eq_ok_iff {body : SelectiveFetchRequest}
    {response : SelectiveFetchResponse} : selectiveFetch body = .ok response ↔
      (∀ fileId ∈ body.fileIds, FixtureId fileId) ∧ body.fileIds.Nodup ∧
        response = described body := by
  unfold selectiveFetch
  cases checked : validatedSelectiveFileIds body.fileIds with
  | error e =>
      refine iff_of_false (fun ok => by cases ok) ?_
      rintro ⟨fixtures, nodup, _⟩
      rw [(validatedSelectiveFileIds_eq_ok_iff body.count).mpr ⟨fixtures, nodup, rfl⟩] at checked
      cases checked
  | ok fileIds =>
      obtain ⟨fixtures, nodup, rfl⟩ := (validatedSelectiveFileIds_eq_ok_iff body.count).mp checked
      simp only [bind, Except.bind, pure, Except.pure, foldl_next, List.nil_append, Nat.zero_add,
        Except.ok.injEq]
      constructor
      · rintro rfl
        exact ⟨fixtures, nodup, rfl⟩
      · rintro ⟨_, _, rfl⟩
        rfl

end Fetch

/-! ### What is downloaded -/

/-- The text can be in a header. -/
def Latin1 (s : String) : Prop := ∀ c ∈ s.toList, c.toNat < 256

instance (s : String) : Decidable (Latin1 s) :=
  decidable_of_iff (s.toList.all fun c => c.toNat < 256) (by simp [Latin1])

theorem Latin1.append {s t : String} (first : Latin1 s) (second : Latin1 t) : Latin1 (s ++ t) := by
  intro c mem
  rw [String.toList_append] at mem
  exact (List.mem_append.mp mem).elim (first c) (second c)

/-- The headers of a response are encoded if all are Latin-1. -/
theorem mapM_encodeHeader_ok {headers : List (String × String)}
    (latin1 : ∀ header ∈ headers, Latin1 header.2) :
    ∃ encoded, headers.mapM encodeHeader = .ok encoded := by
  induction headers with
  | nil => exact ⟨[], rfl⟩
  | cons header rest ih =>
      obtain ⟨here, later⟩ := List.forall_mem_cons.mp latin1
      obtain ⟨encoded, tail⟩ := ih later
      obtain ⟨value, head⟩ := Option.isSome_iff_exists.mp (isSome_encodeLatin1_iff.mpr here)
      refine ⟨(header.1, value) :: encoded, ?_⟩
      rw [List.mapM_cons, encodeHeader, head, tail]
      rfl

theorem mapM_encodeHeader_error {headers : List (String × String)} {header : String × String}
    (mem : header ∈ headers) (other : ¬ Latin1 header.2) :
    headers.mapM encodeHeader = .error .unicodeEncodeError := by
  induction headers with
  | nil => cases mem
  | cons first rest ih =>
      rw [List.mapM_cons, encodeHeader]
      cases encodes : encodeLatin1 first.2 with
      | none => rfl
      | some value =>
          rcases List.mem_cons.mp mem with rfl | later
          · refine absurd (isSome_encodeLatin1_iff.mp ?_) other
            rw [encodes]
            rfl
          · rw [ih later]
            rfl

theorem latin1_toString (kb : Nat) : Latin1 (toString (kb : Int)) := by
  intro c mem
  have text : (toString (kb : Int)).toList = Nat.toDigits 10 kb := Nat.toList_repr
  rw [text] at mem
  have digit := isDigit_bounds (Nat.isDigit_of_mem_toDigits (by decide) (by decide) mem)
  have code : c.toNat = c.val.toNat := rfl
  omega

theorem latin1_downloadHeaders {fileId : String} (latin1 : Latin1 fileId) (kb : Nat) :
    ∀ header ∈ downloadHeaders fileId kb "attachment", Latin1 header.2 := by
  have before : Latin1 ("attachment" ++ "; filename=\"") := by
    decide
  have after : Latin1 ".bin\"" := by
    decide
  intro header mem
  simp only [downloadHeaders, List.mem_cons, List.not_mem_nil, or_false] at mem
  rcases mem with rfl | rfl | rfl
  · exact (before.append latin1).append after
  · exact latin1_toString kb
  · exact latin1

/-- A file is served if its identifier is Latin-1, and fails otherwise. -/
theorem fileDownload_cases {fileId : String} {kb : Nat}
    (short : fileId.length ≤ maxFilenameLength) (bounds : 1 ≤ kb ∧ kb ≤ maxFileKb) :
    (Latin1 fileId ∧ ∃ download, fileDownload fileId kb "attachment" = .ok download ∧
      download.content = makeFileBytes fileId kb) ∨
    (¬ Latin1 fileId ∧ fileDownload fileId kb "attachment" = .error .unicodeEncodeError) := by
  have inside : (!between 1 maxFileKb kb ||
      (decide ("attachment" ≠ "attachment") && decide ("attachment" ≠ "inline"))) = false := by
    have size : between 1 maxFileKb kb = true := by
      simp only [between, Bool.and_eq_true, decide_eq_true_eq]
      omega
    rw [size]
    rfl
  have valid : (validateFileId fileId false).mapError Failure.refused = .ok () := by
    rw [validateFileId, if_neg (Nat.not_lt.mpr short)]
    rfl
  unfold fileDownload
  rw [inside, valid, Int.toNat_natCast]
  by_cases latin1 : Latin1 fileId
  · obtain ⟨encoded, headers⟩ := mapM_encodeHeader_ok (latin1_downloadHeaders latin1 kb)
    rw [headers]
    exact .inl ⟨latin1, _, rfl, rfl⟩
  · have own : ("X-File-Id", fileId) ∈ downloadHeaders fileId kb "attachment" := by
      simp [downloadHeaders]
    rw [mapM_encodeHeader_error own latin1]
    exact .inr ⟨latin1, rfl⟩

/-! ### Paths -/

theorem routeFileId_of_fixture {fileId : String} (fixture : FixtureId fileId) :
    routeFileId ("/api/files/".toList ++ fileId.toList) = some fileId := by
  have others : ∀ route ∈ fileRoutes, (validateFileId route true).isOk = false := by
    decide +kernel
  have notRoute : fileId ∉ fileRoutes := by
    intro mem
    have other := others fileId mem
    rw [validateFileId_eq_ok_iff.mpr fixture] at other
    cases other
  have absent : '/' ∉ fileId.toList := fixture.not_mem (by decide) (by decide +kernel)
  have noSlash : fileId.contains '/' = false := by
    simpa using absent
  have nonempty : fileId ≠ "" := by
    rintro rfl
    obtain ⟨_, digits, text, _⟩ := fixture
    cases text
  unfold routeFileId
  rw [if_pos (List.isPrefixOf_iff_prefix.mpr (List.prefix_append _ _))]
  have rest : ("/api/files/".toList ++ fileId.toList).drop "/api/files/".length =
      fileId.toList := List.drop_left
  rw [rest, String.ofList_toList]
  simp [nonempty, noSlash, notRoute]

theorem toList_downloadPath (fileId : String) (kb : Nat) :
    (downloadPath fileId kb).toList =
      ("/api/files/".toList ++ fileId.toList) ++
        '?' :: ("kb".toList ++ '=' :: Nat.toDigits 10 kb) := by
  have digits : (toString kb).toList = Nat.toDigits 10 kb := Nat.toList_repr
  unfold downloadPath
  rw [String.toList_append, String.toList_append, String.toList_append, digits]
  simp

/-- The path of a fixture leads to its file. -/
theorem get_downloadPath {fileId : String} (fixture : FixtureId fileId) {kb : Nat}
    (small : kb ≤ maxArchiveKbPerFile) :
    get (downloadPath fileId kb) = some (fileDownload fileId kb "attachment") := by
  have noMark : '?' ∉ "/api/files/".toList ++ fileId.toList := by
    rw [List.mem_append]
    rintro (mem | mem)
    · exact absurd mem (by decide)
    · exact fixture.not_mem (by decide) (by decide +kernel) mem
  have noAmpersand : '&' ∉ "kb".toList ++ '=' :: Nat.toDigits 10 kb := by
    intro mem
    rcases List.mem_append.mp mem with mem | mem
    · exact absurd mem (by decide)
    · rcases List.mem_cons.mp mem with same | mem
      · cases same
      · cases Nat.isDigit_of_mem_toDigits (b := 10) (by decide) (by decide) mem
  have noEquals : '=' ∉ "kb".toList := by
    decide
  have number : parseInt (toString kb) = some (kb : Int) := by
    refine parseInt_toString (i := kb) ?_
    have three := (Nat.length_toDigits_le_iff (b := 10) (n := kb) (k := 3) (by decide)
      (by decide)).mpr (Nat.lt_of_le_of_lt small (by decide))
    exact Nat.le_trans three (by decide)
  have digits : String.ofList (Nat.toDigits 10 kb) = toString kb := by
    rw [← String.toList_inj, String.toList_ofList]
    exact Nat.toList_repr.symm
  have pairs : (splitOn '&' ("kb".toList ++ '=' :: Nat.toDigits 10 kb)).map (partition '=') =
      [("kb".toList, true, Nat.toDigits 10 kb)] := by
    rw [splitOn_of_notMem noAmpersand, List.map_singleton, partition_append noEquals]
  have kbText : queryParam "kb" ("kb".toList ++ '=' :: Nat.toDigits 10 kb) =
      some (toString kb) := by
    rw [queryParam, pairs, ← digits]
    rfl
  have noDisposition : queryParam "disposition" ("kb".toList ++ '=' :: Nat.toDigits 10 kb) =
      none := by
    rw [queryParam, pairs]
    rfl
  unfold get
  rw [toList_downloadPath, partition_append noMark]
  simp only [routeFileId_of_fixture fixture, Option.map_some, kbText, noDisposition, downloadTexts,
    number, Option.getD_some, Option.getD_none]

/-- What `selective_fetch` describes can be downloaded as described if and only if
all identifiers are Latin-1. -/
theorem describesDownloads_iff [Hashlib] {body : SelectiveFetchRequest}
    {response : SelectiveFetchResponse} (accepted : selectiveFetch body = .ok response) :
    DescribesDownloads body response ↔ ∀ fileId ∈ body.fileIds, Latin1 fileId := by
  obtain ⟨fixtures, nodup, rfl⟩ := selectiveFetch_eq_ok_iff.mp accepted
  have names : (described body).files.map (·.fileId) = body.fileIds := by
    have same : (fun f : FetchedFile => f.fileId) ∘ describeFile body.kbPerFile = id := rfl
    rw [described, List.map_map, same, List.map_id]
  have small : body.kbPerFile ≤ maxFileKb := body.size.2.trans (by decide)
  have served (fileId : String) (mem : fileId ∈ body.fileIds) :=
    fileDownload_cases (fixtures fileId mem).1 ⟨body.size.1, small⟩
  have path (fileId : String) (mem : fileId ∈ body.fileIds) :=
    get_downloadPath (fixtures fileId mem) body.size.2
  constructor
  · intro describes fileId mem
    obtain ⟨download, gets, _⟩ := describes.downloads (describeFile body.kbPerFile fileId)
      (List.mem_map_of_mem mem)
    rcases served fileId mem with ⟨latin1, _⟩ | ⟨_, fails⟩
    · exact latin1
    · have gets := (path fileId mem).symm.trans gets
      rw [fails] at gets
      cases gets
  · intro latin1
    refine ⟨names, names.symm ▸ nodup, ?_, ?_⟩
    · simp only [described, List.length_map]
    · intro f among
      obtain ⟨fileId, mem, rfl⟩ := List.mem_map.mp among
      rcases served fileId mem with ⟨_, download, serves, content⟩ | ⟨other, _⟩
      · refine ⟨download, ?_, content, ?_, ?_⟩
        · exact (path fileId mem).trans (congrArg some serves)
        · rw [content]
          rfl
        · rw [content, length_makeFileBytes]
      · exact absurd (latin1 fileId mem) other

/-! ### Requests -/

/-- Two files, one of them with a superscript for its number. -/
def fetchSuperscript : SelectiveFetchRequest where
  fileIds := ["fixture-1", "fixture-²"]
  kbPerFile := 1
  count := by decide
  size := by decide

/-- A file with an Arabic digit for its number. -/
def fetchArabic : SelectiveFetchRequest where
  fileIds := ["fixture-٣"]
  kbPerFile := 1
  count := by decide
  size := by decide

/-- The SHA-256 digests of the files of the two requests. -/
@[reducible] def fetchDigests : Hashlib :=
  ⟨fun data =>
    if data = makeFileBytes "fixture-1" 1 then
      "34ece91b3d50ffd737edc9c2a318741cc7cdd65f79cd82a129f9ba6904a5eba3"
    else if data = makeFileBytes "fixture-²" 1 then
      "cdcc71d9a7d6a513de238cf5c3f9af57143b0da0b6c33219dd3578a801edc4b0"
    else if data = makeFileBytes "fixture-1" 1 ++ makeFileBytes "fixture-²" 1 then
      "073b0ccccdb8ef98935a5c3be37c5f557302464f73679966a81119b68147ed22"
    else if data = makeFileBytes "fixture-٣" 1 then
      "535ca6ae823c2644db496bd3308bc7175bf440067ec4019c8b968ad9df102d57"
    else ""⟩

theorem fixtures_of_valid {fileIds : List String}
    (valid : (fileIds.all fun fileId => (validateFileId fileId true).isOk) = true) :
    ∀ fileId ∈ fileIds, FixtureId fileId := by
  intro fileId mem
  refine validateFileId_eq_ok_iff.mp ?_
  have ok := List.all_eq_true.mp valid fileId mem
  cases checked : validateFileId fileId true with
  | error e =>
      rw [checked] at ok
      cases ok
  | ok _ => rfl

theorem fetchSuperscript_describes :
    let _ := fetchDigests
    ∃ response, selectiveFetch fetchSuperscript = .ok response ∧
      DescribesDownloads fetchSuperscript response := by
  let _ := fetchDigests
  have fixtures : ∀ fileId ∈ fetchSuperscript.fileIds, FixtureId fileId :=
    fixtures_of_valid (by decide +kernel)
  have accepted : selectiveFetch fetchSuperscript = .ok (described fetchSuperscript) :=
    selectiveFetch_eq_ok_iff.mpr ⟨fixtures, by decide, rfl⟩
  have latin1 : ∀ fileId ∈ fetchSuperscript.fileIds, Latin1 fileId := by
    simp only [fetchSuperscript, List.forall_mem_cons]
    exact ⟨by decide, by decide⟩
  exact ⟨_, accepted, (describesDownloads_iff accepted).mpr latin1⟩

theorem fetchArabic_notDownloaded :
    ¬ ∀ (body : SelectiveFetchRequest) (response : SelectiveFetchResponse),
      @selectiveFetch fetchDigests body = .ok response →
        @DescribesDownloads fetchDigests body response := by
  let _ := fetchDigests
  intro describes
  have fixtures : ∀ fileId ∈ fetchArabic.fileIds, FixtureId fileId :=
    fixtures_of_valid (by decide +kernel)
  have accepted : selectiveFetch fetchArabic = .ok (described fetchArabic) :=
    selectiveFetch_eq_ok_iff.mpr ⟨fixtures, by decide, rfl⟩
  obtain ⟨download, gets, _⟩ := (describes fetchArabic _ accepted).downloads
    (describeFile 1 "fixture-٣") (List.mem_singleton.mpr rfl)
  have path : get (downloadPath "fixture-٣" 1) =
      some (fileDownload "fixture-٣" (1 : Nat) "attachment") :=
    get_downloadPath (fixtures "fixture-٣" (List.mem_singleton.mpr rfl)) (by decide)
  have served := @fileDownload_cases "fixture-٣" 1 (by decide) (by decide)
  have other : ¬ Latin1 "fixture-٣" := by
    decide
  rcases served with ⟨latin1, _⟩ | ⟨_, fails⟩
  · exact other latin1
  · have gets := path.symm.trans gets
    rw [fails] at gets
    cases gets

end PLoadtesting.TargetApps.PayloadApi
