import PLoadtesting.Lib.Url
import PLoadtesting.TargetApps.Common

/-!
`payload_api.py`: filler of a given size, and the files of fixtures.

`selective_fetch` describes files and says where they can be downloaded,
`file_download` serves them. The first one takes identifiers that end in digits, of
any script; the second one takes any, and repeats it in two headers of the
response, which Starlette encodes in Latin-1. Requests are seen as the app sees
them, after percent-decoding.
-/

namespace PLoadtesting.TargetApps.PayloadApi

open Python Python.Url

def maxFileKb : Nat := 256
def maxFilenameLength : Nat := 64
def maxArchiveKbPerFile : Nat := 64
def maxSelectiveFetchCount : Nat := 8

/-! ### Filler -/

/-- `_make_download_text`. -/
def makeDownloadText (kb : Nat) : String :=
  let targetBytes := kb * 1024
  let chunk := times (encode "ploadtesting-payload-block-") 64
  String.ofList (decodeIgnore (cutTo chunk chunk.length targetBytes))

/-- `_make_file_bytes`. -/
def makeFileBytes (fileId : String) (kb : Nat) : List UInt8 :=
  let targetBytes := kb * 1024
  let chunk := times (encode ("ploadtesting-file|" ++ fileId ++ "|")) 128
  cutTo chunk chunk.length targetBytes

/-! ### Identifiers -/

/-- `_validate_file_id`. -/
def validateFileId (fileId : String) (requireFixturePrefix : Bool) : Except HTTPException Unit :=
  if fileId.length > maxFilenameLength then
    .error ⟨422, s!"file_id exceeds safe limit of {maxFilenameLength} characters."⟩
  else if requireFixturePrefix then
    if !"fixture-".toList.isPrefixOf fileId.toList then
      .error ⟨422, "file_id must start with fixture-."⟩
    else
      let (_, _, suffix) := partition '-' fileId.toList
      if !isDigitText suffix then .error ⟨422, "file_id must end with a numeric suffix."⟩
      else .ok ()
  else .ok ()

/-- The loop of `_validated_selective_file_ids`; `seen` holds what `deduped` does. -/
def dedupe (deduped : List String) : List String → Except HTTPException (List String)
  | [] => .ok deduped
  | fileId :: rest => do
      validateFileId fileId true
      if deduped.contains fileId then
        throw ⟨422, s!"duplicate file_id is not allowed: {fileId}."⟩
      dedupe (deduped ++ [fileId]) rest

/-- `_validated_selective_file_ids`. -/
def validatedSelectiveFileIds (fileIds : List String) : Except HTTPException (List String) :=
  if fileIds.length < 1 || fileIds.length > maxSelectiveFetchCount then
    .error ⟨422, s!"selected file count must be between 1 and {maxSelectiveFetchCount}."⟩
  else dedupe [] fileIds

/-! ### `selective_fetch` -/

/-- `SelectiveFetchRequest`. -/
structure SelectiveFetchRequest where
  fileIds : List String
  kbPerFile : Nat := 12
  count : 1 ≤ fileIds.length ∧ fileIds.length ≤ maxSelectiveFetchCount
  size : 1 ≤ kbPerFile ∧ kbPerFile ≤ maxArchiveKbPerFile

structure FixtureMetadata where
  fileId : String
  filename : String
  sizeKb : Nat

/-- `_fixture_pack_metadata`. -/
def fixturePackMetadata (fileIds : List String) (kbPerFile : Nat) : List FixtureMetadata :=
  fileIds.map fun fileId => ⟨fileId, fileId ++ ".bin", kbPerFile⟩

/-- An item of `files`. -/
structure FetchedFile extends FixtureMetadata where
  sha256Prefix : String
  downloadPath : String

structure SelectiveFetchResponse where
  selectedCount : Nat
  kbPerFile : Nat
  totalBytes : Nat
  combinedSha256Prefix : String
  files : List FetchedFile

/-- The local variables of the loop; `combined` is what was hashed. -/
structure Fetching where
  combined : List UInt8 := []
  totalBytes : Nat := 0
  files : List FetchedFile := []

/-- `f"/api/files/{file_id}?kb={kb_per_file}"`. -/
def downloadPath (fileId : String) (kb : Nat) : String :=
  "/api/files/" ++ fileId ++ "?kb=" ++ toString kb

/-- The body of the loop. -/
def Fetching.next [Hashlib] (kbPerFile : Nat) (l : Fetching) (fixture : FixtureMetadata) :
    Fetching :=
  let payload := makeFileBytes fixture.fileId kbPerFile
  { combined := l.combined ++ payload
    totalBytes := l.totalBytes + payload.length
    files := l.files ++
      [{ fixture with
          sha256Prefix := sha256Prefix payload
          downloadPath := downloadPath fixture.fileId kbPerFile }] }

/-- `selective_fetch`. -/
def selectiveFetch [Hashlib] (body : SelectiveFetchRequest) :
    Except HTTPException SelectiveFetchResponse := do
  let selectedFileIds ← validatedSelectiveFileIds body.fileIds
  let fetched := (fixturePackMetadata selectedFileIds body.kbPerFile).foldl
    (Fetching.next body.kbPerFile) {}
  return {
    selectedCount := selectedFileIds.length
    kbPerFile := body.kbPerFile
    totalBytes := fetched.totalBytes
    combinedSha256Prefix := sha256Prefix fetched.combined
    files := fetched.files }

/-! ### `file_download` -/

/-- Why no file is served. -/
inductive Failure where
  | refused (error : HTTPException)
  /-- A parameter is not what FastAPI expects. -/
  | validation
  /-- A header is not Latin-1. -/
  | unicodeEncodeError
  deriving DecidableEq

structure FileResponse where
  content : List UInt8
  mediaType : String
  headers : List (String × List UInt8)

/-- `Response.init_headers`, for one header. -/
def encodeHeader (header : String × String) : Except Failure (String × List UInt8) :=
  match encodeLatin1 header.2 with
  | none => .error .unicodeEncodeError
  | some value => .ok (header.1, value)

/-- The headers of a file. -/
def downloadHeaders (fileId : String) (kb : Int) (disposition : String) :
    List (String × String) :=
  [("Content-Disposition", disposition ++ "; filename=\"" ++ fileId ++ ".bin\""),
    ("X-File-KB", toString kb), ("X-File-Id", fileId)]

/-- `file_download`. -/
def fileDownload (fileId : String) (kb : Int) (disposition : String) :
    Except Failure FileResponse := do
  if !between 1 maxFileKb kb || (disposition ≠ "attachment" && disposition ≠ "inline") then
    throw .validation
  (validateFileId fileId false).mapError .refused
  let payload := makeFileBytes fileId kb.toNat
  let headers ← (downloadHeaders fileId kb disposition).mapM encodeHeader
  return { content := payload, mediaType := "application/octet-stream", headers }

/-- The other endpoints for a `GET` under `/api/files/`, which are declared before
`file_download`. -/
def fileRoutes : List String :=
  ["manifest", "fixture-pack", "archive", "read-many", "tar-package"]

/-- The `file_id` of a path that `file_download` serves. -/
def routeFileId (path : List Char) : Option String :=
  if "/api/files/".toList.isPrefixOf path then
    let fileId := String.ofList (path.drop "/api/files/".length)
    if fileId = "" || fileId.contains '/' || fileRoutes.contains fileId then none else some fileId
  else none

/-- The last value of a query parameter. -/
def queryParam (name : String) (query : List Char) : Option String :=
  ((splitOn '&' query).map (partition '=')).reverse.findSome? fun (key, _, value) =>
    if String.ofList key = name then some (String.ofList value) else none

/-- `file_download`, from the texts of its parameters. -/
def downloadTexts (fileId : String) (kb disposition : Option String) :
    Except Failure FileResponse :=
  match (kb.map parseInt).getD (some 32) with
  | none => .error .validation
  | some kb => fileDownload fileId kb (disposition.getD "attachment")

/-- `GET` of a target that `file_download` serves; `none` for other targets. -/
def get (target : String) : Option (Except Failure FileResponse) :=
  let (path, _, query) := partition '?' target.toList
  (routeFileId path).map fun fileId =>
    downloadTexts fileId (queryParam "kb" query) (queryParam "disposition" query)

end PLoadtesting.TargetApps.PayloadApi
