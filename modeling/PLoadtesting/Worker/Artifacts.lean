import PLoadtesting.Lib.Python
import Mathlib.Data.List.Sort

/-!
The artifact manifest that a worker attaches to a result (`workers/artifacts.py`).

Building it never fails. The SHA-256 digest is the parameter `Hashing`; sizes and
the canonical JSON text whose digest the raw report gets are written out.
-/

namespace PLoadtesting.Worker

open Keyed Python

/-- `hashlib.sha256(…).hexdigest()` of a text in UTF-8. -/
class Hashing where
  sha256 : String → String

/-! ### Canonical JSON text -/

/-- `\uXXXX` escapes of a character: one, or a surrogate pair. -/
def unicodeEscape (c : Char) : String :=
  let n := codePoint c
  if n < 0x10000 then "\\u" ++ Json.hexPadded 4 n
  else
    let offset := n - 0x10000
    "\\u" ++ Json.hexPadded 4 (0xd800 + offset / 0x400) ++ "\\u"
      ++ Json.hexPadded 4 (0xdc00 + offset % 0x400)

def jsonChar (c : Char) : String :=
  if c = '"' then "\\\"" else if c = '\\' then "\\\\"
  else if c = '\n' then "\\n" else if c = '\r' then "\\r" else if c = '\t' then "\\t"
  else if c.val.toNat = 8 then "\\b" else if c.val.toNat = 12 then "\\f"
  else if 0x20 ≤ c.val.toNat ∧ c.val.toNat ≤ 0x7e then c.toString
  else unicodeEscape c

def jsonString (s : String) : String :=
  "\"" ++ String.join (s.toList.map jsonChar) ++ "\""

section Text

variable [Runtime]

def jsonFloat : Double → String
  | .finite q => Runtime.floatRepr q
  | .inf negative => if negative then "-Infinity" else "Infinity"
  | .nan => "NaN"

mutual

/-- `json.dumps(value, sort_keys=True, separators=(",", ":"), ensure_ascii=True)`. -/
def stableJson : Json → String
  | .null => "null"
  | .bool b => if b then "true" else "false"
  | .int i => toString i
  | .float x => jsonFloat x
  | .str s => jsonString s
  | .arr xs => "[" ++ ",".intercalate (stableJsons xs) ++ "]"
  | .obj items =>
      let members := (Dict.ofItems (stableItems items)).rows.insertionSort fun p q => p.1 ≤ q.1
      "\x7b" ++ ",".intercalate (members.map fun p => jsonString p.1 ++ ":" ++ p.2) ++ "\x7d"

def stableJsons : List Json → List String
  | [] => []
  | x :: xs => stableJson x :: stableJsons xs

def stableItems : List (String × Json) → List (String × String)
  | [] => []
  | (k, v) :: rest => (k, stableJson v) :: stableItems rest

end

end Text

/-! ### Entries -/

/-- The size and the checksum of a text; both are null without one. -/
def computeSafeArtifactFingerprint [Hashing] : Json → Json × Json
  | .str s =>
      if s = "" then (.null, .null)
      else (.int s.utf8ByteSize, .str (Hashing.sha256 s))
  | _ => (.null, .null)

/-- `_artifact_entry`. -/
def artifactEntry [Hashing] (taskId artifactId kind name contentType : String) (available : Bool)
    (fingerprintSource : Json) : Json :=
  let (sizeBytes, checksum) :=
    if available then computeSafeArtifactFingerprint fingerprintSource else (.null, .null)
  .obj [("artifact_id", .str artifactId), ("kind", .str kind), ("name", .str name),
    ("state", .str (if available then "available" else "planned")), ("size_bytes", sizeBytes),
    ("content_type", .str contentType),
    ("object_ref",
      if available then .str ("artifact://tasks/" ++ taskId ++ "/" ++ artifactId) else .null),
    ("storage_backend", .str "worker_output"), ("checksum_sha256", checksum),
    ("provenance_source", .str "worker_output"), ("metadata", .obj [])]

/-- `value not in (None, "")`. -/
def isGiven : Json → Bool
  | .null => false
  | .str s => s ≠ ""
  | _ => true

/-- `build_artifact_manifest_entries`, for the text of the task id. -/
def buildArtifactManifestEntries [Runtime] [Hashing] (taskId : String) (engine : Json)
    (result : Dict Json) : List Json :=
  let rawReport := ((result.get? "raw_report").getD .null).dictOrEmpty
  let artifactEvidence := ((result.get? "artifact_evidence").getD .null).dictOrEmpty
  let stdout := (rawReport.get? "stdout").getD .null
  let stderr := (rawReport.get? "stderr").getD .null
  let hasRawOutput := !rawReport.rows.isEmpty
  let hasEvidence (key : String) : Bool := ((artifactEvidence.get? key).getD .null).truthy
  let engineOutput (artifactId : String) : Json :=
    artifactEntry taskId artifactId "engine_output" "raw-report.json" "application/json"
      hasRawOutput (if hasRawOutput then .str (stableJson (dictJson rawReport)) else .null)
  if engine.eqStr "k6" then
    [artifactEntry taskId "k6-summary-json" "summary_json" "summary.json" "application/json"
        (hasEvidence "has_summary_json") .null,
      artifactEntry taskId "k6-stdout" "stdout" "stdout.txt" "text/plain" (isGiven stdout) stdout,
      artifactEntry taskId "k6-stderr" "stderr" "stderr.txt" "text/plain" (isGiven stderr) stderr,
      engineOutput "k6-engine-output"]
  else if engine.eqStr "jmeter" then
    [artifactEntry taskId "jmeter-jtl" "jtl" "results.jtl" "text/csv" (hasEvidence "has_jtl") .null,
      artifactEntry taskId "jmeter-html-report" "html_report" "report.html" "text/html"
        (hasEvidence "has_html_report") .null,
      artifactEntry taskId "jmeter-stdout" "stdout" "stdout.txt" "text/plain" (isGiven stdout)
        stdout,
      artifactEntry taskId "jmeter-stderr" "stderr" "stderr.txt" "text/plain" (isGiven stderr)
        stderr,
      engineOutput "jmeter-engine-output"]
  else [engineOutput "engine-output"]

def buildArtifactManifest [Runtime] [Hashing] (taskId : String) (engine : Json)
    (result : Dict Json) : Json :=
  .obj [("artifact_manifest_version", .str "1.0"),
    ("items", .arr (buildArtifactManifestEntries taskId engine result))]

/-- `attach_artifact_manifest`. -/
def attachArtifactManifest [Runtime] [Hashing] (taskId : String) (engine : Json)
    (summary : Dict Json) (artifactEvidence : List (String × Json)) : Dict Json :=
  summary.set "artifact_manifest"
    (buildArtifactManifest taskId engine (summary.set "artifact_evidence" (.obj artifactEvidence)))

end PLoadtesting.Worker
