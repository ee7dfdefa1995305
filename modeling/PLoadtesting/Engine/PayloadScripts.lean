import PLoadtesting.Engine.AuthScripts
import PLoadtesting.TargetApps.PayloadPacks

/-!
The k6 script `target_apps_payload_tar_selective_flow.js`.

The app keeps nothing, so an iteration is a computation of its checks. A number in a
query is written as a decimal text; FastAPI reads it back when it is a whole number.
-/

namespace PLoadtesting.Engine

open Keyed Python TargetApps TargetApps.PayloadApi

/-- What an iteration did: its checks, and whether an exception ended it. -/
structure Iteration where
  checks : List (String × Bool)
  completed : Bool

/-- All checks passed, and nothing was raised. -/
def Iteration.Passed (i : Iteration) : Prop := i.completed = true ∧ ∀ c ∈ i.checks, c.2 = true

/-! ### JavaScript -/

/-- `n >= x` for a whole number. -/
def atLeast (n : Nat) : Double → Bool
  | .finite q => q ≤ n
  | .inf negative => negative
  | .nan => false

/-- `n === x` for a whole number. -/
def equals (n : Nat) : Double → Bool
  | .finite q => q = n
  | _ => false

/-- `n > x` for a whole number. -/
def exceeds (n : Nat) : Double → Bool
  | .finite q => q < n
  | .inf negative => negative
  | .nan => false

/-- `x * 256`. -/
def times256 : Double → Double
  | .finite q => JavaScript.round (q * 256)
  | x => x

/-- `xs.slice(0, x)`. -/
def sliceTo {α : Type} (xs : List α) : Double → List α
  | .finite q =>
      let n := truncate q
      if n < 0 then xs.take (xs.length + n).toNat else xs.take n.toNat
  | .inf negative => if negative then [] else xs
  | .nan => []

/-! ### The script -/

/-- A query parameter that is a number. -/
def withNumbers {α : Type} (endpoint : Int → Int → Except Failure α) (x y : Double) :
    Except Failure α :=
  match integer? x, integer? y with
  | some m, some n => endpoint m n
  | _, _ => .error .validation

/-- `POST /api/files/selective-fetch`; the body validates when `SelectiveFetchRequest`
does. -/
def postSelectiveFetch [Hashlib] (fileIds : List String) (kbPerFile : Double) :
    Except Failure SelectiveFetchResponse :=
  match integer? kbPerFile with
  | none => .error .validation
  | some kb =>
      if valid : (1 ≤ fileIds.length ∧ fileIds.length ≤ maxSelectiveFetchCount) ∧
          1 ≤ kb.toNat ∧ kb.toNat ≤ maxArchiveKbPerFile then
        (selectiveFetch ⟨fileIds, kb.toNat, valid.1, valid.2⟩).mapError .refused
      else .error .validation

section Checks

variable (selectiveCount : Double)

/-- The checks of the manifest. -/
def manifestChecks : Except Failure FileManifest → List (String × Bool)
  | .ok manifest =>
      [("tar selective manifest status is 200", true),
        ("tar selective manifest has enough files", atLeast manifest.files.length selectiveCount)]
  | .error _ =>
      [("tar selective manifest status is 200", false),
        ("tar selective manifest has enough files", false)]

/-- The checks of the selective fetch. -/
def fetchChecks : Except Failure SelectiveFetchResponse → List (String × Bool)
  | .ok response =>
      [("selective fetch status is 200", true),
        ("selective fetch count matches", equals response.selectedCount selectiveCount),
        ("selective fetch checksum exists", response.combinedSha256Prefix.length = 16)]
  | .error _ =>
      [("selective fetch status is 200", false), ("selective fetch count matches", false),
        ("selective fetch checksum exists", false)]

/-- The checks of the TAR package; `refusalBytes` is the size of the body that FastAPI
writes for a refusal. -/
def tarChecks (refusalBytes : Failure → Nat) :
    Except Failure ArchiveResponse → List (String × Bool)
  | .ok tar =>
      [("tar package status is 200", true),
        ("tar package content-type is x-tar", tar.mediaType = "application/x-tar"),
        ("tar package has bytes",
          (tarBytes tar.members).any fun bytes => exceeds bytes.length (times256 selectiveCount))]
  | .error e =>
      [("tar package status is 200", false), ("tar package content-type is x-tar", false),
        ("tar package has bytes", exceeds (refusalBytes e) (times256 selectiveCount))]

end Checks

/-- An iteration of `target_apps_payload_tar_selective_flow.js`. Without a manifest,
`manifest.json('files').slice` raises. -/
def tarSelectiveFlow [Hashlib] (refusalBytes : Failure → Nat) (env : Dict String) : Iteration :=
  let packCount := envNumber env "PACK_COUNT" "5"
  let packKbPerFile := envNumber env "PACK_KB_PER_FILE" "10"
  let selectiveCount := envNumber env "SELECTIVE_COUNT" "3"
  match withNumbers fileManifest packCount packKbPerFile with
  | .error e => ⟨manifestChecks selectiveCount (.error e), false⟩
  | .ok manifest =>
      let selectedIds := (sliceTo manifest.files selectiveCount).map (·.fileId)
      let fileIds := if selectedIds = [] then none else some selectedIds
      { checks := manifestChecks selectiveCount (.ok manifest) ++
          fetchChecks selectiveCount (postSelectiveFetch selectedIds packKbPerFile) ++
          tarChecks selectiveCount refusalBytes
            (withNumbers (tarPackage · · fileIds) (.finite ((4 : Int) : Rat)) packKbPerFile)
        completed := true }

end PLoadtesting.Engine
