import PLoadtesting.ControlPlane.ArtifactContract

/-!
The object references that are accepted (`validate_object_ref` in
`apps/tasks/artifact_contract.py`).

The documentation gives three forms. The code takes a reference apart with a URL
parser instead, which drops blanks and line breaks, takes a scheme without `//`
and in any case, and looks at the first two segments of a path only
(`validateGivenObjectRef_ok_iff`). `acceptsExactly_iff` says for which
references and ids the two agree.
-/

namespace PLoadtesting.ControlPlane

open Keyed Python

/-! ### The accepted references -/

/-- The text is one segment of a path. -/
def IsSegment (text : String) : Prop := ∀ c ∈ text.toList, c ∉ ['/', '?', '#']

/-- Slashes, the two ids, and what follows them. -/
def idPath (slashes : Nat) (taskId artifactId : String) (more : List Char) : List Char :=
  List.replicate slashes '/' ++ (taskId.toList ++ '/' :: (artifactId.toList ++ more))

/-- What follows the scheme leads to the artifact, with any number of slashes in
front and with anything after a delimiter. -/
structure LeadsTo (taskId artifactId : String) (rest : List Char) : Prop where
  named : taskId ≠ ""
  task : IsSegment taskId
  artifact : IsSegment artifactId
  path : ∃ slashes more, rest = "//tasks".toList ++ idPath (slashes + 1) taskId artifactId more ∧
    ∀ c ∈ more.head?, c ∈ ['/', '?', '#']

/-- The schemes of references to storage. -/
def storageSchemes : List String := ["object", "external"]

/-- The references that the code accepts. -/
def IsAccepted [Runtime] (objectRef taskId artifactId : String) : Prop :=
  occursIn ".." objectRef = false ∧
    ((∃ scheme ∈ storageSchemes, ∃ rest,
        Url.HasScheme scheme.toList (Url.cleaned objectRef) rest ∧ Url.authorityOk rest = true) ∨
      ∃ rest, Url.HasScheme "artifact".toList (Url.cleaned objectRef) rest ∧
        LeadsTo taskId artifactId rest)

theorem validateArtifactPath_ok_iff {parts : List String} {taskId artifactId : String} {u : Unit} :
    validateArtifactPath parts taskId artifactId = .ok u ↔
      ∃ others, parts = taskId :: artifactId :: others := by
  unfold validateArtifactPath
  split
  · rename_i task artifact others
    simp only [bind_ok_iff, require_ok_iff, decide_eq_true_eq, exists_const, List.cons.injEq]
    constructor
    · rintro ⟨rfl, rfl⟩
      exact ⟨others, rfl, rfl, rfl⟩
    · rintro ⟨_, rfl, rfl, _⟩
      exact ⟨rfl, rfl⟩
  · rename_i short
    refine iff_of_false nofun ?_
    rintro ⟨others, same⟩
    exact short _ _ _ same

/-- The checks of the code, one by one. -/
theorem validateGivenObjectRef_eq_ok_iff [Runtime] {objectRef taskId artifactId : String}
    {accepted : Option String} :
    validateGivenObjectRef objectRef taskId artifactId = .ok accepted ↔
      accepted = some objectRef ∧ occursIn ".." objectRef = false ∧
        (∀ part ∈ ["/", "../", "./"], startsWith part objectRef = false) ∧
        ∃ parsed, Url.urlsplit objectRef = .ok parsed ∧ parsed.scheme ∈ allowedObjectRefSchemes ∧
          (parsed.scheme = "artifact" → parsed.netloc = "tasks" ∧
            ∃ others, pathParts parsed.path = taskId :: artifactId :: others) := by
  unfold validateGivenObjectRef
  constructor
  · intro returned
    obtain ⟨_, noDots, returned⟩ := bind_ok_iff.mp returned
    obtain ⟨_, notLocal, returned⟩ := bind_ok_iff.mp returned
    obtain ⟨parsed, split, returned⟩ := bind_ok_iff.mp returned
    obtain ⟨_, allowed, returned⟩ := bind_ok_iff.mp returned
    obtain ⟨_, _, returned⟩ := bind_ok_iff.mp returned
    have noDots : occursIn ".." objectRef = false := by simpa using require_ok_iff.mp noDots
    have notLocal : ∀ part ∈ ["/", "../", "./"], startsWith part objectRef = false := by
      simpa [and_assoc] using require_ok_iff.mp notLocal
    have allowed := List.contains_iff_mem.mp (require_ok_iff.mp allowed)
    by_cases isArtifact : parsed.scheme = "artifact"
    · rw [if_pos isArtifact] at returned
      obtain ⟨_, tasks, returned⟩ := bind_ok_iff.mp returned
      obtain ⟨_, path, returned⟩ := bind_ok_iff.mp returned
      cases returned
      exact ⟨rfl, noDots, notLocal, parsed, split, allowed, fun _ =>
        ⟨of_decide_eq_true (require_ok_iff.mp tasks), validateArtifactPath_ok_iff.mp path⟩⟩
    · rw [if_neg isArtifact] at returned
      cases returned
      exact ⟨rfl, noDots, notLocal, parsed, split, allowed, fun same => absurd same isArtifact⟩
  · rintro ⟨rfl, noDots, notLocal, parsed, split, allowed, artifact⟩
    have notLocal : (!(startsWith "/" objectRef || startsWith "../" objectRef ||
        startsWith "./" objectRef)) = true := by
      simpa [and_assoc] using notLocal
    have notFile : parsed.scheme ≠ "file" := by
      intro isFile
      rw [isFile] at allowed
      exact absurd allowed (by decide)
    refine bind_ok_iff.mpr ⟨(), require_ok_iff.mpr (by simp [noDots]), ?_⟩
    refine bind_ok_iff.mpr ⟨(), require_ok_iff.mpr notLocal, ?_⟩
    refine bind_ok_iff.mpr ⟨parsed, split, ?_⟩
    refine bind_ok_iff.mpr ⟨(), require_ok_iff.mpr (List.contains_iff_mem.mpr allowed), ?_⟩
    refine bind_ok_iff.mpr ⟨(), require_ok_iff.mpr (decide_eq_true notFile), ?_⟩
    by_cases isArtifact : parsed.scheme = "artifact"
    · obtain ⟨tasks, path⟩ := artifact isArtifact
      rw [if_pos isArtifact]
      exact bind_ok_iff.mpr ⟨(), require_ok_iff.mpr (decide_eq_true tasks),
        bind_ok_iff.mpr ⟨(), validateArtifactPath_ok_iff.mpr path, rfl⟩⟩
    · rw [if_neg isArtifact]
      rfl

section Paths

variable {taskId artifactId : String}

theorem isSegment_iff {text : String} : IsSegment text ↔
    '/' ∉ text.toList ∧ ∀ c ∈ text.toList, decide (c ≠ '?' ∧ c ≠ '#') = true := by
  unfold IsSegment
  simp only [List.mem_cons, List.not_mem_nil, or_false, not_or, decide_eq_true_eq]
  constructor
  · intro plain
    exact ⟨fun mem => (plain '/' mem).1 rfl, fun c mem => (plain c mem).2⟩
  · rintro ⟨noSlash, plain⟩ c mem
    exact ⟨fun slash => noSlash (slash ▸ mem), plain c mem⟩

/-- The head of a text that does not start with a slash. -/
theorem ne_slash_of_head? {text : String} (named : text ≠ "") (noSlash : '/' ∉ text.toList)
    (rest : List Char) : ∀ c ∈ (text.toList ++ rest).head?, decide (c = '/') = false := by
  cases chars : text.toList with
  | nil => exact absurd (String.toList_eq_nil_iff.mp chars) named
  | cons first others =>
      rintro c ⟨⟩
      refine decide_eq_false fun slash => noSlash ?_
      rw [chars, ← slash]
      exact List.mem_cons_self

/-- Query and fragment are cut off behind the ids. -/
theorem pathOf_idPath (task : IsSegment taskId) (artifact : IsSegment artifactId) (slashes : Nat)
    (more : List Char) : Url.pathOf (idPath slashes taskId artifactId more) =
      idPath slashes taskId artifactId (more.takeWhile fun c => decide (c ≠ '?' ∧ c ≠ '#')) := by
  have plain : ∀ c ∈ List.replicate slashes '/' ++ (taskId.toList ++ '/' :: artifactId.toList),
      decide (c ≠ '?' ∧ c ≠ '#') = true := by
    intro c mem
    rw [List.mem_append, List.mem_append, List.mem_cons] at mem
    rcases mem with slash | inTask | rfl | inArtifact
    · rw [List.eq_of_mem_replicate slash]
      rfl
    · exact (isSegment_iff.mp task).2 c inTask
    · rfl
    · exact (isSegment_iff.mp artifact).2 c inArtifact
  have regroup (more : List Char) : idPath slashes taskId artifactId more =
      (List.replicate slashes '/' ++ (taskId.toList ++ '/' :: artifactId.toList)) ++ more := by
    simp [idPath]
  rw [Url.pathOf_eq, regroup, regroup, List.takeWhile_append_of_pos plain]

/-- The slashes in front are cut off. -/
theorem dropWhile_idPath (named : taskId ≠ "") (noSlash : '/' ∉ taskId.toList) (slashes : Nat)
    (more : List Char) : (idPath slashes taskId artifactId more).dropWhile (· = '/') =
      taskId.toList ++ '/' :: (artifactId.toList ++ more) :=
  (Url.takeWhile_eq_and_dropWhile_eq_iff.mpr ⟨rfl,
    fun _ mem => decide_eq_true (List.eq_of_mem_replicate mem),
    ne_slash_of_head? named noSlash _⟩).2

theorem tasks_plain : ∀ c ∈ "tasks".toList, c ∉ ['/', '?', '#', '[', ']'] := by
  have checked : "tasks".toList.all (fun c => !(['/', '?', '#', '[', ']'].contains c)) = true := by
    decide
  intro c mem inside
  have outside := List.all_eq_true.mp checked c mem
  rw [List.contains_iff_mem.mpr inside] at outside
  cases outside

theorem splitOn_of_leadsTo {rest : List Char} (leads : LeadsTo taskId artifactId rest) :
    ∃ tail, Url.netlocAndRest rest = .ok ("tasks".toList, tail) ∧
      ∃ others, Url.splitOn '/' ((Url.pathOf tail).dropWhile (· = '/')) =
        taskId.toList :: artifactId.toList :: others := by
  obtain ⟨named, task, artifact, slashes, more, rfl, stop⟩ := leads
  have taskSlash := (isSegment_iff.mp task).1
  have artifactSlash := (isSegment_iff.mp artifact).1
  refine ⟨_, (Url.netlocAndRest_eq_iff (by decide) tasks_plain).mpr ⟨rfl, ?_⟩, ?_⟩
  · rintro c ⟨⟩
    exact List.mem_cons_self
  · rw [pathOf_idPath task artifact, dropWhile_idPath named taskSlash]
    refine Url.exists_splitOn_eq_iff.mpr ⟨_, rfl, taskSlash, artifactSlash, ?_⟩
    intro c first
    cases more with
    | nil => cases first
    | cons next others =>
        rw [List.takeWhile_cons] at first
        split at first
        · rename_i inPath
          cases first
          have delimiter := stop c rfl
          have inPath := of_decide_eq_true inPath
          simpa [inPath] using delimiter
        · cases first

theorem leadsTo_of_splitOn {rest tail : List Char}
    (located : Url.netlocAndRest rest = .ok ("tasks".toList, tail))
    {others : List (List Char)} (split : Url.splitOn '/' ((Url.pathOf tail).dropWhile (· = '/')) =
      taskId.toList :: artifactId.toList :: others) : LeadsTo taskId artifactId rest := by
  obtain ⟨rfl, stop⟩ := (Url.netlocAndRest_eq_iff (by decide) tasks_plain).mp located
  obtain ⟨more, ids, taskSlash, artifactSlash, moreStop⟩ :=
    Url.exists_splitOn_eq_iff.mp ⟨others, split⟩
  obtain ⟨cut, slashes, first⟩ := Url.takeWhile_eq_and_dropWhile_eq_iff.mp ⟨rfl, ids⟩
  obtain ⟨suffix, isTail, plain, suffixStop⟩ := Url.takeWhile_eq_iff.mp (Url.pathOf_eq tail).symm
  have path : ∃ n, Url.pathOf tail = idPath n taskId artifactId more := by
    rw [List.eq_replicate_of_mem fun c mem => of_decide_eq_true (slashes c mem)] at cut
    exact ⟨_, cut⟩
  obtain ⟨n, path⟩ := path
  rw [path] at isTail plain
  have named : taskId ≠ "" := by
    rintro rfl
    cases first '/' rfl
  have task : IsSegment taskId := by
    refine isSegment_iff.mpr ⟨taskSlash, fun c mem => plain c ?_⟩
    simp [idPath, mem]
  have artifact : IsSegment artifactId := by
    refine isSegment_iff.mpr ⟨artifactSlash, fun c mem => plain c ?_⟩
    simp [idPath, mem]
  have regroup : idPath n taskId artifactId more ++ suffix =
      idPath n taskId artifactId (more ++ suffix) := by
    simp [idPath]
  rw [regroup] at isTail
  cases n with
  | zero =>
      -- The location ends at a delimiter, which no id contains.
      obtain ⟨c, others, chars⟩ := List.exists_cons_of_ne_nil
        (String.toList_eq_nil_iff.not.mpr named)
      refine absurd (stop c ?_) (task c (chars ▸ List.mem_cons_self))
      rw [isTail, idPath, chars]
      rfl
  | succ slashes =>
      refine ⟨named, task, artifact, slashes, more ++ suffix, by rw [isTail]; rfl, ?_⟩
      intro c head
      cases more with
      | nil =>
          have atSuffix : ¬(c ≠ '?' ∧ c ≠ '#') := of_decide_eq_false (suffixStop c head)
          rw [not_and_or, not_not, not_not] at atSuffix
          rcases atSuffix with rfl | rfl <;> simp
      | cons next others =>
          cases head
          rw [moreStop c rfl]
          exact List.mem_cons_self

end Paths

/-! ### The accepted set -/

section Accepted

variable {objectRef taskId artifactId : String}

/-- A reference with a scheme is not a local path. -/
theorem not_local_of_hasScheme {scheme rest : List Char} (named : scheme ≠ [])
    (letters : ∀ c ∈ scheme, c.isLower = true)
    (hasScheme : Url.HasScheme scheme (Url.cleaned objectRef) rest) :
    ∀ part ∈ ["/", "../", "./"], startsWith part objectRef = false := by
  have opens {c : Char} {more : List Char} (chars : objectRef.toList = c :: more)
      (visible : 32 < c.val.toNat) : c.isAlpha = true := by
    obtain ⟨head, isRef, rfl⟩ := hasScheme
    have chars' : objectRef.toList = [c] ++ more := chars
    have front := Url.cleaned_append chars' (List.cons_ne_nil _ _) (by simpa using visible)
    rw [front] at isRef
    cases head with
    | nil => exact absurd rfl named
    | cons first others =>
        cases (List.cons.inj isRef).1
        exact Url.isAlpha_of_isLower_toLower (letters _ List.mem_cons_self)
  have closed {part : String} {c : Char} {others : List Char} (chars : part.toList = c :: others)
      (visible : 32 < c.val.toNat) (other : c.isAlpha = false) :
      startsWith part objectRef = false := by
    refine Bool.eq_false_iff.mpr fun starts => ?_
    obtain ⟨more, isRef⟩ := List.isPrefixOf_iff_prefix.mp starts
    rw [chars] at isRef
    rw [opens isRef.symm visible] at other
    cases other
  simp only [List.mem_cons, List.not_mem_nil, or_false]
  rintro part (rfl | rfl | rfl)
  · exact closed (c := '/') rfl (by decide) (by decide)
  · exact closed (c := '.') rfl (by decide) (by decide)
  · exact closed (c := '.') rfl (by decide) (by decide)

/-- The allowed schemes are small letters. -/
theorem allowedSchemes_letters {scheme : String} (allowed : scheme ∈ allowedObjectRefSchemes) :
    scheme.toList ≠ [] ∧ ∀ c ∈ scheme.toList, c.isLower = true := by
  have checked : allowedObjectRefSchemes.all
      (fun scheme => !scheme.toList.isEmpty && scheme.toList.all Char.isLower) = true := by decide
  have here := List.all_eq_true.mp checked scheme allowed
  rw [Bool.and_eq_true] at here
  exact ⟨by simpa using here.1, List.all_eq_true.mp here.2⟩

theorem hasScheme_iff {scheme : String} (allowed : scheme ∈ allowedObjectRefSchemes)
    {rest : List Char} : Url.HasScheme scheme.toList (Url.cleaned objectRef) rest ↔
      Url.splitScheme (Url.cleaned objectRef) = (scheme.toList, rest) := by
  obtain ⟨named, letters⟩ := allowedSchemes_letters allowed
  exact (Url.splitScheme_eq_iff named letters).symm

theorem allowed_of_storage {scheme : String} (storage : scheme ∈ storageSchemes) :
    scheme ∈ allowedObjectRefSchemes :=
  List.mem_cons_of_mem _ storage

theorem artifact_not_storage : "artifact" ∉ storageSchemes := by decide

/-- A reference has one scheme only. -/
theorem hasScheme_unique {scheme scheme' : String} {rest rest' : List Char}
    (allowed : scheme ∈ allowedObjectRefSchemes) (allowed' : scheme' ∈ allowedObjectRefSchemes)
    (here : Url.HasScheme scheme.toList (Url.cleaned objectRef) rest)
    (there : Url.HasScheme scheme'.toList (Url.cleaned objectRef) rest') :
    scheme = scheme' ∧ rest = rest' := by
  have same := ((hasScheme_iff allowed).mp here).symm.trans ((hasScheme_iff allowed').mp there)
  exact ⟨String.toList_inj.mp (Prod.mk.inj same).1, (Prod.mk.inj same).2⟩

/-- No reference to storage is one to an artifact. -/
theorem not_hasScheme_artifact {scheme : String} {rest rest' : List Char}
    (storage : scheme ∈ storageSchemes)
    (hasScheme : Url.HasScheme scheme.toList (Url.cleaned objectRef) rest) :
    ¬ Url.HasScheme "artifact".toList (Url.cleaned objectRef) rest' := by
  intro isArtifact
  obtain ⟨rfl, _⟩ :=
    hasScheme_unique (allowed_of_storage storage) List.mem_cons_self hasScheme isArtifact
  exact artifact_not_storage storage

/-- The first two parts of a path are the ids. -/
theorem exists_pathParts_eq_iff {path : List Char} :
    (∃ others, pathParts (String.ofList path) = taskId :: artifactId :: others) ↔
      ∃ others, Url.splitOn '/' (path.dropWhile (· = '/')) =
        taskId.toList :: artifactId.toList :: others := by
  unfold pathParts
  rw [String.toList_ofList]
  constructor
  · rintro ⟨others, parts⟩
    obtain ⟨task, segments, split, isTask, parts'⟩ := List.map_eq_cons_iff.mp parts
    obtain ⟨artifact, segments', rfl, isArtifact, _⟩ := List.map_eq_cons_iff.mp parts'
    exact ⟨segments', by rw [split, ← isTask, ← isArtifact, String.toList_ofList,
      String.toList_ofList]⟩
  · rintro ⟨others, split⟩
    rw [split, List.map_cons, List.map_cons, String.ofList_toList, String.ofList_toList]
    exact ⟨_, rfl⟩

variable [Runtime]

theorem authorityOk_iff {rest : List Char} : Url.authorityOk rest = true ↔
    ∃ netloc tail, Url.netlocAndRest rest = .ok (netloc, tail) ∧ Url.netlocOk netloc = true := by
  unfold Url.authorityOk
  cases Url.netlocAndRest rest with
  | error e => simp
  | ok parts =>
      obtain ⟨netloc, tail⟩ := parts
      simp

/-- The parts of a reference with an allowed scheme. -/
theorem urlsplit_of_hasScheme {scheme : String} {rest netloc tail : List Char}
    (allowed : scheme ∈ allowedObjectRefSchemes)
    (hasScheme : Url.HasScheme scheme.toList (Url.cleaned objectRef) rest)
    (located : Url.netlocAndRest rest = .ok (netloc, tail))
    (wellFormed : Url.netlocOk netloc = true) :
    ∃ parsed, Url.urlsplit objectRef = .ok parsed ∧ parsed.scheme = scheme ∧
      parsed.netloc = String.ofList netloc ∧ parsed.path = String.ofList (Url.pathOf tail) := by
  have isSplit := (hasScheme_iff allowed).mp hasScheme
  refine ⟨_, Url.urlsplit_ok_iff.mpr ⟨netloc, tail, ?_, wellFormed, rfl⟩, ?_, rfl, rfl⟩
  · rw [isSplit]
    exact located
  · rw [isSplit, String.ofList_toList]

/-- What the code accepts. -/
theorem isAccepted_of_ok {accepted : Option String}
    (returned : validateGivenObjectRef objectRef taskId artifactId = .ok accepted) :
    IsAccepted objectRef taskId artifactId := by
  obtain ⟨_, noDots, _, parsed, split, allowed, path⟩ :=
    validateGivenObjectRef_eq_ok_iff.mp returned
  obtain ⟨netloc, tail, located, wellFormed, rfl⟩ := Url.urlsplit_ok_iff.mp split
  rcases isSplit : Url.splitScheme (Url.cleaned objectRef) with ⟨name, rest⟩
  simp only [isSplit] at located allowed path
  have hasScheme : Url.HasScheme (String.ofList name).toList (Url.cleaned objectRef) rest :=
    (hasScheme_iff allowed).mpr (by rw [isSplit, String.toList_ofList])
  refine ⟨noDots, ?_⟩
  by_cases isArtifact : String.ofList name = "artifact"
  · obtain ⟨tasks, parts⟩ := path isArtifact
    obtain ⟨others, ids⟩ := exists_pathParts_eq_iff.mp parts
    have isTasks : netloc = "tasks".toList := by rw [← tasks, String.toList_ofList]
    rw [isArtifact] at hasScheme
    rw [isTasks] at located
    exact .inr ⟨rest, hasScheme, leadsTo_of_splitOn located ids⟩
  · have storage : String.ofList name ∈ storageSchemes :=
      (List.mem_cons.mp allowed).resolve_left isArtifact
    exact .inl ⟨_, storage, rest, hasScheme, authorityOk_iff.mpr ⟨_, _, located, wellFormed⟩⟩

/-- A reference with an allowed scheme is accepted if its parts are. -/
theorem ok_of_hasScheme {scheme : String} {rest netloc tail : List Char}
    (noDots : occursIn ".." objectRef = false) (allowed : scheme ∈ allowedObjectRefSchemes)
    (hasScheme : Url.HasScheme scheme.toList (Url.cleaned objectRef) rest)
    (located : Url.netlocAndRest rest = .ok (netloc, tail))
    (wellFormed : Url.netlocOk netloc = true)
    (path : scheme = "artifact" → netloc = "tasks".toList ∧
      ∃ others, pathParts (String.ofList (Url.pathOf tail)) = taskId :: artifactId :: others) :
    validateGivenObjectRef objectRef taskId artifactId = .ok (some objectRef) := by
  obtain ⟨named, letters⟩ := allowedSchemes_letters allowed
  obtain ⟨parsed, split, isScheme, isNetloc, isPath⟩ :=
    urlsplit_of_hasScheme allowed hasScheme located wellFormed
  refine validateGivenObjectRef_eq_ok_iff.mpr ⟨rfl, noDots,
    not_local_of_hasScheme named letters hasScheme, parsed, split, isScheme ▸ allowed, ?_⟩
  intro isArtifact
  obtain ⟨tasks, parts⟩ := path (isScheme ▸ isArtifact)
  rw [isNetloc, isPath, tasks]
  exact ⟨String.ofList_toList, parts⟩

theorem validateGivenObjectRef_ok_iff :
    (∃ accepted, validateGivenObjectRef objectRef taskId artifactId = .ok accepted) ↔
      IsAccepted objectRef taskId artifactId := by
  constructor
  · rintro ⟨accepted, returned⟩
    exact isAccepted_of_ok returned
  · rintro ⟨noDots, ⟨scheme, storage, rest, hasScheme, authority⟩ | ⟨rest, hasScheme, leads⟩⟩
    · obtain ⟨netloc, tail, located, wellFormed⟩ := authorityOk_iff.mp authority
      have allowed := allowed_of_storage storage
      refine ⟨_, ok_of_hasScheme noDots allowed hasScheme located wellFormed ?_⟩
      rintro rfl
      exact absurd storage artifact_not_storage
    · obtain ⟨tail, located, others, ids⟩ := splitOn_of_leadsTo leads
      exact ⟨_, ok_of_hasScheme noDots List.mem_cons_self hasScheme located rfl fun _ =>
        ⟨rfl, exists_pathParts_eq_iff.mpr ⟨others, ids⟩⟩⟩

end Accepted

/-! ### The documented references -/

/-- The forms that the documentation gives. -/
def IsDocumented (objectRef taskId artifactId : String) : Prop :=
  objectRef = artifactRef taskId artifactId ∨
    ∃ scheme ∈ storageSchemes, startsWith (scheme ++ "://") objectRef = true ∧
      occursIn ".." objectRef = false

/-- An id that a URL parser gives back: one segment, without tabs and line
breaks. -/
def IsPlainId (text : String) : Prop :=
  ∀ c ∈ text.toList, c ∉ ['/', '?', '#', '\t', '\r', '\n']

/-- The reference is accepted as documented: the task's own reference has ids
that the parser gives back, a reference to storage is written with `//` just if
its location is well formed, and no other text leads to the artifact. -/
structure FollowsGrammar [Runtime] (objectRef taskId artifactId : String) : Prop where
  own : objectRef = artifactRef taskId artifactId →
    occursIn ".." objectRef = false ∧ taskId ≠ "" ∧ IsPlainId taskId ∧ IsPlainId artifactId
  storage : occursIn ".." objectRef = false → ∀ scheme ∈ storageSchemes, ∀ rest,
    Url.HasScheme scheme.toList (Url.cleaned objectRef) rest →
      (startsWith (scheme ++ "://") objectRef = true ↔ Url.authorityOk rest = true)
  artifact : occursIn ".." objectRef = false → ∀ rest,
    Url.HasScheme "artifact".toList (Url.cleaned objectRef) rest →
      LeadsTo taskId artifactId rest → objectRef = artifactRef taskId artifactId

section Documented

variable {objectRef taskId artifactId : String}

theorem cleaned_artifactRef : Url.cleaned (artifactRef taskId artifactId) =
    "artifact://tasks/".toList ++ (taskId.toList ++ '/' :: artifactId.toList).filter
      fun c => c ≠ '\t' ∧ c ≠ '\r' ∧ c ≠ '\n' := by
  have visible : "artifact://tasks/".toList.all (fun c => decide (32 < c.val.toNat)) = true := by
    decide
  exact Url.cleaned_append toList_artifactRef (by decide)
    fun c mem => of_decide_eq_true (List.all_eq_true.mp visible c mem)

theorem splitScheme_artifactRef : Url.splitScheme (Url.cleaned (artifactRef taskId artifactId)) =
    ("artifact".toList, "//tasks/".toList ++ (taskId.toList ++ '/' :: artifactId.toList).filter
      fun c => c ≠ '\t' ∧ c ≠ '\r' ∧ c ≠ '\n') := by
  rw [cleaned_artifactRef]
  rfl

theorem isPlainId_iff {text : String} : IsPlainId text ↔
    IsSegment text ∧ ∀ c ∈ text.toList, decide (c ≠ '\t' ∧ c ≠ '\r' ∧ c ≠ '\n') = true := by
  unfold IsPlainId IsSegment
  simp only [List.mem_cons, List.not_mem_nil, or_false, not_or, decide_eq_true_eq]
  constructor
  · intro plain
    exact ⟨fun c mem => ⟨(plain c mem).1, (plain c mem).2.1, (plain c mem).2.2.1⟩,
      fun c mem => (plain c mem).2.2.2⟩
  · rintro ⟨segment, kept⟩ c mem
    exact ⟨(segment c mem).1, (segment c mem).2.1, (segment c mem).2.2, kept c mem⟩

/-- A reference that is written with the scheme of a storage has it. -/
theorem hasScheme_of_startsWith {scheme : String} (storage : scheme ∈ storageSchemes)
    (starts : startsWith (scheme ++ "://") objectRef = true) :
    ∃ rest, Url.HasScheme scheme.toList (Url.cleaned objectRef) rest := by
  have checked : storageSchemes.all (fun scheme =>
      (scheme ++ "://").toList.all (fun c => decide (32 < c.val.toNat)) &&
        scheme.toList.map Char.toLower == scheme.toList) = true := by decide
  have here := List.all_eq_true.mp checked scheme storage
  rw [Bool.and_eq_true] at here
  obtain ⟨visible, lower⟩ := here
  obtain ⟨more, chars⟩ := List.isPrefixOf_iff_prefix.mp starts
  have cleaned := Url.cleaned_append chars.symm (by simp)
    fun c mem => of_decide_eq_true (List.all_eq_true.mp visible c mem)
  rw [cleaned, String.toList_append, List.append_assoc]
  exact ⟨_, scheme.toList, rfl, eq_of_beq lower⟩

/-- The parser drops no character of ids that it finds again. -/
theorem idChars_kept {rest : List Char} (leads : LeadsTo taskId artifactId rest)
    (isRest : "//tasks/".toList ++ (taskId.toList ++ '/' :: artifactId.toList).filter
      (fun c => c ≠ '\t' ∧ c ≠ '\r' ∧ c ≠ '\n') = rest) :
    ∀ c ∈ taskId.toList ++ artifactId.toList,
      decide (c ≠ '\t' ∧ c ≠ '\r' ∧ c ≠ '\n') = true := by
  obtain ⟨slashes, more, path, _⟩ := leads.path
  intro c mem
  have inRest : c ∈ rest := by
    rw [path, idPath]
    simp only [List.mem_append, List.mem_cons] at mem ⊢
    exact .inr (.inr (mem.imp id fun inArtifact => .inr (.inl inArtifact)))
  rw [← isRest, List.mem_append] at inRest
  rcases inRest with inFront | inIds
  · have checked : "//tasks/".toList.all
        (fun c => decide (c ≠ '\t' ∧ c ≠ '\r' ∧ c ≠ '\n')) = true := by decide
    exact List.all_eq_true.mp checked c inFront
  · exact (List.mem_filter.mp inIds).2

variable [Runtime]

/-- When the task's own reference is accepted. -/
theorem isAccepted_artifactRef_iff :
    IsAccepted (artifactRef taskId artifactId) taskId artifactId ↔
      occursIn ".." (artifactRef taskId artifactId) = false ∧ taskId ≠ "" ∧ IsPlainId taskId ∧
        IsPlainId artifactId := by
  refine and_congr_right fun _ => ?_
  constructor
  · rintro (⟨scheme, storage, rest, hasScheme, _⟩ | ⟨rest, hasScheme, leads⟩)
    · have isSplit := (hasScheme_iff (allowed_of_storage storage)).mp hasScheme
      rw [splitScheme_artifactRef] at isSplit
      have isArtifact := String.toList_inj.mp (Prod.mk.inj isSplit).1
      exact absurd (isArtifact ▸ storage) artifact_not_storage
    · have isSplit := (hasScheme_iff List.mem_cons_self).mp hasScheme
      rw [splitScheme_artifactRef] at isSplit
      have kept := idChars_kept leads (Prod.mk.inj isSplit).2
      exact ⟨leads.named,
        isPlainId_iff.mpr ⟨leads.task, fun c mem => kept c (List.mem_append_left _ mem)⟩,
        isPlainId_iff.mpr ⟨leads.artifact, fun c mem => kept c (List.mem_append_right _ mem)⟩⟩
  · rintro ⟨named, task, artifact⟩
    obtain ⟨task, taskKept⟩ := isPlainId_iff.mp task
    obtain ⟨artifact, artifactKept⟩ := isPlainId_iff.mp artifact
    refine .inr ⟨_, (hasScheme_iff List.mem_cons_self).mpr splitScheme_artifactRef, named, task,
      artifact, 0, [], ?_, nofun⟩
    rw [List.filter_eq_self.mpr, idPath, List.append_nil]
    · rfl
    · intro c mem
      rw [List.mem_append, List.mem_cons] at mem
      rcases mem with inTask | rfl | inArtifact
      · exact taskKept c inTask
      · rfl
      · exact artifactKept c inArtifact

/-- The grammar is needed where the accepted and the documented references agree. -/
theorem followsGrammar_of_agree
    (agree : IsAccepted objectRef taskId artifactId ↔ IsDocumented objectRef taskId artifactId) :
    FollowsGrammar objectRef taskId artifactId where
  own := by
    rintro rfl
    exact isAccepted_artifactRef_iff.mp (agree.mpr (.inl rfl))
  storage := by
    intro noDots scheme storage rest hasScheme
    constructor
    · intro starts
      obtain ⟨_, ⟨scheme', storage', rest', hasScheme', authority⟩ | ⟨rest', hasScheme', _⟩⟩ :=
        agree.mpr (.inr ⟨scheme, storage, starts, noDots⟩)
      · obtain ⟨rfl, rfl⟩ := hasScheme_unique (allowed_of_storage storage)
          (allowed_of_storage storage') hasScheme hasScheme'
        exact authority
      · exact absurd hasScheme' (not_hasScheme_artifact storage hasScheme)
    · intro authority
      rcases agree.mp ⟨noDots, .inl ⟨scheme, storage, rest, hasScheme, authority⟩⟩ with
        own | ⟨scheme', storage', starts, _⟩
      · subst own
        exact absurd ((hasScheme_iff List.mem_cons_self).mpr splitScheme_artifactRef)
          (not_hasScheme_artifact storage hasScheme)
      · obtain ⟨rest', hasScheme'⟩ := hasScheme_of_startsWith storage' starts
        obtain ⟨rfl, _⟩ := hasScheme_unique (allowed_of_storage storage)
          (allowed_of_storage storage') hasScheme hasScheme'
        exact starts
  artifact := by
    intro noDots rest hasScheme leads
    rcases agree.mp ⟨noDots, .inr ⟨rest, hasScheme, leads⟩⟩ with
      own | ⟨scheme', storage', starts, _⟩
    · exact own
    · obtain ⟨rest', hasScheme'⟩ := hasScheme_of_startsWith storage' starts
      exact absurd hasScheme (not_hasScheme_artifact storage' hasScheme')

theorem isAccepted_iff_isDocumented :
    (IsAccepted objectRef taskId artifactId ↔ IsDocumented objectRef taskId artifactId) ↔
      FollowsGrammar objectRef taskId artifactId := by
  refine ⟨followsGrammar_of_agree, fun follows => ⟨?_, ?_⟩⟩
  · rintro ⟨noDots, ⟨scheme, storage, rest, hasScheme, authority⟩ | ⟨rest, hasScheme, leads⟩⟩
    · exact .inr ⟨scheme, storage,
        (follows.storage noDots scheme storage rest hasScheme).mpr authority, noDots⟩
    · exact .inl (follows.artifact noDots rest hasScheme leads)
  · rintro (own | ⟨scheme, storage, starts, noDots⟩)
    · have plain := follows.own own
      rw [own] at plain ⊢
      exact isAccepted_artifactRef_iff.mpr plain
    · obtain ⟨rest, hasScheme⟩ := hasScheme_of_startsWith storage starts
      exact ⟨noDots, .inl ⟨scheme, storage, rest, hasScheme,
        (follows.storage noDots scheme storage rest hasScheme).mp starts⟩⟩

theorem validateObjectRef_ok_iff (given : objectRef ≠ "") :
    (∃ accepted, validateObjectRef (some objectRef) taskId artifactId = .ok accepted) ↔
      IsAccepted objectRef taskId artifactId := by
  unfold validateObjectRef
  simp only [if_neg given]
  exact validateGivenObjectRef_ok_iff

/-- References are accepted exactly in the documented forms if and only if they
follow the grammar. -/
theorem acceptsExactly_iff (objectRef : Option String) (taskId artifactId : String) :
    ((∃ accepted, validateObjectRef objectRef taskId artifactId = .ok accepted) ↔
      objectRef = none ∨ objectRef = some "" ∨
        ∃ ref, objectRef = some ref ∧ IsDocumented ref taskId artifactId) ↔
      ∀ ref, objectRef = some ref → ref ≠ "" → FollowsGrammar ref taskId artifactId := by
  cases objectRef with
  | none =>
      refine iff_of_true (iff_of_true ⟨_, rfl⟩ (.inl rfl)) ?_
      rintro ref ⟨⟩
  | some ref =>
      by_cases empty : ref = ""
      · refine iff_of_true (iff_of_true ⟨none, if_pos empty⟩ (.inr (.inl (by rw [empty])))) ?_
        rintro _ ⟨⟩ given
        exact absurd empty given
      · rw [validateObjectRef_ok_iff empty]
        simp only [Option.some.injEq, reduceCtorEq, empty, false_or, exists_eq_left', forall_eq',
          ne_eq, not_false_eq_true, true_imp_iff]
        exact isAccepted_iff_isDocumented

end Documented

/-- A local path behind the scheme of a storage is accepted. -/
theorem localPath_accepted :
    ¬ ∀ (objectRef : Option String) (taskId artifactId : String),
      (∃ accepted, @validateObjectRef asciiRuntime objectRef taskId artifactId = .ok accepted) ↔
        objectRef = none ∨ objectRef = some "" ∨
          ∃ ref, objectRef = some ref ∧ IsDocumented ref taskId artifactId := by
  intro every
  rcases (every (some "object:/etc/passwd") "t" "a").mp ⟨_, rfl⟩ with
    none | empty | ⟨ref, given, documented⟩
  · cases none
  · exact absurd empty (by decide)
  · cases given
    rcases documented with own | ⟨scheme, storage, starts, _⟩
    · exact absurd own (by decide)
    · have checked : storageSchemes.all
          (fun scheme => !startsWith (scheme ++ "://") "object:/etc/passwd") = true := by decide
      have here := List.all_eq_true.mp checked scheme storage
      rw [starts] at here
      cases here

end PLoadtesting.ControlPlane
