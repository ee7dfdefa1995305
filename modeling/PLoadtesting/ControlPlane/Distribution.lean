import PLoadtesting.Lib.Python

/-!
Manual sharding (`apps/tasks/distribution.py`): validation of a requested
distribution, and the shard execution plan stored with a task.

The plan builder subscripts whatever it is given. It succeeds exactly on a
`PlanShaped` value (`buildShardExecutionPlan_ok_iff`), and validation only
returns such values (`validateDistribution_planShaped`).
-/

namespace PLoadtesting.ControlPlane

open Keyed Python

def supportedDistributionModes : List String := ["manual_shards"]

def supportedResultMergePolicies : List String := ["summary_only"]

def supportedDatasetFormats : List String := ["csv", "jsonl", "json"]

def safeDatasetSourcePrefixes : List String := ["artifact://", "inline://"]

/-- `{"distribution": {field: message}}`. -/
def distributionError (field message : String) : Exc :=
  .validationError (.obj [("distribution", .obj [(field, .str message)])])

/-- `shards[index]` and a path below it. -/
def shardField (index : Nat) (path : String) : String :=
  "shards[" ++ toString index ++ "]" ++ path

/-- A string with a character that is not white space. -/
def nonEmptyStr? : Json → Option String
  | .str s => if strip s = "" then none else some s
  | _ => none

/-- `_integer_value`. -/
def integerValue (value : Json) (field : String) : Except Exc Int :=
  match value with
  | .null | .bool _ => .error (distributionError field "Must be an integer.")
  | value =>
      match value.toInt with
      | .error (.typeError _) | .error (.valueError _) =>
          .error (distributionError field "Must be an integer.")
      | result => result

/-- `_normalize_dataset`. -/
def normalizeDataset (dataset : Json) (index : Nat) : Except Exc Json :=
  match dataset.asDict? with
  | none => .error (distributionError (shardField index ".dataset") "Dataset must be an object.")
  | some dataset =>
      match nonEmptyStr? ((dataset.get? "source").getD .null) with
      | none =>
          .error (distributionError (shardField index ".dataset.source")
            "Must be a non-empty string.")
      | some source => do
          require (safeDatasetSourcePrefixes.any fun p => p.toList.isPrefixOf source.toList)
            (distributionError (shardField index ".dataset.source")
              "Must start with artifact:// or inline://.")
          let format := (dataset.get? "format").getD .null
          format.requireIn supportedDatasetFormats
            (distributionError (shardField index ".dataset.format") "Use csv, jsonl, or json.")
          let offset ← integerValue ((dataset.get? "offset").getD .null)
            (shardField index ".dataset.offset")
          require (decide (0 ≤ offset))
            (distributionError (shardField index ".dataset.offset")
              "Must be greater than or equal to 0.")
          let limit ← integerValue ((dataset.get? "limit").getD .null)
            (shardField index ".dataset.limit")
          require (decide (0 < limit))
            (distributionError (shardField index ".dataset.limit") "Must be greater than 0.")
          return .obj [("source", .str source), ("format", format), ("offset", .int offset),
            ("limit", .int limit)]

/-- `_normalize_agent_selector`. -/
def normalizeAgentSelector (agentSelector : Json) (index : Nat) : Except Exc Json :=
  match agentSelector, agentSelector.asDict? with
  | .null, _ => .ok (.obj [("labels", .arr [])])
  | _, none =>
      .error (distributionError (shardField index ".agent_selector") "Must be an object.")
  | _, some agentSelector =>
      match (agentSelector.get? "labels").getD (.arr []) with
      | .arr labels =>
          if labels.all (· matches .str _) then .ok (.obj [("labels", .arr labels)])
          else .error (distributionError (shardField index ".agent_selector.labels")
            "All labels must be strings.")
      | _ => .error (distributionError (shardField index ".agent_selector.labels")
          "Must be a string array.")

/-- `_normalize_shard`, with the shard's id. -/
def normalizeShard (shard : Json) (index : Nat) : Except Exc (String × Json) :=
  match shard.asDict? with
  | none => .error (distributionError (shardField index "") "Shard must be an object.")
  | some shard =>
      match nonEmptyStr? ((shard.get? "shard_id").getD .null) with
      | none =>
          .error (distributionError (shardField index ".shard_id") "Must be a non-empty string.")
      | some shardId => do
          let selector ← normalizeAgentSelector ((shard.get? "agent_selector").getD .null) index
          let dataset ← normalizeDataset ((shard.get? "dataset").getD .null) index
          return (shardId, .obj [("shard_id", .str shardId), ("agent_selector", selector),
            ("dataset", dataset)])

/-- The loop over the shards from `index` on, after the ids in `seenShardIds`. -/
def normalizeShards : List Json → Nat → List String → Except Exc (List Json)
  | [], _, _ => .ok []
  | shard :: shards, index, seenShardIds => do
      let (shardId, normalized) ← normalizeShard shard index
      require (!seenShardIds.contains shardId)
        (distributionError "shard_id" ("Duplicate shard_id: " ++ shardId ++ "."))
      return normalized :: (← normalizeShards shards (index + 1) (shardId :: seenShardIds))

/-- `distribution.get("shards")` when that is a non-empty list. -/
def shardList? (distribution : Dict Json) : Option (List Json) :=
  match distribution.get? "shards" with
  | some (.arr (shard :: shards)) => some (shard :: shards)
  | _ => none

/-- The checks on an object, in the order of the source. -/
def validateDistributionFields (distribution : Dict Json) : Except Exc Json := do
  let mode := (distribution.get? "mode").getD .null
  mode.requireIn supportedDistributionModes
    (distributionError "mode" "MVP supports only manual_shards.")
  let resultMergePolicy := (distribution.get? "result_merge_policy").getD (.str "summary_only")
  resultMergePolicy.requireIn supportedResultMergePolicies
    (distributionError "result_merge_policy" "MVP supports only summary_only.")
  match shardList? distribution with
  | none => .error (distributionError "shards" "Must contain at least one shard.")
  | some shards => do
      let normalizedShards ← normalizeShards shards 0 []
      return .obj [("mode", mode), ("result_merge_policy", resultMergePolicy),
        ("shards", .arr normalizedShards)]

def validateDistribution (distribution : Json) : Except Exc (Option Json) :=
  match distribution, distribution.asDict? with
  | .null, _ => .ok none
  | _, none =>
      .error (.validationError (.obj [("distribution", .str "Distribution must be an object.")]))
  | _, some distribution => (validateDistributionFields distribution).map some

/-! ### The stored plan -/

def buildResultAggregationContract (shardCount : Nat) : Json :=
  .obj [("policy", .str "summary_only"), ("shard_count", .int shardCount),
    ("completed_shards", .int 0), ("failed_shards", .int 0), ("total_requests", .int 0),
    ("total_errors", .int 0), ("per_shard", .arr [])]

/-- What the plan takes over from the task. -/
structure PlanSubject where
  taskId : String
  engine : String
  scriptPath : String
  targetUrl : String
  targetAppId : Option String
  targetProfileId : Option String

/-- An optional string: `None` is null. -/
def optionalStr : Option String → Json
  | none => .null
  | some s => .str s

/-- One entry of the plan's shard list. -/
def shardEntry (subject : PlanSubject) (execution shard : Json) : Except Exc Json := do
  let shardId ← shard.getItem "shard_id"
  let agentSelector ← shard.getItem "agent_selector"
  let dataset ← shard.getItem "dataset"
  return .obj [("shard_id", shardId), ("task_id", .str subject.taskId),
    ("target_app_id", optionalStr subject.targetAppId),
    ("target_profile_id", optionalStr subject.targetProfileId), ("engine", .str subject.engine),
    ("script_path", .str subject.scriptPath), ("target_url", .str subject.targetUrl),
    ("agent_selector", agentSelector), ("dataset", dataset), ("execution", execution.orEmpty)]

def buildShardExecutionPlan (subject : PlanSubject) (distribution execution : Json) :
    Except Exc Json := do
  let shardCount ← (← distribution.getItem "shards").len
  let mode ← distribution.getItem "mode"
  let resultMergePolicy ← distribution.getItem "result_merge_policy"
  let shards ← (← (← distribution.getItem "shards").elements).mapM (shardEntry subject execution)
  return .obj [("task_id", .str subject.taskId),
    ("distribution", .obj [("mode", mode), ("result_merge_policy", resultMergePolicy),
      ("shard_count", .int shardCount)]),
    ("shards", .arr shards),
    ("result_aggregation", buildResultAggregationContract shardCount)]

/-! ### The values a plan can be built from -/

/-- An object with the keys. -/
def HasKeys (keys : List String) (j : Json) : Prop :=
  ∃ d, j.asDict? = some d ∧ ∀ k ∈ keys, d.contains k = true

/-- A collection of shards the plan builder can go through: the entries of a
list carry the three keys it reads; other collections are empty. -/
def ShardsShaped : Json → Prop
  | .arr shards => ∀ shard ∈ shards, HasKeys ["shard_id", "agent_selector", "dataset"] shard
  | .str s => s = ""
  | .obj items => items = []
  | _ => False

/-- A distribution the plan builder does not fail on. -/
def PlanShaped (distribution : Json) : Prop :=
  HasKeys ["mode", "result_merge_policy"] distribution ∧
    ∃ shards, distribution.getItem "shards" = .ok shards ∧ ShardsShaped shards

theorem getItem_ok_iff {j : Json} {k : String} {v : Json} :
    j.getItem k = .ok v ↔ ∃ d, j.asDict? = some d ∧ d.get? k = some v := by
  cases j with
  | obj items =>
      simp only [Json.getItem, Json.asDict?, Option.some.injEq, exists_eq_left']
      cases (Dict.ofItems items).get? k with
      | none => simp
      | some w => simp
  | _ => simp [Json.getItem, Json.asDict?]

/-- Subscripting with all the keys succeeds on an object that has them. -/
theorem hasKeys_iff {keys : List String} (nonempty : keys ≠ []) {j : Json} :
    HasKeys keys j ↔ ∀ k ∈ keys, ∃ v, j.getItem k = .ok v := by
  simp only [getItem_ok_iff]
  constructor
  · rintro ⟨d, object, has⟩ k hk
    obtain ⟨v, hv⟩ := Option.isSome_iff_exists.mp (has k hk)
    exact ⟨v, d, object, hv⟩
  · intro h
    obtain ⟨k, hk⟩ := List.exists_mem_of_ne_nil keys nonempty
    obtain ⟨_, d, object, _⟩ := h k hk
    refine ⟨d, object, ?_⟩
    intro k' hk'
    obtain ⟨v, d', object', hv⟩ := h k' hk'
    cases object.symm.trans object'
    exact Option.isSome_iff_exists.mpr ⟨v, hv⟩

theorem shardEntry_ok_iff {subject : PlanSubject} {execution shard : Json} :
    (∃ e, shardEntry subject execution shard = .ok e) ↔
      HasKeys ["shard_id", "agent_selector", "dataset"] shard := by
  rw [hasKeys_iff (by simp)]
  simp only [shardEntry, bind_ok_iff, List.forall_mem_cons, List.not_mem_nil, false_imp_iff,
    implies_true, and_true]
  constructor
  · rintro ⟨_, a, ha, b, hb, c, hc, _⟩
    exact ⟨⟨a, ha⟩, ⟨b, hb⟩, ⟨c, hc⟩⟩
  · rintro ⟨⟨a, ha⟩, ⟨b, hb⟩, ⟨c, hc⟩⟩
    exact ⟨_, a, ha, b, hb, c, hc, rfl⟩

/-- The builder goes through a collection of shards if and only if it is shaped:
the characters of a string and the keys of an object have no subscripts. -/
theorem shardsShaped_iff {subject : PlanSubject} {execution shards : Json} :
    ShardsShaped shards ↔ (∃ n, shards.len = .ok n) ∧
      ∃ xs, shards.elements = .ok xs ∧
        ∃ entries, xs.mapM (shardEntry subject execution) = .ok entries := by
  have notShaped : ∀ s, ¬ HasKeys ["shard_id", "agent_selector", "dataset"] (.str s) := by
    rintro s ⟨d, object, _⟩
    cases object
  cases shards with
  | arr xs =>
      simp only [ShardsShaped, Json.len, Json.elements, exists_mapM_ok_iff, shardEntry_ok_iff,
        Except.ok.injEq, exists_eq', exists_eq_left', true_and]
  | str s =>
      simp only [ShardsShaped, Json.len, Json.elements, exists_mapM_ok_iff, shardEntry_ok_iff,
        Except.ok.injEq, exists_eq', exists_eq_left', true_and, List.forall_mem_map, notShaped]
      rw [← List.eq_nil_iff_forall_not_mem, String.toList_eq_nil_iff]
  | obj items =>
      simp only [ShardsShaped, Json.len, Json.elements, exists_mapM_ok_iff, shardEntry_ok_iff,
        Except.ok.injEq, exists_eq', exists_eq_left', true_and, List.forall_mem_map, notShaped]
      rw [← List.eq_nil_iff_forall_not_mem, Dict.ofItems_rows_eq_nil_iff]
  | _ => simp [ShardsShaped, Json.len]

theorem buildShardExecutionPlan_ok_iff {subject : PlanSubject} {distribution execution : Json} :
    (∃ plan, buildShardExecutionPlan subject distribution execution = .ok plan) ↔
      PlanShaped distribution := by
  unfold PlanShaped
  rw [hasKeys_iff (by simp)]
  simp only [buildShardExecutionPlan, bind_ok_iff, List.forall_mem_cons, List.not_mem_nil,
    false_imp_iff, implies_true, and_true]
  constructor
  · rintro ⟨_, shards, found, n, hn, mode, hmode, policy, hpolicy, shards', found', xs, hxs,
      entries, built, _⟩
    cases found.symm.trans found'
    exact ⟨⟨⟨mode, hmode⟩, ⟨policy, hpolicy⟩⟩, shards, found,
      shardsShaped_iff.mpr ⟨⟨n, hn⟩, xs, hxs, entries, built⟩⟩
  · rintro ⟨⟨⟨mode, hmode⟩, ⟨policy, hpolicy⟩⟩, shards, found, shaped⟩
    obtain ⟨⟨n, hn⟩, xs, hxs, entries, built⟩ := shardsShaped_iff.mp shaped
    exact ⟨_, shards, found, n, hn, mode, hmode, policy, hpolicy, shards, found, xs, hxs, entries,
      built, rfl⟩

/-! ### Validated distributions -/

theorem normalizeShard_hasKeys {shard normalized : Json} {index : Nat} {shardId : String}
    (h : normalizeShard shard index = .ok (shardId, normalized)) :
    HasKeys ["shard_id", "agent_selector", "dataset"] normalized := by
  unfold normalizeShard at h
  split at h
  · cases h
  · split at h
    · cases h
    · obtain ⟨selector, _, h⟩ := bind_ok_iff.mp h
      obtain ⟨dataset, _, h⟩ := bind_ok_iff.mp h
      cases h
      exact ⟨_, rfl, by simp [Dict.contains, Dict.get?_ofItems]⟩

theorem normalizeShards_hasKeys {shards normalized : List Json} {index : Nat} {seen : List String}
    (h : normalizeShards shards index seen = .ok normalized) :
    ∀ shard ∈ normalized, HasKeys ["shard_id", "agent_selector", "dataset"] shard := by
  induction shards generalizing index seen normalized with
  | nil =>
      cases h
      exact fun _ mem => absurd mem List.not_mem_nil
  | cons shard shards ih =>
      obtain ⟨⟨shardId, first⟩, checked, h⟩ := bind_ok_iff.mp h
      obtain ⟨_, _, h⟩ := bind_ok_iff.mp h
      obtain ⟨rest, checkedRest, h⟩ := bind_ok_iff.mp h
      cases h
      exact List.forall_mem_cons.mpr ⟨normalizeShard_hasKeys checked, ih checkedRest⟩

theorem validateDistributionFields_planShaped {distribution : Dict Json} {validated : Json}
    (h : validateDistributionFields distribution = .ok validated) : PlanShaped validated := by
  obtain ⟨_, _, h⟩ := bind_ok_iff.mp h
  obtain ⟨_, _, h⟩ := bind_ok_iff.mp h
  split at h
  · cases h
  · obtain ⟨shards, checked, h⟩ := bind_ok_iff.mp h
    cases h
    refine ⟨⟨_, rfl, by simp [Dict.contains, Dict.get?_ofItems]⟩, .arr shards, ?_, ?_⟩
    · simp [Json.getItem, Dict.get?_ofItems]
    · exact normalizeShards_hasKeys checked

/-- Nothing is validated only when nothing was given. -/
theorem validateDistribution_none_iff {distribution : Json} :
    validateDistribution distribution = .ok none ↔ distribution = .null := by
  unfold validateDistribution
  constructor
  · intro h
    split at h
    · rfl
    · cases h
    · obtain ⟨_, _, eq⟩ := map_ok_iff.mp h
      cases eq
  · rintro rfl
    rfl

/-- A plan can be built from every validated distribution. -/
theorem validateDistribution_planShaped {distribution validated : Json}
    (h : validateDistribution distribution = .ok (some validated)) : PlanShaped validated := by
  unfold validateDistribution at h
  split at h
  · cases h
  · cases h
  · obtain ⟨_, checked, eq⟩ := map_ok_iff.mp h
    cases eq
    exact validateDistributionFields_planShaped checked

end PLoadtesting.ControlPlane
