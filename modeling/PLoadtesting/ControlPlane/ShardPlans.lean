import PLoadtesting.ControlPlane.CleanRejection

/-!
Manual sharding from the request to the plan (`validate_distribution` and
`build_shard_execution_plan` in `apps/tasks/distribution.py`).

A validated distribution is the JSON form of a `NormalDistribution`, whose
fields carry what validation guarantees: distinct ids that are not blank, safe
sources, allowed formats and bounds. Its shards are those of the request, one by
one (`Normalizes`). Validating it again gives it back
(`NormalDistribution.validate_json`), and the plan has one entry for each shard
(`NormalDistribution.buildPlan_json`).
-/

namespace PLoadtesting.ControlPlane

open Keyed Python Checks

/-! ### Normal forms -/

/-- A dataset that passed validation. -/
structure NormalDataset where
  source : String
  format : String
  offset : Int
  limit : Int
  source_given : nonEmptyStr? (.str source) = some source
  source_safe : (safeDatasetSourcePrefixes.any fun p => p.toList.isPrefixOf source.toList) = true
  format_mem : format ∈ supportedDatasetFormats
  offset_nonneg : 0 ≤ offset
  limit_pos : 0 < limit

def NormalDataset.json (dataset : NormalDataset) : Json :=
  .obj [("source", .str dataset.source), ("format", .str dataset.format),
    ("offset", .int dataset.offset), ("limit", .int dataset.limit)]

/-- The agent selector with the given labels. -/
def selectorJson (labels : List String) : Json := .obj [("labels", .arr (labels.map Json.str))]

/-- A shard that passed validation. -/
structure NormalShard where
  shardId : String
  labels : List String
  dataset : NormalDataset
  shardId_given : nonEmptyStr? (.str shardId) = some shardId

def NormalShard.json (shard : NormalShard) : Json :=
  .obj [("shard_id", .str shard.shardId), ("agent_selector", selectorJson shard.labels),
    ("dataset", shard.dataset.json)]

/-- A distribution that passed validation. -/
structure NormalDistribution where
  shards : List NormalShard
  nonempty : shards ≠ []
  ids_nodup : (shards.map NormalShard.shardId).Nodup

def NormalDistribution.json (distribution : NormalDistribution) : Json :=
  .obj [("mode", .str "manual_shards"), ("result_merge_policy", .str "summary_only"),
    ("shards", .arr (distribution.shards.map NormalShard.json))]

/-! ### From the request -/

/-- The labels that a selector asks for: none when it, or its list, is missing. -/
def requestedLabels (selector : Json) : Json :=
  match selector.asDict? with
  | some d => (d.get? "labels").getD (.arr [])
  | none => .arr []

/-- The normal shard says what the requested one says. -/
structure Normalizes (shard : Json) (normal : NormalShard) : Prop where
  shardId : objectField shard "shard_id" = .str normal.shardId
  labels : requestedLabels (objectField shard "agent_selector") = .arr (normal.labels.map .str)
  source : objectField (objectField shard "dataset") "source" = .str normal.dataset.source
  format : objectField (objectField shard "dataset") "format" = .str normal.dataset.format
  offset : readInt? (objectField (objectField shard "dataset") "offset") =
    some normal.dataset.offset
  limit : readInt? (objectField (objectField shard "dataset") "limit") = some normal.dataset.limit

theorem nonEmptyStr?_eq_some {value : Json} {s : String} (given : nonEmptyStr? value = some s) :
    value = .str s := by
  unfold nonEmptyStr? at given
  split at given
  · split at given
    · cases given
    · cases given
      rfl
  · cases given

/-- What an accepted dataset says. -/
theorem normalizeDataset_ok {dataset normalized : Json} {index : Nat}
    (accepted : normalizeDataset dataset index = .ok normalized) :
    ∃ normal : NormalDataset, normalized = normal.json ∧
      objectField dataset "source" = .str normal.source ∧
      objectField dataset "format" = .str normal.format ∧
      readInt? (objectField dataset "offset") = some normal.offset ∧
      readInt? (objectField dataset "limit") = some normal.limit := by
  unfold normalizeDataset at accepted
  split at accepted
  · cases accepted
  · rename_i d object
    split at accepted
    · cases accepted
    · rename_i source given
      obtain ⟨_, safe, accepted⟩ := bind_ok_iff.mp accepted
      obtain ⟨_, formatted, accepted⟩ := bind_ok_iff.mp accepted
      obtain ⟨offset, readOffset, accepted⟩ := bind_ok_iff.mp accepted
      obtain ⟨_, nonneg, accepted⟩ := bind_ok_iff.mp accepted
      obtain ⟨limit, readLimit, accepted⟩ := bind_ok_iff.mp accepted
      obtain ⟨_, positive, accepted⟩ := bind_ok_iff.mp accepted
      obtain ⟨format, format_mem, isFormat⟩ := Json.requireIn_ok formatted
      have isSource := nonEmptyStr?_eq_some given
      rw [isSource] at given
      have held := objectField_of_asDict? object
      cases accepted
      refine ⟨⟨source, format, offset, limit, given, require_ok_iff.mp safe, format_mem,
        of_decide_eq_true (require_ok_iff.mp nonneg),
        of_decide_eq_true (require_ok_iff.mp positive)⟩, ?_, ?_, ?_, ?_, ?_⟩
      · rw [isFormat]
        rfl
      · exact (held "source").trans isSource
      · exact (held "format").trans isFormat
      · rw [held]
        exact (makes_integerValue _ _).2 offset readOffset
      · rw [held]
        exact (makes_integerValue _ _).2 limit readLimit

theorem texts_of_all {labels : List Json} (texts : labels.all (· matches .str _) = true) :
    ∃ names : List String, labels = names.map Json.str := by
  induction labels with
  | nil => exact ⟨[], rfl⟩
  | cons label labels ih =>
      rw [List.all_cons, Bool.and_eq_true] at texts
      obtain ⟨names, rfl⟩ := ih texts.2
      cases label with
      | str name => exact ⟨name :: names, rfl⟩
      | _ => cases texts.1

/-- What an accepted selector says. -/
theorem normalizeAgentSelector_ok {selector normalized : Json} {index : Nat}
    (accepted : normalizeAgentSelector selector index = .ok normalized) :
    ∃ labels : List String, normalized = selectorJson labels ∧
      requestedLabels selector = .arr (labels.map .str) := by
  unfold normalizeAgentSelector at accepted
  split at accepted
  · cases accepted
    exact ⟨[], rfl, rfl⟩
  · cases accepted
  · rename_i d notNull object
    split at accepted
    · rename_i labels listed
      split at accepted
      · rename_i texts
        obtain ⟨names, rfl⟩ := texts_of_all texts
        cases accepted
        exact ⟨names, rfl, by rw [requestedLabels, object]; exact listed⟩
      · cases accepted
    · cases accepted

theorem normalizeShard_ok {shard normalized : Json} {index : Nat} {shardId : String}
    (accepted : normalizeShard shard index = .ok (shardId, normalized)) :
    ∃ normal : NormalShard, shardId = normal.shardId ∧ normalized = normal.json ∧
      Normalizes shard normal := by
  unfold normalizeShard at accepted
  split at accepted
  · cases accepted
  · rename_i d object
    split at accepted
    · cases accepted
    · rename_i name given
      obtain ⟨selector, selected, accepted⟩ := bind_ok_iff.mp accepted
      obtain ⟨dataset, checked, accepted⟩ := bind_ok_iff.mp accepted
      obtain ⟨labels, rfl, isLabels⟩ := normalizeAgentSelector_ok selected
      obtain ⟨normal, rfl, source, format, offset, limit⟩ := normalizeDataset_ok checked
      have isId := nonEmptyStr?_eq_some given
      rw [isId] at given
      have held := objectField_of_asDict? object
      cases accepted
      refine ⟨⟨shardId, labels, normal, given⟩, rfl, rfl, ?_⟩
      constructor
      · exact (held "shard_id").trans isId
      · rw [held]
        exact isLabels
      · rw [held]
        exact source
      · rw [held]
        exact format
      · rw [held]
        exact offset
      · rw [held]
        exact limit

theorem normalizeShards_ok {shards normalized : List Json} {index : Nat} {seen : List String}
    (accepted : normalizeShards shards index seen = .ok normalized) :
    ∃ normals : List NormalShard, normalized = normals.map NormalShard.json ∧
      List.Forall₂ Normalizes shards normals ∧ (normals.map NormalShard.shardId).Nodup ∧
      ∀ normal ∈ normals, normal.shardId ∉ seen := by
  induction shards generalizing index seen normalized with
  | nil =>
      cases accepted
      exact ⟨[], rfl, .nil, List.nodup_nil, fun _ mem => absurd mem List.not_mem_nil⟩
  | cons shard shards ih =>
      obtain ⟨⟨shardId, first⟩, checked, accepted⟩ := bind_ok_iff.mp accepted
      obtain ⟨_, fresh, accepted⟩ := bind_ok_iff.mp accepted
      obtain ⟨rest, checkedRest, accepted⟩ := bind_ok_iff.mp accepted
      obtain ⟨normal, rfl, rfl, here⟩ := normalizeShard_ok checked
      obtain ⟨normals, rfl, later, nodup, unseen⟩ := ih checkedRest
      have fresh : normal.shardId ∉ seen := by simpa using require_ok_iff.mp fresh
      cases accepted
      refine ⟨normal :: normals, rfl, .cons here later, ?_, ?_⟩
      · refine List.nodup_cons.mpr ⟨fun taken => ?_, nodup⟩
        obtain ⟨other, mem, same⟩ := List.mem_map.mp taken
        exact unseen other mem (same ▸ List.mem_cons_self)
      · refine List.forall_mem_cons.mpr ⟨fresh, fun other mem old => ?_⟩
        exact unseen other mem (List.mem_cons_of_mem _ old)

/-- The shards that a request lists. -/
def requestedShards (distribution : Json) : List Json :=
  match distribution.asDict? with
  | some d => (shardList? d).getD []
  | none => []

theorem shardList?_ne_nil {d : Dict Json} {shards : List Json}
    (listed : shardList? d = some shards) : shards ≠ [] := by
  unfold shardList? at listed
  split at listed
  · cases listed
    exact List.cons_ne_nil _ _
  · cases listed

/-- An accepted distribution is normal, and its shards are those of the request
in the same order. -/
theorem validateDistribution_ok {distribution validated : Json}
    (accepted : validateDistribution distribution = .ok (some validated)) :
    ∃ normal : NormalDistribution, validated = normal.json ∧
      List.Forall₂ Normalizes (requestedShards distribution) normal.shards := by
  unfold validateDistribution at accepted
  split at accepted
  · cases accepted
  · cases accepted
  · rename_i d notNull object
    obtain ⟨fields, checked, same⟩ := map_ok_iff.mp accepted
    cases same
    obtain ⟨_, isMode, checked⟩ := bind_ok_iff.mp checked
    obtain ⟨_, isPolicy, checked⟩ := bind_ok_iff.mp checked
    obtain ⟨mode, mode_mem, isMode⟩ := Json.requireIn_ok isMode
    obtain ⟨policy, policy_mem, isPolicy⟩ := Json.requireIn_ok isPolicy
    cases List.mem_singleton.mp mode_mem
    cases List.mem_singleton.mp policy_mem
    rw [isMode, isPolicy] at checked
    split at checked
    · cases checked
    · rename_i shards listed
      obtain ⟨normalized, shardsChecked, checked⟩ := bind_ok_iff.mp checked
      obtain ⟨normals, rfl, one_by_one, nodup, _⟩ := normalizeShards_ok shardsChecked
      cases checked
      have nonempty : normals ≠ [] := by
        rintro rfl
        cases one_by_one
        exact shardList?_ne_nil listed rfl
      refine ⟨⟨normals, nonempty, nodup⟩, rfl, ?_⟩
      rw [requestedShards, object]
      dsimp only
      rw [listed]
      exact one_by_one

/-! ### Validation of a normal form -/

theorem requireIn_of_mem {s : String} {allowed : List String} (mem : s ∈ allowed) (refusal : Exc) :
    (Json.str s).requireIn allowed refusal = .ok () := by
  have found : allowed.contains s = true := List.elem_eq_true_of_mem mem
  simp only [Json.requireIn, Json.inSet, found]
  rfl

theorem require_of {ε : Type} {condition : Bool} (holds : condition = true) (refusal : ε) :
    require condition refusal = .ok () := require_ok_iff.mpr holds

theorem integerValue_int (i : Int) (field : String) : integerValue (.int i) field = .ok i := rfl

theorem NormalDataset.json_get (dataset : NormalDataset) :
    ∃ d, dataset.json.asDict? = some d ∧ d.get? "source" = some (.str dataset.source) ∧
      d.get? "format" = some (.str dataset.format) ∧
      d.get? "offset" = some (.int dataset.offset) ∧
      d.get? "limit" = some (.int dataset.limit) := by
  refine ⟨_, rfl, ?_⟩
  simp [Dict.get?_ofItems]

theorem normalizeDataset_json (dataset : NormalDataset) (index : Nat) :
    normalizeDataset dataset.json index = .ok dataset.json := by
  obtain ⟨d, object, source, format, offset, limit⟩ := dataset.json_get
  simp only [normalizeDataset, object, source, format, offset, limit, Option.getD_some,
    dataset.source_given, integerValue_int]
  refine bind_ok_iff.mpr ⟨(), require_of dataset.source_safe _, ?_⟩
  refine bind_ok_iff.mpr ⟨(), requireIn_of_mem dataset.format_mem _, ?_⟩
  refine bind_ok_iff.mpr ⟨dataset.offset, rfl, ?_⟩
  refine bind_ok_iff.mpr ⟨(), require_of (decide_eq_true dataset.offset_nonneg) _, ?_⟩
  refine bind_ok_iff.mpr ⟨dataset.limit, rfl, ?_⟩
  refine bind_ok_iff.mpr ⟨(), require_of (decide_eq_true dataset.limit_pos) _, ?_⟩
  rfl

theorem normalizeAgentSelector_json (labels : List String) (index : Nat) :
    normalizeAgentSelector (selectorJson labels) index = .ok (selectorJson labels) := by
  have held : (Dict.ofItems [("labels", Json.arr (labels.map .str))]).get? "labels" =
      some (.arr (labels.map .str)) := by
    simp [Dict.get?_ofItems]
  simp only [normalizeAgentSelector, selectorJson, Json.asDict?, held, Option.getD_some]
  refine if_pos ?_
  clear held
  induction labels with
  | nil => rfl
  | cons label labels ih => exact ih

theorem NormalShard.json_get (shard : NormalShard) :
    ∃ d, shard.json.asDict? = some d ∧ d.get? "shard_id" = some (.str shard.shardId) ∧
      d.get? "agent_selector" = some (selectorJson shard.labels) ∧
      d.get? "dataset" = some shard.dataset.json := by
  refine ⟨_, rfl, ?_⟩
  simp [Dict.get?_ofItems]

theorem normalizeShard_json (shard : NormalShard) (index : Nat) :
    normalizeShard shard.json index = .ok (shard.shardId, shard.json) := by
  obtain ⟨d, object, shardId, selector, dataset⟩ := shard.json_get
  simp only [normalizeShard, object, shardId, selector, dataset, Option.getD_some,
    shard.shardId_given, normalizeAgentSelector_json, normalizeDataset_json]
  rfl

/-- Shards whose ids are new and distinct are taken over as they are. -/
theorem normalizeShards_json {shards : List NormalShard} {index : Nat} {seen : List String}
    (nodup : (shards.map NormalShard.shardId).Nodup)
    (unseen : ∀ shard ∈ shards, shard.shardId ∉ seen) :
    normalizeShards (shards.map NormalShard.json) index seen =
      .ok (shards.map NormalShard.json) := by
  induction shards generalizing index seen with
  | nil => rfl
  | cons shard shards ih =>
      obtain ⟨other, nodup⟩ := List.nodup_cons.mp nodup
      obtain ⟨here, later⟩ := List.forall_mem_cons.mp unseen
      have fresh : (!seen.contains shard.shardId) = true := by simpa using here
      have rest : normalizeShards (shards.map NormalShard.json) (index + 1)
          (shard.shardId :: seen) = .ok (shards.map NormalShard.json) :=
        ih nodup fun next mem => List.not_mem_cons_of_ne_of_not_mem
          (fun same => other (same ▸ List.mem_map_of_mem mem)) (later next mem)
      refine bind_ok_iff.mpr ⟨_, normalizeShard_json shard index, ?_⟩
      refine bind_ok_iff.mpr ⟨(), require_of fresh _, ?_⟩
      exact bind_ok_iff.mpr ⟨_, rest, rfl⟩

theorem NormalDistribution.json_get (distribution : NormalDistribution) :
    ∃ d, distribution.json.asDict? = some d ∧ d.get? "mode" = some (.str "manual_shards") ∧
      d.get? "result_merge_policy" = some (.str "summary_only") ∧
      d.get? "shards" = some (.arr (distribution.shards.map NormalShard.json)) := by
  refine ⟨_, rfl, ?_⟩
  simp [Dict.get?_ofItems]

theorem shardList?_of_get {d : Dict Json} {shards : List Json}
    (found : d.get? "shards" = some (.arr shards)) (nonempty : shards ≠ []) :
    shardList? d = some shards := by
  obtain ⟨first, rest, rfl⟩ := List.exists_cons_of_ne_nil nonempty
  rw [shardList?, found]

theorem NormalDistribution.requestedShards_json (distribution : NormalDistribution) :
    requestedShards distribution.json = distribution.shards.map NormalShard.json := by
  obtain ⟨d, object, _, _, shards⟩ := distribution.json_get
  have listed := shardList?_of_get shards (List.map_eq_nil_iff.not.mpr distribution.nonempty)
  rw [requestedShards, object]
  dsimp only
  rw [listed, Option.getD_some]

/-- A normal distribution is accepted and stays as it is. -/
theorem NormalDistribution.validate_json (distribution : NormalDistribution) :
    validateDistribution distribution.json = .ok (some distribution.json) := by
  obtain ⟨d, object, mode, policy, shards⟩ := distribution.json_get
  have listed := shardList?_of_get shards (List.map_eq_nil_iff.not.mpr distribution.nonempty)
  have checked : normalizeShards (distribution.shards.map NormalShard.json) 0 [] =
      .ok (distribution.shards.map NormalShard.json) :=
    normalizeShards_json distribution.ids_nodup fun _ _ => List.not_mem_nil
  have fields : validateDistributionFields d = .ok distribution.json := by
    simp only [validateDistributionFields, mode, policy, listed, Option.getD_some]
    refine bind_ok_iff.mpr ⟨(), requireIn_of_mem (List.mem_singleton.mpr rfl) _, ?_⟩
    refine bind_ok_iff.mpr ⟨(), requireIn_of_mem (List.mem_singleton.mpr rfl) _, ?_⟩
    exact bind_ok_iff.mpr ⟨_, checked, rfl⟩
  cases object
  exact map_ok_iff.mpr ⟨_, fields, rfl⟩

/-! ### The plan -/

/-- An entry of the plan repeats a shard, with what the task gives to all of
them (`{}` where it has no execution). -/
structure PlansShard (subject : PlanSubject) (execution : Json) (shard : NormalShard)
    (entry : Json) : Prop where
  shardId : entry.getItem "shard_id" = .ok (.str shard.shardId)
  agentSelector : entry.getItem "agent_selector" = .ok (selectorJson shard.labels)
  dataset : entry.getItem "dataset" = .ok shard.dataset.json
  taskId : entry.getItem "task_id" = .ok (.str subject.taskId)
  targetAppId : entry.getItem "target_app_id" = .ok (optionalStr subject.targetAppId)
  targetProfileId : entry.getItem "target_profile_id" = .ok (optionalStr subject.targetProfileId)
  engine : entry.getItem "engine" = .ok (.str subject.engine)
  scriptPath : entry.getItem "script_path" = .ok (.str subject.scriptPath)
  targetUrl : entry.getItem "target_url" = .ok (.str subject.targetUrl)
  execution : entry.getItem "execution" = .ok execution.orEmpty

/-- The plan has one entry for each shard, in their order, and counts them. -/
structure PlansShards (subject : PlanSubject) (execution : Json) (shards : List NormalShard)
    (plan : Json) : Prop where
  taskId : plan.getItem "task_id" = .ok (.str subject.taskId)
  entries : ∃ entries, plan.getItem "shards" = .ok (.arr entries) ∧
    List.Forall₂ (PlansShard subject execution) shards entries
  counted : ∀ part ∈ ["distribution", "result_aggregation"], ∃ counts,
    plan.getItem part = .ok counts ∧ counts.getItem "shard_count" = .ok (.int shards.length)

theorem shardEntry_json (subject : PlanSubject) (execution : Json) (shard : NormalShard) :
    ∃ entry, shardEntry subject execution shard.json = .ok entry ∧
      PlansShard subject execution shard entry := by
  obtain ⟨d, object, shardId, selector, dataset⟩ := shard.json_get
  have read {key : String} {value : Json} (held : d.get? key = some value) :
      shard.json.getItem key = .ok value := getItem_ok_iff.mpr ⟨d, object, held⟩
  refine ⟨_, bind_ok_iff.mpr ⟨_, read shardId, bind_ok_iff.mpr ⟨_, read selector,
    bind_ok_iff.mpr ⟨_, read dataset, rfl⟩⟩⟩, ?_⟩
  constructor <;> simp [Json.getItem, Dict.get?_ofItems]

theorem mapM_shardEntry (subject : PlanSubject) (execution : Json) (shards : List NormalShard) :
    ∃ entries, (shards.map NormalShard.json).mapM (shardEntry subject execution) = .ok entries ∧
      List.Forall₂ (PlansShard subject execution) shards entries := by
  induction shards with
  | nil => exact ⟨[], rfl, .nil⟩
  | cons shard shards ih =>
      obtain ⟨entry, built, here⟩ := shardEntry_json subject execution shard
      obtain ⟨entries, builtRest, later⟩ := ih
      refine ⟨entry :: entries, ?_, .cons here later⟩
      rw [List.map_cons, List.mapM_cons]
      exact bind_ok_iff.mpr ⟨_, built, bind_ok_iff.mpr ⟨_, builtRest, rfl⟩⟩

/-- A plan can be built from a normal distribution, and it is a plan of its
shards. -/
theorem NormalDistribution.buildPlan_json (distribution : NormalDistribution)
    (subject : PlanSubject) (execution : Json) :
    ∃ plan, buildShardExecutionPlan subject distribution.json execution = .ok plan ∧
      PlansShards subject execution distribution.shards plan := by
  obtain ⟨d, object, mode, policy, shards⟩ := distribution.json_get
  obtain ⟨entries, built, one_by_one⟩ := mapM_shardEntry subject execution distribution.shards
  have read {key : String} {value : Json} (held : d.get? key = some value) :
      distribution.json.getItem key = .ok value := getItem_ok_iff.mpr ⟨d, object, held⟩
  refine ⟨_, bind_ok_iff.mpr ⟨_, read shards, bind_ok_iff.mpr ⟨_, rfl,
    bind_ok_iff.mpr ⟨_, read mode, bind_ok_iff.mpr ⟨_, read policy,
    bind_ok_iff.mpr ⟨_, read shards, bind_ok_iff.mpr ⟨_, rfl,
    bind_ok_iff.mpr ⟨_, built, rfl⟩⟩⟩⟩⟩⟩⟩, ?_⟩
  constructor
  · simp [Json.getItem, Dict.get?_ofItems]
  · refine ⟨entries, ?_, one_by_one⟩
    simp [Json.getItem, Dict.get?_ofItems]
  · simp [Json.getItem, Dict.get?_ofItems, buildResultAggregationContract]

/-- Shards of an accepted distribution and entries of its plan correspond one to
one: the shards are those of the request in its order, with distinct ids, they
are well formed, and validating them again changes nothing. -/
theorem shards_correspond {distribution validated : Json}
    (accepted : validateDistribution distribution = .ok (some validated)) :
    ∃ normal : NormalDistribution, validated = normal.json ∧
      List.Forall₂ Normalizes (requestedShards distribution) normal.shards ∧
      (normal.shards.map NormalShard.shardId).Nodup ∧
      (∀ shard ∈ normal.shards, strip shard.shardId ≠ "" ∧
        shard.dataset.format ∈ supportedDatasetFormats ∧
        (∃ p ∈ safeDatasetSourcePrefixes, p.toList <+: shard.dataset.source.toList) ∧
        0 ≤ shard.dataset.offset ∧ 0 < shard.dataset.limit) ∧
      validateDistribution validated = .ok (some validated) ∧
      ∀ (subject : PlanSubject) (execution : Json), ∃ plan,
        buildShardExecutionPlan subject validated execution = .ok plan ∧
          PlansShards subject execution normal.shards plan := by
  obtain ⟨normal, rfl, one_by_one⟩ := validateDistribution_ok accepted
  refine ⟨normal, rfl, one_by_one, normal.ids_nodup, ?_, normal.validate_json,
    normal.buildPlan_json⟩
  rintro shard -
  have notBlank : strip shard.shardId ≠ "" := by
    intro blank
    have given := shard.shardId_given
    rw [nonEmptyStr?, if_pos blank] at given
    cases given
  obtain ⟨p, mem, starts⟩ := List.any_eq_true.mp shard.dataset.source_safe
  exact ⟨notBlank, shard.dataset.format_mem, ⟨p, mem, List.isPrefixOf_iff_prefix.mp starts⟩,
    shard.dataset.offset_nonneg, shard.dataset.limit_pos⟩

/-- Two shards, one of which gives its limit as text. -/
def twoShards : Json :=
  .obj [("mode", .str "manual_shards"), ("shards", .arr [
    .obj [("shard_id", .str "s1"), ("dataset", .obj [("source", .str "inline://users"),
      ("format", .str "csv"), ("offset", .int 0), ("limit", .str "50")])],
    .obj [("shard_id", .str "s2"), ("agent_selector", .obj [("labels", .arr [.str "eu"])]),
      ("dataset", .obj [("source", .str "inline://users"), ("format", .str "csv"),
        ("offset", .int 50), ("limit", .int 50)])]])]

theorem twoShards_correspond :
    ∃ normal : NormalDistribution,
      List.Forall₂ Normalizes (requestedShards twoShards) normal.shards ∧
        ∃ plan, buildShardExecutionPlan ⟨"t1", "k6", "main.js", "http://target", none, none⟩
          normal.json (.obj [("duration_seconds", .int 60)]) = .ok plan ∧
          PlansShards ⟨"t1", "k6", "main.js", "http://target", none, none⟩
            (.obj [("duration_seconds", .int 60)]) normal.shards plan := by
  have accepted : ∃ validated, validateDistribution twoShards = .ok (some validated) :=
    ⟨_, rfl⟩
  obtain ⟨validated, accepted⟩ := accepted
  obtain ⟨normal, rfl, one_by_one, _, _, _, planned⟩ := shards_correspond accepted
  exact ⟨normal, one_by_one, planned _ _⟩

end PLoadtesting.ControlPlane
