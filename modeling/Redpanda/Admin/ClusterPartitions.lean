import Redpanda.Admin.Request

/-!
# Listing the cluster's partitions

`src/v/redpanda/admin/server.cc:4294–4476`. `get_cluster_partitions_handler` lists the
partitions of the topic table, all of them or only the disabled or only the enabled ones,
sorted by topic and then by partition id; `get_cluster_partitions_topic_handler` lists one
topic's. `topic2cluster_partitions` takes shortcuts: it returns at once when the filter
cannot match, and for `disabled=true` it walks the topic's disabled set instead of its
assignments; the handler then takes its topics from the disabled-partitions map.

The topic table (`cluster::topic_table`) is outside the sources. Its topics map and its
disabled-partitions map are hash maps: each is modelled as the list of its entries in
iteration order, one entry per topic, and every theorem holds for every order.
`model::is_user_topic` is a parameter.
-/

namespace Redpanda.Admin

/-- `model::topic_namespace`. -/
structure TopicNamespace where
  ns : String
  tp : String
  deriving DecidableEq, Repr

namespace TopicNamespace

/-- What a `model::topic_namespace` is compared by: its namespace, then its topic. -/
def key (t : TopicNamespace) : Lex (String × String) := toLex (t.ns, t.tp)

theorem key_injective : Function.Injective key := by
  rintro ⟨_, _⟩ ⟨_, _⟩ h
  simpa [key] using h

/-- The order `std::sort` puts the handler's topics in. -/
instance : LinearOrder TopicNamespace := LinearOrder.lift' key key_injective

end TopicNamespace

/-- `cluster::partition_assignment`, by the fields the listing reads. -/
structure PartitionAssignment where
  id : Int
  replicas : List BrokerShard
  deriving DecidableEq, Repr

/-- `cluster::assignments_set`: a topic's assignments in iteration order, one per id. -/
structure AssignmentsSet where
  assignments : List PartitionAssignment
  nodup_ids : (assignments.map PartitionAssignment.id).Nodup

/-- The partition ids of an assignments set. -/
def AssignmentsSet.ids (as : AssignmentsSet) : List Int := as.assignments.map PartitionAssignment.id

/-- `assignments_set::find`. -/
def AssignmentsSet.find (as : AssignmentsSet) (id : Int) : Option PartitionAssignment :=
  as.assignments.find? (·.id == id)

/-- `cluster::topic_disabled_partitions_set`: the disabled partition ids of a topic, as a
hash set in iteration order, or `none` when the whole topic is disabled. -/
structure TopicDisabledPartitionsSet where
  partitions : Option (List Int)
  nodup : (partitions.getD []).Nodup

namespace TopicDisabledPartitionsSet

/-- `topic_disabled_partitions_set::is_disabled`: every partition of a fully disabled topic
is disabled. -/
def isDisabled (s : TopicDisabledPartitionsSet) (id : Int) : Bool :=
  match s.partitions with
  | none => true
  | some ids => ids.contains id

/-- `topic_disabled_partitions_set::is_fully_disabled`. -/
def isFullyDisabled (s : TopicDisabledPartitionsSet) : Bool := s.partitions.isNone

/-- `topic_disabled_partitions_set::is_fully_enabled`: a set of ids that is empty. -/
def isFullyEnabled (s : TopicDisabledPartitionsSet) : Bool := s.partitions.any List.isEmpty

end TopicDisabledPartitionsSet

/-- A fully enabled set, or none at all, disables no partition. -/
theorem any_isDisabled_of_all_isFullyEnabled {ds : Option TopicDisabledPartitionsSet}
    (h : ds.all (·.isFullyEnabled) = true) (id : Int) : ds.any (·.isDisabled id) = false := by
  rcases ds with _ | ⟨_ | (_ | ⟨_, _⟩), _⟩ <;>
    simp_all [TopicDisabledPartitionsSet.isFullyEnabled, TopicDisabledPartitionsSet.isDisabled]

/-- A fully disabled set disables every partition. -/
theorem any_isDisabled_of_any_isFullyDisabled {ds : Option TopicDisabledPartitionsSet}
    (h : ds.any (·.isFullyDisabled) = true) (id : Int) : ds.any (·.isDisabled id) = true := by
  rcases ds with _ | ⟨_ | _, _⟩ <;>
    simp_all [TopicDisabledPartitionsSet.isFullyDisabled, TopicDisabledPartitionsSet.isDisabled]

/-- The two maps of `cluster::topic_table` the listing reads, in iteration order, each with
one entry per topic. -/
structure TopicTable where
  topics : List (TopicNamespace × AssignmentsSet)
  disabledPartitions : List (TopicNamespace × TopicDisabledPartitionsSet)
  nodup_topics : (topics.map Prod.fst).Nodup
  nodup_disabled : (disabledPartitions.map Prod.fst).Nodup

namespace TopicTable

/-- `topics_map().find(ns_tp)`. -/
def find (table : TopicTable) (t : TopicNamespace) : Option AssignmentsSet :=
  table.topics.lookup t

/-- `topic_table::get_topic_disabled_set`: the topic's entry of the disabled map, if any. -/
def getTopicDisabledSet (table : TopicTable) (t : TopicNamespace) :
    Option TopicDisabledPartitionsSet :=
  table.disabledPartitions.lookup t

/-- The partition ids of a topic of the table, none if the table has no such topic. -/
def partitionIds (table : TopicTable) (t : TopicNamespace) : List Int :=
  ((table.find t).map AssignmentsSet.ids).getD []

/-- The disabled map is in step with the topics map: every id of a disabled set is an
assignment id of its topic. -/
def DisabledInStep (table : TopicTable) : Prop :=
  ∀ e ∈ table.disabledPartitions,
    ∀ id ∈ e.2.partitions.getD [], id ∈ table.partitionIds e.1

instance (table : TopicTable) : Decidable table.DisabledInStep :=
  inferInstanceAs (Decidable (∀ e ∈ table.disabledPartitions,
    ∀ id ∈ e.2.partitions.getD [], id ∈ table.partitionIds e.1))

end TopicTable

/-- `cluster_partition_info` (`server.cc:4296–4301`), with its topic held by value. -/
structure ClusterPartitionInfo where
  nsTp : TopicNamespace
  id : Int
  replicas : List BrokerShard
  disabled : Bool
  deriving DecidableEq, Repr

/-! ### `topic2cluster_partitions` -/

/-- The loop over a disabled set (`server.cc:4348–4365`): each id's assignment, or `none`
when one is missing and the `vassert` stops the process. -/
def disabledPartitionInfos (nsTp : TopicNamespace) (assignments : AssignmentsSet) :
    List Int → Option (List ClusterPartitionInfo)
  | [] => some []
  | id :: ids => do
    let a ← assignments.find id
    let rest ← disabledPartitionInfos nsTp assignments ids
    pure (⟨nsTp, id, a.replicas, true⟩ :: rest)

/-- The loop over the assignments (`server.cc:4366–4381`), which the filter selects from. -/
def filteredPartitionInfos (nsTp : TopicNamespace) (assignments : AssignmentsSet)
    (disabledSet : Option TopicDisabledPartitionsSet) (disabledFilter : Option Bool) :
    List ClusterPartitionInfo :=
  assignments.assignments.filterMap fun pAs =>
    let disabled := disabledSet.any (·.isDisabled pAs.id)
    if disabledFilter.any (· != disabled) then none
    else some ⟨nsTp, pAs.id, pAs.replicas, disabled⟩

/-- The `std::sort` by partition id ending `topic2cluster_partitions`. A topic's ids are
distinct, so every sorting algorithm gives this order. -/
def sortById (infos : List ClusterPartitionInfo) : List ClusterPartitionInfo :=
  infos.mergeSort fun l r => l.id ≤ r.id

/-- `topic2cluster_partitions` (`server.cc:4318–4385`); `none` when the `vassert` fails. -/
def topic2clusterPartitions (nsTp : TopicNamespace) (assignments : AssignmentsSet)
    (disabledSet : Option TopicDisabledPartitionsSet) (disabledFilter : Option Bool) :
    Option (List ClusterPartitionInfo) :=
  if disabledFilter = some true ∧ disabledSet.all (·.isFullyEnabled) then some []
  else if disabledFilter = some false ∧ disabledSet.any (·.isFullyDisabled) then some []
  else
    let ret := match disabledFilter, disabledSet.bind (·.partitions) with
      | some true, some ids => disabledPartitionInfos nsTp assignments ids
      | _, _ => some (filteredPartitionInfos nsTp assignments disabledSet disabledFilter)
    ret.map sortById

/-! ### The handlers -/

/-- The `disabled` filter both handlers read (`server.cc:4392–4395,4453–4456`): absent unless
the query has the parameter. -/
def disabledFilter (query : QueryParameters) : Option Bool :=
  if (query "disabled").isSome then some (getBooleanQueryParam query "disabled") else none

/-- The filter is absent without the parameter, and otherwise whether its text is "true" in
any case or "1". -/
theorem disabledFilter_eq (query : QueryParameters) :
    disabledFilter query = (query "disabled").map
      fun v => v.toList.map Char.toLower == "true".toList || v == "1" := by
  unfold disabledFilter
  cases h : query "disabled" <;> simp [h, getBooleanQueryParam_eq]

/-- `fill_topics` (`server.cc:4401–4409`): the keys of a map, internal topics only on request. -/
def fillTopics (isUserTopic : TopicNamespace → Bool) (withInternal : Bool)
    (keys : List TopicNamespace) : List TopicNamespace :=
  keys.filter fun t => withInternal || isUserTopic t

/-- `std::sort(topics.begin(), topics.end())`. -/
def sortTopics (topics : List TopicNamespace) : List TopicNamespace := topics.mergeSort

/-- The loop over the sorted topics (`server.cc:4421–4440`): a topic no longer in the
topics map is skipped. -/
def collectPartitions (table : TopicTable) (disabledFilter : Option Bool) :
    List TopicNamespace → Option (List ClusterPartitionInfo)
  | [] => some []
  | t :: ts =>
    match table.find t with
    | none => collectPartitions table disabledFilter ts
    | some as => do
      let ps ← topic2clusterPartitions t as (table.getTopicDisabledSet t) disabledFilter
      let rest ← collectPartitions table disabledFilter ts
      pure (ps ++ rest)

/-- `admin_server::get_cluster_partitions_handler` (`server.cc:4389–4446`); `none` when a
`vassert` fails. With `disabled=true` the topics come from the disabled-partitions map. -/
def getClusterPartitionsHandler (isUserTopic : TopicNamespace → Bool) (table : TopicTable)
    (query : QueryParameters) : Option (List ClusterPartitionInfo) :=
  let filter := disabledFilter query
  let withInternal := getBooleanQueryParam query "with_internal"
  let keys := if filter = some true then table.disabledPartitions.map Prod.fst
    else table.topics.map Prod.fst
  collectPartitions table filter (sortTopics (fillTopics isUserTopic withInternal keys))

/-- `admin_server::get_cluster_partitions_topic_handler` (`server.cc:4448–4476`); `none` when
the `vassert` fails. `formatTopic` is how `fmt` prints a `model::topic_namespace`. -/
def getClusterPartitionsTopicHandler (formatTopic : TopicNamespace → String)
    (table : TopicTable) (param : PathParameters) (query : QueryParameters) :
    Option (Except HandlerException (List ClusterPartitionInfo)) :=
  let nsTp : TopicNamespace := ⟨param "namespace", param "topic"⟩
  match table.find nsTp with
  | none =>
    let shown := formatTopic nsTp
    some (throw (.notFound s!"topic {shown} not found"))
  | some as =>
    (topic2clusterPartitions nsTp as (table.getTopicDisabledSet nsTp) (disabledFilter query)).map
      pure

/-! ### The listing as a filter -/

/-- A topic's part of the listing, as the plain filter over its assignments gives it. -/
def topicListing (table : TopicTable) (disabledFilter : Option Bool) (t : TopicNamespace) :
    List ClusterPartitionInfo :=
  match table.find t with
  | none => []
  | some as => sortById (filteredPartitionInfos t as (table.getTopicDisabledSet t) disabledFilter)

/-- The order the listing is in: by topic, then by partition id. -/
def ClusterPartitionInfo.Before (x y : ClusterPartitionInfo) : Prop :=
  x.nsTp < y.nsTp ∨ x.nsTp = y.nsTp ∧ x.id < y.id

/-- What the listing should hold, stated as a plain filter: each assignment of each topic of the
topics map, a user topic or any topic on request, with its replicas and whether it is
disabled, when the filter is absent or matches that. -/
def ClusterPartitionInfo.Listed (isUserTopic : TopicNamespace → Bool) (table : TopicTable)
    (disabledFilter : Option Bool) (withInternal : Bool) (x : ClusterPartitionInfo) : Prop :=
  (withInternal || isUserTopic x.nsTp) = true ∧ ∃ as, table.find x.nsTp = some as ∧
    ∃ a ∈ as.assignments, x = ⟨x.nsTp, a.id, a.replicas,
      (table.getTopicDisabledSet x.nsTp).any (·.isDisabled a.id)⟩ ∧
    (disabledFilter = none ∨ disabledFilter = some x.disabled)

/-! ### Lookups -/

theorem mem_of_lookup_eq_some {α β : Type} [DecidableEq α] {l : List (α × β)} {k : α}
    {b : β}
    (h : l.lookup k = some b) : (k, b) ∈ l := by
  obtain ⟨l₁, l₂, rfl, -⟩ := List.lookup_eq_some_iff.1 h
  simp

/-- `find` returns the assignment of the id, which is unique. -/
theorem AssignmentsSet.find_eq_some_iff {as : AssignmentsSet} {id : Int}
    {a : PartitionAssignment} : as.find id = some a ↔ a ∈ as.assignments ∧ a.id = id := by
  constructor
  · intro h
    exact ⟨List.mem_of_find?_eq_some h, by simpa using List.find?_some h⟩
  · rintro ⟨ha, rfl⟩
    obtain ⟨b, hb⟩ := Option.isSome_iff_exists.1
      (List.find?_isSome.2 ⟨a, ha, by simp⟩ : (as.find a.id).isSome)
    have hbid : b.id = a.id := by simpa using List.find?_some hb
    rw [AssignmentsSet.find, hb,
      List.inj_on_of_nodup_map as.nodup_ids (List.mem_of_find?_eq_some hb) ha hbid]

/-- A topic in step with its disabled set: every disabled id is one of its assignments. -/
theorem TopicTable.DisabledInStep.disabled_mem {table : TopicTable}
    (hsync : table.DisabledInStep) {t : TopicNamespace} {as : AssignmentsSet}
    (hfind : table.find t = some as) :
    ∀ d, table.getTopicDisabledSet t = some d →
      ∀ id ∈ d.partitions.getD [], id ∈ as.ids := by
  intro d hd id hid
  simpa [TopicTable.partitionIds, hfind] using hsync _ (mem_of_lookup_eq_some hd) id hid

/-! ### One topic -/

theorem any_ne_eq_false_iff {f : Option Bool} {d : Bool} :
    f.any (· != d) = false ↔ f = none ∨ f = some d := by
  cases f <;> cases d <;> simp

/-- The plain loop lists each assignment the filter lets through, with its disabled flag. -/
theorem mem_filteredPartitionInfos {nsTp : TopicNamespace} {as : AssignmentsSet}
    {ds : Option TopicDisabledPartitionsSet} {f : Option Bool} {x : ClusterPartitionInfo} :
    x ∈ filteredPartitionInfos nsTp as ds f ↔ ∃ a ∈ as.assignments,
      x = ⟨nsTp, a.id, a.replicas, ds.any (·.isDisabled a.id)⟩ ∧
        (f = none ∨ f = some x.disabled) := by
  simp only [filteredPartitionInfos, List.mem_filterMap]
  refine exists_congr fun a => and_congr_right fun _ => ?_
  split_ifs with h
  · simp only [false_iff, not_and, reduceCtorEq]
    rintro rfl
    simpa [← any_ne_eq_false_iff] using h
  · simp only [Option.some.injEq]
    constructor
    · rintro rfl
      exact ⟨rfl, any_ne_eq_false_iff.1 (by simpa using h)⟩
    · rintro ⟨rfl, -⟩
      rfl

/-- The plain loop lists nothing when the filter lets no assignment through. -/
theorem filteredPartitionInfos_eq_nil {nsTp : TopicNamespace} {as : AssignmentsSet}
    {ds : Option TopicDisabledPartitionsSet} {f : Option Bool}
    (h : ∀ a ∈ as.assignments, ¬ (f = none ∨ f = some (ds.any (·.isDisabled a.id)))) :
    filteredPartitionInfos nsTp as ds f = [] :=
  List.eq_nil_iff_forall_not_mem.2 fun _ hx => by
    obtain ⟨a, ha, rfl, hf⟩ := mem_filteredPartitionInfos.1 hx
    exact h a ha hf

/-- The plain loop keeps the ids of the assignments apart. -/
theorem nodup_ids_filteredPartitionInfos (nsTp : TopicNamespace) (as : AssignmentsSet)
    (ds : Option TopicDisabledPartitionsSet) (f : Option Bool) :
    ((filteredPartitionInfos nsTp as ds f).map (·.id)).Nodup := by
  have h := as.nodup_ids
  rw [List.Nodup, List.pairwise_map] at h ⊢
  refine h.filterMap _ fun a a' hne b hb b' hb' => ?_
  simp only [Option.mem_def, Option.ite_none_left_eq_some, Option.some.injEq] at hb hb'
  rw [← hb.2, ← hb'.2]
  exact hne

/-- Sorting by id a list whose ids are distinct orders it strictly by id. -/
theorem pairwise_sortById {l : List ClusterPartitionInfo} (h : (l.map (·.id)).Nodup) :
    (sortById l).Pairwise fun x y => x.id < y.id := by
  have hle : (sortById l).Pairwise fun x y => x.id ≤ y.id := by
    simpa using @List.sorted_mergeSort _ (fun x y : ClusterPartitionInfo => x.id ≤ y.id)
      (fun _ _ _ hab hbc => by simpa using le_trans (by simpa using hab) (by simpa using hbc))
      (fun a b => by simpa using le_total a.id b.id) l
  have hne : (sortById l).Pairwise fun x y => x.id ≠ y.id :=
    List.pairwise_map.1 (((List.mergeSort_perm l _).map _).nodup_iff.2 h)
  exact (hle.and hne).imp fun h => lt_of_le_of_ne h.1 h.2

/-- Two lists strictly ordered by an asymmetric relation, with the same members, are equal. -/
theorem eq_of_mem_iff_of_pairwise {α : Type} {r : α → α → Prop}
    (hasymm : ∀ a b, r a b → ¬ r b a) {l₁ l₂ : List α} (h₁ : l₁.Pairwise r)
    (h₂ : l₂.Pairwise r)
    (hmem : ∀ x, x ∈ l₁ ↔ x ∈ l₂) : l₁ = l₂ := by
  have hnodup {l : List α} (h : l.Pairwise r) : l.Nodup :=
    h.imp fun hab heq => by subst heq; exact hasymm _ _ hab hab
  exact List.Perm.eq_of_sorted (fun a b _ _ hab hba => absurd hba (hasymm a b hab)) h₁ h₂
    ((List.perm_ext_iff_of_nodup (hnodup h₁) (hnodup h₂)).2 hmem)

/-- The loop over a disabled set whose ids all have assignments finds each of them. -/
theorem disabledPartitionInfos_spec (nsTp : TopicNamespace) (as : AssignmentsSet) :
    ∀ ids : List Int, (∀ id ∈ ids, id ∈ as.ids) →
      ∃ L, disabledPartitionInfos nsTp as ids = some L ∧ L.map (·.id) = ids ∧
        ∀ x ∈ L, ∃ a ∈ as.assignments, x = ⟨nsTp, a.id, a.replicas, true⟩
  | [], _ => ⟨[], rfl, rfl, fun _ h => absurd h (List.not_mem_nil _)⟩
  | id :: ids, hin => by
    obtain ⟨a, ha, rfl⟩ := List.mem_map.1 (hin id (List.mem_cons_self _ _))
    obtain ⟨L, hL, hids, hmem⟩ :=
      disabledPartitionInfos_spec nsTp as ids fun i hi => hin i (List.mem_cons_of_mem _ hi)
    refine ⟨⟨nsTp, a.id, a.replicas, true⟩ :: L, ?_, by simp [hids], ?_⟩
    · simp [disabledPartitionInfos, AssignmentsSet.find_eq_some_iff.2 ⟨ha, rfl⟩, hL]
    · exact List.forall_mem_cons.2 ⟨⟨a, ha, rfl⟩, hmem⟩

/-- Under a disabled set in step with the assignments, every shortcut of
`topic2cluster_partitions` agrees with the plain loop: no `vassert` fires, and the result is
the plain loop's list sorted by id. -/
theorem topic2clusterPartitions_eq {nsTp : TopicNamespace} {as : AssignmentsSet}
    {ds : Option TopicDisabledPartitionsSet} {f : Option Bool}
    (hds : ∀ d, ds = some d → ∀ id ∈ d.partitions.getD [], id ∈ as.ids) :
    topic2clusterPartitions nsTp as ds f =
      some (sortById (filteredPartitionInfos nsTp as ds f)) := by
  unfold topic2clusterPartitions
  split_ifs with hen hdis
  · -- `disabled=true` on a topic with nothing disabled
    obtain ⟨rfl, hen⟩ := hen
    rw [filteredPartitionInfos_eq_nil fun a _ => by
      simp [any_isDisabled_of_all_isFullyEnabled hen a.id]]
    simp [sortById]
  · -- `disabled=false` on a fully disabled topic
    obtain ⟨rfl, hdis⟩ := hdis
    rw [filteredPartitionInfos_eq_nil fun a _ => by
      simp [any_isDisabled_of_any_isFullyDisabled hdis a.id]]
    simp [sortById]
  · dsimp only
    split
    · -- `disabled=true` walks the disabled set
      rename_i ids hbind
      obtain ⟨d, rfl, hd⟩ := Option.bind_eq_some.1 hbind
      have hin : ∀ id ∈ ids, id ∈ as.ids := by simpa [hd] using hds d rfl
      obtain ⟨L, hL, hids, hmem⟩ := disabledPartitionInfos_spec nsTp as ids hin
      have hnodup : (L.map (·.id)).Nodup := hids ▸ (by simpa [hd] using d.nodup)
      rw [hL, Option.map_some']
      congr 1
      refine eq_of_mem_iff_of_pairwise (fun _ _ h h' => lt_asymm h h') (pairwise_sortById hnodup)
        (pairwise_sortById (nodup_ids_filteredPartitionInfos _ _ _ _)) fun x => ?_
      simp only [sortById, List.mem_mergeSort]
      constructor
      · intro hx
        obtain ⟨a, ha, rfl⟩ := hmem x hx
        have hid : a.id ∈ ids := hids ▸ List.mem_map_of_mem (·.id) hx
        exact mem_filteredPartitionInfos.2
          ⟨a, ha, by simp [TopicDisabledPartitionsSet.isDisabled, hd, hid], by simp⟩
      · intro hx
        obtain ⟨a, ha, rfl, hf⟩ := mem_filteredPartitionInfos.1 hx
        have hid : a.id ∈ ids := by simpa [TopicDisabledPartitionsSet.isDisabled, hd] using hf
        obtain ⟨y, hy, hyid⟩ := List.mem_map.1 (hids ▸ hid : a.id ∈ L.map (·.id))
        obtain ⟨b, hb, rfl⟩ := hmem y hy
        obtain rfl : b = a := List.inj_on_of_nodup_map as.nodup_ids hb ha hyid
        simpa [TopicDisabledPartitionsSet.isDisabled, hd, hid] using hy
    · rfl

/-! ### The whole table -/

/-- A topic's listing holds the topic's assignments the filter lets through. -/
theorem mem_topicListing {table : TopicTable} {f : Option Bool} {t : TopicNamespace}
    {x : ClusterPartitionInfo} :
    x ∈ topicListing table f t ↔ x.nsTp = t ∧ ∃ as, table.find x.nsTp = some as ∧
      ∃ a ∈ as.assignments, x = ⟨x.nsTp, a.id, a.replicas,
        (table.getTopicDisabledSet x.nsTp).any (·.isDisabled a.id)⟩ ∧
      (f = none ∨ f = some x.disabled) := by
  unfold topicListing
  constructor
  · intro hx
    split at hx
    · simp at hx
    · rename_i as hfind
      obtain ⟨a, ha, rfl, hf⟩ := mem_filteredPartitionInfos.1 (List.mem_mergeSort.1 hx)
      exact ⟨rfl, as, hfind, a, ha, rfl, hf⟩
  · rintro ⟨rfl, as, hfind, a, ha, hx, hf⟩
    rw [hfind]
    exact List.mem_mergeSort.2 (mem_filteredPartitionInfos.2 ⟨a, ha, hx, hf⟩)

/-- A topic's listing is ordered by id. -/
theorem pairwise_topicListing (table : TopicTable) (f : Option Bool) (t : TopicNamespace) :
    (topicListing table f t).Pairwise ClusterPartitionInfo.Before := by
  unfold topicListing
  split
  · exact List.Pairwise.nil
  · refine (pairwise_sortById (nodup_ids_filteredPartitionInfos _ _ _ _)).imp_of_mem
      fun hx hy hlt => .inr ⟨?_, hlt⟩
    obtain ⟨a, -, rfl, -⟩ := mem_filteredPartitionInfos.1 (List.mem_mergeSort.1 hx)
    obtain ⟨b, -, rfl, -⟩ := mem_filteredPartitionInfos.1 (List.mem_mergeSort.1 hy)
    rfl

theorem before_asymm (x y : ClusterPartitionInfo) :
    ClusterPartitionInfo.Before x y → ¬ ClusterPartitionInfo.Before y x := by
  rintro (h | ⟨h, h'⟩) (g | ⟨g, g'⟩)
  · exact lt_asymm h g
  · exact lt_irrefl _ (g ▸ h)
  · exact lt_irrefl _ (h ▸ g)
  · omega

/-- Under a table in step, the loop over topics fires no `vassert` and joins the topics'
listings. -/
theorem collectPartitions_eq {table : TopicTable} (hsync : table.DisabledInStep)
    (f : Option Bool) :
    ∀ ts, collectPartitions table f ts = some (ts.flatMap (topicListing table f))
  | [] => rfl
  | t :: ts => by
    cases hfind : table.find t with
    | none => simp [collectPartitions, hfind, topicListing, collectPartitions_eq hsync f ts]
    | some as =>
      simp [collectPartitions, hfind, topicListing, collectPartitions_eq hsync f ts,
        topic2clusterPartitions_eq (hsync.disabled_mem hfind)]

/-- The listing over the sorted keys of a map that covers every listed topic holds exactly
the listed partitions, ordered by topic and id. -/
theorem listing_spec (isUserTopic : TopicNamespace → Bool) (table : TopicTable)
    (f : Option Bool) (withInternal : Bool) {keys : List TopicNamespace} (hkeys : keys.Nodup)
    (hcover : ∀ x, x ∈ topicListing table f x.nsTp → x.nsTp ∈ keys) :
    (∀ x, x ∈ (sortTopics (fillTopics isUserTopic withInternal keys)).flatMap
      (topicListing table f) ↔ x.Listed isUserTopic table f withInternal) ∧
    ((sortTopics (fillTopics isUserTopic withInternal keys)).flatMap
      (topicListing table f)).Pairwise ClusterPartitionInfo.Before := by
  have hsorted : (sortTopics (fillTopics isUserTopic withInternal keys)).Pairwise (· < ·) :=
    (List.sorted_mergeSort' _).lt_of_le
      ((List.mergeSort_perm _ _).nodup_iff.2 (hkeys.filter _))
  constructor
  · intro x
    simp only [List.mem_flatMap, sortTopics, List.mem_mergeSort, fillTopics, List.mem_filter,
      ClusterPartitionInfo.Listed]
    constructor
    · rintro ⟨t, ⟨-, huser⟩, hx⟩
      obtain ⟨rfl, hrest⟩ := mem_topicListing.1 hx
      exact ⟨huser, hrest⟩
    · rintro ⟨huser, hrest⟩
      have hx : x ∈ topicListing table f x.nsTp := mem_topicListing.2 ⟨rfl, hrest⟩
      exact ⟨x.nsTp, ⟨hcover x hx, huser⟩, hx⟩
  · refine List.pairwise_flatMap.2 ⟨fun t _ => pairwise_topicListing table f t,
      hsorted.imp fun hlt x hx y hy => .inl ?_⟩
    rwa [(mem_topicListing.1 hx).1, (mem_topicListing.1 hy).1]

/-- A listed partition's topic is a key of the topics map. -/
theorem mem_topics_of_mem_topicListing {table : TopicTable} {f : Option Bool}
    {x : ClusterPartitionInfo} (hx : x ∈ topicListing table f x.nsTp) :
    x.nsTp ∈ table.topics.map Prod.fst := by
  obtain ⟨-, as, hfind, -⟩ := mem_topicListing.1 hx
  exact List.mem_map_of_mem Prod.fst (mem_of_lookup_eq_some hfind)

/-- A partition listed under `disabled=true` has its topic in the disabled map. -/
theorem mem_disabled_of_mem_topicListing {table : TopicTable} {x : ClusterPartitionInfo}
    (hx : x ∈ topicListing table (some true) x.nsTp) :
    x.nsTp ∈ table.disabledPartitions.map Prod.fst := by
  obtain ⟨-, -, -, a, -, hx, hf⟩ := mem_topicListing.1 hx
  cases hds : table.getTopicDisabledSet x.nsTp with
  | none =>
    rw [hx, hds] at hf
    simp at hf
  | some d => exact List.mem_map_of_mem Prod.fst (mem_of_lookup_eq_some hds)

/-- Listing the cluster's partitions. On a table whose disabled map is in step with its
topics map, `topic2cluster_partitions` fires no `vassert` and each of its shortcuts agrees
with the plain loop over the assignments. For every query, with the filter absent when it
has no `disabled` parameter and otherwise whether that parameter is "true" in any case or
"1", and internal topics included when `with_internal` is, the handler returns the list
that the same loop gives over the whole topics map, which holds exactly the listed
partitions, ordered strictly by topic and then partition id, so each once. -/
theorem getClusterPartitionsHandler_spec (isUserTopic : TopicNamespace → Bool)
    (table : TopicTable) (query : QueryParameters) (hsync : table.DisabledInStep) :
    let isTrue := fun v : String => v.toList.map Char.toLower == "true".toList || v == "1"
    let filter := (query "disabled").map isTrue
    let withInternal := (query "with_internal").any isTrue
    (∀ t as f, table.find t = some as →
      topic2clusterPartitions t as (table.getTopicDisabledSet t) f =
        some (sortById (filteredPartitionInfos t as (table.getTopicDisabledSet t) f))) ∧
    ∃ ps, getClusterPartitionsHandler isUserTopic table query = some ps ∧
      collectPartitions table filter
        (sortTopics (fillTopics isUserTopic withInternal (table.topics.map Prod.fst))) = some ps ∧
      (∀ x, x ∈ ps ↔ x.Listed isUserTopic table filter withInternal) ∧
      ps.Pairwise ClusterPartitionInfo.Before := by
  intro isTrue filter withInternal
  have hf : filter = disabledFilter query := (disabledFilter_eq query).symm
  have hw : withInternal = getBooleanQueryParam query "with_internal" :=
    (getBooleanQueryParam_eq query _).symm
  refine ⟨fun t as f hfind => topic2clusterPartitions_eq (hsync.disabled_mem hfind), ?_⟩
  obtain ⟨hmem, hsorted⟩ := listing_spec isUserTopic table filter withInternal
    table.nodup_topics fun x hx => mem_topics_of_mem_topicListing hx
  refine ⟨_, ?_, collectPartitions_eq hsync _ _, hmem, hsorted⟩
  simp only [getClusterPartitionsHandler, collectPartitions_eq hsync, ← hf, ← hw]
  split_ifs with htrue
  · -- the topics of the disabled map give the same list
    obtain ⟨hmem', hsorted'⟩ := listing_spec isUserTopic table filter withInternal
      table.nodup_disabled fun x hx => mem_disabled_of_mem_topicListing (htrue ▸ hx)
    rw [eq_of_mem_iff_of_pairwise before_asymm hsorted' hsorted
      fun x => (hmem' x).trans (hmem x).symm]
  · rfl

/-- One topic with partitions 0 and 1, partition 1 disabled, listed with `disabled=TRUE`. -/
theorem getClusterPartitionsHandler_spec_one_disabled :
    let table : TopicTable :=
      ⟨[(⟨"kafka", "t"⟩, ⟨[⟨0, []⟩, ⟨1, []⟩], by decide⟩)],
        [(⟨"kafka", "t"⟩, ⟨some [1], by decide⟩)], by decide, by decide⟩
    let query : QueryParameters := fun n => if n = "disabled" then some "TRUE" else none
    table.DisabledInStep ∧
    let isTrue := fun v : String => v.toList.map Char.toLower == "true".toList || v == "1"
    let filter := (query "disabled").map isTrue
    let withInternal := (query "with_internal").any isTrue
    (∀ t as f, table.find t = some as →
      topic2clusterPartitions t as (table.getTopicDisabledSet t) f =
        some (sortById (filteredPartitionInfos t as (table.getTopicDisabledSet t) f))) ∧
    ∃ ps, getClusterPartitionsHandler (fun _ => true) table query = some ps ∧
      collectPartitions table filter
        (sortTopics (fillTopics (fun _ => true) withInternal (table.topics.map Prod.fst))) =
          some ps ∧
      (∀ x, x ∈ ps ↔ x.Listed (fun _ => true) table filter withInternal) ∧
      ps.Pairwise ClusterPartitionInfo.Before :=
  ⟨by decide, getClusterPartitionsHandler_spec (fun _ => true) _ _ (by decide)⟩

/-- The one-topic handler lists, for a topic of the table, that topic's part of the cluster
listing. -/
theorem getClusterPartitionsTopicHandler_of_find (formatTopic : TopicNamespace → String)
    {table : TopicTable} (hsync : table.DisabledInStep) {param : PathParameters}
    (query : QueryParameters) {as : AssignmentsSet}
    (hfind : table.find ⟨param "namespace", param "topic"⟩ = some as) :
    getClusterPartitionsTopicHandler formatTopic table param query =
      some (.ok (topicListing table (disabledFilter query)
        ⟨param "namespace", param "topic"⟩)) := by
  simp only [getClusterPartitionsTopicHandler, topicListing, hfind,
    topic2clusterPartitions_eq (hsync.disabled_mem hfind)]
  rfl

end Redpanda.Admin
