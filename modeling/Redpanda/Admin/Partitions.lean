import Redpanda.Admin.Request

/-!
# A partition's replicas and leader

`src/v/redpanda/admin/server.cc:3237–3326`: `admin_server::get_partition_handler`, and
`build_controller_partition`, which it and `get_topic_partitions_handler` use for the
controller partition. The controller partition is on every node, so it is reported with
the controller leader first and then every other node the metadata cache knows, all on the
controller's shard. The metadata cache, the topic table, the reconciliation state and the
formatting of an ntp and of a reconciliation status are outside the sources; the handler
reads them through `PartitionEnv`.
-/

namespace Redpanda.Admin

/-- `partition_json::assignment`. -/
structure AssignmentJson where
  nodeId : Int
  core : UInt32
  deriving DecidableEq, Repr

/-- `partition_json::partition`; a field the handler leaves unset is `none`. -/
structure PartitionJson where
  ns : String
  topic : String
  partitionId : Int
  leaderId : Int
  raftGroupId : Option Int
  replicas : List AssignmentJson
  disabled : Option Bool
  status : String
  deriving DecidableEq, Repr

/-- What the partition routes read from outside the sources: `model::controller_ntp`,
`cluster::controller_stm_shard`, the text of `reconciliation_status::done`, the metadata
cache's controller leader, node ids, ntps and leaders, the topic table's assignments (with
their raft group) and disabled flags, and the formatted reconciliation status of an ntp. -/
structure PartitionEnv where
  controllerNtp : Ntp
  controllerStmShard : UInt32
  doneStatus : String
  controllerLeaderId : Option Int
  nodeIds : List Int
  contains : Ntp → Bool
  partitionAssignment : Ntp → Option (List BrokerShard × Int)
  leaderId : Ntp → Option Int
  isDisabled : Ntp → Bool
  reconciliationStatus : Ntp → String
  formatNtp : Ntp → String

/-- The loop over `cache.node_ids()` (`server.cc:3257–3264`): every node but the leader, on
the controller's shard. -/
def controllerFollowers (leaderOpt : Option Int) (shard : UInt32) :
    List AssignmentJson → List Int → List AssignmentJson
  | replicas, [] => replicas
  | replicas, i :: is =>
    if leaderOpt.isNone || leaderOpt != some i then
      controllerFollowers leaderOpt shard (replicas ++ [⟨i, shard⟩]) is
    else controllerFollowers leaderOpt shard replicas is

/-- `build_controller_partition` (`server.cc:3237–3271`). -/
def buildControllerPartition (env : PartitionEnv) : PartitionJson :=
  let leaderOpt := env.controllerLeaderId
  let leaderReplica : List AssignmentJson := match leaderOpt with
    | some l => [⟨l, env.controllerStmShard⟩]
    | none => []
  { ns := env.controllerNtp.ns, topic := env.controllerNtp.topic,
    partitionId := env.controllerNtp.partition, leaderId := leaderOpt.getD (-1),
    raftGroupId := some 0,
    replicas := controllerFollowers leaderOpt env.controllerStmShard leaderReplica env.nodeIds,
    disabled := none, status := env.doneStatus }

/-- A partition of a topic other than the controller's, as the handler fills it in
(`server.cc:3287–3325`): the leader `-1` when there is none, the replicas and raft group of
its assignment if it has one. -/
def topicPartition (env : PartitionEnv) (ntp : Ntp) : PartitionJson :=
  let assignment := env.partitionAssignment ntp
  { ns := ntp.ns, topic := ntp.topic, partitionId := ntp.partition,
    leaderId := (env.leaderId ntp).getD (-1), raftGroupId := assignment.map (·.2),
    replicas := ((assignment.map (·.1)).getD []).map fun r => ⟨r.nodeId, r.shard⟩,
    disabled := some (env.isDisabled ntp), status := env.reconciliationStatus ntp }

/-- `admin_server::get_partition_handler` (`server.cc:3273–3326`). -/
def getPartitionHandler (env : PartitionEnv) (param : PathParameters) :
    Except HandlerException PartitionJson := do
  let ntp ← parseNtpFromRequest param
  let isController := ntp = env.controllerNtp
  if !isController && !env.contains ntp then
    throw (.notFound s!"Could not find ntp: {env.formatNtp ntp}")
  else if isController then return buildControllerPartition env
  else return topicPartition env ntp

/-! ### The controller partition's replicas -/

/-- The loop appends, in order, the nodes other than the leader. -/
theorem controllerFollowers_eq (leaderOpt : Option Int) (shard : UInt32) :
    ∀ (replicas : List AssignmentJson) (is : List Int),
      controllerFollowers leaderOpt shard replicas is =
        replicas ++ (is.filter (fun i => leaderOpt ≠ some i)).map (⟨·, shard⟩)
  | replicas, [] => by simp [controllerFollowers]
  | replicas, i :: is => by
    have hcond : (leaderOpt.isNone || leaderOpt != some i) = decide (leaderOpt ≠ some i) := by
      cases leaderOpt <;> simp [bne, Bool.beq_eq_decide_eq]
    unfold controllerFollowers
    rw [hcond, List.filter_cons]
    split <;> simp [controllerFollowers_eq]

/-- The controller partition lists the controller leader first and then every other node of
the cache, in the cache's order, all on the controller's shard. -/
theorem buildControllerPartition_replicas (env : PartitionEnv) :
    (buildControllerPartition env).replicas =
      (env.controllerLeaderId.toList ++
        env.nodeIds.filter (fun i => env.controllerLeaderId ≠ some i)).map
          (⟨·, env.controllerStmShard⟩) := by
  simp only [buildControllerPartition, controllerFollowers_eq, List.map_append]
  cases env.controllerLeaderId <;> rfl

/-- When the cache knows each node once and knows the controller leader, the controller
partition lists every node exactly once, the leader first, all on the controller's shard. -/
theorem buildControllerPartition_lists_each_node_once {env : PartitionEnv}
    (hnodup : env.nodeIds.Nodup)
    (hleader : ∀ l, env.controllerLeaderId = some l → l ∈ env.nodeIds) :
    ((buildControllerPartition env).replicas.map (·.nodeId)).Perm env.nodeIds ∧
      ((buildControllerPartition env).replicas.map (·.nodeId)).Nodup ∧
      (∀ l, env.controllerLeaderId = some l →
        ((buildControllerPartition env).replicas.map (·.nodeId)).head? = some l) ∧
      ∀ a ∈ (buildControllerPartition env).replicas, a.core = env.controllerStmShard := by
  have hids : (buildControllerPartition env).replicas.map (·.nodeId) =
      env.controllerLeaderId.toList ++
        env.nodeIds.filter (fun i => env.controllerLeaderId ≠ some i) := by
    rw [buildControllerPartition_replicas, List.map_map]
    exact List.map_id _
  have hperm : (env.controllerLeaderId.toList ++
      env.nodeIds.filter (fun i => env.controllerLeaderId ≠ some i)).Perm env.nodeIds := by
    cases hl : env.controllerLeaderId with
    | none => simp
    | some l =>
      have hfilter : env.nodeIds.filter (fun i => some l ≠ some i) = env.nodeIds.erase l := by
        rw [List.Nodup.erase_eq_filter hnodup]
        congr
        funext i
        by_cases h : i = l
        · subst h; simp
        · simp [h, Ne.symm h]
      rw [Option.toList_some, List.singleton_append, hfilter]
      exact (List.perm_cons_erase (hleader l hl)).symm
  refine ⟨hids ▸ hperm, hids ▸ hperm.nodup_iff.2 hnodup, fun l hl => by simp [hids, hl], ?_⟩
  rw [buildControllerPartition_replicas]
  intro a ha
  obtain ⟨i, -, rfl⟩ := List.mem_map.1 ha
  rfl

/-- Three nodes with node 2 leading the controller: it is listed first, then nodes 1 and 3. -/
theorem buildControllerPartition_leader_two_of_three :
    let env : PartitionEnv := ⟨⟨"redpanda", "controller", 0⟩, 0, "done", some 2, [1, 2, 3],
      fun _ => false, fun _ => none, fun _ => none, fun _ => false, fun _ => "", fun _ => ""⟩
    (buildControllerPartition env).replicas.map (·.nodeId) = [2, 1, 3] ∧
      env.nodeIds.Nodup ∧ (∀ l, env.controllerLeaderId = some l → l ∈ env.nodeIds) ∧
      ((buildControllerPartition env).replicas.map (·.nodeId)).Perm env.nodeIds ∧
      ((buildControllerPartition env).replicas.map (·.nodeId)).Nodup ∧
      (∀ l, env.controllerLeaderId = some l →
        ((buildControllerPartition env).replicas.map (·.nodeId)).head? = some l) ∧
      ∀ a ∈ (buildControllerPartition env).replicas, a.core = env.controllerStmShard :=
  have hnodup : ([1, 2, 3] : List Int).Nodup := by decide
  have hleader : ∀ l : Int, some 2 = some l → l ∈ ([1, 2, 3] : List Int) := by
    rintro l ⟨⟩
    decide
  ⟨rfl, hnodup, hleader, buildControllerPartition_lists_each_node_once hnodup hleader⟩

end Redpanda.Admin
