import Redpanda.Admin.Request

/-!
# The cluster's brokers

`src/v/redpanda/admin/server.cc:992–1114`: `get_brokers`, behind the `get_brokers` and
`get_cluster_view` routes. It puts one broker per node of the members table into a
`std::map` by node id, then enriches the entries from the health report: each node state
sets its broker's liveness, and the first node report of that node its version, recovery
mode, drain status and disks. The members table and the health monitor are outside the
sources; the function reads what they return, the members table's nodes in its iteration
order.
-/

namespace Redpanda.Admin

/-- What the function reads of a node of the members table: the broker's core count, rack
and RPC address, the formatted membership state, and whether its maintenance state is
`active`. -/
structure MemberNode where
  cores : Nat
  rack : Option String
  membershipState : String
  maintenanceActive : Bool
  rpcHost : String
  rpcPort : Nat
  deriving DecidableEq, Repr

/-- `drain_manager::drain_status`. -/
structure DrainStatus where
  finished : Bool
  errors : Bool
  partitions : Option Nat
  transferring : Option Nat
  eligible : Option Nat
  failed : Option Nat
  deriving DecidableEq, Repr

/-- `broker_json::maintenance_status`; a field left unset is `none`. -/
structure MaintenanceStatusJson where
  draining : Bool
  finished : Option Bool
  errors : Option Bool
  partitions : Option Nat
  transferring : Option Nat
  eligible : Option Nat
  failed : Option Nat
  deriving DecidableEq, Repr

/-- `fill_maintenance_status(b_state)` (`server.cc:1006–1014`). -/
def fillMaintenanceStatus (maintenanceActive : Bool) : MaintenanceStatusJson :=
  ⟨maintenanceActive, none, none, none, none, none, none⟩

/-- `fill_maintenance_status(b_state, s)` (`server.cc:992–1005`): an absent count is `0`. -/
def fillMaintenanceStatusOfDrain (maintenanceActive : Bool) (s : DrainStatus) :
    MaintenanceStatusJson :=
  ⟨maintenanceActive, some s.finished, some s.errors, some (s.partitions.getD 0),
    some (s.transferring.getD 0), some (s.eligible.getD 0), some (s.failed.getD 0)⟩

/-- `storage::disk`, as `disk_space_info` reports it. -/
structure Disk where
  path : String
  free : Nat
  total : Nat
  deriving DecidableEq, Repr

/-- `cluster::node_health_report`, by the fields the function reads. -/
structure NodeHealthReport where
  id : Int
  redpandaVersion : String
  recoveryModeEnabled : Bool
  drainStatus : Option DrainStatus
  dataDisk : Disk
  cacheDisk : Disk
  sharedDisk : Bool
  deriving DecidableEq, Repr

/-- `cluster::node_state`: a node's liveness as the health monitor sees it. -/
structure NodeState where
  id : Int
  isAlive : Bool
  deriving DecidableEq, Repr

/-- `cluster::cluster_health_report`. -/
structure ClusterHealthReport where
  nodeStates : List NodeState
  nodeReports : List NodeHealthReport
  deriving DecidableEq, Repr

/-- `broker_json::broker`; a field left unset is `none`. -/
structure BrokerJson where
  nodeId : Int
  numCores : Nat
  rack : Option String
  membershipStatus : String
  isAlive : Bool
  maintenanceStatus : MaintenanceStatusJson
  internalRpcAddress : String
  internalRpcPort : Nat
  version : Option String
  recoveryModeEnabled : Option Bool
  diskSpace : List Disk
  deriving DecidableEq, Repr

/-- `std::map<model::node_id, broker>`: its entries in ascending key order. -/
abbrev BrokerMap := List (Int × BrokerJson)

/-- `broker_map[id] = b`. -/
def BrokerMap.assign (m : BrokerMap) (id : Int) (b : BrokerJson) : BrokerMap :=
  match m with
  | [] => [(id, b)]
  | (k, v) :: rest =>
    if id = k then (id, b) :: rest
    else if id < k then (id, b) :: (k, v) :: rest
    else (k, v) :: assign rest id b

/-- `broker_map.find(id)`, then `f` on the broker found; nothing when there is none. -/
def BrokerMap.update (m : BrokerMap) (id : Int) (f : BrokerJson → BrokerJson) : BrokerMap :=
  match m with
  | [] => []
  | (k, v) :: rest => if id = k then (k, f v) :: rest else (k, v) :: update rest id f

/-- The broker the members loop makes of a node (`server.cc:1044–1064`): alive until the
health report says otherwise. -/
def memberBroker (id : Int) (nm : MemberNode) : BrokerJson :=
  { nodeId := id, numCores := nm.cores, rack := nm.rack, membershipStatus := nm.membershipState,
    isAlive := true, maintenanceStatus := fillMaintenanceStatus nm.maintenanceActive,
    internalRpcAddress := nm.rpcHost, internalRpcPort := nm.rpcPort, version := none,
    recoveryModeEnabled := none, diskSpace := [] }

/-- What a node report adds to its broker (`server.cc:1081–1100`): the version and recovery
mode, the drain status when the node is a member and has one, and the data disk, then the
cache disk when it is not shared. -/
def enrichFromReport (members : List (Int × MemberNode)) (r : NodeHealthReport)
    (b : BrokerJson) : BrokerJson :=
  let maintenanceStatus := match members.lookup r.id, r.drainStatus with
    | some nm, some s => fillMaintenanceStatusOfDrain nm.maintenanceActive s
    | _, _ => b.maintenanceStatus
  { b with
    version := some r.redpandaVersion, recoveryModeEnabled := some r.recoveryModeEnabled,
    maintenanceStatus := maintenanceStatus,
    diskSpace := b.diskSpace ++ r.dataDisk :: if r.sharedDisk then [] else [r.cacheDisk] }

@[simp] theorem enrichFromReport_nodeId (members : List (Int × MemberNode))
    (r : NodeHealthReport) (b : BrokerJson) : (enrichFromReport members r b).nodeId = b.nodeId :=
  rfl

@[simp] theorem enrichFromReport_isAlive (members : List (Int × MemberNode))
    (r : NodeHealthReport) (b : BrokerJson) : (enrichFromReport members r b).isAlive = b.isAlive :=
  rfl

/-- One node state of the health report (`server.cc:1067–1101`): its broker, if any, takes
the state's liveness and what the node's first report adds. -/
def enrichFromNodeState (members : List (Int × MemberNode)) (reports : List NodeHealthReport)
    (m : BrokerMap) (ns : NodeState) : BrokerMap :=
  m.update ns.id fun b =>
    let b := { b with isAlive := ns.isAlive }
    match reports.find? (·.id == ns.id) with
    | some r => enrichFromReport members r b
    | none => b

/-- The brokers `get_brokers` builds from a health report (`server.cc:1036–1111`). -/
def brokersOfReport (members : List (Int × MemberNode)) (h : ClusterHealthReport) :
    List BrokerJson :=
  let brokerMap := members.foldl (fun m e => BrokerMap.assign m e.1 (memberBroker e.1 e.2)) []
  let brokerMap := h.nodeStates.foldl (enrichFromNodeState members h.nodeReports) brokerMap
  brokerMap.map Prod.snd

/-- `get_brokers` (`server.cc:1017–1114`), on the members table's nodes and what the health
monitor returned: a report, or the message of its error. -/
def getBrokers (members : List (Int × MemberNode))
    (report : Except String ClusterHealthReport) : Except HandlerException (List BrokerJson) :=
  match report with
  | .error message => throw (.base s!"Unable to get cluster health: {message}" 503)
  | .ok h => pure (brokersOfReport members h)

/-- The liveness the health report gives a node: that of the last node state naming it,
and alive when none does. -/
def reportedLiveness (states : List NodeState) (id : Int) : Bool :=
  ((states.filter (·.id = id)).getLast?.map (·.isAlive)).getD true

/-! ### The map by node id -/

namespace BrokerMap

theorem mem_assign {m : BrokerMap} {id : Int} {b : BrokerJson} {e : Int × BrokerJson}
    (h : e ∈ m.assign id b) : e = (id, b) ∨ e ∈ m := by
  induction m with
  | nil => simpa [assign] using h
  | cons x rest ih =>
    unfold assign at h
    split_ifs at h <;> simp only [List.mem_cons] at h
    · rcases h with h | h
      · exact .inl h
      · exact .inr (List.mem_cons_of_mem _ h)
    · rcases h with h | h | h
      · exact .inl h
      · exact .inr (h ▸ List.mem_cons_self _ _)
      · exact .inr (List.mem_cons_of_mem _ h)
    · rcases h with h | h
      · exact .inr (h ▸ List.mem_cons_self _ _)
      · exact (ih h).imp_right (List.mem_cons_of_mem _)

theorem mem_keys_assign (m : BrokerMap) (id : Int) (b : BrokerJson) (k : Int) :
    k ∈ (m.assign id b).map Prod.fst ↔ k = id ∨ k ∈ m.map Prod.fst := by
  induction m with
  | nil => simp [assign]
  | cons x rest ih =>
    unfold assign
    split_ifs with hk
    · subst hk
      simp only [List.map_cons, List.mem_cons]
      exact or_self_left.symm
    · simp only [List.map_cons, List.mem_cons]
    · rw [List.map_cons, List.mem_cons, ih, List.map_cons, List.mem_cons]
      exact or_left_comm

/-- Assigning keeps the keys strictly ascending. -/
theorem sorted_keys_assign {m : BrokerMap} (hm : (m.map Prod.fst).Sorted (· < ·)) (id : Int)
    (b : BrokerJson) : ((m.assign id b).map Prod.fst).Sorted (· < ·) := by
  induction m with
  | nil => simp [assign]
  | cons x rest ih =>
    rw [List.map_cons, List.sorted_cons] at hm
    unfold assign
    split_ifs with heq hlt
    · subst heq
      exact List.sorted_cons.2 hm
    · refine List.sorted_cons.2 ⟨fun k hk => ?_, List.sorted_cons.2 hm⟩
      rcases List.mem_cons.1 hk with rfl | hk
      · exact hlt
      · exact hlt.trans (hm.1 k hk)
    · refine List.sorted_cons.2 ⟨fun k hk => ?_, ih hm.2⟩
      rcases (mem_keys_assign rest id b k).1 hk with rfl | hk
      · omega
      · exact hm.1 k hk

theorem keys_update (m : BrokerMap) (id : Int) (f : BrokerJson → BrokerJson) :
    (m.update id f).map Prod.fst = m.map Prod.fst := by
  induction m with
  | nil => rfl
  | cons x rest ih =>
    unfold update
    split_ifs <;> simp [ih]

/-- In a map with one entry per key, an update changes the entry of its key and no other. -/
theorem mem_update {m : BrokerMap} (hm : (m.map Prod.fst).Nodup) {id : Int}
    {f : BrokerJson → BrokerJson} {e : Int × BrokerJson} (h : e ∈ m.update id f) :
    (e ∈ m ∧ e.1 ≠ id) ∨ ∃ v, (id, v) ∈ m ∧ e = (id, f v) := by
  induction m with
  | nil => simp [update] at h
  | cons x rest ih =>
    obtain ⟨k, v⟩ := x
    rw [List.map_cons, List.nodup_cons] at hm
    unfold update at h
    split_ifs at h with hk
    · subst hk
      rcases List.mem_cons.1 h with rfl | h
      · exact .inr ⟨v, List.mem_cons_self _ _, rfl⟩
      · refine .inl ⟨List.mem_cons_of_mem _ h, fun he => hm.1 ?_⟩
        rw [← he]
        exact List.mem_map.2 ⟨e, h, rfl⟩
    · rcases List.mem_cons.1 h with rfl | h
      · exact .inl ⟨List.mem_cons_self _ _, Ne.symm hk⟩
      · rcases ih hm.2 h with ⟨hm', hne⟩ | ⟨v', hv', rfl⟩
        · exact .inl ⟨List.mem_cons_of_mem _ hm', hne⟩
        · exact .inr ⟨v', List.mem_cons_of_mem _ hv', rfl⟩

end BrokerMap

/-! ### The two loops -/

/-- The members loop: the keys stay ascending and are the nodes seen so far, and every
broker carries its key as node id and is alive. -/
theorem foldl_assign_memberBroker (members : List (Int × MemberNode)) :
    ∀ m : BrokerMap, (m.map Prod.fst).Sorted (· < ·) →
      (∀ e ∈ m, e.2.nodeId = e.1 ∧ e.2.isAlive = true) →
      let m' := members.foldl (fun m e => BrokerMap.assign m e.1 (memberBroker e.1 e.2)) m
      (m'.map Prod.fst).Sorted (· < ·) ∧
        (∀ k, k ∈ m'.map Prod.fst ↔ k ∈ m.map Prod.fst ∨ k ∈ members.map Prod.fst) ∧
        ∀ e ∈ m', e.2.nodeId = e.1 ∧ e.2.isAlive = true := by
  induction members with
  | nil => exact fun m hs hm => ⟨hs, fun k => (or_iff_left (List.not_mem_nil k)).symm, hm⟩
  | cons x xs ih =>
    intro m hs hm
    obtain ⟨hs', hkeys, hm'⟩ := ih (BrokerMap.assign m x.1 (memberBroker x.1 x.2))
      (BrokerMap.sorted_keys_assign hs _ _) fun e he => by
        rcases BrokerMap.mem_assign he with rfl | he
        · exact ⟨rfl, rfl⟩
        · exact hm e he
    refine ⟨hs', fun k => ?_, hm'⟩
    rw [List.foldl_cons, hkeys, BrokerMap.mem_keys_assign, List.map_cons, List.mem_cons]
    exact or_assoc.trans or_left_comm

/-- One node state keeps the keys, keeps each broker's node id, and gives the broker it
names that state's liveness. -/
theorem enrichFromNodeState_spec (members : List (Int × MemberNode))
    (reports : List NodeHealthReport) {m : BrokerMap} (hnd : (m.map Prod.fst).Nodup)
    (done : List NodeState) (ns : NodeState)
    (hinv : ∀ e ∈ m, e.2.nodeId = e.1 ∧ e.2.isAlive = reportedLiveness done e.1) :
    (enrichFromNodeState members reports m ns).map Prod.fst = m.map Prod.fst ∧
      ∀ e ∈ enrichFromNodeState members reports m ns,
        e.2.nodeId = e.1 ∧ e.2.isAlive = reportedLiveness (done ++ [ns]) e.1 := by
  refine ⟨BrokerMap.keys_update _ _ _, fun e he => ?_⟩
  have hlast : ∀ id, reportedLiveness (done ++ [ns]) id =
      if ns.id = id then ns.isAlive else reportedLiveness done id := by
    intro id
    unfold reportedLiveness
    split_ifs with h <;> simp [List.filter_append, h]
  rcases BrokerMap.mem_update hnd he with ⟨he', hne⟩ | ⟨v, hv, rfl⟩
  · rw [hlast, if_neg (Ne.symm hne)]
    exact hinv e he'
  · have hvid : v.nodeId = ns.id := (hinv _ hv).1
    rw [hlast, if_pos rfl]
    refine ⟨?_, ?_⟩ <;> dsimp only <;> split <;> simp [hvid]

/-- The loop over the node states keeps the keys and each broker's node id, and leaves each
broker with the liveness of the last state naming it. -/
theorem foldl_enrichFromNodeState (members : List (Int × MemberNode))
    (reports : List NodeHealthReport) (states : List NodeState) :
    ∀ (done : List NodeState) (m : BrokerMap), (m.map Prod.fst).Nodup →
      (∀ e ∈ m, e.2.nodeId = e.1 ∧ e.2.isAlive = reportedLiveness done e.1) →
      let m' := states.foldl (enrichFromNodeState members reports) m
      m'.map Prod.fst = m.map Prod.fst ∧
        ∀ e ∈ m', e.2.nodeId = e.1 ∧ e.2.isAlive = reportedLiveness (done ++ states) e.1 := by
  induction states with
  | nil => exact fun done m _ hinv => ⟨rfl, by simpa only [List.append_nil] using hinv⟩
  | cons ns rest ih =>
    intro done m hnd hinv
    obtain ⟨hkeys, hinv'⟩ := enrichFromNodeState_spec members reports hnd done ns hinv
    obtain ⟨hkeys', hinv''⟩ := ih (done ++ [ns]) _ (hkeys ▸ hnd) hinv'
    exact ⟨hkeys'.trans hkeys,
      by simpa only [List.append_assoc, List.singleton_append] using hinv''⟩

/-! ### What `get_brokers` lists -/

/-- The brokers are the values of a map whose keys ascend and are the members' node ids, and
whose every broker carries its key as node id and the liveness the report gives it. -/
theorem brokersOfReport_map (members : List (Int × MemberNode)) (h : ClusterHealthReport) :
    ∃ m : BrokerMap, brokersOfReport members h = m.map Prod.snd ∧
      (m.map Prod.fst).Sorted (· < ·) ∧ (∀ k, k ∈ m.map Prod.fst ↔ k ∈ members.map Prod.fst) ∧
      ∀ e ∈ m, e.2.nodeId = e.1 ∧ e.2.isAlive = reportedLiveness h.nodeStates e.1 := by
  obtain ⟨hs, hkeys, hm⟩ := foldl_assign_memberBroker members [] List.sorted_nil (by simp)
  obtain ⟨hkeys', hinv⟩ := foldl_enrichFromNodeState members h.nodeReports h.nodeStates [] _
    hs.nodup fun e he => ⟨(hm e he).1, by simp [(hm e he).2, reportedLiveness]⟩
  refine ⟨_, rfl, hkeys' ▸ hs,
    fun k => hkeys' ▸ (hkeys k).trans (or_iff_right (List.not_mem_nil k)), ?_⟩
  simpa only [List.nil_append] using hinv

/-- Whatever the health report holds, `get_brokers` lists one broker per node of the
members table, in ascending node id order: the report enriches brokers, and never adds or
drops one. -/
theorem brokersOfReport_one_per_member (members : List (Int × MemberNode))
    (h : ClusterHealthReport) :
    ((brokersOfReport members h).map (·.nodeId)).Sorted (· < ·) ∧
      ∀ id, id ∈ (brokersOfReport members h).map (·.nodeId) ↔ id ∈ members.map Prod.fst := by
  obtain ⟨m, hm, hsorted, hkeys, hinv⟩ := brokersOfReport_map members h
  have hids : (brokersOfReport members h).map (·.nodeId) = m.map Prod.fst := by
    rw [hm, List.map_map]
    exact List.map_congr_left fun e he => (hinv e he).1
  rw [hids]
  exact ⟨hsorted, hkeys⟩

/-- Each broker is alive as the last node state of the health report naming it says, and
alive when no node state names it. -/
theorem brokersOfReport_isAlive (members : List (Int × MemberNode)) (h : ClusterHealthReport) :
    (brokersOfReport members h).map (·.isAlive) =
      (brokersOfReport members h).map (reportedLiveness h.nodeStates ·.nodeId) := by
  obtain ⟨m, hm, -, -, hinv⟩ := brokersOfReport_map members h
  rw [hm, List.map_map, List.map_map]
  refine List.map_congr_left fun e he => ?_
  simp only [Function.comp_apply, (hinv e he).1, (hinv e he).2]

end Redpanda.Admin
