import Redpanda.Admin.Request

/-!
# Replica-set requests

`src/v/redpanda/admin/server.cc:500–550,2927–3063`. `validate_set_replicas` turns the
body of a replica-set request into `broker_shard`s, refusing a body that names a node
twice; both replica-set handlers hand its result to the topics frontend. The body is
taken after `apply_validator`: an array of objects with exactly a numeric `node_id` and
`core`. The topics frontend and topic table are read through `ReplicasEnv`.
-/

namespace Redpanda.Admin

/-- A JSON number as rapidjson classifies it: `IsInt` holds for a number stored as an
`int`, whose 32 bits `GetInt` returns; wider integers and doubles are `other`. -/
inductive JsonNumber where
  | int (value : BitVec 32)
  | other
  deriving DecidableEq, Repr

/-- An element of a body the set-replicas schema accepts (`server.cc:437–458`). -/
structure ReplicaJson where
  nodeId : JsonNumber
  core : JsonNumber
  deriving DecidableEq, Repr

/-- The replica an element names when both numbers are `int`s: `node_id` as read, `core`
through `static_cast<uint32_t>`, which keeps its bits. -/
def ReplicaJson.brokerShard : ReplicaJson → Option BrokerShard
  | ⟨.int n, .int c⟩ => some ⟨n.toInt, ⟨c⟩⟩
  | _ => none

/-- An element names a replica exactly when both numbers are `int`s; the replica's node is
`node_id` as read and its shard is the 32 bits of `core`. -/
theorem ReplicaJson.brokerShard_eq_some_iff {r : ReplicaJson} {b : BrokerShard} :
    r.brokerShard = some b ↔ ∃ n c, r.nodeId = .int n ∧ r.core = .int c ∧
      b.nodeId = n.toInt ∧ b.shard.toBitVec = c := by
  obtain ⟨_ | _, _ | _⟩ := r
  case mk.int.int n c =>
    constructor
    · rintro ⟨⟩
      exact ⟨n, c, rfl, rfl, rfl, rfl⟩
    · rintro ⟨n, c, ⟨⟩, ⟨⟩, h, rfl⟩
      simp [brokerShard, ← h]
  all_goals simp [brokerShard]

/-- The refusal of a pair `validate_shard` rejects (`server.cc:526–531`). -/
def nonExistentShardMessage (nodeId : Int) (shard : UInt32) : String :=
  s!"Replica set refers to non-existent node/shard (node {nodeId} shard {shard})"

/-- The refusal of a node named twice (`server.cc:540–545`). -/
def duplicateNodeMessage (nodeId : Int) : String :=
  "All the replicas must be placed on separate nodes. " ++
    s!"Requested replica set contains node: {nodeId} more than once"

/-- The loop of `validate_set_replicas` (`server.cc:511–548`), after the replicas it has
accepted so far. -/
def validateSetReplicasFrom (validateShard : Int → UInt32 → Bool)
    (replicas : List BrokerShard) :
    List ReplicaJson → Except HandlerException (List BrokerShard)
  | [] => .ok replicas
  | r :: rs =>
    match r.brokerShard with
    | none => .error (.badRequest "`node_id` and `core` must be integers")
    | some b =>
      let nodeId := b.nodeId
      let shard := b.shard
      if !validateShard nodeId shard then
        .error (.badRequest (nonExistentShardMessage nodeId shard))
      else if replicas.any (fun x => x.nodeId == nodeId) then
        .error (.badRequest (duplicateNodeMessage nodeId))
      else validateSetReplicasFrom validateShard (replicas ++ [b]) rs

/-- `validate_set_replicas` (`server.cc:500–550`) on a body that passed the schema. -/
def validateSetReplicas (validateShard : Int → UInt32 → Bool) (doc : List ReplicaJson) :
    Except HandlerException (List BrokerShard) :=
  validateSetReplicasFrom validateShard [] doc

/-- The node ids of a replica list. -/
def nodeIds (replicas : List BrokerShard) : List Int := replicas.map BrokerShard.nodeId

/-- Appending a replica keeps node ids distinct exactly when its node is new. -/
theorem nodup_nodeIds_append_singleton {acc : List BrokerShard} {b : BrokerShard} :
    (nodeIds (acc ++ [b])).Nodup ↔ (nodeIds acc).Nodup ∧ b.nodeId ∉ nodeIds acc := by
  rw [nodeIds, List.map_append, List.nodup_append_comm]
  simp [nodeIds, and_comm]

section Validation

variable (validateShard : Int → UInt32 → Bool)

/-- One step of the loop: it goes on exactly when the element converts, passes
`validate_shard` and names a node not yet accepted. -/
theorem validateSetReplicasFrom_cons_ok (acc : List BrokerShard) (r : ReplicaJson)
    (rs : List ReplicaJson) (out : List BrokerShard) :
    validateSetReplicasFrom validateShard acc (r :: rs) = .ok out ↔
      ∃ b, r.brokerShard = some b ∧ validateShard b.nodeId b.shard = true ∧
        b.nodeId ∉ nodeIds acc ∧
          validateSetReplicasFrom validateShard (acc ++ [b]) rs = .ok out := by
  simp only [validateSetReplicasFrom]
  cases hr : r.brokerShard with
  | none => simp
  | some b =>
    have hany : acc.any (fun x => x.nodeId == b.nodeId) = true ↔ b.nodeId ∈ nodeIds acc := by
      simp [nodeIds, List.any_eq_true]
    by_cases hv : validateShard b.nodeId b.shard = true
    · by_cases hd : b.nodeId ∈ nodeIds acc
      · simp [hv, hd, hany.2 hd]
      · simp [hv, hd, Bool.eq_false_iff.2 (hany.not.2 hd)]
    · simp [hv]

/-- Every failure of the loop is a bad request. -/
theorem validateSetReplicasFrom_error (acc : List BrokerShard) (doc : List ReplicaJson)
    (e : HandlerException) (h : validateSetReplicasFrom validateShard acc doc = .error e) :
    ∃ message, e = .badRequest message := by
  induction doc generalizing acc with
  | nil => simp [validateSetReplicasFrom] at h
  | cons r rs ih =>
    simp only [validateSetReplicasFrom] at h
    split at h
    · exact ⟨_, (Except.error.inj h).symm⟩
    · split_ifs at h
      · exact ⟨_, (Except.error.inj h).symm⟩
      · exact ⟨_, (Except.error.inj h).symm⟩
      · exact ih _ h

/-- Loop invariant: from accepted replicas on distinct nodes, the loop returns exactly when
every remaining element converts, passes `validate_shard` and brings a new node, and then
returns the accepted replicas followed by the converted elements in order. -/
theorem validateSetReplicasFrom_ok_iff (acc : List BrokerShard) (doc : List ReplicaJson)
    (out : List BrokerShard) (hacc : (nodeIds acc).Nodup) :
    validateSetReplicasFrom validateShard acc doc = .ok out ↔
      ∃ bs, List.Forall₂ (fun r b => r.brokerShard = some b) doc bs ∧
        (∀ b ∈ bs, validateShard b.nodeId b.shard = true) ∧
        (nodeIds (acc ++ bs)).Nodup ∧ out = acc ++ bs := by
  induction doc generalizing acc with
  | nil =>
    simp only [validateSetReplicasFrom, Except.ok.injEq, List.forall₂_nil_left_iff,
      exists_eq_left, List.not_mem_nil, false_implies, implies_true, List.append_nil, true_and]
    exact ⟨fun h => ⟨hacc, h.symm⟩, fun h => h.2.symm⟩
  | cons r rs ih =>
    rw [validateSetReplicasFrom_cons_ok]
    constructor
    · rintro ⟨b, hr, hv, hnew, hrest⟩
      have hacc' := nodup_nodeIds_append_singleton.2 ⟨hacc, hnew⟩
      obtain ⟨bs, hbs, hall, hnd, rfl⟩ := (ih _ hacc').1 hrest
      exact ⟨b :: bs, .cons hr hbs, by simpa [hv] using hall, by simpa using hnd, by simp⟩
    · rintro ⟨_ | ⟨b, bs⟩, hbs, hall, hnd, rfl⟩
      · cases hbs
      obtain ⟨hr, hbs⟩ := List.forall₂_cons.1 hbs
      have hnd' : (nodeIds (acc ++ [b] ++ bs)).Nodup := by simpa using hnd
      have hacc' : (nodeIds (acc ++ [b])).Nodup :=
        hnd'.sublist ((List.sublist_append_left _ _).map _)
      have hnew := (nodup_nodeIds_append_singleton.1 hacc').2
      refine ⟨b, hr, hall b (List.mem_cons_self _ _), hnew, (ih _ hacc').2 ?_⟩
      exact ⟨bs, hbs, fun x hx => hall x (List.mem_cons_of_mem _ hx), hnd', by simp⟩

end Validation

/-! ### The replica-set handlers -/

/-- What the replica-set handlers read from the controller: the topics frontend's shard
check, the topic table, the feature table and whether the controller leader is elsewhere.
`cluster::is_proper_subset`, the formatting of a replica list, the redirect location and
`model::controller_ntp` come from outside the sources and are taken as given. -/
structure ReplicasEnv where
  validateShard : Int → UInt32 → Bool
  assignment : Ntp → Option (List BrokerShard)
  updateInProgress : Ntp → Bool
  forcePartitionReconfiguration : Bool
  enhancedForceReconfiguration : Bool
  needRedirect : Bool
  controllerRedirect : String
  controllerNtp : Ntp
  isProperSubset : List BrokerShard → List BrokerShard → Bool
  formatReplicas : List BrokerShard → String

/-- What a replica-set request asks of the topics frontend. -/
inductive ReplicasAction where
  | noChange
  | movePartitionReplicas (ntp : Ntp) (replicas : List BrokerShard)
  | forceUpdatePartitionReplicas (ntp : Ntp) (replicas : List BrokerShard)
  deriving DecidableEq, Repr

/-- The refusal to reconfigure the controller partition that both handlers make. -/
def checkNotController (env : ReplicasEnv) (ntp : Ntp) : Except HandlerException Unit :=
  if ntp = env.controllerNtp then .error (.badRequest "Can't reconfigure a controller")
  else .ok ()

/-- `admin_server::set_partition_replicas_handler` (`server.cc:3009–3061`), up to the call
of `move_partition_replicas`. -/
def setPartitionReplicasHandler (env : ReplicasEnv) (param : PathParameters)
    (doc : List ReplicaJson) : Except HandlerException ReplicasAction := do
  let ntp ← parseNtpFromRequest param
  checkNotController env ntp
  let replicas ← validateSetReplicas env.validateShard doc
  if env.assignment ntp = some replicas then return .noChange
  else return .movePartitionReplicas ntp replicas

/-- The refusal of a forced assignment that is not a proper subset (`server.cc:2975–2980`). -/
def notProperSubsetMessage (target current : String) : String :=
  s!"Target assignment {target} is not a proper subset of current {current}, " ++
    "choose a proper subset of existing replicas."

/-- `admin_server::force_set_partition_replicas_handler` (`server.cc:2927–3007`), up to the
call of `force_update_partition_replicas`. -/
def forceSetPartitionReplicasHandler (env : ReplicasEnv) (param : PathParameters)
    (doc : List ReplicaJson) : Except HandlerException ReplicasAction := do
  if !env.forcePartitionReconfiguration then
    throw (.badRequest "Feature not active yet, upgrade in progress?")
  else if env.needRedirect then throw (.redirect env.controllerRedirect)
  else
    let ntp ← parseNtpFromRequest param
    checkNotController env ntp
    let replicas ← validateSetReplicas env.validateShard doc
    if env.updateInProgress ntp then
      throw (.badRequest ("A partition operation is in progress. Check reconfigurations and " ++
        "cancel in flight update before issuing force replica set update."))
    else match env.assignment ntp with
      | none => return .forceUpdatePartitionReplicas ntp replicas
      | some current =>
        if current = replicas then return .noChange
        else if !env.enhancedForceReconfiguration && !env.isProperSubset replicas current then
          throw (.badRequest (notProperSubsetMessage (env.formatReplicas replicas)
            (env.formatReplicas current)))
        else return .forceUpdatePartitionReplicas ntp replicas

/-- The replicas `set_partition_replicas_handler` moves to are what validation returned. -/
theorem setPartitionReplicasHandler_move (env : ReplicasEnv) (param : PathParameters)
    (doc : List ReplicaJson) (ntp : Ntp) (rs : List BrokerShard)
    (h : setPartitionReplicasHandler env param doc = .ok (.movePartitionReplicas ntp rs)) :
    validateSetReplicas env.validateShard doc = .ok rs := by
  simp only [setPartitionReplicasHandler, bind_eq_ok_iff] at h
  obtain ⟨_, -, _, -, replicas, hv, hrest⟩ := h
  split at hrest <;> simp_all

/-- The replicas `force_set_partition_replicas_handler` forces are what validation returned. -/
theorem forceSetPartitionReplicasHandler_force (env : ReplicasEnv) (param : PathParameters)
    (doc : List ReplicaJson) (ntp : Ntp) (rs : List BrokerShard)
    (h : forceSetPartitionReplicasHandler env param doc =
      .ok (.forceUpdatePartitionReplicas ntp rs)) :
    validateSetReplicas env.validateShard doc = .ok rs := by
  simp only [forceSetPartitionReplicasHandler] at h
  split at h
  · cases h
  split at h
  · cases h
  simp only [bind_eq_ok_iff] at h
  obtain ⟨_, -, _, -, replicas, hv, hrest⟩ := h
  rw [hv]
  repeat' split at hrest
  all_goals cases hrest <;> rfl

/-- `validate_set_replicas` on every body that passes the schema fails only with a bad
request, and returns exactly when every element is a pair of `int`s that `validate_shard`
accepts and the nodes are pairwise distinct; it then returns, in order, each element's node
id as read and the 32 bits of its core. Both handlers hand the topics frontend only such a
replica set. -/
theorem validateSetReplicas_spec (validateShard : Int → UInt32 → Bool)
    (doc : List ReplicaJson) :
    (∀ e, validateSetReplicas validateShard doc = .error e →
      ∃ message, e = .badRequest message) ∧
    (∀ out, validateSetReplicas validateShard doc = .ok out ↔
      List.Forall₂ (fun r b => ∃ n c, r.nodeId = .int n ∧ r.core = .int c ∧
          b.nodeId = n.toInt ∧ b.shard.toBitVec = c) doc out ∧
        (∀ b ∈ out, validateShard b.nodeId b.shard = true) ∧ (nodeIds out).Nodup) ∧
    (∀ (env : ReplicasEnv) (param : PathParameters) (ntp : Ntp) (rs : List BrokerShard),
      env.validateShard = validateShard →
      (setPartitionReplicasHandler env param doc = .ok (.movePartitionReplicas ntp rs) ∨
        forceSetPartitionReplicasHandler env param doc =
          .ok (.forceUpdatePartitionReplicas ntp rs)) →
      (nodeIds rs).Nodup) := by
  have hok : ∀ out, validateSetReplicas validateShard doc = .ok out ↔
      List.Forall₂ (fun r b => r.brokerShard = some b) doc out ∧
        (∀ b ∈ out, validateShard b.nodeId b.shard = true) ∧ (nodeIds out).Nodup := by
    intro out
    rw [validateSetReplicas, validateSetReplicasFrom_ok_iff _ [] _ _ List.nodup_nil]
    simp only [List.nil_append]
    exact ⟨fun ⟨bs, h1, h2, h3, h4⟩ => h4 ▸ ⟨h1, h2, h3⟩,
      fun h => ⟨out, h.1, h.2.1, h.2.2, rfl⟩⟩
  refine ⟨validateSetReplicasFrom_error validateShard [] doc, ?_, ?_⟩
  · simpa only [ReplicaJson.brokerShard_eq_some_iff] using hok
  rintro env param ntp rs rfl (h | h)
  · exact ((hok rs).1 (setPartitionReplicasHandler_move env param doc ntp rs h)).2.2
  · exact ((hok rs).1 (forceSetPartitionReplicasHandler_force env param doc ntp rs h)).2.2

end Redpanda.Admin
