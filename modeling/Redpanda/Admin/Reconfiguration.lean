import Redpanda.Admin.Request

/-!
# Progress of partition moves

`src/v/redpanda/admin/server.cc:2358–2427,2768–2876`. The decommission-progress handler
and the reconfigurations handler each report, for a moving partition, how many bytes its
new replicas have received and how many are left, from the same loop over the replicas'
reports, in `size_t` (`UInt64`). The reconfigurations handler adds, for each partition,
the backend operations every node reports in the global reconciliation state. The members
backend and topic table that produce the reconfiguration states, the controller that gathers
the reconciliation state and the renderings of its error codes and operation types are
outside the sources; `cluster::subtract` and the renderings are taken as given.
-/

namespace Redpanda.Admin

/-- `cluster::replica_bytes`: what one replica of a moving partition reports. -/
structure ReplicaBytes where
  node : Int
  bytes : UInt64
  deriving DecidableEq, Repr

/-- `cluster::reconfiguration_state`: one moving partition, as the handlers read it. -/
structure ReconfigurationState where
  ntp : Ntp
  currentAssignment : List BrokerShard
  previousAssignment : List BrokerShard
  alreadyTransferredBytes : List ReplicaBytes
  currentPartitionSize : UInt64
  deriving DecidableEq, Repr

/-- The byte loop both handlers run (`server.cc:2413–2417,2833–2837`): `left_to_move` adds
`current_partition_size - bytes` and `already_moved` adds `bytes`, for each report. -/
def bytesLoop (currentPartitionSize : UInt64) (acc : UInt64 × UInt64) :
    List ReplicaBytes → UInt64 × UInt64
  | [] => acc
  | r :: rs => bytesLoop currentPartitionSize
      (acc.1 + (currentPartitionSize - r.bytes), acc.2 + r.bytes) rs

/-- The byte fields of a moving partition's status. -/
structure MoveProgress where
  bytesLeftToMove : UInt64
  bytesMoved : UInt64
  partitionSize : UInt64
  deriving DecidableEq, Repr

/-- The byte fields both handlers fill (`server.cc:2411–2424,2831–2844`): with no report at
all, everything is left to move. -/
def moveProgress (currentPartitionSize : UInt64) (reports : List ReplicaBytes) :
    MoveProgress :=
  let (leftToMove, alreadyMoved) := bytesLoop currentPartitionSize (0, 0) reports
  { bytesLeftToMove :=
      if alreadyMoved = 0 ∧ leftToMove = 0 then currentPartitionSize else leftToMove,
    bytesMoved := alreadyMoved, partitionSize := currentPartitionSize }

/-- `broker_json::partition_reconfiguration_status`, without the formatted policy. -/
structure PartitionReconfigurationStatus where
  ntp : Ntp
  movingTo : BrokerShard
  progress : MoveProgress
  deriving DecidableEq, Repr

/-- The body of the decommission handler's loop (`server.cc:2394–2425`): a partition is
reported only when exactly one replica was added, the one it is moving to. -/
def decommissionPartitionStatus
    (subtract : List BrokerShard → List BrokerShard → List BrokerShard)
    (p : ReconfigurationState) : Option PartitionReconfigurationStatus :=
  match subtract p.currentAssignment p.previousAssignment with
  | [added] =>
    some ⟨p.ntp, added, moveProgress p.currentPartitionSize p.alreadyTransferredBytes⟩
  | _ => none

/-- `partition_json::reconfiguration` as `get_reconfigurations_handler` fills it
(`server.cc:2808–2846`), before the reconciliation statuses. -/
structure Reconfiguration where
  ntp : Ntp
  currentReplicas : List BrokerShard
  previousReplicas : List BrokerShard
  progress : MoveProgress
  deriving DecidableEq, Repr

/-- The entry `get_reconfigurations_handler` streams for one partition. -/
def reconfigurationEntry (s : ReconfigurationState) : Reconfiguration :=
  ⟨s.ntp, s.currentAssignment, s.previousAssignment,
    moveProgress s.currentPartitionSize s.alreadyTransferredBytes⟩

/-! ### Arithmetic of the byte loop -/

/-- The loop's accumulators are the sums of its terms, modulo `2^64`. -/
theorem bytesLoop_toNat (size : UInt64) (left moved : UInt64) (reports : List ReplicaBytes) :
    (bytesLoop size (left, moved) reports).1.toNat =
        (left.toNat + (reports.map fun r => (size - r.bytes).toNat).sum) % 2 ^ 64 ∧
      (bytesLoop size (left, moved) reports).2.toNat =
        (moved.toNat + (reports.map fun r => r.bytes.toNat).sum) % 2 ^ 64 := by
  induction reports generalizing left moved with
  | nil => simp [bytesLoop, Nat.mod_eq_of_lt (UInt64.toNat_lt_size _)]
  | cons r rs ih =>
    simp only [bytesLoop, ih, UInt64.toNat_add, UInt64.size, List.map_cons, List.sum_cons]
    constructor <;> omega

/-- With no report, both accumulators stay zero and everything is left to move. -/
theorem moveProgress_nil (size : UInt64) :
    moveProgress size [] = ⟨size, 0, size⟩ := by
  simp [moveProgress, bytesLoop]

/-- When no replica reports more than the partition holds, what is left and what has moved
add up to the partition size once per report. -/
theorem sum_left_add_sum_moved (size : UInt64) (reports : List ReplicaBytes)
    (hle : ∀ r ∈ reports, r.bytes.toNat ≤ size.toNat) :
    (reports.map fun r => size.toNat - r.bytes.toNat).sum +
      (reports.map fun r => r.bytes.toNat).sum = size.toNat * reports.length := by
  induction reports with
  | nil => simp
  | cons r rs ih =>
    have hr := hle r (List.mem_cons_self r rs)
    have := ih fun x hx => hle x (List.mem_cons_of_mem r hx)
    simp only [List.map_cons, List.sum_cons, List.length_cons, Nat.mul_succ]
    omega

/-- When every report is at most the partition size and the total fits a `size_t`, the
left-to-move count is the exact sum of the differences, within size times reports. -/
theorem moveProgress_bytesLeftToMove_of_le (size : UInt64) (reports : List ReplicaBytes)
    (hne : reports ≠ []) (hle : ∀ r ∈ reports, r.bytes ≤ size)
    (hfit : size.toNat * reports.length < 2 ^ 64) :
    (moveProgress size reports).bytesLeftToMove.toNat =
        (reports.map fun r => size.toNat - r.bytes.toNat).sum ∧
      (moveProgress size reports).bytesLeftToMove.toNat ≤ size.toNat * reports.length := by
  have hle' : ∀ r ∈ reports, r.bytes.toNat ≤ size.toNat := fun r hr => hle r hr
  have hsub : (reports.map fun r => (size - r.bytes).toNat) =
      reports.map fun r => size.toNat - r.bytes.toNat :=
    List.map_congr_left fun r hr => UInt64.toNat_sub_of_le _ _ (hle r hr)
  have hsum := sum_left_add_sum_moved size reports hle'
  have hlen : 0 < reports.length := List.length_pos.2 hne
  obtain ⟨hleft, hmoved⟩ := bytesLoop_toNat size 0 0 reports
  rw [hsub] at hleft
  simp only [UInt64.toNat_zero, Nat.zero_add] at hleft hmoved
  simp only [moveProgress]
  split_ifs with hz
  · rw [hz.1, UInt64.toNat_zero] at hmoved
    rw [hz.2, UInt64.toNat_zero] at hleft
    have hsize : size.toNat = 0 :=
      (Nat.mul_eq_zero.1 (by omega : size.toNat * reports.length = 0)).resolve_right (by omega)
    omega
  · omega

/-- For every moving partition both handlers report the same byte fields. `bytes_moved` is
the sum of the reports in `size_t`; with no report everything is left to move; and when
every report is at most the partition size and the total fits a `size_t`,
`bytes_left_to_move` is the sum of the differences, at most size times reports. -/
theorem reported_move_progress
    (subtract : List BrokerShard → List BrokerShard → List BrokerShard)
    (p : ReconfigurationState) :
    (∀ st, decommissionPartitionStatus subtract p = some st →
      st.progress = (reconfigurationEntry p).progress) ∧
    (reconfigurationEntry p).progress.bytesMoved.toNat =
      (p.alreadyTransferredBytes.map fun r => r.bytes.toNat).sum % 2 ^ 64 ∧
    (p.alreadyTransferredBytes = [] →
      (reconfigurationEntry p).progress.bytesLeftToMove = p.currentPartitionSize) ∧
    (p.alreadyTransferredBytes ≠ [] →
      (∀ r ∈ p.alreadyTransferredBytes, r.bytes ≤ p.currentPartitionSize) →
      p.currentPartitionSize.toNat * p.alreadyTransferredBytes.length < 2 ^ 64 →
      (reconfigurationEntry p).progress.bytesLeftToMove.toNat =
          (p.alreadyTransferredBytes.map fun r =>
            p.currentPartitionSize.toNat - r.bytes.toNat).sum ∧
        (reconfigurationEntry p).progress.bytesLeftToMove.toNat ≤
          p.currentPartitionSize.toNat * p.alreadyTransferredBytes.length) := by
  refine ⟨fun st h => ?_, ?_, fun h => by simp [reconfigurationEntry, h, moveProgress_nil],
    moveProgress_bytesLeftToMove_of_le _ _⟩
  · unfold decommissionPartitionStatus at h
    split at h
    · cases h; rfl
    · cases h
  · simpa [reconfigurationEntry, moveProgress] using (bytesLoop_toNat _ 0 0 _).2

/-- A replica that reports more bytes than the partition holds, as after the leader trims its
log, makes the `size_t` subtraction wrap: for a partition of 10 bytes with one report of 15,
both handlers report `2^64 - 5` bytes left to move, above the partition size times the number
of reports. -/
theorem bytesLeftToMove_wraps_when_report_exceeds_size :
    let p : ReconfigurationState := ⟨⟨"kafka", "t", 0⟩, [⟨2, 0⟩], [⟨1, 0⟩], [⟨2, 15⟩], 10⟩
    (reconfigurationEntry p).progress.bytesLeftToMove = 18446744073709551611 ∧
      (decommissionPartitionStatus (fun cur prev => cur.filter (· ∉ prev)) p).map
        (·.progress.bytesLeftToMove) = some 18446744073709551611 ∧
      (reconfigurationEntry p).progress.bytesLeftToMove.toNat >
        p.currentPartitionSize.toNat * p.alreadyTransferredBytes.length := by
  decide

/-! ### Reconciliation statuses -/

/-- `cluster::backend_operation`: the fields the handler reads, with the operation type and
the last result (`cluster::errc`) by their values. -/
structure BackendOperation where
  sourceShard : UInt32
  type : Int
  currentRetry : Nat
  lastOperationResult : Int
  revisionOfOperation : Int
  deriving DecidableEq, Repr

/-- `cluster::node_backend_operations`. -/
structure NodeBackendOperations where
  nodeId : Int
  backendOperations : List BackendOperation
  deriving DecidableEq, Repr

/-- `cluster::global_reconciliation_state`: each partition's backend operations, by node. -/
structure GlobalReconciliationState where
  ntpBackendOperations : Ntp → Option (List NodeBackendOperations)

/-- The renderings the handler takes from outside the sources: `error_category().message`
and `fmt` of an `errc`, and `fmt` of a `partition_operation_type`. -/
structure OperationFormat where
  errcMessage : Int → String
  formatErrc : Int → String
  formatType : Int → String

/-- `partition_json::partition_reconciliation_operation`. -/
structure PartitionReconciliationOperation where
  core : UInt32
  retryNumber : Nat
  revision : Int
  status : String
  type : String
  deriving DecidableEq, Repr

/-- `partition_json::partition_reconciliation_status`. -/
structure PartitionReconciliationStatus where
  nodeId : Int
  operations : List PartitionReconciliationOperation
  deriving DecidableEq, Repr

/-- The body of the operations loop (`server.cc:2857–2867`) for the operation `op`, with
`current_op` the operation its other fields are read from. -/
def reconciliationOperation (fmt : OperationFormat) (op currentOp : BackendOperation) :
    PartitionReconciliationOperation :=
  { core := op.sourceShard, retryNumber := currentOp.currentRetry,
    revision := currentOp.revisionOfOperation,
    status := fmt.errcMessage currentOp.lastOperationResult ++ " (" ++
      fmt.formatErrc currentOp.lastOperationResult ++ ")",
    type := fmt.formatType currentOp.type }

/-- The operations loop (`server.cc:2855–2868`): one entry per backend operation, with
`current_op` bound to `backend_operations.front()`. -/
def reconciliationOperations (fmt : OperationFormat) :
    List BackendOperation → List PartitionReconciliationOperation
  | [] => []
  | front :: rest => (front :: rest).map fun op => reconciliationOperation fmt op front

/-- The reconciliation statuses of a partition (`server.cc:2850–2871`): one per node with
backend operations for it, none when the state has no entry for it. -/
def reconciliationStatuses (fmt : OperationFormat) (reconciliations : GlobalReconciliationState)
    (ntp : Ntp) : List PartitionReconciliationStatus :=
  match reconciliations.ntpBackendOperations ntp with
  | none => []
  | some nodes =>
    nodes.map fun nodeOps =>
      ⟨nodeOps.nodeId, reconciliationOperations fmt nodeOps.backendOperations⟩

/-- `admin_server::get_reconfigurations_handler` (`server.cc:2771–2874`) once both cluster
calls have answered: the failure of the reconfiguration states, as its message and its code,
or one streamed entry per state with its reconciliation statuses. -/
def getReconfigurationsHandler (fmt : OperationFormat)
    (states : Except (String × String) (List ReconfigurationState))
    (reconciliations : GlobalReconciliationState) :
    Except HandlerException (List (Reconfiguration × List PartitionReconciliationStatus)) :=
  match states with
  | .error (message, code) =>
    .error (.base ("unable to get reconfiguration status: " ++ message ++ "(" ++ code ++ ")") 503)
  | .ok states =>
    .ok (states.map fun s =>
      (reconfigurationEntry s, reconciliationStatuses fmt reconciliations s.ntp))

/-- The loop emits one entry per backend operation, in order, each with its own core and
with every other field read from the first operation. -/
theorem reconciliationOperations_eq (fmt : OperationFormat) (ops : List BackendOperation) :
    reconciliationOperations fmt ops =
      ops.map fun op => reconciliationOperation fmt op (ops.headD op) := by
  cases ops <;> rfl

/-- A node reporting two operations with different retries and revisions: the second entry
takes its core from the second operation but its retry and revision from the first. -/
theorem reconciliation_fields_read_from_front (fmt : OperationFormat) :
    let first : BackendOperation := ⟨0, 1, 0, 0, 10⟩
    let second : BackendOperation := ⟨1, 2, 3, 0, 11⟩
    let state : ReconfigurationState := ⟨⟨"kafka", "t", 0⟩, [], [], [], 0⟩
    getReconfigurationsHandler fmt (.ok [state]) ⟨fun _ => some [⟨1, [first, second]⟩]⟩ =
        .ok [(reconfigurationEntry state, [⟨1, [reconciliationOperation fmt first first,
          reconciliationOperation fmt second first]⟩])] ∧
      (reconciliationOperation fmt second first).core = second.sourceShard ∧
      (reconciliationOperation fmt second first).retryNumber ≠ second.currentRetry ∧
      (reconciliationOperation fmt second first).revision ≠ second.revisionOfOperation :=
  ⟨rfl, rfl, by simp [reconciliationOperation], by simp [reconciliationOperation]⟩

end Redpanda.Admin
