import Redpanda.Admin.Request

/-!
# The local partitions summary

`src/v/redpanda/admin/server.cc:3115–3156`, the `get_partitions_local_summary` route. Each
shard counts its partitions, the leaderless ones and the under-replicated ones in `uint64_t`,
and `map_reduce0` adds the shards' counts up as they arrive, in whatever order that is. The
partition manager and `cluster::partition` are outside the sources; a partition is what the
route reads of it.
-/

namespace Redpanda.Admin

/-- What the route reads of a `cluster::partition`: `get_leader_id()` and
`get_under_replicated()`. -/
structure PartitionView where
  leaderId : Option Int
  underReplicated : Option Nat
  deriving DecidableEq, Repr

/-- `summary_t`. -/
structure SummaryT where
  count : UInt64
  leaderless : UInt64
  underReplicated : UInt64
  deriving DecidableEq, Repr

/-- One partition of the per-shard loop (`server.cc:3131–3139`). -/
def countPartition (s : SummaryT) (p : PartitionView) : SummaryT :=
  { count := s.count + 1,
    leaderless := if p.leaderId.isNone then s.leaderless + 1 else s.leaderless,
    underReplicated :=
      if p.underReplicated.isNone then s.underReplicated + 1 else s.underReplicated }

/-- The mapper each shard runs over `pm.partitions()` (`server.cc:3129–3141`). -/
def shardSummary (partitions : List PartitionView) : SummaryT :=
  partitions.foldl countPartition ⟨0, 0, 0⟩

/-- The reducer (`server.cc:3143–3148`). -/
def addSummaries (acc update : SummaryT) : SummaryT :=
  ⟨acc.count + update.count, acc.leaderless + update.leaderless,
    acc.underReplicated + update.underReplicated⟩

/-- `sharded::map_reduce0(mapper, initial, reduce)`, the shards' results reduced in the
order they arrive. -/
def mapReduce0 {α β : Type} (mapper : α → β) (initial : β) (reduce : β → β → β)
    (arrival : List α) : β :=
  (arrival.map mapper).foldl reduce initial

/-- The route (`server.cc:3115–3156`) over the shards' partitions, in arrival order. -/
def partitionsLocalSummary (arrival : List (List PartitionView)) : SummaryT :=
  mapReduce0 shardSummary ⟨0, 0, 0⟩ addSummaries arrival

/-! ### Counting in `uint64_t` -/

theorem toNat_add_one_if (x : UInt64) (c : Bool) :
    (if c then x + 1 else x).toNat = (x.toNat + if c then 1 else 0) % 2 ^ 64 := by
  cases c
  · simp [Nat.mod_eq_of_lt (UInt64.toNat_lt_size x)]
  · exact UInt64.toNat_add x 1

theorem mod_add_mod_comm (a x y : Nat) :
    ((a + x) % 2 ^ 64 + y) % 2 ^ 64 = (a + (y + x)) % 2 ^ 64 := by
  rw [Nat.mod_add_mod, Nat.add_assoc, Nat.add_comm x]

theorem add_mod_add_mod (a x y : Nat) :
    ((a + x % 2 ^ 64) % 2 ^ 64 + y) % 2 ^ 64 = (a + (x + y)) % 2 ^ 64 := by
  rw [Nat.mod_add_mod, Nat.add_right_comm, Nat.add_mod_mod, Nat.add_right_comm, Nat.add_assoc]

/-- One partition adds one to the count, one to the leaderless count without a leader, and
one to the under-replicated count when its count is empty, modulo `2^64`. -/
theorem countPartition_toNat (s : SummaryT) (p : PartitionView) :
    (countPartition s p).count.toNat = (s.count.toNat + 1) % 2 ^ 64 ∧
    (countPartition s p).leaderless.toNat =
      (s.leaderless.toNat + if p.leaderId.isNone then 1 else 0) % 2 ^ 64 ∧
    (countPartition s p).underReplicated.toNat =
      (s.underReplicated.toNat + if p.underReplicated.isNone then 1 else 0) % 2 ^ 64 :=
  ⟨UInt64.toNat_add _ 1, toNat_add_one_if _ _, toNat_add_one_if _ _⟩

/-- The per-shard loop adds, modulo `2^64`, one per partition, one per partition without a
leader and one per partition whose under-replicated count is empty. -/
theorem foldl_countPartition (ps : List PartitionView) (s : SummaryT) :
    (ps.foldl countPartition s).count.toNat = (s.count.toNat + ps.length) % 2 ^ 64 ∧
    (ps.foldl countPartition s).leaderless.toNat =
      (s.leaderless.toNat + ps.countP (·.leaderId.isNone)) % 2 ^ 64 ∧
    (ps.foldl countPartition s).underReplicated.toNat =
      (s.underReplicated.toNat + ps.countP (·.underReplicated.isNone)) % 2 ^ 64 := by
  induction ps generalizing s with
  | nil => simp [Nat.mod_eq_of_lt (UInt64.toNat_lt_size _)]
  | cons p ps ih =>
    obtain ⟨hcount, hleaderless, hunder⟩ := ih (countPartition s p)
    obtain ⟨scount, sleaderless, sunder⟩ := countPartition_toNat s p
    rw [List.foldl_cons, hcount, hleaderless, hunder, scount, sleaderless, sunder,
      List.length_cons, List.countP_cons, List.countP_cons]
    exact ⟨mod_add_mod_comm .., mod_add_mod_comm .., mod_add_mod_comm ..⟩

/-- The reducer adds each count, modulo `2^64`. -/
theorem addSummaries_toNat (acc update : SummaryT) :
    (addSummaries acc update).count.toNat = (acc.count.toNat + update.count.toNat) % 2 ^ 64 ∧
    (addSummaries acc update).leaderless.toNat =
      (acc.leaderless.toNat + update.leaderless.toNat) % 2 ^ 64 ∧
    (addSummaries acc update).underReplicated.toNat =
      (acc.underReplicated.toNat + update.underReplicated.toNat) % 2 ^ 64 :=
  ⟨UInt64.toNat_add _ _, UInt64.toNat_add _ _, UInt64.toNat_add _ _⟩

/-- Reducing the shards' summaries adds each count up over the shards, modulo `2^64`. -/
theorem foldl_addSummaries (arrival : List (List PartitionView)) (s : SummaryT) :
    ((arrival.map shardSummary).foldl addSummaries s).count.toNat =
      (s.count.toNat + (arrival.map List.length).sum) % 2 ^ 64 ∧
    ((arrival.map shardSummary).foldl addSummaries s).leaderless.toNat =
      (s.leaderless.toNat + (arrival.map (·.countP (·.leaderId.isNone))).sum) % 2 ^ 64 ∧
    ((arrival.map shardSummary).foldl addSummaries s).underReplicated.toNat =
      (s.underReplicated.toNat + (arrival.map (·.countP (·.underReplicated.isNone))).sum) %
        2 ^ 64 := by
  induction arrival generalizing s with
  | nil => simp [Nat.mod_eq_of_lt (UInt64.toNat_lt_size _)]
  | cons ps rest ih =>
    obtain ⟨hcount, hleaderless, hunder⟩ := ih (addSummaries s (shardSummary ps))
    obtain ⟨scount, sleaderless, sunder⟩ := addSummaries_toNat s (shardSummary ps)
    obtain ⟨gcount, gleaderless, gunder⟩ := foldl_countPartition ps ⟨0, 0, 0⟩
    rw [List.map_cons, List.foldl_cons, hcount, hleaderless, hunder, scount, sleaderless,
      sunder, shardSummary, gcount, gleaderless, gunder]
    simp only [List.map_cons, List.sum_cons, UInt64.toNat_zero, Nat.zero_add]
    exact ⟨add_mod_add_mod .., add_mod_add_mod .., add_mod_add_mod ..⟩

/-- Whatever order the shards answer in, the summary holds, modulo `2^64`, the number of
partitions, of those without a leader and of those whose `get_under_replicated()` is empty,
each summed over the shards. -/
theorem partitionsLocalSummary_toNat {shards arrival : List (List PartitionView)}
    (h : arrival.Perm shards) :
    (partitionsLocalSummary arrival).count.toNat = (shards.map List.length).sum % 2 ^ 64 ∧
    (partitionsLocalSummary arrival).leaderless.toNat =
      (shards.map (·.countP (·.leaderId.isNone))).sum % 2 ^ 64 ∧
    (partitionsLocalSummary arrival).underReplicated.toNat =
      (shards.map (·.countP (·.underReplicated.isNone))).sum % 2 ^ 64 := by
  obtain ⟨hcount, hleaderless, hunder⟩ := foldl_addSummaries arrival ⟨0, 0, 0⟩
  simp only [UInt64.toNat_zero, Nat.zero_add] at hcount hleaderless hunder
  exact ⟨hcount.trans (by rw [(h.map _).sum_eq]), hleaderless.trans (by rw [(h.map _).sum_eq]),
    hunder.trans (by rw [(h.map _).sum_eq])⟩

/-- Two shards answering in the other order, one leading its partition and one whose
partition has no leader and an empty under-replicated count. -/
theorem partitionsLocalSummary_two_shards_swapped :
    let a : List PartitionView := [⟨some 1, some 0⟩]
    let b : List PartitionView := [⟨none, none⟩]
    [b, a].Perm [a, b] ∧
      (partitionsLocalSummary [b, a]).count.toNat = ([a, b].map List.length).sum % 2 ^ 64 ∧
      (partitionsLocalSummary [b, a]).leaderless.toNat =
        ([a, b].map (·.countP (·.leaderId.isNone))).sum % 2 ^ 64 ∧
      (partitionsLocalSummary [b, a]).underReplicated.toNat =
        ([a, b].map (·.countP (·.underReplicated.isNone))).sum % 2 ^ 64 :=
  ⟨List.Perm.swap _ _ _, partitionsLocalSummary_toNat (List.Perm.swap _ _ _)⟩

/-- A shard leading one partition with two replicas behind reports no under-replicated
partition, and a shard following one partition, whose count is empty, reports one. -/
theorem underReplicated_counts_empty_counts :
    partitionsLocalSummary [[⟨some 1, some 2⟩]] = ⟨1, 0, 0⟩ ∧
      partitionsLocalSummary [[⟨some 2, none⟩]] = ⟨1, 0, 1⟩ := by
  decide

end Redpanda.Admin
