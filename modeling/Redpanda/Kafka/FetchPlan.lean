import Redpanda.Kafka.Fetch
import Redpanda.Admin.Request

/-!
# Planning a fetch across shards and placing the results

`src/v/kafka/server/handlers/fetch.h:141–256`: the read configuration of one partition
(`fetch_config`, `ntp_fetch_config`), the requests a shard serves beside the response
iterators their results go to (`shard_fetch`), and the plan with one `shard_fetch` per
shard (`fetch_plan`). The planner that fills a plan and the dispatch that runs it are in
`fetch.cc`, which is not in the sources: they are modelled from the spec (§4.2–4.4) and say
so. A `response_iterator` is modelled by the position of the response slot it points at, and
the response by its slots, `none` for a placeholder not yet set. The partition locator, the
read configuration the planner builds and the log reader are parameters.
-/

namespace Redpanda.Kafka

open Redpanda.Admin (Ntp)
open scoped List

/-- `model::isolation_level`. -/
inductive IsolationLevel where
  | readUncommitted
  | readCommitted
  deriving DecidableEq, Repr

/-- `fetch_config` (`fetch.h:141–148`); the timeout is a `model::timeout_clock` tick. -/
structure FetchConfig where
  startOffset : Int
  maxOffset : Int
  isolationLevel : IsolationLevel
  maxBytes : UInt64
  timeout : Nat
  strictMaxBytes : Bool
  deriving DecidableEq, Repr

/-- `ntp_fetch_config` (`fetch.h:150–163`). -/
structure NtpFetchConfig where
  ntp : Ntp
  cfg : FetchConfig
  materializedNtp : Option Ntp
  deriving DecidableEq, Repr

/-- `op_context::response_iterator` (`fetch.h:23–49`), by the slot it points at. -/
structure ResponseIterator where
  slot : Nat
  deriving DecidableEq, Repr

/-- Modelled from the spec: `response_iterator::set` (§4.2), the slot takes the partition's
response. -/
def ResponseIterator.set {β : Type} (it : ResponseIterator) (response : Nat → Option β)
    (r : β) : Nat → Option β :=
  Function.update response it.slot (some r)

/-- `shard_fetch` (`fetch.h:228–249`). -/
structure ShardFetch where
  requests : List NtpFetchConfig
  responses : List ResponseIterator
  deriving DecidableEq, Repr

namespace ShardFetch

/-- `shard_fetch::push_back`. -/
def pushBack (s : ShardFetch) (config : NtpFetchConfig) (it : ResponseIterator) : ShardFetch :=
  ⟨s.requests ++ [config], s.responses ++ [it]⟩

/-- `shard_fetch::empty`, `none` where its `vassert` fails and the process aborts. -/
def empty (s : ShardFetch) : Option Bool :=
  if s.requests.length = s.responses.length then some s.requests.isEmpty else none

/-- Modelled from the spec: what a shard writes when it runs its fetch (§4.4, step 3), the
read of each request through the response iterator beside it, in order. -/
def writes {β : Type} (read : NtpFetchConfig → β) (s : ShardFetch) :
    List (ResponseIterator × β) :=
  (s.responses.zip s.requests).map fun w => (w.1, read w.2)

theorem writes_pushBack {β : Type} (read : NtpFetchConfig → β) {s : ShardFetch}
    (h : s.requests.length = s.responses.length) (config : NtpFetchConfig)
    (it : ResponseIterator) :
    (s.pushBack config it).writes read = s.writes read ++ [(it, read config)] := by
  simp [writes, pushBack, List.zip_append h.symm]

end ShardFetch

/-- `fetch_plan` (`fetch.h:251–256`): one `shard_fetch` per shard. -/
structure FetchPlan (shards : Nat) where
  fetchesPerShard : Fin shards → ShardFetch

namespace FetchPlan

variable {shards : Nat}

/-- `fetch_plan(shards)`. -/
def init (shards : Nat) : FetchPlan shards := ⟨fun _ => ⟨[], []⟩⟩

/-- `fetches_per_shard[shard].push_back(config, it)`. -/
def pushBack (plan : FetchPlan shards) (shard : Fin shards) (config : NtpFetchConfig)
    (it : ResponseIterator) : FetchPlan shards :=
  ⟨Function.update plan.fetchesPerShard shard ((plan.fetchesPerShard shard).pushBack config it)⟩

/-- Every shard holds as many response iterators as requests: what `shard_fetch::empty`
asserts. -/
def Paired (plan : FetchPlan shards) : Prop :=
  ∀ shard, (plan.fetchesPerShard shard).requests.length =
    (plan.fetchesPerShard shard).responses.length

/-- Modelled from the spec: the writes of every shard (§4.4, step 3). The shards run
independently, so the response sees them in any interleaving of these. -/
def writes {β : Type} (read : NtpFetchConfig → β) (plan : FetchPlan shards) :
    List (ResponseIterator × β) :=
  (List.finRange shards).flatMap fun shard => (plan.fetchesPerShard shard).writes read

theorem pushBack_fetchesPerShard (plan : FetchPlan shards) (shard : Fin shards)
    (config : NtpFetchConfig) (it : ResponseIterator) (s : Fin shards) :
    (plan.pushBack shard config it).fetchesPerShard s =
      if s = shard then (plan.fetchesPerShard s).pushBack config it
      else plan.fetchesPerShard s := by
  by_cases hs : s = shard
  · subst hs; simp [pushBack]
  · simp [pushBack, hs]

theorem paired_init : (init shards).Paired := fun _ => rfl

theorem Paired.pushBack {plan : FetchPlan shards} (h : plan.Paired) (shard : Fin shards)
    (config : NtpFetchConfig) (it : ResponseIterator) : (plan.pushBack shard config it).Paired := by
  intro s
  rw [pushBack_fetchesPerShard]
  split_ifs
  · simp [ShardFetch.pushBack, h s]
  · exact h s

/-- A paired shard never fails the assertion of `shard_fetch::empty`. -/
theorem Paired.empty {plan : FetchPlan shards} (h : plan.Paired) (shard : Fin shards) :
    (plan.fetchesPerShard shard).empty = some (plan.fetchesPerShard shard).requests.isEmpty :=
  if_pos (h shard)

/-- Appending to the lists of one key of a duplicate-free key list appends to their
concatenation, up to order. -/
theorem flatMap_perm_append_of_eq_ite {α γ : Type} [DecidableEq α] {l : List α} (hl : l.Nodup)
    {t : α} (ht : t ∈ l) {f g : α → List γ} (xs : List γ)
    (hg : ∀ a, g a = if a = t then f a ++ xs else f a) : l.flatMap g ~ l.flatMap f ++ xs := by
  induction l with
  | nil => simp at ht
  | cons a l ih =>
    obtain ⟨hal, hl⟩ := List.nodup_cons.1 hl
    rw [List.flatMap_cons, List.flatMap_cons, hg a]
    by_cases hat : a = t
    · subst hat
      have hrest : l.flatMap g = l.flatMap f :=
        List.flatMap_congr fun b hb => by rw [hg b, if_neg (ne_of_mem_of_not_mem hb hal)]
      rw [if_pos rfl, hrest, List.append_assoc, List.append_assoc]
      exact (List.perm_append_comm).append_left _
    · rw [if_neg hat, List.append_assoc]
      exact (ih hl ((List.mem_cons.1 ht).resolve_left (Ne.symm hat))).append_left _

/-- One push adds exactly its own write to those of the plan. -/
theorem Paired.writes_pushBack {β : Type} (read : NtpFetchConfig → β) {plan : FetchPlan shards}
    (h : plan.Paired) (shard : Fin shards) (config : NtpFetchConfig) (it : ResponseIterator) :
    (plan.pushBack shard config it).writes read ~ plan.writes read ++ [(it, read config)] := by
  refine flatMap_perm_append_of_eq_ite (List.nodup_finRange shards) (List.mem_finRange shard)
    _ fun s => ?_
  rw [pushBack_fetchesPerShard]
  split_ifs with hs
  · exact ShardFetch.writes_pushBack read (h s) config it
  · rfl

end FetchPlan

/-! ### The planner and the dispatch -/

section Planner

variable {shards : Nat} {β : Type} (shardFor : FetchSessionPartition → Option (Fin shards))
  (config : FetchSessionPartition → NtpFetchConfig) (read : NtpFetchConfig → β)
  (notLeader : FetchSessionPartition → β)

/-- Modelled from the spec: the fetch planner (§4.3) over the partitions of a pass from slot
`slot` on. A partition a shard hosts is pushed to that shard with the iterator of its own
slot; the slot of one that no shard hosts is filled at once with the error, and the partition
is left out of the plan. -/
def planFrom : Nat → FetchPlan shards × List (ResponseIterator × β) →
    List FetchSessionPartition → FetchPlan shards × List (ResponseIterator × β)
  | _, acc, [] => acc
  | slot, (plan, filled), p :: ps =>
    match shardFor p with
    | none => planFrom (slot + 1) (plan, filled ++ [(⟨slot⟩, notLeader p)]) ps
    | some shard => planFrom (slot + 1) (plan.pushBack shard (config p) ⟨slot⟩, filled) ps

/-- Modelled from the spec: the plan of a pass and the error fills it makes, the `i`-th
partition of `for_each_fetch_partition` answering into slot `i` (§4.2, §4.3). -/
def planFetch (ctx : OpContext) : FetchPlan shards × List (ResponseIterator × β) :=
  planFrom shardFor config notLeader 0 (FetchPlan.init shards, []) ctx.forEachFetchPartition

/-- The response of a pass: its placeholders, set by the planner's error fills and then by
the shards' writes in the order given. -/
def passResponse (filled writes : List (ResponseIterator × β)) : Nat → Option β :=
  (filled ++ writes).foldl (fun response w => w.1.set response w.2) fun _ => none

/-- What a pass answers for one partition: the read of its configuration where a shard hosts
it, the error where none does. -/
def partitionOutcome (p : FetchSessionPartition) : β :=
  match shardFor p with
  | none => notLeader p
  | some _ => read (config p)

theorem planFrom_paired : ∀ (slot : Nat) (acc : FetchPlan shards × List (ResponseIterator × β))
    (ps : List FetchSessionPartition), acc.1.Paired →
    (planFrom shardFor config notLeader slot acc ps).1.Paired
  | _, _, [], h => h
  | slot, (plan, filled), p :: ps, h => by
    unfold planFrom
    split
    · exact planFrom_paired _ _ ps h
    · exact planFrom_paired _ _ ps (h.pushBack _ _ _)

/-- The planner's fills and the plan's writes are, up to order, one write per partition of
the pass, into its own slot, of what the pass answers for it. -/
theorem planFrom_writes_perm : ∀ (slot : Nat) (plan : FetchPlan shards)
    (filled : List (ResponseIterator × β)) (ps : List FetchSessionPartition), plan.Paired →
    (planFrom shardFor config notLeader slot (plan, filled) ps).2 ++
        (planFrom shardFor config notLeader slot (plan, filled) ps).1.writes read ~
      filled ++ plan.writes read ++
        (ps.enumFrom slot).map fun x => (⟨x.1⟩, partitionOutcome shardFor config read notLeader x.2)
  | _, _, _, [], _ => by simp [planFrom]
  | slot, plan, filled, p :: ps, h => by
    rw [List.enumFrom_cons, List.map_cons]
    unfold planFrom
    split
    · next hp =>
      refine (planFrom_writes_perm (slot + 1) plan _ ps h).trans ?_
      simp only [partitionOutcome, hp, List.append_assoc, List.singleton_append]
      exact (List.perm_middle.symm).append_left _
    · next shard hp =>
      refine (planFrom_writes_perm (slot + 1) _ filled ps (h.pushBack _ _ _)).trans ?_
      have hpush := h.writes_pushBack read shard (config p) ⟨slot⟩
      simp only [List.append_assoc]
      refine ((hpush.append_right _).append_left _).trans ?_
      simp [partitionOutcome, hp]

theorem writes_init : (FetchPlan.init shards).writes read = [] := by
  simp [FetchPlan.writes, FetchPlan.init, ShardFetch.writes]

theorem planFetch_writes_perm (ctx : OpContext) :
    (planFetch shardFor config notLeader ctx).2 ++
        (planFetch shardFor config notLeader ctx).1.writes read ~
      ctx.forEachFetchPartition.enum.map fun x =>
        (⟨x.1⟩, partitionOutcome shardFor config read notLeader x.2) := by
  have := planFrom_writes_perm shardFor config read notLeader 0 (FetchPlan.init shards) []
    ctx.forEachFetchPartition FetchPlan.paired_init
  rwa [writes_init, List.nil_append, List.nil_append] at this

/-- A slot that no write names keeps its placeholder. -/
theorem foldl_set_of_not_mem (ws : List (ResponseIterator × β)) (response : Nat → Option β)
    {i : Nat} (h : i ∉ ws.map (·.1.slot)) :
    ws.foldl (fun response w => w.1.set response w.2) response i = response i := by
  induction ws generalizing response with
  | nil => rfl
  | cons w ws ih =>
    simp only [List.map_cons, List.mem_cons, not_or] at h
    rw [List.foldl_cons, ih _ h.2, ResponseIterator.set, Function.update_noteq h.1]

/-- A slot that some write names, all of whose writes agree, holds their value. -/
theorem foldl_set_of_mem (ws : List (ResponseIterator × β)) (response : Nat → Option β)
    {i : Nat} {v : β} (hv : ∀ w ∈ ws, w.1.slot = i → w.2 = v) (h : i ∈ ws.map (·.1.slot)) :
    ws.foldl (fun response w => w.1.set response w.2) response i = some v := by
  induction ws generalizing response with
  | nil => simp at h
  | cons w ws ih =>
    rw [List.foldl_cons]
    by_cases hi : i ∈ ws.map (·.1.slot)
    · exact ih _ (fun w' hw' => hv w' (List.mem_cons_of_mem _ hw')) hi
    · have hw : w.1.slot = i := by simpa [hi, eq_comm] using h
      rw [foldl_set_of_not_mem _ _ hi, ResponseIterator.set, ← hw, Function.update_same,
        hv w (List.mem_cons_self _ _) hw]

/-- Whatever order the shards' writes reach the response in, the pass answers every
partition of `for_each_fetch_partition`, in its own slot, as if the partitions were read one
by one in order: with the read of its configuration where a shard hosts it, and with the
error where none does. No slot beyond the pass's partitions is set. -/
theorem passResponse_eq_partitionOutcome (ctx : OpContext) {ws : List (ResponseIterator × β)}
    (hws : ws ~ (planFetch shardFor config notLeader ctx).1.writes read) (i : Nat) :
    passResponse (planFetch shardFor config notLeader ctx).2 ws i =
      ctx.forEachFetchPartition[i]?.map (partitionOutcome shardFor config read notLeader) := by
  have hperm := (hws.append_left _).trans (planFetch_writes_perm shardFor config read notLeader ctx)
  have hmem : ∀ w, w ∈ (planFetch shardFor config notLeader ctx).2 ++ ws ↔
      ∃ p, ctx.forEachFetchPartition[w.1.slot]? = some p ∧
        w.2 = partitionOutcome shardFor config read notLeader p := by
    intro w
    rw [hperm.mem_iff, List.mem_map]
    constructor
    · rintro ⟨⟨j, p⟩, hj, rfl⟩
      exact ⟨p, List.mem_enum_iff_getElem?.1 hj, rfl⟩
    · rintro ⟨p, hp, hw⟩
      exact ⟨(w.1.slot, p), List.mem_enum_iff_getElem?.2 hp, Prod.ext rfl hw.symm⟩
  unfold passResponse
  cases hi : ctx.forEachFetchPartition[i]? with
  | none =>
    refine foldl_set_of_not_mem _ _ fun h => ?_
    obtain ⟨w, hw, rfl⟩ := List.mem_map.1 h
    obtain ⟨p, hp, -⟩ := (hmem w).1 hw
    rw [hi] at hp
    cases hp
  | some p =>
    refine foldl_set_of_mem _ _ (fun w hw hwi => ?_) ?_
    · obtain ⟨q, hq, hwq⟩ := (hmem w).1 hw
      rw [hwi, hi] at hq
      cases hq
      exact hwq
    · exact List.mem_map.2 ⟨(⟨i⟩, partitionOutcome shardFor config read notLeader p),
        (hmem _).2 ⟨p, hi, rfl⟩, rfl⟩

/-- Three partitions of `orders`: the first hosted on shard 0, the second on no shard, the
third on shard 1, whose write reaches the response first. -/
theorem passResponse_shards_answer_out_of_order :
    let ctx : OpContext :=
      ⟨⟨100, 1, [⟨"orders", [⟨0, 5, 1024⟩, ⟨1, 5, 1024⟩, ⟨2, 5, 1024⟩]⟩]⟩, none, 0, false,
        ⟨none, false⟩⟩
    let shardFor : FetchSessionPartition → Option (Fin 2) := fun p =>
      if p.partition = 0 then some 0 else if p.partition = 2 then some 1 else none
    let config : FetchSessionPartition → NtpFetchConfig := fun p =>
      ⟨⟨"kafka", p.topic, p.partition⟩, ⟨p.fetchOffset, 0, .readCommitted, 1024, 0, false⟩, none⟩
    let read : NtpFetchConfig → Int := fun c => 10 * c.ntp.partition
    let notLeader : FetchSessionPartition → Int := fun _ => -1
    let ws : List (ResponseIterator × Int) := [(⟨2⟩, 20), (⟨0⟩, 0)]
    ws ~ (planFetch shardFor config notLeader ctx).1.writes read ∧
      ∀ i, passResponse (planFetch shardFor config notLeader ctx).2 ws i =
        ctx.forEachFetchPartition[i]?.map (partitionOutcome shardFor config read notLeader) :=
  ⟨List.Perm.swap _ _ _, passResponse_eq_partitionOutcome _ _ _ _ _ (List.Perm.swap _ _ _)⟩

end Planner

end Redpanda.Kafka
