import Mathlib

/-!
# Fetch operation context and read results

`src/v/kafka/server/handlers/fetch.h`. The debounce loop asks `shouldStopFetch` after
every planning pass, `forEachFetchPartition` lists what a pass fetches, and a
`ReadResult` carries what one partition's read returned.
The request decoder (`kafka/protocol/fetch.h`) and the session table
(`kafka/server/fetch_session.h`) are not in the sources; the few members of theirs
that the context reads are modelled from the spec and say so.
Byte counts are `size_t` (`UInt64`); `min_bytes` is the wire's `int32` (`BitVec 32`).
-/

namespace Redpanda.Kafka

/-- One requested partition, as decoded from the wire (`fetch_request::partition`). -/
structure FetchPartition where
  partitionIndex : Int
  fetchOffset : Int
  maxBytes : Int
  deriving DecidableEq, Repr

/-- One requested topic with its partitions in request order (`fetch_request::topic`). -/
structure FetchTopic where
  name : String
  partitions : List FetchPartition
  deriving DecidableEq, Repr

/-- The decoded request fields the context reads (`fetch_request::data`). -/
structure FetchRequest where
  maxWaitMs : Int
  minBytes : BitVec 32
  topics : List FetchTopic
  deriving DecidableEq, Repr

namespace FetchRequest

/-- Modelled from the spec: `fetch_request::debounce_delay` (`kafka/protocol/fetch.h`).
No delay when the caller asked for no wait, a maximum wait of zero or less (§4.4). -/
def debounceDelay (r : FetchRequest) : Option Int :=
  if r.maxWaitMs ≤ 0 then none else some r.maxWaitMs

/-- Modelled from the spec: `fetch_request::empty` (`kafka/protocol/fetch.h`). The request's
partition set is empty: it lists no topic, or only topics without partitions (§4.4). -/
def empty (r : FetchRequest) : Bool :=
  r.topics.all fun t => t.partitions.isEmpty

/-- Modelled from the spec: `fetch_request::const_iterator` (`kafka/protocol/fetch.h`) visits
every partition with its topic, topic by topic in request order (§4.2). -/
def partitions (r : FetchRequest) : List (String × FetchPartition) :=
  r.topics.flatMap fun t => t.partitions.map fun p => (t.name, p)

/-- A request is empty exactly when its iterator visits nothing. -/
theorem empty_iff_partitions_eq_nil (r : FetchRequest) :
    r.empty = true ↔ r.partitions = [] := by
  simp [empty, partitions, List.flatMap_eq_nil_iff]

end FetchRequest

/-- The cursor a fetch keeps for one partition (`fetch_session_partition`). -/
structure FetchSessionPartition where
  topic : String
  partition : Int
  maxBytes : Int
  fetchOffset : Int
  deriving DecidableEq, Repr

/-- Modelled from the spec: a fetch session (`kafka/server/fetch_session.h`) owns its
partitions in insertion order (§3, FetchSession). -/
structure FetchSession where
  partitions : List FetchSessionPartition
  deriving DecidableEq, Repr

/-- Modelled from the spec: `fetch_session::empty`, the session holds no partition. -/
def FetchSession.empty (s : FetchSession) : Bool := s.partitions.isEmpty

/-- Modelled from the spec: `fetch_session_ctx` (`kafka/server/fetch_session.h`). It is
sessionless when it holds no session; a full fetch carries the request's partitions. -/
structure FetchSessionCtx where
  session : Option FetchSession
  isFullFetch : Bool
  deriving DecidableEq, Repr

namespace FetchSessionCtx

/-- `fetch_session_ctx::is_sessionless`. -/
def isSessionless (c : FetchSessionCtx) : Bool := c.session.isNone

/-- The session whose partitions drive the fetch: present exactly when the context is
neither sessionless nor a full fetch, the test both members of `op_context` make. -/
def incrementalSession (c : FetchSessionCtx) : Option FetchSession :=
  if c.isSessionless || c.isFullFetch then none else c.session

end FetchSessionCtx

/-- `op_context` (`fetch.h:22–139`): the fields its stop decision and partition walk read.
`deadline` and the clock are `model::timeout_clock` ticks. -/
structure OpContext where
  request : FetchRequest
  deadline : Option Nat
  responseSize : UInt64
  responseError : Bool
  sessionCtx : FetchSessionCtx
  deriving DecidableEq, Repr

namespace OpContext

/-- `op_context::is_empty_request` (`fetch.h:65–79`). With a session, both the session and
the request must be empty. -/
def isEmptyRequest (ctx : OpContext) : Bool :=
  match ctx.sessionCtx.incrementalSession with
  | none => ctx.request.empty
  | some s => s.empty && ctx.request.empty

/-- `static_cast<int32_t>` of a `size_t`: its low 32 bits, read in two's complement. -/
def int32Cast (n : UInt64) : BitVec 32 := n.toBitVec.truncate 32

/-- `op_context::over_min_bytes` (`fetch.h:87–89`). -/
def overMinBytes (ctx : OpContext) : Bool :=
  decide (ctx.request.minBytes.toInt ≤ (int32Cast ctx.responseSize).toInt)

/-- `deadline <= model::timeout_clock::now()` on `std::optional`: an absent deadline compares
below every time point. -/
def deadlineReached (deadline : Option Nat) (now : Nat) : Bool :=
  match deadline with
  | none => true
  | some d => decide (d ≤ now)

/-- `op_context::should_stop_fetch` (`fetch.h:81–85`) at clock value `now`. -/
def shouldStopFetch (ctx : OpContext) (now : Nat) : Bool :=
  ctx.request.debounceDelay.isNone || ctx.overMinBytes || ctx.isEmptyRequest ||
    ctx.responseError || deadlineReached ctx.deadline now

/-- `op_context::for_each_fetch_partition` (`fetch.h:100–121`): the arguments of the
successive calls of `f`, the request's partitions for a sessionless or full fetch and the
session's in insertion order otherwise. -/
def forEachFetchPartition (ctx : OpContext) : List FetchSessionPartition :=
  match ctx.sessionCtx.incrementalSession with
  | none => ctx.request.partitions.map fun (topic, p) =>
      { topic := topic, partition := p.partitionIndex, maxBytes := p.maxBytes,
        fetchOffset := p.fetchOffset }
  | some s => s.partitions

/-! ### The stop decision -/

/-- The cast keeps the low 32 bits of the byte count, read in two's complement. -/
theorem toInt_int32Cast (n : UInt64) :
    (int32Cast n).toInt =
      if 2 * (n.toNat % 2 ^ 32) < 2 ^ 32 then ((n.toNat % 2 ^ 32 : Nat) : Int)
      else ((n.toNat % 2 ^ 32 : Nat) : Int) - 2 ^ 32 := by
  simp [int32Cast, BitVec.toInt_eq_toNat_cond, UInt64.toNat]

/-- While the low 32 bits of the byte count stay below `2^31`, the cast is non-negative and
is the byte count modulo `2^32`. -/
theorem toInt_int32Cast_of_mod_lt {n : UInt64} (h : n.toNat % 2 ^ 32 < 2 ^ 31) :
    (int32Cast n).toInt = (n.toNat % 2 ^ 32 : Nat) := by
  rw [toInt_int32Cast, if_pos (by omega)]

/-- While the cast is non-negative, `over_min_bytes` compares `min_bytes` with the byte count
modulo `2^32`. -/
theorem overMinBytes_iff_of_mod_lt (ctx : OpContext)
    (h : ctx.responseSize.toNat % 2 ^ 32 < 2 ^ 31) :
    ctx.overMinBytes = true ↔
      ctx.request.minBytes.toInt ≤ ((ctx.responseSize.toNat % 2 ^ 32 : Nat) : Int) := by
  rw [overMinBytes, decide_eq_true_iff, toInt_int32Cast_of_mod_lt h]

/-- Below `2^31` bytes, `over_min_bytes` is the comparison of integers. -/
theorem overMinBytes_iff_of_lt (ctx : OpContext) (h : ctx.responseSize.toNat < 2 ^ 31) :
    ctx.overMinBytes = true ↔ ctx.request.minBytes.toInt ≤ ctx.responseSize.toNat := by
  rw [overMinBytes_iff_of_mod_lt ctx (by omega), Nat.mod_eq_of_lt (by omega)]

/-- A reached deadline stays reached as the clock advances. -/
theorem deadlineReached_mono {d : Option Nat} {now now' : Nat} (hle : now ≤ now')
    (h : deadlineReached d now = true) : deadlineReached d now' = true := by
  cases d with
  | none => rfl
  | some d => simp only [deadlineReached, decide_eq_true_eq] at h ⊢; omega

/-- A later state of the same operation whose byte count, cast to `int32_t`, has not gone down
and is still non-negative: the same request, session and deadline, at least as many bytes
modulo `2^32` and fewer than `2^31` there, an error kept once recorded, a clock not gone
back. -/
def LaterBelowInt32 (ctx : OpContext) (now : Nat) (ctx' : OpContext) (now' : Nat) : Prop :=
  ctx'.request = ctx.request ∧ ctx'.sessionCtx = ctx.sessionCtx ∧
    ctx'.deadline = ctx.deadline ∧
    ctx.responseSize.toNat % 2 ^ 32 ≤ ctx'.responseSize.toNat % 2 ^ 32 ∧
    ctx'.responseSize.toNat % 2 ^ 32 < 2 ^ 31 ∧
    (ctx.responseError = true → ctx'.responseError = true) ∧ now ≤ now'

/-- Below `2^31` bytes, a byte count that grows is a later state. -/
theorem laterBelowInt32_of_lt {ctx ctx' : OpContext} {now now' : Nat}
    (hreq : ctx'.request = ctx.request) (hsess : ctx'.sessionCtx = ctx.sessionCtx)
    (hdl : ctx'.deadline = ctx.deadline)
    (hgrow : ctx.responseSize.toNat ≤ ctx'.responseSize.toNat)
    (hsize : ctx'.responseSize.toNat < 2 ^ 31)
    (herr : ctx.responseError = true → ctx'.responseError = true) (hnow : now ≤ now') :
    LaterBelowInt32 ctx now ctx' now' :=
  ⟨hreq, hsess, hdl, by omega, by omega, herr, hnow⟩

/-- Stopping persists into every later state. -/
theorem shouldStopFetch_later {ctx ctx' : OpContext} {now now' : Nat}
    (hl : LaterBelowInt32 ctx now ctx' now')
    (hstop : ctx.shouldStopFetch now = true) : ctx'.shouldStopFetch now' = true := by
  obtain ⟨hreq, hsess, hdl, hgrow, hsize', herr, hnow⟩ := hl
  have hover : ctx.overMinBytes = true → ctx'.overMinBytes = true := by
    rw [overMinBytes_iff_of_mod_lt ctx (by omega), overMinBytes_iff_of_mod_lt ctx' hsize', hreq]
    omega
  have hempty : ctx'.isEmptyRequest = ctx.isEmptyRequest := by
    simp only [isEmptyRequest, hreq, hsess]
  simp only [shouldStopFetch, Bool.or_eq_true, hreq, hempty, hdl] at hstop ⊢
  rcases hstop with (((h | h) | h) | h) | h
  · exact .inl (.inl (.inl (.inl h)))
  · exact .inl (.inl (.inl (.inr (hover h))))
  · exact .inl (.inl (.inr h))
  · exact .inl (.inr (herr h))
  · exact .inr (deadlineReached_mono hnow h)

/-- The stop decision while the `int32_t` cast of the byte count is non-negative, that is
while its low 32 bits stay below `2^31`: `over_min_bytes` compares `min_bytes` with the byte
count modulo `2^32`, which below `2^31` bytes is the comparison of integers; a request with
`min_bytes <= 0` stops at once; and the decision never flips back while the cast grows and
stays non-negative, an error is recorded and the clock advances. -/
theorem shouldStopFetch_laws_of_int32Cast_nonneg (ctx : OpContext) (now : Nat)
    (hsize : ctx.responseSize.toNat % 2 ^ 32 < 2 ^ 31) :
    (ctx.overMinBytes = true ↔
      ctx.request.minBytes.toInt ≤ ((ctx.responseSize.toNat % 2 ^ 32 : Nat) : Int)) ∧
    (ctx.responseSize.toNat < 2 ^ 31 →
      (ctx.overMinBytes = true ↔ ctx.request.minBytes.toInt ≤ ctx.responseSize.toNat)) ∧
    (ctx.request.minBytes.toInt ≤ 0 → ctx.shouldStopFetch now = true) ∧
    (∀ (ctx' : OpContext) (now' : Nat), LaterBelowInt32 ctx now ctx' now' →
      ctx.shouldStopFetch now = true → ctx'.shouldStopFetch now' = true) := by
  refine ⟨overMinBytes_iff_of_mod_lt ctx hsize, overMinBytes_iff_of_lt ctx, fun hmin => ?_,
    fun _ _ => shouldStopFetch_later⟩
  have : ctx.overMinBytes = true := (overMinBytes_iff_of_mod_lt ctx hsize).2 (by omega)
  simp [shouldStopFetch, this]

/-- The laws past `2^31` bytes: a response of exactly `2^32` bytes casts to `0`, so it is over
a `min_bytes` of `0` and the request stops. -/
theorem shouldStopFetch_laws_at_two_pow_32 :
    let ctx : OpContext :=
      { request := ⟨500, 0, [⟨"t", [⟨0, 0, 1048576⟩]⟩]⟩, deadline := some 1,
        responseSize := 4294967296, responseError := false, sessionCtx := ⟨none, false⟩ }
    ctx.responseSize.toNat % 2 ^ 32 < 2 ^ 31 ∧
      (ctx.overMinBytes = true ↔
        ctx.request.minBytes.toInt ≤ ((ctx.responseSize.toNat % 2 ^ 32 : Nat) : Int)) ∧
      (ctx.responseSize.toNat < 2 ^ 31 →
        (ctx.overMinBytes = true ↔ ctx.request.minBytes.toInt ≤ ctx.responseSize.toNat)) ∧
      (ctx.request.minBytes.toInt ≤ 0 → ctx.shouldStopFetch 0 = true) ∧
      (∀ (ctx' : OpContext) (now' : Nat), LaterBelowInt32 ctx 0 ctx' now' →
        ctx.shouldStopFetch 0 = true → ctx'.shouldStopFetch now' = true) :=
  ⟨by decide, shouldStopFetch_laws_of_int32Cast_nonneg _ 0 (by decide)⟩

/-- From `2^31` bytes on the comparison is not one of integers: a response of `2^31` bytes
casts to `-2^31`, so it is not over a `min_bytes` of `0` and the request does not stop, and
growing from `2^31 - 1` bytes flips a stopped state back to waiting. -/
theorem overMinBytes_wraps_at_two_pow_31 :
    let ctx : OpContext :=
      { request := ⟨500, 0, [⟨"t", [⟨0, 0, 1048576⟩]⟩]⟩, deadline := some 1,
        responseSize := 2147483648, responseError := false, sessionCtx := ⟨none, false⟩ }
    ctx.request.minBytes.toInt ≤ ctx.responseSize.toNat ∧ ctx.overMinBytes = false ∧
      ctx.shouldStopFetch 0 = false ∧
      { ctx with responseSize := 2147483647 }.shouldStopFetch 0 = true := by
  decide

/-! ### The partitions a pass fetches -/

/-- `is_empty_request` holds exactly when `for_each_fetch_partition` makes no call and the
request itself lists no partition; the second condition adds something only for an
incremental session, where the walk reads the session and not the request. -/
theorem isEmptyRequest_iff (ctx : OpContext) :
    ctx.isEmptyRequest = true ↔ ctx.forEachFetchPartition = [] ∧ ctx.request.empty = true := by
  unfold isEmptyRequest forEachFetchPartition
  cases ctx.sessionCtx.incrementalSession with
  | none => simp [FetchRequest.empty_iff_partitions_eq_nil]
  | some s => simp [FetchSession.empty]

/-- An incremental session with no partitions and a non-empty request: the walk makes no
call, yet the request is not treated as empty. -/
theorem isEmptyRequest_false_of_empty_session :
    let ctx : OpContext :=
      { request := ⟨500, 1, [⟨"t", [⟨0, 0, 1048576⟩]⟩]⟩, deadline := none,
        responseSize := 0, responseError := false, sessionCtx := ⟨some ⟨[]⟩, false⟩ }
    ctx.forEachFetchPartition = [] ∧ ctx.isEmptyRequest = false := by
  decide

end OpContext

/-! ### Read results -/

/-- The bytes an `iobuf` holds. -/
structure Iobuf where
  bytes : List UInt8
  deriving DecidableEq, Repr

/-- `iobuf::empty`. -/
def Iobuf.empty (b : Iobuf) : Bool := b.bytes.isEmpty

/-- `iobuf::copy`: a buffer with the same bytes. -/
def Iobuf.copy (b : Iobuf) : Iobuf := ⟨b.bytes⟩

/-- `read_result::variant_t` (`fetch.h:169–171`): a buffer owned here, through a nullable
`std::unique_ptr` (`data_t`), or one owned by the shard that read it (`foreign_data_t`).
`has_data` dereferences a foreign buffer unguarded, so that pointer is never null. -/
inductive ReadData where
  | dataT (d : Option Iobuf)
  | foreignDataT (d : Iobuf)
  deriving DecidableEq, Repr

/-- A Kafka error code (`kafka::error_code`); `none` is `0`. -/
structure ErrorCode where
  code : Int
  deriving DecidableEq, Repr

/-- `error_code::none`. -/
def ErrorCode.none : ErrorCode := ⟨0⟩

/-- `cluster::rm_stm::tx_range`: an aborted transaction's producer and offset range. -/
structure TxRange where
  producerId : Int
  producerEpoch : Int
  first : Int
  last : Int
  deriving DecidableEq, Repr

/-- `read_result` (`fetch.h:168–227`), without the `partition` its callers fill in. -/
structure ReadResult where
  data : ReadData
  startOffset : Int
  highWatermark : Int
  lastStableOffset : Int
  error : ErrorCode
  abortedTransactions : List TxRange
  deriving DecidableEq, Repr

namespace ReadResult

/-- The error constructor (`fetch.h:172–173`). The offsets keep their default value, which
`utils/named_type.h` fixes outside the sources, taken here as `unset`; the payload is a null
`data_t`. -/
def ofError (unset : Int) (e : ErrorCode) : ReadResult :=
  { data := .dataT none, startOffset := unset, highWatermark := unset,
    lastStableOffset := unset, error := e, abortedTransactions := [] }

/-- The data constructor (`fetch.h:175–186`). -/
def ofData (data : ReadData) (startOffset hw lso : Int) (aborted : List TxRange) :
    ReadResult :=
  { data := data, startOffset := startOffset, highWatermark := hw, lastStableOffset := lso,
    error := .none, abortedTransactions := aborted }

/-- The offsets-only constructor (`fetch.h:188–192`); the payload is a null `data_t`. -/
def ofOffsets (startOffset hw lso : Int) : ReadResult :=
  { data := .dataT none, startOffset := startOffset, highWatermark := hw,
    lastStableOffset := lso, error := .none, abortedTransactions := [] }

/-- `read_result::has_data` (`fetch.h:194–199`): a local buffer counts when the pointer is
set, a foreign one when it holds bytes. -/
def hasData (r : ReadResult) : Bool :=
  match r.data with
  | .dataT d => d.isSome
  | .foreignDataT d => !d.empty

/-- `read_result::get_data` (`fetch.h:201–207`); `none` where it would dereference a null
`data_t`. -/
def getData (r : ReadResult) : Option Iobuf :=
  match r.data with
  | .dataT d => d
  | .foreignDataT d => some d

/-- `read_result::release_data` (`fetch.h:209–218`): moves a local buffer out and copies a
foreign one; `none` where it would dereference a null `data_t`. -/
def releaseData (r : ReadResult) : Option Iobuf :=
  match r.data with
  | .dataT d => d
  | .foreignDataT d => some d.copy

/-- An empty local buffer reports data, the same buffer held as a foreign one does not. -/
theorem hasData_empty_dataT :
    (ofData (.dataT (some ⟨[]⟩)) 0 0 0 []).hasData = true ∧
      (ofData (.foreignDataT ⟨[]⟩) 0 0 0 []).hasData = false :=
  ⟨rfl, rfl⟩

end ReadResult

end Redpanda.Kafka
