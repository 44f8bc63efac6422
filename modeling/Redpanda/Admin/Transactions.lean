import Redpanda.Admin.Request

/-!
# Marking a transaction expired

`src/v/redpanda/admin/server.cc:2697–2722`: the producer identity that
`admin_server::mark_transaction_expired_handler` reads from its query. `id` and `epoch` are
each read by `std::stoi` inside a `try` whose `catch (...)` answers `bad_param` with the
parameter's text. The range check of the epoch throws inside that `try`. What the handler
does with the identity, through the partition's `rm_stm`, is outside the sources.
-/

namespace Redpanda.Admin

/-- `model::producer_identity`: an `int64_t` id and an `int16_t` epoch. -/
structure ProducerIdentity where
  id : BitVec 64
  epoch : BitVec 16
  deriving DecidableEq, Repr

/-- What the `try` block around the epoch can throw: an exception of `std::stoi`, or the
`bad_param_exception` of its own range check. -/
abbrev EpochException := StoiError ⊕ HandlerException

/-- The `try` block around the epoch (`server.cc:2711–2719`). `withCtx` is `fmt_with_ctx`,
which adds to a message where it was raised. -/
def epochTryBlock (withCtx : String → String) (node : String) :
    Except EpochException (BitVec 16) :=
  match stoi node with
  | .error e => throw (.inl e)
  | .ok epoch =>
    if epoch < -32768 ∨ epoch > 32767 then
      throw (.inr (.badParam (withCtx s!"Invalid transaction epoch {epoch}")))
    else pure (BitVec.ofInt 16 epoch)

/-- The producer identity of `admin_server::mark_transaction_expired_handler`
(`server.cc:2701–2722`): `id`, then `epoch`, each answered with `bad_param` on any
exception. -/
def parseProducerIdentity (withCtx : String → String) (query : QueryParameters) :
    Except HandlerException ProducerIdentity := do
  let node := getQueryParam query "id"
  let id ← match stoi node with
    | .ok id => pure (BitVec.ofInt 64 id)
    | .error _ => throw (.badParam (withCtx s!"Transaction id must be an integer: {node}"))
  let node := getQueryParam query "epoch"
  match epochTryBlock withCtx node with
  | .ok epoch => pure ⟨id, epoch⟩
  | .error _ => throw (.badParam (withCtx s!"Transaction epoch must be an integer: {node}"))

/-! ### Conversions to the identity's widths -/

theorem toInt_ofInt_sixteen {i : Int} (hlo : -32768 ≤ i) (hhi : i ≤ 32767) :
    (BitVec.ofInt 16 i).toInt = i := by
  rw [BitVec.toInt_ofInt, Int.bmod_def]
  split_ifs <;> push_cast at * <;> omega

theorem toInt_ofInt_sixtyFour {i : Int} (hlo : -2 ^ 31 ≤ i) (hhi : i < 2 ^ 31) :
    (BitVec.ofInt 64 i).toInt = i := by
  rw [BitVec.toInt_ofInt, Int.bmod_def]
  split_ifs <;> push_cast at * <;> omega

/-- The epoch's `try` block returns exactly the epochs within `int16_t`, unchanged. -/
theorem epochTryBlock_eq_ok_iff (withCtx : String → String) (node : String)
    (epoch : BitVec 16) :
    epochTryBlock withCtx node = .ok epoch ↔
      ∃ e, stoi node = .ok e ∧ -32768 ≤ e ∧ e ≤ 32767 ∧ epoch.toInt = e := by
  unfold epochTryBlock
  cases hs : stoi node with
  | error => simp
  | ok e =>
    by_cases hr : e < -32768 ∨ e > 32767
    · simp only [hr, if_true, throw_eq_error, reduceCtorEq, false_iff]
      rintro ⟨_, he, hlo, hhi, -⟩
      cases he
      omega
    · have hlo : -32768 ≤ e := by omega
      have hhi : e ≤ 32767 := by omega
      simp only [hr, if_false, pure_eq_ok, Except.ok.injEq, exists_eq_left', hlo, hhi,
        true_and]
      rw [← BitVec.toInt_inj, toInt_ofInt_sixteen hlo hhi, eq_comm]

/-! ### What the handler accepts, and how it refuses -/

/-- The handler accepts a query exactly when `std::stoi` reads `id` and `epoch` and the
epoch fits in `int16_t`; the identity then holds both integers unchanged. -/
theorem parseProducerIdentity_eq_ok_iff (withCtx : String → String) (query : QueryParameters)
    (pid : ProducerIdentity) :
    parseProducerIdentity withCtx query = .ok pid ↔
      ∃ id epoch, stoi (getQueryParam query "id") = .ok id ∧
        stoi (getQueryParam query "epoch") = .ok epoch ∧ -32768 ≤ epoch ∧ epoch ≤ 32767 ∧
        pid.id.toInt = id ∧ pid.epoch.toInt = epoch := by
  unfold parseProducerIdentity
  dsimp only
  cases hid : stoi (getQueryParam query "id") with
  | error => simp [bind, Except.bind]
  | ok id =>
    obtain ⟨hlo, hhi⟩ := stoi_range hid
    constructor
    · intro h
      cases hep : epochTryBlock withCtx (getQueryParam query "epoch") with
      | error => simp [hep, bind, Except.bind] at h
      | ok epoch =>
        obtain ⟨e, he, helo, hehi, hepoch⟩ := (epochTryBlock_eq_ok_iff withCtx _ epoch).1 hep
        simp only [hep, bind, Except.bind, pure, Except.pure, Except.ok.injEq] at h
        subst h
        exact ⟨id, e, rfl, he, helo, hehi, toInt_ofInt_sixtyFour hlo hhi, hepoch⟩
    · rintro ⟨_, e, ⟨⟩, he, helo, hehi, hpid, hpe⟩
      have hep := (epochTryBlock_eq_ok_iff withCtx _ pid.epoch).2 ⟨e, he, helo, hehi, hpe⟩
      have hpid' : pid.id = BitVec.ofInt 64 id := by
        rw [← BitVec.toInt_inj, hpid, toInt_ofInt_sixtyFour hlo hhi]
      simp only [hep, bind, Except.bind, pure, Except.pure, ← hpid']

end Redpanda.Admin
