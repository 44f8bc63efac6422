import Redpanda.Admin.Errors

/-!
# Activating and disabling a feature

`src/v/redpanda/admin/server.cc:2062–2165`: `feature_state_to_high_level`, which folds a
feature's state machine into the states the admin API reports, and
`admin_server::put_feature_handler`, which asks the feature manager to activate or
deactivate a feature unless it already is in the requested state.
`admin_server::need_redirect_to_leader` (`server.cc:951–962`) decides whether the request
has to go to the controller's leader first. The feature table, the feature manager and the
rendering of an error code are outside the sources. The body is the document the schema of
`make_feature_put_validator` accepts, read through its `state`.
-/

namespace Redpanda.Admin

/-- `features::feature_state::state`. -/
inductive FeatureStateState where
  | unavailable
  | available
  | preparing
  | active
  | disabledClean
  | disabledActive
  | disabledPreparing
  deriving DecidableEq, Repr

/-- `features_json::feature_state::feature_state_state`, the states the admin API reports. -/
inductive FeatureStateHighLevel where
  | active
  | unavailable
  | available
  | preparing
  | disabled
  deriving DecidableEq, Repr

/-- `feature_state_to_high_level` (`server.cc:2065–2093`): the three disabled states are
reported as one. -/
def featureStateToHighLevel : FeatureStateState → FeatureStateHighLevel
  | .active => .active
  | .unavailable => .unavailable
  | .available => .available
  | .preparing => .preparing
  | .disabledClean | .disabledActive | .disabledPreparing => .disabled

/-- `admin_server::need_redirect_to_leader` (`server.cc:951–962`): whether another node leads
the partition, and `service_unavailable` when none does. -/
def needRedirectToLeader (cache : MetadataCache) (config : NodeConfig)
    (formatNtp : Ntp → String) (ntp : Ntp) : Except HandlerException Bool :=
  match cache.getLeaderId ntp with
  | none =>
    let shownNtp := formatNtp ntp
    throw (.base s!"Partition {shownNtp} does not have a leader, cannot redirect" 503)
  | some leaderId => pure (leaderId != config.nodeId)

/-- `cluster::feature_update_action::action_t`, by the actions the handler asks for. -/
inductive FeatureAction where
  | activate
  | deactivate
  deriving DecidableEq, Repr

/-- `cluster::feature_update_action`. -/
structure FeatureUpdateAction where
  featureName : String
  action : FeatureAction
  deriving DecidableEq, Repr

/-- What the handler reads outside the sources: the feature table's `resolve_name` and
`get_state`, by a feature's value, the error code of the feature manager's `write_action`,
`fmt` of an error code, and `model::controller_ntp`. -/
structure FeatureEnv where
  resolveName : String → Option Nat
  getState : Nat → FeatureStateState
  writeAction : FeatureUpdateAction → ErrorCode
  formatError : ErrorCode → String
  controllerNtp : Ntp

/-- The end of `put_feature_handler` (`server.cc:2148–2163`): the redirect to the
controller's leader when this node does not lead it, then the action written by the feature
manager, whose error code is answered with `bad_request`. -/
def writeFeatureAction (env : FeatureEnv) (cache : MetadataCache) (config : NodeConfig)
    (formatNtp : Ntp → String) (req : HttpRequest) (action : FeatureUpdateAction) :
    Except HandlerException (Option FeatureUpdateAction) := do
  if ← needRedirectToLeader cache config formatNtp env.controllerNtp then
    throwRedirect cache config formatNtp req env.controllerNtp
  else
    let err := env.writeAction action
    if err.isZero then pure (some action) else throw (.badRequest (env.formatError err))

/-- `admin_server::put_feature_handler` (`server.cc:2097–2164`) on the feature named by the
path and the body's `state`: the action written, or `none` for a request the handler drops
because the feature already is in the requested state. -/
def putFeatureHandler (env : FeatureEnv) (cache : MetadataCache) (config : NodeConfig)
    (formatNtp : Ntp → String) (req : HttpRequest) (featureName newStateStr : String) :
    Except HandlerException (Option FeatureUpdateAction) :=
  match env.resolveName featureName with
  | none => throw (.badRequest "Unknown feature name")
  | some featureId =>
    let currentState := featureStateToHighLevel (env.getState featureId)
    if newStateStr = "active" then
      if currentState = .active then pure none
      else writeFeatureAction env cache config formatNtp req ⟨featureName, .activate⟩
    else if newStateStr = "disabled" then
      if currentState = .disabled then pure none
      else writeFeatureAction env cache config formatNtp req ⟨featureName, .deactivate⟩
    else throw (.badRequest "Invalid state")

/-! ### What the handler writes, and what it drops -/

section Handler

variable {env : FeatureEnv} {cache : MetadataCache} {config : NodeConfig}
  {formatNtp : Ntp → String} {req : HttpRequest}

theorem writeFeatureAction_ne_ok_none (action : FeatureUpdateAction) :
    writeFeatureAction env cache config formatNtp req action ≠ .ok none := by
  unfold writeFeatureAction
  cases needRedirectToLeader cache config formatNtp env.controllerNtp with
  | error => nofun
  | ok redirect =>
    cases redirect
    · show (if (env.writeAction action).isZero then _ else _) ≠ _
      split <;> nofun
    · exact throwRedirect_ne_ok

/-- The feature manager writes only the action the handler was called with, and only on the
controller's leader. -/
theorem writeFeatureAction_eq_ok_some {action a : FeatureUpdateAction}
    (h : writeFeatureAction env cache config formatNtp req action = .ok (some a)) :
    a = action ∧ needRedirectToLeader cache config formatNtp env.controllerNtp = .ok false ∧
      (env.writeAction action).isZero = true := by
  unfold writeFeatureAction at h
  cases hr : needRedirectToLeader cache config formatNtp env.controllerNtp with
  | error => rw [hr] at h; cases h
  | ok redirect =>
    rw [hr] at h
    cases redirect
    · change (if (env.writeAction action).isZero then _ else _) = _ at h
      split at h
      · next hz => cases h; exact ⟨rfl, rfl, hz⟩
      · cases h
    · exact absurd h throwRedirect_ne_ok

/-- The handler drops a request, answering it without writing anything, exactly when the
feature is known and this node's feature table already reports it in the requested state.
Whether this node leads the controller plays no part: the handler decides before it looks
for the controller's leader, on its own, possibly stale, feature table. -/
theorem putFeatureHandler_eq_ok_none_iff (featureName newStateStr : String) :
    putFeatureHandler env cache config formatNtp req featureName newStateStr = .ok none ↔
      ∃ featureId, env.resolveName featureName = some featureId ∧
        ((newStateStr = "active" ∧
            featureStateToHighLevel (env.getState featureId) = .active) ∨
          (newStateStr = "disabled" ∧
            featureStateToHighLevel (env.getState featureId) = .disabled)) := by
  unfold putFeatureHandler
  cases hid : env.resolveName featureName with
  | none => simp
  | some featureId =>
    simp only [Option.some.injEq, exists_eq_left']
    by_cases ha : newStateStr = "active"
    · subst ha
      rw [if_pos rfl]
      by_cases hs : featureStateToHighLevel (env.getState featureId) = .active
      · simp [hs]
      · simp [hs, writeFeatureAction_ne_ok_none]
    · rw [if_neg ha]
      by_cases hd : newStateStr = "disabled"
      · subst hd
        rw [if_pos rfl]
        by_cases hs : featureStateToHighLevel (env.getState featureId) = .disabled
        · simp [hs]
        · simp [hs, writeFeatureAction_ne_ok_none]
      · simp [ha, hd]

/-- With no leader for the controller at all, a request to activate an active feature is
still answered, and without a write. -/
example :
    putFeatureHandler ⟨fun _ => some 0, fun _ => .active, fun _ => ⟨.other 0, ""⟩,
        fun _ => "", ⟨"redpanda", "controller", 0⟩⟩
      ⟨fun _ => none, fun _ => none⟩ ⟨1, [], 9644⟩ (fun _ => "") ⟨"", "http", "/v1/features"⟩
      "wasm_transforms" "active" = .ok none := rfl

/-- A write the handler makes is of the feature the path names and changes the state this
node reports: activating a feature not reported active, or deactivating one not reported
disabled. It is made only on the controller's leader, and succeeded. -/
theorem putFeatureHandler_writes_only_changes {featureName newStateStr : String}
    {a : FeatureUpdateAction}
    (h : putFeatureHandler env cache config formatNtp req featureName newStateStr =
      .ok (some a)) :
    a.featureName = featureName ∧
      (∃ featureId, env.resolveName featureName = some featureId ∧
        ((newStateStr = "active" ∧ a.action = .activate ∧
            featureStateToHighLevel (env.getState featureId) ≠ .active) ∨
          (newStateStr = "disabled" ∧ a.action = .deactivate ∧
            featureStateToHighLevel (env.getState featureId) ≠ .disabled))) ∧
      needRedirectToLeader cache config formatNtp env.controllerNtp = .ok false ∧
      (env.writeAction a).isZero = true := by
  unfold putFeatureHandler at h
  cases hid : env.resolveName featureName with
  | none => rw [hid] at h; cases h
  | some featureId =>
    rw [hid] at h
    dsimp only at h
    split_ifs at h with ha hs hd hs'
    · cases h
    · obtain ⟨rfl, hr, hw⟩ := writeFeatureAction_eq_ok_some h
      exact ⟨rfl, ⟨featureId, rfl, .inl ⟨ha, rfl, hs⟩⟩, hr, hw⟩
    · cases h
    · obtain ⟨rfl, hr, hw⟩ := writeFeatureAction_eq_ok_some h
      exact ⟨rfl, ⟨featureId, rfl, .inr ⟨hd, rfl, hs'⟩⟩, hr, hw⟩

end Handler

end Redpanda.Admin
