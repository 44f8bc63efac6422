import Redpanda.Admin.Request

/-!
# Temporary log levels

`src/v/redpanda/admin/server.cc:792–823,1367–1445`. The `set_log_level` route sets a
logger's level, by default for ten minutes: the level it replaced is kept in
`_log_level_resets` with an expiry, and `log_level_timer_handler` restores it once the
expiry has passed. An `expires=0` request makes the change permanent and drops the reset.
The reset timer is armed at the earliest expiry.

The logger registry, URL decoding, `validate_no_control` and the `boost::lexical_cast`
conversions are outside the sources and are parameters. The clock is `ss::timer<>::clock`,
counted in nanoseconds. `_log_level_resets` is a map with one entry per logger; it is an
`AList`, whose iteration order is not fixed, like the map's.
-/

namespace Redpanda.Admin

/-- `ss::log_level`. -/
inductive LogLevel where
  | error
  | warn
  | info
  | debug
  | trace
  deriving DecidableEq, Repr

/-- `admin_server::level_reset`: the level to restore and when. -/
structure LevelReset where
  level : LogLevel
  expires : Nat
  deriving DecidableEq, Repr

/-- `_log_level_resets`: at most one reset per logger name. -/
abbrev ResetMap := AList fun _ : String => LevelReset

/-- What the log-level routes read and change: the level of each registered logger, the
resets and the time the reset timer is armed at. -/
structure LogLevelState where
  levels : String → Option LogLevel
  resets : ResetMap
  timer : Option Nat

/-- `logger_registry::set_logger_level`. -/
def setLoggerLevel (levels : String → Option LogLevel) (name : String) (level : LogLevel) :
    String → Option LogLevel :=
  fun n => if n = name then some level else levels n

/-- The expiry `std::min_element` finds for `rearm_log_level_timer` (`server.cc:792–805`):
the earliest one, or no timer at all when there is no reset. -/
def rearmLogLevelTimer (resets : ResetMap) : Option Nat :=
  (resets.entries.map (·.2.expires)).min?

/-! ### The timer -/

/-- The loop of `log_level_timer_handler` (`server.cc:807–819`): each expired reset restores
its level and is erased; the others stay. -/
def expireLoop (now : Nat) (levels : String → Option LogLevel) :
    List (Σ _ : String, LevelReset) →
      (String → Option LogLevel) × List (Σ _ : String, LevelReset)
  | [] => (levels, [])
  | e :: es =>
    if e.2.expires ≤ now then expireLoop now (setLoggerLevel levels e.1 e.2.level) es
    else
      let rest := expireLoop now levels es
      (rest.1, e :: rest.2)

/-- The loop keeps exactly the resets that have not expired. -/
theorem expireLoop_snd (now : Nat) :
    ∀ (levels : String → Option LogLevel) (es : List (Σ _ : String, LevelReset)),
      (expireLoop now levels es).2 = es.filter fun e => now < e.2.expires
  | _, [] => rfl
  | levels, e :: es => by
    by_cases h : e.2.expires ≤ now
    · simp [expireLoop, h, expireLoop_snd]
    · simp [expireLoop, h, expireLoop_snd, List.filter_cons, Nat.not_le.1 h]

/-- `admin_server::log_level_timer_handler` (`server.cc:807–822`), at time `now`. -/
def logLevelTimerHandler (now : Nat) (s : LogLevelState) : LogLevelState :=
  let loop := expireLoop now s.levels s.resets.entries
  let resets : ResetMap := ⟨loop.2, s.resets.nodupKeys.sublist
    (by rw [expireLoop_snd]; exact List.filter_sublist _)⟩
  ⟨loop.1, resets, rearmLogLevelTimer resets⟩

/-! ### The `set_log_level` route -/

/-- What the `set_log_level` route uses from outside the sources: `url_decode`, whether
`validate_no_control` rejects a name, and the `boost::lexical_cast` conversions to a level
and to an `unsigned int`, with how a failed conversion prints. -/
structure LogLevelEnv where
  urlDecode : String → Option String
  hasControl : String → Bool
  parseLevel : String → Option LogLevel
  parseUnsigned : String → Option Nat
  badLexicalCastText : String

/-- What an accepted `set_log_level` request asks for. -/
structure LogLevelChange where
  name : String
  curLevel : LogLevel
  newLevel : LogLevel
  expires : Option Nat

/-- The checks of the `set_log_level` route (`server.cc:1370–1412`), which read the registry
and throw before anything changes. A bad `expires` prints the caught exception, which
shadows the parameter's text. -/
def decodeSetLogLevel (env : LogLevelEnv) (param : PathParameters) (query : QueryParameters)
    (levels : String → Option LogLevel) : Except HandlerException LogLevelChange :=
  let raw := param "name"
  match env.urlDecode raw with
  | none => throw (.badParam s!"Invalid parameter 'name' got \x7b{raw}\x7d")
  | some name =>
    if env.hasControl name then throw (.stringConversion name) else
    match levels name with
    | none => throw (.badParam s!"Cannot set log level: unknown logger \x7b{name}\x7d")
    | some curLevel =>
      let levelText := (query "level").getD ""
      match env.parseLevel levelText with
      | none => throw (.badParam
          s!"Cannot set log level for \x7b{name}\x7d: unknown level \x7b{levelText}\x7d")
      | some newLevel =>
        let expiresText := (query "expires").getD ""
        if expiresText.isEmpty then pure ⟨name, curLevel, newLevel, none⟩ else
        match env.parseUnsigned expiresText with
        | some seconds => pure ⟨name, curLevel, newLevel, some seconds⟩
        | none =>
          let shown := env.badLexicalCastText
          throw (.badParam
            s!"Cannot set log level for \x7b{name}\x7d: invalid expires value \x7b{shown}\x7d")

/-- `_log_level_resets.try_emplace(name, cur_level, when)`, then the new expiry on an entry
that was already there (`server.cc:1432–1435`). -/
def tryEmplace (resets : ResetMap) (name : String) (curLevel : LogLevel) (when : Nat) :
    ResetMap :=
  match resets.lookup name with
  | some r => resets.insert name { r with expires := when }
  | none => resets.insert name ⟨curLevel, when⟩

/-- The changes of the `set_log_level` route (`server.cc:1422–1441`): the new level, then a
reset after `expires` seconds (ten minutes if absent) or, for `expires=0`, none. -/
def applySetLogLevel (now : Nat) (c : LogLevelChange) (s : LogLevelState) : LogLevelState :=
  let levels := setLoggerLevel s.levels c.name c.newLevel
  let expires := c.expires.getD 600
  let resets :=
    if 0 < expires then tryEmplace s.resets c.name c.curLevel (now + expires * 1000000000)
    else s.resets.erase c.name
  ⟨levels, resets, rearmLogLevelTimer resets⟩

/-- The `set_log_level` route handler (`server.cc:1367–1445`) at time `now`. -/
def setLogLevelHandler (env : LogLevelEnv) (now : Nat) (param : PathParameters)
    (query : QueryParameters) : EStateM HandlerException LogLevelState Unit := do
  let s ← get
  match decodeSetLogLevel env param query s.levels with
  | .ok change => set (applySetLogLevel now change s)
  | .error e => throw e

/-! ### Runs -/

/-- What the routes and the timer do to the state. -/
inductive LogLevelEvent where
  | setLogLevel (now : Nat) (param : PathParameters) (query : QueryParameters)
  | timerFires (now : Nat)

/-- One event: the state the handler leaves, whether it returned or threw. -/
def logLevelStep (env : LogLevelEnv) (s : LogLevelState) : LogLevelEvent → LogLevelState
  | .setLogLevel now param query =>
    match (setLogLevelHandler env now param query).run s with
    | .ok _ s' => s'
    | .error _ s' => s'
  | .timerFires now => logLevelTimerHandler now s

/-- The base levels after the timer fires at `now`: a logger whose reset has expired falls
back to the level that reset restores, any other keeps its base level. -/
def restoredBase (now : Nat) (resets : ResetMap) (base : String → Option LogLevel) :
    String → Option LogLevel := fun name =>
  match resets.lookup name with
  | some r => if r.expires ≤ now then some r.level else base name
  | none => base name

/-- How an event moves each logger's base level, the level it falls back to, as a plain update
of the base levels: an accepted `expires=0` request sets its logger's base level to the level
it asks for, and a firing of the timer sets the base level of each logger whose reset has
expired to the level that reset restores. -/
def baseStep (env : LogLevelEnv) (s : LogLevelState) (base : String → Option LogLevel) :
    LogLevelEvent → String → Option LogLevel
  | .setLogLevel _ param query =>
    match decodeSetLogLevel env param query s.levels with
    | .ok c => if c.expires = some 0 then Function.update base c.name (some c.newLevel) else base
    | .error _ => base
  | .timerFires now => restoredBase now s.resets base

/-- A run of events from a state and its base levels. -/
def runLogLevel (env : LogLevelEnv) (s : LogLevelState) (base : String → Option LogLevel) :
    List LogLevelEvent → LogLevelState × (String → Option LogLevel)
  | [] => (s, base)
  | e :: es => runLogLevel env (logLevelStep env s e) (baseStep env s base e) es

/-- The state before any request: the registry's levels, no reset, no timer. -/
def initialLogLevelState (levels : String → Option LogLevel) : LogLevelState :=
  ⟨levels, ∅, none⟩

/-! ### The invariant -/

/-- What holds in every reachable state, against the base levels: a logger without a reset
is at its base level, a reset stores its logger's base level, and the timer is armed at the
earliest expiry. -/
structure LogLevelInv (s : LogLevelState) (base : String → Option LogLevel) : Prop where
  level_eq_base : ∀ name, s.resets.lookup name = none → s.levels name = base name
  stored_eq_base : ∀ name r, s.resets.lookup name = some r → base name = some r.level
  timer_eq : s.timer = rearmLogLevelTimer s.resets

@[simp] theorem setLoggerLevel_self (levels : String → Option LogLevel) (name : String)
    (level : LogLevel) : setLoggerLevel levels name level name = some level := by
  simp [setLoggerLevel]

@[simp] theorem setLoggerLevel_ne {levels : String → Option LogLevel} {name n : String}
    (level : LogLevel) (h : n ≠ name) : setLoggerLevel levels name level n = levels n := by
  simp [setLoggerLevel, h]

/-- After the timer loop, a logger whose reset expired is at the reset's level; any other
keeps its level. -/
theorem expireLoop_fst (now : Nat) (n : String) :
    ∀ (levels : String → Option LogLevel) (es : List (Σ _ : String, LevelReset)),
      es.NodupKeys → (expireLoop now levels es).1 n = match es.dlookup n with
        | some r => if r.expires ≤ now then some r.level else levels n
        | none => levels n
  | _, [], _ => rfl
  | levels, ⟨k, r⟩ :: es, hnd => by
    have hrest := fun lv => expireLoop_fst now n lv es (List.nodupKeys_cons.1 hnd).2
    by_cases hn : n = k
    · subst hn
      have hnone : es.dlookup n = none :=
        List.dlookup_eq_none.2 (List.not_mem_keys_of_nodupKeys_cons hnd)
      by_cases h : r.expires ≤ now <;> simp [expireLoop, h, hrest, hnone, List.dlookup_cons_eq]
    · by_cases h : r.expires ≤ now <;>
        simp [expireLoop, h, hrest, hn, List.dlookup_cons_ne es ⟨k, r⟩ hn]

/-- After the timer, a logger keeps its reset only if it has not expired. -/
theorem logLevelTimerHandler_lookup (now : Nat) (s : LogLevelState) (n : String) :
    (logLevelTimerHandler now s).resets.lookup n =
      (s.resets.lookup n).filter fun r => now < r.expires := by
  ext r
  rw [Option.mem_filter_iff, AList.mem_lookup_iff, AList.mem_lookup_iff]
  simp [logLevelTimerHandler, expireLoop_snd]

/-- The timer loop restores the levels of the expired resets and nothing else. -/
theorem logLevelTimerHandler_levels (now : Nat) (s : LogLevelState) :
    (logLevelTimerHandler now s).levels = restoredBase now s.resets s.levels :=
  funext fun n => expireLoop_fst now n s.levels s.resets.entries s.resets.nodupKeys

/-- The timer keeps the invariant, the resets it applies restoring base levels. -/
theorem logLevelInv_timer {s : LogLevelState} {base : String → Option LogLevel}
    (hinv : LogLevelInv s base) (now : Nat) :
    LogLevelInv (logLevelTimerHandler now s) (restoredBase now s.resets base) := by
  refine ⟨fun n h => ?_, fun n r h => ?_, rfl⟩
  · rw [logLevelTimerHandler_lookup] at h
    rw [logLevelTimerHandler_levels, restoredBase, restoredBase]
    cases hl : s.resets.lookup n with
    | none => exact hinv.level_eq_base n hl
    | some r =>
      have hexp : r.expires ≤ now := by simpa [hl, Option.filter_some] using h
      simp [hexp]
  · rw [logLevelTimerHandler_lookup, Option.filter_eq_some] at h
    obtain ⟨hl, hlive⟩ := h
    rw [restoredBase, hl]
    exact (if_neg (Nat.not_le.2 (of_decide_eq_true hlive))).trans (hinv.stored_eq_base n r hl)

/-- An accepted request names a registered logger, and the level it will restore is that
logger's level. -/
theorem decodeSetLogLevel_curLevel {env : LogLevelEnv} {param : PathParameters}
    {query : QueryParameters} {levels : String → Option LogLevel} {c : LogLevelChange}
    (h : decodeSetLogLevel env param query levels = .ok c) : levels c.name = some c.curLevel := by
  unfold decodeSetLogLevel at h
  dsimp only at h
  repeat' split at h
  all_goals first
    | cases h; assumption
    | simp at h

/-- `try_emplace` keeps the level of a reset already there and only moves its expiry. -/
theorem tryEmplace_lookup_self (resets : ResetMap) (name : String) (curLevel : LogLevel)
    (when : Nat) : (tryEmplace resets name curLevel when).lookup name =
      some ⟨((resets.lookup name).map LevelReset.level).getD curLevel, when⟩ := by
  unfold tryEmplace
  split <;> simp [AList.lookup_insert, *]

theorem tryEmplace_lookup_ne {resets : ResetMap} {name n : String} (curLevel : LogLevel)
    (when : Nat) (h : n ≠ name) :
    (tryEmplace resets name curLevel when).lookup n = resets.lookup n := by
  unfold tryEmplace
  split <;> exact AList.lookup_insert_ne h

/-- Off the logger it names, a change moves neither a level nor a reset. -/
theorem applySetLogLevel_frame (now : Nat) (c : LogLevelChange) (s : LogLevelState)
    {n : String} (hn : n ≠ c.name) :
    (applySetLogLevel now c s).levels n = s.levels n ∧
      (applySetLogLevel now c s).resets.lookup n = s.resets.lookup n := by
  refine ⟨setLoggerLevel_ne _ hn, ?_⟩
  simp only [applySetLogLevel]
  split
  · exact tryEmplace_lookup_ne _ _ hn
  · exact AList.lookup_erase_ne hn

/-- An accepted request keeps the invariant: a permanent change moves the base level with
the logger's level, and a temporary one stores the base level in the reset. -/
theorem logLevelInv_apply {s : LogLevelState} {base : String → Option LogLevel}
    (hinv : LogLevelInv s base) (now : Nat) {c : LogLevelChange}
    (hcur : s.levels c.name = some c.curLevel) :
    LogLevelInv (applySetLogLevel now c s)
      (if c.expires = some 0 then Function.update base c.name (some c.newLevel) else base) := by
  have hbase : ∀ n ≠ c.name,
      (if c.expires = some 0 then Function.update base c.name (some c.newLevel) else base) n =
        base n := fun n hn => by split <;> simp [Function.update_noteq hn]
  have hpos : c.expires ≠ some 0 → 0 < c.expires.getD 600 := by
    cases c.expires <;> simp [Nat.pos_iff_ne_zero]
  refine ⟨fun n h => ?_, fun n r h => ?_, rfl⟩
  · rcases eq_or_ne n c.name with rfl | hn
    · -- the changed logger has a reset unless `expires=0`
      by_cases hzero : c.expires = some 0
      · simp [applySetLogLevel, hzero]
      · simp [applySetLogLevel, hpos hzero, tryEmplace_lookup_self] at h
    · obtain ⟨hlevel, hreset⟩ := applySetLogLevel_frame now c s hn
      rw [hlevel, hbase n hn]
      exact hinv.level_eq_base n (hreset ▸ h)
  · rcases eq_or_ne n c.name with rfl | hn
    · -- the changed logger's reset keeps the level from before the first change
      by_cases hzero : c.expires = some 0
      · simp [applySetLogLevel, hzero, AList.lookup_erase] at h
      · simp only [applySetLogLevel, hpos hzero, if_true, tryEmplace_lookup_self,
          Option.some.injEq] at h
        subst h
        cases hl : s.resets.lookup c.name with
        | none => simpa [hl, hcur, hzero] using (hinv.level_eq_base _ hl).symm
        | some r₀ => simpa [hl, hzero] using hinv.stored_eq_base _ _ hl
    · rw [hbase n hn]
      exact hinv.stored_eq_base n r ((applySetLogLevel_frame now c s hn).2 ▸ h)

/-- The route handler either throws, leaving the state as it was, or applies the change. -/
theorem setLogLevelHandler_run (env : LogLevelEnv) (now : Nat) (param : PathParameters)
    (query : QueryParameters) (s : LogLevelState) :
    (setLogLevelHandler env now param query).run s =
      match decodeSetLogLevel env param query s.levels with
      | .ok c => .ok () (applySetLogLevel now c s)
      | .error e => .error e s := by
  show (match decodeSetLogLevel env param query s.levels with
    | .ok change => (set (applySetLogLevel now change s) :
        EStateM HandlerException LogLevelState Unit)
    | .error e => throw e) s = _
  cases decodeSetLogLevel env param query s.levels <;> rfl

/-- Every event keeps the invariant, with the base levels it moves. -/
theorem logLevelInv_step (env : LogLevelEnv) {s : LogLevelState}
    {base : String → Option LogLevel} (hinv : LogLevelInv s base) :
    ∀ e, LogLevelInv (logLevelStep env s e) (baseStep env s base e)
  | .setLogLevel now param query => by
    simp only [logLevelStep, baseStep, setLogLevelHandler_run]
    cases hd : decodeSetLogLevel env param query s.levels with
    | error => exact hinv
    | ok c => exact logLevelInv_apply hinv now (decodeSetLogLevel_curLevel hd)
  | .timerFires now => logLevelInv_timer hinv now

/-- Every run keeps the invariant. -/
theorem logLevelInv_run (env : LogLevelEnv) :
    ∀ (events : List LogLevelEvent) {s : LogLevelState} {base : String → Option LogLevel},
      LogLevelInv s base →
        LogLevelInv (runLogLevel env s base events).1 (runLogLevel env s base events).2
  | [], _, _, hinv => hinv
  | e :: es, _, _, hinv => logLevelInv_run env es (logLevelInv_step env hinv e)

/-- Before any request every logger is at its base level, its initial one. -/
theorem logLevelInv_initial (levels : String → Option LogLevel) :
    LogLevelInv (initialLogLevelState levels) levels :=
  ⟨fun _ _ => rfl, fun n r h => by simp [initialLogLevelState, AList.lookup_empty] at h, rfl⟩

/-! ### The timer's guarantees -/

/-- The timer leaves no reset that has expired. -/
theorem logLevelTimerHandler_live (now : Nat) (s : LogLevelState) (name : String)
    (r : LevelReset) (h : (logLevelTimerHandler now s).resets.lookup name = some r) :
    now < r.expires := by
  rw [logLevelTimerHandler_lookup, Option.filter_eq_some] at h
  exact of_decide_eq_true h.2

/-- `rearm_log_level_timer` arms the timer at the earliest expiry, and leaves it unarmed when
no reset is left. -/
theorem rearmLogLevelTimer_spec (resets : ResetMap) :
    (rearmLogLevelTimer resets = none ↔ resets.entries = []) ∧
    ∀ t, rearmLogLevelTimer resets = some t ↔
      (∃ e ∈ resets.entries, e.2.expires = t) ∧
        ∀ e ∈ resets.entries, t ≤ e.2.expires := by
  refine ⟨by simp [rearmLogLevelTimer], fun t => ?_⟩
  rw [rearmLogLevelTimer, List.min?_eq_some_iff', List.mem_map, List.forall_mem_map]

/-- Temporary log levels. In every state a run of requests and timer firings reaches, a
logger with no reset is at its base level and a reset stores its logger's base level: a
temporary change, however many overlap, reverts to the last permanent level. After the
timer runs at `now`, no expired reset is left and the timer is armed at the earliest
remaining expiry, or not at all. A rejected request leaves the state as it was. -/
theorem logLevel_reachable_spec (env : LogLevelEnv) (init : String → Option LogLevel)
    (events : List LogLevelEvent) :
    let s := (runLogLevel env (initialLogLevelState init) init events).1
    let base := (runLogLevel env (initialLogLevelState init) init events).2
    (∀ name, s.resets.lookup name = none → s.levels name = base name) ∧
    (∀ name r, s.resets.lookup name = some r → base name = some r.level) ∧
    (∀ now, (∀ name r, (logLevelTimerHandler now s).resets.lookup name = some r →
        now < r.expires) ∧
      ((logLevelTimerHandler now s).timer = none ↔
        (logLevelTimerHandler now s).resets.entries = []) ∧
      ∀ t, (logLevelTimerHandler now s).timer = some t →
        (∃ e ∈ (logLevelTimerHandler now s).resets.entries, e.2.expires = t) ∧
        ∀ e ∈ (logLevelTimerHandler now s).resets.entries, t ≤ e.2.expires) ∧
    (∀ now param query e s', (setLogLevelHandler env now param query).run s = .error e s' →
      s' = s) := by
  intro s base
  have hinv := logLevelInv_run env events (logLevelInv_initial init)
  refine ⟨hinv.level_eq_base, hinv.stored_eq_base, fun now =>
    ⟨logLevelTimerHandler_live now s, (rearmLogLevelTimer_spec _).1,
      fun t ht => ((rearmLogLevelTimer_spec _).2 t).1 ht⟩, fun now param query e s' h => ?_⟩
  rw [setLogLevelHandler_run] at h
  split at h <;> cases h
  rfl

/-- In every state a run of requests and timer firings reaches, whether its last request was
accepted or not, the timer is armed exactly when a reset is pending, at the earliest pending
expiry. -/
theorem logLevel_timer_tracks_earliest_reset (env : LogLevelEnv)
    (init : String → Option LogLevel) (events : List LogLevelEvent) :
    let s := (runLogLevel env (initialLogLevelState init) init events).1
    (s.timer = none ↔ s.resets.entries = []) ∧
      ∀ t, s.timer = some t ↔
        (∃ e ∈ s.resets.entries, e.2.expires = t) ∧ ∀ e ∈ s.resets.entries, t ≤ e.2.expires := by
  intro s
  rw [(logLevelInv_run env events (logLevelInv_initial init)).timer_eq]
  exact rearmLogLevelTimer_spec _

/-- Once the timer fires at or after every pending expiry, every logger is back at its base
level, the last level set without an expiry, and no reset or timer is left. -/
theorem logLevel_reverts_once_all_expired (env : LogLevelEnv)
    (init : String → Option LogLevel) (events : List LogLevelEvent) (now : Nat) :
    let s := (runLogLevel env (initialLogLevelState init) init events).1
    let base := (runLogLevel env (initialLogLevelState init) init events).2
    (∀ name r, s.resets.lookup name = some r → r.expires ≤ now) →
      (logLevelTimerHandler now s).levels = base ∧
        (logLevelTimerHandler now s).resets.entries = [] ∧
        (logLevelTimerHandler now s).timer = none := by
  intro s base hall
  have hinv := logLevelInv_run env events (logLevelInv_initial init)
  have hempty : (logLevelTimerHandler now s).resets.entries = [] := by
    show (expireLoop now s.levels s.resets.entries).2 = []
    rw [expireLoop_snd, List.filter_eq_nil_iff]
    exact fun e he => by simpa using hall e.1 e.2 (AList.mem_lookup_iff.2 he)
  refine ⟨funext fun n => ?_, hempty, (rearmLogLevelTimer_spec _).1.2 hempty⟩
  rw [logLevelTimerHandler_levels, restoredBase]
  cases hl : s.resets.lookup n with
  | none => exact hinv.level_eq_base n hl
  | some r => exact (if_pos (hall n r hl)).trans (hinv.stored_eq_base n r hl).symm

/-- A logger set to `debug` for ten seconds at time `0` is back at `info`, with no reset or
timer left, once the timer fires ten seconds later. -/
theorem logLevel_reverts_after_ten_seconds :
    let env : LogLevelEnv := ⟨some, fun _ => false,
      fun t => if t = "debug" then some .debug else none,
      fun t => if t = "10" then some 10 else none, ""⟩
    let init : String → Option LogLevel := fun n => if n = "kafka" then some .info else none
    let events := [LogLevelEvent.setLogLevel 0 (fun _ => "kafka")
      fun k => if k = "level" then some "debug" else if k = "expires" then some "10" else none]
    let s := (runLogLevel env (initialLogLevelState init) init events).1
    let base := (runLogLevel env (initialLogLevelState init) init events).2
    (∀ name r, s.resets.lookup name = some r → r.expires ≤ 10000000000) ∧
      (logLevelTimerHandler 10000000000 s).levels = base ∧
        (logLevelTimerHandler 10000000000 s).resets.entries = [] ∧
        (logLevelTimerHandler 10000000000 s).timer = none := by
  intro env init events s base
  have hall : ∀ name r, s.resets.lookup name = some r → r.expires ≤ 10000000000 := by
    intro name r h
    have hmem := AList.mem_lookup_iff.1 h
    rw [show s.resets.entries = [⟨"kafka", ⟨.info, 10000000000⟩⟩] by decide] at hmem
    simp only [List.mem_singleton, Sigma.mk.inj_iff] at hmem
    obtain ⟨rfl, hr⟩ := hmem
    cases eq_of_heq hr
    exact Nat.le_refl _
  exact ⟨hall, logLevel_reverts_once_all_expired env init events 10000000000 hall⟩

end Redpanda.Admin
