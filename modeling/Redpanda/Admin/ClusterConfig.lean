import Redpanda.Admin.Request

/-!
# Patching the cluster configuration

`src/v/redpanda/admin/server.cc:1470–1528,1692–1866`. `patch_cluster_config_handler`
validates a patch on a scratch copy of the live configuration: each upsert is decoded,
validated and set, each removed property reset, then a few properties are checked
together. A patch that changes nothing is answered without writing to the controller.
The configuration store (`config::configuration`, `config::property`) is outside the
sources; a property is modelled by what the handler uses of it: its decoder from the
upsert's YAML text, its validator, its example, default and current value.
-/

namespace Redpanda.Admin

/-- A property value, in the types the handler's own checks read. An enumeration is held by
its configuration name, a value of any other type by its canonical YAML text. -/
inductive ConfigValue where
  | boolean (b : Bool)
  | integer (n : Int)
  | string (s : String)
  | optionalString (s : Option String)
  | stringList (l : List String)
  | other (text : String)
  deriving DecidableEq, Repr

/-- How decoding a YAML value to a property's type fails: `YAML::BadConversion`, or another
exception, by its formatted text. -/
inductive DecodeError where
  | badConversion
  | other (message : String)
  deriving DecidableEq, Repr

/-- A `config::property`: `decode` is `node.as<T>()` on the upsert's YAML text, and
`validator` returns the `validation_error` message, if any. -/
structure Property where
  typeName : String
  exampleText : Option String
  default : ConfigValue
  decode : String → Except DecodeError ConfigValue
  validator : ConfigValue → Option String
  value : ConfigValue

/-- A `config::configuration`: the property of each name it declares. -/
abbrev Configuration := String → Option Property

namespace Configuration

/-- The configuration with property `name` replaced. -/
def set (cfg : Configuration) (name : String) (p : Property) : Configuration :=
  fun n => if n = name then some p else cfg n

/-- A boolean property's value (`property<bool>::operator()`). -/
def boolValue (cfg : Configuration) (name : String) : Bool :=
  match (cfg name).map Property.value with
  | some (.boolean b) => b
  | _ => false

/-- A string-list property's value (`property<std::vector<ss::sstring>>::operator()`). -/
def stringListValue (cfg : Configuration) (name : String) : List String :=
  match (cfg name).map Property.value with
  | some (.stringList l) => l
  | _ => []

/-- An optional-string property's value. -/
def optionalStringValue (cfg : Configuration) (name : String) : Option String :=
  match (cfg name).map Property.value with
  | some (.optionalString s) => s
  | _ => none

/-- An enumeration property's value, by its configuration name. -/
def enumValue (cfg : Configuration) (name : String) : String :=
  match (cfg name).map Property.value with
  | some (.string s) => s
  | _ => ""

/-- Setting a property to the value it already has changes nothing. -/
theorem set_same {cfg : Configuration} {name : String} {p : Property} (h : cfg name = some p) :
    cfg.set name p = cfg := by
  funext n
  by_cases hn : n = name
  · subst hn; simp [set, h]
  · simp [set, hn]

/-- What the configuration declares apart from values: each property's decoder and
validator. -/
def schema (cfg : Configuration) (name : String) :
    Option ((String → Except DecodeError ConfigValue) × (ConfigValue → Option String)) :=
  (cfg name).map fun p => (p.decode, p.validator)

/-- Setting a property's value keeps the schema. -/
theorem schema_set_value {cfg : Configuration} {name : String} {p : Property}
    (h : cfg name = some p) (v : ConfigValue) :
    (cfg.set name { p with value := v }).schema = cfg.schema := by
  funext n
  by_cases hn : n = name
  · subst hn; simp [schema, set, h]
  · simp [schema, set, hn]

@[simp] theorem isSome_schema (cfg : Configuration) (name : String) :
    (cfg.schema name).isSome = (cfg name).isSome := by
  simp [schema]

end Configuration

/-- `cluster::config_update_request`: upserts as (name, re-serialized JSON value), in the
body's order and possibly repeating a name, and the names to remove. -/
structure ConfigUpdateRequest where
  upsert : List (String × String)
  remove : List String
  deriving DecidableEq, Repr

/-- The `std::map<ss::sstring, ss::sstring>` of errors: entries in key order, one per key. -/
abbrev ErrorMap := List (String × String)

/-- `errors[key] = value` on a `std::map`. -/
def ErrorMap.assign (m : ErrorMap) (key value : String) : ErrorMap :=
  match m with
  | [] => [(key, value)]
  | (k, v) :: rest =>
    if key = k then (key, value) :: rest
    else if key < k then (key, value) :: (k, v) :: rest
    else (k, v) :: assign rest key value

/-- Assigning an entry leaves the map non-empty. -/
theorem ErrorMap.assign_ne_nil (m : ErrorMap) (key value : String) : m.assign key value ≠ [] := by
  cases m with
  | nil => simp [assign]
  | cons e rest => unfold assign; split_ifs <;> simp

/-! ### The per-property validation pass -/

/-- The scratch state of the validation pass: the scratch configuration, the errors so far
and `upsert_no_op_names`. -/
structure PatchValidation where
  cfg : Configuration
  errors : ErrorMap
  upsertNoOpNames : List String

/-- The message for a value of the wrong type (`server.cc:1745–1770`); an `integer`
property that the value decodes to as an `int64_t` is out of range instead. -/
def badConversionMessage (asInt64 : String → Option Int) (p : Property) (yaml : String) :
    String :=
  let typeName := p.typeName
  let exampleSuffix := match p.exampleText with
    | some e => s!", for example '{e}'"
    | none => ""
  match if typeName = "integer" then asInt64 yaml else none with
  | some n => s!"out of range: '{n}'"
  | none => s!"expected type {typeName}{exampleSuffix}"

/-- One upsert of the validation pass (`server.cc:1712–1793`). `set_value` stores the decoded
value and reports whether it changed it; an unchanged name joins the no-op names. -/
def upsertStep (asInt64 : String → Option Int) (st : PatchValidation) (u : String × String) :
    PatchValidation :=
  match st.cfg u.1 with
  | none => { st with errors := st.errors.assign u.1 "Unknown property" }
  | some p =>
    match p.decode u.2 with
    | .error .badConversion =>
      { st with errors := st.errors.assign u.1 (badConversionMessage asInt64 p u.2) }
    | .error (.other message) => { st with errors := st.errors.assign u.1 message }
    | .ok v =>
      match p.validator v with
      | some message => { st with errors := st.errors.assign u.1 message }
      | none =>
        if v = p.value then { st with upsertNoOpNames := st.upsertNoOpNames.insert u.1 }
        else { st with cfg := st.cfg.set u.1 { p with value := v } }

/-- One removal (`server.cc:1795–1801`): the property is reset to its default. -/
def removeStep (st : PatchValidation) (key : String) : PatchValidation :=
  match st.cfg key with
  | some p => { st with cfg := st.cfg.set key { p with value := p.default } }
  | none => { st with errors := st.errors.assign key "Unknown property" }

/-- `join_properties` (`server.cc:1470–1484`). -/
def joinProperties (names : List String) : String := ", ".intercalate names

/-- `config_multi_property_validation` (`server.cc:1495–1583`). `live` is the node's
`shard_local_cfg()`, whose `admin_api_require_auth` says whether auth was enabled. -/
def configMultiPropertyValidation (username : String) (schemaRegistry : Bool)
    (live : Configuration) (req : ConfigUpdateRequest) (updated : Configuration)
    (errors : ErrorMap) : ErrorMap :=
  let modifiedKeys := req.upsert.map Prod.fst
  let errors :=
    if (modifiedKeys.contains "admin_api_require_auth" || modifiedKeys.contains "superusers") &&
        updated.boolValue "admin_api_require_auth" then
      let authWasEnabled := live.boolValue "admin_api_require_auth"
      let superusers := updated.stringListValue "superusers"
      if superusers.isEmpty then errors.assign "admin_api_require_auth" "No superusers defined"
      else if !superusers.contains username && !authWasEnabled then
        errors.assign "admin_api_require_auth" "May only be set by a superuser"
      else errors
    else errors
  let errors :=
    if updated.boolValue "cloud_storage_enabled" then
      if updated.enumValue "cloud_storage_credentials_source" = "config_file" then
        let s3 := ["cloud_storage_region", "cloud_storage_bucket",
          "cloud_storage_access_key", "cloud_storage_secret_key"]
        let abs := ["cloud_storage_azure_storage_account", "cloud_storage_azure_container",
          "cloud_storage_azure_shared_key"]
        if [s3, abs].any fun c => c.all fun n => (updated.optionalStringValue n).isSome then errors
        else
          let s3Names := joinProperties s3
          let absNames := joinProperties abs
          errors.assign "cloud_storage_enabled"
            ("To enable cloud storage you need to configure S3 or Azure Blob Storage access. " ++
              s!"For S3 {s3Names} must be set. For ABS {absNames} must be set")
      else
        ["cloud_storage_region", "cloud_storage_bucket"].foldl
          (fun e n => if (updated.optionalStringValue n).isNone then
            e.assign n "Must be set when cloud storage enabled" else e) errors
    else errors
  if updated.enumValue "enable_schema_id_validation" ≠ "none" ∧ !schemaRegistry then
    errors.assign "enable_schema_id_validation"
      "enable_schema_id_validation requires schema_registry to be enabled in redpanda.yaml"
  else errors

/-- The validation pass of `patch_cluster_config_handler` (`server.cc:1686–1805`) on a scratch
copy of the live configuration, then the multi-property checks. -/
def validatePatch (asInt64 : String → Option Int) (live : Configuration) (username : String)
    (schemaRegistry : Bool) (update : ConfigUpdateRequest) : PatchValidation :=
  let st := update.upsert.foldl (upsertStep asInt64) ⟨live, [], []⟩
  let st := update.remove.foldl removeStep st
  { st with errors :=
      configMultiPropertyValidation username schemaRegistry live update st.cfg st.errors }

/-- How the handler answers a patch it accepts: with the current version for a dry run or a
patch that changes nothing, or by sending the update to `config_frontend::patch`. -/
inductive PatchOutcome where
  | dryRun (version : Int)
  | noOp (version : Int)
  | patch (update : ConfigUpdateRequest)
  deriving DecidableEq, Repr

/-- The `upsert_no_op_names` of `admin_server::patch_cluster_config_handler`
(`server.cc:1692–1820`): without `force` the patch is validated, and any error is thrown as
a JSON object of messages by property with status 400; with `force` nothing is checked and
no upsert counts as a no-op. -/
def upsertNoOpNames (asInt64 : String → Option Int) (live : Configuration)
    (username : String) (schemaRegistry : Bool) (query : QueryParameters)
    (update : ConfigUpdateRequest) : Except HandlerException (List String) :=
  if !getBooleanQueryParam query "force" then
    let st := validatePatch asInt64 live username schemaRegistry update
    if st.errors.isEmpty then pure st.upsertNoOpNames else throw (.baseJson st.errors 400)
  else pure []

/-- `admin_server::patch_cluster_config_handler` (`server.cc:1692–1866`), up to the call of
`config_frontend::patch`. `version` is the config manager's. -/
def patchClusterConfigHandler (asInt64 : String → Option Int) (live : Configuration)
    (username : String) (schemaRegistry : Bool) (query : QueryParameters)
    (update : ConfigUpdateRequest) (version : Int) : Except HandlerException PatchOutcome := do
  let noOpNames ← upsertNoOpNames asInt64 live username schemaRegistry query update
  if getBooleanQueryParam query "dry_run" then return .dryRun version
  else if update.upsert.length = noOpNames.length ∧ update.remove.isEmpty then
    return .noOp version
  else return .patch update

/-! ### The patch as a change to the configuration -/

/-- What upserts do to a configuration, stated plainly: each, in order, sets its
property to the decoded value. A name that is no property, or a value that does not decode,
changes nothing. -/
def applyUpserts (cfg : Configuration) : List (String × String) → Configuration
  | [] => cfg
  | (name, yaml) :: rest =>
    match cfg name with
    | some p =>
      match p.decode yaml with
      | .ok v => applyUpserts (cfg.set name { p with value := v }) rest
      | .error _ => applyUpserts cfg rest
    | none => applyUpserts cfg rest

/-- What removals do to a configuration: each resets its property to the default. -/
def applyRemoves (cfg : Configuration) : List String → Configuration
  | [] => cfg
  | key :: rest =>
    match cfg key with
    | some p => applyRemoves (cfg.set key { p with value := p.default }) rest
    | none => applyRemoves cfg rest

/-- The configuration a patch leads to: its upserts, then its removals. -/
def applyPatch (cfg : Configuration) (update : ConfigUpdateRequest) : Configuration :=
  applyRemoves (applyUpserts cfg update.upsert) update.remove

section Validation

variable (asInt64 : String → Option Int)

/-- An upsert that records no error had a property and a decodable, valid value, and was
set: a no-op names the property, a change stores the value. -/
theorem upsertStep_of_errors_nil {st : PatchValidation} {u : String × String}
    (h : (upsertStep asInt64 st u).errors = []) :
    st.errors = [] ∧ ∃ p v, st.cfg u.1 = some p ∧ p.decode u.2 = .ok v ∧
      (v = p.value ∧ (upsertStep asInt64 st u).cfg = st.cfg ∧
          (upsertStep asInt64 st u).upsertNoOpNames = st.upsertNoOpNames.insert u.1 ∨
        v ≠ p.value ∧ (upsertStep asInt64 st u).cfg = st.cfg.set u.1 { p with value := v } ∧
          (upsertStep asInt64 st u).upsertNoOpNames = st.upsertNoOpNames) := by
  unfold upsertStep at h ⊢
  split at h
  · exact absurd h (ErrorMap.assign_ne_nil _ _ _)
  · rename_i p hp
    split at h
    · exact absurd h (ErrorMap.assign_ne_nil _ _ _)
    · exact absurd h (ErrorMap.assign_ne_nil _ _ _)
    · rename_i v hv
      split at h
      · exact absurd h (ErrorMap.assign_ne_nil _ _ _)
      · rename_i hval
        simp only [hp, hv, hval]
        split_ifs at h ⊢ with heq
        · exact ⟨h, p, v, rfl, hv, .inl ⟨heq, rfl, rfl⟩⟩
        · exact ⟨h, p, v, rfl, hv, .inr ⟨heq, rfl, rfl⟩⟩

/-- Errors are never taken back: a pass over upserts that ends with none started with none. -/
theorem upsertPass_errors_nil {st : PatchValidation} {ups : List (String × String)}
    (h : (ups.foldl (upsertStep asInt64) st).errors = []) : st.errors = [] := by
  induction ups generalizing st with
  | nil => exact h
  | cons u us ih => exact (upsertStep_of_errors_nil asInt64 (ih h)).1

/-- An upsert either leaves the no-op names as they were or adds its own name. -/
theorem upsertStep_noOpNames (st : PatchValidation) (u : String × String) :
    (upsertStep asInt64 st u).upsertNoOpNames = st.upsertNoOpNames ∨
      (upsertStep asInt64 st u).upsertNoOpNames = st.upsertNoOpNames.insert u.1 := by
  unfold upsertStep
  repeat' split
  all_goals first
    | exact .inl rfl
    | exact .inr rfl

/-- Each upsert adds at most one no-op name. -/
theorem upsertPass_noOpNames_length {st : PatchValidation} {ups : List (String × String)} :
    (ups.foldl (upsertStep asInt64) st).upsertNoOpNames.length ≤
      st.upsertNoOpNames.length + ups.length := by
  induction ups generalizing st with
  | nil => simp
  | cons u us ih =>
    have hstep : (upsertStep asInt64 st u).upsertNoOpNames.length ≤
        st.upsertNoOpNames.length + 1 := by
      rcases upsertStep_noOpNames asInt64 st u with h | h <;> rw [h]
      · omega
      · by_cases hm : u.1 ∈ st.upsertNoOpNames <;> simp [hm]
    have := @ih (upsertStep asInt64 st u)
    simp only [List.foldl_cons, List.length_cons]
    omega

/-- The counting argument behind the no-op shortcut: if a pass without errors names as many
no-ops as it has upserts, every upsert left its property as it was, and so does applying
them in order. -/
theorem upsertPass_unchanged {st : PatchValidation} {ups : List (String × String)}
    (herr : (ups.foldl (upsertStep asInt64) st).errors = [])
    (hcount : st.upsertNoOpNames.length + ups.length ≤
      (ups.foldl (upsertStep asInt64) st).upsertNoOpNames.length) :
    (ups.foldl (upsertStep asInt64) st).cfg = st.cfg ∧ applyUpserts st.cfg ups = st.cfg := by
  induction ups generalizing st with
  | nil => exact ⟨rfl, rfl⟩
  | cons u us ih =>
    simp only [List.foldl_cons, List.length_cons] at herr hcount ⊢
    have hrest := @upsertPass_noOpNames_length asInt64 (upsertStep asInt64 st u) us
    obtain ⟨-, p, v, hp, hv, ⟨rfl, hcfg, hnames⟩ | ⟨-, -, hnames⟩⟩ :=
      upsertStep_of_errors_nil asInt64 (upsertPass_errors_nil asInt64 herr)
    · have hnew : u.1 ∉ st.upsertNoOpNames := fun hm => by
        rw [hnames, List.insert_of_mem hm] at hrest
        omega
      obtain ⟨hfinal, happly⟩ :=
        ih herr (by rw [hnames, List.length_insert_of_not_mem hnew]; omega)
      rw [hcfg] at hfinal happly
      refine ⟨hfinal, ?_⟩
      obtain ⟨name, yaml⟩ := u
      simp only [applyUpserts, hp, hv, Configuration.set_same hp]
      exact happly
    · rw [hnames] at hrest
      exact absurd (hcount.trans hrest) (by simp)

/-- An upsert pass that records no error leaves the scratch configuration as the plain
upserts leave it. -/
theorem upsertPass_cfg {st : PatchValidation} {ups : List (String × String)}
    (herr : (ups.foldl (upsertStep asInt64) st).errors = []) :
    (ups.foldl (upsertStep asInt64) st).cfg = applyUpserts st.cfg ups := by
  induction ups generalizing st with
  | nil => rfl
  | cons u us ih =>
    simp only [List.foldl_cons] at herr ⊢
    obtain ⟨name, yaml⟩ := u
    obtain ⟨-, p, v, hp, hv, ⟨rfl, hcfg, -⟩ | ⟨-, hcfg, -⟩⟩ :=
      upsertStep_of_errors_nil asInt64 (upsertPass_errors_nil asInt64 herr)
    · simp only [ih herr, hcfg, applyUpserts, hp, hv, Configuration.set_same hp]
    · simp only [ih herr, hcfg, applyUpserts, hp, hv]

/-- A removal touches neither the no-op names nor, when it records no error, anything but
the removed property, which it resets. -/
theorem removeStep_spec {st : PatchValidation} {key : String} :
    (removeStep st key).upsertNoOpNames = st.upsertNoOpNames ∧
      ((removeStep st key).errors = [] → st.errors = [] ∧
        ∃ p, st.cfg key = some p ∧
          (removeStep st key).cfg = st.cfg.set key { p with value := p.default }) := by
  unfold removeStep
  split
  · exact ⟨rfl, fun h => ⟨h, _, ‹_›, rfl⟩⟩
  · exact ⟨rfl, fun h => absurd h (ErrorMap.assign_ne_nil _ _ _)⟩

/-- Removals keep the no-op names, and a removal pass that ends with no error started
with none. -/
theorem removePass_spec {st : PatchValidation} {keys : List String} :
    (keys.foldl removeStep st).upsertNoOpNames = st.upsertNoOpNames ∧
      ((keys.foldl removeStep st).errors = [] → st.errors = []) := by
  induction keys generalizing st with
  | nil => exact ⟨rfl, id⟩
  | cons k ks ih =>
    obtain ⟨hnames, herr⟩ := @ih (removeStep st k)
    exact ⟨hnames.trans removeStep_spec.1, fun h => (removeStep_spec.2 (herr h)).1⟩

/-- A removal pass that records no error resets the removed properties as the plain
removals do. -/
theorem removePass_cfg {st : PatchValidation} {keys : List String}
    (herr : (keys.foldl removeStep st).errors = []) :
    (keys.foldl removeStep st).cfg = applyRemoves st.cfg keys := by
  induction keys generalizing st with
  | nil => rfl
  | cons k ks ih =>
    simp only [List.foldl_cons] at herr ⊢
    obtain ⟨-, p, hp, hcfg⟩ := removeStep_spec.2 (removePass_spec.2 herr)
    simp only [ih herr, hcfg, applyRemoves, hp]

theorem foldl_assign_ne_nil (missing : String → Bool) (message : String) (names : List String)
    {e : ErrorMap} (he : e ≠ []) :
    names.foldl (fun e n => if missing n then e.assign n message else e) e ≠ [] := by
  induction names generalizing e with
  | nil => exact he
  | cons n ns ih =>
    apply ih
    dsimp only
    split_ifs
    · exact ErrorMap.assign_ne_nil _ _ _
    · exact he

/-- The multi-property checks only add errors. -/
theorem ite_errors_ne_nil {c : Prop} [Decidable c] {a b : ErrorMap} (ha : a ≠ [])
    (hb : b ≠ []) :
    (if c then a else b) ≠ [] := by
  split <;> assumption

theorem configMultiPropertyValidation_ne_nil (username : String) (schemaRegistry : Bool)
    (live : Configuration) (req : ConfigUpdateRequest) (updated : Configuration)
    {errors : ErrorMap} (he : errors ≠ []) :
    configMultiPropertyValidation username schemaRegistry live req updated errors ≠ [] := by
  simp only [configMultiPropertyValidation]
  repeat' first
    | exact he
    | exact ErrorMap.assign_ne_nil _ _ _
    | apply foldl_assign_ne_nil
    | apply ite_errors_ne_nil

/-- What the lockout check does guarantee: a patch that upserts `admin_api_require_auth` or
`superusers` and passes the checks leaves auth off, or some superuser, among them the
requesting user whenever auth was off before. -/
theorem configMultiPropertyValidation_lockout {username : String} {schemaRegistry : Bool}
    {live : Configuration} {req : ConfigUpdateRequest} {updated : Configuration}
    {errors : ErrorMap}
    (hkeys : ((req.upsert.map Prod.fst).contains "admin_api_require_auth" ||
      (req.upsert.map Prod.fst).contains "superusers") = true)
    (h : configMultiPropertyValidation username schemaRegistry live req updated errors = []) :
    updated.boolValue "admin_api_require_auth" = false ∨
      (updated.stringListValue "superusers" ≠ [] ∧
        (live.boolValue "admin_api_require_auth" = false →
          username ∈ updated.stringListValue "superusers")) := by
  by_contra hcon
  simp only [not_or, Bool.not_eq_false, not_and, Classical.not_imp] at hcon
  obtain ⟨hauth, hsuper⟩ := hcon
  refine absurd h ?_
  simp only [configMultiPropertyValidation, hkeys, hauth, Bool.and_self, if_true]
  -- the auth check records an error, either for no superuser or for a user not among them
  rcases (em (updated.stringListValue "superusers" = [])).imp_right hsuper with
    hempty | ⟨hwas, hnot⟩
  on_goal 1 => simp only [hempty, List.isEmpty_nil, if_true]
  on_goal 2 => simp only [hwas, List.contains, List.elem_eq_mem, hnot, decide_False,
    Bool.not_false, Bool.and_self, if_true]
  -- and the later checks keep it
  all_goals repeat' first
    | exact ErrorMap.assign_ne_nil _ _ _
    | apply foldl_assign_ne_nil
    | apply ite_errors_ne_nil

/-- A patch the validation pass accepts recorded no error in its upsert and removal passes. -/
theorem validatePatch_errors_nil {live : Configuration} {username : String}
    {schemaRegistry : Bool} {update : ConfigUpdateRequest}
    (h : (validatePatch asInt64 live username schemaRegistry update).errors = []) :
    (update.upsert.foldl (upsertStep asInt64) ⟨live, [], []⟩).errors = [] ∧
      (update.remove.foldl removeStep
        (update.upsert.foldl (upsertStep asInt64) ⟨live, [], []⟩)).errors = [] := by
  have hremove : (update.remove.foldl removeStep
      (update.upsert.foldl (upsertStep asInt64) ⟨live, [], []⟩)).errors = [] := by
    by_contra hne
    exact configMultiPropertyValidation_ne_nil username schemaRegistry live update _ hne h
  exact ⟨removePass_spec.2 hremove, hremove⟩

/-- The scratch configuration of an accepted patch is the plain one: the live configuration
with the upserts, then the removals, applied. -/
theorem validatePatch_cfg {live : Configuration} {username : String} {schemaRegistry : Bool}
    {update : ConfigUpdateRequest}
    (h : (validatePatch asInt64 live username schemaRegistry update).errors = []) :
    (validatePatch asInt64 live username schemaRegistry update).cfg = applyPatch live update := by
  obtain ⟨hups, hrems⟩ := validatePatch_errors_nil asInt64 h
  simp only [validatePatch, applyPatch, removePass_cfg hrems, upsertPass_cfg asInt64 hups]

/-- An accepted patch that upserts `admin_api_require_auth` or `superusers` leads to a
configuration with auth off, or with superusers, among them the requesting user whenever
auth was off before. -/
theorem validatePatch_lockout {live : Configuration} {username : String}
    {schemaRegistry : Bool} {update : ConfigUpdateRequest}
    (hkeys : ((update.upsert.map Prod.fst).contains "admin_api_require_auth" ||
      (update.upsert.map Prod.fst).contains "superusers") = true)
    (h : (validatePatch asInt64 live username schemaRegistry update).errors = []) :
    (applyPatch live update).boolValue "admin_api_require_auth" = false ∨
      ((applyPatch live update).stringListValue "superusers" ≠ [] ∧
        (live.boolValue "admin_api_require_auth" = false →
          username ∈ (applyPatch live update).stringListValue "superusers")) := by
  rw [← validatePatch_cfg asInt64 h]
  exact configMultiPropertyValidation_lockout hkeys h

/-! ### Which patches the validation pass accepts -/

/-- The upsert steps and the removal steps only set values, so the scratch configuration
keeps the live configuration's schema throughout the pass. -/
theorem upsertStep_schema (st : PatchValidation) (u : String × String) :
    (upsertStep asInt64 st u).cfg.schema = st.cfg.schema := by
  unfold upsertStep
  split
  · rfl
  · rename_i p hp
    repeat' split
    all_goals first
      | rfl
      | exact Configuration.schema_set_value hp _

theorem upsertPass_schema (ups : List (String × String)) :
    ∀ st : PatchValidation, (ups.foldl (upsertStep asInt64) st).cfg.schema = st.cfg.schema := by
  induction ups with
  | nil => exact fun _ => rfl
  | cons u us ih => exact fun st => (ih _).trans (upsertStep_schema asInt64 st u)

theorem removeStep_schema (st : PatchValidation) (key : String) :
    (removeStep st key).cfg.schema = st.cfg.schema := by
  unfold removeStep
  split
  · exact Configuration.schema_set_value ‹_› _
  · rfl

/-- An upsert that `cfg` accepts: it names a property whose decoder takes the value and
whose validator passes it. -/
def UpsertValid (cfg : Configuration) (u : String × String) : Prop :=
  ∃ p v, cfg u.1 = some p ∧ p.decode u.2 = .ok v ∧ p.validator v = none

theorem UpsertValid.of_schema_eq {c c' : Configuration} (hs : c.schema = c'.schema)
    {u : String × String} (h : UpsertValid c u) : UpsertValid c' u := by
  obtain ⟨p, v, hp, hd, hval⟩ := h
  have : c'.schema u.1 = some (p.decode, p.validator) := by
    rw [← hs]; simp [Configuration.schema, hp]
  obtain ⟨p', hp', hpp⟩ := Option.map_eq_some'.1 this
  simp only [Prod.mk.injEq] at hpp
  exact ⟨p', v, hp', hpp.1 ▸ hd, hpp.2 ▸ hval⟩

/-- An upsert records no error exactly when none was recorded before and the scratch
configuration accepts it. -/
theorem upsertStep_errors_eq_nil (st : PatchValidation) (u : String × String) :
    (upsertStep asInt64 st u).errors = [] ↔ st.errors = [] ∧ UpsertValid st.cfg u := by
  unfold upsertStep UpsertValid
  split
  · simp [ErrorMap.assign_ne_nil, *]
  · rename_i p hp
    split
    · simp [ErrorMap.assign_ne_nil, *]
    · simp [ErrorMap.assign_ne_nil, *]
    · rename_i v hv
      split
      · simp [ErrorMap.assign_ne_nil, *]
      · rename_i hval
        split_ifs <;> exact ⟨fun h => ⟨h, p, v, hp, hv, hval⟩, And.left⟩

theorem removeStep_errors_eq_nil (st : PatchValidation) (key : String) :
    (removeStep st key).errors = [] ↔ st.errors = [] ∧ (st.cfg key).isSome := by
  unfold removeStep
  split <;> simp [ErrorMap.assign_ne_nil, *]

/-- An upsert pass from a configuration with the schema of `cfg` records no error exactly
when none was recorded before and `cfg` accepts every upsert. -/
theorem upsertPass_errors_eq_nil {cfg : Configuration} (ups : List (String × String)) :
    ∀ st : PatchValidation, st.cfg.schema = cfg.schema →
      ((ups.foldl (upsertStep asInt64) st).errors = [] ↔
        st.errors = [] ∧ ∀ u ∈ ups, UpsertValid cfg u) := by
  induction ups with
  | nil => simp
  | cons u us ih =>
    intro st hs
    have hvalid : UpsertValid st.cfg u ↔ UpsertValid cfg u :=
      ⟨UpsertValid.of_schema_eq hs, UpsertValid.of_schema_eq hs.symm⟩
    rw [List.foldl_cons, ih _ ((upsertStep_schema asInt64 st u).trans hs),
      upsertStep_errors_eq_nil, hvalid, List.forall_mem_cons, and_assoc]

/-- A removal pass from a configuration with the schema of `cfg` records no error exactly
when none was recorded before and every removed name is a property of `cfg`. -/
theorem removePass_errors_eq_nil {cfg : Configuration} (keys : List String) :
    ∀ st : PatchValidation, st.cfg.schema = cfg.schema →
      ((keys.foldl removeStep st).errors = [] ↔
        st.errors = [] ∧ ∀ k ∈ keys, (cfg k).isSome) := by
  induction keys with
  | nil => simp
  | cons k ks ih =>
    intro st hs
    have hsome : (st.cfg k).isSome = (cfg k).isSome := by
      rw [← Configuration.isSome_schema, hs, Configuration.isSome_schema]
    rw [List.foldl_cons, ih _ ((removeStep_schema st k).trans hs), removeStep_errors_eq_nil,
      hsome, List.forall_mem_cons, and_assoc]

/-- The validation pass accepts a patch exactly when the live configuration accepts every
upsert, every removed name is a property, and the multi-property checks pass on the
configuration the patch leads to. -/
theorem validatePatch_errors_eq_nil (live : Configuration) (username : String)
    (schemaRegistry : Bool) (update : ConfigUpdateRequest) :
    (validatePatch asInt64 live username schemaRegistry update).errors = [] ↔
      (∀ u ∈ update.upsert, UpsertValid live u) ∧ (∀ k ∈ update.remove, (live k).isSome) ∧
        configMultiPropertyValidation username schemaRegistry live update
          (applyPatch live update) [] = [] := by
  have hups := upsertPass_errors_eq_nil asInt64 update.upsert ⟨live, [], []⟩ rfl
  have hrems := removePass_errors_eq_nil update.remove _
    (upsertPass_schema asInt64 update.upsert ⟨live, [], []⟩)
  -- with both passes clean, what is left is the multi-property checks on the patched
  -- configuration
  have hclean (hu : (update.upsert.foldl (upsertStep asInt64) ⟨live, [], []⟩).errors = [])
      (hr : (update.remove.foldl removeStep
        (update.upsert.foldl (upsertStep asInt64) ⟨live, [], []⟩)).errors = []) :
      (validatePatch asInt64 live username schemaRegistry update).errors =
        configMultiPropertyValidation username schemaRegistry live update
          (applyPatch live update) [] := by
    show configMultiPropertyValidation username schemaRegistry live update _ _ = _
    rw [hr, removePass_cfg hr, upsertPass_cfg asInt64 hu]
    rfl
  constructor
  · intro h
    obtain ⟨hu, hr⟩ := validatePatch_errors_nil asInt64 h
    exact ⟨(hups.1 hu).2, (hrems.1 hr).2, (hclean hu hr).symm.trans h⟩
  · rintro ⟨hu, hr, hm⟩
    have hu' := hups.2 ⟨rfl, hu⟩
    exact (hclean hu' (hrems.2 ⟨hu', hr⟩)).trans hm

end Validation

/-- The no-op names the handler counts are either none at all (under `force`) or those of an
upsert pass that recorded no error. -/
theorem upsertNoOpNames_eq_ok {asInt64 : String → Option Int} {live : Configuration}
    {username : String} {schemaRegistry : Bool} {query : QueryParameters}
    {update : ConfigUpdateRequest} {names : List String}
    (h : upsertNoOpNames asInt64 live username schemaRegistry query update = .ok names) :
    names = [] ∨
      ((update.upsert.foldl (upsertStep asInt64) ⟨live, [], []⟩).errors = [] ∧
        names = (update.upsert.foldl (upsertStep asInt64) ⟨live, [], []⟩).upsertNoOpNames) := by
  unfold upsertNoOpNames at h
  split_ifs at h with hforce
  · dsimp only at h
    split_ifs at h with herr
    · refine .inr ⟨(validatePatch_errors_nil asInt64 (List.isEmpty_iff.1 herr)).1, ?_⟩
      simpa [validatePatch, removePass_spec.1] using h.symm
  · exact .inl (by simpa using h.symm)

/-- The no-op shortcut is sound: whenever the handler answers with the current version as a
patch that changes nothing, with or without `force`, the patch removes nothing and applying
its upserts in order to the live configuration leaves every property as it was. -/
theorem patchClusterConfigHandler_noOp_sound (asInt64 : String → Option Int)
    (live : Configuration) (username : String) (schemaRegistry : Bool) (query : QueryParameters)
    (update : ConfigUpdateRequest) (version v : Int)
    (h : patchClusterConfigHandler asInt64 live username schemaRegistry query update version =
      .ok (.noOp v)) :
    update.remove = [] ∧ applyUpserts live update.upsert = live := by
  obtain ⟨names, hnames, hrest⟩ := bind_eq_ok_iff.1 h
  have hcond : update.upsert.length = names.length ∧ update.remove.isEmpty = true := by
    split_ifs at hrest with hd hc
    · simp at hrest
    · exact hc
    · simp at hrest
  refine ⟨List.isEmpty_iff.1 hcond.2, ?_⟩
  rcases upsertNoOpNames_eq_ok hnames with hnil | ⟨herr, rfl⟩
  · simp [List.length_eq_zero.1 (hnil ▸ hcond.1), applyUpserts]
  · exact (upsertPass_unchanged asInt64 herr (by simpa using hcond.1.le)).2

/-- A boolean property already `true`, upserted as `true` once: the handler answers with the
current version. -/
theorem patchClusterConfigHandler_noOp_of_same_value :
    let live : Configuration := fun n => if n = "enable_sasl" then
      some ⟨"boolean", none, .boolean false,
        fun y => if y = "true" then .ok (.boolean true) else .error .badConversion,
        fun _ => none, .boolean true⟩ else none
    let update : ConfigUpdateRequest := ⟨[("enable_sasl", "true")], []⟩
    patchClusterConfigHandler (fun _ => none) live "admin" true (fun _ => none) update 3 =
        .ok (.noOp 3) ∧
      update.remove = [] ∧ applyUpserts live update.upsert = live :=
  ⟨rfl, patchClusterConfigHandler_noOp_sound (fun _ => none) _ "admin" true (fun _ => none) _
    3 3 rfl⟩

/-! ### Which patches the handler takes -/

/-- The handler answers as soon as it has the no-op names; only computing them throws. -/
theorem patchClusterConfigHandler_ok_iff_noOpNames {asInt64 : String → Option Int}
    {live : Configuration} {username : String} {schemaRegistry : Bool}
    {query : QueryParameters} {update : ConfigUpdateRequest} {version : Int} :
    (∃ o, patchClusterConfigHandler asInt64 live username schemaRegistry query update version =
      .ok o) ↔ ∃ names, upsertNoOpNames asInt64 live username schemaRegistry query update =
        .ok names := by
  constructor
  · rintro ⟨o, h⟩
    obtain ⟨names, hn, -⟩ := bind_eq_ok_iff.1 h
    exact ⟨names, hn⟩
  · rintro ⟨names, hn⟩
    simp only [patchClusterConfigHandler, hn, bind, Except.bind]
    split_ifs <;> exact ⟨_, rfl⟩

/-- The no-op names are computed under `force`, and otherwise exactly when the validation
pass records no error. -/
theorem upsertNoOpNames_ok_iff {asInt64 : String → Option Int} {live : Configuration}
    {username : String} {schemaRegistry : Bool} {query : QueryParameters}
    {update : ConfigUpdateRequest} :
    (∃ names, upsertNoOpNames asInt64 live username schemaRegistry query update = .ok names) ↔
      getBooleanQueryParam query "force" = true ∨
        (validatePatch asInt64 live username schemaRegistry update).errors = [] := by
  unfold upsertNoOpNames
  cases getBooleanQueryParam query "force"
  · by_cases h : (validatePatch asInt64 live username schemaRegistry update).errors = []
    · simp [h]
    · simp [h, List.isEmpty_iff]
  · simp

/-- Without `force`, the handler takes a patch exactly when every upsert names a property
that decodes its value and whose validator passes it, every removed name is a property, and
the multi-property checks pass on the configuration the patch leads to. With `force` it
takes every patch. -/
theorem patchClusterConfigHandler_accepts_iff (asInt64 : String → Option Int)
    (live : Configuration) (username : String) (schemaRegistry : Bool) (query : QueryParameters)
    (update : ConfigUpdateRequest) (version : Int) :
    (∃ o, patchClusterConfigHandler asInt64 live username schemaRegistry query update version =
      .ok o) ↔ getBooleanQueryParam query "force" = true ∨
        (∀ u ∈ update.upsert, UpsertValid live u) ∧ (∀ k ∈ update.remove, (live k).isSome) ∧
          configMultiPropertyValidation username schemaRegistry live update
            (applyPatch live update) [] = [] := by
  rw [patchClusterConfigHandler_ok_iff_noOpNames, upsertNoOpNames_ok_iff,
    validatePatch_errors_eq_nil]

/-- Without `force`, a patch the handler takes that upserts `admin_api_require_auth` or
`superusers` leads to a configuration with auth off, or with a superuser, the requesting
user among them whenever auth was off before. -/
theorem patchClusterConfigHandler_upsert_keeps_admin_access {asInt64 : String → Option Int}
    {live : Configuration} {username : String} {schemaRegistry : Bool}
    {query : QueryParameters} {update : ConfigUpdateRequest} {version : Int} {o : PatchOutcome}
    (hforce : getBooleanQueryParam query "force" = false)
    (hkeys : ((update.upsert.map Prod.fst).contains "admin_api_require_auth" ||
      (update.upsert.map Prod.fst).contains "superusers") = true)
    (h : patchClusterConfigHandler asInt64 live username schemaRegistry query update version =
      .ok o) :
    (applyPatch live update).boolValue "admin_api_require_auth" = false ∨
      ((applyPatch live update).stringListValue "superusers" ≠ [] ∧
        (live.boolValue "admin_api_require_auth" = false →
          username ∈ (applyPatch live update).stringListValue "superusers")) := by
  have hvalid := upsertNoOpNames_ok_iff.1 (patchClusterConfigHandler_ok_iff_noOpNames.1 ⟨o, h⟩)
  rw [hforce] at hvalid
  exact validatePatch_lockout asInt64 hkeys (hvalid.resolve_left Bool.false_ne_true)

/-- With auth on, `admin` making itself the only superuser: the handler forwards the patch,
and the configuration keeps `admin` a superuser. -/
theorem patchClusterConfigHandler_admin_sets_itself_superuser :
    let live : Configuration := fun n =>
      if n = "admin_api_require_auth" then
        some ⟨"boolean", none, .boolean false, fun _ => .error .badConversion, fun _ => none,
          .boolean true⟩
      else if n = "superusers" then
        some ⟨"array", none, .stringList [],
          fun y => if y = "[admin]" then .ok (.stringList ["admin"]) else .error .badConversion,
          fun _ => none, .stringList []⟩
      else none
    let update : ConfigUpdateRequest := ⟨[("superusers", "[admin]")], []⟩
    getBooleanQueryParam (fun _ => none) "force" = false ∧
      ((update.upsert.map Prod.fst).contains "admin_api_require_auth" ||
        (update.upsert.map Prod.fst).contains "superusers") = true ∧
      patchClusterConfigHandler (fun _ => none) live "admin" true (fun _ => none) update 0 =
        .ok (.patch update) ∧
      ((applyPatch live update).boolValue "admin_api_require_auth" = false ∨
        ((applyPatch live update).stringListValue "superusers" ≠ [] ∧
          (live.boolValue "admin_api_require_auth" = false →
            "admin" ∈ (applyPatch live update).stringListValue "superusers"))) :=
  ⟨rfl, rfl, rfl, @patchClusterConfigHandler_upsert_keeps_admin_access (fun _ => none) _
    "admin" true (fun _ => none) _ 0 _ rfl rfl rfl⟩

/-! ### Removing the superusers -/

/-- With auth required and `admin` the only superuser, a patch that only removes
`superusers` is accepted and forwarded, and the configuration it leads to requires auth
with no superuser: the lockout check reads the upserted keys only. -/
theorem remove_superusers_bypasses_lockout_check :
    let live : Configuration := fun n =>
      if n = "admin_api_require_auth" then
        some ⟨"boolean", none, .boolean false, fun _ => .error .badConversion, fun _ => none,
          .boolean true⟩
      else if n = "superusers" then
        some ⟨"array", none, .stringList [], fun _ => .error .badConversion, fun _ => none,
          .stringList ["admin"]⟩
      else none
    let update : ConfigUpdateRequest := ⟨[], ["superusers"]⟩
    live.boolValue "admin_api_require_auth" = true ∧
      live.stringListValue "superusers" = ["admin"] ∧
      patchClusterConfigHandler (fun _ => none) live "admin" true (fun _ => none) update 0 =
        .ok (.patch update) ∧
      (applyPatch live update).boolValue "admin_api_require_auth" = true ∧
      (applyPatch live update).stringListValue "superusers" = [] :=
  ⟨rfl, rfl, rfl, rfl, rfl⟩

end Redpanda.Admin
