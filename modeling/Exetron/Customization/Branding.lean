import Exetron.Customization.Paths
import Exetron.Customization.Service
import Exetron.JsonText
import Exetron.Lib.Rows
import Exetron.Lib.Trace

/-!
# Branding

The branding configs of `CustomizationService`, one for each scope, and the branding that an
evaluation merges from those that match it. At every path the most specific config that reaches it
decides.
-/

namespace Exetron.Customization

open Lib List

inductive Word where
  | silent
  | closed
  | leaf (value : Json)
  | object
  deriving DecidableEq

def wordOf : Option Json → List String → Word
  | none, _ => .silent
  | some (.obj _), [] => .object
  | some value, [] => .leaf value
  | some (.obj fields), key :: rest => wordOf (Record.get fields key) rest
  | some _, _ :: _ => .closed

@[simp] theorem wordOf_none (path : List String) : wordOf none path = .silent := by
  cases path <;> rfl

def Word.seen : Word → Word
  | .closed => .silent
  | word => word

def DistinctKeys (document : Json) : Prop :=
  ∀ path fields, valueBelow document path = some (.obj fields) → (fields.map Prod.fst).Nodup

theorem DistinctKeys.keys {fields : Fields} (distinct : DistinctKeys (.obj fields)) :
    (fields.map Prod.fst).Nodup := distinct [] fields rfl

theorem DistinctKeys.field {fields : Fields} (distinct : DistinctKeys (.obj fields))
    {key : String} {value : Json} (given : Record.get fields key = some value) :
    DistinctKeys value := by
  intro path fields' below
  refine distinct (key :: path) fields' ?_
  rw [valueBelow, given]
  exact below

theorem get_merge {base patch : Fields} (distinct : (patch.map Prod.fst).Nodup) (key : String) :
    Record.get (deepMergeRecord base patch) key =
      match Record.get patch key with
      | none => Record.get base key
      | some value => some (mergeField (Record.get base key) value) := by
  induction patch generalizing base with
  | nil => rfl
  | cons field patch ih =>
    obtain ⟨assigned, given⟩ := field
    obtain ⟨new, others⟩ := nodup_cons.mp distinct
    rw [deepMergeRecord, ih others, Record.get_set, Record.get_cons]
    by_cases here : assigned = key
    · subst here
      rw [Record.get_eq_none_iff.mpr new, if_pos rfl, if_pos rfl]
    · rw [if_neg here, if_neg here]

def fieldsOf : Option Json → Fields
  | some (.obj fields) => fields
  | _ => []

theorem mergeField_obj {current : Option Json} {patch : Fields}
    (distinct : (patch.map Prod.fst).Nodup) :
    mergeField current (.obj patch) = .obj (deepMergeRecord (fieldsOf current) patch) := by
  cases current with
  | none => simp only [mergeField, fieldsOf, merge_empty distinct]
  | some value => cases value <;> simp only [mergeField, fieldsOf, merge_empty distinct]

theorem seen_fieldsOf (current : Option Json) (key : String) (rest : List String) :
    (wordOf (Record.get (fieldsOf current) key) rest).seen =
      (wordOf current (key :: rest)).seen := by
  cases current with
  | none => simp only [fieldsOf, Record.get_nil, wordOf_none]
  | some value =>
    cases value <;> simp only [fieldsOf, Record.get_nil, wordOf_none, wordOf, Word.seen]

theorem wordOf_mergeField {path : List String} {current : Option Json} {patch : Json}
    (distinct : DistinctKeys patch) :
    (wordOf (some patch) path ≠ .silent →
      wordOf (some (mergeField current patch)) path = wordOf (some patch) path) ∧
    (wordOf (some patch) path = .silent →
      (wordOf (some (mergeField current patch)) path).seen = (wordOf current path).seen) := by
  induction path generalizing current patch with
  | nil =>
    cases patch with
    | obj fields =>
      rw [mergeField_obj distinct.keys]
      exact ⟨fun _ => rfl, fun silent => by cases silent⟩
    | _ => exact ⟨fun _ => rfl, fun silent => by cases silent⟩
  | cons key rest ih =>
    cases patch with
    | obj fields =>
      rw [mergeField_obj distinct.keys]
      simp only [wordOf, get_merge distinct.keys]
      cases given : Record.get fields key with
      | none =>
        exact ⟨fun word => absurd (wordOf_none rest) word, fun _ => seen_fieldsOf current key rest⟩
      | some value =>
        obtain ⟨decided, left⟩ :=
          @ih (Record.get (fieldsOf current) key) value (distinct.field given)
        exact ⟨decided, fun silent => (left silent).trans (seen_fieldsOf current key rest)⟩
    | _ => exact ⟨fun _ => rfl, fun silent => by cases silent⟩

def IsDocument (config : CustomizationBrandingConfig) : Prop :=
  ∃ fields, config.config = .obj fields ∧ DistinctKeys config.config

def Reaches (config : CustomizationBrandingConfig) (path : List String) : Prop :=
  wordOf (some config.config) path ≠ .silent

instance (config : CustomizationBrandingConfig) (path : List String) :
    Decidable (Reaches config path) := inferInstanceAs (Decidable (_ ≠ _))

theorem addBranding_eq {branding : Option Fields} {config : CustomizationBrandingConfig}
    (document : IsDocument config) :
    (addBranding branding config).map Json.obj =
      some (mergeField (branding.map Json.obj) config.config) := by
  obtain ⟨fields, is, distinct⟩ := document
  rw [is] at distinct ⊢
  rw [mergeField_obj distinct.keys, addBranding, is]
  cases branding <;> rfl

theorem last_decides {configs : List CustomizationBrandingConfig}
    (documents : ∀ config ∈ configs, IsDocument config) (path : List String) :
    let seen := (wordOf ((configs.foldl addBranding none).map Json.obj) path).seen
    (∃ before config after, configs = before ++ config :: after ∧ Reaches config path ∧
      (∀ other ∈ after, ¬Reaches other path) ∧
      seen = (wordOf (some config.config) path).seen) ∨
    (∀ config ∈ configs, ¬Reaches config path) ∧ seen = .silent := by
  induction configs using reverseRecOn with
  | nil =>
    refine .inr ⟨fun _ listed => absurd listed not_mem_nil, ?_⟩
    exact congrArg Word.seen (wordOf_none path)
  | append_singleton configs last ih =>
    have own := documents last (mem_append_right _ mem_cons_self)
    obtain ⟨_, _, distinct⟩ := id own
    have earlier := ih fun config listed => documents config (mem_append_left _ listed)
    rw [foldl_append, foldl_cons, foldl_nil, addBranding_eq own]
    obtain ⟨decided, left⟩ := @wordOf_mergeField path
      ((configs.foldl addBranding none).map Json.obj) _ distinct
    by_cases reaches : Reaches last path
    · exact .inl ⟨configs, last, [], rfl, reaches, fun _ none => absurd none not_mem_nil,
        congrArg Word.seen (decided reaches)⟩
    · have silent : wordOf (some last.config) path = .silent := not_not.mp reaches
      rw [left silent]
      rcases earlier with ⟨before, config, after, rfl, first, none, seen⟩ | ⟨none, seen⟩
      · refine .inl ⟨before, config, after ++ [last], by simp, first, ?_, seen⟩
        exact fun other listed => (mem_append.mp listed).elim (none other)
          fun here => mem_singleton.mp here ▸ reaches
      · refine .inr ⟨fun config listed => ?_, seen⟩
        exact (mem_append.mp listed).elim (none config) fun here => mem_singleton.mp here ▸ reaches

structure ScopeKey where
  tenantId : Id
  channel : CustomizationChannel
  storeId : Option Id
  point : String
  deriving DecidableEq

def buildCustomizationScopeKey (tenantId : Id) (storeId : Option Id)
    (channel : CustomizationChannel) (pointKey : Option String) : ScopeKey :=
  let point := (pointKey.map Text.trim).getD ""
  { tenantId, channel, storeId, point := if point = "" then "*" else point }

structure BrandingConfigRow extends CustomizationBrandingConfig where
  id : Id
  scopeKey : ScopeKey

def CustomizationBrandingConfig.scope (config : CustomizationBrandingConfig) : ScopeKey :=
  buildCustomizationScopeKey config.tenantId config.storeId config.channel config.pointKey

def CustomizationBrandingConfig.score (config : CustomizationBrandingConfig) : Nat :=
  specificityScore config.storeId config.pointKey

/-- The `where` of the branding configs. -/
def Matches (tenantId : Id) (input : CustomizationEvaluationInput)
    (config : CustomizationBrandingConfig) : Prop :=
  config.tenantId = tenantId ∧ config.channel = input.channel ∧
    (config.storeId = none ∨ config.storeId = input.storeId) ∧
      atPoint input.pointKey config.pointKey

theorem scope_of_score {tenantId : Id} {input : CustomizationEvaluationInput}
    {config config' : CustomizationBrandingConfig} (left : Matches tenantId input config)
    (right : Matches tenantId input config') (same : config.score = config'.score) :
    config.scope = config'.scope := by
  obtain ⟨tenant, channel, store, point⟩ := left
  obtain ⟨tenant', channel', store', point'⟩ := right
  have bits : (config.storeId.isSome ↔ config'.storeId.isSome) ∧
      ((config.pointKey.map Text.trim).getD "" = "" ↔
        (config'.pointKey.map Text.trim).getD "" = "") := by
    simp only [CustomizationBrandingConfig.score, specificityScore] at same
    split_ifs at same <;> simp_all
  have stores : config.storeId = config'.storeId := by
    cases here : config.storeId with
    | none =>
      have there := bits.1.not.mp (by simp [here])
      exact (Option.not_isSome_iff_eq_none.mp there).symm
    | some storeId =>
      obtain ⟨storeId', there⟩ := Option.isSome_iff_exists.mp (bits.1.mp (by simp [here]))
      rw [here] at store
      rw [there] at store' ⊢
      exact (store.resolve_left (by simp)).trans (store'.resolve_left (by simp)).symm
  have points : (config.pointKey.map Text.trim).getD "" =
      (config'.pointKey.map Text.trim).getD "" := by
    by_cases blank : (config.pointKey.map Text.trim).getD "" = ""
    · exact blank.trans (bits.2.mp blank).symm
    · have own := point.resolve_left fun none => blank (by simp [none])
      have own' := point'.resolve_left fun none => blank (bits.2.mpr (by simp [none]))
      rw [own, own']
  simp only [CustomizationBrandingConfig.scope, buildCustomizationScopeKey, tenant, tenant',
    channel, channel', stores, points]

structure BrandingTable where
  rows : List BrandingConfigRow := []
  nextId : Id := 0

/-- The fields of a parsed request: no object has a key twice. -/
abbrev Document := { fields : Fields // DistinctKeys (.obj fields) }

structure CreateBrandingConfigDto where
  tenantId : Id
  storeId : Option Id
  channel : CustomizationChannel
  pointKey : Option String
  config : Document

/-- A field that is left out keeps its value; a store or point may be set to null. -/
structure UpdateBrandingConfigDto where
  storeId : Option (Option Id)
  channel : Option CustomizationChannel
  pointKey : Option (Option String)
  config : Option Document

def enforceNamedStore (context : RequestContext) : Option Id → Except ApiException Unit
  | none => .ok ()
  | some storeId => enforceStoreAccess context storeId

def scopeTaken : ApiException := .badRequest "Branding config for this scope already exists."

def createBrandingConfig (now : Instant) (context : RequestContext) (dto : CreateBrandingConfigDto)
    (table : BrandingTable) : Except ApiException BrandingTable := do
  let tenantId ← resolveTenantId context (some dto.tenantId)
  enforceNamedStore context dto.storeId
  let scopeKey := buildCustomizationScopeKey tenantId dto.storeId dto.channel dto.pointKey
  rejectIf (∃ row ∈ table.rows, row.scopeKey = scopeKey) scopeTaken
  pure
    { rows := table.rows ++
        [{ tenantId
           storeId := dto.storeId
           channel := dto.channel
           pointKey := dto.pointKey
           config := .obj dto.config.val
           createdAt := now
           id := table.nextId
           scopeKey }]
      nextId := table.nextId + 1 }

/-- The row with what the request sets, and the scope that follows from it. -/
def UpdateBrandingConfigDto.patch (dto : UpdateBrandingConfigDto) (current : BrandingConfigRow) :
    BrandingConfigRow :=
  let storeId := dto.storeId.getD current.storeId
  let channel := dto.channel.getD current.channel
  let pointKey := dto.pointKey.getD current.pointKey
  { current with
    storeId
    channel
    pointKey
    config := (dto.config.map fun config => Json.obj config.val).getD current.config
    scopeKey := buildCustomizationScopeKey current.tenantId storeId channel pointKey }

def updateBrandingConfig (context : RequestContext) (id : Id) (dto : UpdateBrandingConfigDto)
    (table : BrandingTable) : Except ApiException BrandingTable := do
  let current ← required (Rows.find BrandingConfigRow.id table.rows id)
    (.notFound "No CustomizationBrandingConfig found")
  let _ ← resolveTenantId context (some current.tenantId)
  enforceNamedStore context current.storeId
  enforceNamedStore context (dto.storeId.getD none)
  rejectIf (∃ row ∈ table.rows, row.scopeKey = (dto.patch current).scopeKey ∧ row.id ≠ current.id)
    scopeTaken
  pure { table with rows := Rows.modify BrandingConfigRow.id id dto.patch table.rows }

inductive BrandingCall where
  | create (now : Instant) (context : RequestContext) (dto : CreateBrandingConfigDto)
  | update (context : RequestContext) (id : Id) (dto : UpdateBrandingConfigDto)

/-- A call that is refused leaves the table. -/
def BrandingCall.step (table : BrandingTable) (call : BrandingCall) : BrandingTable :=
  let result := match call with
    | .create now context dto => createBrandingConfig now context dto table
    | .update context id dto => updateBrandingConfig context id dto table
  result.toOption.getD table

/-- Every scope has one config. -/
structure Scoped (table : BrandingTable) : Prop where
  ids : (table.rows.map BrandingConfigRow.id).Nodup
  ids_old : ∀ row ∈ table.rows, row.id < table.nextId
  scopes : (table.rows.map BrandingConfigRow.scopeKey).Nodup
  own : ∀ row ∈ table.rows, row.scopeKey = row.scope
  documents : ∀ row ∈ table.rows, IsDocument row.toCustomizationBrandingConfig

theorem scoped_empty : Scoped {} where
  ids := nodup_nil
  ids_old _ none := absurd none not_mem_nil
  scopes := nodup_nil
  own _ none := absurd none not_mem_nil
  documents _ none := absurd none not_mem_nil

theorem createBrandingConfig_scoped {now : Instant} {context : RequestContext}
    {dto : CreateBrandingConfigDto} {table table' : BrandingTable} (unique : Scoped table)
    (created : createBrandingConfig now context dto table = .ok table') : Scoped table' := by
  simp only [createBrandingConfig, except_bind_ok_iff, rejectIf_ok_iff, except_pure_ok_iff]
    at created
  obtain ⟨tenantId, _, _, _, _, free, rfl⟩ := created
  have new : table.nextId ∉ table.rows.map BrandingConfigRow.id := fun taken => by
    obtain ⟨row, stands, same⟩ := mem_map.mp taken
    exact absurd same (Nat.ne_of_lt (unique.ids_old row stands))
  have each {P : BrandingConfigRow → Prop} {last : BrandingConfigRow}
      (old : ∀ row ∈ table.rows, P row) (own : P last) : ∀ row ∈ table.rows ++ [last], P row :=
    fun row stands => (mem_append.mp stands).elim (old row) fun here => mem_singleton.mp here ▸ own
  exact {
    ids := Rows.nodup_append_key unique.ids new
    ids_old := each (fun row stands => Nat.lt_succ_of_lt (unique.ids_old row stands))
      (Nat.lt_succ_self _)
    scopes := Rows.nodup_append_key unique.scopes fun taken => free (mem_map.mp taken)
    own := each unique.own rfl
    documents := each unique.documents ⟨_, rfl, dto.config.property⟩ }

theorem scopes_modify {rows : List BrandingConfigRow} {id : Id} {current : BrandingConfigRow}
    {f : BrandingConfigRow → BrandingConfigRow} (ids : (rows.map BrandingConfigRow.id).Nodup)
    (scopes : (rows.map BrandingConfigRow.scopeKey).Nodup)
    (found : Rows.find BrandingConfigRow.id rows id = some current)
    (free : ∀ row ∈ rows, row.id ≠ id → row.scopeKey ≠ (f current).scopeKey) :
    ((Rows.modify BrandingConfigRow.id id f rows).map BrandingConfigRow.scopeKey).Nodup := by
  have only {row : BrandingConfigRow} (stands : row ∈ rows) (keyed : row.id = id) :
      row = current :=
    Option.some.inj ((Rows.find_of_mem ids stands).symm.trans (keyed ▸ found))
  have both := (pairwise_map.mp ids).and (pairwise_map.mp scopes)
  rw [Rows.modify, Rows.updateWhere, map_map]
  refine pairwise_map.mpr (both.imp_of_mem fun {left right} stands stands' other => ?_)
  obtain ⟨differ, apart⟩ := other
  simp only [Function.comp, decide_eq_true_eq]
  by_cases here : left.id = id
  · have there : right.id ≠ id := fun same => differ (here.trans same.symm)
    rw [if_pos here, if_neg there, only stands here]
    exact (free right stands' there).symm
  · rw [if_neg here]
    split
    · rename_i there
      rw [only stands' there]
      exact free left stands here
    · exact apart

theorem updateBrandingConfig_scoped {context : RequestContext} {id : Id}
    {dto : UpdateBrandingConfigDto} {table table' : BrandingTable} (unique : Scoped table)
    (updated : updateBrandingConfig context id dto table = .ok table') : Scoped table' := by
  simp only [updateBrandingConfig, except_bind_ok_iff, required_ok_iff, rejectIf_ok_iff,
    except_pure_ok_iff] at updated
  obtain ⟨current, found, _, _, _, _, _, _, _, free, rfl⟩ := updated
  obtain ⟨stored, keyed⟩ := Rows.find_some found
  have each {P : BrandingConfigRow → Prop} (old : ∀ row ∈ table.rows, P row)
      (patched : ∀ row ∈ table.rows, P (dto.patch row)) :
      ∀ row ∈ Rows.modify BrandingConfigRow.id id dto.patch table.rows, P row := by
    intro row stands
    rcases Rows.mem_of_modify stands with before | ⟨row', before, _, rfl⟩
    · exact old row before
    · exact patched row' before
  exact {
    ids := by
      have kept : (Rows.modify BrandingConfigRow.id id dto.patch table.rows).map
          BrandingConfigRow.id = table.rows.map BrandingConfigRow.id := by
        apply Rows.map_modify
        exact fun _ => rfl
      exact kept.symm ▸ unique.ids
    ids_old := each unique.ids_old unique.ids_old
    scopes := scopes_modify unique.ids unique.scopes found fun row stands other same =>
      free ⟨row, stands, same, fun here => other (here.trans keyed)⟩
    own := each unique.own fun _ _ => rfl
    documents := by
      refine each unique.documents fun row stands => ?_
      cases given : dto.config with
      | none =>
        obtain ⟨fields, is, distinct⟩ := unique.documents row stands
        exact ⟨fields, by simp only [UpdateBrandingConfigDto.patch, given]; exact is,
          by simp only [UpdateBrandingConfigDto.patch, given]; exact distinct⟩
      | some config =>
        exact ⟨config.val, by simp only [UpdateBrandingConfigDto.patch, given]; rfl,
          by simp only [UpdateBrandingConfigDto.patch, given]; exact config.property⟩ }

theorem scoped_run (calls : List BrandingCall) : Scoped (Trace.run BrandingCall.step {} calls) := by
  refine Trace.run_always (fun table call unique => ?_) scoped_empty calls
  cases call with
  | create now context dto =>
    show Scoped ((createBrandingConfig now context dto table).toOption.getD table)
    cases result : createBrandingConfig now context dto table with
    | error e => exact unique
    | ok table' => exact createBrandingConfig_scoped unique result
  | update context id dto =>
    show Scoped ((updateBrandingConfig context id dto table).toOption.getD table)
    cases result : updateBrandingConfig context id dto table with
    | error e => exact unique
    | ok table' => exact updateBrandingConfig_scoped unique result

/-- Whatever is created and updated, a scope has one config at most, under its own key. -/
theorem one_branding_per_scope (calls : List BrandingCall) :
    let rows := (Trace.run BrandingCall.step {} calls).rows
    (rows.map BrandingConfigRow.scopeKey).Nodup ∧ ∀ row ∈ rows, row.scopeKey = row.scope :=
  ⟨(scoped_run calls).scopes, (scoped_run calls).own⟩

def BrandingTable.configs (table : BrandingTable) : List CustomizationBrandingConfig :=
  table.rows.map BrandingConfigRow.toCustomizationBrandingConfig

instance (tenantId : Id) (input : CustomizationEvaluationInput)
    (config : CustomizationBrandingConfig) : Decidable (Matches tenantId input config) :=
  inferInstanceAs (Decidable (_ ∧ _))

theorem score_le {left right : CustomizationBrandingConfig}
    (before : MoreSpecificLater left right) : left.score ≤ right.score := by
  rcases before with less | ⟨same, _⟩
  · exact less.le
  · exact same.le

instance : Std.Total MoreSpecificLater where
  total left right := by
    unfold MoreSpecificLater
    lia

instance : IsTrans CustomizationBrandingConfig MoreSpecificLater where
  trans left middle right := by
    unfold MoreSpecificLater
    lia

theorem sorted_strictly {table : BrandingTable} (unique : Scoped table) (tenantId : Id)
    (input : CustomizationEvaluationInput) (db : CustomizationDb)
    (stored : db.brandingConfigs = table.configs) :
    let configs := (findBrandingConfigs tenantId input db).insertionSort MoreSpecificLater
    (∀ config, config ∈ configs ↔ config ∈ table.configs ∧ Matches tenantId input config) ∧
      configs.Pairwise fun left right => left.score < right.score := by
  have perm : ((findBrandingConfigs tenantId input db).insertionSort MoreSpecificLater).Perm
      (table.configs.filter fun config => Matches tenantId input config) := by
    refine (perm_insertionSort _ _).trans ?_
    rw [findBrandingConfigs, stored]
    exact perm_insertionSort _ _
  have scopes : (table.configs.map CustomizationBrandingConfig.scope).Nodup := by
    have same : table.configs.map CustomizationBrandingConfig.scope =
        table.rows.map BrandingConfigRow.scopeKey := by
      rw [BrandingTable.configs, map_map]
      exact map_congr_left fun row stands => (unique.own row stands).symm
    exact same ▸ unique.scopes
  have apart := (perm.map CustomizationBrandingConfig.scope).nodup_iff.mpr
    (scopes.sublist (filter_sublist.map _))
  have matching (config : CustomizationBrandingConfig) :
      config ∈ (findBrandingConfigs tenantId input db).insertionSort MoreSpecificLater ↔
        config ∈ table.configs ∧ Matches tenantId input config := by
    rw [perm.mem_iff, mem_filter, decide_eq_true_iff]
  refine ⟨matching, ?_⟩
  have ordered := pairwise_insertionSort MoreSpecificLater (findBrandingConfigs tenantId input db)
  refine (ordered.and (pairwise_map.mp apart)).imp_of_mem ?_
  rintro left right listed listed' ⟨before, other⟩
  refine lt_of_le_of_ne (score_le before) fun same => other ?_
  exact scope_of_score ((matching left).mp listed).2 ((matching right).mp listed').2 same

/-- The config is the most specific one of those that match and reach the path. -/
structure Decides (table : BrandingTable) (tenantId : Id) (input : CustomizationEvaluationInput)
    (path : List String) (config : CustomizationBrandingConfig) : Prop where
  stored : config ∈ table.configs
  matching : Matches tenantId input config
  reaches : Reaches config path
  mostSpecific : ∀ other ∈ table.configs, Matches tenantId input other → Reaches other path →
    other = config ∨ other.score < config.score

def seenAt (branding : Option Fields) (path : List String) : Word :=
  (wordOf (branding.map Json.obj) path).seen

/-- At every path the branding shows what the most specific matching config that reaches it says,
in whatever order the configs were written. -/
theorem branding_decided (db : CustomizationDb) (calls : List BrandingCall) (tenantId : Id)
    (input : CustomizationEvaluationInput) (path : List String) :
    let table := Trace.run BrandingCall.step {} calls
    let branding :=
      (baseState tenantId input { db with brandingConfigs := table.configs }).branding
    (∃ config, Decides table tenantId input path config ∧
      seenAt branding path = (wordOf (some config.config) path).seen) ∨
    (∀ config ∈ table.configs, Matches tenantId input config → ¬Reaches config path) ∧
      seenAt branding path = .silent := by
  intro table branding
  have unique : Scoped table := scoped_run calls
  obtain ⟨matching, sorted⟩ := sorted_strictly unique tenantId input
    { db with brandingConfigs := table.configs } rfl
  have documents : ∀ config ∈ (findBrandingConfigs tenantId input
      { db with brandingConfigs := table.configs }).insertionSort MoreSpecificLater,
      IsDocument config := by
    intro config listed
    obtain ⟨row, stands, rfl⟩ := List.mem_map.mp ((matching config).mp listed).1
    exact unique.documents row stands
  rcases last_decides documents path with ⟨before, config, after, parts, reaches, silent, seen⟩ |
      ⟨silent, seen⟩
  · refine .inl ⟨config, ?_, seen⟩
    rw [parts] at matching sorted
    obtain ⟨stored, own⟩ := (matching config).mp (by simp)
    refine ⟨stored, own, reaches, fun other stored' own' reached => ?_⟩
    rcases List.mem_append.mp ((matching other).mpr ⟨stored', own'⟩) with less | here
    · exact .inr ((List.pairwise_append.mp sorted).2.2 other less config List.mem_cons_self)
    · rcases List.mem_cons.mp here with same | more
      · exact .inl same
      · exact absurd reached (silent other more)
  · exact .inr ⟨fun config stored own => silent config ((matching config).mpr ⟨stored, own⟩), seen⟩

theorem distinctKeys_leaf {value : Json} (leaf : asRecord value = none) : DistinctKeys value := by
  intro path fields below
  cases path with
  | nil =>
    rw [Option.some.inj below] at leaf
    cases leaf
  | cons key rest =>
    obtain ⟨fields', rfl⟩ := isObject_of_valueBelow below
    cases leaf

theorem distinctKeys_single {key : String} {value : Json} (distinct : DistinctKeys value) :
    DistinctKeys (.obj [(key, value)]) := by
  intro path fields below
  cases path with
  | nil =>
    cases Option.some.inj below
    exact nodup_singleton _
  | cons asked rest =>
    rw [valueBelow, Record.get_cons] at below
    split at below
    · exact distinct rest fields below
    · cases below

def colours : List BrandingCall :=
  [.create 1 ⟨"root", none, .platformAdmin, [], none⟩
    ⟨1, none, .pos, none, [("colours", .obj [("text", .str "black")])],
      distinctKeys_single (distinctKeys_single (distinctKeys_leaf rfl))⟩,
   .create 2 ⟨"root", none, .platformAdmin, [], none⟩
    ⟨1, some 2, .pos, none, [("colours", .str "grey")],
      distinctKeys_single (distinctKeys_leaf rfl)⟩]

/-- Only the tenant's config defines the colour of texts, and the branding does not show it. -/
theorem closed_path_hidden : ¬∀ (db : CustomizationDb) (calls : List BrandingCall) (tenantId : Id)
    (input : CustomizationEvaluationInput) (path : List String),
    let table := Trace.run BrandingCall.step {} calls
    ∀ config ∈ table.configs, Matches tenantId input config →
      ∀ value, wordOf (some config.config) path = .leaf value →
        (∀ other ∈ table.configs, Matches tenantId input other →
          (wordOf (some other.config) path).seen ≠ .silent →
            other = config ∨ other.score < config.score) →
        seenAt (baseState tenantId input
          { db with brandingConfigs := table.configs }).branding path = .leaf value := by
  intro claim
  let input : CustomizationEvaluationInput := ⟨none, some 2, .pos, none, none⟩
  have shown := claim ⟨[], [], [], [], ⟨[], List.nodup_nil⟩⟩ colours 1 input ["colours", "text"]
    ⟨1, none, .pos, none, .obj [("colours", .obj [("text", .str "black")])], 1⟩
    List.mem_cons_self ⟨rfl, rfl, .inl rfl, .inl rfl⟩ (.str "black") rfl ?_
  · exact absurd shown (by decide +kernel)
  · rintro other listed _ defined
    rcases List.mem_cons.mp listed with same | more
    · exact .inl same
    · rw [List.mem_singleton.mp more] at defined
      exact absurd rfl defined

end Exetron.Customization
