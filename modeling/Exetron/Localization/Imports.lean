import Exetron.Localization.Settled

/-!
# Imports

Settings by their values, and what the import of a pack writes: one value for each of its entries.
-/

namespace Exetron.Localization

open Lib Customization

variable (casing : Casing)

def tenantValues (db : LocalizationDb) : Record (Id × String) Json :=
  Record.mapValues SettingRow.value db.tenantSettings.val

def storeValues (db : LocalizationDb) : Record (Id × String) (Id × Json) :=
  Record.mapValues (fun row => (row.tenantId, row.value)) db.storeSettings.val

/-- The same settings, apart from their timestamps. -/
structure SameSettings (db db' : LocalizationDb) : Prop where
  tenants : ∀ k, Record.get (tenantValues db') k = Record.get (tenantValues db) k
  stores : ∀ k, Record.get (storeValues db') k = Record.get (storeValues db) k

def deleteLocalization (tenantId : Id) (db : LocalizationDb) : LocalizationDb :=
  { db with
    tenantSettings := db.tenantSettings.deleteMany fun field =>
      field.1.1 = tenantId && isLocalizationKey field.1.2
    storeSettings := db.storeSettings.deleteMany fun field =>
      field.2.tenantId = tenantId && field.1.2 = localizationPreferencesKey }

def reread (key : String) (value : Json) : Json :=
  if SettingKind.countryProfile.has key then
    match parseCountryProfile casing value "" with
    | .ok profile => profile.toJson
    | .error _ => value
  else value

def preferencesField (preferences : LocalizationPreferencesDto) : String × Json :=
  (localizationPreferencesKey,
    (buildPreferencesValue casing preferences.toLocalizationPreferencesValue.toRequest).toJson)

def profileField (profile : CountryProfileDto) : String × Json :=
  (buildCountryProfileKey casing profile.countryCode, profile.toCountryProfileValue.toJson)

def contentField (content : LocalizedContentDto) : String × Json :=
  (buildLocalizedContentKey content.targetType content.targetId,
    content.toLocalizedContentValue.toJson)

def templateField (template : LocalizedTemplateDto) : String × Json :=
  (buildLocalizedTemplateKey template.channel template.templateKey,
    template.toLocalizedTemplateValue.toJson)

def packFields (pack : LanguagePack) : List (String × Json) :=
  pack.tenantPreferences.toList.map (preferencesField casing) ++
    pack.countryProfiles.map (profileField casing) ++ pack.content.map contentField ++
    pack.templates.map templateField

theorem mem_packFields {pack : LanguagePack} {field : String × Json} :
    field ∈ packFields casing pack ↔
      (∃ x ∈ pack.tenantPreferences.toList, preferencesField casing x = field) ∨
      (∃ x ∈ pack.countryProfiles, profileField casing x = field) ∨
      (∃ x ∈ pack.content, contentField x = field) ∨
      ∃ x ∈ pack.templates, templateField x = field := by
  simp only [packFields, List.mem_append, List.mem_map, or_assoc]

def storeField (preferences : LocalizationPreferencesDto) : Option (Id × Json) :=
  preferences.storeId.map fun storeId => (storeId, (preferencesField casing preferences).2)

def ofTenant (tenantId : Id) (field : String × Json) : (Id × String) × Json :=
  ((tenantId, field.1), field.2)

def ofStore (tenantId : Id) (field : Id × Json) : (Id × String) × (Id × Json) :=
  ((field.1, localizationPreferencesKey), (tenantId, field.2))

variable {casing}

/-- A transaction that assigns the fields to the tenant's settings. -/
structure TenantWrites (tenantId : Id) (fields : List (String × Json)) (db db' : LocalizationDb) :
    Prop where
  tenants : db'.tenants = db.tenants
  stores : db'.stores = db.stores
  storeSettings : db'.storeSettings = db.storeSettings
  values : tenantValues db' =
    Record.spread (tenantValues db) (fields.map (ofTenant tenantId))

theorem TenantWrites.append {tenantId : Id} {fields fields' : List (String × Json)}
    {db db' db'' : LocalizationDb} (first : TenantWrites tenantId fields db db')
    (last : TenantWrites tenantId fields' db' db'') :
    TenantWrites tenantId (fields ++ fields') db db'' where
  tenants := last.tenants.trans first.tenants
  stores := last.stores.trans first.stores
  storeSettings := last.storeSettings.trans first.storeSettings
  values := by
    rw [last.values, first.values, List.map_append, Record.spread_append]

theorem tenantValues_putTenantSetting (now : Instant) (tenantId : Id) (key : String)
    (value : Json) (db : LocalizationDb) :
    tenantValues (putTenantSetting now tenantId key value db) =
      Record.set (tenantValues db) (tenantId, key) value :=
  (Record.mapValues_set _ _ _ _).trans (by rw [upserted_value]; rfl)

theorem forM_upsertTenantSetting {α : Type} (f : α → String × Json) (now : Instant)
    (tenantId : Id) {xs : List α} {db : LocalizationDb}
    (admitted : ∀ x ∈ xs, tenantId ∈ db.tenants) :
    ∃ u db', (xs.forM fun x => upsertTenantSetting now tenantId (f x).1 (f x).2) db =
        .ok (u, db') ∧ TenantWrites tenantId (xs.map f) db db' := by
  induction xs generalizing db with
  | nil => exact ⟨⟨⟩, db, rfl, rfl, rfl, rfl, rfl⟩
  | cons x xs ih =>
    let db' := putTenantSetting now tenantId (f x).1 (f x).2 db
    have first : upsertTenantSetting now tenantId (f x).1 (f x).2 db = .ok (⟨⟩, db') :=
      upsertTenantSetting_ok_iff.mpr ⟨.inr (admitted x List.mem_cons_self), rfl⟩
    obtain ⟨u, db'', rest, writes⟩ := @ih db' fun y listed =>
      admitted y (List.mem_cons_of_mem x listed)
    have writes' : TenantWrites tenantId [f x] db db' :=
      ⟨rfl, rfl, rfl, tenantValues_putTenantSetting _ _ _ _ _⟩
    exact ⟨u, db'', (Tx.bind_of_ok first _).trans rest, writes'.append writes⟩

def OwnStores (tenantId : Id) (fields : List (Id × Json)) (db : LocalizationDb) : Prop :=
  ∀ field ∈ fields, (∃ store ∈ db.stores, store.id = field.1) ∧
    ∀ row, Record.get db.storeSettings.val (field.1, localizationPreferencesKey) = some row →
      row.tenantId = tenantId

theorem storeValues_putStoreSetting {now : Instant} {tenantId storeId : Id} {key : String}
    {value : Json} {db : LocalizationDb}
    (own : ∀ row, Record.get db.storeSettings.val (storeId, key) = some row →
      row.tenantId = tenantId) :
    storeValues (putStoreSetting now tenantId storeId key value db) =
      Record.set (storeValues db) (storeId, key) (tenantId, value) := by
  refine (Record.mapValues_set _ _ _ _).trans ?_
  cases found : Record.get db.storeSettings.val (storeId, key) with
  | none => rfl
  | some row =>
    rw [store_upserted_value]
    exact congrArg (fun owner => Record.set (storeValues db) (storeId, key) (owner, value))
      (own row found)

theorem forM_importStorePreference {now : Instant} {context : RequestContext} {tenantId : Id}
    {preferences : List LocalizationPreferencesDto} {db : LocalizationDb}
    (own : OwnStores tenantId (preferences.filterMap (storeField casing)) db)
    (access : ∀ preference ∈ preferences, ∀ storeId, preference.storeId = some storeId →
      enforceStoreAccess context storeId = .ok ()) :
    ∃ u db', preferences.forM (importStorePreference casing now context tenantId) db =
        .ok (u, db') ∧ db'.tenants = db.tenants ∧ db'.stores = db.stores ∧
      db'.tenantSettings = db.tenantSettings ∧
      storeValues db' = Record.spread (storeValues db)
        ((preferences.filterMap (storeField casing)).map (ofStore tenantId)) := by
  induction preferences generalizing db with
  | nil => exact ⟨⟨⟩, db, rfl, rfl, rfl, rfl, rfl⟩
  | cons preference preferences ih =>
    cases addressed : preference.storeId with
    | none =>
      have skipped : storeField casing preference = none := by rw [storeField, addressed]; rfl
      have first : importStorePreference casing now context tenantId preference db =
          .ok (⟨⟩, db) := by rw [importStorePreference, addressed]; rfl
      rw [List.filterMap_cons_none skipped] at own ⊢
      obtain ⟨u, db', rest, same⟩ := ih own fun other listed =>
        access other (List.mem_cons_of_mem _ listed)
      exact ⟨u, db', (Tx.bind_of_ok first _).trans rest, same⟩
    | some storeId =>
      have written : storeField casing preference =
          some (storeId, (preferencesField casing preference).2) := by
        rw [storeField, addressed]
        rfl
      rw [List.filterMap_cons_some written] at own ⊢
      obtain ⟨⟨known, mine⟩, others⟩ := List.forall_mem_cons.mp own
      let value := (preferencesField casing preference).2
      let db' := putStoreSetting now tenantId storeId localizationPreferencesKey value db
      have allowed : enforceStoreAccess context storeId = .ok () :=
        access preference List.mem_cons_self storeId addressed
      have first : importStorePreference casing now context tenantId preference db =
          .ok (⟨⟩, db') := by
        rw [importStorePreference, addressed]
        exact (Tx.bind_of_ok (Tx.lift_ok_iff.mpr ⟨allowed, rfl⟩) _).trans
          (upsertStoreSetting_ok_iff.mpr ⟨.inr known, rfl⟩)
      have own' : OwnStores tenantId (preferences.filterMap (storeField casing)) db' := by
        intro field listed
        refine ⟨(others field listed).1, fun row found => ?_⟩
        rw [get_putStoreSetting] at found
        split at found
        · obtain rfl := Option.some.inj found
          cases before : Record.get db.storeSettings.val (storeId, localizationPreferencesKey) with
          | none => rfl
          | some row => exact mine row before
        · exact (others field listed).2 row found
      obtain ⟨u, db'', rest, tenants, stores, settings, values⟩ := @ih db' own' fun other listed =>
        access other (List.mem_cons_of_mem _ listed)
      refine ⟨u, db'', (Tx.bind_of_ok first _).trans rest, tenants, stores, settings, ?_⟩
      rw [values, storeValues_putStoreSetting mine]
      rfl

/-- An import that addresses the pack's tenant, and lets its stores be written. -/
structure Admitted (context : RequestContext) (tenantId : Id) (dto : ImportLanguagePackDto) :
    Prop where
  tenant : resolveTenantId context ((dto.tenantId.or dto.pack.tenantId).or context.tenantId) =
    .ok tenantId
  stores : ∀ preference ∈ dto.pack.storePreferences, ∀ storeId,
    preference.storeId = some storeId → enforceStoreAccess context storeId = .ok ()

theorem importLanguagePack_writes {now : Instant} {context : RequestContext} {tenantId : Id}
    {dto : ImportLanguagePackDto} {db : LocalizationDb} (admitted : Admitted context tenantId dto)
    (own : dto.pack.tenantId = some tenantId)
    (known : ∀ field ∈ packFields casing dto.pack, tenantId ∈ db.tenants)
    (stores : OwnStores tenantId (dto.pack.storePreferences.filterMap (storeField casing)) db) :
    ∃ answer db', importLanguagePack casing now context dto db = .ok (answer, db') ∧
      db'.stores = db.stores ∧
      tenantValues db' = Record.spread (tenantValues db)
        ((packFields casing dto.pack).map (ofTenant tenantId)) ∧
      storeValues db' = Record.spread (storeValues db)
        ((dto.pack.storePreferences.filterMap (storeField casing)).map (ofStore tenantId)) := by
  have matching : rejectIf (∃ own ∈ dto.pack.tenantId, own ≠ tenantId)
      (.badRequest "Language pack tenant mismatch.") = .ok () := by
    rw [rejectIf_ok_iff, own]
    simp
  simp only [mem_packFields] at known
  obtain ⟨_, db₁, preferences, writes₁⟩ :=
    forM_upsertTenantSetting (preferencesField casing) now tenantId
      fun preferences listed => known _ (.inl ⟨preferences, listed, rfl⟩)
  have stores' : OwnStores tenantId
      (dto.pack.storePreferences.filterMap (storeField casing)) db₁ := by
    intro field listed
    rw [writes₁.stores, writes₁.storeSettings]
    exact stores field listed
  obtain ⟨_, db₂, storePreferences, tenants₂, stores₂, settings₂, values₂⟩ :=
    @forM_importStorePreference _ now _ _ _ _ stores' admitted.stores
  obtain ⟨_, db₃, profiles, writes₃⟩ :=
    @forM_upsertTenantSetting _ (profileField casing) now tenantId dto.pack.countryProfiles db₂
      fun profile listed => by
        rw [tenants₂, writes₁.tenants]
        exact known _ (.inr (.inl ⟨profile, listed, rfl⟩))
  obtain ⟨_, db₄, content, writes₄⟩ :=
    @forM_upsertTenantSetting _ contentField now tenantId dto.pack.content db₃
      fun content listed => by
        rw [writes₃.tenants, tenants₂, writes₁.tenants]
        exact known _ (.inr (.inr (.inl ⟨content, listed, rfl⟩)))
  obtain ⟨_, db₅, templates, writes₅⟩ :=
    @forM_upsertTenantSetting _ templateField now tenantId dto.pack.templates db₄
      fun template listed => by
        rw [writes₄.tenants, writes₃.tenants, tenants₂, writes₁.tenants]
        exact known _ (.inr (.inr (.inr ⟨template, listed, rfl⟩)))
  refine ⟨{ dto.pack with tenantId := some tenantId, generatedAt := now }, db₅, ?_, ?_, ?_, ?_⟩
  · rw [importLanguagePack, Tx.bind_of_ok (Tx.lift_ok_iff.mpr ⟨admitted.tenant, rfl⟩),
      Tx.bind_of_ok (Tx.lift_ok_iff.mpr ⟨matching, rfl⟩)]
    refine (Tx.bind_of_ok preferences _).trans ?_
    refine (Tx.bind_of_ok storePreferences _).trans ?_
    refine (Tx.bind_of_ok profiles _).trans ?_
    refine (Tx.bind_of_ok content _).trans ?_
    exact Tx.bind_of_ok templates _
  · rw [writes₅.stores, writes₄.stores, writes₃.stores, stores₂, writes₁.stores]
  · have kept : tenantValues db₂ = tenantValues db₁ := by
      rw [tenantValues, tenantValues, settings₂]
    rw [writes₅.values, writes₄.values, writes₃.values, kept, writes₁.values]
    simp only [packFields, List.map_append, Record.spread_append]
  · have start : storeValues db₁ = storeValues db := by
      rw [storeValues, storeValues, writes₁.storeSettings]
    have kept : storeValues db₅ = storeValues db₂ := by
      rw [storeValues, storeValues, writes₅.storeSettings, writes₄.storeSettings,
        writes₃.storeSettings]
    rw [kept, values₂, start]

end Exetron.Localization
