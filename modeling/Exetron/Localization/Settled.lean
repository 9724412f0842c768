import Exetron.Lib.Trace
import Exetron.Localization.Parsed
import Exetron.Localization.Service

/-!
# What upserts store

After any upserts each localization setting has the key and the value that one of them builds, and
belongs to a tenant or a store that is there.
-/

namespace Exetron.Localization

open Lib Customization

variable {db db' : LocalizationDb} {now : Instant} {tenantId : Id} {key : String} {value : Json}
  {u : PUnit}

inductive UpsertRequest where
  | tenantPreferences (dto : UpsertLocalizationPreferencesRequest) (tenantId : Option Id)
  | storePreferences (storeId : Id) (dto : UpsertLocalizationPreferencesRequest)
  | countryProfile (countryCode : String) (dto : UpsertCountryProfileRequest)
      (tenantId : Option Id)
  | content (dto : UpsertLocalizedContentRequest)
  | template (dto : UpsertLocalizedTemplateRequest)

/-- A request, who makes it, and when. -/
structure UpsertCall where
  now : Instant
  context : RequestContext
  request : UpsertRequest

variable (casing : Casing)

def UpsertCall.perform (call : UpsertCall) : Transaction PUnit :=
  match call.request with
  | .tenantPreferences dto tenantId =>
    upsertTenantPreferences casing call.now call.context dto tenantId
  | .storePreferences storeId dto =>
    upsertStorePreferences casing call.now call.context storeId dto
  | .countryProfile countryCode dto tenantId =>
    upsertCountryProfile casing call.now call.context countryCode dto tenantId
  | .content dto => upsertLocalizedContent casing call.now call.context dto
  | .template dto => upsertTemplate casing call.now call.context dto

/-- A call that is refused changes nothing. -/
def upsertStep (db : LocalizationDb) (call : UpsertCall) : LocalizationDb :=
  match call.perform casing db with
  | .ok (_, db') => db'
  | .error _ => db

/-- A tenant's setting: one that an upsert builds, or none of localization. -/
inductive StoredSetting : String → Json → Prop where
  | preferences {value : LocalizationPreferencesValue}
      (settled : SettledPreferences casing value) :
      StoredSetting localizationPreferencesKey value.toJson
  | countryProfile {code : String} {value : CountryProfileValue}
      (normalized : normalizeCountryCode casing (some code) = some code)
      (settled : SettledCountryProfile casing value) :
      StoredSetting (buildCountryProfileKey casing code) value.toJson
  | content (dto : UpsertLocalizedContentRequest) :
      StoredSetting (buildLocalizedContentKey dto.targetType dto.targetId)
        (buildLocalizedContentValue casing dto).toJson
  | template (dto : UpsertLocalizedTemplateRequest) :
      StoredSetting (buildLocalizedTemplateKey (dto.channel.map channelText) dto.templateKey)
        (buildLocalizedTemplateValue casing dto).toJson
  | other {key : String} {value : Json} (apart : isLocalizationKey key = false) :
      StoredSetting key value

def StoredPreferences (key : String) (value : Json) : Prop :=
  key = localizationPreferencesKey →
    ∃ preferences, SettledPreferences casing preferences ∧ value = preferences.toJson

structure Settled (db : LocalizationDb) : Prop where
  tenantSettings : ∀ k row, Record.get db.tenantSettings.val k = some row →
    k.1 ∈ db.tenants ∧ StoredSetting casing k.2 row.value
  storeSettings : ∀ k row, Record.get db.storeSettings.val k = some row →
    (∃ store ∈ db.stores, store.id = k.1) ∧ StoredPreferences casing k.2 row.value

/-- No localization setting is stored yet. -/
structure Unset (db : LocalizationDb) : Prop where
  tenantSettings : ∀ field ∈ db.tenantSettings.val,
    field.1.1 ∈ db.tenants ∧ isLocalizationKey field.1.2 = false
  storeSettings : ∀ field ∈ db.storeSettings.val,
    (∃ store ∈ db.stores, store.id = field.1.1) ∧ field.1.2 ≠ localizationPreferencesKey

variable {casing}

theorem settled_of_unset (unset : Unset db) : Settled casing db where
  tenantSettings k row found := by
    obtain ⟨known, apart⟩ :=
      unset.tenantSettings (k, row) ((Record.mem_iff_get db.tenantSettings.property).mpr found)
    exact ⟨known, .other apart⟩
  storeSettings k row found := by
    obtain ⟨known, apart⟩ :=
      unset.storeSettings (k, row) ((Record.mem_iff_get db.storeSettings.property).mpr found)
    exact ⟨known, fun same => absurd same apart⟩

@[simp] theorem upserted_value (now : Instant) (value : Json) (row : Option SettingRow) :
    (SettingRow.upserted now value row).value = value := by
  cases row <;> rfl

@[simp] theorem store_upserted_value (now : Instant) (tenantId : Id) (value : Json)
    (row : Option StoreSettingRow) :
    (StoreSettingRow.upserted now tenantId value row).value = value := by
  cases row <;> rfl

theorem upsertTenantSetting_ok_iff : upsertTenantSetting now tenantId key value db = .ok (u, db') ↔
      ((Record.get db.tenantSettings.val (tenantId, key)).isSome ∨ tenantId ∈ db.tenants) ∧
      db' = putTenantSetting now tenantId key value db := by
  simp only [upsertTenantSetting, Tx.bind_ok_iff, Tx.read_ok_iff, Tx.write_ok_iff,
    admitTenantSetting, rejectIf_ok_iff]
  constructor
  · rintro ⟨_, _, ⟨admitted, rfl⟩, rfl⟩
    exact ⟨by simpa [or_iff_not_imp_left] using admitted, rfl⟩
  · rintro ⟨admitted, rfl⟩
    exact ⟨⟨⟩, db, ⟨by simpa [or_iff_not_imp_left] using admitted, rfl⟩, rfl⟩

theorem upsertStoreSetting_ok_iff {storeId : Id} :
    upsertStoreSetting now tenantId storeId key value db = .ok (u, db') ↔
      ((Record.get db.storeSettings.val (storeId, key)).isSome ∨
        ∃ store ∈ db.stores, store.id = storeId) ∧
      db' = putStoreSetting now tenantId storeId key value db := by
  simp only [upsertStoreSetting, Tx.bind_ok_iff, Tx.read_ok_iff, Tx.write_ok_iff,
    admitStoreSetting, rejectIf_ok_iff]
  constructor
  · rintro ⟨_, _, ⟨admitted, rfl⟩, rfl⟩
    exact ⟨by simpa [or_iff_not_imp_left] using admitted, rfl⟩
  · rintro ⟨admitted, rfl⟩
    exact ⟨⟨⟩, db, ⟨by simpa [or_iff_not_imp_left] using admitted, rfl⟩, rfl⟩

theorem get_putTenantSetting (now : Instant) (tenantId : Id) (key : String) (value : Json)
    (db : LocalizationDb) (k : Id × String) :
    Record.get (putTenantSetting now tenantId key value db).tenantSettings.val k =
      if (tenantId, key) = k then
        some (.upserted now value (Record.get db.tenantSettings.val (tenantId, key)))
      else Record.get db.tenantSettings.val k := Record.get_set _ _ _ _

theorem get_putStoreSetting (now : Instant) (tenantId storeId : Id) (key : String) (value : Json)
    (db : LocalizationDb) (k : Id × String) :
    Record.get (putStoreSetting now tenantId storeId key value db).storeSettings.val k =
      if (storeId, key) = k then
        some (.upserted now tenantId value (Record.get db.storeSettings.val (storeId, key)))
      else Record.get db.storeSettings.val k := Record.get_set _ _ _ _

theorem Settled.upsertTenantSetting (settled : Settled casing db)
    (stored : StoredSetting casing key value)
    (h : upsertTenantSetting now tenantId key value db = .ok (u, db')) : Settled casing db' := by
  obtain ⟨admitted, rfl⟩ := upsertTenantSetting_ok_iff.mp h
  refine ⟨fun k row found => ?_, settled.storeSettings⟩
  rw [get_putTenantSetting] at found
  split at found
  · rename_i same
    obtain rfl := Option.some.inj found
    rw [← same]
    refine ⟨admitted.elim (fun present => ?_) id, by simpa using stored⟩
    obtain ⟨row, found⟩ := Option.isSome_iff_exists.mp present
    exact (settled.tenantSettings _ row found).1
  · exact settled.tenantSettings k row found

theorem Settled.upsertStoreSetting {storeId : Id} (settled : Settled casing db)
    (stored : StoredPreferences casing key value)
    (h : upsertStoreSetting now tenantId storeId key value db = .ok (u, db')) :
    Settled casing db' := by
  obtain ⟨admitted, rfl⟩ := upsertStoreSetting_ok_iff.mp h
  refine ⟨settled.tenantSettings, fun k row found => ?_⟩
  rw [get_putStoreSetting] at found
  split at found
  · rename_i same
    obtain rfl := Option.some.inj found
    rw [← same]
    refine ⟨admitted.elim (fun present => ?_) id, by simpa using stored⟩
    obtain ⟨row, found⟩ := Option.isSome_iff_exists.mp present
    exact (settled.storeSettings _ row found).1
  · exact settled.storeSettings k row found

theorem perform_settled {call : UpsertCall} (settled : Settled casing db)
    (h : call.perform casing db = .ok (u, db')) : Settled casing db' := by
  rw [UpsertCall.perform] at h
  cases request : call.request with
  | tenantPreferences dto tenantId =>
    simp only [request, upsertTenantPreferences, Tx.bind_ok_iff, Tx.lift_ok_iff] at h
    obtain ⟨_, _, ⟨-, rfl⟩, h⟩ := h
    exact settled.upsertTenantSetting (.preferences (buildPreferencesValue_settled dto)) h
  | storePreferences storeId dto =>
    simp only [request, upsertStorePreferences, Tx.bind_ok_iff, Tx.lift_ok_iff, Tx.read_ok_iff] at h
    obtain ⟨_, _, ⟨-, rfl⟩, store, _, ⟨-, rfl⟩, _, _, ⟨-, rfl⟩, h⟩ := h
    exact settled.upsertStoreSetting (fun _ => ⟨_, buildPreferencesValue_settled dto, rfl⟩) h
  | countryProfile countryCode dto tenantId =>
    simp only [request, upsertCountryProfile, Tx.bind_ok_iff, Tx.lift_ok_iff, required_ok_iff] at h
    obtain ⟨_, _, ⟨-, rfl⟩, code, _, ⟨normalized, rfl⟩, h⟩ := h
    exact settled.upsertTenantSetting (.countryProfile
      (normalizeCountryCode_normalized normalized).1 (buildCountryProfileValue_settled dto)) h
  | content dto =>
    simp only [request, upsertLocalizedContent, Tx.bind_ok_iff, Tx.lift_ok_iff] at h
    obtain ⟨_, _, ⟨-, rfl⟩, h⟩ := h
    exact settled.upsertTenantSetting (.content dto) h
  | template dto =>
    simp only [request, upsertTemplate, Tx.bind_ok_iff, Tx.lift_ok_iff] at h
    obtain ⟨_, _, ⟨-, rfl⟩, h⟩ := h
    exact settled.upsertTenantSetting (.template dto) h

theorem upserts_settled {start : LocalizationDb} (unset : Unset start) (calls : List UpsertCall) :
    Settled casing (Trace.run (upsertStep casing) start calls) := by
  have keeps : ∀ db call, Settled casing db → Settled casing (upsertStep casing db call) := by
    intro db call settled
    rw [upsertStep]
    split
    · rename_i done
      exact perform_settled settled done
    · exact settled
  exact Trace.run_always keeps (settled_of_unset unset) calls

end Exetron.Localization
