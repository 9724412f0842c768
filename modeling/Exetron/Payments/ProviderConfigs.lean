import Exetron.Access
import Exetron.Database
import Exetron.Payments.ProviderSecrets

/-!
# Provider configurations

`createProviderConfig` and `updateProviderConfig` of `PaymentsService`, with the payloads of what
they log, and what two requests show that differ only in the values of their secrets.
-/

namespace Exetron.Payments

open Lib List

structure ProviderConfig extends PaymentProviderConfig where
  updatedAt : Instant

structure ProviderAuditEntry extends AuditEntry where
  payload : Fields

structure ProviderDomainEvent extends DomainEvent where
  payload : Fields

/-- `tenants` and `stores` are the rows that a configuration may refer to. -/
structure ProviderConfigStore where
  nextId : Id
  (tenants stores : List Id)
  configs : List ProviderConfig
  audit : List ProviderAuditEntry
  domainEvents : List ProviderDomainEvent

abbrev ProviderConfigTransaction := Tx ProviderConfigStore ApiException

def providerConfigs : Table ProviderConfigStore ApiException ProviderConfig Id where
  rows s := s.configs
  put rows s := { s with configs := rows }
  key config := config.id
  missing := .recordNotFound "PaymentProviderConfig"

def checkReferences (tenantId storeId : Option Id) (s : ProviderConfigStore) :
    Except ApiException Unit :=
  rejectIf ((∃ id ∈ tenantId, id ∉ s.tenants) ∨ ∃ id ∈ storeId, id ∉ s.stores) .typeError

def providerTypeText : PaymentProviderType → String
  | .cashManual => "CASH_MANUAL"
  | .cardSimulated => "CARD_SIMULATED"
  | .qrSimulated => "QR_SIMULATED"

structure CreatePaymentProviderConfigDto where
  tenantId : Id
  storeId : Option Id := none
  providerKey : String
  providerType : PaymentProviderType
  method : PaymentMethodKind
  enabled : Option Bool := none
  priority : Option Int := none
  allowedChannels : Option (List OrderChannel) := none
  autoConfirmOrderOnSuccess : Option Bool := none
  settings : Option (Option Fields) := none
  secrets : Option (Option Fields) := none

/-- The store, the settings and the secrets may be `null`. -/
structure UpdatePaymentProviderConfigDto where
  storeId : Option (Option Id) := none
  providerKey : Option String := none
  providerType : Option PaymentProviderType := none
  method : Option PaymentMethodKind := none
  enabled : Option Bool := none
  priority : Option Int := none
  allowedChannels : Option (List OrderChannel) := none
  autoConfirmOrderOnSuccess : Option Bool := none
  settings : Option (Option Fields) := none
  secrets : Option (Option Fields) := none

def idJson (id : Id) : Json := .str (toString id)

def givenField {α : Type} (key : String) (json : α → Json) (value : Option α) : Fields :=
  (value.map fun given => (key, json given)).toList

/-- `dto as Record<string, unknown>`. -/
def UpdatePaymentProviderConfigDto.payload (dto : UpdatePaymentProviderConfigDto) : Fields :=
  givenField "storeId" (Json.ofOption idJson) dto.storeId ++
  givenField "providerKey" .str dto.providerKey ++
  givenField "providerType" (.str ∘ providerTypeText) dto.providerType ++
  givenField "method" (.str ∘ PaymentMethodKind.text) dto.method ++
  givenField "enabled" .bool dto.enabled ++
  givenField "priority" (fun priority : Int => .num priority) dto.priority ++
  givenField "allowedChannels" (fun channels => .arr (channels.map (.str ∘ OrderChannel.text)))
    dto.allowedChannels ++
  givenField "autoConfirmOrderOnSuccess" .bool dto.autoConfirmOrderOnSuccess ++
  givenField "settings" (Json.ofOption .obj) dto.settings ++
  givenField "secrets" (Json.ofOption .obj) dto.secrets

structure PaymentProviderConfigDto where
  (id tenantId : Id)
  storeId : Option Id
  providerKey : String
  providerType : PaymentProviderType
  method : PaymentMethodKind
  enabled : Bool
  priority : Int
  allowedChannels : List OrderChannel
  autoConfirmOrderOnSuccess : Bool
  settings : Option Fields
  secrets : Option PaymentProviderConfigSecretsStateDto
  (createdAt updatedAt : Instant)

def mapProviderConfig (config : ProviderConfig) (settings : Option Fields)
    (secrets : Option PaymentProviderConfigSecretsStateDto) : PaymentProviderConfigDto :=
  { id := config.id
    tenantId := config.tenantId
    storeId := config.storeId
    providerKey := config.providerKey
    providerType := config.providerType
    method := config.method
    enabled := config.enabled
    priority := config.priority
    allowedChannels := config.allowedChannels
    autoConfirmOrderOnSuccess := config.autoConfirmOrderOnSuccess
    settings
    secrets
    createdAt := config.createdAt
    updatedAt := config.updatedAt }

section
variable (cipher : SecretCipher) (iv : String) (now : Instant) (context : RequestContext)

def mapPersistedProviderConfig (config : ProviderConfig) :
    Except ApiException PaymentProviderConfigDto := do
  let resolved ← resolveProviderConfigSettings (decryptSecrets cipher) config.settings
  pure (mapProviderConfig config resolved.publicSettings (resolvedSecretMeta config.settings))

def enforceGivenStoreAccess (storeId : Option Id) : Except ApiException Unit :=
  match storeId with
  | some storeId => enforceStoreAccess context storeId
  | none => .ok ()

def KeyIsTaken (tenantId : Id) (storeId : Option Id) (providerKey : String)
    (excludeId : Option Id) (s : ProviderConfigStore) : Prop :=
  ∃ config ∈ s.configs, config.tenantId = tenantId ∧ config.storeId = storeId ∧
    config.providerKey = providerKey ∧ excludeId ≠ some config.id

instance (tenantId : Id) (storeId : Option Id) (providerKey : String) (excludeId : Option Id)
    (s : ProviderConfigStore) : Decidable (KeyIsTaken tenantId storeId providerKey excludeId s) :=
  inferInstanceAs (Decidable (∃ config ∈ s.configs, _))

def ensureProviderKeyIsUnique (tenantId : Id) (storeId : Option Id) (providerKey : String)
    (excludeId : Option Id) (s : ProviderConfigStore) : Except ApiException Unit :=
  rejectIf (KeyIsTaken tenantId storeId providerKey excludeId s)
    (.badRequest "A payment provider config with this key already exists.")

def recordProviderConfig (config : ProviderConfig) (name : String) (audited published : Fields) :
    ProviderConfigTransaction Unit := do
  Tx.write fun s => { s with audit := s.audit ++ [{
    tenantId := config.tenantId
    storeId := config.storeId
    actorType := resolveActorType context
    actorId := resolveActorId context
    action := name
    entityType := "payment_provider_config"
    entityId := config.id
    payload := audited }] }
  Tx.write fun s => { s with domainEvents := s.domainEvents ++ [{
    tenantId := config.tenantId
    eventName := name
    aggregate := "payment_provider_config"
    aggregateId := config.id
    payload := published }] }

def createdPayload (config : ProviderConfig) : Fields :=
  [("providerKey", .str config.providerKey), ("method", .str config.method.text),
    ("storeId", Json.ofOption idJson config.storeId)]

def updatedPayload (config : ProviderConfig) : Fields :=
  [("providerKey", .str config.providerKey), ("storeId", Json.ofOption idJson config.storeId)]

def CreatePaymentProviderConfigDto.row (dto : CreatePaymentProviderConfigDto) (id tenantId : Id)
    (settings : Option Fields) : ProviderConfig :=
  { id
    tenantId
    storeId := dto.storeId
    providerKey := dto.providerKey
    providerType := dto.providerType
    method := dto.method
    enabled := dto.enabled.getD true
    priority := dto.priority.getD 100
    allowedChannels := dto.allowedChannels.getD [.admin, .pos, .kiosk, .delivery]
    autoConfirmOrderOnSuccess := dto.autoConfirmOrderOnSuccess.getD false
    settings
    createdAt := now
    updatedAt := now }

def createProviderConfig (dto : CreatePaymentProviderConfigDto) :
    ProviderConfigTransaction PaymentProviderConfigDto := do
  let tenantId ← Tx.lift (resolveTenantId context (some dto.tenantId))
  Tx.lift (enforceGivenStoreAccess context dto.storeId)
  Tx.read (ensureProviderKeyIsUnique tenantId dto.storeId dto.providerKey none)
  let persistedSettings ← Tx.lift
    (buildProviderConfigSettings cipher iv now none dto.settings (dto.secrets.join.map some))
  Tx.read (checkReferences (some tenantId) dto.storeId)
  let id ← Tx.read fun s => .ok s.nextId
  Tx.write fun s => { s with nextId := s.nextId + 1 }
  let config ← providerConfigs.create (dto.row now id tenantId persistedSettings)
  recordProviderConfig context config "payment.provider_config_created" (createdPayload config)
    (createdPayload config)
  Tx.lift (mapPersistedProviderConfig cipher config)

def UpdatePaymentProviderConfigDto.row (dto : UpdatePaymentProviderConfigDto)
    (settings : Option Fields) (config : ProviderConfig) : ProviderConfig :=
  { config with
    storeId := dto.storeId.getD config.storeId
    providerKey := dto.providerKey.getD config.providerKey
    providerType := dto.providerType.getD config.providerType
    method := dto.method.getD config.method
    enabled := dto.enabled.getD config.enabled
    priority := dto.priority.getD config.priority
    allowedChannels := dto.allowedChannels.getD config.allowedChannels
    autoConfirmOrderOnSuccess :=
      dto.autoConfirmOrderOnSuccess.getD config.autoConfirmOrderOnSuccess
    settings
    updatedAt := now }

/-- The settings column after the request: built anew only when the request has settings or
secrets. -/
def UpdatePaymentProviderConfigDto.settingsAfter (dto : UpdatePaymentProviderConfigDto)
    (current : ProviderConfig) : Except ApiException (Option Fields) :=
  if dto.settings.isSome ∨ dto.secrets.isSome then
    buildProviderConfigSettings cipher iv now current.settings dto.settings dto.secrets
  else .ok current.settings

/-- The request moves the configuration under another key or to another store. -/
def UpdatePaymentProviderConfigDto.Moves (dto : UpdatePaymentProviderConfigDto)
    (current : ProviderConfig) : Prop :=
  dto.providerKey.getD current.providerKey ≠ current.providerKey ∨
    dto.storeId.getD current.storeId ≠ current.storeId

instance (dto : UpdatePaymentProviderConfigDto) (current : ProviderConfig) :
    Decidable (dto.Moves current) :=
  inferInstanceAs (Decidable (_ ∨ _))

def updateProviderConfig (configId : Id) (dto : UpdatePaymentProviderConfigDto) :
    ProviderConfigTransaction PaymentProviderConfigDto := do
  let current ← Tx.read (providerConfigs.findUniqueOrThrow configId)
  let _ ← Tx.lift (resolveTenantId context (some current.tenantId))
  Tx.lift (enforceGivenStoreAccess context current.storeId)
  Tx.lift (enforceGivenStoreAccess context dto.storeId.join)
  Tx.read fun s =>
    if dto.Moves current then
      ensureProviderKeyIsUnique current.tenantId (dto.storeId.getD current.storeId)
        (dto.providerKey.getD current.providerKey) (some current.id) s
    else .ok ()
  let settings ← Tx.lift (dto.settingsAfter cipher iv now current)
  Tx.read (checkReferences none dto.storeId.join)
  let updated ← providerConfigs.update current.id (dto.row now settings)
  recordProviderConfig context updated "payment.provider_config_updated" dto.payload
    (updatedPayload updated)
  Tx.lift (mapPersistedProviderConfig cipher updated)

inductive ProviderConfigCall where
  | create (dto : CreatePaymentProviderConfigDto)
  | update (configId : Id) (dto : UpdatePaymentProviderConfigDto)

def ProviderConfigCall.body :
    ProviderConfigCall → ProviderConfigTransaction PaymentProviderConfigDto
  | .create dto => createProviderConfig cipher iv now context dto
  | .update configId dto => updateProviderConfig cipher iv now context configId dto

def ProviderConfigCall.perform (call : ProviderConfigCall) :
    Call ProviderConfigStore ApiException PaymentProviderConfigDto :=
  Call.transact (call.body cipher iv now context)

end

section
variable {cipher : SecretCipher} {iv : String} {now : Instant} {context : RequestContext}
  {s t : ProviderConfigStore} {answer : PaymentProviderConfigDto}

def ProviderConfigStore.recorded (context : RequestContext) (config : ProviderConfig)
    (name : String) (audited published : Fields) (s : ProviderConfigStore) : ProviderConfigStore :=
  { s with
    audit := s.audit ++ [{
      tenantId := config.tenantId
      storeId := config.storeId
      actorType := resolveActorType context
      actorId := resolveActorId context
      action := name
      entityType := "payment_provider_config"
      entityId := config.id
      payload := audited }]
    domainEvents := s.domainEvents ++ [{
      tenantId := config.tenantId
      eventName := name
      aggregate := "payment_provider_config"
      aggregateId := config.id
      payload := published }] }

theorem recordProviderConfig_ok_iff {config : ProviderConfig} {name : String}
    {audited published : Fields} {u : Unit} :
    recordProviderConfig context config name audited published s = .ok (u, t) ↔
      t = s.recorded context config name audited published := by
  simp only [recordProviderConfig, Tx.bind_ok_iff, Tx.write_ok_iff]
  exact ⟨fun ⟨_, _, rfl, done⟩ => done, fun done => ⟨(), _, rfl, done⟩⟩

/-- A creation passes every check that is not about its secrets. -/
structure CreateAdmitted (context : RequestContext) (dto : CreatePaymentProviderConfigDto)
    (tenantId : Id) (s : ProviderConfigStore) : Prop where
  tenant : resolveTenantId context (some dto.tenantId) = .ok tenantId
  store : enforceGivenStoreAccess context dto.storeId = .ok ()
  key : ¬KeyIsTaken tenantId dto.storeId dto.providerKey none s
  settings : PublicSettings dto.settings.join
  references : checkReferences (some tenantId) dto.storeId s = .ok ()

/-- An update passes every check that is not about its secrets. -/
structure UpdateAdmitted (cipher : SecretCipher) (context : RequestContext) (configId : Id)
    (dto : UpdatePaymentProviderConfigDto) (current : ProviderConfig) (s : ProviderConfigStore) :
    Prop where
  found : providerConfigs.findUnique configId s = some current
  tenant : ∃ tenantId, resolveTenantId context (some current.tenantId) = .ok tenantId
  store : enforceGivenStoreAccess context current.storeId = .ok ()
  newStore : enforceGivenStoreAccess context dto.storeId.join = .ok ()
  key : dto.Moves current → ¬KeyIsTaken current.tenantId (dto.storeId.getD current.storeId)
    (dto.providerKey.getD current.providerKey) (some current.id) s
  readable : ∃ opened, openEnvelope (decryptSecrets cipher)
    (readField "__secretEnvelope" current.settings) = .ok opened
  settings : PublicSettings dto.settings.join
  references : checkReferences none dto.storeId.join s = .ok ()

theorem mapPersistedProviderConfig_ok_iff {config : ProviderConfig} :
    mapPersistedProviderConfig cipher config = .ok answer ↔
      (∃ opened, openEnvelope (decryptSecrets cipher)
        (readField "__secretEnvelope" config.settings) = .ok opened) ∧
      answer = mapProviderConfig config (filled (publicFields config.settings))
        (resolvedSecretMeta config.settings) := by
  simp only [mapPersistedProviderConfig, except_bind_ok_iff, except_pure_ok_iff, resolve_ok_iff]
  constructor
  · rintro ⟨resolved, ⟨opens, shown⟩, rfl⟩
    exact ⟨⟨_, opens⟩, by rw [shown]⟩
  · rintro ⟨⟨opened, opens⟩, rfl⟩
    exact ⟨⟨_, opened⟩, ⟨opens, rfl⟩, rfl⟩

theorem createProviderConfig_ok_iff {dto : CreatePaymentProviderConfigDto} :
    createProviderConfig cipher iv now context dto s = .ok (answer, t) ↔
      ∃ tenantId settings, CreateAdmitted context dto tenantId s ∧
        buildProviderConfigSettings cipher iv now none dto.settings (dto.secrets.join.map some) =
          .ok settings ∧
        answer = mapProviderConfig (dto.row now s.nextId tenantId settings)
          (filled (publicFields settings)) (resolvedSecretMeta settings) ∧
        t = ProviderConfigStore.recorded context (dto.row now s.nextId tenantId settings)
          "payment.provider_config_created"
          (createdPayload (dto.row now s.nextId tenantId settings))
          (createdPayload (dto.row now s.nextId tenantId settings))
          { s with
            nextId := s.nextId + 1
            configs := s.configs ++ [dto.row now s.nextId tenantId settings] } := by
  simp only [createProviderConfig, Tx.bind_ok_iff, Tx.lift_ok_iff, Tx.read_ok_iff,
    Tx.write_ok_iff, Table.create_ok_iff, recordProviderConfig_ok_iff,
    mapPersistedProviderConfig_ok_iff, ensureProviderKeyIsUnique, rejectIf_ok_iff]
  constructor
  · rintro ⟨tenantId, _, ⟨tenant, rfl⟩, _, _, ⟨store, rfl⟩, _, _, ⟨key, rfl⟩, settings, _,
      ⟨built, rfl⟩, _, _, ⟨references, rfl⟩, id, _, ⟨fresh, rfl⟩, _, _, rfl, config, _,
      ⟨rfl, rfl⟩, _, _, rfl, ⟨_, shown⟩, rfl⟩
    obtain rfl := Except.ok.inj fresh
    obtain ⟨_, _, free, _, _⟩ := buildProviderConfigSettings_ok_iff.mp built
    exact ⟨tenantId, settings, ⟨tenant, store, key, free, references⟩, built, shown, rfl⟩
  · rintro ⟨tenantId, settings, admitted, built, rfl, rfl⟩
    obtain ⟨resolved, opens⟩ := resolve_built built
    exact ⟨tenantId, _, ⟨admitted.tenant, rfl⟩, _, _, ⟨admitted.store, rfl⟩, (), _,
      ⟨admitted.key, rfl⟩, settings, _, ⟨built, rfl⟩, _, _, ⟨admitted.references, rfl⟩, _, _,
      ⟨rfl, rfl⟩, (), _, rfl, _, _, ⟨rfl, rfl⟩, (), _, rfl,
      ⟨⟨_, (resolve_ok_iff.mp opens).1⟩, rfl⟩, rfl⟩

theorem settingsAfter_readable {dto : UpdatePaymentProviderConfigDto} {current : ProviderConfig}
    {settings : Option Fields} (h : dto.settingsAfter cipher iv now current = .ok settings) :
    (∃ opened, openEnvelope (decryptSecrets cipher) (readField "__secretEnvelope" settings) =
      .ok opened) ↔ ∃ opened, openEnvelope (decryptSecrets cipher)
        (readField "__secretEnvelope" current.settings) = .ok opened := by
  unfold UpdatePaymentProviderConfigDto.settingsAfter at h
  split at h
  · obtain ⟨resolved, opens⟩ := resolve_built h
    obtain ⟨opened, opens', _⟩ := buildProviderConfigSettings_ok_iff.mp h
    exact iff_of_true ⟨_, (resolve_ok_iff.mp opens).1⟩ ⟨opened, opens'⟩
  · obtain rfl := Except.ok.inj h
    rfl

theorem settingsAfter_accepted {dto : UpdatePaymentProviderConfigDto} {current : ProviderConfig}
    {settings : Option Fields} (h : dto.settingsAfter cipher iv now current = .ok settings) :
    PublicSettings dto.settings.join ∧ AcceptedSecrets dto.secrets.join := by
  unfold UpdatePaymentProviderConfigDto.settingsAfter at h
  split at h
  · obtain ⟨_, _, free, accepted, _⟩ := buildProviderConfigSettings_ok_iff.mp h
    exact ⟨free, accepted⟩
  · rename_i absent
    simp only [Option.isSome_iff_ne_none, not_or, not_not] at absent
    rw [absent.1, absent.2]
    exact ⟨fun _ given => (by cases given), fun _ given => (by cases given)⟩

theorem settingsAfter_succeeds {dto : UpdatePaymentProviderConfigDto} {current : ProviderConfig}
    (readable : ∃ opened, openEnvelope (decryptSecrets cipher)
      (readField "__secretEnvelope" current.settings) = .ok opened)
    (free : PublicSettings dto.settings.join) (accepted : AcceptedSecrets dto.secrets.join) :
    ∃ settings, dto.settingsAfter cipher iv now current = .ok settings := by
  unfold UpdatePaymentProviderConfigDto.settingsAfter
  split
  · exact build_succeeds readable free accepted
  · exact ⟨_, rfl⟩

theorem updateProviderConfig_ok_iff {configId : Id} {dto : UpdatePaymentProviderConfigDto} :
    updateProviderConfig cipher iv now context configId dto s = .ok (answer, t) ↔
      ∃ current settings, UpdateAdmitted cipher context configId dto current s ∧
        dto.settingsAfter cipher iv now current = .ok settings ∧
        answer = mapProviderConfig (dto.row now settings current)
          (filled (publicFields settings)) (resolvedSecretMeta settings) ∧
        t = ProviderConfigStore.recorded context (dto.row now settings current)
          "payment.provider_config_updated" dto.payload
          (updatedPayload (dto.row now settings current))
          { s with configs :=
              Rows.modify (·.id) current.id (dto.row now settings) s.configs } := by
  simp only [updateProviderConfig, Tx.bind_ok_iff, Tx.lift_ok_iff, Tx.read_ok_iff,
    Table.findUniqueOrThrow_ok_iff, Table.update_ok_iff, recordProviderConfig_ok_iff,
    mapPersistedProviderConfig_ok_iff]
  constructor
  · rintro ⟨current, _, ⟨found, rfl⟩, tenantId, _, ⟨tenant, rfl⟩, _, _, ⟨store, rfl⟩, _, _,
      ⟨newStore, rfl⟩, _, _, ⟨key, rfl⟩, settings, _, ⟨built, rfl⟩, _, _, ⟨references, rfl⟩,
      updated, _, ⟨stored, again, rfl, rfl⟩, _, _, rfl, ⟨readable, shown⟩, rfl⟩
    have same : current.id = configId := (Table.findUnique_mem found).2
    rw [same] at again
    obtain rfl := Option.some.inj (found.symm.trans again)
    refine ⟨current, settings, ⟨found, ⟨tenantId, tenant⟩, store, newStore, fun moves taken => ?_,
      (settingsAfter_readable built).mp readable, (settingsAfter_accepted built).1, references⟩,
      built, shown, rfl⟩
    rw [if_pos moves] at key
    exact rejectIf_ok_iff.mp key taken
  · rintro ⟨current, settings, admitted, built, rfl, rfl⟩
    obtain ⟨tenantId, tenant⟩ := admitted.tenant
    have same : current.id = configId := (Table.findUnique_mem admitted.found).2
    have again : providerConfigs.findUnique current.id s = some current := by
      rw [same]
      exact admitted.found
    refine ⟨current, _, ⟨admitted.found, rfl⟩, tenantId, _, ⟨tenant, rfl⟩, (), _,
      ⟨admitted.store, rfl⟩, (), _, ⟨admitted.newStore, rfl⟩, (), _, ⟨?_, rfl⟩, settings, _,
      ⟨built, rfl⟩, (), _, ⟨admitted.references, rfl⟩, _, _, ⟨current, again, rfl, rfl⟩, (), _,
      rfl, ⟨(settingsAfter_readable built).mpr admitted.readable, rfl⟩, rfl⟩
    split
    · rename_i moves
      exact rejectIf_ok_iff.mpr (admitted.key moves)
    · rfl

end

def ProviderConfigCall.secrets : ProviderConfigCall → Option (Option Fields)
  | .create dto => dto.secrets
  | .update _ dto => dto.secrets

def ProviderConfigCall.withSecrets (secrets : Option (Option Fields)) :
    ProviderConfigCall → ProviderConfigCall
  | .create dto => .create { dto with secrets }
  | .update configId dto => .update configId { dto with secrets }

def ProviderConfigCall.IsUpdate : ProviderConfigCall → Prop
  | .create _ => False
  | .update _ _ => True

/-- The requests have the same secrets with other values, and are the same in all else. -/
structure DifferInSecretValues (call call' : ProviderConfigCall) : Prop where
  same : call' = call.withSecrets call'.secrets
  keys : secretKeys call.secrets = secretKeys call'.secrets

def ProviderConfigCall.Admitted (cipher : SecretCipher) (context : RequestContext)
    (s : ProviderConfigStore) : ProviderConfigCall → Prop
  | .create dto => ∃ tenantId, CreateAdmitted context dto tenantId s
  | .update configId dto => ∃ current, UpdateAdmitted cipher context configId dto current s

/-- What is seen of a request outside the configurations' table. -/
structure ProviderConfigOutcome where
  answer : Option PaymentProviderConfigDto
  audit : List ProviderAuditEntry
  domainEvents : List ProviderDomainEvent
  publicSettings : List (Id × Option Fields)

def shownSettings (s : ProviderConfigStore) : List (Id × Option Fields) :=
  s.configs.map fun config => (config.id, filled (publicFields config.settings))

def outcome (result : Except ApiException PaymentProviderConfigDto × ProviderConfigStore) :
    ProviderConfigOutcome :=
  { answer := result.1.toOption
    audit := result.2.audit
    domainEvents := result.2.domainEvents
    publicSettings := shownSettings result.2 }

section
variable {cipher : SecretCipher} {iv iv' : String} {now : Instant} {context : RequestContext}
  {s t t' : ProviderConfigStore} {answer answer' : PaymentProviderConfigDto}
  {call call' : ProviderConfigCall}

theorem body_succeeds_iff : (∃ answer t, call.body cipher iv now context s = .ok (answer, t)) ↔
      call.Admitted cipher context s ∧ AcceptedSecrets call.secrets.join := by
  cases call with
  | create dto =>
    have joined : (dto.secrets.join.map some).join = dto.secrets.join := by
      cases dto.secrets.join <;> rfl
    constructor
    · rintro ⟨_, _, h⟩
      obtain ⟨tenantId, settings, admitted, built, -⟩ := createProviderConfig_ok_iff.mp h
      obtain ⟨_, _, _, accepted, _⟩ := buildProviderConfigSettings_ok_iff.mp built
      rw [joined] at accepted
      exact ⟨⟨tenantId, admitted⟩, accepted⟩
    · rintro ⟨⟨tenantId, admitted⟩, accepted⟩
      have accepted : AcceptedSecrets (dto.secrets.join.map some).join := by
        rw [joined]
        exact accepted
      have readable : ∃ opened, openEnvelope (decryptSecrets cipher)
          (readField "__secretEnvelope" none) = .ok opened := ⟨none, rfl⟩
      obtain ⟨settings, built⟩ := @build_succeeds cipher iv now _ _ _ readable admitted.settings
        accepted
      exact ⟨_, _, createProviderConfig_ok_iff.mpr ⟨tenantId, settings, admitted, built, rfl, rfl⟩⟩
  | update configId dto =>
    constructor
    · rintro ⟨_, _, h⟩
      obtain ⟨current, settings, admitted, built, -⟩ := updateProviderConfig_ok_iff.mp h
      exact ⟨⟨current, admitted⟩, (settingsAfter_accepted built).2⟩
    · rintro ⟨⟨current, admitted⟩, accepted⟩
      obtain ⟨settings, built⟩ :=
        settingsAfter_succeeds admitted.readable admitted.settings accepted
      exact ⟨_, _, updateProviderConfig_ok_iff.mpr ⟨current, settings, admitted, built, rfl, rfl⟩⟩

theorem admitted_withSecrets (secrets : Option (Option Fields)) :
    (call.withSecrets secrets).Admitted cipher context s ↔ call.Admitted cipher context s := by
  cases call with
  | create dto =>
    exact exists_congr fun _ => ⟨fun ⟨h₁, h₂, h₃, h₄, h₅⟩ => ⟨h₁, h₂, h₃, h₄, h₅⟩,
      fun ⟨h₁, h₂, h₃, h₄, h₅⟩ => ⟨h₁, h₂, h₃, h₄, h₅⟩⟩
  | update configId dto =>
    exact exists_congr fun _ =>
      ⟨fun ⟨h₁, h₂, h₃, h₄, h₅, h₆, h₇, h₈⟩ => ⟨h₁, h₂, h₃, h₄, h₅, h₆, h₇, h₈⟩,
        fun ⟨h₁, h₂, h₃, h₄, h₅, h₆, h₇, h₈⟩ => ⟨h₁, h₂, h₃, h₄, h₅, h₆, h₇, h₈⟩⟩

theorem givenField_injective {α : Type} {key : String} {json : α → Json}
    (injective : Function.Injective json) : Function.Injective (givenField key json) := by
  rintro (_ | given) (_ | given') same
  · rfl
  · cases same
  · cases same
  · exact congrArg some (injective (Prod.mk.inj (cons.inj same).1).2)

theorem payload_withSecrets {dto : UpdatePaymentProviderConfigDto}
    {secrets : Option (Option Fields)} :
    dto.payload = { dto with secrets }.payload ↔ dto.secrets = secrets := by
  have injective : Function.Injective (Json.ofOption Json.obj) := by
    rintro (_ | a) (_ | b) same
    · rfl
    · cases same
    · cases same
    · exact congrArg some (Json.obj.inj same)
  refine ⟨fun same => givenField_injective injective (append_cancel_left same), ?_⟩
  rintro rfl
  rfl

theorem secretKeys_given {secrets secrets' : Option (Option Fields)}
    (keys : secretKeys secrets = secretKeys secrets') :
    secretKeys (secrets.join.map some) = secretKeys (secrets'.join.map some) := by
  match secrets, secrets' with
  | none, none | some none, some none | some (some _), none | some none, none | none, some none
  | some none, some (some _) | some (some _), some none | none, some (some _)
  | some (some _), some (some _) => simp_all [secretKeys]

theorem settingsAfter_alike {dto : UpdatePaymentProviderConfigDto} {current : ProviderConfig}
    {secrets : Option (Option Fields)} {settings settings' : Option Fields}
    (keys : secretKeys dto.secrets = secretKeys secrets)
    (h : dto.settingsAfter cipher iv now current = .ok settings)
    (h' : { dto with secrets }.settingsAfter cipher iv' now current = .ok settings') :
    publicFields settings = publicFields settings' ∧
      resolvedSecretMeta settings = resolvedSecretMeta settings' := by
  have given : dto.secrets.isSome = secrets.isSome := by
    simpa [secretKeys] using congrArg Option.isSome keys
  unfold UpdatePaymentProviderConfigDto.settingsAfter at h h'
  rw [given] at h
  by_cases anew : dto.settings.isSome ∨ secrets.isSome
  · rw [if_pos anew] at h h'
    exact ⟨(publicFields_built h).trans (publicFields_built h').symm, secretMeta_built keys h h'⟩
  · rw [if_neg anew] at h h'
    obtain rfl := Except.ok.inj (h.symm.trans h')
    exact ⟨rfl, rfl⟩

theorem shown_alike (differ : DifferInSecretValues call call')
    (h : call.body cipher iv now context s = .ok (answer, t))
    (h' : call'.body cipher iv' now context s = .ok (answer', t')) :
    answer = answer' ∧ t.domainEvents = t'.domainEvents ∧ shownSettings t = shownSettings t' ∧
      (t.audit = t'.audit ↔ (call.IsUpdate → call.secrets = call'.secrets)) := by
  obtain ⟨same, keys⟩ := differ
  generalize call'.secrets = secrets at same keys
  subst same
  cases call with
  | create dto =>
    obtain ⟨tenantId, settings, admitted, built, rfl, rfl⟩ := createProviderConfig_ok_iff.mp h
    obtain ⟨tenantId', settings', admitted', built', rfl, rfl⟩ :=
      createProviderConfig_ok_iff.mp h'
    obtain rfl : tenantId = tenantId' :=
      Except.ok.inj (admitted.tenant.symm.trans admitted'.tenant)
    have public_ : publicFields settings = publicFields settings' :=
      (publicFields_built built).trans (publicFields_built built').symm
    have told := secretMeta_built (secretKeys_given keys) built built'
    rw [public_, told]
    refine ⟨rfl, rfl, ?_, ⟨fun _ updates => updates.elim, fun _ => rfl⟩⟩
    show map _ (s.configs ++ [_]) = map _ (s.configs ++ [_])
    rw [map_append, map_append]
    exact congrArg (_ ++ ·) (congrArg (fun fields => [(s.nextId, filled fields)]) public_)
  | update configId dto =>
    obtain ⟨current, settings, admitted, built, rfl, rfl⟩ := updateProviderConfig_ok_iff.mp h
    obtain ⟨current', settings', admitted', built', rfl, rfl⟩ :=
      updateProviderConfig_ok_iff.mp h'
    obtain rfl := Option.some.inj (admitted.found.symm.trans admitted'.found)
    obtain ⟨public_, told⟩ := settingsAfter_alike keys built built'
    rw [public_, told]
    refine ⟨rfl, rfl, ?_, ?_⟩
    · show map _ (map _ s.configs) = map _ (map _ s.configs)
      rw [map_map, map_map]
      refine map_congr_left fun config _ => ?_
      by_cases here : config.id = current.id
      · simp [here, UpdatePaymentProviderConfigDto.row, public_]
      · simp [here]
    · show s.audit ++ [_] = s.audit ++ [_] ↔ _
      rw [append_cancel_left_eq, singleton_inj]
      constructor
      · exact fun same _ => payload_withSecrets.mp (congrArg ProviderAuditEntry.payload same)
      · intro same
        obtain rfl := same trivial
        rfl

theorem outcome_refused (refused : ∀ answer t, call.body cipher iv now context s ≠ .ok (answer, t)) :
    outcome ((call.perform cipher iv now context).exec s) =
      ⟨none, s.audit, s.domainEvents, shownSettings s⟩ := by
  obtain ⟨e, failed⟩ := Call.refuses_transact refused
  rw [ProviderConfigCall.perform, failed]
  rfl

theorem outcome_performed (h : call.body cipher iv now context s = .ok (answer, t)) :
    outcome ((call.perform cipher iv now context).exec s) =
      ⟨some answer, t.audit, t.domainEvents, shownSettings t⟩ := by
  rw [ProviderConfigCall.perform, Call.transact_ok h]
  rfl

/-- When the values of the secrets are not seen: the requests are refused for something else, or
their secrets are refused alike, or they create a configuration; an update shows its secrets. -/
theorem secretValues_unseen_iff (differ : DifferInSecretValues call call') :
    outcome ((call.perform cipher iv now context).exec s) =
        outcome ((call'.perform cipher iv' now context).exec s) ↔
      (call.Admitted cipher context s →
        (AcceptedSecrets call.secrets.join ↔ AcceptedSecrets call'.secrets.join) ∧
        (call.IsUpdate → AcceptedSecrets call.secrets.join → call.secrets = call'.secrets)) := by
  have admits : call'.Admitted cipher context s ↔ call.Admitted cipher context s := by
    rw [differ.same]
    exact admitted_withSecrets _
  have succeeds := @body_succeeds_iff cipher iv now context s call
  have succeeds' := @body_succeeds_iff cipher iv' now context s call'
  rw [admits] at succeeds'
  by_cases admitted : call.Admitted cipher context s
  · by_cases accepted : AcceptedSecrets call.secrets.join
    · obtain ⟨answer, t, h⟩ := succeeds.mpr ⟨admitted, accepted⟩
      rw [outcome_performed h]
      by_cases accepted' : AcceptedSecrets call'.secrets.join
      · obtain ⟨answer', t', h'⟩ := succeeds'.mpr ⟨admitted, accepted'⟩
        obtain ⟨rfl, events, shown, audited⟩ := shown_alike differ h h'
        rw [outcome_performed h', events, shown]
        constructor
        · intro same _
          exact ⟨iff_of_true accepted accepted', fun updates _ =>
            audited.mp (congrArg ProviderConfigOutcome.audit same) updates⟩
        · intro unseen
          rw [audited.mpr fun updates => (unseen admitted).2 updates accepted]
      · rw [outcome_refused fun answer' t' h' => accepted' (succeeds'.mp ⟨answer', t', h'⟩).2]
        constructor
        · exact fun same => (Option.some_ne_none _ (congrArg ProviderConfigOutcome.answer same)).elim
        · exact fun unseen => (accepted' ((unseen admitted).1.mp accepted)).elim
    · rw [outcome_refused fun answer t h => accepted (succeeds.mp ⟨answer, t, h⟩).2]
      by_cases accepted' : AcceptedSecrets call'.secrets.join
      · obtain ⟨answer', t', h'⟩ := succeeds'.mpr ⟨admitted, accepted'⟩
        rw [outcome_performed h']
        constructor
        · exact fun same =>
            (Option.some_ne_none _ (congrArg ProviderConfigOutcome.answer same).symm).elim
        · exact fun unseen => (accepted ((unseen admitted).1.mpr accepted')).elim
      · rw [outcome_refused fun answer' t' h' => accepted' (succeeds'.mp ⟨answer', t', h'⟩).2]
        exact iff_of_true rfl fun _ =>
          ⟨iff_of_false accepted accepted', fun _ accepted_ => (accepted accepted_).elim⟩
  · rw [outcome_refused fun answer t h => admitted (succeeds.mp ⟨answer, t, h⟩).1,
      outcome_refused fun answer t h => admitted (succeeds'.mp ⟨answer, t, h⟩).1]
    exact iff_of_true rfl fun admitted_ => (admitted admitted_).elim

end

/-- A cipher that hides nothing, with a reader of records of texts. -/
def plainCipher : SecretCipher where
  encipher _ plaintext := ("", plaintext)
  decipher _ _ ciphertext :=
    match ciphertext with
    | some (.str text) => .ok text
    | _ => .error "Unsupported state or unable to authenticate data"
  parseJson text :=
    match Json.readRecord text.toList with
    | some fields => .ok (.obj (Json.textFields fields))
    | none => .error "Unexpected token in JSON"
  decipher_encipher _ _ := rfl
  parse_stringify secrets _ := by
    rw [Json.stringify, String.toList_ofList, Json.readRecord_written]

def admin : RequestContext where
  userId := "admin"
  tenantId := none
  scope := .platformAdmin
  storeIds := []
  deviceId := none

def terminals : ProviderConfigStore where
  nextId := 11
  tenants := [1]
  stores := [2]
  configs := [{
    id := 10
    tenantId := 1
    storeId := some 2
    providerKey := "card"
    providerType := .cardSimulated
    method := .card
    enabled := true
    priority := 100
    allowedChannels := [.pos]
    autoConfirmOrderOnSuccess := false
    settings := none
    createdAt := 0
    updatedAt := 0 }]
  audit := []
  domainEvents := []

def withKey (key : String) : ProviderConfigCall :=
  .update 10 { secrets := some (some [("apiKey", .str key)]) }

def newProvider (key : String) : ProviderConfigCall :=
  .create {
    tenantId := 1
    storeId := some 2
    providerKey := "qr"
    providerType := .qrSimulated
    method := .qr
    secrets := some (some [("apiKey", .str key)]) }

theorem newProvider_unseen :
    outcome (((newProvider "first").perform plainCipher "iv" 5 admin).exec terminals) =
      outcome (((newProvider "second").perform plainCipher "other" 5 admin).exec terminals) := by
  have differ : DifferInSecretValues (newProvider "first") (newProvider "second") := ⟨rfl, rfl⟩
  have named : isSecretKey "apiKey" = true := by decide
  have accepted (key : String) (filled : Text.trim key ≠ "") :
      AcceptedSecrets (newProvider key).secrets.join := by
    intro fields given field listed
    obtain rfl := Option.some.inj given
    obtain rfl := List.mem_singleton.mp listed
    exact ⟨named, decide_eq_true filled⟩
  refine (secretValues_unseen_iff differ).mpr fun _ => ⟨?_, fun updates => False.elim updates⟩
  exact iff_of_true (accepted "first" (by decide)) (accepted "second" (by decide))

/-- The audit entry of an update has the secret as it was sent. -/
theorem withKey_seen :
    ¬∀ (cipher : SecretCipher) (iv iv' : String) (now : Instant) (context : RequestContext)
        (s : ProviderConfigStore) (call call' : ProviderConfigCall),
      DifferInSecretValues call call' →
        outcome ((call.perform cipher iv now context).exec s) =
          outcome ((call'.perform cipher iv' now context).exec s) := by
  intro unseen
  have same := unseen plainCipher "iv" "iv" 5 admin terminals (withKey "first")
    (withKey "second") ⟨rfl, rfl⟩
  have payloads := congrArg (fun result =>
    result.audit.map fun entry => Json.stringify (.obj entry.payload)) same
  revert payloads
  decide +kernel

end Exetron.Payments
