import Exetron.JsonText
import Exetron.Lib.Record
import Exetron.Payments.Adapter
import Mathlib.Data.List.Sort

/-!
# The secrets of a provider configuration

The writing side of `provider-config-secrets.util.ts`: public settings are stored as they are
given, secrets in a sealed envelope, and beside it the keys of the secrets. AES-256-GCM under the
derived key and `JSON.parse` are parameters.
-/

namespace Exetron.Payments

open Lib List

/-- `record[key] = value`: a text is no prototype, and an assignment of one does nothing. -/
def assign (record : Record String String) (key value : String) : Record String String :=
  if key = "__proto__" then record else record.set key value

/-- Each key stands once, and the prototype's does not. -/
structure PlainTexts (texts : Record String String) : Prop where
  distinct : (texts.map Prod.fst).Nodup
  own : "__proto__" ∉ texts.map Prod.fst

/-- The texts that get a field of their own. -/
def ownTexts (texts : Record String String) : Record String String :=
  texts.filter fun field => field.1 ≠ "__proto__"

theorem ownTexts_cons (record : Record String String) (field : String × String)
    (texts : Record String String) : record.spread (ownTexts (field :: texts)) =
      Record.spread (assign record field.1 field.2) (ownTexts texts) := by
  rw [ownTexts, filter_cons, assign]
  by_cases proto : field.1 = "__proto__"
  · rw [if_neg (by simpa using proto), if_pos proto]
    rfl
  · rw [if_pos (by simpa using proto), if_neg proto]
    rfl

theorem ownTexts_eq_self {texts : Record String String} (plain : PlainTexts texts) :
    ownTexts texts = texts := by
  refine filter_eq_self.mpr fun field listed => decide_eq_true fun proto => plain.own ?_
  exact proto ▸ mem_map_of_mem listed

theorem PlainTexts.nil : PlainTexts [] := ⟨nodup_nil, not_mem_nil⟩

theorem PlainTexts.assign {record : Record String String} (plain : PlainTexts record)
    (key value : String) : PlainTexts (assign record key value) := by
  unfold Payments.assign
  split
  · exact plain
  · rename_i own
    refine ⟨Record.nodup_keys_set plain.distinct key value, fun listed => ?_⟩
    rw [Record.keys_set] at listed
    split at listed
    · exact plain.own listed
    · rcases mem_append.mp listed with before | new
      · exact plain.own before
      · exact own (mem_singleton.mp new).symm

theorem PlainTexts.spread {record : Record String String} (plain : PlainTexts record)
    (texts : Record String String) : PlainTexts (record.spread (ownTexts texts)) := by
  induction texts generalizing record with
  | nil => exact plain
  | cons field texts ih =>
    rw [ownTexts_cons]
    exact ih (plain.assign field.1 field.2)

/-- `encipher` answers the tag and the ciphertext; `decipher` and `parseJson` fail with the text of
their error. What is enciphered is deciphered, and a written record of texts is read. -/
structure SecretCipher where
  encipher : (iv plaintext : String) → String × String
  decipher : (iv tag ciphertext : Option Json) → Except String String
  parseJson : String → Except String Json
  decipher_encipher : ∀ iv plaintext, decipher (some (.str iv)) (some (.str (encipher iv plaintext).1))
    (some (.str (encipher iv plaintext).2)) = .ok plaintext
  parse_stringify : ∀ secrets : Record String String, (secrets.map Prod.fst).Nodup →
    parseJson (Json.stringify (.obj (Json.textFields secrets))) = .ok (.obj (Json.textFields secrets))

def encryptSecrets (cipher : SecretCipher) (iv : String) (secrets : Record String String) : Json :=
  let (tag, ciphertext) := cipher.encipher iv (Json.stringify (.obj (Json.textFields secrets)))
  .obj [("version", .num 1), ("iv", .str iv), ("tag", .str tag), ("ciphertext", .str ciphertext)]

def readSecret (accumulator : Record String String) (field : String × Json) :
    Except String (Record String String) :=
  match field.2 with
  | .str value => .ok (assign accumulator field.1 value)
  | _ => .error "Decrypted provider config secrets contain non-string values."

def decipherSecrets (cipher : SecretCipher) (envelope : Json) :
    Except String (Record String String) := do
  let plaintext ← cipher.decipher (envelope.get? "iv") (envelope.get? "tag")
    (envelope.get? "ciphertext")
  match ← cipher.parseJson plaintext with
  | .obj fields => fields.foldlM readSecret []
  | _ => .error "Decrypted provider config secrets are not an object."

def decryptSecrets (cipher : SecretCipher) (envelope : Json) :
    Except ApiException (Record String String) :=
  match decipherSecrets cipher envelope with
  | .ok secrets => .ok secrets
  | .error message =>
    .error (.internalServerError ("Payment provider config secrets are unreadable: " ++ message))

theorem readSecret_textFields (secrets accumulator : Record String String) :
    (Json.textFields secrets).foldlM readSecret accumulator =
      .ok (accumulator.spread (ownTexts secrets)) := by
  induction secrets generalizing accumulator with
  | nil => rfl
  | cons secret secrets ih =>
    rw [ownTexts_cons]
    exact ih (assign accumulator secret.1 secret.2)

theorem decryptSecrets_encryptSecrets (cipher : SecretCipher) (iv : String)
    {secrets : Record String String} (plain : PlainTexts secrets) :
    decryptSecrets cipher (encryptSecrets cipher iv secrets) = .ok secrets := by
  have deciphered : decipherSecrets cipher (encryptSecrets cipher iv secrets) = .ok secrets := by
    simp only [decipherSecrets, encryptSecrets, Json.get?, find?_cons, String.reduceEq,
      decide_false, decide_true, Option.map_some, cipher.decipher_encipher, bind, Except.bind,
      cipher.parse_stringify _ plain.distinct, readSecret_textFields]
    rw [ownTexts_eq_self plain, Record.spread_empty plain.distinct]
  rw [decryptSecrets, deciphered]

/-- `Object.keys(fields).length ? fields : null`. -/
def filled (fields : Fields) : Option Fields := if fields = [] then none else some fields

def reservedKeys : List String := ["__secretEnvelope", "__secretMeta"]

def sanitizePublicSettings (settings : Option Fields) : Except ApiException (Option Fields) :=
  match settings with
  | none => .ok none
  | some settings => do
    rejectIf (∃ key ∈ reservedKeys, key ∈ settings.map Prod.fst)
      (.badRequest "Payment provider settings cannot use reserved secret metadata keys.")
    pure (filled settings)

/-- `/^[A-Za-z0-9._-]+$/`. -/
def isSecretKey (key : String) : Bool :=
  key ≠ "" && key.toList.all fun c => c.isAlphanum || c ∈ ['.', '_', '-']

def isSecretValue (value : Json) : Bool :=
  value.asString?.any fun text => Text.trim text ≠ ""

def normalizeSecret (accumulator : Record String String) (field : String × Json) :
    Except ApiException (Record String String) := do
  rejectIf (¬isSecretKey field.1) (.badRequest
    "Payment provider secret keys may only contain letters, digits, dot, underscore or dash.")
  rejectIf (¬isSecretValue field.2) (.badRequest
    "Payment provider secrets must be non-empty strings.")
  pure (assign accumulator field.1 (field.2.asString?.getD ""))

def normalizeSecretsInput (secrets : Option Fields) :
    Except ApiException (Option (Record String String)) :=
  match secrets with
  | none | some [] => .ok none
  | some entries => (entries.foldlM normalizeSecret []).map some

structure PaymentProviderConfigSecretsStateDto where
  hasSecrets : Bool
  keys : List String
  updatedAt : Option String
  deriving DecidableEq

def readSecretMeta (value : Option Json) : Option PaymentProviderConfigSecretsStateDto :=
  match value with
  | some (.obj fields) =>
    let keys := match readField "keys" (some fields) with
      | some (.arr items) => (items.filterMap Json.asString?).insertionSort (· ≤ ·)
      | _ => []
    let updatedAt := ((readField "updatedAt" (some fields)).bind Json.asString?).filter (· ≠ "")
    if keys = [] then none else some { hasSecrets := true, keys, updatedAt }
  | _ => none

/-- The `secrets` that `resolveProviderConfigSettings` answers beside the settings. -/
def resolvedSecretMeta (stored : Option Fields) : Option PaymentProviderConfigSecretsStateDto :=
  readSecretMeta (readField "__secretMeta" stored)

def secretMeta (now : Instant) (secrets : Record String String) : Json :=
  .obj [("keys", .arr (((secrets.map Prod.fst).insertionSort (· ≤ ·)).map .str)),
    ("updatedAt", .str (toString now))]

def storeSecrets (cipher : SecretCipher) (iv : String) (now : Instant) (publicSettings : Fields)
    (secrets : Record String String) : Fields :=
  if secrets = [] then publicSettings
  else (Record.set publicSettings "__secretMeta" (secretMeta now secrets)).set "__secretEnvelope"
    (encryptSecrets cipher iv secrets)

/-- A field of the request that is absent keeps what is stored. -/
def buildProviderConfigSettings (cipher : SecretCipher) (iv : String) (now : Instant)
    (currentSettings : Option Fields) (nextSettings nextSecrets : Option (Option Fields)) :
    Except ApiException (Option Fields) := do
  let current ← resolveProviderConfigSettings (decryptSecrets cipher) currentSettings
  let publicSettings ← match nextSettings with
    | none => pure current.publicSettings
    | some settings => sanitizePublicSettings settings
  let resolvedSecrets ← match nextSecrets with
    | none => pure current.resolvedSecrets
    | some secrets => normalizeSecretsInput secrets
  pure (filled (storeSecrets cipher iv now (publicSettings.getD []) (resolvedSecrets.getD [])))

def AcceptedSecret (field : String × Json) : Prop := isSecretKey field.1 ∧ isSecretValue field.2

/-- No secrets, or secrets of well-formed keys that are texts and not blank. -/
def AcceptedSecrets (secrets : Option Fields) : Prop :=
  ∀ fields ∈ secrets, ∀ field ∈ fields, AcceptedSecret field

def PublicSettings (settings : Option Fields) : Prop :=
  ∀ fields ∈ settings, ∀ key ∈ reservedKeys, key ∉ fields.map Prod.fst

instance (field : String × Json) : Decidable (AcceptedSecret field) :=
  inferInstanceAs (Decidable (_ ∧ _))

def secretTexts (fields : Fields) : Record String String :=
  fields.map fun field => (field.1, field.2.asString?.getD "")

theorem normalizeSecret_ok_iff {accumulator secrets : Record String String}
    {field : String × Json} : normalizeSecret accumulator field = .ok secrets ↔
      AcceptedSecret field ∧ assign accumulator field.1 (field.2.asString?.getD "") = secrets := by
  simp only [normalizeSecret, except_bind_ok_iff, rejectIf_ok_iff, not_not, except_pure_ok_iff,
    AcceptedSecret, exists_and_left, exists_const, and_assoc]

theorem normalizeSecrets_ok_iff {entries : Fields} {accumulator secrets : Record String String} :
    entries.foldlM normalizeSecret accumulator = .ok secrets ↔
      (∀ field ∈ entries, AcceptedSecret field) ∧
        accumulator.spread (ownTexts (secretTexts entries)) = secrets := by
  induction entries generalizing accumulator with
  | nil =>
    rw [foldlM_nil, except_pure_ok_iff]
    exact ⟨fun h => ⟨fun _ listed => (not_mem_nil listed).elim, h⟩, And.right⟩
  | cons field entries ih =>
    rw [foldlM_cons, except_bind_ok_iff, forall_mem_cons]
    constructor
    · rintro ⟨_, first, rest⟩
      obtain ⟨accepted, rfl⟩ := normalizeSecret_ok_iff.mp first
      obtain ⟨others, rfl⟩ := ih.mp rest
      exact ⟨⟨accepted, others⟩, ownTexts_cons ..⟩
    · rintro ⟨⟨accepted, others⟩, rfl⟩
      refine ⟨_, normalizeSecret_ok_iff.mpr ⟨accepted, rfl⟩, ih.mpr ⟨others, ?_⟩⟩
      exact (ownTexts_cons accumulator (field.1, field.2.asString?.getD "")
        (secretTexts entries)).symm

/-- What the secrets of a request are stored as. -/
def normalizedSecrets (secrets : Option Fields) : Record String String :=
  Record.spread [] (ownTexts (secretTexts (secrets.getD [])))

theorem normalizeSecretsInput_ok_iff {secrets : Option Fields}
    {stored : Option (Record String String)} : normalizeSecretsInput secrets = .ok stored ↔
      AcceptedSecrets secrets ∧
        stored = if secrets.getD [] = [] then none else some (normalizedSecrets secrets) := by
  match secrets with
  | none | some [] => simp [normalizeSecretsInput, AcceptedSecrets, eq_comm]
  | some (field :: entries) =>
    have accepted : AcceptedSecrets (some (field :: entries)) ↔
        ∀ listed ∈ field :: entries, AcceptedSecret listed :=
      ⟨fun h => h _ rfl, fun h fields same => Option.some.inj same ▸ h⟩
    have read (secrets : Record String String) :=
      @normalizeSecrets_ok_iff (field :: entries) [] secrets
    have entered : (some (field :: entries)).getD [] ≠ [] := cons_ne_nil _ _
    rw [normalizeSecretsInput.eq_3 _ (cons_ne_nil _ _), accepted, if_neg entered]
    cases result : (field :: entries).foldlM normalizeSecret [] with
    | error e =>
      rw [result] at read
      refine ⟨fun h => (by cases h), fun h => ?_⟩
      cases (read _).mpr ⟨h.1, rfl⟩
    | ok secrets =>
      rw [result] at read
      obtain ⟨kept, rfl⟩ := (read _).mp rfl
      exact ⟨fun h => ⟨kept, (Except.ok.inj h).symm⟩, fun h => congrArg Except.ok h.2.symm⟩

theorem plain_normalizedSecrets (secrets : Option Fields) :
    PlainTexts (normalizedSecrets secrets) :=
  PlainTexts.nil.spread _

theorem keys_ownTexts (texts : Record String String) :
    (ownTexts texts).map Prod.fst = (texts.map Prod.fst).filter fun key => key ≠ "__proto__" := by
  rw [filter_map]
  rfl

theorem keys_normalizedSecrets {secrets secrets' : Option Fields}
    (same : (secrets.getD []).map Prod.fst = (secrets'.getD []).map Prod.fst) :
    (normalizedSecrets secrets).map Prod.fst = (normalizedSecrets secrets').map Prod.fst :=
  have given : (secretTexts (secrets.getD [])).map Prod.fst =
      (secretTexts (secrets'.getD [])).map Prod.fst := by
    simpa [secretTexts, Function.comp_def] using same
  Record.keys_spread_congr rfl (by rw [keys_ownTexts, keys_ownTexts, given])

@[simp] theorem filled_getD (fields : Fields) : (filled fields).getD [] = fields := by
  unfold filled
  split <;> simp_all

theorem sanitizePublicSettings_ok_iff {settings stored : Option Fields} :
    sanitizePublicSettings settings = .ok stored ↔
      PublicSettings settings ∧ stored = filled (settings.getD []) := by
  cases settings with
  | none => simp [sanitizePublicSettings, PublicSettings, filled, eq_comm]
  | some fields =>
    simp only [sanitizePublicSettings, except_bind_ok_iff, rejectIf_ok_iff, except_pure_ok_iff,
      exists_and_left, exists_const, Option.getD_some, not_exists, not_and]
    exact ⟨fun h => ⟨fun _ same => Option.some.inj same ▸ h.1, h.2.symm⟩,
      fun h => ⟨h.1 fields rfl, h.2.symm⟩⟩

theorem plain_readSecrets {fields : Fields} {accumulator secrets : Record String String}
    (plain : PlainTexts accumulator)
    (h : fields.foldlM readSecret accumulator = .ok secrets) : PlainTexts secrets := by
  induction fields generalizing accumulator with
  | nil => exact Except.ok.inj h ▸ plain
  | cons field fields ih =>
    rw [foldlM_cons] at h
    cases read : readSecret accumulator field with
    | error message =>
      rw [read] at h
      cases h
    | ok next =>
      rw [read] at h
      refine ih ?_ h
      unfold readSecret at read
      split at read
      · obtain rfl := Except.ok.inj read
        exact plain.assign field.1 _
      · cases read

theorem plain_decryptSecrets {cipher : SecretCipher} {envelope : Json}
    {secrets : Record String String} (h : decryptSecrets cipher envelope = .ok secrets) :
    PlainTexts secrets := by
  unfold decryptSecrets at h
  split at h
  · rename_i read
    obtain rfl := Except.ok.inj h
    unfold decipherSecrets at read
    cases opened : cipher.decipher (envelope.get? "iv") (envelope.get? "tag")
        (envelope.get? "ciphertext") with
    | error message =>
      rw [opened] at read
      cases read
    | ok plaintext =>
      simp only [opened, bind, Except.bind] at read
      split at read
      · cases read
      · split at read
        · exact plain_readSecrets PlainTexts.nil read
        · cases read
  · cases h

def publicFields (stored : Option Fields) : Fields :=
  (stored.getD []).filter fun field => field.1 ≠ "__secretEnvelope" ∧ field.1 ≠ "__secretMeta"

theorem publicFields_eq_self {fields : Fields} (free : PublicSettings (some fields)) :
    publicFields (some fields) = fields := by
  refine filter_eq_self.mpr fun field listed => ?_
  have other := fun key reserved same =>
    free fields rfl key reserved (mem_map.mpr ⟨field, listed, same⟩)
  exact decide_eq_true ⟨other _ mem_cons_self, other _ (mem_cons_of_mem _ mem_cons_self)⟩

theorem publicFields_filled (fields : Fields) :
    publicFields (filled fields) = publicFields (some fields) := by
  rw [publicFields, filled_getD]
  rfl

theorem publicFields_storeSecrets (cipher : SecretCipher) (iv : String) (now : Instant)
    (settings : Fields) (secrets : Record String String) :
    publicFields (some (storeSecrets cipher iv now settings secrets)) =
      publicFields (some settings) := by
  unfold storeSecrets
  split
  · rfl
  · have hide {key : String} (hidden : key ∈ reservedKeys) (fields : Fields) (value : Json) :
        publicFields (some (Record.set fields key value)) = publicFields (some fields) :=
      Record.filter_set (p := fun key => key ≠ "__secretEnvelope" ∧ key ≠ "__secretMeta")
        (by simpa [reservedKeys, imp_iff_not_or] using hidden) fields value
    rw [hide (by decide), hide (by decide)]

def openEnvelope (decrypt : Json → Except ApiException (List (String × String))) :
    Option Json → Except ApiException (Option (List (String × String)))
  | some value => if Json.isTruthy (some value) then (decrypt value).map some else .ok none
  | none => .ok none

theorem resolve_eq (decrypt : Json → Except ApiException (List (String × String)))
    (stored : Option Fields) : resolveProviderConfigSettings decrypt stored =
      (openEnvelope decrypt (readField "__secretEnvelope" stored)).map
        (ResolvedProviderConfigSettings.mk (filled (publicFields stored))) := by
  cases stored with
  | none => rfl
  | some fields =>
    cases sealed_ : readField "__secretEnvelope" (some fields) with
    | none =>
      simp only [resolveProviderConfigSettings, sealed_]
      rfl
    | some value =>
      cases truthy : Json.isTruthy (some value) with
      | false =>
        simp only [resolveProviderConfigSettings, sealed_, openEnvelope, truthy]
        rfl
      | true =>
        simp only [resolveProviderConfigSettings, sealed_, openEnvelope, truthy]
        cases decrypt value <;> rfl

theorem resolve_ok_iff {decrypt : Json → Except ApiException (List (String × String))}
    {stored : Option Fields} {resolved : ResolvedProviderConfigSettings} :
    resolveProviderConfigSettings decrypt stored = .ok resolved ↔
      openEnvelope decrypt (readField "__secretEnvelope" stored) = .ok resolved.resolvedSecrets ∧
        resolved.publicSettings = filled (publicFields stored) := by
  rw [resolve_eq]
  cases opened : openEnvelope decrypt (readField "__secretEnvelope" stored) with
  | error e => exact ⟨fun h => (by cases h), fun h => (by cases h.1)⟩
  | ok secrets =>
    refine ⟨fun h => Except.ok.inj h ▸ ⟨rfl, rfl⟩, fun ⟨same, shown⟩ => ?_⟩
    obtain ⟨publicSettings, resolvedSecrets⟩ := resolved
    obtain rfl : secrets = resolvedSecrets := Except.ok.inj same
    obtain rfl : publicSettings = _ := shown
    rfl

theorem publicSettings_publicFields (stored : Option Fields) :
    PublicSettings (some (publicFields stored)) := by
  intro fields same key reserved listed
  obtain rfl := Option.some.inj same
  obtain ⟨field, kept, rfl⟩ := mem_map.mp listed
  have free := of_decide_eq_true (mem_filter.mp kept).2
  simp only [reservedKeys, mem_cons, not_mem_nil, or_false] at reserved
  exact reserved.elim free.1 free.2

theorem readField_filled (key : String) (fields : Fields) :
    readField key (filled fields) = Record.get fields key := by
  unfold filled
  split
  · rename_i empty
    rw [empty]
    rfl
  · rfl

theorem get_reserved {settings : Fields} (free : PublicSettings (some settings)) {key : String}
    (reserved : key ∈ reservedKeys) : Record.get settings key = none := by
  rw [Record.get, Option.map_eq_none_iff, find?_eq_none]
  intro field listed same
  exact free settings rfl key reserved (mem_map.mpr ⟨field, listed, of_decide_eq_true same⟩)

section
variable (cipher : SecretCipher) (iv : String) (now : Instant) {settings : Fields}
  (free : PublicSettings (some settings))
include free

theorem envelope_storeSecrets (secrets : Record String String) :
    readField "__secretEnvelope" (filled (storeSecrets cipher iv now settings secrets)) =
      if secrets = [] then none else some (encryptSecrets cipher iv secrets) := by
  rw [readField_filled, storeSecrets]
  split
  · exact get_reserved free mem_cons_self
  · rw [Record.get_set, if_pos rfl]

theorem resolvedSecretMeta_storeSecrets (secrets : Record String String) :
    resolvedSecretMeta (filled (storeSecrets cipher iv now settings secrets)) =
      readSecretMeta (if secrets = [] then none else some (secretMeta now secrets)) := by
  rw [resolvedSecretMeta, readField_filled, storeSecrets]
  split
  · rw [get_reserved free (mem_cons_of_mem _ mem_cons_self)]
  · rw [Record.get_set, if_neg (by decide), Record.get_set, if_pos rfl]

theorem resolve_storeSecrets {secrets : Record String String} (plain : PlainTexts secrets) :
    resolveProviderConfigSettings (decryptSecrets cipher)
        (filled (storeSecrets cipher iv now settings secrets)) =
      .ok ⟨filled settings, if secrets = [] then none else some secrets⟩ := by
  have shown : publicFields (filled (storeSecrets cipher iv now settings secrets)) = settings := by
    rw [publicFields_filled, publicFields_storeSecrets, publicFields_eq_self free]
  rw [resolve_eq, envelope_storeSecrets cipher iv now free, shown]
  split
  · rfl
  · have sealed_ : Json.isTruthy (some (encryptSecrets cipher iv secrets)) = true := rfl
    rw [openEnvelope, if_pos sealed_, decryptSecrets_encryptSecrets cipher iv plain]
    rfl

end

def nextPublicSettings (current : Option Fields) : Option (Option Fields) → Fields
  | none => publicFields current
  | some settings => settings.getD []

def nextSecretTexts (opened : Option (Record String String)) :
    Option (Option Fields) → Record String String
  | none => opened.getD []
  | some secrets => normalizedSecrets secrets

theorem free_nextPublicSettings {current : Option Fields} {next : Option (Option Fields)}
    (free : PublicSettings next.join) :
    PublicSettings (some (nextPublicSettings current next)) := by
  match next with
  | none => exact publicSettings_publicFields current
  | some none => exact fun fields same _ _ listed => by simp [← Option.some.inj same,
      nextPublicSettings] at listed
  | some (some settings) => exact free

theorem plain_nextSecretTexts {cipher : SecretCipher} {envelope : Option Json}
    {opened : Option (Record String String)}
    (h : openEnvelope (decryptSecrets cipher) envelope = .ok opened)
    (next : Option (Option Fields)) : PlainTexts (nextSecretTexts opened next) := by
  cases next with
  | some secrets => exact plain_normalizedSecrets secrets
  | none =>
    unfold openEnvelope at h
    split at h
    · split at h
      · rename_i envelope _
        cases read : decryptSecrets cipher envelope with
        | error e =>
          rw [read] at h
          cases h
        | ok secrets =>
          rw [read] at h
          obtain rfl := Except.ok.inj h
          exact plain_decryptSecrets read
      · exact Except.ok.inj h ▸ PlainTexts.nil
    · exact Except.ok.inj h ▸ PlainTexts.nil

/-- The secrets of a request without their values. -/
def secretKeys (secrets : Option (Option Fields)) : Option (Option (List String)) :=
  secrets.map fun given => given.map fun fields => fields.map Prod.fst

theorem keys_nextSecretTexts (opened : Option (Record String String))
    {next next' : Option (Option Fields)} (same : secretKeys next = secretKeys next') :
    (nextSecretTexts opened next).map Prod.fst = (nextSecretTexts opened next').map Prod.fst := by
  cases next with
  | none =>
    obtain rfl := Option.map_eq_none_iff.mp same.symm
    rfl
  | some given =>
    obtain ⟨given', rfl, keys⟩ := Option.map_eq_some_iff.mp same.symm
    refine keys_normalizedSecrets ?_
    cases given with
    | none =>
      obtain rfl := Option.map_eq_none_iff.mp keys
      rfl
    | some fields =>
      obtain ⟨fields', rfl, keys⟩ := Option.map_eq_some_iff.mp keys
      exact (Option.some.inj keys).symm

section
variable {cipher : SecretCipher} {iv : String} {now : Instant} {current stored : Option Fields}
  {nextSettings nextSecrets : Option (Option Fields)}

/-- When the settings of a request are stored, and as what. -/
theorem buildProviderConfigSettings_ok_iff :
    buildProviderConfigSettings cipher iv now current nextSettings nextSecrets = .ok stored ↔
      ∃ opened, openEnvelope (decryptSecrets cipher) (readField "__secretEnvelope" current) =
          .ok opened ∧
        PublicSettings nextSettings.join ∧ AcceptedSecrets nextSecrets.join ∧
        stored = filled (storeSecrets cipher iv now (nextPublicSettings current nextSettings)
          (nextSecretTexts opened nextSecrets)) := by
  have none_public : PublicSettings none := fun _ none => by cases none
  have none_accepted : AcceptedSecrets none := fun _ none => by cases none
  have written (secrets : Option Fields) :
      (if secrets.getD [] = [] then none else some (normalizedSecrets secrets)).getD [] =
        normalizedSecrets secrets := by
    split
    · rename_i empty
      rw [normalizedSecrets, empty]
      rfl
    · rfl
  have opens (opened : Option (Record String String)) :
      resolveProviderConfigSettings (decryptSecrets cipher) current =
        .ok ⟨filled (publicFields current), opened⟩ ↔
      openEnvelope (decryptSecrets cipher) (readField "__secretEnvelope" current) = .ok opened :=
    resolve_ok_iff.trans (and_iff_left rfl)
  constructor
  · intro h
    obtain ⟨⟨_, opened⟩, resolved, h⟩ := except_bind_ok_iff.mp h
    obtain ⟨opens', rfl⟩ := resolve_ok_iff.mp resolved
    refine ⟨opened, opens', ?_⟩
    cases nextSettings <;> cases nextSecrets <;>
      simp only [except_bind_ok_iff, except_pure_ok_iff, sanitizePublicSettings_ok_iff,
        normalizeSecretsInput_ok_iff] at h
    · obtain ⟨_, rfl, _, rfl, rfl⟩ := h
      exact ⟨none_public, none_accepted, by simp [nextPublicSettings, nextSecretTexts]⟩
    · obtain ⟨_, rfl, _, ⟨accepted, rfl⟩, rfl⟩ := h
      exact ⟨none_public, accepted, by simp [nextPublicSettings, nextSecretTexts, written]⟩
    · obtain ⟨_, ⟨free, rfl⟩, _, rfl, rfl⟩ := h
      exact ⟨free, none_accepted, by simp [nextPublicSettings, nextSecretTexts]⟩
    · obtain ⟨_, ⟨free, rfl⟩, _, ⟨accepted, rfl⟩, rfl⟩ := h
      exact ⟨free, accepted, by simp [nextPublicSettings, nextSecretTexts, written]⟩
  · rintro ⟨opened, opens', free, accepted, rfl⟩
    refine except_bind_ok_iff.mpr ⟨_, (opens opened).mpr opens', ?_⟩
    cases nextSettings <;> cases nextSecrets <;>
      simp only [except_bind_ok_iff, except_pure_ok_iff, sanitizePublicSettings_ok_iff,
        normalizeSecretsInput_ok_iff]
    · exact ⟨_, rfl, _, rfl, by simp [nextPublicSettings, nextSecretTexts]⟩
    · exact ⟨_, rfl, _, ⟨accepted, rfl⟩,
        by simp [nextPublicSettings, nextSecretTexts, written]⟩
    · exact ⟨_, ⟨free, rfl⟩, _, rfl, by simp [nextPublicSettings, nextSecretTexts]⟩
    · exact ⟨_, ⟨free, rfl⟩, _, ⟨accepted, rfl⟩,
        by simp [nextPublicSettings, nextSecretTexts, written]⟩

theorem build_succeeds (readable : ∃ opened, openEnvelope (decryptSecrets cipher)
      (readField "__secretEnvelope" current) = .ok opened)
    (free : PublicSettings nextSettings.join) (accepted : AcceptedSecrets nextSecrets.join) :
    ∃ stored,
      buildProviderConfigSettings cipher iv now current nextSettings nextSecrets = .ok stored := by
  obtain ⟨opened, opens⟩ := readable
  exact ⟨_, buildProviderConfigSettings_ok_iff.mpr ⟨opened, opens, free, accepted, rfl⟩⟩

theorem publicFields_built
    (h : buildProviderConfigSettings cipher iv now current nextSettings nextSecrets = .ok stored) :
    publicFields stored = nextPublicSettings current nextSettings := by
  obtain ⟨opened, _, free, _, rfl⟩ := buildProviderConfigSettings_ok_iff.mp h
  rw [publicFields_filled, publicFields_storeSecrets,
    publicFields_eq_self (free_nextPublicSettings free)]

theorem resolve_built
    (h : buildProviderConfigSettings cipher iv now current nextSettings nextSecrets = .ok stored) :
    ∃ resolved, resolveProviderConfigSettings (decryptSecrets cipher) stored = .ok resolved := by
  obtain ⟨opened, opens, free, _, rfl⟩ := buildProviderConfigSettings_ok_iff.mp h
  have stored_free : PublicSettings (some (nextPublicSettings current nextSettings)) :=
    free_nextPublicSettings free
  exact ⟨_, resolve_storeSecrets cipher iv now stored_free
    (plain_nextSecretTexts opens nextSecrets)⟩

theorem secretMeta_built {iv' : String} {stored' : Option Fields}
    {nextSecrets' : Option (Option Fields)} (keys : secretKeys nextSecrets = secretKeys nextSecrets')
    (h : buildProviderConfigSettings cipher iv now current nextSettings nextSecrets = .ok stored)
    (h' : buildProviderConfigSettings cipher iv' now current nextSettings nextSecrets' = .ok stored') :
    resolvedSecretMeta stored = resolvedSecretMeta stored' := by
  obtain ⟨opened, opens, free, _, rfl⟩ := buildProviderConfigSettings_ok_iff.mp h
  obtain ⟨opened', opens', _, _, rfl⟩ := buildProviderConfigSettings_ok_iff.mp h'
  obtain rfl := Except.ok.inj (opens.symm.trans opens')
  have same := keys_nextSecretTexts opened keys
  rw [resolvedSecretMeta_storeSecrets cipher iv now (free_nextPublicSettings free),
    resolvedSecretMeta_storeSecrets cipher iv' now (free_nextPublicSettings free)]
  have empty : nextSecretTexts opened nextSecrets = [] ↔ nextSecretTexts opened nextSecrets' = [] := by
    rw [← map_eq_nil_iff (f := Prod.fst), same, map_eq_nil_iff]
  by_cases none : nextSecretTexts opened nextSecrets = []
  · rw [if_pos none, if_pos (empty.mp none)]
  · rw [if_neg none, if_neg fun none' => none (empty.mpr none'), secretMeta, secretMeta, same]

end

end Exetron.Payments
