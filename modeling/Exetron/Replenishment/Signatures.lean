import Exetron.Localization.Locales
import Exetron.Replenishment.Checksums

/-!
# What a signature binds

The signature of a webhook callback is computed over its delivery id, status, reference, event type
and payload, and is looked at only when the delivery is a new one. It determines these, but not the
job that the callback is sent to.
-/

namespace Exetron.Replenishment

open Lib Inventory.Service InventoryReplenishmentJob List

/-- What a callback says, as it is signed. -/
structure SignedContent where
  deliveryId : String
  supplierStatus : SupplierStatus
  (externalReference eventType : Option String)
  payload : Option InventoryRecord

def ProcessWebhookDto.content (input : ProcessWebhookDto) : SignedContent where
  deliveryId := Text.trim input.deliveryId
  supplierStatus := input.supplierStatus
  externalReference := filled input.externalReference
  eventType := filled input.eventType
  payload := input.payload

theorem content_of_verificationPayload {input input' : ProcessWebhookDto}
    (same : buildSupplierWebhookVerificationPayload input =
      buildSupplierWebhookVerificationPayload input') : input.content = input'.content := by
  have fields := Json.stringify_injective same
  simp only [Json.obj.injEq, cons.injEq, Prod.mk.injEq, Json.str.injEq, true_and, and_true]
    at fields
  obtain ⟨deliveryId, status, reference, eventType, payload⟩ := fields
  have payload := ofOption_injective (fun _ _ same => by injection same) (fun _ => by simp) payload
  rw [ProcessWebhookDto.content, ProcessWebhookDto.content, deliveryId,
    SupplierStatus.text_injective status, ofText_injective reference, ofText_injective eventType,
    payload]

theorem verificationPayload_of_content {input input' : ProcessWebhookDto}
    (same : input.content = input'.content) : buildSupplierWebhookVerificationPayload input =
      buildSupplierWebhookVerificationPayload input' := by
  simp only [ProcessWebhookDto.content, SignedContent.mk.injEq] at same
  obtain ⟨deliveryId, status, reference, eventType, payload⟩ := same
  rw [buildSupplierWebhookVerificationPayload, buildSupplierWebhookVerificationPayload, deliveryId,
    status, reference, eventType, payload]

theorem hexBytes_of_verified {expected actual : String}
    (verified : verifyHexHmac expected actual = .ok true) :
    hexBytes actual.toList = hexBytes expected.toList := by
  unfold verifyHexHmac at verified
  split at verified
  · cases verified
  · simp only at verified
    split at verified
    · cases verified
    · exact (of_decide_eq_true (Except.ok.inj verified)).symm

theorem verifyHexHmac_self {signature : String} (present : signature ≠ "") :
    verifyHexHmac signature signature = .ok true := by
  simp [verifyHexHmac, present]

/-- A callback that the service answers without an error, at a connector that requires signatures,
where texts are signed by `createHmac`. -/
structure AnsweredCallback (createHmac : String → String → String) where
  env : SupplierEnv
  context : RequestContext
  input : ProcessWebhookDto
  job : InventoryReplenishmentJob
  runtime : SupplierConnectorRuntime
  reception : Reception WebhookAcceptance
  signs : env.createHmac = createHmac
  received : receiveWebhook env context input job = .ok (runtime, reception)
  answered : ∀ failure, reception ≠ .failed failure
  requires : runtime.requireSignature = true

namespace AnsweredCallback

variable {createHmac : String → String → String}

def secret (a : AnsweredCallback createHmac) : Option String :=
  a.runtime.secretKey.bind fun key =>
    (resolveSupplierConnectorSecretTx a.env a.job.tenantId key).map SupplierSecret.value

def signature (a : AnsweredCallback createHmac) : Option (List Nat) :=
  (filled a.input.signature).map fun text => hexBytes text.toList

def Repeats (a : AnsweredCallback createHmac) : Prop := a.reception = .duplicate

def SameSecret (a b : AnsweredCallback createHmac) : Prop :=
  ∃ secret ∈ a.secret, secret ∈ b.secret

def SameSignature (a b : AnsweredCallback createHmac) : Prop :=
  (∃ value ∈ a.signature, value ∈ b.signature) ∧ a.SameSecret b

def SameCallback (a b : AnsweredCallback createHmac) : Prop :=
  a.job.id = b.job.id ∧ a.input.content = b.input.content

theorem SameSignature.symm {a b : AnsweredCallback createHmac} (same : a.SameSignature b) :
    b.SameSignature a := by
  obtain ⟨⟨value, left, right⟩, secret, mine, yours⟩ := same
  exact ⟨⟨value, right, left⟩, secret, yours, mine⟩

theorem SameCallback.symm {a b : AnsweredCallback createHmac} (same : a.SameCallback b) :
    b.SameCallback a := ⟨same.1.symm, same.2.symm⟩

theorem signature_eq (a : AnsweredCallback createHmac) (new : ¬a.Repeats) :
    ∃ secret ∈ a.secret, a.signature = some (hexBytes
      (createHmac secret (buildSupplierWebhookVerificationPayload a.input)).toList) := by
  have received := a.received
  simp only [receiveWebhook, except_bind_ok_iff] at received
  obtain ⟨_, _, ⟨connector, runtime⟩, _, _, _, _, _, reception⟩ := received
  split at reception
  · exact absurd (Prod.mk.inj (except_pure_ok_iff.mp reception)).2.symm new
  · split at reception
    · exact absurd (Prod.mk.inj (except_pure_ok_iff.mp reception)).2.symm (a.answered _)
    · obtain ⟨taken, verified, is⟩ := except_bind_ok_iff.mp reception
      obtain ⟨rfl, rfl⟩ := Prod.mk.inj (except_pure_ok_iff.mp is)
      rw [verifyWebhook, if_pos a.requires] at verified
      simp only [except_bind_ok_iff, required_ok_iff] at verified
      obtain ⟨secretKey, keyed, secret, found, verified⟩ := verified
      cases given : filled a.input.signature with
      | none =>
        rw [given] at verified
        exact absurd (except_pure_ok_iff.mp verified).symm (a.answered _)
      | some signature =>
        rw [given] at verified
        obtain ⟨agrees, compared, verdict⟩ := except_bind_ok_iff.mp verified
        cases agrees with
        | false => exact absurd (except_pure_ok_iff.mp verdict).symm (a.answered _)
        | true =>
          refine ⟨secret.value, ?_, ?_⟩
          · rw [AnsweredCallback.secret, keyed, Option.bind_some, found]
            rfl
          · rw [AnsweredCallback.signature, given, Option.map_some,
              hexBytes_of_verified compared, a.signs]

end AnsweredCallback

def SignaturesBind {createHmac : String → String → String}
    (calls : Set (AnsweredCallback createHmac)) : Prop :=
  ∀ a ∈ calls, ∀ b ∈ calls, a.SameSignature b → a.SameCallback b

/-- What a supplier says is about one job, and a repeated delivery that brings a signature of
another call repeats that call. -/
structure NamesItsJob {createHmac : String → String → String}
    (calls : Set (AnsweredCallback createHmac)) : Prop where
  jobs : ∀ a ∈ calls, ∀ b ∈ calls, ¬a.Repeats → ¬b.Repeats → a.SameSecret b →
    a.input.content = b.input.content → a.job.id = b.job.id
  repeated : ∀ a ∈ calls, a.Repeats → ∀ b ∈ calls, a.SameSignature b → a.SameCallback b

/-- Signatures bind the callbacks they are accepted with just when what is signed is about one job,
and repeated deliveries bring no signature of another call. The HMAC is taken to be injective. -/
theorem signaturesBind_iff {createHmac : String → String → String}
    (injective : ∀ key, Function.Injective fun text => hexBytes (createHmac key text).toList)
    (calls : Set (AnsweredCallback createHmac)) : SignaturesBind calls ↔ NamesItsJob calls := by
  constructor
  · intro binds
    refine ⟨fun a listed b listed' new new' secrets alike => ?_,
      fun a listed _ b listed' same => binds a listed b listed' same⟩
    obtain ⟨secret, mine, signed⟩ := a.signature_eq new
    obtain ⟨secret', yours, signed'⟩ := b.signature_eq new'
    obtain ⟨shared, left, right⟩ := secrets
    obtain rfl := Option.mem_unique mine left
    obtain rfl := Option.mem_unique yours right
    rw [← verificationPayload_of_content alike] at signed'
    exact (binds a listed b listed' ⟨⟨_, signed, signed'⟩, secret', left, right⟩).1
  · intro names a listed b listed' same
    by_cases again : a.Repeats
    · exact names.repeated a listed again b listed' same
    by_cases again' : b.Repeats
    · exact (names.repeated b listed' again' a listed same.symm).symm
    obtain ⟨secret, mine, signed⟩ := a.signature_eq again
    obtain ⟨secret', yours, signed'⟩ := b.signature_eq again'
    obtain ⟨⟨value, left, right⟩, shared, known, known'⟩ := same
    obtain rfl := Option.mem_unique mine known
    obtain rfl := Option.mem_unique yours known'
    rw [signed] at left
    rw [signed'] at right
    have texts := injective secret' ((Option.some.inj left).trans (Option.some.inj right).symm)
    have alike := content_of_verificationPayload texts
    exact ⟨names.jobs a listed b listed' again again' ⟨secret', known, known'⟩ alike, alike⟩

theorem receiveWebhook_signed {env : SupplierEnv} {context : RequestContext}
    {input : ProcessWebhookDto} {current : InventoryReplenishmentJob} {t : Id}
    {connector : IntegrationRegistryEntry} {runtime : SupplierConnectorRuntime}
    {secretKey signature : String} {secret : SupplierSecret}
    (seen : Inventory.Service.resolveTenantId context current.tenantId = .ok t)
    (found : ∀ missing, connectorOf env current missing = .ok (connector, runtime))
    (mode : runtime.mode = .webhook) (named : Text.trim input.deliveryId ≠ "")
    (fresh : isProcessed current "webhookDeliveries" "deliveryId" (Text.trim input.deliveryId) =
      false)
    (agrees : ¬referencesDiffer current (filled input.externalReference))
    (requires : runtime.requireSignature = true) (keyed : runtime.secretKey = some secretKey)
    (known : resolveSupplierConnectorSecretTx env current.tenantId secretKey = some secret)
    (given : filled input.signature = some signature) (present : signature ≠ "")
    (signed : env.createHmac secret.value (buildSupplierWebhookVerificationPayload input) =
      signature) :
    receiveWebhook env context input current =
      .ok (runtime, .accepted ⟨true, some (secret.key ++ ":" ++ toString secret.id)⟩) := by
  have verified : verifyWebhook env runtime input current =
      .ok (.accepted ⟨true, some (secret.key ++ ":" ++ toString secret.id)⟩) := by
    rw [verifyWebhook, if_pos requires, keyed, given]
    simp only [required, known, signed, verifyHexHmac_self present, bind, Except.bind, pure,
      Except.pure, if_true]
  simp [receiveWebhook, seen, found, mode, named, fresh, agrees, verified, rejectIf, bind,
    Except.bind, pure, Except.pure]

def hexOf (codes : List Nat) : List Char :=
  codes.flatMap fun code => (List.replicate code ['0', '0']).flatten ++ ['0', '1']

def unaryOf : Nat → List Nat → List Nat
  | code, 0 :: bytes => unaryOf (code + 1) bytes
  | code, _ :: bytes => code :: unaryOf 0 bytes
  | _, [] => []

theorem unaryOf_hexOf (codes : List Nat) : unaryOf 0 (hexBytes (hexOf codes)) = codes := by
  have zeros (code start : Nat) (rest : List Char) :
      unaryOf start (hexBytes ((replicate code ['0', '0']).flatten ++ '0' :: '1' :: rest)) =
        (start + code) :: unaryOf 0 (hexBytes rest) := by
    induction code generalizing start with
    | zero => rfl
    | succ code ih =>
      rw [replicate_succ, flatten_cons, Nat.add_comm code, ← Nat.add_assoc]
      exact ih (start + 1)
  induction codes with
  | nil => rfl
  | cons code codes ih =>
    have split : hexOf (code :: codes) =
        (replicate code ['0', '0']).flatten ++ '0' :: '1' :: hexOf codes := by
      simp [hexOf]
    rw [split, zeros, ih, Nat.zero_add]

/-- An injective stand-in for the HMAC: the codes of the secret's and the text's characters. -/
def spelledHmac (key text : String) : String :=
  String.ofList (hexOf ((key ++ text).toList.map Char.toNat))

theorem spelledHmac_injective (key : String) :
    Function.Injective fun text => hexBytes (spelledHmac key text).toList := by
  intro text text' same
  have codes := congrArg (unaryOf 0) same
  simp only [spelledHmac, String.toList_ofList, unaryOf_hexOf] at codes
  have letters := map_injective_iff.mpr (fun _ _ => Char.toNat_inj.mp) codes
  rw [String.toList_append, String.toList_append] at letters
  exact String.toList_injective (append_cancel_left letters)

theorem trim_spelledHmac (key text : String) :
    Text.trim (spelledHmac key text) = spelledHmac key text := by
  have digits : ∀ c ∈ hexOf ((key ++ text).toList.map Char.toNat), Text.isSpace c = false := by
    intro c listed
    obtain ⟨code, -, written⟩ := mem_flatMap.mp listed
    have either : c = '0' ∨ c = '1' := by
      rcases mem_append.mp written with zeros | last
      · obtain ⟨pair, repeated, member⟩ := mem_flatten.mp zeros
        rw [(mem_replicate.mp repeated).2] at member
        exact .inl (by simpa using member)
      · simpa using last
    rcases either with rfl | rfl <;> rfl
  rw [Text.trim_eq_self_iff, spelledHmac, String.toList_ofList]
  exact ⟨fun c first => digits c (mem_of_head? first),
    fun c last => digits c (mem_of_getLast? last)⟩

theorem spelledHmac_ne_empty {key : String} (written : key ≠ "") (text : String) :
    spelledHmac key text ≠ "" := by
  intro empty
  have codes := congrArg (fun signature => unaryOf 0 (hexBytes signature.toList)) empty
  simp only [spelledHmac, String.toList_ofList, unaryOf_hexOf] at codes
  rw [String.toList_append, map_append] at codes
  have none := (append_eq_nil_iff.mp (codes.trans rfl)).1
  exact written (String.toList_injective (map_eq_nil_iff.mp none))

def signedConnector : IntegrationRegistryEntry :=
  ⟨1, none, "signal", "1", "ACTIVE",
    .obj [("runtime", .obj [("transport", .obj
      [("mode", .str "WEBHOOK"), ("requireSignature", .bool true),
        ("secretKey", .str "signing")])])], 1, 1⟩

def signedEnv : SupplierEnv where
  now := 9
  randomUUID := "u"
  integrationRegistry := [signedConnector]
  secretRegistry := [⟨1, "signing", some 7, none, .obj [("value", .str "k")], 1⟩]
  ensureReadyForHandoff _ _ := .ok ()
  canExecute _ _ := .ok ()
  createHmac := spelledHmac
  createHash text := text
  parseJson _ := none
  fetch _ := .failed "fetch failed"

def signedJob (id : Id) : InventoryReplenishmentJob where
  id
  tenantId := 7
  storeId := none
  warehouseId := none
  status := .dispatched
  summary := .null
  artifact := .obj [("workflow", .obj [("supplier", .obj [("connectorKey", .str "signal")])])]
  updatedAt := 5

def unsignedCallback : ProcessWebhookDto where
  deliveryId := "d1"
  supplierStatus := .delivered

def signedCallback : ProcessWebhookDto :=
  { unsignedCallback with
    signature := some (spelledHmac "k" (buildSupplierWebhookVerificationPayload unsignedCallback)) }

theorem signedConnector_found (id : Id) (missing : String) :
    connectorOf signedEnv (signedJob id) missing =
      .ok (signedConnector, resolveSupplierConnectorRuntime signedConnector) := by
  refine connectorOf_ok_iff.mpr ⟨"signal", ?_, ?_, rfl⟩
  · show connectorKeyOf (signedJob 0) = some "signal"
    decide +kernel
  · simp [requireSupplierConnectorTx, candidates, isOffered, signedEnv, signedConnector, signedJob,
      required]

theorem signedCallback_received (id : Id) :
    receiveWebhook signedEnv filesClerk signedCallback (signedJob id) =
      .ok (resolveSupplierConnectorRuntime signedConnector,
        .accepted ⟨true, some ("signing" ++ ":" ++ toString 1)⟩) := by
  have nothing : replayOf (signedJob id) = [] := rfl
  have present : spelledHmac "k" (buildSupplierWebhookVerificationPayload unsignedCallback) ≠ "" :=
    spelledHmac_ne_empty (by decide) _
  have given : filled signedCallback.signature =
      some (spelledHmac "k" (buildSupplierWebhookVerificationPayload unsignedCallback)) := by
    simp only [filled, signedCallback, Option.map_some, trim_spelledHmac]
    exact Option.filter_some_pos (decide_eq_true present)
  have secret : resolveSupplierConnectorSecretTx signedEnv (signedJob id).tenantId "signing" =
      some ⟨1, "signing", "k"⟩ := by
    simp [resolveSupplierConnectorSecretTx, signedEnv, signedJob, asRecord, textOf, Record.get_cons,
      Json.asString?, Option.filter]
  exact receiveWebhook_signed (t := 7) rfl (signedConnector_found id) (by decide +kernel)
    (by decide +kernel) (by simp [isProcessed, nothing])
    (by simp [referencesDiffer, signedCallback, unsignedCallback, filled]) (by decide +kernel)
    (by decide +kernel) secret given present
    (congrArg (spelledHmac "k") (verificationPayload_of_content rfl))

def callbackOn (id : Id) : AnsweredCallback spelledHmac where
  env := signedEnv
  context := filesClerk
  input := signedCallback
  job := signedJob id
  runtime := resolveSupplierConnectorRuntime signedConnector
  reception := .accepted ⟨true, some ("signing" ++ ":" ++ toString 1)⟩
  signs := rfl
  received := signedCallback_received id
  answered _ failed := by cases failed
  requires := by decide +kernel

theorem oneJob_bind_iff : SignaturesBind {callbackOn 1} ↔ NamesItsJob {callbackOn 1} :=
  signaturesBind_iff spelledHmac_injective {callbackOn 1}

/-- The callback that was signed for the first job is taken for the second one. -/
theorem twoJobs_not_bound : ¬∀ createHmac : String → String → String,
    (∀ key, Function.Injective fun text => hexBytes (createHmac key text).toList) →
      ∀ calls : Set (AnsweredCallback createHmac), SignaturesBind calls := by
  intro always
  have binds := always spelledHmac spelledHmac_injective {callbackOn 1, callbackOn 2}
  obtain ⟨secret, known, signed⟩ := (callbackOn 1).signature_eq (fun again => by cases again)
  have same : (callbackOn 1).SameSignature (callbackOn 2) :=
    ⟨⟨_, signed, signed⟩, secret, known, known⟩
  have ids := (binds _ (.inl rfl) _ (.inr rfl) same).1
  exact absurd ids (by decide)

end Exetron.Replenishment
