import Exetron.Types

/-!
# Payment adapters

`payment-adapter.util.ts`, the simulation of `payment-runtime.util.ts` and the reading side of
`provider-config-secrets.util.ts`. Time and randomness are arguments, and decryption is a
parameter.
-/

namespace Exetron.Payments

/-- A `Json` column or request field that holds an object. -/
abbrev Fields := List (String × Json)

def readField (key : String) (fields : Option Fields) : Option Json :=
  (fields.map Json.obj).bind (Json.get? key)

inductive ExecutionMode where
  | sync
  | webhook
  deriving DecidableEq

inductive ExecutionOutcome where
  | pending
  | succeeded
  | failed
  deriving DecidableEq

structure PaymentAdapterConfig where
  providerKey : String
  providerType : PaymentProviderType
  method : PaymentMethodKind
  settings : Option Fields
  secrets : Option (List (String × String))

structure PaymentAdapterExecutionResult where
  executionMode : ExecutionMode
  status : ExecutionOutcome
  (externalReference errorCode errorMessage : Option String)
  deriving DecidableEq

def resolveAdapterMode (settings : Option Fields) : ExecutionMode :=
  let raw := Text.toUpperCase
    (Text.trim (Json.orElse (readField "adapterMode" settings) (.str "")).toText)
  if raw = "WEBHOOK" ∨ raw = "ASYNC" then .webhook else .sync

/-- `random` is the slice of `Math.random().toString(36)`. -/
def buildExternalReference (now : Instant) (random : String) (pre : String) : String :=
  pre ++ "-" ++ toString now ++ "-" ++ random

/-- A setting on which a string method is called: anything but a text is a `TypeError`. -/
def textSetting (key : String) (settings : Option Fields) : Except ApiException (Option String) :=
  match Json.orElse (readField key settings) .null with
  | .null => .ok none
  | .str s => .ok (some s)
  | _ => .error .typeError

def simulateProviderResult (now : Instant) (config : PaymentAdapterConfig) :
    Except ApiException PaymentAdapterExecutionResult := do
  let simulateResult ← textSetting "simulateResult" config.settings
  let simulateResult := (simulateResult.map Text.toLowerCase).getD "success"
  if simulateResult = "failed" ∨ simulateResult = "failure" ∨ simulateResult = "error" then
    let failureCode ← textSetting "failureCode" config.settings
    let failureMessage ← textSetting "failureMessage" config.settings
    pure {
      executionMode := .sync
      status := .failed
      externalReference := none
      errorCode := some (failureCode.getD "SIMULATED_FAILURE")
      errorMessage :=
        some (failureMessage.getD (config.method.text ++ " payment failed in simulation mode.")) }
  else
    let pre ← textSetting "externalReferencePrefix" config.settings
    let pre := Text.orElse ((pre.map Text.trim).getD "") config.providerKey
    pure {
      executionMode := .sync
      status := .succeeded
      externalReference := some (pre ++ "-" ++ toString now)
      errorCode := none
      errorMessage := none }

def executePaymentProviderAttempt (now : Instant) (random : String)
    (config : PaymentAdapterConfig) : Except ApiException PaymentAdapterExecutionResult :=
  match resolveAdapterMode config.settings with
  | .webhook => .ok {
      executionMode := .webhook
      status := .pending
      externalReference := some (buildExternalReference now random config.providerKey)
      errorCode := none
      errorMessage := none }
  | .sync => simulateProviderResult now config

def executePaymentOperation (now : Instant) (random : String) (config : PaymentAdapterConfig)
    (kind : PaymentOperationKind) (_amount : Money) :
    Except ApiException PaymentAdapterExecutionResult :=
  let pre := config.providerKey ++ "-" ++ Text.toLowerCase kind.text
  match resolveAdapterMode config.settings with
  | .webhook => .ok {
      executionMode := .webhook
      status := .pending
      externalReference := some (buildExternalReference now random pre)
      errorCode := none
      errorMessage := none }
  | .sync => .ok {
      executionMode := .sync
      status := .succeeded
      externalReference := some (buildExternalReference now random pre)
      errorCode := none
      errorMessage := none }

inductive WebhookOutcome where
  | succeeded
  | failed
  deriving DecidableEq

inductive WebhookEntity where
  | paymentAttempt
  | paymentOperation
  deriving DecidableEq

structure PaymentWebhookResolution where
  signatureValid : Bool
  externalReference : Option String
  outcome : WebhookOutcome
  (errorCode errorMessage : Option String)
  entityType : WebhookEntity

def resolvePaymentWebhook (config : PaymentAdapterConfig) (signature : Option String)
    (payload : Fields) : PaymentWebhookResolution :=
  let secret := match (config.secrets.getD []).find? fun entry => entry.1 = "webhookSecret" with
    | some entry => .str entry.2
    | none => Json.orElse (readField "webhookSecret" config.settings) .null
  let signatureValid := !Json.isTruthy (some secret) || signature.any (secret.asString? = some ·)
  let token key fallback :=
    Text.toUpperCase (Json.orElse (readField key (some payload)) (.str fallback)).toText
  { signatureValid
    externalReference := (readField "externalReference" (some payload)).bind Json.asString?
    outcome := if token "outcome" "SUCCEEDED" = "FAILED" then .failed else .succeeded
    errorCode := (readField "errorCode" (some payload)).bind Json.asString?
    errorMessage := (readField "errorMessage" (some payload)).bind Json.asString?
    entityType :=
      if token "entityType" "PAYMENT_ATTEMPT" = "PAYMENT_OPERATION" then .paymentOperation
      else .paymentAttempt }

structure ResolvedProviderConfigSettings where
  publicSettings : Option Fields
  resolvedSecrets : Option (List (String × String))

def resolveProviderConfigSettings
    (decryptSecrets : Json → Except ApiException (List (String × String)))
    (storedSettings : Option Fields) : Except ApiException ResolvedProviderConfigSettings :=
  match storedSettings with
  | none => .ok ⟨none, none⟩
  | some stored => do
    let envelope := readField "__secretEnvelope" (some stored)
    let next := stored.filter fun field =>
      field.1 ≠ "__secretEnvelope" ∧ field.1 ≠ "__secretMeta"
    let resolvedSecrets ←
      match envelope with
      | some value => if Json.isTruthy envelope then (decryptSecrets value).map some else .ok none
      | none => .ok none
    pure ⟨if next = [] then none else some next, resolvedSecrets⟩

end Exetron.Payments
