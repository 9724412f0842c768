import Exetron.Replenishment.Connectors
import Exetron.Replenishment.Jobs

/-!
# Connector runtime

What a connector's manifest says of its transport. A field is taken from the manifest's transport,
from its runtime, from the provider adapter the manifest names and from the profile, in this order.
-/

namespace Exetron.Replenishment

open Lib

inductive InventorySupplierTransportMode where
  | simulated | webhook | fileImport | httpPush
  deriving DecidableEq

def InventorySupplierTransportMode.text : InventorySupplierTransportMode → String
  | .simulated => "SIMULATED"
  | .webhook => "WEBHOOK"
  | .fileImport => "FILE_IMPORT"
  | .httpPush => "HTTP_PUSH"

structure InventorySupplierProviderProfile where
  key : String
  transport : InventoryRecord

structure InventorySupplierProviderAdapter where
  (key providerProfileKey : String)
  transport : InventoryRecord
  externalReferencePrefix : Option String := none
  fileNamePrefix : Option String := none

def codes (statusCodes : List Nat) : Json := .arr (statusCodes.map Json.ofNat)

def httpPushStandard : InventorySupplierProviderProfile where
  key := "HTTP_PUSH_STANDARD"
  transport :=
    [("mode", .str "HTTP_PUSH"),
      ("method", .str "POST"),
      ("acceptedStatusCodes", codes [200, 201, 202]),
      ("responseStatusField", .str "state"),
      ("responseStatusMap", .obj
        [("200", .str "ACKNOWLEDGED"), ("201", .str "ACKNOWLEDGED"), ("202", .str "ACKNOWLEDGED")]),
      ("allowsPolling", .bool true),
      ("auth", .obj
        [("kind", .str "HEADER"), ("headerName", .str "x-supplier-auth"), ("prefix", .str "Token")]),
      ("retryPolicy", .obj
        [("enabled", .bool true),
          ("strategy", .str "FIXED"),
          ("initialDelayMs", .num 30000),
          ("maxDelayMs", .num 30000),
          ("maxAttempts", .num 3),
          ("retryableHttpStatusCodes", codes [408, 425, 429, 500, 502, 503, 504]),
          ("retryOnNetworkError", .bool true),
          ("deadLetterStatus", .str "DEAD_LETTERED")])]

def fileDropStandard : InventorySupplierProviderProfile where
  key := "FILE_DROP_STANDARD"
  transport :=
    [("mode", .str "FILE_IMPORT"),
      ("importFormat", .str "json"),
      ("pickupPath", .str "/inventory/replenishment-jobs/:jobId/supplier-file-pickup"),
      ("dropPath", .str "/inventory/replenishment-jobs/:jobId/supplier-file-drop"),
      ("requireChecksum", .bool true),
      ("allowsPolling", .bool false)]

def webhookSignedStandard : InventorySupplierProviderProfile where
  key := "WEBHOOK_SIGNED_STANDARD"
  transport :=
    [("mode", .str "WEBHOOK"),
      ("requireSignature", .bool true),
      ("allowsPolling", .bool false)]

def providerProfiles : List InventorySupplierProviderProfile :=
  [httpPushStandard, fileDropStandard, webhookSignedStandard]

def freshlaneHttpV1 : InventorySupplierProviderAdapter where
  key := "FRESHLANE_HTTP_V1"
  providerProfileKey := "HTTP_PUSH_STANDARD"
  transport :=
    [("method", .str "POST"),
      ("acceptedStatusCodes", codes [200, 202]),
      ("responseStatusField", .str "freshlaneStatus"),
      ("responseStatusMap", .obj
        [("QUEUED", .str "ACKNOWLEDGED"),
          ("ACKNOWLEDGED", .str "ACKNOWLEDGED"),
          ("IN_TRANSIT", .str "IN_TRANSIT"),
          ("DELIVERED", .str "DELIVERED")]),
      ("auth", .obj [("kind", .str "BEARER"), ("prefix", .str "Bearer")]),
      ("retryPolicy", .obj
        [("enabled", .bool true),
          ("strategy", .str "FIXED"),
          ("initialDelayMs", .num 15000),
          ("maxDelayMs", .num 30000),
          ("maxAttempts", .num 4),
          ("retryableHttpStatusCodes", codes [408, 425, 429, 500, 502, 503, 504]),
          ("retryOnNetworkError", .bool true),
          ("deadLetterStatus", .str "DEAD_LETTERED")])]
  externalReferencePrefix := some "freshlane"
  fileNamePrefix := some "freshlane-order"

def waredropFileV1 : InventorySupplierProviderAdapter where
  key := "WAREDROP_FILE_V1"
  providerProfileKey := "FILE_DROP_STANDARD"
  transport :=
    [("importFormat", .str "json"),
      ("pickupPath", .str "/inventory/replenishment-jobs/:jobId/provider-files/waredrop/pickup"),
      ("dropPath", .str "/inventory/replenishment-jobs/:jobId/provider-files/waredrop/drop"),
      ("requireChecksum", .bool true),
      ("allowsPolling", .bool false)]
  externalReferencePrefix := some "waredrop"
  fileNamePrefix := some "waredrop-batch"

def signalWebhookV1 : InventorySupplierProviderAdapter where
  key := "SIGNAL_WEBHOOK_V1"
  providerProfileKey := "WEBHOOK_SIGNED_STANDARD"
  transport := [("requireSignature", .bool true), ("allowsPolling", .bool false)]
  externalReferencePrefix := some "signal"

def providerAdapters : List InventorySupplierProviderAdapter :=
  [freshlaneHttpV1, waredropFileV1, signalWebhookV1]

def providerKey (key : Option String) : String :=
  ((key.map fun key => Text.toUpperCase (Text.trim key)).getD "")

def resolveInventorySupplierProviderAdapter (key : Option String) :
    Option InventorySupplierProviderAdapter :=
  providerAdapters.find? fun item => item.key = providerKey key

def resolveInventorySupplierProviderProfile (key : Option String) :
    Option InventorySupplierProviderProfile :=
  providerProfiles.find? fun item => item.key = providerKey key

inductive SupplierAuthKind where
  | bearer | header
  deriving DecidableEq

structure SupplierAuth where
  kind : SupplierAuthKind
  headerName : String
  (headerPrefix secretKey : Option String)

inductive RetryStrategy where
  | fixed | exponential
  deriving DecidableEq

structure SupplierRetryPolicy where
  enabled : Bool
  strategy : RetryStrategy
  (initialDelayMs maxDelayMs maxAttempts : ℚ)
  retryableHttpStatusCodes : List Nat
  retryOnNetworkError : Bool
  deadLetterStatus : String
  deriving DecidableEq

structure SupplierConnectorRuntime where
  mode : InventorySupplierTransportMode
  providerAdapter : Option InventorySupplierProviderAdapter
  (importFormat pickupPath dropPath endpoint method : Option String)
  acceptedStatusCodes : List Nat
  responseStatusField : Option String
  responseStatusMap : InventoryRecord
  auth : Option SupplierAuth
  (allowsPolling requireSignature : Bool)
  secretKey : Option String
  requireChecksum : Bool
  replayWindowSize : ℚ
  retryPolicy : Option SupplierRetryPolicy

/-- `a.key ?? b.key ?? …`. -/
def firstPresent (sources : List InventoryRecord) (key : String) : Option Json :=
  sources.findSome? fun source => Json.present (source.get key)

def recordAt (source : InventoryRecord) (key : String) : InventoryRecord := asRecord (source.get key)

/-- `source.key ?? source.other`. -/
def recordAtOr (source : InventoryRecord) (key other : String) : InventoryRecord :=
  asRecord ((Json.present (source.get key)).or (source.get other))

def isTrueIn (sources : List InventoryRecord) (key : String) : Bool :=
  sources.any fun source => match source.get key with
    | some (.bool b) => b
    | _ => false

def clamp (lo hi x : ℚ) : ℚ := max lo (min hi x)

def statusCodesOf (items : List Json) : List Nat :=
  (items.filterMap fun item => (number? item).bind fun n =>
    if n.den = 1 ∧ 100 ≤ n ∧ n ≤ 599 then some n.num.toNat else none).take 20

def orDefault (statusCodes fallback : List Nat) : List Nat :=
  if statusCodes = [] then fallback else statusCodes

def isSetTo (b : Bool) : Option Json → Bool
  | some (.bool b') => b' = b
  | _ => false

def transportMode (source : Option Json) : InventorySupplierTransportMode :=
  match Text.toUpperCase (Text.trim ((source.map Json.toText).getD "SIMULATED")) with
  | "WEBHOOK" => .webhook
  | "FILE_IMPORT" => .fileImport
  | "HTTP_PUSH" => .httpPush
  | _ => .simulated

/-- `String(auth.key ?? fallback).trim() || rest`. -/
def authText (auth : InventoryRecord) (key fallback : String) : String :=
  Text.trim (Json.orElse (auth.get key) (.str fallback)).toText

def resolveAuth (auth : InventoryRecord) : Option SupplierAuth :=
  match Text.toUpperCase (authText auth "kind" "") with
  | "BEARER" => some
      { kind := .bearer
        headerName := "authorization"
        headerPrefix := some (Text.orElse (authText auth "prefix" "Bearer") "Bearer")
        secretKey := filledTextOf (auth.get "secretKey") }
  | "HEADER" => some
      { kind := .header
        headerName :=
          Text.orElse (Text.toLowerCase (authText auth "headerName" "x-api-key")) "x-api-key"
        headerPrefix := filled (some (authText auth "prefix" ""))
        secretKey := filledTextOf (auth.get "secretKey") }
  | _ => none

def resolveInitialDelay (retryPolicy : InventoryRecord) : ℚ :=
  let input : Option ℚ := match Json.present (retryPolicy.get "initialDelayMs") with
    | some value => number? value
    | none => match Json.present (retryPolicy.get "retryDelayMinutes") with
      | some minutes => (number? minutes).map (· * 60 * 1000)
      | none => some 30000
  clamp 0 3600000 (input.getD 30000)

def resolveRetryPolicy (retryPolicy : InventoryRecord) : SupplierRetryPolicy :=
  let initialDelayMs := resolveInitialDelay retryPolicy
  let retryable := match retryPolicy.get "retryableHttpStatusCodes" with
    | some (.arr items) => statusCodesOf items
    | _ => match retryPolicy.get "retryableStatusCodes" with
      | some (.arr items) => statusCodesOf items
      | _ => []
  { enabled := isSetTo true (retryPolicy.get "enabled") || isSetTo true (retryPolicy.get "autoQueue")
    strategy :=
      if Text.toUpperCase (authText retryPolicy "strategy" "FIXED") = "EXPONENTIAL" then .exponential
      else .fixed
    initialDelayMs
    maxDelayMs := max (if initialDelayMs = 0 then 1000 else initialDelayMs)
      (min 3600000 (numberOr (retryPolicy.get "maxDelayMs")
        (if initialDelayMs = 0 then 30000 else initialDelayMs)))
    maxAttempts := clamp 1 20 (numberOr (retryPolicy.get "maxAttempts") 3)
    retryableHttpStatusCodes := orDefault retryable [408, 425, 429, 500, 502, 503, 504]
    retryOnNetworkError := !isSetTo false (retryPolicy.get "retryOnNetworkError")
    deadLetterStatus := (filledTextOf (retryPolicy.get "deadLetterStatus")).getD "DEAD_LETTER" }

def resolveSupplierConnectorRuntime (connector : IntegrationRegistryEntry) :
    SupplierConnectorRuntime :=
  let manifest := asRecord (some connector.manifest)
  let runtime := recordAt manifest "runtime"
  let transport := recordAt runtime "transport"
  let provider := recordAt manifest "provider"
  let providerAdapter := resolveInventorySupplierProviderAdapter
    (textOf ((firstPresent [transport, runtime] "providerAdapter").or
      ((firstPresent [provider] "adapter").or (manifest.get "providerAdapter"))))
  let providerProfile := resolveInventorySupplierProviderProfile
    (textOf ((firstPresent [transport, runtime] "providerProfile").or
      ((firstPresent [provider] "profile").or ((firstPresent [manifest] "providerProfile").or
        (providerAdapter.map fun adapter => .str adapter.providerProfileKey)))))
  let adapterTransport := (providerAdapter.map (·.transport)).getD []
  let profileTransport := (providerProfile.map (·.transport)).getD []
  let sources := [transport, runtime, adapterTransport, profileTransport]
  let mode := transportMode (firstPresent sources "mode")
  let inMode {α : Type} (m : InventorySupplierTransportMode) (value : α) : Option α :=
    if mode = m then some value else none
  let textIn (key fallback : String) : String :=
    (((firstPresent sources key).map Json.toText).getD fallback)
  let merged (key : String) : InventoryRecord :=
    (((recordAt profileTransport key).spread (recordAt adapterTransport key)).spread
      (recordAt runtime key)).spread (recordAt transport key)
  let accepted := (sources.findSome? fun source => match source.get "acceptedStatusCodes" with
    | some (.arr items) => some (statusCodesOf items)
    | _ => none).getD []
  { mode
    providerAdapter
    importFormat := inMode .fileImport (Text.toLowerCase (Text.trim (textIn "importFormat" "json")))
    pickupPath := inMode .fileImport
      (textIn "pickupPath" "/inventory/replenishment-jobs/:jobId/supplier-file-pickup")
    dropPath := inMode .fileImport
      (textIn "dropPath" "/inventory/replenishment-jobs/:jobId/supplier-file-drop")
    endpoint := (inMode .httpPush
      (((firstPresent [transport, runtime] "endpoint").map Json.toText).getD "")).bind
        fun endpoint => filled (some endpoint)
    method := inMode .httpPush (Text.toUpperCase (Text.trim (textIn "method" "POST")))
    acceptedStatusCodes :=
      orDefault (if mode = .httpPush then accepted else []) [200, 201, 202, 204]
    responseStatusField := inMode .httpPush
      (Text.orElse (Text.trim (textIn "responseStatusField" "supplierStatus")) "supplierStatus")
    responseStatusMap := if mode = .httpPush then
        (merged "responseStatusMap").filterMap fun field => (filledTextOf (some field.2)).map
          fun status => (field.1, .str (Text.toUpperCase status))
      else []
    auth := if mode = .httpPush then resolveAuth (merged "auth") else none
    allowsPolling := decide (mode = .simulated) || match firstPresent sources "allowsPolling" with
      | some (.bool b) => b
      | _ => decide (mode = .httpPush)
    requireSignature := mode = .webhook ∧ isTrueIn sources "requireSignature"
    secretKey := filledTextOf (firstPresent [transport, runtime] "secretKey")
    requireChecksum := mode = .fileImport ∧ isTrueIn sources "requireChecksum"
    replayWindowSize :=
      clamp 1 50 (numberOr (firstPresent [transport, runtime] "replayWindowSize") 20)
    retryPolicy := if mode = .httpPush then
        some (resolveRetryPolicy ((((recordAt profileTransport "retryPolicy").spread
          (recordAt adapterTransport "retryPolicy")).spread
            (recordAtOr runtime "retryPolicy" "retry")).spread
              (recordAtOr transport "retryPolicy" "retry")))
      else none }

end Exetron.Replenishment
