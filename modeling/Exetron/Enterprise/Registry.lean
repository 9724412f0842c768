import Exetron.Enterprise.Values

/-!
# The integration registry

The registry entries, connector templates, partner contracts and secrets of the service, and what
it derives from them for a publication: the developer package and its docs, the policy of the
distribution and the key that signs a release.
-/

namespace Exetron.Enterprise

open Lib
open Customization (Fields)

structure IntegrationRegistryEntry where
  id : Uuid
  (tenantId organizationId : Option Uuid)
  (connectorKey version status : String)
  manifest : Json
  (createdAt updatedAt : Moment)

structure ConnectorTemplate where
  id : Uuid
  (connectorKey version : String)
  manifest : Json
  (createdAt updatedAt : Moment)

structure PartnerSdkContract where
  id : Uuid
  partnerAccountId : Option Uuid
  (key version status : String)
  schema : Json
  (createdAt updatedAt : Moment)

structure SecretRegistryEntry where
  id : Uuid
  (tenantId organizationId : Option Uuid)
  key : String
  valueEnvelope : Json
  createdAt : Moment

structure RegistryDb where
  entries : List IntegrationRegistryEntry
  templates : List ConnectorTemplate
  contracts : List PartnerSdkContract
  secrets : List SecretRegistryEntry

def getIntegrationRegistryEntry (db : RegistryDb) (id : Uuid) :
    Except ApiException IntegrationRegistryEntry :=
  required (Rows.find IntegrationRegistryEntry.id db.entries id)
    (.notFound "Registry entry not found.")

variable (env : EnterpriseEnv)

def datesJson (createdAt updatedAt : Moment) : Fields :=
  [("createdAt", .str (env.toISOString createdAt)), ("updatedAt", .str (env.toISOString updatedAt))]

def IntegrationRegistryEntry.toJson (row : IntegrationRegistryEntry) : Json :=
  .obj ([("id", .str row.id), ("tenantId", jsonText row.tenantId),
    ("organizationId", jsonText row.organizationId), ("connectorKey", .str row.connectorKey),
    ("version", .str row.version), ("status", .str row.status),
    ("manifest", .obj (asObject (some row.manifest)))] ++ datesJson env row.createdAt row.updatedAt)

def ConnectorTemplate.toJson (row : ConnectorTemplate) : Json :=
  .obj ([("id", .str row.id), ("connectorKey", .str row.connectorKey),
    ("version", .str row.version),
    ("manifest", .obj (asObject (some row.manifest)))] ++ datesJson env row.createdAt row.updatedAt)

def PartnerSdkContract.toJson (row : PartnerSdkContract) : Json :=
  .obj ([("id", .str row.id), ("partnerAccountId", jsonText row.partnerAccountId),
    ("key", .str row.key), ("version", .str row.version), ("status", .str row.status),
    ("schema", .obj (asObject (some row.schema)))] ++ datesJson env row.createdAt row.updatedAt)

structure PackageCompatibility where
  templateVersion : Option String
  partnerContractVersions : List String
  rolloutChannel : String
  supportsBackwardCompatibility : Bool

def PackageCompatibility.toJson (compatibility : PackageCompatibility) : Json :=
  .obj [("templateVersion", jsonText compatibility.templateVersion),
    ("partnerContractVersions", .arr (compatibility.partnerContractVersions.map .str)),
    ("rolloutChannel", .str compatibility.rolloutChannel),
    ("supportsBackwardCompatibility", .bool compatibility.supportsBackwardCompatibility)]

structure PackageLifecycle where
  (status deprecationStage : String)
  sunsetAt : Option String

def PackageLifecycle.toJson (lifecycle : PackageLifecycle) : Json :=
  .obj [("status", .str lifecycle.status), ("deprecationStage", .str lifecycle.deprecationStage),
    ("sunsetAt", jsonText lifecycle.sunsetAt)]

structure DeveloperPackage where
  (connectorKey version packageFileName contentType : String)
  compatibility : PackageCompatibility
  lifecycle : PackageLifecycle
  registryEntry : IntegrationRegistryEntry
  connectorTemplate : Option ConnectorTemplate
  partnerSdkContracts : List PartnerSdkContract
  content : String

def packageTemplate (db : RegistryDb) (entry : IntegrationRegistryEntry) :
    Option ConnectorTemplate :=
  let rows := newestFirst ConnectorTemplate.createdAt
    (db.templates.filter fun row => row.connectorKey = entry.connectorKey)
  (rows.find? fun row => row.version = entry.version).or rows.head?

def packageContracts (db : RegistryDb) (entry : IntegrationRegistryEntry) :
    List PartnerSdkContract :=
  let rows := newestFirst PartnerSdkContract.createdAt
    (db.contracts.filter fun row => row.key = entry.connectorKey)
  match rows.filter fun row => row.version = entry.version with
  | [] => rows.head?.toList
  | selected => selected

/-- `asObject(manifest.compatibility).rolloutChannel ?? lifecycle.rolloutChannel ?? "general"`. -/
def rolloutChannel (manifest : Fields) : String :=
  let compatibility := asObject (Record.get manifest "compatibility")
  let lifecycle := asObject (Record.get manifest "lifecycle")
  textOr ((Json.present (Record.get compatibility "rolloutChannel")).or
    (Record.get lifecycle "rolloutChannel")) "general"

def packageCompatibility (manifest : Fields) (template : Option ConnectorTemplate)
    (contracts : List PartnerSdkContract) : PackageCompatibility where
  templateVersion := template.map (·.version)
  partnerContractVersions := contracts.map (·.version)
  rolloutChannel := rolloutChannel manifest
  supportsBackwardCompatibility :=
    let compatibility := asObject (Record.get manifest "compatibility")
    Json.isTruthy (some (Json.orElse (Record.get compatibility "supportsBackwardCompatibility")
      (.bool true)))

def packageLifecycle (entry : IntegrationRegistryEntry) (manifest : Fields) : PackageLifecycle :=
  let lifecycle := asObject (Record.get manifest "lifecycle")
  { status := entry.status
    deprecationStage := textOr (Record.get lifecycle "deprecationStage")
      (if entry.status = "ARCHIVED" then "archived"
        else if entry.status = "DEPRECATED" then "deprecated" else "active")
    sunsetAt := textIfTruthy (Record.get lifecycle "sunsetAt") }

def packageBundle (entry : IntegrationRegistryEntry) (template : Option ConnectorTemplate)
    (contracts : List PartnerSdkContract) (compatibility : PackageCompatibility)
    (lifecycle : PackageLifecycle) : Json :=
  .obj [("connectorKey", .str entry.connectorKey), ("version", .str entry.version),
    ("registryEntry", entry.toJson env),
    ("connectorTemplate", Json.ofOption (ConnectorTemplate.toJson env) template),
    ("partnerSdkContracts", .arr (contracts.map (PartnerSdkContract.toJson env))),
    ("compatibility", compatibility.toJson), ("lifecycle", lifecycle.toJson)]

def developerPackage (db : RegistryDb) (entry : IntegrationRegistryEntry) : DeveloperPackage :=
  let template := packageTemplate db entry
  let contracts := packageContracts db entry
  let manifest := asObject (some entry.manifest)
  let compatibility := packageCompatibility manifest template contracts
  let lifecycle := packageLifecycle entry manifest
  { connectorKey := entry.connectorKey
    version := entry.version
    packageFileName := entry.connectorKey ++ "-" ++ entry.version ++ "-developer-package.json"
    contentType := "application/json"
    compatibility
    lifecycle
    registryEntry := entry
    connectorTemplate := template
    partnerSdkContracts := contracts
    content := Json.stringifyIndented
      (packageBundle env entry template contracts compatibility lifecycle) }

def getDeveloperPackage (db : RegistryDb) (id : Uuid) : Except ApiException DeveloperPackage :=
  return developerPackage env db (← getIntegrationRegistryEntry db id)

structure DocsSection where
  (title body : String)

structure DeveloperDocs where
  (connectorKey version title summary : String)
  sections : List DocsSection
  markdown : String

def overviewSection (pack : DeveloperPackage) : DocsSection where
  title := "Overview"
  body := "Connector `" ++ pack.connectorKey ++ "` version `" ++ pack.version ++
    "` is published with lifecycle status `" ++ pack.lifecycle.status ++
    "` and rollout channel `" ++ pack.compatibility.rolloutChannel ++ "`."

def compatibilitySection (pack : DeveloperPackage) : DocsSection where
  title := "Compatibility"
  body := "Template version: " ++ pack.compatibility.templateVersion.getD "n/a" ++
    ". Partner contract versions: " ++
    Text.orElse (", ".intercalate pack.compatibility.partnerContractVersions) "none" ++
    ". Backward compatibility: " ++
    (if pack.compatibility.supportsBackwardCompatibility then "supported" else "not guaranteed") ++
    "."

def manifestSection (pack : DeveloperPackage) : DocsSection where
  title := "Manifest"
  body := Json.stringifyIndented (.obj (asObject (some pack.registryEntry.manifest)))

def templateSection (pack : DeveloperPackage) : DocsSection where
  title := "Template"
  body :=
    match pack.connectorTemplate with
    | some template => Json.stringifyIndented (.obj (asObject (some template.manifest)))
    | none => "No connector template is currently published for this registry entry."

def contractText (contract : PartnerSdkContract) : String :=
  "- " ++ contract.key ++ "@" ++ contract.version ++ " [" ++ contract.status ++ "]\n" ++
    Json.stringifyIndented (.obj (asObject (some contract.schema)))

def contractsSection (pack : DeveloperPackage) : DocsSection where
  title := "Partner Contracts"
  body :=
    if pack.partnerSdkContracts = [] then
      "No partner SDK contracts are currently published for this connector."
    else "\n\n".intercalate (pack.partnerSdkContracts.map contractText)

def DocsSection.markdown (part : DocsSection) : String :=
  "## " ++ part.title ++ "\n\n" ++ part.body

def developerDocs (pack : DeveloperPackage) : DeveloperDocs :=
  let sections := [overviewSection pack, compatibilitySection pack, manifestSection pack,
    templateSection pack, contractsSection pack]
  { connectorKey := pack.connectorKey
    version := pack.version
    title := pack.connectorKey ++ " developer docs"
    summary := "Developer-facing package for " ++ pack.connectorKey ++ "@" ++ pack.version
    sections
    markdown := "\n\n".intercalate (sections.map DocsSection.markdown) }

def getDeveloperDocs (db : RegistryDb) (id : Uuid) : Except ApiException DeveloperDocs :=
  return developerDocs (← getDeveloperPackage env db id)

structure SigningSecret where
  id : Uuid
  (key value : String)

def releaseSigningSecretKey : String := "integration.release.signing-key"

def selectSecret (db : RegistryDb) (key : String) (tenantId organizationId : Option Uuid) :
    Option SecretRegistryEntry :=
  let rows := newestFirst SecretRegistryEntry.createdAt (db.secrets.filter fun row => row.key = key)
  ((rows.find? fun row => organizationId.isSome ∧ row.organizationId = organizationId).or
    (rows.find? fun row => tenantId.isSome ∧ row.tenantId = tenantId)).or
    (rows.find? fun row => row.organizationId = none ∧ row.tenantId = none)

def SecretRegistryEntry.signingValue (row : SecretRegistryEntry) : Option String :=
  ((Record.get (asObject (some row.valueEnvelope)) "value").bind Json.asString?).filter
    fun value => value ≠ ""

def resolveReleaseSigningSecret (db : RegistryDb)
    (tenantId organizationId signingKey : Option String) :
    Option SigningSecret := do
  let key := (trimmedOrNull signingKey).getD releaseSigningSecretKey
  let selected ← selectSecret db key tenantId organizationId
  let value ← selected.signingValue
  pure { id := selected.id, key := selected.key, value }

structure DistributionScope where
  (visibility channel : String)
  (hasConnectorTemplate hasVersionScopedPartnerContract signatureAvailable : Bool)

structure DistributionEvaluation where
  (publicAccess signatureRequired : Bool)
  allowedChannels : List String
  channelAllowed : Bool
  (blockingIssues warnings : List String)

def DistributionEvaluation.canPublish (evaluation : DistributionEvaluation) : Bool :=
  evaluation.blockingIssues = []

def allowedChannels (distribution : Fields) : List String :=
  match (Record.get distribution "allowedChannels").bind Json.asArray? with
  | some items => (items.map fun item => Text.trim item.toText).filter fun item => item ≠ ""
  | none => []

/-- `Boolean(distribution.requireSignedPublications ?? fallback)`, where public publications fall
back to a signature. -/
def signatureRequired (distribution : Fields) (visibility : String) : Bool :=
  Json.isTruthy (some (Json.orElse (Record.get distribution "requireSignedPublications")
    (.bool (visibility = "PUBLIC"))))

def evaluateDistributionPolicy (manifest : Fields) (scope : DistributionScope) :
    DistributionEvaluation :=
  let distribution := asObject (Record.get manifest "distribution")
  let allowed := allowedChannels distribution
  let publicAccess := isNotFalse (Record.get distribution "publicAccess")
  let required := signatureRequired distribution scope.visibility
  let channelAllowed : Bool := allowed = [] ∨ scope.channel ∈ allowed
  let blockingIssues :=
    (if scope.hasConnectorTemplate then []
      else ["Connector template for this version is not published."]) ++
    (if scope.visibility = "PUBLIC" ∧ publicAccess = false then
      ["Manifest distribution policy forbids public publication."] else []) ++
    (if channelAllowed then []
      else ["Channel '" ++ scope.channel ++ "' is not allowed by manifest distribution policy."]) ++
    (if required ∧ scope.signatureAvailable = false then
      ["Signed publication is required but no signing key is available."] else [])
  { publicAccess
    signatureRequired := required
    allowedChannels := allowed
    channelAllowed
    blockingIssues
    warnings :=
      if scope.hasVersionScopedPartnerContract then []
      else ["No version-scoped partner SDK contract is published for this connector."] }

structure PublicationReadinessInput where
  (visibility channel signingKey : Option Json)

def getIntegrationPublicationReadiness (db : RegistryDb) (id : Uuid)
    (input : PublicationReadinessInput) : Except ApiException DistributionEvaluation := do
  let entry ← getIntegrationRegistryEntry db id
  let manifest := asObject (some entry.manifest)
  let visibility := env.normalized (textOr input.visibility "PARTNER")
  let channel := Text.trim (textOr input.channel (rolloutChannel manifest))
  let signingSecret := resolveReleaseSigningSecret db entry.tenantId entry.organizationId
    (textIfTruthy input.signingKey)
  pure (evaluateDistributionPolicy manifest
    { visibility
      channel
      hasConnectorTemplate := db.templates.any fun row =>
        row.connectorKey = entry.connectorKey ∧ row.version = entry.version
      hasVersionScopedPartnerContract := db.contracts.any fun row =>
        row.key = entry.connectorKey ∧ row.version = entry.version ∧ row.status ≠ "ARCHIVED"
      signatureAvailable := signingSecret.isSome })

end Exetron.Enterprise
