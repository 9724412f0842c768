import Exetron.Enterprise.Registry

/-!
# Publications

A publication of a registry entry: its artifact and the attestation of it, how the entry is
published and signed again, and what changes the status of a publication.
-/

namespace Exetron.Enterprise

open Lib
open Customization (Fields asRecord?)

variable (env : EnterpriseEnv)

structure PublicationAttestation where
  (algorithm artifactDigest packageDigest docsDigest : String)
  (signatureAlgorithm signature : Option String)
  signatureStatus : String
  keyRef : Option String
  payload : String
  signedAt : Option String

structure PublicationArtifact where
  package : DeveloperPackage
  docs : DeveloperDocs

structure IntegrationPublication where
  (id registryEntryId : Uuid)
  (tenantId organizationId : Option Uuid)
  (connectorKey version visibility channel status packageFileName docsFileName : String)
  artifact : PublicationArtifact
  attestation : PublicationAttestation
  publishedAt : Moment
  revokedAt : Option Moment

structure AttestationInput where
  registryEntryId : Uuid
  (connectorKey version visibility channel packageContent docsContent : String)
  signingSecret : Option SigningSecret
  (publishedAt attestedAt : Moment)

def attestationPayload (input : AttestationInput) : String :=
  Json.stringifyIndented (.obj [("registryEntryId", .str input.registryEntryId),
    ("connectorKey", .str input.connectorKey), ("version", .str input.version),
    ("visibility", .str input.visibility), ("channel", .str input.channel),
    ("packageDigest", .str (env.sha256 input.packageContent)),
    ("docsDigest", .str (env.sha256 input.docsContent)),
    ("publishedAt", .str (env.toISOString input.publishedAt)),
    ("attestedAt", .str (env.toISOString input.attestedAt))])

def SigningSecret.keyRef (secret : SigningSecret) : String := secret.key ++ ":" ++ secret.id

def buildPublicationAttestation (input : AttestationInput) : PublicationAttestation :=
  let payload := attestationPayload env input
  { algorithm := "sha256"
    artifactDigest := env.sha256 payload
    packageDigest := env.sha256 input.packageContent
    docsDigest := env.sha256 input.docsContent
    signatureAlgorithm := input.signingSecret.map fun _ => "hmac-sha256"
    signature := input.signingSecret.map fun secret => env.hmacSha256 secret.value payload
    signatureStatus := if input.signingSecret.isSome then "SIGNED" else "UNSIGNED"
    keyRef := input.signingSecret.map SigningSecret.keyRef
    payload
    signedAt := input.signingSecret.map fun _ => env.toISOString input.attestedAt }

def publishIntegrationRegistryEntry (now : Moment) (db : RegistryDb) (publicationId entryId : Uuid)
    (input : Json) : Except ApiException IntegrationPublication := do
  let entry ← getIntegrationRegistryEntry db entryId
  rejectIf (entry.status = "ARCHIVED")
    (.badRequest "Archived registry entries cannot be published.")
  let pack ← getDeveloperPackage env db entryId
  let docs ← getDeveloperDocs env db entryId
  let signingSecret := resolveReleaseSigningSecret db entry.tenantId entry.organizationId
    (textIfTruthy (input.get? "signingKey"))
  let visibility := env.normalized (textOr (input.get? "visibility") "PARTNER")
  let channel := Text.trim (textOr (input.get? "channel") pack.compatibility.rolloutChannel)
  let readiness ← getIntegrationPublicationReadiness env db entryId
    { visibility := some (.str visibility)
      channel := some (.str channel)
      signingKey := input.get? "signingKey" }
  rejectIf (readiness.canPublish = false) (.badRequest (" ".intercalate readiness.blockingIssues))
  pure
    { id := publicationId
      registryEntryId := entry.id
      tenantId := entry.tenantId
      organizationId := entry.organizationId
      connectorKey := entry.connectorKey
      version := entry.version
      visibility
      channel
      status := env.normalized (textOr (input.get? "status") "PUBLISHED")
      packageFileName := pack.packageFileName
      docsFileName := docs.connectorKey ++ "-" ++ docs.version ++ "-developer-docs.md"
      artifact := { package := pack, docs }
      attestation := buildPublicationAttestation env
        { registryEntryId := entry.id
          connectorKey := entry.connectorKey
          version := entry.version
          visibility
          channel
          packageContent := pack.content
          docsContent := docs.markdown
          signingSecret
          publishedAt := now
          attestedAt := now }
      publishedAt := now
      revokedAt := none }

structure SigningReadiness where
  (signingKeyRef latestAvailableKeyRef : Option String)
  signatureStatus : String
  requiresRotation : Bool
  (blockingIssues warnings : List String)

def SigningReadiness.canReSign (readiness : SigningReadiness) : Bool :=
  readiness.blockingIssues = []

def publicationSigningSecret (db : RegistryDb) (publication : IntegrationPublication)
    (input : Json) : Option SigningSecret :=
  resolveReleaseSigningSecret db publication.tenantId publication.organizationId
    (textIfTruthy (input.get? "signingKey"))

def getIntegrationPublicationSigningReadiness (db : RegistryDb)
    (publication : IntegrationPublication) (input : Json) : SigningReadiness :=
  let signingSecret := publicationSigningSecret db publication input
  let latestKeyRef := signingSecret.map SigningSecret.keyRef
  let attestation := publication.attestation
  { signingKeyRef := attestation.keyRef
    latestAvailableKeyRef := latestKeyRef
    signatureStatus := attestation.signatureStatus
    requiresRotation := signingSecret.isSome ∧
      (attestation.signatureStatus ≠ "SIGNED" ∨ attestation.keyRef ≠ latestKeyRef)
    blockingIssues :=
      if signingSecret.isSome then []
      else ["No signing key is available for this publication scope."]
    warnings :=
      if publication.status = "REVOKED" ∨ publication.status = "ARCHIVED" then
        ["Publication is not active; re-signing only refreshes attestation metadata."]
      else [] }

/-- The date of the publication is read back from its text. -/
def reSigned (now : Moment) (db : RegistryDb) (input : Json)
    (publication : IntegrationPublication) : Except ApiException IntegrationPublication := do
  let readiness := getIntegrationPublicationSigningReadiness db publication input
  rejectIf (readiness.canReSign = false) (.badRequest (" ".intercalate readiness.blockingIssues))
  let signingSecret ← required (publicationSigningSecret db publication input)
    (.badRequest "No signing key is available for this publication scope.")
  pure { publication with
    attestation := buildPublicationAttestation env
      { registryEntryId := publication.registryEntryId
        connectorKey := publication.connectorKey
        version := publication.version
        visibility := publication.visibility
        channel := publication.channel
        packageContent := publication.artifact.package.content
        docsContent := publication.artifact.docs.markdown
        signingSecret := some signingSecret
        publishedAt := publication.publishedAt
        attestedAt := now } }

def publicationNotFound : ApiException := .notFound "Integration publication not found."

def reSignIntegrationPublication (now : Moment) (db : RegistryDb) (id : Uuid) (input : Json)
    (publications : List IntegrationPublication) :
    Except ApiException (IntegrationPublication × List IntegrationPublication) :=
  updateOne IntegrationPublication.id publicationNotFound id (reSigned env now db input)
    publications

def readPublicationStatus (input : Json) : Except ApiException String := do
  let status := Text.trim (textOr (input.get? "status") "")
  rejectIf (status = "") (.badRequest "status is required.")
  pure status

def IntegrationPublication.withStatus (now : Moment) (status : String)
    (current : IntegrationPublication) : IntegrationPublication :=
  { current with
    status
    revokedAt :=
      if status = "REVOKED" ∨ status = "ARCHIVED" then some (current.revokedAt.getD now)
      else current.revokedAt }

def updateIntegrationPublicationStatus (now : Moment) (id : Uuid) (input : Json)
    (publications : List IntegrationPublication) :
    Except ApiException (IntegrationPublication × List IntegrationPublication) := do
  let status ← readPublicationStatus input
  updateOne IntegrationPublication.id publicationNotFound id
    (fun current => pure (current.withStatus now status)) publications

structure PublicationLifecycle where
  deprecationStage : String
  sunsetAt : Option String
  (isSunsetDue canAutoRevoke : Bool)
  recommendedStatus : Option String
  warnings : List String

def PublicationLifecycle.actionRequired (lifecycle : PublicationLifecycle) : Bool :=
  lifecycle.canAutoRevoke

/-- A sunset that is no date has no text either. -/
def readSunset (lifecycle : PackageLifecycle) : Except ApiException (Option Moment) :=
  match lifecycle.sunsetAt with
  | none => .ok none
  | some text => some <$> required (env.parseDate text) .typeError

def getPublicationLifecycleSnapshot (now : Moment) (publication : IntegrationPublication) :
    Except ApiException PublicationLifecycle := do
  let lifecycle := publication.artifact.package.lifecycle
  let deprecationStage := env.lower (Text.trim lifecycle.deprecationStage)
  let ending : Bool := deprecationStage = "sunset" ∨ deprecationStage = "archived"
  let publicationStatus := env.normalized publication.status
  let sunset ← readSunset env lifecycle
  let isSunsetDue := sunset.any fun date => date ≤ now
  let canAutoRevoke : Bool := publicationStatus = "PUBLISHED" ∧ ending ∧ isSunsetDue
  pure
    { deprecationStage
      sunsetAt := sunset.map env.toISOString
      isSunsetDue
      canAutoRevoke
      recommendedStatus := if canAutoRevoke then some "REVOKED" else none
      warnings :=
        (if publicationStatus ≠ "PUBLISHED" then ["Publication is not actively distributed."]
          else []) ++
        (if ending ∧ sunset = none then
          ["Deprecation stage expects a sunsetAt timestamp but none is set."] else []) ++
        (if deprecationStage = "active" then ["Publication lifecycle is still active."] else []) }

def lifecycleApplied (now : Moment) (input : Json) (publication : IntegrationPublication) :
    Except ApiException IntegrationPublication := do
  let lifecycle ← getPublicationLifecycleSnapshot env now publication
  rejectIf (lifecycle.canAutoRevoke = false ∧ isTrue (input.get? "force") = false)
    (.badRequest (if lifecycle.actionRequired then "Publication lifecycle action is not allowed."
      else "No lifecycle action is currently required."))
  let requestedStatus := env.normalized (textOr (input.get? "status") "")
  let nextStatus := lifecycle.recommendedStatus.getD (Text.orElse requestedStatus "REVOKED")
  pure { publication with status := nextStatus, revokedAt := some now }

def applyIntegrationPublicationLifecycle (now : Moment) (id : Uuid) (input : Json)
    (publications : List IntegrationPublication) :
    Except ApiException (IntegrationPublication × List IntegrationPublication) :=
  updateOne IntegrationPublication.id publicationNotFound id (lifecycleApplied env now input)
    publications

def IntegrationPublication.revoke (now : Moment) (publication : IntegrationPublication) :
    IntegrationPublication :=
  { publication with status := "REVOKED", revokedAt := some now }

structure SweptPublications where
  scannedCount : Nat
  dryRun : Bool
  affected : List Uuid

def hasLifecycle (now : Moment) (publication : IntegrationPublication) : Bool :=
  (getPublicationLifecycleSnapshot env now publication).toBool

def isSunset (now : Moment) (publication : IntegrationPublication) : Bool :=
  match getPublicationLifecycleSnapshot env now publication with
  | .ok lifecycle => lifecycle.canAutoRevoke
  | .error _ => false

def sweptPublications (publications : List IntegrationPublication) : List IntegrationPublication :=
  newestFirst IntegrationPublication.publishedAt
    (publications.filter fun publication => publication.status = "PUBLISHED")

def sunsetPublications (now : Moment) (publications : List IntegrationPublication) : List Uuid :=
  (((sweptPublications publications).takeWhile (hasLifecycle env now)).filter
    (isSunset env now)).map (·.id)

def runIntegrationPublicationLifecycleSweep (now : Moment) (input : Json)
    (publications : List IntegrationPublication) :
    Except ApiException SweptPublications × List IntegrationPublication :=
  let dryRun := isNotFalse (input.get? "dryRun")
  let rows := sweptPublications publications
  let affected := sunsetPublications env now publications
  let answer := if rows.all (hasLifecycle env now) then .ok ⟨rows.length, dryRun, affected⟩
    else .error .typeError
  if dryRun then (answer, publications)
  else (answer, Rows.updateWhere (fun row => row.id ∈ affected) (·.revoke now) publications)

end Exetron.Enterprise
