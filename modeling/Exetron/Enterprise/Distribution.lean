import Exetron.Enterprise.Publications

/-!
# Distribution requests

A partner asks for a publication, an administrator decides, and the token of an approved request
opens the publication to its consumer until the grant expires.
-/

namespace Exetron.Enterprise

open Lib

variable (env : EnterpriseEnv)

structure IntegrationDistributionRequest where
  (id publicationId : Uuid)
  (connectorKey version : String)
  requestedChannel : Option String
  (companyName contactName contactEmail status : String)
  accessToken : Option Uuid
  grantedConsumerKey : Option String
  (grantExpiresAt approvedAt revokedAt : Option Moment)
  updatedAt : Moment

def IntegrationPublication.isPublished (publication : IntegrationPublication) : Bool :=
  publication.status = "PUBLISHED" ∧ publication.revokedAt = none

def findPartnerPublication (publications : List IntegrationPublication)
    (connectorKey version : String) : Option IntegrationPublication :=
  (newestFirst IntegrationPublication.publishedAt (publications.filter fun publication =>
    publication.connectorKey = connectorKey ∧ publication.version = version ∧
      publication.visibility = "PARTNER" ∧ publication.isPublished)).head?

def createPublicIntegrationDistributionRequest (now : Moment)
    (publications : List IntegrationPublication) (requestId : Uuid) (connectorKey version : String)
    (input : Json) : Except ApiException IntegrationDistributionRequest := do
  let companyName := Text.trim (textOr (input.get? "companyName") "")
  let contactName := Text.trim (textOr (input.get? "contactName") "")
  let contactEmail := Text.trim (textOr (input.get? "contactEmail") "")
  rejectIf (companyName = "" ∨ contactName = "" ∨ contactEmail = "")
    (.badRequest "companyName, contactName and contactEmail are required.")
  let publication ← required (findPartnerPublication publications connectorKey version)
    (.notFound "Partner publication not found.")
  let requestedChannel :=
    ((textIfTruthy (input.get? "requestedChannel")).map Text.trim).getD publication.channel
  pure
    { id := requestId
      publicationId := publication.id
      connectorKey
      version
      requestedChannel := orNull requestedChannel
      companyName
      contactName
      contactEmail
      status := "PENDING"
      accessToken := none
      grantedConsumerKey := none
      grantExpiresAt := none
      approvedAt := none
      revokedAt := none
      updatedAt := now }

def leadingDigits (chars : List Char) : Option Nat :=
  match chars.takeWhile Char.isDigit with
  | [] => none
  | digits => some (Nat.ofDigitChars 10 digits 0)

/-- `Number.parseInt(text, 10)`; `none` is `NaN`. -/
def parseInt (text : String) : Option Int :=
  match text.toList.dropWhile Text.isSpace with
  | '-' :: chars => (leadingDigits chars).map fun n => -n
  | '+' :: chars => (leadingDigits chars).map fun n => n
  | chars => (leadingDigits chars).map fun n => n

/-- `Number.isFinite` of an integer that was read: the double nearest to it is not infinite. -/
def isFinite (n : Int) : Bool := n.natAbs < 2 ^ 1024 - 2 ^ 970

/-- A moment that a `Date` can hold. -/
def toDate (moment : Moment) : Option Moment :=
  if moment.natAbs ≤ 8640000000000000 then some moment else none

def dayMs : Int := 24 * 60 * 60 * 1000

def readTtlDays (input : Json) : Except ApiException Int :=
  match input.get? "grantTtlDays" with
  | none => .ok 30
  | some value =>
    required ((parseInt value.toText).filter fun n => isFinite n ∧ 0 < n)
      (.badRequest "grantTtlDays must be a positive integer.")

/-- `none` is an expiry that the call leaves open. -/
def readGrantExpiresAt (input : Json) : Except ApiException (Option (Option Moment)) :=
  match input.get? "grantExpiresAt" with
  | none => .ok none
  | some value =>
    if Json.isTruthy (some value) then
      (fun date => some (some date)) <$> required (env.parseDate value.toText)
        (.badRequest "grantExpiresAt must be a valid ISO timestamp.")
    else .ok (some none)

def readGrantedConsumerKey (input : Json) (current : IntegrationDistributionRequest) :
    Option String :=
  match input.get? "grantedConsumerKey" with
  | none => current.grantedConsumerKey
  | some value => orNull (Text.trim (textOr (some value) ""))

def defaultGrantExpiry (now : Moment) (ttlDays : Int) (current : IntegrationDistributionRequest) :
    Except ApiException Moment :=
  match current.grantExpiresAt with
  | some date => .ok date
  | none => required (toDate (now + ttlDays * dayMs)) .typeError

def nextGrantExpiry (now : Moment) (ttlDays : Int) (explicit : Option (Option Moment))
    (current : IntegrationDistributionRequest) : Except ApiException (Option Moment) :=
  match explicit with
  | some date => .ok date
  | none => some <$> defaultGrantExpiry now ttlDays current

/-- `token` is what `randomUUID` would give. -/
def statusDecided (now : Moment) (token : Uuid) (input : Json)
    (current : IntegrationDistributionRequest) :
    Except ApiException IntegrationDistributionRequest := do
  let status := env.normalized (textOr (input.get? "status") "")
  rejectIf (status = "") (.badRequest "status is required.")
  let ttlDays ← readTtlDays input
  let explicitGrantExpiresAt ← readGrantExpiresAt env input
  let decided := { current with
    status
    grantedConsumerKey := readGrantedConsumerKey input current
    updatedAt := now }
  if status = "APPROVED" then do
    let grantExpiresAt ← nextGrantExpiry now ttlDays explicitGrantExpiresAt current
    pure { decided with
      accessToken := some (current.accessToken.getD token)
      grantExpiresAt
      approvedAt := some (current.approvedAt.getD now)
      revokedAt := none }
  else if status = "REVOKED" then
    pure { decided with
      accessToken := none
      approvedAt := none
      revokedAt := some (current.revokedAt.getD now) }
  else pure decided

def distributionRequestNotFound : ApiException :=
  .notFound "Integration distribution request not found."

def updateIntegrationDistributionRequestStatus (now : Moment) (token id : Uuid) (input : Json)
    (requests : List IntegrationDistributionRequest) :
    Except ApiException (IntegrationDistributionRequest × List IntegrationDistributionRequest) :=
  updateOne IntegrationDistributionRequest.id distributionRequestNotFound id
    (statusDecided env now token input) requests

structure RequestGovernance where
  status : String
  (isExpired canAutoRevoke : Bool)
  warnings : List String

def RequestGovernance.actionRequired (readiness : RequestGovernance) : Bool :=
  readiness.canAutoRevoke

def getDistributionRequestGovernanceSnapshot (now : Moment)
    (request : IntegrationDistributionRequest) : RequestGovernance :=
  let status := env.normalized request.status
  let isExpired := request.grantExpiresAt.any fun date => date ≤ now
  { status
    isExpired
    canAutoRevoke := status = "APPROVED" ∧ request.accessToken.any (· ≠ "") ∧ isExpired
    warnings :=
      (if status = "APPROVED" ∧ request.grantExpiresAt = none then
        ["Grant does not expire automatically."] else []) ++
      (if status ≠ "APPROVED" then ["Request is not in APPROVED state."] else []) ++
      (if status = "REVOKED" then ["Grant is already revoked."] else []) }

def IntegrationDistributionRequest.revoke (now : Moment)
    (request : IntegrationDistributionRequest) : IntegrationDistributionRequest :=
  { request with status := "REVOKED", accessToken := none, revokedAt := some now, updatedAt := now }

def governanceApplied (now : Moment) (input : Json) (current : IntegrationDistributionRequest) :
    Except ApiException IntegrationDistributionRequest := do
  let readiness := getDistributionRequestGovernanceSnapshot env now current
  rejectIf (readiness.canAutoRevoke = false ∧ isTrue (input.get? "force") = false)
    (.badRequest (if readiness.actionRequired then
      "Distribution request governance action is not allowed."
      else "No distribution request governance action is currently required."))
  pure (current.revoke now)

def applyIntegrationDistributionRequestGovernance (now : Moment) (id : Uuid) (input : Json)
    (requests : List IntegrationDistributionRequest) :
    Except ApiException (IntegrationDistributionRequest × List IntegrationDistributionRequest) :=
  updateOne IntegrationDistributionRequest.id distributionRequestNotFound id
    (governanceApplied env now input) requests

structure SweptRequests where
  scannedCount : Nat
  dryRun : Bool
  affected : List Uuid

def isGrantExpired (now : Moment) (request : IntegrationDistributionRequest) : Bool :=
  (getDistributionRequestGovernanceSnapshot env now request).canAutoRevoke

def runIntegrationDistributionRequestGovernanceSweep (now : Moment) (input : Json)
    (requests : List IntegrationDistributionRequest) :
    SweptRequests × List IntegrationDistributionRequest :=
  let dryRun := isNotFalse (input.get? "dryRun")
  let rows := newestFirst IntegrationDistributionRequest.updatedAt
    (requests.filter fun request => request.status = "APPROVED")
  let affected := (rows.filter (isGrantExpired env now)).map (·.id)
  let answer := ⟨rows.length, dryRun, affected⟩
  if dryRun then (answer, requests)
  else (answer, Rows.updateWhere (fun row => row.id ∈ affected) (·.revoke now) requests)

/-- The parts of a fetch: what is asked for, and what is presented for it. -/
structure FetchInput where
  (connectorKey version : String)
  (channel grantToken consumerKey : Option String)

/-- `channel?.trim()` is empty, or the channel of the publication. -/
def onChannel (channel : Option String) (publication : IntegrationPublication) : Bool :=
  (trimmedOrNull channel).all fun asked => asked = publication.channel

def resolvePublicPublication (publications : List IntegrationPublication) (input : FetchInput) :
    Except ApiException IntegrationPublication :=
  required (newestFirst IntegrationPublication.publishedAt (publications.filter fun publication =>
    publication.connectorKey = input.connectorKey ∧ publication.version = input.version ∧
      publication.visibility = "PUBLIC" ∧ publication.isPublished ∧
      onChannel input.channel publication)).head?
    (.notFound "Public publication not found.")

def findApprovedRequest (requests : List IntegrationDistributionRequest) (token : String) :
    Option IntegrationDistributionRequest :=
  (newestFirst IntegrationDistributionRequest.updatedAt (requests.filter fun request =>
    request.accessToken = some token ∧ request.status = "APPROVED")).head?

def grantOpens (now : Moment) (input : FetchInput) (request : IntegrationDistributionRequest) :
    Bool :=
  (request.grantExpiresAt.all fun date => now < date) ∧
    (request.grantedConsumerKey.all fun granted =>
      granted = "" ∨ trimmedOrNull input.consumerKey = some granted)

def isAskedFor (input : FetchInput) (publication : IntegrationPublication) : Bool :=
  publication.connectorKey = input.connectorKey ∧ publication.version = input.version ∧
    publication.isPublished ∧ onChannel input.channel publication

def resolveGrantedPublication (now : Moment) (publications : List IntegrationPublication)
    (requests : List IntegrationDistributionRequest) (input : FetchInput) :
    Option IntegrationPublication := do
  let token ← trimmedOrNull input.grantToken
  let request ← (findApprovedRequest requests token).filter (grantOpens now input)
  (Rows.find IntegrationPublication.id publications request.publicationId).filter (isAskedFor input)

def getIntegrationPublication (publications : List IntegrationPublication) (id : Uuid) :
    Except ApiException IntegrationPublication :=
  required (Rows.find IntegrationPublication.id publications id) publicationNotFound

def getIntegrationPublicationPackage (publications : List IntegrationPublication) (id : Uuid) :
    Except ApiException DeveloperPackage :=
  (·.artifact.package) <$> getIntegrationPublication publications id

def getIntegrationPublicationDocs (publications : List IntegrationPublication) (id : Uuid) :
    Except ApiException DeveloperDocs :=
  (·.artifact.docs) <$> getIntegrationPublication publications id

/-- `(await resolveGranted…) ?? (await resolvePublic…)`. -/
def resolvePublication (now : Moment) (publications : List IntegrationPublication)
    (requests : List IntegrationDistributionRequest) (input : FetchInput) :
    Except ApiException IntegrationPublication :=
  match resolveGrantedPublication now publications requests input with
  | some publication => .ok publication
  | none => resolvePublicPublication publications input

structure PublicPublication where
  (connectorKey version visibility channel status packageFileName docsFileName publishedAt : String)
  revokedAt : Option String
  (packageUrl docsUrl : String)
  attestation : PublicationAttestation

def artifactUrl (publication : IntegrationPublication) (artifact : String) : String :=
  "/enterprise/publications/" ++ env.encodeURIComponent publication.connectorKey ++ "/" ++
    env.encodeURIComponent publication.version ++ "/" ++ artifact ++
    (if publication.channel = "" then ""
      else "?channel=" ++ env.encodeURIComponent publication.channel)

def mapPublicPublication (publication : IntegrationPublication) : PublicPublication where
  connectorKey := publication.connectorKey
  version := publication.version
  visibility := publication.visibility
  channel := publication.channel
  status := publication.status
  packageFileName := publication.packageFileName
  docsFileName := publication.docsFileName
  publishedAt := env.toISOString publication.publishedAt
  revokedAt := publication.revokedAt.map env.toISOString
  packageUrl := artifactUrl env publication "package"
  docsUrl := artifactUrl env publication "docs"
  attestation := publication.attestation

def getPublicIntegrationPublication (now : Moment) (publications : List IntegrationPublication)
    (requests : List IntegrationDistributionRequest) (input : FetchInput) :
    Except ApiException PublicPublication :=
  mapPublicPublication env <$> resolvePublication now publications requests input

def getPublicIntegrationPublicationPackage (now : Moment)
    (publications : List IntegrationPublication) (requests : List IntegrationDistributionRequest)
    (input : FetchInput) : Except ApiException DeveloperPackage :=
  (·.artifact.package) <$> resolvePublication now publications requests input

def getPublicIntegrationPublicationDocs (now : Moment) (publications : List IntegrationPublication)
    (requests : List IntegrationDistributionRequest) (input : FetchInput) :
    Except ApiException DeveloperDocs :=
  (·.artifact.docs) <$> resolvePublication now publications requests input

end Exetron.Enterprise
