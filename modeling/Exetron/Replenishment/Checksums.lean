import Exetron.Replenishment.FileDrops

/-!
# What a checksum binds

An accepted import's checksum is the hash of a text. The text is the canonical one of what is
imported, unless the payload brings a text of its own to be hashed in its place.
-/

namespace Exetron.Replenishment

open Lib Inventory.Service InventoryReplenishmentJob

/-- What an import brings to the job. -/
structure ImportedValues where
  importId : String
  supplierStatus : SupplierStatus
  externalReference : Option String
  payload : InventoryRecord

def ImportSupplierUpdateDto.values (runtime : SupplierConnectorRuntime)
    (input : ImportSupplierUpdateDto) : ImportedValues where
  importId := Text.trim input.importId
  supplierStatus := (importStatus runtime input).1
  externalReference := filled input.externalReference
  payload := input.importPayloadForChecksum

def ChecksumContent.values (runtime : SupplierConnectorRuntime) (content : ChecksumContent) :
    ImportedValues where
  importId := content.importId
  supplierStatus := (resolveInventorySupplierProviderImportPayload runtime content.supplierStatus
    content.payload content.fileName).1
  externalReference := content.externalReference
  payload := content.payload.getD []

/-- The text is the canonical one of content with these values. -/
def Determines (runtime : SupplierConnectorRuntime) (text : String) (values : ImportedValues) :
    Prop :=
  ∃ content : ChecksumContent,
    text = buildSupplierImportChecksumPayload content ∧ content.values runtime = values

section
variable (env : SupplierEnv) (context : RequestContext) (runtime : SupplierConnectorRuntime)
  (input : ImportSupplierUpdateDto) (verified : Bool) (current : InventoryReplenishmentJob)

end

theorem ofOption_injective {α : Type} {f : α → Json} (injective : Function.Injective f)
    (present : ∀ a, f a ≠ .null) : Function.Injective (Json.ofOption f) := by
  intro a b same
  cases a with
  | none =>
    cases b with
    | none => rfl
    | some b => exact absurd same.symm (present b)
  | some a =>
    cases b with
    | none => exact absurd same (present a)
    | some b => rw [injective same]

theorem ofText_injective : Function.Injective ofText :=
  ofOption_injective (fun _ _ same => by injection same) fun _ => by simp

theorem SupplierStatus.text_injective : Function.Injective SupplierStatus.text := by
  intro a b same
  cases a <;> cases b <;> first | rfl | exact absurd same (by decide)

theorem buildSupplierImportChecksumPayload_injective :
    Function.Injective buildSupplierImportChecksumPayload := by
  intro content content' same
  have fields := Json.stringify_injective same
  simp only [Json.obj.injEq, List.cons.injEq, Prod.mk.injEq, Json.str.injEq, true_and, and_true]
    at fields
  obtain ⟨importId, status, reference, fileName, payload⟩ := fields
  obtain ⟨_, _, _, _, records⟩ := content
  obtain ⟨_, _, _, _, records'⟩ := content'
  simp only at importId status reference fileName payload
  obtain rfl := importId
  obtain rfl := SupplierStatus.text_injective status
  obtain rfl := ofText_injective reference
  obtain rfl := ofText_injective fileName
  obtain rfl := ofOption_injective (fun _ _ same => by injection same) (fun _ => by simp) payload
  rfl

theorem Determines.unique {runtime : SupplierConnectorRuntime} {text : String}
    {values values' : ImportedValues} (determined : Determines runtime text values)
    (determined' : Determines runtime text values') : values = values' := by
  obtain ⟨content, rfl, rfl⟩ := determined
  obtain ⟨content', same, rfl⟩ := determined'
  rw [buildSupplierImportChecksumPayload_injective same]

theorem status_eq (runtime : SupplierConnectorRuntime) (status : SupplierStatus)
    (payload : Option InventoryRecord) (fileName : Option String) :
    (resolveInventorySupplierProviderImportPayload runtime status payload fileName).1 =
      if adapterIs runtime "WAREDROP_FILE_V1" then
        resolvedStatus (payloadStatus (payload.getD []) ["receipt", "batch"]) status
      else status := by
  cases payload with
  | none => simp [resolveInventorySupplierProviderImportPayload, payloadStatus, recordAt,
      resolvedStatus, asRecord, textOf]
  | some payload =>
    rw [resolveInventorySupplierProviderImportPayload]
    split <;> rfl

theorem payloadStatus_forChecksum (input : ImportSupplierUpdateDto) :
    payloadStatus input.importPayloadForChecksum ["receipt", "batch"] =
      payloadStatus input.payloadRecord ["receipt", "batch"] := by
  simp [payloadStatus, recordAt, ImportSupplierUpdateDto.importPayloadForChecksum, Record.get_erase,
    List.findSome?_cons]

theorem values_checksumContent (runtime : SupplierConnectorRuntime)
    (input : ImportSupplierUpdateDto) :
    input.checksumContent.values runtime = input.values runtime := by
  simp only [ChecksumContent.values, ImportSupplierUpdateDto.values, importStatus, status_eq,
    ImportSupplierUpdateDto.checksumContent, Option.getD_some, payloadStatus_forChecksum]
  rfl

/-- An import that a connector which requires checksums accepted, where texts are hashed by
`createHash`. -/
structure AcceptedImport (createHash : String → String) where
  env : SupplierEnv
  context : RequestContext
  input : ImportSupplierUpdateDto
  job : InventoryReplenishmentJob
  runtime : SupplierConnectorRuntime
  verified : Bool
  hashes : env.createHash = createHash
  accepted : receiveImport env context input job = .ok (runtime, .accepted verified)
  requires : runtime.requireChecksum = true

namespace AcceptedImport

variable {createHash : String → String}

def checksum (a : AcceptedImport createHash) : Option String := filled a.input.checksum

def values (a : AcceptedImport createHash) : ImportedValues := a.input.values a.runtime

/-- The checksum is the hash of a text that determines the values the import brings. -/
def IsBound (a : AcceptedImport createHash) : Prop :=
  ∃ text, a.checksum = some (createHash text) ∧ Determines a.runtime text a.values

/-- The payload brings no text of its own to be hashed, or one that says what is imported. -/
def HashesItsContent (a : AcceptedImport createHash) : Prop :=
  ∀ text ∈ a.input.rawChecksumPayload, Determines a.runtime text a.values

theorem checksum_eq (a : AcceptedImport createHash) :
    a.checksum = some (createHash a.input.hashedText) := by
  have accepted := a.accepted
  simp only [receiveImport, except_bind_ok_iff] at accepted
  obtain ⟨_, _, ⟨connector, runtime⟩, _, _, _, _, _, reception⟩ := accepted
  split at reception
  · simp [pure, Except.pure] at reception
  · split at reception
    · simp [pure, Except.pure] at reception
    · obtain ⟨rfl, verified⟩ := Prod.mk.inj (except_pure_ok_iff.mp reception)
      rw [verifyImport, if_pos a.requires] at verified
      split at verified
      · cases verified
      · rename_i checksum given
        split at verified
        · cases verified
        · rename_i same
          rw [AcceptedImport.checksum, given, ← not_not.mp same]
          exact congrArg some (congrFun a.hashes _)

theorem isBound_iff (injective : Function.Injective createHash) (a : AcceptedImport createHash) :
    a.IsBound ↔ a.HashesItsContent := by
  have hashed : a.IsBound ↔ Determines a.runtime a.input.hashedText a.values := by
    constructor
    · rintro ⟨text, checksum, determined⟩
      rw [a.checksum_eq] at checksum
      rwa [injective (Option.some.inj checksum)]
    · exact fun determined => ⟨_, a.checksum_eq, determined⟩
  rw [hashed, HashesItsContent, ImportSupplierUpdateDto.hashedText]
  cases own : a.input.rawChecksumPayload with
  | none =>
    refine iff_of_true ⟨a.input.checksumContent, rfl, ?_⟩ (by simp)
    exact values_checksumContent a.runtime a.input
  | some text => simp

end AcceptedImport

/-- The checksums of accepted imports bind what is imported: each is the hash of a text that
determines the values, and the same checksum at the same connector brings the same values. -/
structure ChecksumsBind {createHash : String → String}
    (imports : Set (AcceptedImport createHash)) : Prop where
  bound : ∀ a ∈ imports, a.IsBound
  same : ∀ a ∈ imports, ∀ b ∈ imports, a.checksum = b.checksum → a.runtime = b.runtime →
    a.values = b.values

/-- Checksums bind what is imported just when no payload brings a text of its own to be hashed,
other than one that says what is imported. -/
theorem checksumsBind_iff {createHash : String → String} (injective : Function.Injective createHash)
    (imports : Set (AcceptedImport createHash)) :
    ChecksumsBind imports ↔ ∀ a ∈ imports, a.HashesItsContent := by
  constructor
  · exact fun binds a listed => (a.isBound_iff injective).mp (binds.bound a listed)
  · intro own
    have bound : ∀ a ∈ imports, a.IsBound := fun a listed =>
      (a.isBound_iff injective).mpr (own a listed)
    refine ⟨bound, fun a listed b listed' checksum runtime => ?_⟩
    obtain ⟨text, hashed, determined⟩ := bound a listed
    obtain ⟨text', hashed', determined'⟩ := bound b listed'
    have texts : text = text' :=
      injective (Option.some.inj (hashed.symm.trans (checksum.trans hashed')))
    rw [texts, runtime] at determined
    exact determined.unique determined'

theorem receiveImport_hashed {env : SupplierEnv} {context : RequestContext}
    {input : ImportSupplierUpdateDto} {current : InventoryReplenishmentJob} {tenantId : Id}
    {connector : IntegrationRegistryEntry} {runtime : SupplierConnectorRuntime}
    (seen : Inventory.Service.resolveTenantId context current.tenantId = .ok tenantId)
    (found : ∀ missing, connectorOf env current missing = .ok (connector, runtime))
    (mode : runtime.mode = .fileImport) (named : Text.trim input.importId ≠ "")
    (fresh : isProcessed current "imports" "importId" (Text.trim input.importId) = false)
    (agrees : ¬referencesDiffer current (filled input.externalReference))
    (requires : runtime.requireChecksum = true)
    (checksum : filled input.checksum = some (env.createHash input.hashedText)) :
    receiveImport env context input current = .ok (runtime, .accepted true) := by
  have verified : verifyImport env runtime input = .accepted true := by
    rw [verifyImport, if_pos requires, checksum]
    simp
  simp [receiveImport, seen, found, mode, named, fresh, agrees, verified, rejectIf, bind,
    Except.bind, pure, Except.pure]

def filesConnector : IntegrationRegistryEntry :=
  ⟨1, none, "dairy", "1", "ACTIVE",
    .obj [("runtime", .obj [("transport", .obj
      [("mode", .str "FILE_IMPORT"), ("requireChecksum", .bool true)])])], 1, 1⟩

def filesEnv : SupplierEnv where
  now := 9
  randomUUID := "u"
  integrationRegistry := [filesConnector]
  secretRegistry := []
  ensureReadyForHandoff _ _ := .ok ()
  canExecute _ _ := .ok ()
  createHmac _ text := text
  createHash text := text
  parseJson _ := none
  fetch _ := .failed "fetch failed"

def filesClerk : RequestContext := ⟨"u1", some 7, .tenantMember, [], none⟩

def filesJob : InventoryReplenishmentJob where
  id := 1
  tenantId := 7
  storeId := none
  warehouseId := none
  status := .dispatched
  summary := .null
  artifact := .obj [("workflow", .obj [("supplier", .obj [("connectorKey", .str "dairy")])])]
  updatedAt := 5

/-- An import whose payload brings the text of its checksum. -/
def importOf (importId : String) (units : ℚ) : ImportSupplierUpdateDto where
  importId := importId
  supplierStatus := .delivered
  checksum := some "file 1"
  payload := some [("units", .num units), ("_checksumPayload", .str "file 1")]

theorem filesConnector_found (missing : String) : connectorOf filesEnv filesJob missing =
      .ok (filesConnector, resolveSupplierConnectorRuntime filesConnector) := by
  refine connectorOf_ok_iff.mpr ⟨"dairy", by decide +kernel, ?_, rfl⟩
  simp [requireSupplierConnectorTx, candidates, isOffered, filesEnv, filesConnector, filesJob,
    required]

theorem filesConnector_requires :
    (resolveSupplierConnectorRuntime filesConnector).requireChecksum = true := by decide +kernel

theorem importOf_accepted (importId : String) (units : ℚ) (named : Text.trim importId ≠ "") :
    receiveImport filesEnv filesClerk (importOf importId units) filesJob =
      .ok (resolveSupplierConnectorRuntime filesConnector, .accepted true) := by
  have given : filled (some "file 1") = some "file 1" := by decide +kernel
  have nothing : replayOf filesJob = [] := rfl
  have seen : Inventory.Service.resolveTenantId filesClerk filesJob.tenantId = .ok 7 := rfl
  refine receiveImport_hashed seen filesConnector_found (by decide +kernel) named
    (by simp [isProcessed, nothing]) (by simp [referencesDiffer, importOf, filled])
    (by decide +kernel) ?_
  have own : Text.trim "file 1" ≠ "" := by decide +kernel
  simp [importOf, given, own, ImportSupplierUpdateDto.hashedText, filesEnv,
    ImportSupplierUpdateDto.rawChecksumPayload, ImportSupplierUpdateDto.payloadRecord,
    Record.get_cons, Option.filter]

def accepted (importId : String) (units : ℚ) (named : Text.trim importId ≠ "") :
    AcceptedImport id where
  env := filesEnv
  context := filesClerk
  input := importOf importId units
  job := filesJob
  runtime := resolveSupplierConnectorRuntime filesConnector
  verified := true
  hashes := rfl
  accepted := importOf_accepted importId units named
  requires := filesConnector_requires

def fileOfTwo : AcceptedImport id := accepted "i1" 2 (by decide +kernel)

def fileOfNine : AcceptedImport id := accepted "i2" 9 (by decide +kernel)

theorem files_bind_iff : ChecksumsBind {fileOfTwo, fileOfNine} ↔
      ∀ a ∈ ({fileOfTwo, fileOfNine} : Set (AcceptedImport id)), a.HashesItsContent :=
  checksumsBind_iff Function.injective_id {fileOfTwo, fileOfNine}

/-- One checksum lets in two imports of different quantities. -/
theorem files_not_bound : ¬ChecksumsBind {fileOfTwo, fileOfNine} := by
  intro binds
  have same := binds.same fileOfTwo (.inl rfl) fileOfNine (.inr rfl) rfl rfl
  have payloads := congrArg (fun values => toNumber (values.payload.get "units")) same
  revert payloads
  decide +kernel

end Exetron.Replenishment
