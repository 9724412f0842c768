import Exetron.Replenishment.Calls

/-!
# Messages that come again

A webhook or an import whose id was processed before reaches a branch of its own. The branch marks
the job, and puts a new `reconciliation` in the place of the one that was there.
-/

namespace Exetron.Replenishment

open Lib Inventory.Service InventoryReplenishmentJob

/-- What a supplier sends about an order. -/
inductive SupplierMessage where
  | webhook (input : ProcessWebhookDto)
  | fileImport (input : ImportSupplierUpdateDto)

namespace SupplierMessage

def id : SupplierMessage → String
  | .webhook input => Text.trim input.deliveryId
  | .fileImport input => Text.trim input.importId

def source : SupplierMessage → SupplierSource
  | .webhook _ => .webhook
  | .fileImport _ => .fileImport

def mode : SupplierMessage → InventorySupplierTransportMode
  | .webhook _ => .webhook
  | .fileImport _ => .fileImport

def idKey : SupplierMessage → String
  | .webhook _ => "deliveryId"
  | .fileImport _ => "importId"

def processedList : SupplierMessage → String
  | .webhook _ => "webhookDeliveries"
  | .fileImport _ => "imports"

def handle (env : SupplierEnv) (context : RequestContext) (message : SupplierMessage)
    (current : InventoryReplenishmentJob) : Handled :=
  match message with
  | .webhook input => processReplenishmentSupplierWebhook env context input current
  | .fileImport input => importReplenishmentSupplierUpdate env context input current

def IsRecorded (message : SupplierMessage) (job : InventoryReplenishmentJob) : Prop :=
  isProcessed job message.processedList message.idKey message.id = true

/-- What a message must meet before its id is looked at: the caller may see the job, the connector
of the handoff is there and of the message's channel, and the id is not blank. -/
structure IsAdmitted (env : SupplierEnv) (context : RequestContext) (message : SupplierMessage)
    (job : InventoryReplenishmentJob) : Prop where
  tenant : ∃ tenantId, Inventory.Service.resolveTenantId context job.tenantId = .ok tenantId
  connector : ∃ key connector, connectorKeyOf job = some key ∧
    requireSupplierConnectorTx env.integrationRegistry job.tenantId key = .ok connector ∧
    (resolveSupplierConnectorRuntime connector).mode = message.mode
  named : message.id ≠ ""

end SupplierMessage

section
variable {env : SupplierEnv} {context : RequestContext} {job : InventoryReplenishmentJob}

def duplicated (now : Instant) (message : SupplierMessage) (job : InventoryReplenishmentJob) :
    InventoryReplenishmentJob :=
  match message with
  | .webhook input => duplicateWebhook now input job
  | .fileImport input => duplicateImport now input job

theorem handle_recorded {message : SupplierMessage} (recorded : message.IsRecorded job)
    (admitted : message.IsAdmitted env context job) :
    (message.handle env context job).job = duplicated env.now message job := by
  obtain ⟨tenantId, seen⟩ := admitted.tenant
  obtain ⟨key, connector, keyed, offered, mode⟩ := admitted.connector
  have found (missing : String) : connectorOf env job missing =
      .ok (connector, resolveSupplierConnectorRuntime connector) :=
    connectorOf_ok_iff.mpr ⟨key, keyed, offered, rfl⟩
  cases message with
  | webhook input =>
    have named : Text.trim input.deliveryId ≠ "" := admitted.named
    have processed : isProcessed job "webhookDeliveries" "deliveryId" (Text.trim input.deliveryId) =
      true := recorded
    have mode : (resolveSupplierConnectorRuntime connector).mode = .webhook := mode
    have received : receiveWebhook env context input job =
        .ok (resolveSupplierConnectorRuntime connector, .duplicate) := by
      simp [receiveWebhook, seen, found, mode, named, processed, rejectIf, bind, Except.bind, pure,
        Except.pure]
    simp only [SupplierMessage.handle, processReplenishmentSupplierWebhook, received, duplicated]
  | fileImport input =>
    have named : Text.trim input.importId ≠ "" := admitted.named
    have processed : isProcessed job "imports" "importId" (Text.trim input.importId) = true :=
      recorded
    have mode : (resolveSupplierConnectorRuntime connector).mode = .fileImport := mode
    have received : receiveImport env context input job =
        .ok (resolveSupplierConnectorRuntime connector, .duplicate) := by
      simp [receiveImport, seen, found, mode, named, processed, rejectIf, bind, Except.bind, pure,
        Except.pure]
    simp only [SupplierMessage.handle, importReplenishmentSupplierUpdate, received, duplicated]

theorem handle_not_admitted {message : SupplierMessage}
    (out : ¬message.IsAdmitted env context job) : (message.handle env context job).job = job := by
  cases message with
  | webhook input =>
    cases received : receiveWebhook env context input job with
    | error e => simp only [SupplierMessage.handle, processReplenishmentSupplierWebhook, received]
    | ok reception =>
      simp only [receiveWebhook, except_bind_ok_iff, rejectIf_ok_iff, ne_eq, not_not] at received
      obtain ⟨tenantId, seen, ⟨connector, runtime⟩, found, _, mode, _, named, -⟩ := received
      obtain ⟨key, keyed, offered, resolved⟩ := connectorOf_ok_iff.mp found
      rw [resolved] at mode
      exact absurd ⟨⟨tenantId, seen⟩, ⟨key, connector, keyed, offered, mode⟩, named⟩ out
  | fileImport input =>
    cases received : receiveImport env context input job with
    | error e => simp only [SupplierMessage.handle, importReplenishmentSupplierUpdate, received]
    | ok reception =>
      simp only [receiveImport, except_bind_ok_iff, rejectIf_ok_iff, ne_eq, not_not] at received
      obtain ⟨tenantId, seen, ⟨connector, runtime⟩, found, _, mode, _, named, -⟩ := received
      obtain ⟨key, keyed, offered, resolved⟩ := connectorOf_ok_iff.mp found
      rw [resolved] at mode
      exact absurd ⟨⟨tenantId, seen⟩, ⟨key, connector, keyed, offered, mode⟩, named⟩ out

end

def duplicateMarkers : List String :=
  ["lastDuplicateDeliveryId", "lastDuplicateDeliveryAt", "lastDuplicateImportId",
    "lastDuplicateImportAt"]

/-- Nothing of the job but the markers is changed, apart from the stamp the database puts on every
row it writes. -/
structure ChangesOnlyMarkers (job job' : InventoryReplenishmentJob) : Prop where
  row : job' = { job with artifact := job'.artifact, updatedAt := job'.updatedAt }
  artifact : ∀ key ≠ "workflow",
    (asRecord (some job'.artifact)).get key = (asRecord (some job.artifact)).get key
  workflow : ∀ key ≠ "supplier",
    job'.getReplenishmentWorkflow.get key = job.getReplenishmentWorkflow.get key
  supplier : ∀ key ∉ duplicateMarkers, job'.supplier key = job.supplier key
  due : ∀ now, isDue now job = true → isDue now job' = true

section
variable {env : SupplierEnv} {context : RequestContext} {job : InventoryReplenishmentJob}
  {now : Instant} {message : SupplierMessage}

theorem isDue_of_kept {job' : InventoryReplenishmentJob}
    (reconciled : job'.supplier "reconciliation" = job.supplier "reconciliation")
    (timed : job'.supplier "nextRetryAt" = job.supplier "nextRetryAt")
    (due : isDue now job = true) : isDue now job' = true := by
  simpa [isDue, reconciliationStatus, reconciliation, nextRetryAt, reconciled, timed] using due

theorem changesOnlyMarkers_refl (job : InventoryReplenishmentJob) : ChangesOnlyMarkers job job :=
  ⟨rfl, fun _ _ => rfl, fun _ _ => rfl, fun _ _ => rfl, fun _ due => due⟩

theorem reconciliation_duplicated : (duplicated now message job).supplier "reconciliation" =
    some (.obj (duplicateReconciliation message.source now message.idKey message.id)) := by
  cases message <;>
    simp [duplicated, duplicateWebhook, duplicateImport, supplier_patchSupplier, Record.get_cons,
      SupplierMessage.source, SupplierMessage.idKey, SupplierMessage.id]

theorem supplier_duplicated {key : String} (unmarked : key ∉ duplicateMarkers)
    (other : key ≠ "reconciliation") :
    (duplicated now message job).supplier key = job.supplier key := by
  simp only [duplicateMarkers, List.mem_cons, List.not_mem_nil, or_false, not_or] at unmarked
  obtain ⟨delivery, deliveredAt, imported, importedAt⟩ := unmarked
  cases message with
  | webhook input =>
    simp [duplicated, duplicateWebhook, supplier_patchSupplier, Record.get_cons, Ne.symm delivery,
      Ne.symm deliveredAt, Ne.symm other]
  | fileImport input =>
    simp [duplicated, duplicateImport, supplier_patchSupplier, Record.get_cons, Ne.symm imported,
      Ne.symm importedAt, Ne.symm other]

/-- The job's `reconciliation` is already the one that tells of this message's coming again. -/
def IsReconciled (now : Instant) (message : SupplierMessage) (job : InventoryReplenishmentJob) :
    Prop :=
  job.supplier "reconciliation" = some (.obj
    [("source", .str message.source.text),
      ("status", .str "DUPLICATE"),
      ("processedAt", isoText now),
      (message.idKey, .str message.id)])

theorem duplicated_changes_iff :
    ChangesOnlyMarkers job (duplicated now message job) ↔ IsReconciled now message job := by
  constructor
  · intro kept
    rw [IsReconciled, ← kept.supplier "reconciliation" (by decide), reconciliation_duplicated]
    rfl
  · intro same
    have supplier : ∀ key ∉ duplicateMarkers,
        (duplicated now message job).supplier key = job.supplier key := by
      intro key unmarked
      by_cases here : key = "reconciliation"
      · rw [here, reconciliation_duplicated, same]
        rfl
      · exact supplier_duplicated unmarked here
    refine ⟨by cases message <;> rfl, fun key other => ?_, fun key other => ?_, supplier,
      fun now' due => ?_⟩
    · cases message <;> exact artifact_putSupplier _ _ _ other
    · have set : (duplicated now message job).getReplenishmentWorkflow =
          job.getReplenishmentWorkflow.set "supplier"
            (.obj (duplicated now message job).getReplenishmentSupplier) := by
        cases message with
        | webhook input =>
          rw [duplicated, duplicateWebhook, patchSupplier, workflow_putSupplier,
            getReplenishmentSupplier_putSupplier]
        | fileImport input =>
          rw [duplicated, duplicateImport, patchSupplier, workflow_putSupplier,
            getReplenishmentSupplier_putSupplier]
      rw [set, Record.get_set, if_neg other.symm]
    · exact isDue_of_kept (supplier _ (by decide)) (supplier _ (by decide)) due

/-- A message that comes again changes nothing but its markers just when it is refused before its
id is looked at, or the job's `reconciliation` tells of the very same already. -/
theorem recorded_changesOnlyMarkers_iff (recorded : message.IsRecorded job) :
    ChangesOnlyMarkers job (message.handle env context job).job ↔
      ¬message.IsAdmitted env context job ∨ IsReconciled env.now message job := by
  by_cases admitted : message.IsAdmitted env context job
  · rw [handle_recorded recorded admitted, duplicated_changes_iff]
    simp only [admitted, not_true_eq_false, false_or]
  · rw [handle_not_admitted admitted]
    exact iff_of_true (changesOnlyMarkers_refl job) (.inl admitted)

end

def callingConnector : IntegrationRegistryEntry :=
  ⟨1, none, "dairy", "1", "ACTIVE",
    .obj [("runtime", .obj [("transport", .obj [("mode", .str "WEBHOOK")])])], 1, 1⟩

def callingEnv : SupplierEnv where
  now := 9
  randomUUID := "u"
  integrationRegistry := [callingConnector]
  secretRegistry := []
  ensureReadyForHandoff _ _ := .ok ()
  canExecute _ _ := .ok ()
  createHmac _ text := text
  createHash text := text
  parseJson _ := none
  fetch _ := .failed "fetch failed"

def clerk : RequestContext := ⟨"u1", some 7, .tenantMember, [], none⟩

def waitingJob : InventoryReplenishmentJob where
  id := 1
  tenantId := 7
  storeId := none
  warehouseId := none
  status := .dispatched
  summary := .null
  artifact := .obj [("workflow", .obj [("supplier", .obj
    [("connectorKey", .str "dairy"),
      ("replay", .obj [("webhookDeliveries", .arr [.obj [("deliveryId", .str "d1")]])]),
      ("nextRetryAt", isoText 5),
      ("reconciliation", .obj [("status", .str "RETRY_QUEUED")])])])]
  updatedAt := 5

def againDelivered : SupplierMessage := .webhook { deliveryId := "d1", supplierStatus := .delivered }

theorem againDelivered_changesOnlyMarkers_iff :
    ChangesOnlyMarkers waitingJob (againDelivered.handle callingEnv clerk waitingJob).job ↔
      ¬againDelivered.IsAdmitted callingEnv clerk waitingJob ∨
        IsReconciled 9 againDelivered waitingJob :=
  recorded_changesOnlyMarkers_iff
    (by simp only [SupplierMessage.IsRecorded]; decide +kernel)

/-- The delivery comes again, and the job is no longer due. -/
theorem againDelivered_ends_retry :
    againDelivered.IsRecorded waitingJob ∧ isDue 9 waitingJob = true ∧
      ¬ChangesOnlyMarkers waitingJob (againDelivered.handle callingEnv clerk waitingJob).job := by
  refine ⟨by simp only [SupplierMessage.IsRecorded]; decide +kernel, by decide +kernel,
    fun kept => ?_⟩
  have due := kept.due 9 (by decide +kernel)
  revert due
  decide +kernel

end Exetron.Replenishment
