import Exetron.Replenishment.Duplicates
import Exetron.Replenishment.Steps

/-!
# Failed syncs

A poll of a supplier may fail. The failure is logged, but the status that is written comes from the
order itself and not from the answer, so a failed poll moves the order on as a good one does.
-/

namespace Exetron.Replenishment

open Lib Inventory.Service InventoryReplenishmentJob

def syncExecution (env : SupplierEnv) (context : RequestContext)
    (current : InventoryReplenishmentJob) : Except ApiException StatusSyncExecution := do
  let _ ← pollSupplier env context current
  let (connector, _) ← connectorOf env current
    "Supplier connector handoff is required before status sync."
  pure (executeInventorySupplierStatusSync connector.connectorKey (currentReference current)
    ((textOf (current.supplier "supplierStatus")).getD "SUBMITTED"))

def attemptKeys : List String :=
  ["lastStatusSyncAt", "lastStatusSyncByActorId", "lastStatusNote", "providerExecutionPhase"]

/-- Nothing of the order is changed but the record of the attempt. -/
structure LeavesOrder (job job' : InventoryReplenishmentJob) : Prop where
  only : SupplierOnly job job'
  supplier : ∀ key ∉ attemptKeys, job'.supplier key = job.supplier key

/-- The order is delivered, and waits for no message. -/
structure IsSettled (job : InventoryReplenishmentJob) : Prop where
  status : job.supplier "supplierStatus" = some (.str "DELIVERED")
  callback : job.supplier "pendingCallback" = some (.bool false)
  fileImport : job.supplier "pendingImport" = some (.bool false)

theorem resolveSyncStatus_text_eq_iff {text : String} :
    (resolveInventorySupplierProviderSyncStatus text).text = text ↔ text = "DELIVERED" := by
  constructor
  · intro same
    unfold resolveInventorySupplierProviderSyncStatus at same
    split at same
    · rename_i upper
      rw [← same] at upper
      exact absurd upper (by decide +kernel)
    · rename_i upper
      rw [← same] at upper
      exact absurd upper (by decide +kernel)
    · exact same.symm
  · rintro rfl
    decide +kernel

section
variable {env : SupplierEnv} {context : RequestContext} {job job' : InventoryReplenishmentJob}
  {note : Option String}

def syncedFields (env : SupplierEnv) (context : RequestContext) (note : Option String)
    (status : SupplierStatus) : InventoryRecord :=
  [("supplierStatus", .str status.text),
    ("lastStatusSyncAt", isoText env.now),
    ("lastStatusSyncByActorId", actorOf context),
    ("lastStatusNote", ofText note),
    ("pendingCallback", .bool false),
    ("pendingImport", .bool false),
    ("providerExecutionPhase", .str "SYNC")]

theorem syncReplenishmentSupplierStatus_eq {status : SupplierStatus}
    (polled : pollSupplier env context job = .ok status) :
    syncReplenishmentSupplierStatus env context note job =
      .ok (job.patchSupplier env.now (syncedFields env context note status)) := by
  rw [syncReplenishmentSupplierStatus, polled]
  rfl

theorem synced_leaves_iff (status : SupplierStatus) :
    LeavesOrder job (job.patchSupplier env.now (syncedFields env context note status)) ↔
      job.supplier "supplierStatus" = some (.str status.text) ∧
        job.supplier "pendingCallback" = some (.bool false) ∧
        job.supplier "pendingImport" = some (.bool false) := by
  have written (key : String) :
      (job.patchSupplier env.now (syncedFields env context note status)).supplier key =
        ((syncedFields env context note status).get key).or (job.supplier key) :=
    supplier_patchSupplier _ _ _ (by simp [syncedFields]) key
  constructor
  · rintro ⟨_, kept⟩
    have same (key : String) (outside : key ∉ attemptKeys) :
        job.supplier key = ((syncedFields env context note status).get key).or (job.supplier key) :=
      (kept key outside).symm.trans (written key)
    exact ⟨same "supplierStatus" (by decide), same "pendingCallback" (by decide),
      same "pendingImport" (by decide)⟩
  · rintro ⟨stands, callback, imported⟩
    refine ⟨.patchSupplier .., fun key outside => ?_⟩
    simp only [attemptKeys, List.mem_cons, List.not_mem_nil, or_false, not_or] at outside
    obtain ⟨syncedAt, syncedBy, noted, phase⟩ := outside
    rw [written]
    by_cases isStatus : key = "supplierStatus"
    · rw [isStatus, stands]
      rfl
    · by_cases isCallback : key = "pendingCallback"
      · rw [isCallback, callback]
        rfl
      · by_cases isImport : key = "pendingImport"
        · rw [isImport, imported]
          rfl
        · simp [syncedFields, Record.get_cons, Ne.symm isStatus, Ne.symm isCallback,
            Ne.symm isImport, Ne.symm syncedAt, Ne.symm syncedBy, Ne.symm noted, Ne.symm phase]

theorem pollSupplier_ok {status : SupplierStatus}
    (polled : pollSupplier env context job = .ok status) :
    ∃ key, status = resolveInventorySupplierProviderSyncStatus
      ((textOf (job.supplier "supplierStatus")).getD (syncedFromNone key).text) := by
  simp only [pollSupplier, except_bind_ok_iff] at polled
  obtain ⟨_, _, ⟨connector, runtime⟩, _, _, _, _, _, _, _, is⟩ := polled
  exact ⟨connector.connectorKey, (Except.ok.inj is).symm⟩

/-- A sync that fails leaves the order as it was just when the order was delivered before, and
waited for no message. -/
theorem failedSync_leaves_iff {execution : StatusSyncExecution}
    (executed : syncExecution env context job = .ok execution)
    (_failed : execution.status = .failed) (note : Option String) :
    ∃ job', syncReplenishmentSupplierStatus env context note job = .ok job' ∧
      (LeavesOrder job job' ↔ IsSettled job) := by
  obtain ⟨status, polled, _⟩ := except_bind_ok_iff.mp executed
  obtain ⟨key, is⟩ := pollSupplier_ok polled
  refine ⟨_, syncReplenishmentSupplierStatus_eq polled, (synced_leaves_iff status).trans ?_⟩
  constructor
  · rintro ⟨stands, callback, imported⟩
    rw [stands, textOf_str, Option.getD_some] at is
    have last := resolveSyncStatus_text_eq_iff.mp (congrArg SupplierStatus.text is).symm
    exact ⟨by rw [stands, last], callback, imported⟩
  · rintro ⟨stands, callback, imported⟩
    rw [stands, textOf_str, Option.getD_some] at is
    refine ⟨?_, callback, imported⟩
    rw [stands, is, resolveSyncStatus_text_eq_iff.mpr rfl]

end

def failsafeConnector : IntegrationRegistryEntry :=
  ⟨1, none, "failsafe", "1", "ACTIVE", .obj [], 1, 1⟩

def failsafeEnv : SupplierEnv := { callingEnv with integrationRegistry := [failsafeConnector] }

def submittedJob : InventoryReplenishmentJob := { waitingJob with
  artifact := .obj [("workflow", .obj [("supplier", .obj
    [("connectorKey", .str "failsafe"),
      ("supplierName", .str "Failsafe"),
      ("supplierStatus", .str "SUBMITTED"),
      ("pendingCallback", .bool false),
      ("pendingImport", .bool false)])])] }

theorem submittedJob_failed : ∃ execution,
    syncExecution failsafeEnv clerk submittedJob = .ok execution ∧ execution.status = .failed :=
  ⟨_, eq_ok_get (by decide +kernel), by decide +kernel⟩

theorem submittedJob_leaves_iff : ∃ job',
    syncReplenishmentSupplierStatus failsafeEnv clerk none submittedJob = .ok job' ∧
      (LeavesOrder submittedJob job' ↔ IsSettled submittedJob) := by
  obtain ⟨_, executed, failed⟩ := submittedJob_failed
  exact failedSync_leaves_iff executed failed none

/-- The poll fails, and the order is acknowledged. -/
theorem submittedJob_acknowledged :
    (∃ execution, syncExecution failsafeEnv clerk submittedJob = .ok execution ∧
      execution.status = .failed) ∧
    ∃ job', syncReplenishmentSupplierStatus failsafeEnv clerk none submittedJob = .ok job' ∧
      ¬LeavesOrder submittedJob job' := by
  have polled : pollSupplier failsafeEnv clerk submittedJob = .ok .acknowledged := by
    decide +kernel
  refine ⟨submittedJob_failed, _, syncReplenishmentSupplierStatus_eq polled, fun leaves => ?_⟩
  have moved := ((synced_leaves_iff _).mp leaves).1
  revert moved
  decide +kernel

end Exetron.Replenishment
