import Exetron.Replenishment.Messages

/-!
# Generating and receiving

The life of a job apart from its supplier: it is generated from the stock report, approved,
dispatched, received into the warehouse and archived.
-/

namespace Exetron.Replenishment

open Lib Inventory Inventory.Service InventoryReplenishmentJob

structure Ingredient where
  (id tenantId : Id)
  code : String
  lowStockThreshold : Quantity

/-- The database with the tables that only replenishment uses. -/
structure Supply where
  db : Db
  ingredients : List Ingredient
  jobs : List InventoryReplenishmentJob

abbrev SupplyTransaction := Tx Supply ApiException

def onDb {α : Type} (x : Transaction α) : SupplyTransaction α := fun s =>
  match x s.db with
  | .ok (a, db) => .ok (a, { s with db })
  | .error e => .error e

def ingredients : Table Supply ApiException Ingredient Id where
  rows s := s.ingredients
  put rows s := { s with ingredients := rows }
  key := Ingredient.id
  missing := .recordNotFound "Ingredient"

def inventoryReplenishmentJobs : Table Supply ApiException InventoryReplenishmentJob Id where
  rows s := s.jobs
  put rows s := { s with jobs := rows }
  key := InventoryReplenishmentJob.id
  missing := .recordNotFound "InventoryReplenishmentJob"

theorem onDb_ok_iff {α : Type} {x : Transaction α} {s t : Supply} {a : α} :
    onDb x s = .ok (a, t) ↔ ∃ db, x s.db = .ok (a, db) ∧ t = { s with db } := by
  unfold onDb
  cases run : x s.db with
  | error e => simp
  | ok r =>
    simp only [Except.ok.injEq, Prod.mk.injEq]
    constructor
    · rintro ⟨rfl, rfl⟩
      exact ⟨r.2, rfl, rfl⟩
    · rintro ⟨db, rfl, rfl⟩
      exact ⟨rfl, rfl⟩

structure CreateIngredientDto where
  tenantId : Id
  code : String
  lowStockThreshold : ℚ := 0

def codeTaken (s : Supply) (tenantId id : Id) (code : String) : Bool :=
  s.ingredients.any fun row => row.tenantId = tenantId ∧ row.code = code ∧ row.id ≠ id

def createIngredientTx (context : RequestContext) (dto : CreateIngredientDto) :
    SupplyTransaction Ingredient := do
  let tenantId ← Tx.lift (Inventory.Service.resolveTenantId context dto.tenantId)
  let id ← onDb freshId
  Tx.read fun s => rejectIf (codeTaken s tenantId id (Text.trim dto.code) = true)
    (.uniqueConstraint "Ingredient")
  ingredients.create
    { id, tenantId
      code := Text.trim dto.code
      lowStockThreshold := toDecimal (dto.lowStockThreshold * 10000) }

structure UpdateIngredientDto where
  code : Option String := none
  lowStockThreshold : Option ℚ := none

def UpdateIngredientDto.apply (dto : UpdateIngredientDto) (row : Ingredient) : Ingredient :=
  { row with
    code := (dto.code.map Text.trim).getD row.code
    lowStockThreshold :=
      (dto.lowStockThreshold.map fun n => toDecimal (n * 10000)).getD row.lowStockThreshold }

def updateIngredientTx (context : RequestContext) (id : Id) (dto : UpdateIngredientDto) :
    SupplyTransaction Ingredient := do
  let current ← Tx.read fun s =>
    required (ingredients.findUnique id s) (.notFound "Ingredient not found.")
  let _ ← Tx.lift (Inventory.Service.resolveTenantId context current.tenantId)
  Tx.read fun s => rejectIf (codeTaken s current.tenantId id (dto.apply current).code = true)
    (.uniqueConstraint "Ingredient")
  ingredients.update id dto.apply

structure ReplenishmentReportQuery where
  tenantId : Option Id := none
  storeId : Option Id := none
  warehouseId : Option Id := none

def units (q : Quantity) : Json := .num (q / 10000)

structure Recommendation where
  (warehouseId ingredientId : Id)
  ingredientCode : String
  (available reorderPoint lowStockThreshold : Quantity)

namespace Recommendation

def targetQuantity (r : Recommendation) : Quantity := max r.reorderPoint r.lowStockThreshold

def recommendedOrderQuantity (r : Recommendation) : Quantity :=
  max (r.targetQuantity - r.available) 0

def toRecord (r : Recommendation) : InventoryRecord :=
  [("warehouseId", idText r.warehouseId),
    ("ingredientId", idText r.ingredientId),
    ("ingredientCode", .str r.ingredientCode),
    ("available", units r.available),
    ("reorderPoint", units r.reorderPoint),
    ("lowStockThreshold", units r.lowStockThreshold),
    ("targetQuantity", units r.targetQuantity),
    ("recommendedOrderQuantity", units r.recommendedOrderQuantity)]

end Recommendation

/-- What is recommended for an item: nothing for one that is not short, or whose ingredient or
warehouse is not the tenant's. -/
def recommend (s : Supply) (tenantId : Id) (item : InventoryItem) : Option Recommendation := do
  let ingredient ← s.ingredients.find? fun row => row.id = item.ingredientId ∧ row.tenantId = tenantId
  let warehouse ← s.db.setup.warehouses.find? fun row =>
    row.id = item.warehouseId ∧ row.tenantId = tenantId
  let recommendation : Recommendation :=
    { warehouseId := warehouse.id
      ingredientId := ingredient.id
      ingredientCode := ingredient.code
      available := item.onHand - item.reserved
      reorderPoint := item.reorderPoint
      lowStockThreshold := ingredient.lowStockThreshold }
  if recommendation.recommendedOrderQuantity ≤ 0 then none else some recommendation

def recommendations (s : Supply) (tenantId : Id) (warehouseId : Option Id) : List Recommendation :=
  ((s.db.stock.items.filter fun item =>
    item.tenantId = tenantId ∧ warehouseId.all (· = item.warehouseId) = true).filterMap
      (recommend s tenantId)).insertionSort fun left right =>
        right.recommendedOrderQuantity ≤ left.recommendedOrderQuantity

def summaryOf (rows : List Recommendation) : InventoryRecord :=
  [("recommendationCount", .num rows.length),
    ("totalRecommendedOrderQuantity",
      units (rows.map Recommendation.recommendedOrderQuantity).sum)]

def reportTenant (context : RequestContext) (tenantId : Option Id) : Except ApiException Id :=
  match tenantId with
  | some tenantId => Inventory.Service.resolveTenantId context tenantId
  | none =>
    if context.scope = .platformAdmin then .error .typeError
    else required context.tenantId (.badRequest "Tenant context is required.")

def ofId : Option Id → Json := Json.ofOption idText

def createReplenishmentJobTx (now : Instant) (context : RequestContext)
    (input : ReplenishmentReportQuery) : SupplyTransaction InventoryReplenishmentJob := do
  let tenantId ← Tx.lift (reportTenant context input.tenantId)
  let rows ← Tx.read fun s => .ok (recommendations s tenantId input.warehouseId)
  let id ← onDb freshId
  inventoryReplenishmentJobs.create
    { id, tenantId
      storeId := input.storeId
      warehouseId := input.warehouseId
      status := .generated
      summary := .obj (summaryOf rows)
      artifact := .obj
        [("tenantId", idText tenantId),
          ("storeId", ofId input.storeId),
          ("warehouseId", ofId input.warehouseId),
          ("generatedAt", isoText now),
          ("summary", .obj (summaryOf rows)),
          ("recommendations", .arr (rows.map fun row => .obj row.toRecord))]
      updatedAt := now }

def InventoryReplenishmentJob.patchWorkflow (current : InventoryReplenishmentJob) (now : Instant)
    (status : ReplenishmentJobStatus) (patch : InventoryRecord) : InventoryReplenishmentJob :=
  { current with
    status
    artifact := current.withReplenishmentWorkflowMetadata patch
    updatedAt := now }

def getReplenishmentJobModelTx (id : Id) (s : Supply) :
    Except ApiException InventoryReplenishmentJob :=
  required (inventoryReplenishmentJobs.findUnique id s) (.notFound "Replenishment job not found.")

def admitJob (context : RequestContext) (id : Id) (s : Supply) :
    Except ApiException InventoryReplenishmentJob := do
  let current ← getReplenishmentJobModelTx id s
  let _ ← Inventory.Service.resolveTenantId context current.tenantId
  pure current

def approveReplenishmentJobTx (now : Instant) (context : RequestContext) (id : Id) :
    SupplyTransaction InventoryReplenishmentJob := do
  let current ← Tx.read (admitJob context id)
  Tx.lift (rejectIf (current.status ≠ .generated)
    (.badRequest "Only generated replenishment jobs can be approved."))
  inventoryReplenishmentJobs.update id fun row => row.patchWorkflow now .approved
    [("approvedAt", isoText now), ("approvedByActorId", actorOf context)]

def dispatchReplenishmentJobTx (now : Instant) (context : RequestContext) (id : Id) :
    SupplyTransaction InventoryReplenishmentJob := do
  let current ← Tx.read (admitJob context id)
  Tx.lift (rejectIf (current.status ≠ .approved)
    (.badRequest "Only approved replenishment jobs can be dispatched."))
  inventoryReplenishmentJobs.update id fun row => row.patchWorkflow now .dispatched
    [("dispatchedAt", isoText now), ("dispatchedByActorId", actorOf context)]

def exportReplenishmentJobTx (now : Instant) (context : RequestContext) (id : Id) (format : String) :
    SupplyTransaction InventoryReplenishmentJob := do
  let _ ← Tx.read (admitJob context id)
  inventoryReplenishmentJobs.update id fun row => row.patchWorkflow now row.status
    [("lastExportedAt", isoText now),
      ("lastExportedByActorId", actorOf context),
      ("lastExportFormat", .str format)]

def archiveReplenishmentJobTx (now : Instant) (context : RequestContext) (id : Id) :
    SupplyTransaction InventoryReplenishmentJob := do
  let _ ← Tx.read (admitJob context id)
  inventoryReplenishmentJobs.update id fun row => row.patchWorkflow now .archived
    [("archivedAt", isoText now), ("archivedByActorId", actorOf context)]

structure ReceiveReplenishmentJobDto where
  reference : Option String := none
  receivedBy : Option String := none
  autoComplete : Option Bool := none

/-- What a receipt reads of a recommended row. -/
structure ExportRow where
  ingredientCode : String
  recommendedOrderQuantity : ℚ

def exportRow (item : InventoryRecord) : ExportRow where
  ingredientCode := (Json.orElse (item.get "ingredientCode") (.str "")).toText
  recommendedOrderQuantity := toNumber (item.get "recommendedOrderQuantity")

def mapReplenishmentExportRows (job : InventoryReplenishmentJob) : List ExportRow :=
  match (asRecord (some job.artifact)).get "recommendations" with
  | some (.arr items) => items.map fun item => exportRow (asRecord (some item))
  | _ => []

def admitReceipt (context : RequestContext) (id : Id) (s : Supply) :
    Except ApiException (InventoryReplenishmentJob × Id) := do
  let current ← admitJob context id s
  let warehouseId ← required current.warehouseId
    (.badRequest "Replenishment job warehouse is required for receiving.")
  rejectIf (current.status ≠ .dispatched ∧ current.status ≠ .receiving ∧ current.status ≠ .received)
    (.badRequest "Only dispatched replenishment jobs can be received.")
  rejectIf (textOf (current.supplier "supplierStatus") = some "CANCELLED")
    (.badRequest "Cancelled supplier handoff cannot be received.")
  pure (current, warehouseId)

def existingReceiving (job : InventoryReplenishmentJob) : Option String :=
  textOf (job.getReplenishmentWorkflow.get "receivingRecordId")

def resolveIngredient (tenantId : Id) (row : ExportRow) (s : Supply) :
    Except ApiException Ingredient :=
  required (s.ingredients.find? fun ingredient =>
      ingredient.tenantId = tenantId ∧ ingredient.code = row.ingredientCode)
    (.badRequest ("Ingredient " ++ row.ingredientCode ++ " not found for replenishment receipt."))

def createLineTx (tenantId recordId : Id) (row : ExportRow) : SupplyTransaction PUnit := do
  let ingredient ← Tx.read (resolveIngredient tenantId row)
  let id ← onDb freshId
  let _ ← onDb (receivingLines.create
    { id, recordId
      ingredientId := ingredient.id
      quantity := toDecimal (row.recommendedOrderQuantity * 10000) })
  pure ()

def receiptText : ReceivingStatus → String
  | .open => "OPEN"
  | .completed => "COMPLETED"

def openReceiptTx (current : InventoryReplenishmentJob) (warehouseId : Id)
    (input : ReceiveReplenishmentJobDto) : SupplyTransaction ReceivingRecord := do
  let rows := mapReplenishmentExportRows current
  Tx.lift (rejectIf (rows = []) (.badRequest "Replenishment job has no rows to receive."))
  let id ← onDb freshId
  let record ← onDb (receivingRecords.create
    { id
      tenantId := current.tenantId
      warehouseId
      reference := (filled input.reference).getD ("REPL-" ++ shortId current.id)
      status := .open
      receivedBy := input.receivedBy
      completedAt := none })
  rows.forM (createLineTx current.tenantId record.id)
  pure record

def receiveReplenishmentJobTx (now : Instant) (context : RequestContext) (id : Id)
    (input : ReceiveReplenishmentJobDto) :
    SupplyTransaction (ReceivingRecord × List ReceivingLine) := do
  let (current, warehouseId) ← Tx.read (admitReceipt context id)
  match existingReceiving current with
  | some recordId => Tx.read fun s => do
      let recordId ← required (idOf? recordId) (.notFound "Receiving record not found.")
      getReceivingRecordTx recordId s.db
  | none =>
    let record ← openReceiptTx current warehouseId input
    let finalized ←
      if input.autoComplete = some false then
        Tx.read fun s => getReceivingRecordTx record.id s.db
      else onDb (completeReceivingRecordTx now record.id input.receivedBy)
    let status : ReplenishmentJobStatus :=
      if input.autoComplete = some false then .receiving else .received
    let _ ← inventoryReplenishmentJobs.update id fun row => row.patchWorkflow now status
      [("receivingRecordId", idText finalized.1.id),
        ("receivingReference", .str finalized.1.reference),
        ("receivingStatus", .str (receiptText finalized.1.status)),
        ("receivedAt", isoText now),
        ("receivedByActorId", actorOf context)]
    pure finalized

end Exetron.Replenishment
