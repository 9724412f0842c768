import Exetron.Inventory.OrderStock
import Exetron.Lib.Rounding
import Mathlib.Data.Rat.Floor

/-!
# Inventory service

The calls of `InventoryService` that move stock by hand: adjustments, receivings and
reservations. A request's number is any number; a column takes it rounded.
-/

namespace Exetron.Inventory.Service

open Lib

/-- A number as a `DECIMAL(18, 4)` column takes it, both in ten-thousandths. -/
def toDecimal (x : ℚ) : Quantity := roundHalfAway x

def resolveTenantId (context : RequestContext) (tenantId : Id) : Except ApiException Id :=
  if context.scope = .platformAdmin then .ok tenantId
  else
    match context.tenantId with
    | none => .error (.badRequest "Tenant context is required.")
    | some own =>
      if tenantId ≠ own then .error (.badRequest "Cross-tenant inventory access is not allowed.")
      else .ok own

structure StockDelta where
  (tenantId warehouseId ingredientId : Id)
  delta : ℚ
  (entryType sourceType : String)
  sourceId : Id

def applyStockDeltaTx (input : StockDelta) : Transaction Unit := do
  let item ← getOrCreateItemTx input.tenantId input.warehouseId input.ingredientId
  let nextOnHand := item.onHand + input.delta
  let _ ← inventoryItems.update item.id fun row => { row with onHand := toDecimal nextOnHand }
  let id ← freshId
  let _ ← stockLedgerEntries.create
    { id
      tenantId := input.tenantId
      warehouseId := input.warehouseId
      ingredientId := input.ingredientId
      entryType := input.entryType
      quantity := toDecimal input.delta
      balanceAfter := toDecimal nextOnHand
      sourceType := input.sourceType
      sourceId := input.sourceId }
  pure ()

structure CreateInventoryAdjustmentDto where
  (tenantId warehouseId ingredientId : Id)
  adjustmentType : AdjustmentType
  quantity : ℚ
  reason : Option String := none

def adjustmentDelta (dto : CreateInventoryAdjustmentDto) (onHand : Quantity) : ℚ :=
  match dto.adjustmentType with
  | .set => dto.quantity - onHand
  | .remove => -|dto.quantity|
  | .add => |dto.quantity|

def createAdjustmentTx (context : RequestContext) (dto : CreateInventoryAdjustmentDto) :
    Transaction InventoryAdjustment := do
  let tenantId ← Tx.lift (resolveTenantId context dto.tenantId)
  let current ← getOrCreateItemTx tenantId dto.warehouseId dto.ingredientId
  let sourceId ← freshId
  applyStockDeltaTx
    { tenantId
      warehouseId := dto.warehouseId
      ingredientId := dto.ingredientId
      delta := adjustmentDelta dto current.onHand
      entryType := "ADJUSTMENT"
      sourceType := "manual_adjustment"
      sourceId }
  let id ← freshId
  inventoryAdjustments.create
    { id, tenantId
      warehouseId := dto.warehouseId
      ingredientId := dto.ingredientId
      adjustmentType := dto.adjustmentType
      quantity := toDecimal dto.quantity
      reason := dto.reason }

structure CreateReceivingLineDto where
  ingredientId : Id
  quantity : ℚ

structure CreateReceivingDto where
  (tenantId warehouseId : Id)
  reference : String
  receivedBy : Option String := none
  lines : List CreateReceivingLineDto := []

def linesOf (db : Db) (recordId : Id) : List ReceivingLine :=
  db.inventory.receivingLines.filter fun line => line.recordId = recordId

def getReceivingRecordTx (id : Id) (db : Db) :
    Except ApiException (ReceivingRecord × List ReceivingLine) := do
  let record ← required (receivingRecords.findUnique id db)
    (.notFound "Receiving record not found.")
  pure (record, linesOf db id)

def createReceivingRecordTx (context : RequestContext) (dto : CreateReceivingDto) :
    Transaction (ReceivingRecord × List ReceivingLine) := do
  let tenantId ← Tx.lift (resolveTenantId context dto.tenantId)
  let id ← freshId
  let record ← receivingRecords.create
    { id, tenantId
      warehouseId := dto.warehouseId
      reference := Text.trim dto.reference
      status := .open
      receivedBy := dto.receivedBy
      completedAt := none }
  dto.lines.forM fun line => do
    let id ← freshId
    let _ ← receivingLines.create
      { id
        recordId := record.id
        ingredientId := line.ingredientId
        quantity := toDecimal line.quantity }
    pure ()
  Tx.read (getReceivingRecordTx record.id)

def receivingDelta (record : ReceivingRecord) (line : ReceivingLine) : StockDelta where
  tenantId := record.tenantId
  warehouseId := record.warehouseId
  ingredientId := line.ingredientId
  delta := line.quantity
  entryType := "RECEIVING"
  sourceType := "receiving"
  sourceId := record.id

def completeReceivingRecordTx (now : Instant) (id : Id) (receivedByOverride : Option String) :
    Transaction (ReceivingRecord × List ReceivingLine) := do
  let (record, lines) ← Tx.read (getReceivingRecordTx id)
  if record.status = .completed then pure (record, lines)
  else
    lines.forM fun line => applyStockDeltaTx (receivingDelta record line)
    let _ ← receivingRecords.update id fun row =>
      { row with
        status := .completed
        receivedBy := receivedByOverride.or record.receivedBy
        completedAt := some now }
    Tx.read (getReceivingRecordTx id)

/-- `completeReceivingRecord`, in its transaction. -/
def receiveTx (now : Instant) (context : RequestContext) (id : Id) (receivedBy : Option String) :
    Transaction (ReceivingRecord × List ReceivingLine) := do
  let (record, _) ← Tx.read (getReceivingRecordTx id)
  let _ ← Tx.lift (resolveTenantId context record.tenantId)
  completeReceivingRecordTx now id receivedBy

structure CreateStockReservationDto where
  (tenantId warehouseId ingredientId : Id)
  sourceType : String
  sourceId : Id
  quantity : ℚ

/-- The reads and checks of `createReservation`. -/
def admitReservation (context : RequestContext) (dto : CreateStockReservationDto) (db : Db) :
    Except ApiException (Id × InventoryItem) := do
  let tenantId ← resolveTenantId context dto.tenantId
  let item ← required ((findItem db dto.warehouseId dto.ingredientId).filter
      fun item => item.tenantId = tenantId)
    (.notFound "Inventory item not found.")
  rejectIf (((item.onHand - item.reserved : Quantity) : ℚ) < dto.quantity)
    (.badRequest "Not enough available stock to reserve.")
  rejectIf (db.stock.reservations.any fun r => r.warehouseId = dto.warehouseId ∧
      r.sourceType = dto.sourceType ∧ r.sourceId = dto.sourceId ∧
      r.ingredientId = dto.ingredientId)
    (.uniqueConstraint "StockReservation")
  pure (tenantId, item)

def createReservationTx (context : RequestContext) (dto : CreateStockReservationDto) :
    Transaction StockReservation := do
  let (tenantId, item) ← Tx.read (admitReservation context dto)
  let id ← freshId
  let reservation ← stockReservations.create
    { id, tenantId
      warehouseId := dto.warehouseId
      ingredientId := dto.ingredientId
      sourceType := dto.sourceType
      sourceId := dto.sourceId
      quantity := toDecimal dto.quantity
      status := .active }
  let _ ← inventoryItems.update item.id fun row =>
    { row with reserved := toDecimal (item.reserved + dto.quantity) }
  pure reservation

def getReservationTx (id : Id) (db : Db) : Except ApiException StockReservation :=
  required (stockReservations.findUnique id db) (.notFound "Reservation not found.")

def admitSettlement (context : RequestContext) (reservationId : Id) (db : Db) :
    Except ApiException StockReservation := do
  let reservation ← getReservationTx reservationId db
  let _ ← resolveTenantId context reservation.tenantId
  pure reservation

def itemOf (reservation : StockReservation) (db : Db) : Except ApiException InventoryItem :=
  required (findItem db reservation.warehouseId reservation.ingredientId)
    (.notFound "Inventory item not found.")

def releaseReservationTx (context : RequestContext) (reservationId : Id) :
    Transaction StockReservation := do
  let reservation ← Tx.read (admitSettlement context reservationId)
  if reservation.status ≠ .active then pure reservation
  else
    let item ← Tx.read (itemOf reservation)
    let _ ← inventoryItems.update item.id fun row =>
      { row with reserved := max (item.reserved - reservation.quantity) 0 }
    let _ ← stockReservations.update reservationId fun row => { row with status := .released }
    Tx.read (getReservationTx reservationId)

def consumeReservationTx (context : RequestContext) (reservationId : Id) :
    Transaction StockReservation := do
  let reservation ← Tx.read (admitSettlement context reservationId)
  if reservation.status ≠ .active then pure reservation
  else
    let item ← Tx.read (itemOf reservation)
    let nextOnHand := max (item.onHand - reservation.quantity) 0
    let _ ← inventoryItems.update item.id fun row =>
      { row with onHand := nextOnHand, reserved := max (item.reserved - reservation.quantity) 0 }
    let _ ← stockReservations.update reservationId fun row => { row with status := .consumed }
    let id ← freshId
    let _ ← stockLedgerEntries.create
      { id
        tenantId := reservation.tenantId
        warehouseId := reservation.warehouseId
        ingredientId := reservation.ingredientId
        entryType := "CONSUME"
        quantity := -reservation.quantity
        balanceAfter := nextOnHand
        sourceType := "reservation"
        sourceId := reservation.id }
    Tx.read (getReservationTx reservationId)

inductive InventoryCall where
  | createAdjustment (dto : CreateInventoryAdjustmentDto)
  | createReceivingRecord (dto : CreateReceivingDto)
  | completeReceivingRecord (id : Id) (receivedBy : Option String)
  | createReservation (dto : CreateStockReservationDto)
  | releaseReservation (reservationId : Id)
  | consumeReservation (reservationId : Id)

/-- The database after a call, whatever its answer. -/
def perform (now : Instant) (context : RequestContext) (call : InventoryCall) (db : Db) : Db :=
  match call with
  | .createAdjustment dto => (Call.exec (Call.transact (createAdjustmentTx context dto)) db).2
  | .createReceivingRecord dto =>
    (Call.exec (Call.transact (createReceivingRecordTx context dto)) db).2
  | .completeReceivingRecord id receivedBy =>
    (Call.exec (Call.transact (receiveTx now context id receivedBy)) db).2
  | .createReservation dto => (Call.exec (Call.transact (createReservationTx context dto)) db).2
  | .releaseReservation reservationId =>
    (Call.exec (Call.transact (releaseReservationTx context reservationId)) db).2
  | .consumeReservation reservationId =>
    (Call.exec (Call.transact (consumeReservationTx context reservationId)) db).2

end Exetron.Inventory.Service
