import Mathlib.Data.List.Sort
import Exetron.Database

/-!
# Stock of orders

The part of `InventoryService` that orders use: the reservation plan of a checkout, and the
reservations an order makes, releases and consumes. Quantities are exact.
-/

namespace Exetron.Inventory

open Lib

structure InventoryReservationPlanEntry where
  (warehouseId ingredientId : Id)
  quantity : Quantity

structure PlanLine where
  productId : Id
  variantId : Option Id
  quantity : Int

def selectWarehouse (setup : Setup) (tenantId storeId : Id) : Option Warehouse :=
  let warehouses := setup.warehouses.filter fun w =>
    w.tenantId = tenantId ∧ w.isActive ∧ (w.storeId = some storeId ∨ w.storeId = none)
  let rank (w : Warehouse) : Nat := if w.storeId = some storeId then 0 else 1
  (warehouses.insertionSort fun left right => rank left ≤ rank right).head?

def effectiveRows (setup : Setup) (tenantId : Id) (line : PlanLine) : List RecipeBom :=
  let bomRows := setup.recipeBoms.filter fun row =>
    row.tenantId = tenantId ∧ row.productId = line.productId
  let variantRows := match line.variantId with
    | some variantId => bomRows.filter fun row => row.variantId = some variantId
    | none => []
  let fallbackRows := bomRows.filter fun row => row.variantId = none
  if variantRows = [] then fallbackRows else variantRows

/-- `totals.set(id, (totals.get(id) ?? 0) + quantity)` on a map in insertion order. -/
def addToTotal (ingredientId : Id) (quantity : Quantity) :
    List (Id × Quantity) → List (Id × Quantity)
  | [] => [(ingredientId, quantity)]
  | (id, total) :: rest =>
    if id = ingredientId then (id, total + quantity) :: rest
    else (id, total) :: addToTotal ingredientId quantity rest

def ingredientTotals (setup : Setup) (tenantId : Id) (lines : List PlanLine) :
    List (Id × Quantity) :=
  lines.foldl (fun totals line =>
    (effectiveRows setup tenantId line).foldl (fun totals row =>
      let requiredQuantity := row.quantity * line.quantity
      if requiredQuantity ≤ 0 then totals
      else addToTotal row.ingredientId requiredQuantity totals) totals) []

def findItem (db : Db) (warehouseId ingredientId : Id) : Option InventoryItem :=
  db.stock.items.find? fun item => item.warehouseId = warehouseId ∧ item.ingredientId = ingredientId

def stopThreshold (setup : Setup) (tenantId storeId warehouseId ingredientId : Id) : Quantity :=
  let stopRules := setup.stopListRules.filter fun rule =>
    rule.tenantId = tenantId ∧ rule.isActive ∧ rule.ruleType = "LOW_STOCK"
  stopRules.foldl (fun highest rule =>
    if rule.storeId.all (· = storeId) && rule.warehouseId.all (· = warehouseId) &&
        rule.ingredientId.all (· = ingredientId) then max highest rule.threshold
    else highest) 0

def buildReservationPlanTx (tenantId storeId : Id) (lines : List PlanLine) (db : Db) :
    Except ApiException (List InventoryReservationPlanEntry) :=
  if lines = [] then .ok []
  else match selectWarehouse db.setup tenantId storeId with
    | none => .ok []
    | some warehouse =>
      (ingredientTotals db.setup tenantId lines).mapM fun (ingredientId, quantity) => do
        let item := findItem db warehouse.id ingredientId
        let available := (item.map InventoryItem.onHand).getD 0 - (item.map InventoryItem.reserved).getD 0
        rejectIf
          (available < quantity ∨
            available ≤ stopThreshold db.setup tenantId storeId warehouse.id ingredientId)
          (.badRequest "Order cannot be placed because stock is unavailable.")
        pure ⟨warehouse.id, ingredientId, quantity⟩

def getOrCreateItemTx (tenantId warehouseId ingredientId : Id) : Transaction InventoryItem := do
  match ← Tx.read fun db => .ok (findItem db warehouseId ingredientId) with
  | some existing => pure existing
  | none =>
    let id ← freshId
    inventoryItems.create
      { id, tenantId, warehouseId, ingredientId, onHand := 0, reserved := 0, reorderPoint := 0 }

def orderReservation (tenantId orderId id : Id) (entry : InventoryReservationPlanEntry) :
    StockReservation where
  id := id
  tenantId := tenantId
  warehouseId := entry.warehouseId
  ingredientId := entry.ingredientId
  sourceType := "order"
  sourceId := orderId
  quantity := entry.quantity
  status := .active

def reserveOrderInventoryTx (tenantId orderId : Id)
    (reservations : List InventoryReservationPlanEntry) : Transaction Unit :=
  reservations.forM fun reservation => do
    let item ← getOrCreateItemTx tenantId reservation.warehouseId reservation.ingredientId
    let id ← freshId
    let _ ← stockReservations.create (orderReservation tenantId orderId id reservation)
    let _ ← inventoryItems.update item.id fun row =>
      { row with reserved := item.reserved + reservation.quantity }
    pure ()

/-- The `where` of both reads below. -/
def isActiveFor (tenantId orderId : Id) (r : StockReservation) : Bool :=
  r.tenantId = tenantId ∧ r.sourceType = "order" ∧ r.sourceId = orderId ∧ r.status = .active

def releaseReservation (reservation : StockReservation) : Transaction Unit := do
  match ← Tx.read fun db => .ok (findItem db reservation.warehouseId reservation.ingredientId) with
  | none => pure ()
  | some item =>
    let _ ← inventoryItems.update item.id fun row =>
      { row with reserved := max (item.reserved - reservation.quantity) 0 }
    let _ ← stockReservations.update reservation.id fun row => { row with status := .released }
    pure ()

def releaseOrderInventoryReservationsTx (tenantId orderId : Id) : Transaction Nat := do
  let reservations ← Tx.read fun db => .ok (db.stock.reservations.filter (isActiveFor tenantId orderId))
  reservations.forM releaseReservation
  pure reservations.length

def consumeReservation (tenantId : Id) (reservation : StockReservation) : Transaction Unit := do
  match ← Tx.read fun db => .ok (findItem db reservation.warehouseId reservation.ingredientId) with
  | none => pure ()
  | some item =>
    let nextOnHand := max (item.onHand - reservation.quantity) 0
    let _ ← inventoryItems.update item.id fun row =>
      { row with onHand := nextOnHand, reserved := max (item.reserved - reservation.quantity) 0 }
    let _ ← stockReservations.update reservation.id fun row => { row with status := .consumed }
    let id ← freshId
    let _ ← stockLedgerEntries.create
      { id, tenantId
        warehouseId := reservation.warehouseId
        ingredientId := reservation.ingredientId
        entryType := "CONSUME"
        quantity := -reservation.quantity
        balanceAfter := nextOnHand
        sourceType := "reservation"
        sourceId := reservation.id }
    pure ()

def consumeOrderInventoryReservationsTx (tenantId orderId : Id) : Transaction Nat := do
  let reservations ← Tx.read fun db => .ok (db.stock.reservations.filter (isActiveFor tenantId orderId))
  reservations.forM (consumeReservation tenantId)
  pure reservations.length

end Exetron.Inventory
