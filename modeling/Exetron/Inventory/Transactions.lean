import Exetron.Inventory.Moves

/-!
# Transactions in moves

Which moves the transactions of orders and of the inventory service are made of.
-/

namespace Exetron.Inventory

open Lib List Tx Table

variable {db db' : Db} {item : InventoryItem} {tenantId id orderId : Id} {u : Unit}
  {context : RequestContext} {result : StockReservation}

theorem findItem_found {w i : Id} (h : findItem db w i = some item) :
    item ∈ db.stock.items ∧ item.place = (w, i) := by
  have matched : item.warehouseId = w ∧ item.ingredientId = i := by simpa using find?_some h
  exact ⟨mem_of_find?_eq_some h, Prod.ext_iff.mpr matched⟩

theorem findItem_absent {w i : Id} (h : findItem db w i = none) :
    (w, i) ∉ db.stock.items.map InventoryItem.place :=
  findItem_none h

theorem findItem_of_place (keys : StockKeys (stockState db)) (stored : item ∈ db.stock.items) :
    findItem db item.warehouseId item.ingredientId = some item := by
  cases found : findItem db item.warehouseId item.ingredientId with
  | none => exact absurd (mem_map_of_mem stored) (findItem_absent found)
  | some other =>
    obtain ⟨stored', place⟩ := findItem_found found
    rw [keys.place_eq stored' stored place]

def onHandAt (db : Db) (place : Place) : Quantity :=
  ((findItem db place.1 place.2).map InventoryItem.onHand).getD 0

def reservedAt (db : Db) (place : Place) : Quantity :=
  ((findItem db place.1 place.2).map InventoryItem.reserved).getD 0

theorem onHandAt_place (keys : StockKeys (stockState db)) (stored : item ∈ db.stock.items) :
    onHandAt db item.place = item.onHand := by
  simp only [onHandAt, InventoryItem.place, findItem_of_place keys stored, Option.map_some,
    Option.getD_some]

theorem reservedAt_place (keys : StockKeys (stockState db)) (stored : item ∈ db.stock.items) :
    reservedAt db item.place = item.reserved := by
  simp only [reservedAt, InventoryItem.place, findItem_of_place keys stored, Option.map_some,
    Option.getD_some]

theorem findItem_of_absent {place : Place}
    (absent : place ∉ db.stock.items.map InventoryItem.place) :
    findItem db place.1 place.2 = none := by
  cases found : findItem db place.1 place.2 with
  | none => rfl
  | some item =>
    obtain ⟨stored, there⟩ := findItem_found found
    exact absurd (mem_map.mpr ⟨item, stored, there⟩) absent

theorem onHandAt_absent {place : Place} (absent : place ∉ db.stock.items.map InventoryItem.place) :
    onHandAt db place = 0 := by
  simp only [onHandAt, findItem_of_absent absent, Option.map_none, Option.getD_none]

theorem reservedAt_absent {place : Place}
    (absent : place ∉ db.stock.items.map InventoryItem.place) : reservedAt db place = 0 := by
  simp only [reservedAt, findItem_of_absent absent, Option.map_none, Option.getD_none]

/-- Moves that no condition speaks of. -/
structure Neutral (C : StockState → StockMove → Prop) : Prop where
  keysGiven : ∀ s nextId, C s (.keysGiven nextId)
  opened : ∀ s item, C s (.opened item)

/-- The state `s'` has the item, and it is `s` or the item was opened in it. -/
inductive Opens (s : StockState) (item : InventoryItem) : StockState → Prop
  | found : Opens s item s
  | opened (fits : (StockMove.opened item).Fits s) : Opens s item ((StockMove.opened item).apply s)

theorem getOrCreateItemTx_opens {w i : Id}
    (h : getOrCreateItemTx tenantId w i db = .ok (item, db')) :
    Opens (stockState db) item (stockState db') ∧ findItem db' w i = some item ∧
      item.onHand = onHandAt db (w, i) ∧ item.reserved = reservedAt db (w, i) := by
  simp only [getOrCreateItemTx, bind_ok_iff, read_ok_iff] at h
  obtain ⟨found, _, ⟨read, rfl⟩, h⟩ := h
  replace read := Except.ok.inj read
  cases found with
  | some existing =>
    obtain ⟨rfl, rfl⟩ := pure_ok_iff.mp h
    refine ⟨Opens.found, read, ?_, ?_⟩
    · simp only [onHandAt, read, Option.map_some, Option.getD_some]
    · simp only [reservedAt, read, Option.map_some, Option.getD_some]
  | none =>
    simp only [bind_ok_iff, freshId_ok_iff, create_ok_iff] at h
    obtain ⟨_, _, ⟨rfl, rfl⟩, rfl, rfl⟩ := h
    refine ⟨Opens.opened ⟨rfl, findItem_absent read, rfl, rfl⟩, ?_, ?_, ?_⟩
    · have unmatched := read
      simp only [findItem] at unmatched ⊢
      show find? _ (db.stock.items ++ [_]) = _
      rw [find?_append, unmatched]
      simp
    · simp only [onHandAt, read, Option.map_none, Option.getD_none]
    · simp only [reservedAt, read, Option.map_none, Option.getD_none]

/-- An item and a ledger row as `applyStockDeltaTx` finds the one and writes the other. -/
structure CountedBy (input : Service.StockDelta) (db : Db) (item : InventoryItem)
    (entry : StockLedgerEntry) : Prop where
  place : item.place = (input.warehouseId, input.ingredientId)
  onHand : item.onHand = onHandAt db (input.warehouseId, input.ingredientId)
  reserved : item.reserved = reservedAt db (input.warehouseId, input.ingredientId)
  quantity : entry.quantity = Service.toDecimal input.delta
  balance : entry.balanceAfter = Service.toDecimal (item.onHand + input.delta)

theorem applyStockDeltaTx_counts {input : Service.StockDelta}
    (h : Service.applyStockDeltaTx input db = .ok (u, db')) :
    ∃ m item entry, Opens (stockState db) item (stockState m) ∧ CountedBy input db item entry ∧
      (StockMove.counted item entry).Fits (stockState m) ∧
      stockState db' = (StockMove.counted item entry).apply (stockState m) := by
  simp only [Service.applyStockDeltaTx, bind_ok_iff, freshId_ok_iff, create_ok_iff,
    update_ok_iff, pure_ok_iff] at h
  obtain ⟨item, m, got, _, _, ⟨_, _, _, rfl⟩, _, _, ⟨rfl, rfl⟩, _, _, ⟨rfl, rfl⟩, _, rfl⟩ := h
  obtain ⟨opens, found, onHand, reserved⟩ := getOrCreateItemTx_opens got
  obtain ⟨stored, place⟩ := findItem_found found
  let entry : StockLedgerEntry :=
    { id := m.nextId
      tenantId := input.tenantId
      warehouseId := input.warehouseId
      ingredientId := input.ingredientId
      entryType := input.entryType
      quantity := Service.toDecimal input.delta
      balanceAfter := Service.toDecimal (item.onHand + input.delta)
      sourceType := input.sourceType
      sourceId := input.sourceId }
  exact ⟨m, item, entry, opens, ⟨place, onHand, reserved, rfl, rfl⟩, ⟨stored, place.symm⟩, rfl⟩

theorem CountedBy.received {record : ReceivingRecord} {line : ReceivingLine}
    {entry : StockLedgerEntry}
    (counted : CountedBy (Service.receivingDelta record line) db item entry) :
    entry.quantity = line.quantity ∧ entry.balanceAfter = item.onHand + line.quantity := by
  have whole : ((item.onHand : ℚ) + (Service.receivingDelta record line).delta) =
      ((item.onHand + line.quantity : Quantity) : ℚ) := by
    simp only [Service.receivingDelta]
    push_cast
    rfl
  constructor
  · rw [counted.quantity, Service.receivingDelta, Service.toDecimal, roundHalfAway_intCast]
  · rw [counted.balance, whole, Service.toDecimal, roundHalfAway_intCast]

def openRecord (context : RequestContext) (id : Id) (db : Db) :
    Option (ReceivingRecord × List ReceivingLine) :=
  match Service.getReceivingRecordTx id db with
  | .ok (record, lines) =>
    if (Service.resolveTenantId context record.tenantId).isOk ∧ record.status ≠ .completed then
      some (record, lines)
    else none
  | .error _ => none

theorem receiveTx_ok {now : Instant} {receivedBy : Option String}
    {result : ReceivingRecord × List ReceivingLine}
    (h : Service.receiveTx now context id receivedBy db = .ok (result, db')) :
    (openRecord context id db = none ∧ db' = db) ∨
      ∃ record lines m, openRecord context id db = some (record, lines) ∧
        lines.forM (fun line => Service.applyStockDeltaTx (Service.receivingDelta record line)) db =
          .ok ((), m) ∧ stockState db' = stockState m := by
  simp only [Service.receiveTx, Service.completeReceivingRecordTx, bind_ok_iff, read_ok_iff,
    lift_ok_iff] at h
  obtain ⟨⟨found, _⟩, _, ⟨first, rfl⟩, _, _, ⟨admitted, rfl⟩, ⟨record, lines⟩, _, ⟨read, rfl⟩, h⟩ := h
  obtain ⟨rfl, rfl⟩ := Prod.mk.inj (Except.ok.inj (first.symm.trans read))
  have accepted : (Service.resolveTenantId context found.tenantId).isOk := by
    rw [admitted]
    rfl
  split at h
  · rename_i completed
    obtain ⟨_, rfl⟩ := pure_ok_iff.mp h
    refine Or.inl ⟨?_, rfl⟩
    simp only [openRecord, read]
    exact if_neg fun is => is.2 completed
  · rename_i unfinished
    simp only [bind_ok_iff, read_ok_iff, update_ok_iff] at h
    obtain ⟨_, m, loop, _, _, ⟨_, _, _, rfl⟩, _, rfl⟩ := h
    refine Or.inr ⟨found, _, m, ?_, loop, rfl⟩
    simp only [openRecord, read]
    exact if_pos ⟨accepted, unfinished⟩

section
variable {C : StockState → StockMove → Prop} (neutral : Neutral C)
include neutral

theorem moved_keysGiven {s : StockState} {n : Id} (grows : s.nextId ≤ n) :
    Moved C s ⟨s.tables, n⟩ :=
  Trace.path_single (e := StockMove.keysGiven n) ⟨grows, neutral.keysGiven s n⟩

theorem Opens.moved {s s' : StockState} (opens : Opens s item s') : Moved C s s' := by
  cases opens with
  | found => exact Trace.path_refl _
  | opened fits => exact Trace.path_single ⟨fits, neutral.opened _ _⟩

theorem applyStockDeltaTx_moved {input : Service.StockDelta}
    (counts : ∀ s item entry, CountedBy input db item entry → C s (.counted item entry))
    (h : Service.applyStockDeltaTx input db = .ok (u, db')) :
    Moved C (stockState db) (stockState db') := by
  obtain ⟨m, item, entry, opens, counted, fits, after⟩ := applyStockDeltaTx_counts h
  rw [after]
  exact Trace.path_trans (opens.moved neutral)
    (Trace.path_single ⟨fits, counts (stockState m) item entry counted⟩)

theorem createAdjustmentTx_moved {dto : Service.CreateInventoryAdjustmentDto}
    {result : InventoryAdjustment}
    (counts : ∀ s item entry, (Service.resolveTenantId context dto.tenantId).isOk →
      item.place = (dto.warehouseId, dto.ingredientId) →
      item.onHand = onHandAt db (dto.warehouseId, dto.ingredientId) →
      item.reserved = reservedAt db (dto.warehouseId, dto.ingredientId) →
      entry.quantity = Service.toDecimal (Service.adjustmentDelta dto item.onHand) →
      entry.balanceAfter =
        Service.toDecimal (item.onHand + Service.adjustmentDelta dto item.onHand) →
      C s (.counted item entry))
    (h : Service.createAdjustmentTx context dto db = .ok (result, db')) :
    Moved C (stockState db) (stockState db') := by
  simp only [Service.createAdjustmentTx, bind_ok_iff, lift_ok_iff, freshId_ok_iff,
    create_ok_iff] at h
  obtain ⟨_, _, ⟨admitted, rfl⟩, current, m, got, _, _, ⟨rfl, rfl⟩, _, m', counted, _, _,
    ⟨rfl, rfl⟩, _, rfl⟩ := h
  have accepted : (Service.resolveTenantId context dto.tenantId).isOk := by
    rw [admitted]
    rfl
  obtain ⟨opens, found, onHand, reserved⟩ := getOrCreateItemTx_opens got
  have again : findItem { m with nextId := m.nextId + 1 } dto.warehouseId dto.ingredientId =
      some current := found
  refine Trace.path_trans (opens.moved neutral)
    (Trace.path_trans (moved_keysGiven neutral (Nat.le_succ _)) ?_)
  refine Trace.path_trans (applyStockDeltaTx_moved neutral ?_ counted)
    (moved_keysGiven neutral (Nat.le_succ _))
  rintro s item entry ⟨place, itemOnHand, itemReserved, quantity, balance⟩
  simp only [onHandAt, reservedAt, again, Option.map_some, Option.getD_some] at itemOnHand itemReserved
  rw [← itemOnHand] at quantity balance
  exact counts s item entry accepted place (itemOnHand.trans onHand) (itemReserved.trans reserved)
    quantity balance

theorem createReceivingRecordTx_moved {dto : Service.CreateReceivingDto}
    {result : ReceivingRecord × List ReceivingLine}
    (h : Service.createReceivingRecordTx context dto db = .ok (result, db')) :
    Moved C (stockState db) (stockState db') := by
  simp only [Service.createReceivingRecordTx, bind_ok_iff, lift_ok_iff, read_ok_iff,
    freshId_ok_iff, create_ok_iff] at h
  obtain ⟨_, _, ⟨_, rfl⟩, _, _, ⟨rfl, rfl⟩, _, _, ⟨rfl, rfl⟩, _, m, lines, _, rfl⟩ := h
  refine Trace.path_trans (moved_keysGiven neutral (Nat.le_succ _)) ?_
  refine forM_related (R := fun (a b : Db) => Moved C (stockState a) (stockState b))
    (fun _ => Trace.path_refl _) (fun _ _ _ => Trace.path_trans) ?_ lines
  intro line _ a b u step
  simp only [bind_ok_iff, freshId_ok_iff, create_ok_iff, pure_ok_iff] at step
  obtain ⟨_, _, ⟨rfl, rfl⟩, _, _, ⟨_, rfl⟩, _, rfl⟩ := step
  exact moved_keysGiven neutral (Nat.le_succ _)

theorem receiveTx_moved {now : Instant} {receivedBy : Option String}
    {result : ReceivingRecord × List ReceivingLine}
    (counts : ∀ s item entry (line : ReceivingLine), entry.quantity = line.quantity →
      entry.balanceAfter = item.onHand + line.quantity → C s (.counted item entry))
    (h : Service.receiveTx now context id receivedBy db = .ok (result, db')) :
    Moved C (stockState db) (stockState db') := by
  rcases receiveTx_ok h with ⟨_, rfl⟩ | ⟨record, lines, m, _, loop, after⟩
  · exact Trace.path_refl _
  · rw [after]
    refine forM_related (R := fun (a b : Db) => Moved C (stockState a) (stockState b))
      (fun _ => Trace.path_refl _) (fun _ _ _ => Trace.path_trans) ?_ loop
    intro line _ a b u step
    refine applyStockDeltaTx_moved neutral (fun s item entry counted => ?_) step
    obtain ⟨quantity, balance⟩ := counted.received
    exact counts s item entry line quantity balance

end

section
variable {C : StockState → StockMove → Prop}

theorem createReservationTx_ok {dto : Service.CreateStockReservationDto}
    (h : Service.createReservationTx context dto db = .ok (result, db')) :
    ∃ item, item.place = (dto.warehouseId, dto.ingredientId) ∧
      dto.quantity ≤ ((item.onHand - item.reserved : Quantity) : ℚ) ∧
      result.quantity = Service.toDecimal dto.quantity ∧
      (Service.admitReservation context dto db).isOk ∧
      (StockMove.reserved item result (Service.toDecimal (item.reserved + dto.quantity))).Fits
        (stockState db) ∧
      stockState db' = (StockMove.reserved item result
        (Service.toDecimal (item.reserved + dto.quantity))).apply (stockState db) := by
  simp only [Service.createReservationTx, bind_ok_iff, read_ok_iff, freshId_ok_iff,
    create_ok_iff, update_ok_iff, pure_ok_iff] at h
  obtain ⟨⟨tenantId, item⟩, _, ⟨admitted, rfl⟩, _, _, ⟨rfl, rfl⟩, _, _, ⟨rfl, rfl⟩, _, _,
    ⟨_, _, _, rfl⟩, rfl, rfl⟩ := h
  have accepted : (Service.admitReservation context dto db).isOk := by
    rw [admitted]
    rfl
  simp only [Service.admitReservation, except_bind_ok_iff, except_pure_ok_iff, required_ok_iff,
    rejectIf_ok_iff] at admitted
  obtain ⟨_, _, _, found, _, available, _, _, same⟩ := admitted
  obtain ⟨rfl, rfl⟩ := Prod.mk.inj same
  obtain ⟨stored, place⟩ := findItem_found (Option.filter_eq_some_iff.mp found).1
  exact ⟨_, place, not_lt.mp available, rfl, accepted, ⟨stored, rfl, place.symm, rfl⟩, rfl⟩

theorem createReservationTx_moved {dto : Service.CreateStockReservationDto}
    (reserves : (Service.admitReservation context dto db).isOk → ∀ item ∈ db.stock.items, ∀ r,
      dto.quantity ≤ ((item.onHand - item.reserved : Quantity) : ℚ) →
      r.quantity = Service.toDecimal dto.quantity →
      C (stockState db) (.reserved item r (Service.toDecimal (item.reserved + dto.quantity))))
    (h : Service.createReservationTx context dto db = .ok (result, db')) :
    Moved C (stockState db) (stockState db') := by
  obtain ⟨item, _, available, quantity, accepted, fits, after⟩ := createReservationTx_ok h
  rw [after]
  exact Trace.path_single ⟨fits, reserves accepted item fits.1 result available quantity⟩

theorem releaseReservationTx_moved {reservationId : Id}
    (releases : ∀ item ∈ db.stock.items, ∀ r ∈ db.stock.reservations,
      C (stockState db) (.released item r))
    (h : Service.releaseReservationTx context reservationId db = .ok (result, db')) :
    Moved C (stockState db) (stockState db') := by
  simp only [Service.releaseReservationTx, bind_ok_iff, read_ok_iff] at h
  obtain ⟨r, _, ⟨admitted, rfl⟩, h⟩ := h
  simp only [Service.admitSettlement, Service.getReservationTx, except_bind_ok_iff,
    except_pure_ok_iff, required_ok_iff] at admitted
  obtain ⟨_, found, _, _, rfl⟩ := admitted
  obtain ⟨stored, same⟩ := findUnique_mem found
  replace same : _ = reservationId := same
  split at h
  · obtain ⟨_, rfl⟩ := pure_ok_iff.mp h
    exact Trace.path_refl _
  · rename_i active
    simp only [bind_ok_iff, read_ok_iff, update_ok_iff, Service.itemOf, required_ok_iff] at h
    obtain ⟨item, _, ⟨placed, rfl⟩, _, _, ⟨_, _, _, rfl⟩, _, _, ⟨_, _, _, rfl⟩, _, rfl⟩ := h
    obtain ⟨listed, place⟩ := findItem_found placed
    subst same
    exact Trace.path_single (e := StockMove.released item _)
      ⟨⟨listed, stored, place.symm, not_not.mp active⟩, releases item listed _ stored⟩

theorem consumeReservationTx_ok {reservationId : Id}
    (h : Service.consumeReservationTx context reservationId db = .ok (result, db')) :
    ∃ r, Service.admitSettlement context reservationId db = .ok r ∧
      r ∈ db.stock.reservations ∧ r.id = reservationId ∧
      (r.status ≠ .active ∧ db' = db ∨
        ∃ item entry, (StockMove.consumed item r entry).Fits (stockState db) ∧
          stockState db' = (StockMove.consumed item r entry).apply (stockState db)) := by
  simp only [Service.consumeReservationTx, bind_ok_iff, read_ok_iff] at h
  obtain ⟨r, _, ⟨accepted, rfl⟩, h⟩ := h
  have admitted := accepted
  simp only [Service.admitSettlement, Service.getReservationTx, except_bind_ok_iff,
    except_pure_ok_iff, required_ok_iff] at admitted
  obtain ⟨reservation, found, _, _, rfl⟩ := admitted
  obtain ⟨stored, same⟩ := findUnique_mem found
  replace same : reservation.id = reservationId := same
  refine ⟨reservation, accepted, stored, same, ?_⟩
  split at h
  · rename_i inactive
    obtain ⟨_, rfl⟩ := pure_ok_iff.mp h
    exact Or.inl ⟨inactive, rfl⟩
  · rename_i active
    simp only [bind_ok_iff, read_ok_iff, update_ok_iff, Service.itemOf,
      required_ok_iff, freshId_ok_iff, create_ok_iff] at h
    obtain ⟨item, _, ⟨placed, rfl⟩, _, _, ⟨_, _, _, rfl⟩, _, _, ⟨_, _, _, rfl⟩, _, _, ⟨rfl, rfl⟩,
      _, _, ⟨rfl, rfl⟩, _, rfl⟩ := h
    obtain ⟨listed, place⟩ := findItem_found placed
    subst same
    let entry : StockLedgerEntry :=
      { id := db.nextId
        tenantId := reservation.tenantId
        warehouseId := reservation.warehouseId
        ingredientId := reservation.ingredientId
        entryType := "CONSUME"
        quantity := -reservation.quantity
        balanceAfter := max (item.onHand - reservation.quantity) 0
        sourceType := "reservation"
        sourceId := reservation.id }
    have fits : (StockMove.consumed item reservation entry).Fits (stockState db) :=
      ⟨listed, stored, place.symm, not_not.mp active, place.symm, rfl, rfl⟩
    exact Or.inr ⟨item, entry, fits, rfl⟩

theorem consumeReservationTx_moved {reservationId : Id}
    (consumes : ∀ item ∈ db.stock.items, ∀ r ∈ db.stock.reservations, ∀ entry,
      Service.admitSettlement context reservationId db = .ok r → r.status = .active →
      item.place = r.place → C (stockState db) (.consumed item r entry))
    (h : Service.consumeReservationTx context reservationId db = .ok (result, db')) :
    Moved C (stockState db) (stockState db') := by
  obtain ⟨r, admitted, _, _, ⟨_, rfl⟩ | ⟨item, entry, fits, after⟩⟩ := consumeReservationTx_ok h
  · exact Trace.path_refl _
  · have meets := fits
    obtain ⟨listed, stored, place, active, _⟩ := fits
    rw [after]
    exact Trace.path_single ⟨meets, consumes item listed r stored entry admitted active place.symm⟩

/-- The rows a loop has still to settle. -/
structure Pending (rs : List StockReservation) (db : Db) : Prop where
  keys : StockKeys (stockState db)
  ids : (rs.map StockReservation.id).Nodup
  stored : ∀ r ∈ rs, r ∈ db.stock.reservations
  active : ∀ r ∈ rs, r.status = .active

theorem pending_activeFor (keys : StockKeys (stockState db)) (tenantId orderId : Id) :
    Pending (db.stock.reservations.filter (isActiveFor tenantId orderId)) db where
  keys := keys
  ids := keys.reservations.sublist (filter_sublist.map _)
  stored _ listed := (mem_filter.mp listed).1
  active r listed := by
    have live := (mem_filter.mp listed).2
    simp only [isActiveFor, decide_eq_true_eq] at live
    exact live.2.2.2

/-- What one turn of a settling loop does. -/
structure SettlingTurn (r : StockReservation) (m : StockMove) (db db' : Db) : Prop where
  fits : m.Fits (stockState db)
  after : stockState db' = m.apply (stockState db)
  others : ∀ r' ∈ db.stock.reservations, r'.id ≠ r.id → r' ∈ db'.stock.reservations

theorem mem_setStatus_other {r r' : StockReservation} {status : ReservationStatus} {t : StockTables}
    (stored : r' ∈ t.reservations) (other : r'.id ≠ r.id) :
    r' ∈ (setStatus r status t).reservations :=
  Rows.mem_modify.mpr ⟨r', stored, if_neg other⟩

theorem SettlingTurn.pending {r : StockReservation} {rs : List StockReservation} {m : StockMove}
    {a b : Db} (turn : SettlingTurn r m a b) (pending : Pending (r :: rs) a) : Pending rs b := by
  obtain ⟨new, ids⟩ := nodup_cons.mp pending.ids
  exact
    { keys := by
        rw [turn.after]
        exact pending.keys.apply turn.fits
      ids := ids
      stored := fun r' listed => turn.others r' (pending.stored r' (mem_cons_of_mem _ listed))
        fun same => new (mem_map.mpr ⟨r', listed, same⟩)
      active := fun r' listed => pending.active r' (mem_cons_of_mem _ listed) }

theorem settlingLoop_moved {I : List StockReservation → StockState → Prop}
    {f : StockReservation → Transaction PUnit}
    (body : ∀ r rs db db' u, Pending (r :: rs) db → I (r :: rs) (stockState db) →
      f r db = .ok (u, db') → ∃ m, SettlingTurn r m db db' ∧ C (stockState db) m ∧
        I rs (stockState db')) {rs : List StockReservation} {u : PUnit} (pending : Pending rs db)
    (start : I rs (stockState db)) (h : rs.forM f db = .ok (u, db')) :
    Moved C (stockState db) (stockState db') := by
  refine (forM_related_of (R := fun (a b : Db) => Moved C (stockState a) (stockState b))
    (I := fun rs db => Pending rs db ∧ I rs (stockState db)) (fun _ => Trace.path_refl _)
    (fun _ _ _ => Trace.path_trans) ?_ ⟨pending, start⟩ h).1
  rintro r rs a b u ⟨pending, inv⟩ step
  obtain ⟨m, turn, meets, rest⟩ := body r rs a b u pending inv step
  have path : Moved C (stockState a) (stockState b) := by
    rw [turn.after]
    exact Trace.path_single ⟨turn.fits, meets⟩
  exact ⟨path, turn.pending pending, rest⟩

theorem releaseOrder_moved {I : List StockReservation → StockState → Prop}
    (each : ∀ s item r rs, (StockMove.released item r).Fits s → I (r :: rs) s →
      C s (.released item r) ∧ I rs ((StockMove.released item r).apply s)) {n : Nat}
    (keys : StockKeys (stockState db))
    (start : I (db.stock.reservations.filter (isActiveFor tenantId orderId)) (stockState db))
    (h : releaseOrderInventoryReservationsTx tenantId orderId db = .ok (n, db')) :
    Moved C (stockState db) (stockState db') := by
  simp only [releaseOrderInventoryReservationsTx, bind_ok_iff, read_ok_iff, pure_ok_iff] at h
  obtain ⟨_, _, ⟨read, rfl⟩, _, m, loop, _, rfl⟩ := h
  obtain rfl := Except.ok.inj read
  refine settlingLoop_moved ?_ (pending_activeFor keys tenantId orderId) start loop
  intro r rs a b u pending inv step
  have stored := pending.stored r mem_cons_self
  have active := pending.active r mem_cons_self
  simp only [releaseReservation, bind_ok_iff, read_ok_iff] at step
  obtain ⟨found, _, ⟨read, rfl⟩, step⟩ := step
  replace read := Except.ok.inj read
  cases found with
  | none => exact absurd (pending.keys.homes r stored active) (findItem_absent read)
  | some item =>
    simp only [bind_ok_iff, update_ok_iff, pure_ok_iff] at step
    obtain ⟨_, _, ⟨_, _, _, rfl⟩, _, _, ⟨_, _, _, rfl⟩, _, rfl⟩ := step
    obtain ⟨listed, place⟩ := findItem_found read
    have fits : (StockMove.released item r).Fits (stockState a) :=
      ⟨listed, stored, place.symm, active⟩
    obtain ⟨meets, rest⟩ := each _ item r rs fits inv
    exact ⟨_, ⟨fits, rfl, fun r' before other => mem_setStatus_other before other⟩, meets, rest⟩

theorem consumeReservation_turn {r : StockReservation} {rs : List StockReservation} {a b : Db}
    {u : PUnit} (pending : Pending (r :: rs) a) (h : consumeReservation tenantId r a = .ok (u, b)) :
    ∃ item entry, SettlingTurn r (.consumed item r entry) a b := by
  have stored := pending.stored r mem_cons_self
  have active := pending.active r mem_cons_self
  simp only [consumeReservation, bind_ok_iff, read_ok_iff] at h
  obtain ⟨found, _, ⟨read, rfl⟩, h⟩ := h
  replace read := Except.ok.inj read
  cases found with
  | none => exact absurd (pending.keys.homes r stored active) (findItem_absent read)
  | some item =>
    simp only [bind_ok_iff, update_ok_iff, freshId_ok_iff, create_ok_iff, pure_ok_iff] at h
    obtain ⟨_, _, ⟨_, _, _, rfl⟩, _, _, ⟨_, _, _, rfl⟩, _, _, ⟨rfl, rfl⟩, _, _, ⟨_, rfl⟩, _,
      rfl⟩ := h
    obtain ⟨listed, place⟩ := findItem_found read
    let entry : StockLedgerEntry :=
      { id := a.nextId
        tenantId := tenantId
        warehouseId := r.warehouseId
        ingredientId := r.ingredientId
        entryType := "CONSUME"
        quantity := -r.quantity
        balanceAfter := max (item.onHand - r.quantity) 0
        sourceType := "reservation"
        sourceId := r.id }
    have fits : (StockMove.consumed item r entry).Fits (stockState a) :=
      ⟨listed, stored, place.symm, active, place.symm, rfl, rfl⟩
    exact ⟨item, entry, fits, rfl, fun r' before other => mem_setStatus_other before other⟩

theorem consumeOrder_moved {I : List StockReservation → StockState → Prop}
    (each : ∀ s item r entry rs, StockKeys s → (StockMove.consumed item r entry).Fits s →
      I (r :: rs) s →
      C s (.consumed item r entry) ∧ I rs ((StockMove.consumed item r entry).apply s)) {n : Nat}
    (keys : StockKeys (stockState db))
    (start : I (db.stock.reservations.filter (isActiveFor tenantId orderId)) (stockState db))
    (h : consumeOrderInventoryReservationsTx tenantId orderId db = .ok (n, db')) :
    Moved C (stockState db) (stockState db') := by
  simp only [consumeOrderInventoryReservationsTx, bind_ok_iff, read_ok_iff, pure_ok_iff] at h
  obtain ⟨_, _, ⟨read, rfl⟩, _, m, loop, _, rfl⟩ := h
  obtain rfl := Except.ok.inj read
  refine settlingLoop_moved ?_ (pending_activeFor keys tenantId orderId) start loop
  intro r rs a b u pending inv step
  obtain ⟨item, entry, turn⟩ := consumeReservation_turn pending step
  obtain ⟨meets, rest⟩ := each _ item r entry rs pending.keys turn.fits inv
  rw [← turn.after] at rest
  exact ⟨_, turn, meets, rest⟩

end

/-- Amounts by ingredient: each ingredient once, each amount positive. -/
structure Totals (totals : List (Id × Quantity)) : Prop where
  keys : (totals.map Prod.fst).Nodup
  positive : ∀ e ∈ totals, 0 < e.2

theorem keys_addToTotal {k : Id} {q : Quantity} {totals : List (Id × Quantity)}
    (h : k ∈ (addToTotal id q totals).map Prod.fst) : k = id ∨ k ∈ totals.map Prod.fst := by
  induction totals with
  | nil => exact Or.inl (mem_singleton.mp h)
  | cons e rest ih =>
    obtain ⟨key, total⟩ := e
    simp only [addToTotal] at h
    split at h
    · exact Or.inr h
    · rcases mem_cons.mp h with rfl | later
      · exact Or.inr mem_cons_self
      · exact (ih later).imp (fun same => same) (mem_cons_of_mem _)

theorem addToTotal_totals {q : Quantity} {totals : List (Id × Quantity)} (positive : 0 < q)
    (h : Totals totals) : Totals (addToTotal id q totals) := by
  induction totals with
  | nil =>
    refine ⟨nodup_singleton _, fun e listed => ?_⟩
    rw [mem_singleton.mp listed]
    exact positive
  | cons e rest ih =>
    obtain ⟨key, total⟩ := e
    obtain ⟨new, keys⟩ := nodup_cons.mp h.keys
    have first := h.positive _ mem_cons_self
    have others := fun e listed => h.positive e (mem_cons_of_mem _ listed)
    simp only [addToTotal]
    split
    · refine ⟨nodup_cons.mpr ⟨new, keys⟩, fun e listed => ?_⟩
      rcases mem_cons.mp listed with rfl | later
      · exact add_pos first positive
      · exact others e later
    · rename_i other
      have rest' := ih ⟨keys, others⟩
      refine ⟨nodup_cons.mpr ⟨fun listed => ?_, rest'.keys⟩, fun e listed => ?_⟩
      · rcases keys_addToTotal listed with same | before
        · exact other same
        · exact new before
      · rcases mem_cons.mp listed with rfl | later
        · exact first
        · exact rest'.positive e later

theorem ingredientTotals_totals (setup : Setup) (tenantId : Id) (lines : List PlanLine) :
    Totals (ingredientTotals setup tenantId lines) := by
  refine foldlRecOn lines _ ⟨nodup_nil, fun e listed => absurd listed not_mem_nil⟩ ?_
  intro totals h line _
  refine foldlRecOn (effectiveRows setup tenantId line) _ h ?_
  intro totals h row _
  dsimp only
  split
  · exact h
  · exact addToTotal_totals (not_le.mp ‹_›) h

def InventoryReservationPlanEntry.place (entry : InventoryReservationPlanEntry) : Place :=
  (entry.warehouseId, entry.ingredientId)

/-- A plan that the stock can meet: each place once, for a positive amount that is available. -/
structure Planned (plan : List InventoryReservationPlanEntry) (s : StockState) : Prop where
  places : (plan.map InventoryReservationPlanEntry.place).Nodup
  available : ∀ e ∈ plan, 0 < e.quantity ∧ ∃ item ∈ s.tables.items, item.place = e.place ∧
    e.quantity ≤ item.onHand - item.reserved

theorem mapM_ok {α β : Type} {f : α → Except ApiException β} {g : α → β}
    (answers : ∀ x y, f x = .ok y → y = g x) {xs : List α} {ys : List β}
    (h : xs.mapM f = .ok ys) : ys = xs.map g ∧ ∀ x ∈ xs, f x = .ok (g x) := by
  induction xs generalizing ys with
  | nil =>
    rw [mapM_nil] at h
    exact ⟨(Except.ok.inj h).symm, fun x listed => absurd listed not_mem_nil⟩
  | cons x xs ih =>
    rw [mapM_cons] at h
    obtain ⟨y, first, h⟩ := except_bind_ok_iff.mp h
    obtain ⟨ys', rest, h⟩ := except_bind_ok_iff.mp h
    obtain rfl := answers x y first
    obtain ⟨rfl, others⟩ := ih rest
    refine ⟨(Except.ok.inj h).symm, fun x' listed => ?_⟩
    rcases mem_cons.mp listed with rfl | later
    · exact first
    · exact others x' later

theorem planned_of_ok {storeId : Id} {lines : List PlanLine}
    {plan : List InventoryReservationPlanEntry}
    (h : buildReservationPlanTx tenantId storeId lines db = .ok plan) :
    Planned plan (stockState db) := by
  have empty : Planned [] (stockState db) :=
    ⟨nodup_nil, fun e listed => absurd listed not_mem_nil⟩
  unfold buildReservationPlanTx at h
  split at h
  · rw [← Except.ok.inj h]
    exact empty
  split at h
  · rw [← Except.ok.inj h]
    exact empty
  rename_i warehouse _
  have totals := ingredientTotals_totals db.setup tenantId lines
  generalize ingredientTotals db.setup tenantId lines = amounts at h totals
  obtain ⟨rfl, admitted⟩ := mapM_ok (g := fun e => ⟨warehouse.id, e.1, e.2⟩) (fun x y answer => by
    simp only [except_bind_ok_iff, except_pure_ok_iff] at answer
    obtain ⟨_, _, rfl⟩ := answer
    rfl) h
  constructor
  · rw [map_map]
    have places : (amounts.map fun e => (warehouse.id, e.1)) =
        (amounts.map Prod.fst).map fun i => (warehouse.id, i) := by
      rw [map_map]
      rfl
    show (amounts.map fun e => (warehouse.id, e.1)).Nodup
    rw [places]
    exact totals.keys.map fun _ _ same => (Prod.mk.inj same).2
  · intro entry listed
    obtain ⟨e, member, rfl⟩ := mem_map.mp listed
    have positive := totals.positive e member
    refine ⟨positive, ?_⟩
    have answer := admitted e member
    simp only [except_bind_ok_iff, rejectIf_ok_iff, not_or, not_lt] at answer
    obtain ⟨_, ⟨available, _⟩, _⟩ := answer
    cases found : findItem db warehouse.id e.1 with
    | none =>
      rw [found] at available
      exact absurd (lt_of_lt_of_le positive available) (lt_irrefl _)
    | some item =>
      rw [found] at available
      obtain ⟨stored, place⟩ := findItem_found found
      exact ⟨item, stored, place, available⟩

def ReservesPlan (_ : StockState) : StockMove → Prop
  | .keysGiven _ | .opened _ => True
  | .reserved item r amount => 0 < r.quantity ∧ r.quantity ≤ item.onHand - item.reserved ∧
      amount = item.reserved + r.quantity
  | _ => False

theorem reserveOrderInventoryTx_cons {e : InventoryReservationPlanEntry}
    {plan : List InventoryReservationPlanEntry} (keys : StockKeys (stockState db))
    (planned : Planned (e :: plan) (stockState db))
    (h : reserveOrderInventoryTx tenantId orderId (e :: plan) db = .ok (u, db')) :
    ∃ item r m, item.place = e.place ∧ r.quantity = e.quantity ∧ 0 < e.quantity ∧
      e.quantity ≤ item.onHand - item.reserved ∧
      (StockMove.reserved item r (item.reserved + e.quantity)).Fits (stockState db) ∧
      stockState m =
        (StockMove.reserved item r (item.reserved + e.quantity)).apply (stockState db) ∧
      Planned plan (stockState m) ∧ reserveOrderInventoryTx tenantId orderId plan m = .ok (u, db') := by
  obtain ⟨positive, item, stored, place, available⟩ := planned.available e mem_cons_self
  have found : findItem db e.warehouseId e.ingredientId = some item := by
    have there := findItem_of_place keys stored
    rw [show item.warehouseId = e.warehouseId from congrArg Prod.fst place,
      show item.ingredientId = e.ingredientId from congrArg Prod.snd place] at there
    exact there
  obtain ⟨_, m, turn, others⟩ := bind_ok h
  simp only [getOrCreateItemTx, bind_ok_iff, read_ok_iff, freshId_ok_iff,
    create_ok_iff, update_ok_iff, pure_ok_iff] at turn
  obtain ⟨_, _, ⟨_, _, ⟨read, rfl⟩, got⟩, _, _, ⟨rfl, rfl⟩, _, _, ⟨rfl, rfl⟩, _, _,
    ⟨_, _, _, rfl⟩, _, rfl⟩ := turn
  rw [found] at read
  obtain rfl := Except.ok.inj read
  obtain ⟨rfl, rfl⟩ := pure_ok_iff.mp got
  let r := orderReservation tenantId orderId db.nextId e
  have fits : (StockMove.reserved item r (item.reserved + e.quantity)).Fits (stockState db) :=
    ⟨stored, rfl, place.symm, rfl⟩
  refine ⟨item, r, _, place, rfl, positive, available, fits, rfl, ?_, others⟩
  obtain ⟨new, places⟩ := nodup_cons.mp planned.places
  refine ⟨places, fun e' listed => ?_⟩
  obtain ⟨positive', item', stored', place', available'⟩ :=
    planned.available e' (mem_cons_of_mem _ listed)
  refine ⟨positive', item', ?_, place', available'⟩
  refine (mem_modifyItem keys stored rfl).mpr (Or.inr ⟨stored', fun same => new ?_⟩)
  rw [← place, ← keys.item_eq stored' stored same, place']
  exact mem_map_of_mem listed

theorem reserveOrderInventoryTx_moved {plan : List InventoryReservationPlanEntry}
    (keys : StockKeys (stockState db)) (planned : Planned plan (stockState db))
    (h : reserveOrderInventoryTx tenantId orderId plan db = .ok (u, db')) :
    Moved ReservesPlan (stockState db) (stockState db') := by
  induction plan generalizing db with
  | nil =>
    obtain ⟨_, rfl⟩ := pure_ok_iff.mp h
    exact Trace.path_refl _
  | cons e plan ih =>
    obtain ⟨item, r, m, _, quantity, positive, available, fits, after, planned', others⟩ :=
      reserveOrderInventoryTx_cons keys planned h
    have meets : ReservesPlan (stockState db) (.reserved item r (item.reserved + e.quantity)) := by
      rw [ReservesPlan, quantity]
      exact ⟨positive, available, rfl⟩
    have keys' : StockKeys (stockState m) := by
      rw [after]
      exact keys.apply fits
    refine Trace.path_trans ?_ (ih keys' planned' others)
    rw [after]
    exact Trace.path_single ⟨fits, meets⟩

end Exetron.Inventory
