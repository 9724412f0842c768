import Exetron.Inventory.Steps
import Exetron.Inventory.Service
import Exetron.Lib.Trace

/-!
# Moves of the stock

Every transaction on the stock is a sequence of a few moves: an item is opened, a reservation is
made, released or consumed, an item is counted anew. What holds of the moves holds of them all.
-/

namespace Exetron

open Lib List

variable {item : InventoryItem} {f : InventoryItem → InventoryItem}

abbrev Inventory.Place := Id × Id

def InventoryItem.place (item : InventoryItem) : Inventory.Place :=
  (item.warehouseId, item.ingredientId)

def StockReservation.place (r : StockReservation) : Inventory.Place :=
  (r.warehouseId, r.ingredientId)

def StockLedgerEntry.place (entry : StockLedgerEntry) : Inventory.Place :=
  (entry.warehouseId, entry.ingredientId)

namespace Inventory

/-- The stock tables and the supply of keys. -/
structure StockState where
  tables : StockTables
  nextId : Id

def stockState (db : Db) : StockState := ⟨db.stock, db.nextId⟩

inductive StockMove where
  /-- Keys are given to other rows. -/
  | keysGiven (nextId : Id)
  | opened (item : InventoryItem)
  | reserved (item : InventoryItem) (r : StockReservation) (amount : Quantity)
  | released (item : InventoryItem) (r : StockReservation)
  | consumed (item : InventoryItem) (r : StockReservation) (entry : StockLedgerEntry)
  | counted (item : InventoryItem) (entry : StockLedgerEntry)

def modifyItem (item : InventoryItem) (f : InventoryItem → InventoryItem) (t : StockTables) :
    StockTables :=
  { t with items := Rows.modify InventoryItem.id item.id f t.items }

def setStatus (r : StockReservation) (status : ReservationStatus) (t : StockTables) : StockTables :=
  { t with
    reservations := Rows.modify StockReservation.id r.id (fun row => { row with status := status })
      t.reservations }

def addReservation (r : StockReservation) (t : StockTables) : StockTables :=
  { t with reservations := t.reservations ++ [r] }

def addEntry (entry : StockLedgerEntry) (t : StockTables) : StockTables :=
  { t with ledger := t.ledger ++ [entry] }

def StockMove.apply (s : StockState) : StockMove → StockState
  | .keysGiven nextId => ⟨s.tables, nextId⟩
  | .opened item => ⟨{ s.tables with items := s.tables.items ++ [item] }, s.nextId + 1⟩
  | .reserved item r amount =>
    ⟨modifyItem item (fun row => { row with reserved := amount }) (addReservation r s.tables),
      s.nextId + 1⟩
  | .released item r =>
    ⟨setStatus r .released
      (modifyItem item (fun row => { row with reserved := max (item.reserved - r.quantity) 0 })
        s.tables), s.nextId⟩
  | .consumed item r entry =>
    ⟨addEntry entry (setStatus r .consumed (modifyItem item (fun row => { row with
        onHand := max (item.onHand - r.quantity) 0
        reserved := max (item.reserved - r.quantity) 0 }) s.tables)), s.nextId + 1⟩
  | .counted item entry =>
    ⟨addEntry entry
      (modifyItem item (fun row => { row with onHand := entry.balanceAfter }) s.tables),
      s.nextId + 1⟩

def StockMove.Fits (s : StockState) : StockMove → Prop
  | .keysGiven nextId => s.nextId ≤ nextId
  | .opened item => item.id = s.nextId ∧ item.place ∉ s.tables.items.map InventoryItem.place ∧
      item.onHand = 0 ∧ item.reserved = 0
  | .reserved item r _ => item ∈ s.tables.items ∧ r.id = s.nextId ∧ r.place = item.place ∧
      r.status = .active
  | .released item r => item ∈ s.tables.items ∧ r ∈ s.tables.reservations ∧ r.place = item.place ∧
      r.status = .active
  | .consumed item r entry => item ∈ s.tables.items ∧ r ∈ s.tables.reservations ∧
      r.place = item.place ∧ r.status = .active ∧ entry.place = item.place ∧
      entry.quantity = -r.quantity ∧ entry.balanceAfter = max (item.onHand - r.quantity) 0
  | .counted item entry => item ∈ s.tables.items ∧ entry.place = item.place

/-- A sequence of moves, each fitting and meeting `C`. -/
abbrev Moved (C : StockState → StockMove → Prop) : StockState → StockState → Prop :=
  Trace.Path StockMove.apply fun s m => m.Fits s ∧ C s m

/-- Rows have keys of their own, a place has one item, and what is reserved is of an item. -/
structure StockKeys (s : StockState) : Prop where
  items : (s.tables.items.map InventoryItem.id).Nodup
  itemsOld : ∀ id ∈ s.tables.items.map InventoryItem.id, id < s.nextId
  places : (s.tables.items.map InventoryItem.place).Nodup
  reservations : (s.tables.reservations.map StockReservation.id).Nodup
  reservationsOld : ∀ id ∈ s.tables.reservations.map StockReservation.id, id < s.nextId
  homes : ∀ r ∈ s.tables.reservations, r.status = .active →
    r.place ∈ s.tables.items.map InventoryItem.place

section
variable {s : StockState}

theorem StockKeys.item_eq (keys : StockKeys s) {item' : InventoryItem} (h : item ∈ s.tables.items)
    (h' : item' ∈ s.tables.items) (same : item.id = item'.id) : item = item' :=
  Rows.eq_of_key keys.items h h' same

theorem StockKeys.place_eq (keys : StockKeys s) {item' : InventoryItem} (h : item ∈ s.tables.items)
    (h' : item' ∈ s.tables.items) (same : item.place = item'.place) : item = item' :=
  Rows.eq_of_key keys.places h h' same

theorem StockKeys.reservation_eq (keys : StockKeys s) {r r' : StockReservation}
    (h : r ∈ s.tables.reservations) (h' : r' ∈ s.tables.reservations) (same : r.id = r'.id) :
    r = r' :=
  Rows.eq_of_key keys.reservations h h' same

theorem mem_modifyItem (keys : StockKeys s) {item' : InventoryItem} {t : StockTables}
    (h : item ∈ s.tables.items) (same : t.items = s.tables.items) :
    item' ∈ (modifyItem item f t).items ↔
      item' = f item ∨ (item' ∈ s.tables.items ∧ item'.id ≠ item.id) := by
  rw [modifyItem, Rows.mem_modify, same]
  constructor
  · rintro ⟨row, stored, rfl⟩
    by_cases is : row.id = item.id
    · rw [if_pos is, keys.item_eq stored h is]
      exact Or.inl rfl
    · rw [if_neg is]
      exact Or.inr ⟨stored, is⟩
  · rintro (rfl | ⟨stored, other⟩)
    · exact ⟨item, h, if_pos rfl⟩
    · exact ⟨item', stored, if_neg other⟩

theorem StockKeys.rewritten {s' : StockState} (keys : StockKeys s)
    (items : s'.tables.items.map InventoryItem.id = s.tables.items.map InventoryItem.id)
    (places : s'.tables.items.map InventoryItem.place = s.tables.items.map InventoryItem.place)
    (reservations : s'.tables.reservations.map StockReservation.id =
      s.tables.reservations.map StockReservation.id)
    (active : ∀ r' ∈ s'.tables.reservations, r'.status = .active →
      ∃ r ∈ s.tables.reservations, r.status = .active ∧ r'.place = r.place)
    (grows : s.nextId ≤ s'.nextId) : StockKeys s' where
  items := items ▸ keys.items
  itemsOld id listed := lt_of_lt_of_le (keys.itemsOld id (items ▸ listed)) grows
  places := places ▸ keys.places
  reservations := reservations ▸ keys.reservations
  reservationsOld id listed :=
    lt_of_lt_of_le (keys.reservationsOld id (reservations ▸ listed)) grows
  homes r' stored live := by
    obtain ⟨r, before, was, same⟩ := active r' stored live
    rw [places, same]
    exact keys.homes r before was

theorem ids_modifyItem (item : InventoryItem) (keeps : ∀ row, (f row).id = row.id)
    (t : StockTables) :
    (modifyItem item f t).items.map InventoryItem.id = t.items.map InventoryItem.id :=
  Rows.map_modify keeps t.items

theorem places_modifyItem (item : InventoryItem) (keeps : ∀ row, (f row).place = row.place)
    (t : StockTables) :
    (modifyItem item f t).items.map InventoryItem.place = t.items.map InventoryItem.place :=
  Rows.map_modify keeps t.items

theorem ids_setStatus (r : StockReservation) (status : ReservationStatus) (t : StockTables) :
    (setStatus r status t).reservations.map StockReservation.id =
      t.reservations.map StockReservation.id := by
  have keeps : ∀ row : StockReservation, ({ row with status := status } : StockReservation).id =
      row.id := fun _ => rfl
  exact Rows.map_modify keeps t.reservations

theorem active_setStatus {r r' : StockReservation} {status : ReservationStatus} {t : StockTables}
    (settled : status ≠ .active) (stored : r' ∈ (setStatus r status t).reservations)
    (live : r'.status = .active) : r' ∈ t.reservations ∧ r'.id ≠ r.id := by
  obtain ⟨row, before, rfl⟩ := Rows.mem_modify.mp stored
  by_cases is : row.id = r.id
  · rw [if_pos is] at live
    exact absurd live settled
  · rw [if_neg is]
    exact ⟨before, is⟩

theorem StockKeys.addItem (keys : StockKeys s) (id : item.id = s.nextId)
    (place : item.place ∉ s.tables.items.map InventoryItem.place) :
    StockKeys ⟨{ s.tables with items := s.tables.items ++ [item] }, s.nextId + 1⟩ where
  items := by
    rw [map_append, map_singleton, id]
    exact Rows.nodup_append_new keys.items keys.itemsOld
  itemsOld := by
    rw [map_append, map_singleton, id]
    exact Rows.old_append_new keys.itemsOld
  places := by
    rw [map_append, map_singleton]
    exact nodup_append_comm.mp (nodup_cons.mpr ⟨place, keys.places⟩)
  reservations := keys.reservations
  reservationsOld k listed := lt_trans (keys.reservationsOld k listed) (Nat.lt_succ_self _)
  homes r stored live := by
    rw [map_append]
    exact mem_append_left _ (keys.homes r stored live)

theorem StockKeys.addReservation (keys : StockKeys s) {r : StockReservation} (id : r.id = s.nextId)
    (home : r.place ∈ s.tables.items.map InventoryItem.place) :
    StockKeys ⟨addReservation r s.tables, s.nextId + 1⟩ where
  items := keys.items
  itemsOld k listed := lt_trans (keys.itemsOld k listed) (Nat.lt_succ_self _)
  places := keys.places
  reservations := by
    rw [Inventory.addReservation, map_append, map_singleton, id]
    exact Rows.nodup_append_new keys.reservations keys.reservationsOld
  reservationsOld := by
    rw [Inventory.addReservation, map_append, map_singleton, id]
    exact Rows.old_append_new keys.reservationsOld
  homes r' stored live := by
    rcases mem_append.mp stored with before | new
    · exact keys.homes r' before live
    · rw [mem_singleton.mp new]
      exact home

theorem StockKeys.modifyItem (keys : StockKeys s) (item : InventoryItem)
    (id : ∀ row, (f row).id = row.id) (place : ∀ row, (f row).place = row.place) :
    StockKeys ⟨modifyItem item f s.tables, s.nextId⟩ :=
  keys.rewritten (ids_modifyItem item id s.tables) (places_modifyItem item place s.tables) rfl
    (fun r stored live => ⟨r, stored, live, rfl⟩) (le_refl _)

theorem StockKeys.setStatus (keys : StockKeys s) (r : StockReservation)
    {status : ReservationStatus} (settled : status ≠ .active) :
    StockKeys ⟨setStatus r status s.tables, s.nextId⟩ :=
  keys.rewritten rfl rfl (ids_setStatus r status s.tables)
    (fun r' stored live => ⟨r', (active_setStatus settled stored live).1, live, rfl⟩) (le_refl _)

theorem StockKeys.later (keys : StockKeys s) {n : Id} (grows : s.nextId ≤ n) :
    StockKeys ⟨s.tables, n⟩ :=
  keys.rewritten rfl rfl rfl (fun r stored live => ⟨r, stored, live, rfl⟩) grows

theorem StockKeys.addEntry (keys : StockKeys s) (entry : StockLedgerEntry) :
    StockKeys ⟨addEntry entry s.tables, s.nextId + 1⟩ :=
  keys.rewritten rfl rfl rfl (fun r stored live => ⟨r, stored, live, rfl⟩) (Nat.le_succ _)

theorem StockKeys.apply (keys : StockKeys s) {m : StockMove} (fits : m.Fits s) :
    StockKeys (m.apply s) := by
  cases m with
  | keysGiven nextId => exact keys.later fits
  | opened item => exact keys.addItem fits.1 fits.2.1
  | reserved item r amount =>
    obtain ⟨stored, id, place, _⟩ := fits
    have home : r.place ∈ s.tables.items.map InventoryItem.place := by
      rw [place]
      exact mem_map_of_mem stored
    exact (keys.addReservation id home).modifyItem item (fun _ => rfl) fun _ => rfl
  | released item r =>
    have released : ReservationStatus.released ≠ .active := by decide
    exact (keys.modifyItem item (f := fun row => { row with
      reserved := max (item.reserved - r.quantity) 0 }) (fun _ => rfl) fun _ => rfl).setStatus r
        released
  | consumed item r entry =>
    have consumed : ReservationStatus.consumed ≠ .active := by decide
    exact ((keys.modifyItem item (f := fun row => { row with
      onHand := max (item.onHand - r.quantity) 0
      reserved := max (item.reserved - r.quantity) 0 }) (fun _ => rfl) fun _ => rfl).setStatus r
        consumed).addEntry entry
  | counted item entry =>
    exact (keys.modifyItem item (f := fun row => { row with onHand := entry.balanceAfter })
      (fun _ => rfl) fun _ => rfl).addEntry entry

theorem moved_invariant {C : StockState → StockMove → Prop} {P : StockState → Prop}
    (keeps : ∀ s m, StockKeys s → m.Fits s → C s m → P s → P (m.apply s)) {s' : StockState}
    (h : Moved C s s') (keys : StockKeys s) (start : P s) : StockKeys s' ∧ P s' := by
  have both : ∀ (s : StockState) (m : StockMove), StockKeys s ∧ P s → m.Fits s ∧ C s m →
      StockKeys (m.apply s) ∧ P (m.apply s) :=
    fun s m inv meets => ⟨inv.1.apply meets.1, keeps s m inv.1 meets.1 meets.2 inv.2⟩
  exact Trace.path_invariant both h ⟨keys, start⟩

end

end Inventory

end Exetron
