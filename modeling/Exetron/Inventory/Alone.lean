import Exetron.Inventory.Concurrent
import Exetron.Inventory.Runs
import Exetron.Inventory.Promised

/-!
# Stock transactions alone

The statements that a stock transaction makes on an item are those of the service: run alone,
they leave the counters that the service's transaction leaves.
-/

namespace Exetron.Inventory.Concurrent

open Lib ReadCommitted List

variable {u : Unit} {tenantId orderId : Id}

/-- The row has the counters of the item at the place. -/
structure Shows (db : Db) (place : Place) (row : ItemRow) : Prop where
  onHand : onHandAt db place = row.onHand
  reserved : reservedAt db place = row.reserved

section
variable {db db' : Db} {item : InventoryItem} {place : Place}

theorem shows_of_mem (keys : StockKeys (stockState db)) (stored : item ∈ db.stock.items)
    (there : item.place = place) {row : ItemRow} :
    Shows db place row ↔ item.onHand = row.onHand ∧ item.reserved = row.reserved := by
  subst there
  constructor
  · rintro ⟨onHand, reserved⟩
    rw [onHandAt_place keys stored] at onHand
    rw [reservedAt_place keys stored] at reserved
    exact ⟨onHand, reserved⟩
  · rintro ⟨onHand, reserved⟩
    exact ⟨(onHandAt_place keys stored).trans onHand, (reservedAt_place keys stored).trans reserved⟩

theorem shows_of_absent (absent : place ∉ db.stock.items.map InventoryItem.place) {row : ItemRow} :
    Shows db place row ↔ row.onHand = 0 ∧ row.reserved = 0 := by
  constructor
  · rintro ⟨onHand, reserved⟩
    rw [onHandAt_absent absent] at onHand
    rw [reservedAt_absent absent] at reserved
    exact ⟨onHand.symm, reserved.symm⟩
  · rintro ⟨onHand, reserved⟩
    exact ⟨(onHandAt_absent absent).trans onHand.symm,
      (reservedAt_absent absent).trans reserved.symm⟩

theorem shows_of_stock (stock : db'.stock = db.stock) {row : ItemRow}
    (shows_ : Shows db place row) : Shows db' place row := by
  obtain ⟨onHand, reserved⟩ := shows_
  simp only [onHandAt, reservedAt, findItem] at onHand reserved
  constructor
  · simp only [onHandAt, findItem, stock]
    exact onHand
  · simp only [reservedAt, findItem, stock]
    exact reserved

theorem shows_elsewhere (keys : StockKeys (stockState db)) (keys' : StockKeys (stockState db'))
    (stored : item ∈ db.stock.items) {f : InventoryItem → InventoryItem}
    (items : db'.stock.items = (modifyItem item f db.stock).items)
    (keeps : ∀ row, (f row).place = row.place) (elsewhere : item.place ≠ place)
    {row : ItemRow} (shows_ : Shows db place row) : Shows db' place row := by
  have places : db'.stock.items.map InventoryItem.place = db.stock.items.map InventoryItem.place := by
    rw [items]
    exact places_modifyItem item keeps db.stock
  by_cases listed : place ∈ db.stock.items.map InventoryItem.place
  · obtain ⟨item', stored', there⟩ := mem_map.mp listed
    have kept : item' ∈ db'.stock.items := by
      rw [items]
      refine (mem_modifyItem keys stored rfl).mpr (Or.inr ⟨stored', fun same => elsewhere ?_⟩)
      rw [← there, keys.item_eq stored' stored same]
    exact (shows_of_mem keys' kept there).mpr ((shows_of_mem keys stored' there).mp shows_)
  · have gone : place ∉ db'.stock.items.map InventoryItem.place := by
      rw [places]
      exact listed
    exact (shows_of_absent gone).mpr ((shows_of_absent listed).mp shows_)

theorem shows_there (keys : StockKeys (stockState db)) (keys' : StockKeys (stockState db'))
    (stored : item ∈ db.stock.items) {f : InventoryItem → InventoryItem}
    (items : db'.stock.items = (modifyItem item f db.stock).items)
    (keeps : ∀ row, (f row).place = row.place) (there : item.place = place)
    {row : ItemRow} (onHand : (f item).onHand = row.onHand)
    (reserved : (f item).reserved = row.reserved) : Shows db' place row := by
  have kept : f item ∈ db'.stock.items := by
    rw [items]
    exact (mem_modifyItem keys stored rfl).mpr (Or.inl rfl)
  exact (shows_of_mem keys' kept ((keeps item).trans there)).mpr ⟨onHand, reserved⟩

theorem shows_opens (keys : StockKeys (stockState db)) (opens : Opens (stockState db) item (stockState db'))
    {row : ItemRow} (shows_ : Shows db place row) :
    StockKeys (stockState db') ∧ Shows db' place row := by
  generalize is : stockState db' = s at opens
  cases opens with
  | found =>
    rw [← is]
    exact ⟨is ▸ keys, shows_of_stock (congrArg StockState.tables is) shows_⟩
  | opened fits =>
    have keys' : StockKeys (stockState db') := by
      rw [is]
      exact keys.apply fits
    obtain ⟨_, absent, onHand, reserved⟩ := fits
    have items : db'.stock.items = db.stock.items ++ [item] :=
      congrArg (fun s : StockState => s.tables.items) is
    refine ⟨is ▸ keys', ?_⟩
    by_cases listed : place ∈ db.stock.items.map InventoryItem.place
    · obtain ⟨item', stored', there⟩ := mem_map.mp listed
      have kept : item' ∈ db'.stock.items := by
        rw [items]
        exact mem_append_left _ stored'
      exact (shows_of_mem keys' kept there).mpr ((shows_of_mem keys stored' there).mp shows_)
    · obtain ⟨emptyOnHand, emptyReserved⟩ := (shows_of_absent listed).mp shows_
      by_cases there : item.place = place
      · have kept : item ∈ db'.stock.items := by
          rw [items]
          exact mem_append_right _ mem_cons_self
        exact (shows_of_mem keys' kept there).mpr
          ⟨onHand.trans emptyOnHand.symm, reserved.trans emptyReserved.symm⟩
      · have gone : place ∉ db'.stock.items.map InventoryItem.place := by
          rw [items, map_append, mem_append, map_singleton, mem_singleton]
          exact fun either => either.elim listed fun same => there same.symm
        exact (shows_of_absent gone).mpr ⟨emptyOnHand, emptyReserved⟩

end

section
variable {context : RequestContext} {db db' : Db} {place : Place} {row : ItemRow}

theorem createReservationTx_alone {dto : Service.CreateStockReservationDto}
    {result : StockReservation} (keys : StockKeys (stockState db))
    (shows_ : Shows db (dto.warehouseId, dto.ingredientId) row)
    (h : Service.createReservationTx context dto db = .ok (result, db')) :
    ∃ row', alone (statements (.createReservation dto)) row row = (row', true) ∧
      Shows db' (dto.warehouseId, dto.ingredientId) row' := by
  obtain ⟨item, place, available, _, _, fits, after⟩ := createReservationTx_ok h
  have stored := fits.1
  obtain ⟨onHand, reserved⟩ := (shows_of_mem keys stored place).mp shows_
  rw [onHand, reserved] at available
  have granted : ¬((row.available : Quantity) : ℚ) < dto.quantity := not_lt.mpr available
  have keys' : StockKeys (stockState db') := by
    rw [after]
    exact keys.apply fits
  have items : db'.stock.items = (modifyItem item (fun row : InventoryItem =>
      { row with reserved := Service.toDecimal (item.reserved + dto.quantity) }) db.stock).items :=
    congrArg (fun s : StockState => s.tables.items) after
  refine ⟨_, by
    simp only [statements, alone, if_neg granted]
    rfl, ?_⟩
  refine shows_there keys keys' stored items (fun _ => rfl) place onHand ?_
  show Service.toDecimal (item.reserved + dto.quantity) = _
  rw [reserved]

theorem consumeReservationTx_alone {r : StockReservation} {result : StockReservation}
    (keys : StockKeys (stockState db)) (shows_ : Shows db r.place row)
    (stored : r ∈ db.stock.reservations) (unsettled : r.id ∈ row.unsettled ↔ r.status = .active)
    (h : Service.consumeReservationTx context r.id db = .ok (result, db')) :
    ∃ row', alone (statements (.consumeReservation r)) row row = (row', true) ∧
      Shows db' r.place row' := by
  obtain ⟨found, _, listed, same, outcome⟩ := consumeReservationTx_ok h
  obtain rfl := keys.reservation_eq listed stored same
  rcases outcome with ⟨inactive, rfl⟩ | ⟨item, entry, fits, after⟩
  · have settled : found.id ∉ row.unsettled := fun is => inactive (unsettled.mp is)
    exact ⟨row, by simp only [statements, alone, if_neg settled], shows_⟩
  · have keys' : StockKeys (stockState db') := by
      rw [after]
      exact keys.apply fits
    obtain ⟨stored, _, home, active, _⟩ := fits
    obtain ⟨onHand, reserved⟩ := (shows_of_mem keys stored home.symm).mp shows_
    refine ⟨_, by
      simp only [statements, useUp, alone, if_pos (unsettled.mpr active)]
      rfl, ?_⟩
    have items : db'.stock.items = (modifyItem item (fun row : InventoryItem => { row with
          onHand := max (item.onHand - found.quantity) 0
          reserved := max (item.reserved - found.quantity) 0 }) db.stock).items :=
      congrArg (fun s : StockState => s.tables.items) after
    refine shows_there keys keys' stored items (fun _ => rfl) home.symm ?_ ?_
    · show max (item.onHand - found.quantity) 0 = _
      rw [onHand]
      rfl
    · show max (item.reserved - found.quantity) 0 = _
      rw [reserved]
      rfl

theorem applyStockDeltaTx_shows {input : Service.StockDelta} (keys : StockKeys (stockState db))
    (shows_ : Shows db place row) (h : Service.applyStockDeltaTx input db = .ok (u, db')) :
    StockKeys (stockState db') ∧ Shows db' place
      (if (input.warehouseId, input.ingredientId) = place then
        { row with onHand := Service.toDecimal (row.onHand + input.delta) }
      else row) := by
  obtain ⟨m, item, entry, opens, counted, fits, after⟩ := applyStockDeltaTx_counts h
  obtain ⟨keysM, showsM⟩ := shows_opens keys opens shows_
  have keys' : StockKeys (stockState db') := by
    rw [after]
    exact keysM.apply fits
  have items : db'.stock.items = (modifyItem item (fun row : InventoryItem =>
      { row with onHand := entry.balanceAfter }) m.stock).items :=
    congrArg (fun s : StockState => s.tables.items) after
  refine ⟨keys', ?_⟩
  by_cases there : item.place = place
  · obtain ⟨onHand, reserved⟩ := (shows_of_mem keysM fits.1 there).mp showsM
    rw [if_pos (counted.place.symm.trans there)]
    refine shows_there keysM keys' fits.1 items (fun _ => rfl) there ?_ reserved
    show entry.balanceAfter = Service.toDecimal (row.onHand + input.delta)
    rw [counted.balance, onHand]
  · rw [if_neg fun same => there (counted.place.trans same)]
    exact shows_elsewhere keysM keys' fits.1 items (fun _ => rfl) there showsM

theorem createAdjustmentTx_alone {dto : Service.CreateInventoryAdjustmentDto}
    {result : InventoryAdjustment} (keys : StockKeys (stockState db))
    (shows_ : Shows db (dto.warehouseId, dto.ingredientId) row)
    (h : Service.createAdjustmentTx context dto db = .ok (result, db')) :
    ∃ row', alone (statements (.createAdjustment dto)) row row = (row', true) ∧
      Shows db' (dto.warehouseId, dto.ingredientId) row' := by
  simp only [Service.createAdjustmentTx, Tx.bind_ok_iff, Tx.lift_ok_iff, freshId_ok_iff,
    Table.create_ok_iff] at h
  obtain ⟨_, _, ⟨_, rfl⟩, current, m, got, _, _, ⟨rfl, rfl⟩, _, m', counted, _, _, ⟨rfl, rfl⟩, _,
    rfl⟩ := h
  obtain ⟨opens, _, onHand, _⟩ := getOrCreateItemTx_opens got
  obtain ⟨keysM, showsM⟩ := shows_opens keys opens shows_
  have later : StockKeys (stockState { m with nextId := m.nextId + 1 }) :=
    keysM.later (Nat.le_succ _)
  have showsLater : Shows { m with nextId := m.nextId + 1 } (dto.warehouseId, dto.ingredientId) row :=
    ⟨showsM.1, showsM.2⟩
  obtain ⟨_, after⟩ := applyStockDeltaTx_shows later showsLater counted
  rw [if_pos rfl, onHand, shows_.onHand] at after
  refine ⟨_, rfl, ?_⟩
  exact ⟨after.1, after.2⟩

def linesAt (record : ReceivingRecord) (lines : List ReceivingLine) (place : Place) :
    List Quantity :=
  (lines.filter fun line => (record.warehouseId, line.ingredientId) = place).map
    ReceivingLine.quantity

theorem receivingLoop_shows {record : ReceivingRecord} {lines : List ReceivingLine} {u : PUnit}
    (keys : StockKeys (stockState db)) (shows_ : Shows db place row)
    (h : lines.forM (fun line => Service.applyStockDeltaTx (Service.receivingDelta record line)) db =
      .ok (u, db')) :
    ∃ row', Shows db' place row' ∧ ∀ rest start,
      alone (countIn (linesAt record lines place) rest) start row = alone rest start row' := by
  induction lines generalizing db row with
  | nil =>
    obtain ⟨_, rfl⟩ := Tx.pure_ok_iff.mp h
    exact ⟨row, shows_, fun _ _ => rfl⟩
  | cons line lines ih =>
    obtain ⟨_, m, turn, others⟩ := Tx.bind_ok h
    obtain ⟨keysM, showsM⟩ := applyStockDeltaTx_shows keys shows_ turn
    obtain ⟨row', after, same⟩ := ih keysM showsM others
    refine ⟨row', after, fun rest start => ?_⟩
    rw [← same rest start]
    by_cases there : (record.warehouseId, line.ingredientId) = place
    · have first : linesAt record (line :: lines) place =
          line.quantity :: linesAt record lines place := by
        simp only [linesAt, filter_cons, there, decide_true, if_true, map_cons]
      simp only [first, Service.receivingDelta, there, if_true, countIn, alone]
    · have skipped : linesAt record (line :: lines) place = linesAt record lines place := by
        simp only [linesAt, filter_cons, there, decide_false, Bool.false_eq_true, if_false]
      simp only [skipped, Service.receivingDelta, there, if_false]

theorem receiveTx_alone {now : Instant} {id : Id} {receivedBy : Option String}
    {result : ReceivingRecord × List ReceivingLine} (keys : StockKeys (stockState db))
    (shows_ : Shows db place row) (unsettled : id ∈ row.unsettled ↔ openRecord context id db ≠ none)
    (h : Service.receiveTx now context id receivedBy db = .ok (result, db')) :
    ∃ lines row', alone (statements (.completeReceiving id lines)) row row = (row', true) ∧
      (∀ r ∈ openRecord context id db, lines = linesAt r.1 r.2 place) ∧ Shows db' place row' := by
  rcases receiveTx_ok h with ⟨closed, rfl⟩ | ⟨record, lines, m, opened, loop, after⟩
  · have settled : id ∉ row.unsettled := fun is => unsettled.mp is closed
    refine ⟨[], row, by simp only [statements, alone, if_neg settled], ?_, shows_⟩
    rw [closed]
    exact fun r none_open => absurd none_open (Option.not_mem_none r)
  · have is_open : id ∈ row.unsettled := unsettled.mpr (by simp [opened])
    obtain ⟨row', shows', same⟩ := receivingLoop_shows keys shows_ loop
    refine ⟨linesAt record lines place, _, ?_, ?_, shows_of_stock (congrArg StockState.tables after)
        (show Shows _ place (settle id row') from ⟨shows'.1, shows'.2⟩)⟩
    · simp only [statements, alone, if_pos is_open, same]
    · rw [opened]
      exact fun r same => by rw [← Option.some.inj same]

theorem reserveOrderInventoryTx_shows {plan : List InventoryReservationPlanEntry}
    (keys : StockKeys (stockState db)) (planned : Planned plan (stockState db))
    (shows_ : Shows db place row)
    (h : reserveOrderInventoryTx tenantId orderId plan db = .ok (u, db')) :
    (place ∉ plan.map InventoryReservationPlanEntry.place → Shows db' place row) ∧
      ∀ e ∈ plan, e.place = place → e.quantity ≤ row.available ∧
        Shows db' place { row with reserved := row.reserved + e.quantity } := by
  induction plan generalizing db row with
  | nil =>
    obtain ⟨_, rfl⟩ := Tx.pure_ok_iff.mp h
    exact ⟨fun _ => shows_, fun e listed => absurd listed not_mem_nil⟩
  | cons e plan ih =>
    obtain ⟨item, r, m, home, _, _, available, fits, after, planned', others⟩ :=
      reserveOrderInventoryTx_cons keys planned h
    have keysM : StockKeys (stockState m) := by
      rw [after]
      exact keys.apply fits
    have items : m.stock.items = (modifyItem item (fun row : InventoryItem =>
        { row with reserved := item.reserved + e.quantity }) db.stock).items :=
      congrArg (fun s : StockState => s.tables.items) after
    obtain ⟨new, _⟩ := nodup_cons.mp planned.places
    by_cases there : item.place = place
    · obtain ⟨onHand, reserved⟩ := (shows_of_mem keys fits.1 there).mp shows_
      have showsM : Shows m place { row with reserved := row.reserved + e.quantity } := by
        refine shows_there keys keysM fits.1 items (fun _ => rfl) there onHand ?_
        show item.reserved + e.quantity = row.reserved + e.quantity
        rw [reserved]
      have done := (ih keysM planned' showsM others).1
      rw [← there, home] at done
      refine ⟨fun absent => absurd ?_ absent, fun e' listed same => ?_⟩
      · rw [← there, home]
        exact mem_cons_self
      · rcases mem_cons.mp listed with rfl | later
        · rw [onHand, reserved] at available
          rw [← there, home]
          exact ⟨available, done new⟩
        · rw [← there, home] at same
          exact absurd (mem_map.mpr ⟨e', later, same⟩) new
    · have showsM := shows_elsewhere keys keysM fits.1 items (fun _ => rfl) there shows_
      obtain ⟨absent, present⟩ := ih keysM planned' showsM others
      refine ⟨fun gone => absent fun listed => gone (mem_cons_of_mem _ listed),
        fun e' listed same => ?_⟩
      rcases mem_cons.mp listed with rfl | later
      · exact absurd (home.trans same) there
      · exact present e' later same

theorem reserveOrderInventoryTx_alone {plan : List InventoryReservationPlanEntry}
    {e : InventoryReservationPlanEntry} {stopThreshold : Quantity}
    (keys : StockKeys (stockState db)) (planned : Planned plan (stockState db)) (listed : e ∈ plan)
    (shows_ : Shows db e.place row) (above : stopThreshold < row.available)
    (h : reserveOrderInventoryTx tenantId orderId plan db = .ok (u, db')) :
    ∃ row', alone (statements (.reserveOrder e.quantity stopThreshold)) row row = (row', true) ∧
      Shows db' e.place row' := by
  obtain ⟨available, after⟩ :=
    (reserveOrderInventoryTx_shows keys planned shows_ h).2 e listed rfl
  have granted : ¬(row.available < e.quantity ∨ row.available ≤ stopThreshold) :=
    not_or.mpr ⟨not_lt.mpr available, not_le.mpr above⟩
  exact ⟨_, by simp only [statements, alone, if_neg granted], after⟩

theorem consumingLoop_shows {rs : List StockReservation} {u : PUnit} (pending : Pending rs db)
    (shows_ : Shows db place row) (h : rs.forM (consumeReservation tenantId) db = .ok (u, db')) :
    ∃ row', Shows db' place row' ∧ ∀ rest start,
      alone (useUp (rs.filter (heldAt place)) rest) start row = alone rest start row' := by
  induction rs generalizing db row with
  | nil =>
    obtain ⟨_, rfl⟩ := Tx.pure_ok_iff.mp h
    exact ⟨row, shows_, fun _ _ => rfl⟩
  | cons r rs ih =>
    obtain ⟨_, m, first, others⟩ := Tx.bind_ok h
    obtain ⟨item, entry, turn⟩ := consumeReservation_turn pending first
    have pending' := turn.pending pending
    obtain ⟨stored, _, home, _⟩ := turn.fits
    have items : m.stock.items = (modifyItem item (fun row : InventoryItem => { row with
          onHand := max (item.onHand - r.quantity) 0
          reserved := max (item.reserved - r.quantity) 0 }) db.stock).items :=
      congrArg (fun s : StockState => s.tables.items) turn.after
    by_cases there : item.place = place
    · obtain ⟨onHand, reserved⟩ := (shows_of_mem pending.keys stored there).mp shows_
      have showsM : Shows m place (settle r.id { row with
          onHand := max (row.onHand - r.quantity) 0
          reserved := max (row.reserved - r.quantity) 0 }) := by
        refine shows_there pending.keys pending'.keys stored items (fun _ => rfl) there ?_ ?_
        · show max (item.onHand - r.quantity) 0 = max (row.onHand - r.quantity) 0
          rw [onHand]
        · show max (item.reserved - r.quantity) 0 = max (row.reserved - r.quantity) 0
          rw [reserved]
      obtain ⟨row', after, same⟩ := ih pending' showsM others
      have matched : heldAt place r = true := decide_eq_true (home.trans there)
      refine ⟨row', after, fun rest start => ?_⟩
      rw [filter_cons_of_pos matched, ← same rest start]
      rfl
    · have showsM := shows_elsewhere pending.keys pending'.keys stored items (fun _ => rfl) there
        shows_
      obtain ⟨row', after, same⟩ := ih pending' showsM others
      have unmatched : ¬heldAt place r = true := fun is =>
        there (home.symm.trans (of_decide_eq_true is))
      refine ⟨row', after, fun rest start => ?_⟩
      rw [filter_cons_of_neg unmatched, same rest start]

theorem consumeOrderInventoryReservationsTx_alone {n : Nat} (keys : StockKeys (stockState db))
    (shows_ : Shows db place row)
    (unsettled : ∀ r ∈ db.stock.reservations, isActiveFor tenantId orderId r →
      r.id ∈ row.unsettled)
    (h : consumeOrderInventoryReservationsTx tenantId orderId db = .ok (n, db')) :
    ∃ row', alone (statements (.consumeOrder ((db.stock.reservations.filter
        (isActiveFor tenantId orderId)).filter (heldAt place)))) row row = (row', true) ∧
      Shows db' place row' := by
  simp only [consumeOrderInventoryReservationsTx, Tx.bind_ok_iff, Tx.read_ok_iff,
    Tx.pure_ok_iff] at h
  obtain ⟨_, _, ⟨read, rfl⟩, _, m, loop, _, rfl⟩ := h
  obtain rfl := Except.ok.inj read
  obtain ⟨row', after, same⟩ :=
    consumingLoop_shows (pending_activeFor keys tenantId orderId) shows_ loop
  have all : ((db.stock.reservations.filter (isActiveFor tenantId orderId)).filter
      (heldAt place)).filter (fun r => r.id ∈ row.unsettled) =
        (db.stock.reservations.filter (isActiveFor tenantId orderId)).filter (heldAt place) := by
    rw [filter_eq_self]
    intro r listed
    obtain ⟨stored, active⟩ := mem_filter.mp (mem_filter.mp listed).1
    exact decide_eq_true (unsettled r stored active)
  refine ⟨row', ?_, after⟩
  simp only [statements, alone, all, same]

end

end Exetron.Inventory.Concurrent
