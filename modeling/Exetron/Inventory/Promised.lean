import Exetron.Inventory.LedgerBalance
import Mathlib.Algebra.Order.Group.MinMax

/-!
# Promised stock

Stock is promised once as long as no item has more reserved than it has on hand. A reservation
looks at both counters, an adjustment and a receiving at the one they write.
-/

namespace Exetron.Inventory

open Lib Payments

variable {s : StockState} {item : InventoryItem} {db : Db}

def PromisedOnce (t : StockTables) : Prop :=
  ∀ item ∈ t.items, 0 ≤ item.reserved ∧ item.reserved ≤ item.onHand

instance (t : StockTables) : Decidable (PromisedOnce t) :=
  inferInstanceAs (Decidable (∀ item ∈ t.items, _))

def HeldPositive (t : StockTables) : Prop :=
  ∀ r ∈ t.reservations, r.status = .active → 0 ≤ r.quantity

instance (t : StockTables) : Decidable (HeldPositive t) :=
  inferInstanceAs (Decidable (∀ r ∈ t.reservations, _ → _))

def KeepsPromise (_ : StockState) : StockMove → Prop
  | .reserved item r amount => 0 ≤ item.reserved → item.reserved ≤ item.onHand →
    0 ≤ r.quantity ∧ 0 ≤ amount ∧ amount ≤ item.onHand
  | .counted item entry => 0 ≤ item.reserved → item.reserved ≤ item.onHand →
    item.reserved ≤ entry.balanceAfter
  | _ => True

theorem heldPositive_setStatus {t : StockTables} (held : HeldPositive t) (r : StockReservation)
    {status : ReservationStatus} (settled : status ≠ .active) :
    HeldPositive (setStatus r status t) :=
  fun r' stored live => held r' (active_setStatus settled stored live).1 live

theorem PromisedOnce.modifyItem {t : StockTables} (promised : PromisedOnce s.tables)
    (keys : StockKeys s) {f : InventoryItem → InventoryItem} (stored : item ∈ s.tables.items)
    (same : t.items = s.tables.items)
    (ordered : 0 ≤ (f item).reserved ∧ (f item).reserved ≤ (f item).onHand) :
    PromisedOnce (modifyItem item f t) := by
  intro item' stored'
  rcases (mem_modifyItem keys stored same).mp stored' with rfl | ⟨before, _⟩
  · exact ordered
  · exact promised item' before

theorem keepsPromise_apply {m : StockMove} (keys : StockKeys s) (fits : m.Fits s)
    (keeps : KeepsPromise s m) (inv : PromisedOnce s.tables ∧ HeldPositive s.tables) :
    PromisedOnce (m.apply s).tables ∧ HeldPositive (m.apply s).tables := by
  obtain ⟨promised, held⟩ := inv
  cases m with
  | keysGiven nextId => exact ⟨promised, held⟩
  | opened item =>
    obtain ⟨_, _, onHand, reserved⟩ := fits
    refine ⟨fun item' stored => ?_, held⟩
    rcases List.mem_append.mp stored with before | new
    · exact promised item' before
    · rw [List.mem_singleton.mp new, onHand, reserved]
      exact ⟨le_refl _, le_refl _⟩
  | reserved item r amount =>
    obtain ⟨stored, _⟩ := fits
    obtain ⟨nonneg, within⟩ := promised item stored
    obtain ⟨quantity, ordered⟩ := keeps nonneg within
    refine ⟨promised.modifyItem keys stored rfl ordered, fun r' stored' live => ?_⟩
    rcases List.mem_append.mp stored' with before | new
    · exact held r' before live
    · rw [List.mem_singleton.mp new]
      exact quantity
  | released item r =>
    obtain ⟨stored, listed, _, active⟩ := fits
    obtain ⟨nonneg, within⟩ := promised item stored
    have quantity := held r listed active
    refine ⟨promised.modifyItem keys stored rfl ⟨le_max_right _ _, ?_⟩,
      heldPositive_setStatus held r (by decide)⟩
    show max (item.reserved - r.quantity) 0 ≤ item.onHand
    exact max_le (by lia) (le_trans nonneg within)
  | consumed item r entry =>
    obtain ⟨stored, _⟩ := fits
    obtain ⟨_, within⟩ := promised item stored
    refine ⟨promised.modifyItem keys stored rfl ⟨le_max_right _ _, ?_⟩,
      heldPositive_setStatus held r (by decide)⟩
    show max (item.reserved - r.quantity) 0 ≤ max (item.onHand - r.quantity) 0
    exact max_le_max (by lia) (le_refl _)
  | counted item entry =>
    obtain ⟨stored, _⟩ := fits
    obtain ⟨nonneg, within⟩ := promised item stored
    exact ⟨promised.modifyItem keys stored rfl ⟨nonneg, keeps nonneg within⟩, held⟩

def receivedAt (record : ReceivingRecord) (lines : List ReceivingLine) (place : Place) : Quantity :=
  Rows.total (fun line : ReceivingLine => (record.warehouseId, line.ingredientId) = place)
    ReceivingLine.quantity lines

/-- With the lines that are still to come, nothing is promised that is not on hand. -/
structure Awaiting (record : ReceivingRecord) (lines : List ReceivingLine) (s : StockState) :
    Prop where
  keys : StockKeys s
  held : HeldPositive s.tables
  items : ∀ item ∈ s.tables.items,
    0 ≤ item.reserved ∧ item.reserved ≤ item.onHand + receivedAt record lines item.place
  unopened : ∀ place ∉ s.tables.items.map InventoryItem.place, 0 ≤ receivedAt record lines place

section
variable {record : ReceivingRecord} {line : ReceivingLine} {lines : List ReceivingLine}

theorem receivedAt_cons (place : Place) : receivedAt record (line :: lines) place =
      (if (record.warehouseId, line.ingredientId) = place then line.quantity else 0) +
        receivedAt record lines place := by
  rw [receivedAt, Rows.total_eq_sum, List.map_cons, List.sum_cons, ← Rows.total_eq_sum, Rows.share]
  simp only [decide_eq_true_eq]
  rfl

theorem Awaiting.opens {s' : StockState} (opens : Opens s item s')
    (awaiting : Awaiting record lines s) : Awaiting record lines s' := by
  cases opens with
  | found => exact awaiting
  | opened fits =>
    have keys := awaiting.keys.apply fits
    obtain ⟨_, absent, onHand, reserved⟩ := fits
    refine ⟨keys, awaiting.held, fun item' stored => ?_, fun place gone => ?_⟩
    · rcases List.mem_append.mp stored with before | new
      · exact awaiting.items item' before
      · obtain rfl := List.mem_singleton.mp new
        rw [onHand, reserved, zero_add]
        exact ⟨le_refl _, awaiting.unopened _ absent⟩
    · refine awaiting.unopened place fun before => gone ?_
      show place ∈ (s.tables.items ++ [item]).map InventoryItem.place
      rw [List.map_append]
      exact List.mem_append_left _ before

theorem Awaiting.counted {entry : StockLedgerEntry} (fits : (StockMove.counted item entry).Fits s)
    (place : item.place = (record.warehouseId, line.ingredientId))
    (balance : entry.balanceAfter = item.onHand + line.quantity)
    (awaiting : Awaiting record (line :: lines) s) :
    Awaiting record lines ((StockMove.counted item entry).apply s) := by
  have keys := awaiting.keys
  have stored := fits.1
  refine ⟨keys.apply fits, awaiting.held, fun item' stored' => ?_, fun place' gone => ?_⟩
  · rcases (mem_modifyItem keys stored rfl).mp stored' with rfl | ⟨before, other⟩
    · obtain ⟨nonneg, within⟩ := awaiting.items item stored
      rw [receivedAt_cons, if_pos place.symm] at within
      refine ⟨nonneg, ?_⟩
      show item.reserved ≤ entry.balanceAfter + receivedAt record lines item.place
      rw [balance]
      lia
    · have elsewhere : (record.warehouseId, line.ingredientId) ≠ item'.place := fun same => by
        rw [← place] at same
        exact other (congrArg InventoryItem.id (keys.place_eq stored before same)).symm
      have within := awaiting.items item' before
      rw [receivedAt_cons, if_neg elsewhere, zero_add] at within
      exact within
  · have keeps : ∀ row : InventoryItem,
        ({ row with onHand := entry.balanceAfter } : InventoryItem).place = row.place :=
      fun _ => rfl
    have same := places_modifyItem item keeps s.tables
    have absent : place' ∉ s.tables.items.map InventoryItem.place := by
      rw [← same]
      exact gone
    have elsewhere : (record.warehouseId, line.ingredientId) ≠ place' := fun is => by
      rw [← place] at is
      exact absent (List.mem_map.mpr ⟨item, stored, is⟩)
    have rest := awaiting.unopened place' absent
    rw [receivedAt_cons, if_neg elsewhere, zero_add] at rest
    exact rest

end

theorem received_promisedOnce {record : ReceivingRecord} {lines : List ReceivingLine} {m : Db}
    (awaiting : Awaiting record lines (stockState db))
    (h : lines.forM (fun line => Service.applyStockDeltaTx (Service.receivingDelta record line)) db =
      .ok ((), m)) : PromisedOnce m.stock ∧ HeldPositive m.stock := by
  have done : Awaiting record [] (stockState m) := by
    refine (Tx.forM_related_of (R := fun (_ _ : Db) => True)
      (I := fun lines db => Awaiting record lines (stockState db)) (fun _ => trivial)
      (fun _ _ _ _ _ => trivial) ?_ awaiting h).2
    intro line lines a b u awaiting step
    obtain ⟨s, item, entry, opens, counted, fits, after⟩ := applyStockDeltaTx_counts step
    refine ⟨trivial, ?_⟩
    rw [after]
    exact (awaiting.opens opens).counted fits counted.place counted.received.2
  refine ⟨fun item stored => ?_, done.held⟩
  obtain ⟨nonneg, within⟩ := done.items item stored
  exact ⟨nonneg, le_trans within (le_of_eq (add_zero _))⟩

def LeavesReserved (db : Db) : StockEvent → Prop
  | .inventory _ context (.createAdjustment dto) =>
    (Service.resolveTenantId context dto.tenantId).isOk →
      let place := (dto.warehouseId, dto.ingredientId)
      match dto.adjustmentType with
      | .set => reservedAt db place ≤ Service.toDecimal dto.quantity
      | .remove => reservedAt db place ≤ Service.toDecimal (onHandAt db place - |dto.quantity|)
      | .add => True
  | .inventory _ context (.completeReceivingRecord id _) => ∀ r ∈ openRecord context id db,
    ∀ line ∈ r.2,
      let place := (r.1.warehouseId, line.ingredientId)
      reservedAt db place ≤ onHandAt db place + receivedAt r.1 r.2 place
  | .inventory _ context (.createReservation dto) =>
    (Service.admitReservation context dto db).isOk → 0 ≤ Service.toDecimal dto.quantity
  | _ => True

instance (db : Db) : (e : StockEvent) → Decidable (LeavesReserved db e)
  | .request _ => isTrue trivial
  | .inventory _ _ (.createAdjustment ⟨_, _, _, .set, _, _⟩) =>
    inferInstanceAs (Decidable (_ → _ ≤ _))
  | .inventory _ _ (.createAdjustment ⟨_, _, _, .remove, _, _⟩) =>
    inferInstanceAs (Decidable (_ → _ ≤ _))
  | .inventory _ _ (.createAdjustment ⟨_, _, _, .add, _, _⟩) => isTrue fun _ => trivial
  | .inventory _ context (.completeReceivingRecord id _) =>
    inferInstanceAs (Decidable (∀ r ∈ openRecord context id db, ∀ line ∈ r.2, _ ≤ _))
  | .inventory _ _ (.createReservation _) => inferInstanceAs (Decidable (_ → _ ≤ _))
  | .inventory _ _ (.createReceivingRecord _) => isTrue trivial
  | .inventory _ _ (.releaseReservation _) => isTrue trivial
  | .inventory _ _ (.consumeReservation _) => isTrue trivial

theorem neutral_keepsPromise : Neutral KeepsPromise :=
  ⟨fun _ _ => trivial, fun _ _ => trivial⟩

theorem reservation_keepsPromise {r : StockReservation} {quantity : ℚ}
    (available : quantity ≤ ((item.onHand - item.reserved : Quantity) : ℚ))
    (sign : 0 ≤ Service.toDecimal quantity) (stored : r.quantity = Service.toDecimal quantity) :
    KeepsPromise s (.reserved item r (Service.toDecimal (item.reserved + quantity))) := by
  intro nonneg _
  rw [stored]
  refine ⟨sign, le_trans sign (roundHalfAway_mono ?_), roundHalfAway_le ?_⟩
  · exact le_add_of_nonneg_left (by exact_mod_cast nonneg)
  · push_cast at available
    linarith

theorem adjustment_keepsPromise {context : RequestContext}
    {dto : Service.CreateInventoryAdjustmentDto} {now : Instant} {entry : StockLedgerEntry}
    (leaves : LeavesReserved db (.inventory now context (.createAdjustment dto)))
    (accepted : (Service.resolveTenantId context dto.tenantId).isOk)
    (onHand : item.onHand = onHandAt db (dto.warehouseId, dto.ingredientId))
    (reserved : item.reserved = reservedAt db (dto.warehouseId, dto.ingredientId))
    (balance : entry.balanceAfter =
      Service.toDecimal (item.onHand + Service.adjustmentDelta dto item.onHand)) :
    KeepsPromise s (.counted item entry) := by
  intro _ within
  have covers := leaves accepted
  simp only [← onHand, ← reserved] at covers
  rw [balance, Service.adjustmentDelta]
  cases kind : dto.adjustmentType with
  | set =>
    simp only [kind] at covers ⊢
    rw [add_sub_cancel]
    exact covers
  | remove =>
    simp only [kind] at covers ⊢
    rw [← sub_eq_add_neg]
    exact covers
  | add =>
    refine le_trans within (le_roundHalfAway ?_)
    exact le_add_of_nonneg_right (abs_nonneg dto.quantity)

theorem awaiting_lines {record : ReceivingRecord} {lines : List ReceivingLine}
    (start : StockStart db) (inv : PromisedOnce db.stock ∧ HeldPositive db.stock)
    (leaves : ∀ line ∈ lines, reservedAt db (record.warehouseId, line.ingredientId) ≤
      onHandAt db (record.warehouseId, line.ingredientId) +
        receivedAt record lines (record.warehouseId, line.ingredientId)) :
    Awaiting record lines (stockState db) := by
  have brought : ∀ place, reservedAt db place ≤ onHandAt db place →
      reservedAt db place ≤ onHandAt db place + receivedAt record lines place := by
    intro place within
    by_cases named : ∃ line ∈ lines, (record.warehouseId, line.ingredientId) = place
    · obtain ⟨line, listed, rfl⟩ := named
      exact leaves line listed
    · have none_there : lines.filter (fun line : ReceivingLine =>
          (record.warehouseId, line.ingredientId) = place) = [] := by
        rw [List.filter_eq_nil_iff]
        exact fun line listed there => named ⟨line, listed, of_decide_eq_true there⟩
      rw [receivedAt, Rows.total, none_there]
      exact le_trans within (le_of_eq (add_zero _).symm)
  refine ⟨start.keys, inv.2, fun item stored => ?_, fun place absent => ?_⟩
  · obtain ⟨nonneg, within⟩ := inv.1 item stored
    have after := brought item.place
    rw [onHandAt_place start.keys stored, reservedAt_place start.keys stored] at after
    exact ⟨nonneg, after within⟩
  · have after := brought place
    rw [onHandAt_absent absent, reservedAt_absent absent] at after
    simpa using after (le_refl _)

theorem event_keepsPromise {e : StockEvent} (start : StockStart db)
    (inv : PromisedOnce db.stock ∧ HeldPositive db.stock) (leaves : LeavesReserved db e) :
    PromisedOnce (stockStep db e).stock ∧ HeldPositive (stockStep db e).stock := by
  have by_moves : Moved KeepsPromise (stockState db) (stockState (stockStep db e)) →
      PromisedOnce (stockStep db e).stock ∧ HeldPositive (stockStep db e).stock := by
    intro moved
    have keeps : ∀ (s : StockState) (m : StockMove), StockKeys s → m.Fits s → KeepsPromise s m →
        PromisedOnce s.tables ∧ HeldPositive s.tables →
          PromisedOnce (m.apply s).tables ∧ HeldPositive (m.apply s).tables :=
      fun _ _ => keepsPromise_apply
    exact (moved_invariant keeps moved start.keys inv).2
  cases e with
  | request r =>
    refine by_moves (request_moved neutral_keepsPromise ?_ (I := fun _ _ => True)
      (J := fun _ _ => True) (fun _ _ _ _ _ _ => ⟨trivial, trivial⟩)
      (fun _ _ _ _ _ _ _ _ => ⟨trivial, trivial⟩) start.consistent start.keys r
      (fun _ => trivial) fun _ _ => trivial)
    rintro s item r amount ⟨positive, available, rfl⟩ nonneg _
    exact ⟨le_of_lt positive, add_nonneg nonneg (le_of_lt positive), by lia⟩
  | inventory now context call =>
    cases call with
    | completeReceivingRecord id receivedBy =>
      refine Call.transact_related (R := fun _ (b : Db) => PromisedOnce b.stock ∧ HeldPositive b.stock)
        inv fun result db' h => ?_
      rcases receiveTx_ok h with ⟨_, rfl⟩ | ⟨record, lines, m, opened, loop, after⟩
      · exact inv
      · have awaiting := awaiting_lines start inv (leaves (record, lines) opened)
        have stock : db'.stock = m.stock := congrArg StockState.tables after
        rw [stock]
        exact received_promisedOnce awaiting loop
    | createAdjustment dto =>
      refine by_moves (perform_moved neutral_keepsPromise ?_)
      intro s item entry accepted _ onHand reserved _ balance
      exact adjustment_keepsPromise leaves accepted onHand reserved balance
    | createReservation dto =>
      refine by_moves (perform_moved neutral_keepsPromise ?_)
      intro accepted item _ r available stored
      exact reservation_keepsPromise available (leaves accepted) stored
    | createReceivingRecord dto => exact by_moves (perform_moved neutral_keepsPromise trivial)
    | releaseReservation reservationId =>
      exact by_moves (perform_moved neutral_keepsPromise fun _ _ _ _ => trivial)
    | consumeReservation reservationId =>
      exact by_moves (perform_moved neutral_keepsPromise fun _ _ _ _ _ _ _ _ => trivial)

def soldOut : List StockEvent :=
  [adjusts .add 50000,
   .request (cashierAt 2 (.checkout 50 {})),
   cashierCounts (.createReservation ⟨1, 30, 40, "catering", 7, 20000⟩),
   adjusts .remove 20000]

end Exetron.Inventory
