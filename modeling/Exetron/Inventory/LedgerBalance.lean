import Exetron.Inventory.Runs

/-!
# The stock ledger

An adjustment, a receiving and a consumption write the stock of an item and a row of its ledger.
The row explains the stock as long as its quantity is what the stock changed by.
-/

namespace Exetron.Inventory

open Lib Payments List

variable {s : StockState} {item : InventoryItem}

def entryAt (place : Place) (entry : StockLedgerEntry) : Bool := entry.place = place

def movedAt (ledger : List StockLedgerEntry) (place : Place) : Quantity :=
  Rows.total (entryAt place) StockLedgerEntry.quantity ledger

def latestAt (ledger : List StockLedgerEntry) (place : Place) : Option StockLedgerEntry :=
  (ledger.filter (entryAt place)).getLast?

def LedgerExplains (place : Place) (t : StockTables) : Prop :=
  ∀ item ∈ t.items, item.place = place →
    item.onHand = movedAt t.ledger place ∧
      ∀ entry ∈ latestAt t.ledger place, entry.balanceAfter = item.onHand

instance (place : Place) (t : StockTables) : Decidable (LedgerExplains place t) :=
  inferInstanceAs (Decidable (∀ item ∈ t.items, _ → _ ∧ ∀ entry ∈ latestAt t.ledger place, _))

/-- A place without an item has no ledger rows. -/
structure Explained (place : Place) (s : StockState) : Prop where
  explains : LedgerExplains place s.tables
  unopened : place ∉ s.tables.items.map InventoryItem.place →
    s.tables.ledger.filter (entryAt place) = []

section
variable {ledger : List StockLedgerEntry} {entry : StockLedgerEntry} {place : Place}

theorem entries_append_there (there : entry.place = place) :
    (ledger ++ [entry]).filter (entryAt place) = ledger.filter (entryAt place) ++ [entry] := by
  have matched : entryAt place entry = true := decide_eq_true there
  rw [filter_append, filter_cons_of_pos matched, filter_nil]

theorem entries_append_elsewhere (elsewhere : entry.place ≠ place) :
    (ledger ++ [entry]).filter (entryAt place) = ledger.filter (entryAt place) := by
  rw [filter_append, filter_cons_of_neg (by simpa [entryAt] using elsewhere),
    filter_nil, append_nil]

theorem movedAt_append_there (there : entry.place = place) :
    movedAt (ledger ++ [entry]) place = movedAt ledger place + entry.quantity := by
  have matched : entryAt place entry = true := decide_eq_true there
  rw [movedAt, Rows.total_append, Rows.share, if_pos matched]
  rfl

theorem latestAt_append_there (there : entry.place = place) :
    latestAt (ledger ++ [entry]) place = some entry := by
  rw [latestAt, entries_append_there there, getLast?_concat]

end

def WritesLedger (place : Place) (_ : StockState) : StockMove → Prop
  | .consumed item r _ => item.place = place → r.quantity ≤ item.onHand
  | .counted item entry => item.place = place →
    entry.balanceAfter = item.onHand + entry.quantity
  | _ => True

theorem Explained.entered {place : Place} (explained : Explained place s) (keys : StockKeys s)
    {entry : StockLedgerEntry} {t : StockTables} (stored : item ∈ s.tables.items)
    (entryPlace : entry.place = item.place) {f : InventoryItem → InventoryItem}
    (keeps : ∀ row, (f row).place = row.place) (onHand : (f item).onHand = entry.balanceAfter)
    (writes : item.place = place → entry.balanceAfter = item.onHand + entry.quantity)
    (items : t.items = (modifyItem item f s.tables).items)
    (ledger : t.ledger = s.tables.ledger ++ [entry]) (n : Id) : Explained place ⟨t, n⟩ := by
  constructor
  · intro item' stored' there
    simp only [items, mem_modifyItem keys stored rfl] at stored'
    simp only [ledger]
    rcases stored' with rfl | ⟨before, other⟩
    · rw [keeps] at there
      have entryThere := entryPlace.trans there
      obtain ⟨sum, _⟩ := explained.explains item stored there
      rw [movedAt_append_there entryThere, latestAt_append_there entryThere, onHand, ← sum]
      exact ⟨writes there, fun entry' latest => by rw [← Option.mem_some.mp latest]⟩
    · have elsewhere : entry.place ≠ place := fun same => by
        rw [entryPlace, ← there] at same
        exact other (congrArg InventoryItem.id (keys.place_eq stored before same)).symm
      rw [movedAt, Rows.total, latestAt, entries_append_elsewhere elsewhere]
      exact explained.explains item' before there
  · intro absent
    simp only [items, places_modifyItem item keeps] at absent
    have elsewhere : entry.place ≠ place := fun same => by
      rw [entryPlace] at same
      exact absent (mem_map.mpr ⟨item, stored, same⟩)
    simp only [ledger]
    rw [entries_append_elsewhere elsewhere]
    exact explained.unopened absent

theorem Explained.rewritten {place : Place} (explained : Explained place s) (keys : StockKeys s)
    (stored : item ∈ s.tables.items) {t : StockTables} {f : InventoryItem → InventoryItem}
    (keeps : ∀ row, (f row).place = row.place) (onHand : ∀ row, (f row).onHand = row.onHand)
    (items : t.items = (modifyItem item f s.tables).items) (ledger : t.ledger = s.tables.ledger)
    (n : Id) : Explained place ⟨t, n⟩ := by
  constructor
  · intro item' stored' there
    simp only [items, mem_modifyItem keys stored rfl] at stored'
    simp only [ledger]
    rcases stored' with rfl | ⟨before, _⟩
    · rw [keeps] at there
      rw [onHand]
      exact explained.explains item stored there
    · exact explained.explains item' before there
  · intro absent
    simp only [items, places_modifyItem item keeps] at absent
    simp only [ledger]
    exact explained.unopened absent

theorem explained_apply {place : Place} {m : StockMove} (keys : StockKeys s) (fits : m.Fits s)
    (writes : WritesLedger place s m) (explained : Explained place s) :
    Explained place (m.apply s) := by
  cases m with
  | keysGiven nextId => exact ⟨explained.explains, explained.unopened⟩
  | opened item =>
    obtain ⟨_, absent, onHand, _⟩ := fits
    constructor
    · intro item' stored there
      rcases mem_append.mp stored with before | new
      · exact explained.explains item' before there
      · obtain rfl := mem_singleton.mp new
        rw [there] at absent
        have none_there := explained.unopened absent
        show item'.onHand = movedAt s.tables.ledger place ∧
          ∀ entry ∈ latestAt s.tables.ledger place, entry.balanceAfter = item'.onHand
        rw [movedAt, Rows.total, latestAt, none_there, onHand]
        exact ⟨rfl, fun entry latest => absurd latest (Option.not_mem_none entry)⟩
    · intro absent'
      refine explained.unopened fun before => absent' ?_
      show place ∈ (s.tables.items ++ [item]).map InventoryItem.place
      rw [map_append]
      exact mem_append_left _ before
  | reserved item r amount =>
    exact explained.rewritten keys fits.1
      (f := fun row => { row with reserved := amount })
      (t := (StockMove.reserved item r amount |>.apply s).tables) (fun _ => rfl) (fun _ => rfl)
      rfl rfl _
  | released item r =>
    exact explained.rewritten keys fits.1
      (f := fun row => { row with reserved := max (item.reserved - r.quantity) 0 })
      (t := (StockMove.released item r |>.apply s).tables) (fun _ => rfl) (fun _ => rfl) rfl rfl _
  | consumed item r entry =>
    obtain ⟨stored, _, _, _, entryPlace, quantity, balance⟩ := fits
    refine explained.entered keys stored entryPlace (f := fun row => { row with
        onHand := max (item.onHand - r.quantity) 0
        reserved := max (item.reserved - r.quantity) 0 })
      (t := (StockMove.consumed item r entry |>.apply s).tables) (fun _ => rfl) balance.symm
      (fun there => ?_) rfl rfl _
    have covered := writes there
    rw [balance, quantity, max_eq_left (by lia)]
    rfl
  | counted item entry =>
    exact explained.entered keys fits.1 fits.2
      (f := fun row => { row with onHand := entry.balanceAfter })
      (t := (StockMove.counted item entry |>.apply s).tables) (fun _ => rfl) rfl writes rfl rfl _

def Covered : Quantity → List StockReservation → Prop
  | _, [] => True
  | onHand, r :: rs => r.quantity ≤ onHand ∧ Covered (onHand - r.quantity) rs

instance decidableCovered : (onHand : Quantity) → (rs : List StockReservation) →
    Decidable (Covered onHand rs)
  | _, [] => isTrue trivial
  | onHand, r :: rs => @instDecidableAnd _ _ _ (decidableCovered (onHand - r.quantity) rs)

def heldAt (place : Place) (r : StockReservation) : Bool := r.place = place

/-- What a call finds at the place is enough for what it consumes, and a change that ends in half
of the last digit does not turn the sign of the stock. -/
def FindsEnough (place : Place) (db : Db) : StockEvent → Prop
  | .request r => ∀ order ∈ completedOrder db r, Covered (onHandAt db place)
    ((db.stock.reservations.filter (isActiveFor order.tenantId order.id)).filter (heldAt place))
  | .inventory _ context (.createAdjustment dto) =>
    (Service.resolveTenantId context dto.tenantId).isOk →
      (dto.warehouseId, dto.ingredientId) = place →
        let delta := Service.adjustmentDelta dto (onHandAt db place)
        Halfway delta → (0 ≤ onHandAt db place + delta ↔ 0 ≤ delta)
  | .inventory _ context (.consumeReservation reservationId) =>
    ∀ r ∈ (Service.admitSettlement context reservationId db).toOption,
      r.status = .active → r.place = place → r.quantity ≤ onHandAt db place
  | _ => True

instance (place : Place) (db : Db) : (e : StockEvent) → Decidable (FindsEnough place db e)
  | .request r => inferInstanceAs (Decidable (∀ order ∈ completedOrder db r, _))
  | .inventory _ _ (.createAdjustment _) => inferInstanceAs (Decidable (_ → _ → _ → (_ ↔ _)))
  | .inventory _ _ (.consumeReservation _) => inferInstanceAs (Decidable (∀ r ∈ Except.toOption _, _))
  | .inventory _ _ (.createReceivingRecord _) => isTrue trivial
  | .inventory _ _ (.completeReceivingRecord _ _) => isTrue trivial
  | .inventory _ _ (.createReservation _) => isTrue trivial
  | .inventory _ _ (.releaseReservation _) => isTrue trivial

theorem neutral_writesLedger (place : Place) : Neutral (WritesLedger place) :=
  ⟨fun _ _ => trivial, fun _ _ => trivial⟩

def CoveredAt (place : Place) (rs : List StockReservation) (s : StockState) : Prop :=
  ∀ item ∈ s.tables.items, item.place = place → Covered item.onHand (rs.filter (heldAt place))

theorem coveredAt_consumed {place : Place} {r : StockReservation} {entry : StockLedgerEntry}
    {rs : List StockReservation} (keys : StockKeys s)
    (fits : (StockMove.consumed item r entry).Fits s) (covered : CoveredAt place (r :: rs) s) :
    WritesLedger place s (.consumed item r entry) ∧
      CoveredAt place rs ((StockMove.consumed item r entry).apply s) := by
  obtain ⟨stored, _, home, _⟩ := fits
  have first : item.place = place → r.quantity ≤ item.onHand ∧
      Covered (item.onHand - r.quantity) (rs.filter (heldAt place)) := by
    intro there
    have matched : heldAt place r = true := decide_eq_true (home.trans there)
    have enough := covered item stored there
    rw [filter_cons_of_pos matched] at enough
    exact enough
  refine ⟨fun there => (first there).1, fun item' stored' there => ?_⟩
  rcases (mem_modifyItem keys stored rfl).mp stored' with rfl | ⟨before, other⟩
  · obtain ⟨enough, rest⟩ := first there
    show Covered (max (item.onHand - r.quantity) 0) _
    rw [max_eq_left (by lia)]
    exact rest
  · have elsewhere : ¬heldAt place r = true := fun same => by
      rw [heldAt, decide_eq_true_eq, home, ← there] at same
      exact other (congrArg InventoryItem.id (keys.place_eq stored before same)).symm
    have rest := covered item' before there
    rw [filter_cons_of_neg elsewhere] at rest
    exact rest

theorem event_writesLedger {place : Place} {db : Db} {e : StockEvent} (start : StockStart db)
    (enough : FindsEnough place db e) :
    Moved (WritesLedger place) (stockState db) (stockState (stockStep db e)) := by
  have neutral := neutral_writesLedger place
  cases e with
  | request r =>
    refine request_moved neutral (fun _ _ _ _ _ => trivial) (I := fun _ _ => True)
      (J := CoveredAt place) (fun _ _ _ _ _ _ => ⟨trivial, trivial⟩)
      (fun _ _ _ _ _ keys fits covered => coveredAt_consumed keys fits covered) start.consistent
      start.keys r (fun _ => trivial) fun order completes item stored there => ?_
    rw [← onHandAt_place start.keys stored, there]
    exact enough order completes
  | inventory now context call =>
    refine perform_moved neutral ?_
    cases call with
    | createAdjustment dto =>
      intro _ item entry accepted itemPlace onHand _ quantity balance there
      rw [← itemPlace, there] at onHand
      have signs := enough accepted (itemPlace.symm.trans there)
      rw [balance, quantity, onHand]
      exact roundHalfAway_int_add signs
    | completeReceivingRecord id receivedBy =>
      intro _ item entry line quantity balance _
      rw [balance, quantity]
    | consumeReservation reservationId =>
      intro item stored r _ _ admitted active home there
      have listed : r ∈ (Service.admitSettlement context reservationId db).toOption := by
        rw [admitted]
        rfl
      rw [← onHandAt_place start.keys stored, there]
      exact enough r listed active (home.symm.trans there)
    | createReceivingRecord dto => trivial
    | createReservation dto => exact fun _ _ _ _ _ _ => trivial
    | releaseReservation reservationId => exact fun _ _ _ _ => trivial

def Unmoved (place : Place) (t : StockTables) : Prop :=
  (∀ item ∈ t.items, item.place = place → item.onHand = 0) ∧
    ∀ entry ∈ t.ledger, entry.place ≠ place

instance (place : Place) (t : StockTables) : Decidable (Unmoved place t) :=
  inferInstanceAs (Decidable (_ ∧ _))

theorem Unmoved.explained {place : Place} (unmoved : Unmoved place s.tables) :
    Explained place s := by
  have none_there : s.tables.ledger.filter (entryAt place) = [] := by
    rw [filter_eq_nil_iff]
    exact fun entry listed there => unmoved.2 entry listed (of_decide_eq_true there)
  refine ⟨fun item stored there => ?_, fun _ => none_there⟩
  rw [movedAt, Rows.total, latestAt, none_there, unmoved.1 item stored there]
  exact ⟨rfl, fun entry latest => absurd latest (Option.not_mem_none entry)⟩

def emptyShop : Db := { shop with stock := ⟨[⟨60, 1, 30, 40, 0, 0, 0⟩], [], []⟩ }

def cashierCounts (call : Service.InventoryCall) : StockEvent :=
  .inventory 1 ⟨"cashier", some 1, .tenantMember, [2], none⟩ call

def adjusts (adjustmentType : AdjustmentType) (quantity : ℚ) : StockEvent :=
  cashierCounts (.createAdjustment ⟨1, 30, 40, adjustmentType, quantity, none⟩)

def soldFromStock : List StockEvent :=
  [adjusts .add 50000,
   .request (cashierAt 2 (.checkout 50 {})),
   .request (cashierAt 3 (.transitionOrder 103 { toStatus := .confirmed })),
   .request (cashierAt 4 (.transitionTicket 106 { toStatus := .inProgress })),
   .request (cashierAt 5 (.transitionTicket 106 { toStatus := .ready })),
   .request (cashierAt 6 (.transitionOrder 103 { toStatus := .completed }))]

theorem emptyShop_stockStart : StockStart emptyShop :=
  ⟨shop_stockStart.consistent, by constructor <;> decide⟩

def overdrawn : List StockEvent :=
  [adjusts .add 50000,
   cashierCounts (.createReservation ⟨1, 30, 40, "catering", 7, 50000⟩),
   adjusts .remove 30000,
   cashierCounts (.consumeReservation 103)]

end Exetron.Inventory
