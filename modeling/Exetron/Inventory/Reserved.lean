import Exetron.Inventory.Runs
import Mathlib.Algebra.Order.BigOperators.Group.List

/-!
# Reserved stock

An item's reserved quantity is a counter beside the reservations it counts. Every move of the
stock changes both by the same amount.
-/

namespace Exetron.Inventory

open Lib Payments

variable {r : StockReservation} {s : StockState}

def activeAt (place : Place) (r : StockReservation) : Bool := r.status = .active ∧ r.place = place

def activeQuantity (reservations : List StockReservation) (place : Place) : Quantity :=
  Rows.total (activeAt place) StockReservation.quantity reservations

def ReservedMatches (t : StockTables) : Prop :=
  ∀ item ∈ t.items, item.reserved = activeQuantity t.reservations item.place

instance (t : StockTables) : Decidable (ReservedMatches t) :=
  inferInstanceAs (Decidable (∀ item ∈ t.items, _))

/-- With no active reservation of a negative quantity. -/
structure Balanced (s : StockState) : Prop where
  matching : ReservedMatches s.tables
  nonneg : ∀ r ∈ s.tables.reservations, r.status = .active → 0 ≤ r.quantity

theorem activeQuantity_nonneg {reservations : List StockReservation} (place : Place)
    (nonneg : ∀ r ∈ reservations, r.status = .active → 0 ≤ r.quantity) :
    0 ≤ activeQuantity reservations place := by
  refine List.sum_nonneg fun q listed => ?_
  obtain ⟨r, member, rfl⟩ := List.mem_map.mp listed
  obtain ⟨stored, active⟩ := List.mem_filter.mp member
  exact nonneg r stored (of_decide_eq_true active).1

theorem activeQuantity_absent {reservations : List StockReservation} {place : Place}
    (absent : ∀ r ∈ reservations, r.status = .active → r.place ≠ place) :
    activeQuantity reservations place = 0 := by
  have none_active : reservations.filter (activeAt place) = [] := by
    rw [List.filter_eq_nil_iff]
    intro r stored active
    obtain ⟨live, there⟩ := of_decide_eq_true active
    exact absent r stored live there
  rw [activeQuantity, Rows.total, none_active]
  rfl

theorem activeQuantity_append (reservations : List StockReservation) (active : r.status = .active)
    (place : Place) : activeQuantity (reservations ++ [r]) place =
      activeQuantity reservations place + if r.place = place then r.quantity else 0 := by
  rw [activeQuantity, Rows.total_append, Rows.share, activeAt]
  simp only [active, true_and, decide_eq_true_eq]
  rfl

theorem activeQuantity_settled {t : StockTables} {status : ReservationStatus}
    (unique : (t.reservations.map StockReservation.id).Nodup) (stored : r ∈ t.reservations)
    (active : r.status = .active) (settled : status ≠ .active) (place : Place) :
    activeQuantity (setStatus r status t).reservations place +
        (if r.place = place then r.quantity else 0) = activeQuantity t.reservations place := by
  have sums := Rows.total_modify (p := activeAt place) (g := StockReservation.quantity)
    (f := fun row : StockReservation => { row with status := status }) unique stored
  simp only [Rows.share, activeAt, active, settled, true_and, false_and, decide_eq_true_eq,
    decide_false, Bool.false_eq_true, if_false, add_zero] at sums
  exact sums

def ReservesExactly (_ : StockState) : StockMove → Prop
  | .reserved item r amount =>
    0 ≤ item.reserved → 0 ≤ r.quantity ∧ amount = item.reserved + r.quantity
  | _ => True

theorem Balanced.reserved_nonneg (balanced : Balanced s) {item : InventoryItem}
    (stored : item ∈ s.tables.items) : 0 ≤ item.reserved := by
  rw [balanced.matching item stored]
  exact activeQuantity_nonneg _ balanced.nonneg

theorem Balanced.quantity_le (balanced : Balanced s) (keys : StockKeys s) {item : InventoryItem}
    (stored : item ∈ s.tables.items) (listed : r ∈ s.tables.reservations)
    (active : r.status = .active) (place : r.place = item.place) : r.quantity ≤ item.reserved := by
  have released : ReservationStatus.released ≠ .active := by decide
  have sums := activeQuantity_settled keys.reservations listed active released item.place
  have rest : 0 ≤ activeQuantity (setStatus r .released s.tables).reservations item.place := by
    refine activeQuantity_nonneg _ fun r' stored' live => ?_
    exact balanced.nonneg r' (active_setStatus released stored' live).1 live
  rw [if_pos place] at sums
  rw [balanced.matching item stored, ← sums]
  lia

theorem Balanced.settled (balanced : Balanced s) (keys : StockKeys s) {item : InventoryItem}
    {status : ReservationStatus} {t : StockTables} (settled : status ≠ .active)
    (stored : item ∈ s.tables.items) (listed : r ∈ s.tables.reservations)
    (active : r.status = .active) (place : r.place = item.place) {f : InventoryItem → InventoryItem}
    (samePlace : (f item).place = item.place)
    (reserved : (f item).reserved = max (item.reserved - r.quantity) 0)
    (items : t.items = (modifyItem item f s.tables).items)
    (reservations : t.reservations = (setStatus r status s.tables).reservations) (n : Id) :
    Balanced ⟨t, n⟩ := by
  have sums := activeQuantity_settled keys.reservations listed active settled
  constructor
  · intro item' stored'
    simp only [items, mem_modifyItem keys stored rfl] at stored'
    simp only [reservations]
    rcases stored' with rfl | ⟨before, other⟩
    · have covered := balanced.quantity_le keys stored listed active place
      have counted := balanced.matching item stored
      have after := sums item.place
      rw [if_pos place] at after
      rw [reserved, samePlace, max_eq_left (by lia)]
      lia
    · have elsewhere : r.place ≠ item'.place := fun same => by
        rw [place] at same
        exact other (congrArg InventoryItem.id (keys.place_eq stored before same)).symm
      have after := sums item'.place
      rw [if_neg elsewhere, add_zero] at after
      rw [balanced.matching item' before, after]
  · intro r' stored' live
    simp only [reservations] at stored'
    exact balanced.nonneg r' (active_setStatus settled stored' live).1 live

theorem balanced_apply {m : StockMove} (keys : StockKeys s) (fits : m.Fits s)
    (exactly : ReservesExactly s m) (balanced : Balanced s) : Balanced (m.apply s) := by
  cases m with
  | keysGiven nextId => exact ⟨balanced.matching, balanced.nonneg⟩
  | opened item =>
    obtain ⟨_, absent, _, reserved⟩ := fits
    refine ⟨fun item' stored => ?_, balanced.nonneg⟩
    rcases List.mem_append.mp stored with before | new
    · exact balanced.matching item' before
    · rw [List.mem_singleton.mp new, reserved]
      refine (activeQuantity_absent fun r listed live same => absent ?_).symm
      rw [← same]
      exact keys.homes r listed live
  | reserved item r amount =>
    obtain ⟨stored, _, place, active⟩ := fits
    obtain ⟨nonneg, adds⟩ := exactly (balanced.reserved_nonneg stored)
    constructor
    · intro item' stored'
      rcases (mem_modifyItem keys stored rfl).mp stored' with rfl | ⟨before, other⟩
      · have appended := activeQuantity_append s.tables.reservations active item.place
        rw [if_pos place] at appended
        show amount = activeQuantity (s.tables.reservations ++ [r]) item.place
        rw [adds, balanced.matching item stored]
        exact appended.symm
      · have elsewhere : r.place ≠ item'.place := fun same => by
          rw [place] at same
          exact other (congrArg InventoryItem.id (keys.place_eq stored before same)).symm
        have appended := activeQuantity_append s.tables.reservations active item'.place
        rw [if_neg elsewhere, add_zero] at appended
        rw [balanced.matching item' before]
        exact appended.symm
    · intro r' stored' live
      rcases List.mem_append.mp stored' with before | new
      · exact balanced.nonneg r' before live
      · rw [List.mem_singleton.mp new]
        exact nonneg
  | released item r =>
    obtain ⟨stored, listed, place, active⟩ := fits
    have settled : ReservationStatus.released ≠ .active := by decide
    exact balanced.settled keys settled stored listed active place
      (f := fun row => { row with reserved := max (item.reserved - r.quantity) 0 })
      (t := (StockMove.released item r |>.apply s).tables) rfl rfl rfl rfl _
  | consumed item r entry =>
    obtain ⟨stored, listed, place, active, _⟩ := fits
    have settled : ReservationStatus.consumed ≠ .active := by decide
    exact balanced.settled keys settled stored listed active place (f := fun row => { row with
        onHand := max (item.onHand - r.quantity) 0
        reserved := max (item.reserved - r.quantity) 0 })
      (t := (StockMove.consumed item r entry |>.apply s).tables) rfl rfl rfl rfl _
  | counted item entry =>
    obtain ⟨stored, _⟩ := fits
    refine ⟨fun item' stored' => ?_, balanced.nonneg⟩
    rcases (mem_modifyItem keys stored rfl).mp stored' with rfl | ⟨before, _⟩
    · exact balanced.matching item stored
    · exact balanced.matching item' before

def ReservesPositive : StockEvent → Prop
  | .inventory _ _ (.createReservation dto) => 0 < dto.quantity
  | _ => True

theorem neutral_reservesExactly : Neutral ReservesExactly :=
  ⟨fun _ _ => trivial, fun _ _ => trivial⟩

theorem event_reservesExactly {db : Db} {e : StockEvent} (start : StockStart db)
    (positive : ReservesPositive e) :
    Moved ReservesExactly (stockState db) (stockState (stockStep db e)) := by
  cases e with
  | request r =>
    refine request_moved neutral_reservesExactly ?_ (I := fun _ _ => True) (J := fun _ _ => True)
      (fun _ _ _ _ _ _ => ⟨trivial, trivial⟩) (fun _ _ _ _ _ _ _ _ => ⟨trivial, trivial⟩)
      start.consistent start.keys r (fun _ => trivial) (fun _ _ => trivial)
    intro s item r amount reserves _
    exact ⟨le_of_lt reserves.1, reserves.2.2⟩
  | inventory now context call =>
    refine perform_moved neutral_reservesExactly ?_
    cases call with
    | createReservation dto =>
      intro _ item _ r _ quantity nonneg
      have sign : (0 : ℚ) ≤ dto.quantity := le_of_lt positive
      rw [quantity]
      refine ⟨le_roundHalfAway (by simpa using sign), roundHalfAway_int_add fun _ => ?_⟩
      exact iff_of_true (add_nonneg (by exact_mod_cast nonneg) sign) sign
    | createAdjustment dto => exact fun _ _ _ _ _ _ _ _ _ => trivial
    | createReceivingRecord dto => trivial
    | completeReceivingRecord id receivedBy => exact fun _ _ _ _ _ _ => trivial
    | releaseReservation reservationId => exact fun _ _ _ _ => trivial
    | consumeReservation reservationId => exact fun _ _ _ _ _ _ _ _ => trivial

def reservedTwice : List StockEvent :=
  [.request (cashierAt 1 (.checkout 50 {})),
   .inventory 2 ⟨"cashier", some 1, .tenantMember, [2], none⟩
     (.createReservation ⟨1, 30, 40, "catering", 7, 20000⟩),
   .inventory 3 ⟨"cashier", some 1, .tenantMember, [2], none⟩ (.consumeReservation 103)]

end Exetron.Inventory
