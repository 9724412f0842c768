import Exetron.Inventory.OrderStock

/-!
# Transactions on the stock of orders

What reserving, releasing and consuming do to the stock tables.
-/

namespace Exetron.Inventory

open Lib List Tx

variable {db db' : Db} {tenantId orderId w i : Id} {item : InventoryItem} {u : Unit}

def itemKeys (db : Db) : List (Id × Id) :=
  db.stock.items.map fun item => (item.warehouseId, item.ingredientId)

theorem findItem_none (h : findItem db w i = none) : (w, i) ∉ itemKeys db := by
  intro listed
  obtain ⟨item, member, same⟩ := mem_map.mp listed
  have unmatched := find?_eq_none.mp h item member
  simp only [decide_eq_true_eq, not_and] at unmatched
  exact unmatched (congrArg Prod.fst same) (congrArg Prod.snd same)

theorem findItem_some (h : findItem db w i = some item) : (w, i) ∈ itemKeys db := by
  have matched : item.warehouseId = w ∧ item.ingredientId = i := by simpa using find?_some h
  exact mem_map.mpr ⟨item, mem_of_find?_eq_some h, Prod.ext_iff.mpr matched⟩

theorem itemKeys_update {id : Id} {f : InventoryItem → InventoryItem}
    (h : inventoryItems.update id f db = .ok (item, db'))
    (keeps : ∀ r, (f r).warehouseId = r.warehouseId ∧ (f r).ingredientId = r.ingredientId) :
    itemKeys db' = itemKeys db ∧
      db' = { db with stock := { db.stock with items := db'.stock.items } } := by
  obtain ⟨_, _, _, rfl⟩ := Table.update_ok_iff.mp h
  refine ⟨?_, rfl⟩
  refine Rows.map_modify (fun r => ?_) db.stock.items
  rw [(keeps r).1, (keeps r).2]

def SettledFrom (r r' : StockReservation) : Prop :=
  r' = { r with status := r'.status } ∧ (r'.status = r.status ∨ r'.status ≠ .active)

theorem settledFrom_refl (r : StockReservation) : SettledFrom r r := ⟨rfl, Or.inl rfl⟩

theorem settledFrom_trans {r s t : StockReservation} (hrs : SettledFrom r s) (hst : SettledFrom s t) :
    SettledFrom r t := by
  refine ⟨?_, ?_⟩
  · rw [hst.1, hrs.1]
  · rcases hst.2 with same | settled
    · rw [same]
      exact hrs.2
    · exact Or.inr settled

/-- A change of the store that only settles reservations and moves stock. -/
structure StockSettled (db db' : Db) : Prop where
  rest : db' = { db with nextId := db'.nextId, stock := db'.stock }
  grows : db.nextId ≤ db'.nextId
  items : itemKeys db' = itemKeys db
  reservations : List.Forall₂ SettledFrom db.stock.reservations db'.stock.reservations

theorem stockSettled_refl (db : Db) : StockSettled db db where
  rest := rfl
  grows := le_refl _
  items := rfl
  reservations := forall₂_same.mpr fun r _ => settledFrom_refl r

theorem forall₂_settled_trans {xs ys zs : List StockReservation}
    (hxy : List.Forall₂ SettledFrom xs ys) (hyz : List.Forall₂ SettledFrom ys zs) :
    List.Forall₂ SettledFrom xs zs := by
  induction hxy generalizing zs with
  | nil => exact hyz
  | cons head _ ih =>
    cases hyz with
    | cons head' tail' => exact List.Forall₂.cons (settledFrom_trans head head') (ih tail')

theorem stockSettled_trans (a b c : Db) (hab : StockSettled a b) (hbc : StockSettled b c) :
    StockSettled a c where
  rest := by rw [hbc.rest, hab.rest]
  grows := le_trans hab.grows hbc.grows
  items := hbc.items.trans hab.items
  reservations := forall₂_settled_trans hab.reservations hbc.reservations

theorem stockSettled_setStatus (db : Db) (id : Id) {status : ReservationStatus}
    (settled : status ≠ .active) : StockSettled db { db with stock := { db.stock with
      reservations := Rows.modify StockReservation.id id (fun row => { row with status := status })
        db.stock.reservations } } where
  rest := rfl
  grows := le_refl _
  items := rfl
  reservations := Rows.forall₂_modify settledFrom_refl (fun _ _ => ⟨rfl, Or.inr settled⟩) _

theorem stockSettled_of_items (items : itemKeys db' = itemKeys db)
    (rest : db' = { db with stock := { db.stock with items := db'.stock.items } }) :
    StockSettled db db' where
  rest := by rw [rest]
  grows := by rw [rest]
  items := items
  reservations := by
    rw [rest]
    exact forall₂_same.mpr fun r _ => settledFrom_refl r

def SettledRow (id : Id) (db : Db) : Prop :=
  ∀ r ∈ db.stock.reservations, r.id = id → r.status ≠ .active

theorem settledRow_setStatus (db : Db) (id : Id) {status : ReservationStatus}
    (settled : status ≠ .active) : SettledRow id { db with stock := { db.stock with
      reservations := Rows.modify StockReservation.id id (fun row => { row with status := status })
        db.stock.reservations } } := by
  intro r member same
  obtain ⟨r₀, _, rfl⟩ := Rows.mem_modify.mp member
  by_cases hit : r₀.id = id
  · rw [if_pos hit]
    exact settled
  · rw [if_neg hit] at same
    exact absurd same hit

theorem StockSettled.row_before (h : StockSettled db db') {r' : StockReservation}
    (member : r' ∈ db'.stock.reservations) : ∃ r ∈ db.stock.reservations, SettledFrom r r' := by
  obtain ⟨k, bound, rfl⟩ := mem_iff_getElem.mp member
  have length := h.reservations.length_eq
  exact ⟨db.stock.reservations[k], getElem_mem _, List.Forall₂.get h.reservations (by lia) bound⟩

theorem SettledRow.settled {id : Id} (done : SettledRow id db) (h : StockSettled db db') :
    SettledRow id db' := by
  intro r' member same
  obtain ⟨r, before, from_r, kept | settled⟩ := h.row_before member
  · rw [kept]
    refine done r before ?_
    rw [from_r] at same
    exact same
  · exact settled

theorem releaseReservation_ok {reservation : StockReservation}
    (h : releaseReservation reservation db = .ok (u, db')) : StockSettled db db' ∧
      ((reservation.warehouseId, reservation.ingredientId) ∈ itemKeys db →
        SettledRow reservation.id db') := by
  simp only [releaseReservation, bind_ok_iff, read_ok_iff] at h
  obtain ⟨found, _, ⟨read, rfl⟩, h⟩ := h
  replace read := Except.ok.inj read
  cases found with
  | none =>
    obtain ⟨_, rfl⟩ := pure_ok_iff.mp h
    exact ⟨stockSettled_refl db, fun listed => absurd listed (findItem_none read)⟩
  | some item =>
    simp only [bind_ok_iff, pure_ok_iff] at h
    obtain ⟨_, m, updated, _, _, settled, _, rfl⟩ := h
    obtain ⟨items, rest⟩ := itemKeys_update updated fun _ => ⟨rfl, rfl⟩
    obtain ⟨_, _, _, rfl⟩ := Table.update_ok_iff.mp settled
    have released : ReservationStatus.released ≠ .active := by decide
    exact ⟨stockSettled_trans _ _ _ (stockSettled_of_items items rest)
      (stockSettled_setStatus _ _ released), fun _ => settledRow_setStatus _ _ released⟩

theorem consumeReservation_ok {reservation : StockReservation}
    (h : consumeReservation tenantId reservation db = .ok (u, db')) : StockSettled db db' ∧
      ((reservation.warehouseId, reservation.ingredientId) ∈ itemKeys db →
        SettledRow reservation.id db') := by
  simp only [consumeReservation, bind_ok_iff, read_ok_iff] at h
  obtain ⟨found, _, ⟨read, rfl⟩, h⟩ := h
  replace read := Except.ok.inj read
  cases found with
  | none =>
    obtain ⟨_, rfl⟩ := pure_ok_iff.mp h
    exact ⟨stockSettled_refl db, fun listed => absurd listed (findItem_none read)⟩
  | some item =>
    simp only [bind_ok_iff, freshId_ok_iff, Table.create_ok_iff, pure_ok_iff] at h
    obtain ⟨_, m, updated, _, _, settled, _, _, ⟨rfl, rfl⟩, _, _, ⟨_, rfl⟩, _, rfl⟩ := h
    obtain ⟨items, rest⟩ := itemKeys_update updated fun _ => ⟨rfl, rfl⟩
    obtain ⟨_, _, _, rfl⟩ := Table.update_ok_iff.mp settled
    have consumed : ReservationStatus.consumed ≠ .active := by decide
    have status := stockSettled_setStatus m reservation.id consumed
    refine ⟨stockSettled_trans _ _ _ (stockSettled_of_items items rest)
      ⟨rfl, Nat.le_succ _, status.items, status.reservations⟩, fun _ => ?_⟩
    exact settledRow_setStatus m reservation.id consumed

theorem forM_settles {f : StockReservation → Transaction PUnit}
    (body : ∀ r db u db', f r db = .ok (u, db') → StockSettled db db' ∧
      ((r.warehouseId, r.ingredientId) ∈ itemKeys db → SettledRow r.id db'))
    {rs : List StockReservation} {u : PUnit} (h : rs.forM f db = .ok (u, db')) :
    StockSettled db db' ∧
      ∀ r ∈ rs, (r.warehouseId, r.ingredientId) ∈ itemKeys db → SettledRow r.id db' := by
  induction rs generalizing db with
  | nil =>
    obtain ⟨_, rfl⟩ := pure_ok_iff.mp h
    exact ⟨stockSettled_refl db, fun r member => absurd member not_mem_nil⟩
  | cons r rs ih =>
    obtain ⟨_, m, first, others⟩ := bind_ok h
    obtain ⟨settled, done⟩ := body r db _ m first
    obtain ⟨settled', done'⟩ := ih others
    refine ⟨stockSettled_trans _ _ _ settled settled', ?_⟩
    intro r' member listed
    rcases mem_cons.mp member with rfl | member
    · exact (done listed).settled settled'
    · exact done' r' member (settled.items ▸ listed)

/-- After the loop over an order's active reservations, none of the order's is active, provided
their item rows exist. -/
theorem none_active_of_settled (settled : StockSettled db db')
    (done : ∀ r ∈ db.stock.reservations.filter (isActiveFor tenantId orderId),
      (r.warehouseId, r.ingredientId) ∈ itemKeys db → SettledRow r.id db')
    (present : ∀ r ∈ db.stock.reservations, isActiveFor tenantId orderId r →
      (r.warehouseId, r.ingredientId) ∈ itemKeys db) {r' : StockReservation}
    (member : r' ∈ db'.stock.reservations) : isActiveFor tenantId orderId r' = false := by
  rw [Bool.eq_false_iff]
  intro active
  obtain ⟨r, before, from_r, status⟩ := settled.row_before member
  have live : r'.status = .active := by
    simp only [isActiveFor, decide_eq_true_eq] at active
    exact active.2.2.2
  have same : r'.status = r.status := status.resolve_right (not_not.mpr live)
  have active_before : isActiveFor tenantId orderId r = true := by
    rw [from_r] at active
    simpa only [isActiveFor, same] using active
  refine done r (mem_filter.mpr ⟨before, active_before⟩) (present r before active_before) r'
    member ?_ live
  rw [from_r]

theorem releaseOrderInventoryReservationsTx_ok {n : Nat}
    (h : releaseOrderInventoryReservationsTx tenantId orderId db = .ok (n, db')) :
    StockSettled db db' ∧
      ((∀ r ∈ db.stock.reservations, isActiveFor tenantId orderId r →
          (r.warehouseId, r.ingredientId) ∈ itemKeys db) →
        ∀ r' ∈ db'.stock.reservations, isActiveFor tenantId orderId r' = false) := by
  simp only [releaseOrderInventoryReservationsTx, bind_ok_iff, read_ok_iff, pure_ok_iff] at h
  obtain ⟨reservations, _, ⟨read, rfl⟩, _, _, loop, _, rfl⟩ := h
  obtain ⟨settled, done⟩ := forM_settles (fun _ _ _ _ => releaseReservation_ok) loop
  rw [← Except.ok.inj read] at done
  exact ⟨settled, fun present _ => none_active_of_settled settled done present⟩

theorem consumeOrderInventoryReservationsTx_ok {n : Nat}
    (h : consumeOrderInventoryReservationsTx tenantId orderId db = .ok (n, db')) :
    StockSettled db db' ∧
      ((∀ r ∈ db.stock.reservations, isActiveFor tenantId orderId r →
          (r.warehouseId, r.ingredientId) ∈ itemKeys db) →
        ∀ r' ∈ db'.stock.reservations, isActiveFor tenantId orderId r' = false) := by
  simp only [consumeOrderInventoryReservationsTx, bind_ok_iff, read_ok_iff, pure_ok_iff] at h
  obtain ⟨reservations, _, ⟨read, rfl⟩, _, _, loop, _, rfl⟩ := h
  obtain ⟨settled, done⟩ := forM_settles (fun _ _ _ _ => consumeReservation_ok) loop
  rw [← Except.ok.inj read] at done
  exact ⟨settled, fun present _ => none_active_of_settled settled done present⟩

/-- A change of the store that only adds reservations of an order, for items that exist. -/
structure Reserved (tenantId orderId : Id) (db db' : Db) : Prop where
  rest : db' = { db with nextId := db'.nextId, stock := db'.stock }
  grows : db.nextId ≤ db'.nextId
  items : ∀ k ∈ itemKeys db, k ∈ itemKeys db'
  reservations : ∃ new, db'.stock.reservations = db.stock.reservations ++ new ∧
    ∀ r ∈ new, r.tenantId = tenantId ∧ r.sourceType = "order" ∧ r.sourceId = orderId ∧
      (r.warehouseId, r.ingredientId) ∈ itemKeys db'

theorem reserved_refl (tenantId orderId : Id) (db : Db) : Reserved tenantId orderId db db where
  rest := rfl
  grows := le_refl _
  items := fun _ listed => listed
  reservations := ⟨[], (append_nil _).symm, fun _ member => absurd member not_mem_nil⟩

theorem reserved_trans (tenantId orderId : Id) (a b c : Db) (hab : Reserved tenantId orderId a b)
    (hbc : Reserved tenantId orderId b c) : Reserved tenantId orderId a c where
  rest := by rw [hbc.rest, hab.rest]
  grows := le_trans hab.grows hbc.grows
  items k listed := hbc.items k (hab.items k listed)
  reservations := by
    obtain ⟨first, eq₁, all₁⟩ := hab.reservations
    obtain ⟨second, eq₂, all₂⟩ := hbc.reservations
    refine ⟨first ++ second, by rw [eq₂, eq₁, append_assoc], fun r member => ?_⟩
    rcases mem_append.mp member with member | member
    · obtain ⟨tenant, type, source, listed⟩ := all₁ r member
      exact ⟨tenant, type, source, hbc.items _ listed⟩
    · exact all₂ r member

theorem getOrCreateItemTx_ok (h : getOrCreateItemTx tenantId w i db = .ok (item, db')) :
    db' = { db with
      nextId := db'.nextId
      stock := { db.stock with items := db'.stock.items } } ∧ db.nextId ≤ db'.nextId ∧
      (∀ k ∈ itemKeys db, k ∈ itemKeys db') ∧ (w, i) ∈ itemKeys db' := by
  simp only [getOrCreateItemTx, bind_ok_iff, read_ok_iff] at h
  obtain ⟨found, _, ⟨read, rfl⟩, h⟩ := h
  replace read := Except.ok.inj read
  cases found with
  | some existing =>
    obtain ⟨_, rfl⟩ := pure_ok_iff.mp h
    exact ⟨rfl, le_refl _, fun _ listed => listed, findItem_some read⟩
  | none =>
    simp only [bind_ok_iff, freshId_ok_iff, Table.create_ok_iff] at h
    obtain ⟨_, _, ⟨rfl, rfl⟩, _, rfl⟩ := h
    refine ⟨rfl, Nat.le_succ _, fun k listed => ?_, ?_⟩
    · obtain ⟨row, member, rfl⟩ := mem_map.mp listed
      exact mem_map.mpr ⟨row, mem_append_left _ member, rfl⟩
    · exact mem_map.mpr ⟨_, mem_append_right _ (mem_singleton_self _), rfl⟩

theorem reserveOrderInventoryTx_ok {reservations : List InventoryReservationPlanEntry}
    (h : reserveOrderInventoryTx tenantId orderId reservations db = .ok (u, db')) :
    Reserved tenantId orderId db db' := by
  refine forM_related (reserved_refl tenantId orderId) (reserved_trans tenantId orderId) ?_ h
  intro entry _ a b u step
  simp only [bind_ok_iff, freshId_ok_iff, Table.create_ok_iff, pure_ok_iff] at step
  obtain ⟨item, m, got, _, _, ⟨rfl, rfl⟩, _, _, ⟨rfl, rfl⟩, _, c, updated, _, rfl⟩ := step
  obtain ⟨rest, grows, kept, listed⟩ := getOrCreateItemTx_ok got
  obtain ⟨items, only⟩ := itemKeys_update updated fun _ => ⟨rfl, rfl⟩
  have keys : itemKeys c = itemKeys m := items
  refine ⟨?_, ?_, ?_, ?_⟩
  · rw [only, rest]
    rfl
  · rw [only]
    exact le_trans grows (Nat.le_succ _)
  · intro k before
    rw [keys]
    exact kept k before
  · refine ⟨[orderReservation tenantId orderId m.nextId entry], ?_, fun r member => ?_⟩
    · rw [only, rest]
      rfl
    · rw [mem_singleton.mp member, keys]
      exact ⟨rfl, rfl, rfl, listed⟩

end Exetron.Inventory
