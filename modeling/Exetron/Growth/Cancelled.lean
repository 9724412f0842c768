import Exetron.Growth.Uses

/-!
# What is left of a cancelled order

A cancelled order earns nothing, but it still pays for its reward and is still counted for its
promotion when it is finalised, and what was recorded before is not taken back when it is cancelled.
-/

namespace Exetron.Growth

open Lib Orders Customers Carts

def pointsFor (db : Db) (orderId accountId : Id) : Int :=
  ((db.customers.ledger.filter fun entry =>
    entry.orderId = some orderId ∧ entry.loyaltyAccountId = accountId).map
      LoyaltyLedgerEntry.points).sum

/-- The order's points make nothing on any account, and no promotion counts it. -/
structure NoTrace (db : Db) (orderId : Id) : Prop where
  points : ∀ accountId, pointsFor db orderId accountId = 0
  notCounted : orderId ∉ redemptions db

/-- Promotions count the orders recorded for them, and nothing is left of a cancelled one. -/
structure CancelledForgotten (db : Db) : Prop where
  counts : ∀ promotion ∈ db.customers.campaigns,
    promotion.usedCount = uses db (redemptions db) promotion.id
  orders : ∀ order ∈ db.orders, order.status = .cancelled → NoTrace db order.id

def LeavesNoTrace (db : Db) (r : GrowthRequest) : Prop :=
  match r.call with
  | .transitionOrder orderId dto => dto.toStatus = .cancelled →
    ∀ order ∈ (admitTransition r.context orderId dto db).toOption, NoTrace db order.id
  | .finalizeOrderGrowth orderId => ∀ order ∈ (findOrder r.context orderId db).toOption,
    order.status = .cancelled → Text.isFilled order.customerPhone →
      redeeming order db = [] ∧ uncounted order db = none
  | _ => True

section
variable {orderId : Id} {r : GrowthRequest} {db db' : Db}

theorem noTrace_iff : NoTrace db orderId ↔ (∀ entry ∈ db.customers.ledger,
    pointsFor db orderId entry.loyaltyAccountId = 0) ∧ orderId ∉ redemptions db := by
  constructor
  · rintro ⟨points, notCounted⟩
    exact ⟨fun entry _ => points entry.loyaltyAccountId, notCounted⟩
  · rintro ⟨points, notCounted⟩
    refine ⟨fun accountId => ?_, notCounted⟩
    by_cases entered : ∃ entry ∈ db.customers.ledger, entry.loyaltyAccountId = accountId
    · obtain ⟨entry, stored, rfl⟩ := entered
      exact points entry stored
    · have none : (db.customers.ledger.filter fun entry =>
          entry.orderId = some orderId ∧ entry.loyaltyAccountId = accountId) = [] :=
        List.filter_eq_nil_iff.mpr fun entry stored is =>
          entered ⟨entry, stored, (of_decide_eq_true is).2⟩
      rw [pointsFor, none]
      rfl

instance : Decidable (NoTrace db orderId) := decidable_of_iff _ noTrace_iff.symm

instance (db : Db) (r : GrowthRequest) : Decidable (LeavesNoTrace db r) :=
  match r with
  | ⟨_, context, .transitionOrder orderId dto⟩ =>
    inferInstanceAs (Decidable (dto.toStatus = .cancelled →
      ∀ order ∈ (admitTransition context orderId dto db).toOption, NoTrace db order.id))
  | ⟨_, context, .finalizeOrderGrowth orderId⟩ =>
    inferInstanceAs (Decidable (∀ order ∈ (findOrder context orderId db).toOption,
      order.status = .cancelled → Text.isFilled order.customerPhone →
        redeeming order db = [] ∧ uncounted order db = none))
  | ⟨_, _, .cart _ _⟩ | ⟨_, _, .adjustLoyalty _ _⟩ | ⟨_, _, .createPromotion _⟩
  | ⟨_, _, .updatePromotion _ _⟩ | ⟨_, _, .elsewhere _ _⟩ => isTrue trivial

theorem pointsFor_append {new : List LoyaltyLedgerEntry}
    (ledger : db'.customers.ledger = db.customers.ledger ++ new)
    (others : ∀ entry ∈ new, entry.orderId ≠ some orderId) (accountId : Id) :
    pointsFor db' orderId accountId = pointsFor db orderId accountId := by
  have none : (new.filter fun entry =>
      entry.orderId = some orderId ∧ entry.loyaltyAccountId = accountId) = [] :=
    List.filter_eq_nil_iff.mpr fun entry listed is => others entry listed (of_decide_eq_true is).1
  rw [pointsFor, ledger, List.filter_append, none, List.append_nil]
  rfl

theorem NoTrace.of_append (free : NoTrace db orderId) {new : List LoyaltyLedgerEntry}
    (ledger : db'.customers.ledger = db.customers.ledger ++ new)
    (others : ∀ entry ∈ new, entry.orderId ≠ some orderId)
    (notCounted : orderId ∉ redemptions db → orderId ∉ redemptions db') : NoTrace db' orderId where
  points accountId := (pointsFor_append ledger others accountId).trans (free.points accountId)
  notCounted := notCounted free.notCounted

theorem NoTrace.of_same (free : NoTrace db orderId)
    (ledger : db'.customers.ledger = db.customers.ledger)
    (counted : redemptions db' = redemptions db) : NoTrace db' orderId :=
  free.of_append (ledger.trans (List.append_nil _).symm)
    (fun _ listed => absurd listed List.not_mem_nil) (fun absent => counted ▸ absent)

theorem NoTrace.finalised (free : NoTrace db orderId) {order : Order} {phone : String}
    {profile : CustomerProfile} {accountId : Id}
    (recorded : GrowthRecorded order phone profile accountId db db')
    (nothing : orderId = order.id → postings order db = [] ∧ uncounted order db = none) :
    NoTrace db' orderId := by
  obtain ⟨new, ledger, is, posted⟩ := recorded.credited.ledger
  refine free.of_append ledger (fun entry listed own => ?_) (fun absent listed => ?_)
  · have same : orderId = order.id :=
      Option.some.inj (own.symm.trans (posted entry listed).order)
    rw [(nothing same).1] at is
    rw [List.map_eq_nil_iff.mp is] at listed
    cases listed
  · rw [recorded.redemptions] at listed
    rcases List.mem_append.mp listed with before | last
    · exact absent before
    · obtain ⟨promotionId, isNew, same⟩ := List.mem_map.mp last
      rw [(nothing same.symm).2] at isNew
      cases isNew

theorem earning_cancelled {order : Order} (cancelled : order.status = .cancelled) : earning order db = [] :=
  if_neg fun earns => earns.2.2 cancelled

theorem Grows.noTrace (grows : Grows db r db') (keys : GrowthKeys db)
    (forgotten : ∀ order ∈ db.orders, order.status = .cancelled → NoTrace db order.id)
    (leaves : LeavesNoTrace db r) :
    ∀ order ∈ db'.orders, order.status = .cancelled → NoTrace db' order.id := by
  have untouched : db'.orders = db.orders → db'.customers.ledger = db.customers.ledger →
      redemptions db' = redemptions db →
        ∀ order ∈ db'.orders, order.status = .cancelled → NoTrace db' order.id :=
    fun orders ledger counted order stored cancelled =>
      (forgotten order (orders ▸ stored) cancelled).of_same ledger counted
  cases grows with
  | untouched same => exact untouched same.orders (by rw [same.customers]) same.redemptions
  | moved other moved customers counted supply =>
    have ledger : db'.customers.ledger = db.customers.ledger := by rw [customers]
    cases moved with
    | kept _ orders _ | opened _ _ _ _ orders _ | turned _ _ _ _ orders _ =>
      exact untouched orders ledger counted
    | ordered cart dto order itemIds stored isOpen made listed carts orders first grows =>
      intro other listed cancelled
      rw [orders] at listed
      rcases List.mem_append.mp listed with before | new
      · exact (forgotten other before cancelled).of_same ledger counted
      · rw [List.mem_singleton.mp new, made] at cancelled
        cases cancelled
  | promoted cart promotion profile applied =>
    exact untouched (by rw [applied.rest]) applied.enrolled.ledger (by rw [applied.rest]; rfl)
  | adjusted accountId adjusted credited =>
    intro order stored cancelled
    obtain ⟨new, ledger, _, posted⟩ := credited.ledger
    have before : order ∈ db.orders := by
      rw [adjusted.rest] at stored
      exact stored
    refine (forgotten order before cancelled).of_append ledger (fun entry listed own => ?_)
      (fun absent => adjusted.redemptions ▸ absent)
    rw [(posted entry listed).order] at own
    cases own
  | created tenantId code audit is | changed audit is =>
    rw [is] at untouched ⊢
    exact untouched rfl rfl rfl
  | transitioned current admitted carts orders customers counted grows =>
    intro order stored cancelled
    have ledger : db'.customers.ledger = db.customers.ledger := by rw [customers]
    rw [orders] at stored
    rcases Rows.mem_of_modify stored with before | ⟨before, stored', own, rfl⟩
    · exact (forgotten order before cancelled).of_same ledger counted
    · obtain ⟨current', same⟩ := Table.findUnique_mem (admitTransition_ok admitted).1
      obtain rfl := Rows.eq_of_key keys.orders stored' current' own
      have free := leaves cancelled before (by rw [admitted]; rfl)
      exact free.of_same ledger counted
  | finalised order phone profile accountId found known recorded =>
    intro other stored cancelled
    have isStored : order ∈ db.orders := (Table.findUnique_mem (findOrder_ok_iff.mp found).1).1
    rw [congrArg Db.orders recorded.rest] at stored
    obtain ⟨before, stored', status, id⟩ : ∃ before ∈ db.orders,
        before.status = other.status ∧ before.id = other.id := by
      rcases Rows.mem_of_modify stored with before | ⟨before, stored', _, rfl⟩
      · exact ⟨other, before, rfl, rfl⟩
      · exact ⟨before, stored', rfl, rfl⟩
    rw [← status] at cancelled
    rw [← id]
    refine (forgotten before stored' cancelled).finalised recorded fun own => ?_
    obtain rfl := Rows.eq_of_key keys.orders stored' isStored own
    have filled : Text.isFilled before.customerPhone := by
      rw [Text.isFilled_eq_isSome, known]
      rfl
    obtain ⟨paid, counted⟩ := leaves before (by rw [found]; rfl) cancelled filled
    exact ⟨by rw [postings, earning_cancelled cancelled, paid]; rfl, counted⟩

end

/-- Along a run in which orders have no trace when they are cancelled and leave none when they are
finalised after that, nothing is left of a cancelled order in any state. -/
theorem cancelled_orders_forgotten {db : Db} (fresh : Fresh db) {rs : List GrowthRequest}
    (leaves : Trace.Along step LeavesNoTrace db rs) :
    ∀ before, before <+: rs → CancelledForgotten (run db before) := by
  have start : ∀ order ∈ db.orders, order.status = .cancelled → NoTrace db order.id :=
    fun order stored => by
      rw [fresh.orders] at stored
      cases stored
  have keeps : ∀ s e, Tallied s ∧ (∀ order ∈ s.orders, order.status = .cancelled →
      NoTrace s order.id) → LeavesNoTrace s e → Tallied (step s e) ∧
        ∀ order ∈ (step s e).orders, order.status = .cancelled → NoTrace (step s e) order.id :=
    fun s e inv leaves =>
      ⟨step_tallied inv.1 e, (step_grows inv.1.keys e).noTrace inv.1.keys inv.2 leaves⟩
  intro before prior
  obtain ⟨tallied, forgotten⟩ :=
    Trace.run_invariant keeps ⟨tallied_fresh fresh, start⟩ (Trace.along_prefix prior leaves)
  exact ⟨tallied.counts, forgotten⟩

def calledOffFirst : List GrowthRequest :=
  [createCartAt 1 { storeId := 2, customerPhone := some "555" },
   addItemAt 2 100 { productId := 10, quantity := 20 },
   checkoutAt 3 100,
   atCounter 4 (.transitionOrder 102 ⟨.cancelled, none, none⟩),
   atCounter 5 (.finalizeOrderGrowth 102)]

def calledOffAfterwards : List GrowthRequest :=
  [createCartAt 1 { storeId := 2, customerPhone := some "555" },
   addItemAt 2 100 { productId := 10, quantity := 20 },
   checkoutAt 3 100,
   atCounter 4 (.finalizeOrderGrowth 102),
   atCounter 5 (.transitionOrder 102 ⟨.cancelled, none, none⟩)]

theorem cancelled_orders_forgotten_called_off_first :
    (∀ before, before <+: calledOffFirst → CancelledForgotten (run bakery before)) ∧
    (run bakery calledOffFirst).orders.map (fun order => (order.status, order.customerPhone)) =
      [(.cancelled, some "+555")] :=
  ⟨cancelled_orders_forgotten bakery_fresh (by decide +kernel), by decide +kernel⟩

/-- The customer keeps the points of an order that they called off. -/
theorem called_off_afterwards_keeps_points : ¬∀ before, before <+: calledOffAfterwards →
    CancelledForgotten (run bakery before) := by
  intro always
  have forgotten := always calledOffAfterwards (List.prefix_refl _)
  have earned : (run bakery calledOffAfterwards).orders.any (fun order =>
      order.status = .cancelled ∧ ¬NoTrace (run bakery calledOffAfterwards) order.id) = true := by
    decide +kernel
  obtain ⟨order, stored, is⟩ := List.any_eq_true.mp earned
  obtain ⟨cancelled, trace⟩ := of_decide_eq_true is
  exact trace (forgotten.orders order stored cancelled)

end Exetron.Growth
