import Exetron.Checkout.Kiosk
import Exetron.Checkout.Storefront
import Exetron.Customers.Steps
import Exetron.Fulfilment

/-!
# Paid orders

What becomes of an order that a kiosk or the storefront has placed once its payment is captured.
The channel's rule and the provider's setting both ask for a confirmation; the checkout answers
as they promise only when both are on.
-/

namespace Exetron.Checkout

open Lib Payments Call

variable {db db' m : Db} {context : RequestContext} {cartId : Id}

def providerAutoConfirms (env : Env) (placed : Placed) (db : Db) : Bool :=
  match resolveProviderConfigTx env placed.intent placed.allocation.method none db with
  | .ok config => config.autoConfirmOrderOnSuccess
  | .error _ => false

def promisedStatus (autoConfirmPaidOrders autoConfirmOrderOnSuccess : Bool) : OrderStatus :=
  if autoConfirmPaidOrders ∨ autoConfirmOrderOnSuccess then .confirmed else .placed

/-- The keys of orders and payments are older than the supply, as in every reachable state. -/
structure Keyed (db : Db) : Prop where
  ordersOld : ∀ id ∈ db.orders.map Order.id, id < db.nextId
  payments : Consistent db.payments db.nextId

theorem keyed_run (init : Initial db) (rs : List Request) : Keyed (run db rs) :=
  ⟨(sound_run init rs).ordersOld, consistent_run init rs⟩

/-- The order is placed and its intent is open. -/
structure Due (placed : Placed) (db : Db) : Prop where
  payments : Consistent db.payments db.nextId
  order : Orders.findOrder placed.context placed.order.id db = .ok placed.order
  status : placed.order.status = .placed
  intent : placed.intent ∈ db.payments.intents
  intentOrder : placed.intent.orderId = placed.order.id
  allocation : placed.allocation ∈ db.payments.allocations

theorem findOrder_congr {orderId : Id} (same : db'.orders = db.orders) :
    Orders.findOrder context orderId db' = Orders.findOrder context orderId db := by
  simp only [Orders.findOrder, Table.findUniqueOrThrow, Table.findUnique, orders, same]

theorem checkoutTx_found {env : Env} {dto : Orders.CheckoutCartDto} {order : Order}
    (keyed : Keyed db) (h : Orders.checkoutTx env context cartId dto db = .ok (order, db')) :
    Orders.findOrder context order.id db' = .ok order ∧ order.status = .placed ∧
      Consistent db'.payments db'.nextId := by
  obtain ⟨cart, plan, admitted, made, done⟩ := Orders.checkoutTx_ok h
  have rows : db'.orders = db.orders ++ [order] := by rw [done.rest]
  have payments : db'.payments = db.payments := by rw [done.rest]
  have authorized : authorize context cart.tenantId cart.storeId = .ok () := by
    simp only [Orders.admitCheckout, except_bind_ok_iff, except_pure_ok_iff] at admitted
    obtain ⟨_, _, _, _, _, authorized, _, _, _, _, same⟩ := admitted
    obtain ⟨rfl, _⟩ := Prod.mk.inj same
    exact authorized
  have fresh : ∀ o ∈ db.orders, o.id ≠ order.id := by
    intro o stored
    rw [made]
    exact ne_of_lt (keyed.ordersOld o.id (List.mem_map_of_mem stored))
  refine ⟨Orders.findOrder_ok_iff.mpr ⟨?_, ?_⟩, by rw [made]; rfl, ?_⟩
  · show Rows.find Order.id db'.orders order.id = _
    rw [rows]
    exact Rows.find_append_new fresh
  · rw [made]
    exact authorized
  · rw [payments]
    exact keyed.payments.mono (le_of_lt done.grows)

theorem openPayment_due {autoConfirmPaidOrders : Bool} {order : Order}
    {dto : CreatePaymentIntentDto} {missing : String} {placed : Placed}
    (payments : Consistent db.payments db.nextId)
    (found : Orders.findOrder context order.id db = .ok order) (status : order.status = .placed)
    (subject : dto.orderId = order.id)
    (h : Call.exec (openPayment context autoConfirmPaidOrders order dto missing) db =
      (.ok placed, db')) : Due placed db' := by
  simp only [openPayment, exec_bind_ok_iff, createIntent, transact_ok_iff] at h
  obtain ⟨created, m, opened, h⟩ := h
  have effect := createIntentTx_effect opened
  obtain ⟨a, logs, admitted, intent, allocations, after⟩ := createIntentTx_ok opened
  obtain ⟨_, sameOrder, _⟩ := admitIntent_ok admitted
  cases first : created.allocations.head? with
  | none =>
    rw [first] at h
    cases h
  | some allocation =>
    rw [first] at h
    obtain ⟨rfl, rfl⟩ := exec_pure_ok_iff.mp h
    have ordersKept : m.orders = db.orders := by rw [after]
    have paymentsAfter : m.payments = openIntent created.intent created.allocations db.payments := by
      rw [after]
    exact
      { payments := effect_consistent effect payments
        order := (findOrder_congr ordersKept).trans found
        status := status
        intent := by
          rw [paymentsAfter]
          exact List.mem_append_right _ (List.mem_singleton_self _)
        intentOrder := by
          rw [intent, ← subject, ← sameOrder]
          rfl
        allocation := by
          rw [paymentsAfter]
          exact List.mem_append_right _ (List.mem_of_head? first) }

theorem kiosk_place_due {env : Kiosk.KioskEnv} {dto : Kiosk.KioskCheckoutDto} {device : Device}
    {placed : Placed} (keyed : Keyed db)
    (h : Call.exec (Kiosk.place env dto) db = (.ok (device, placed), m)) : Due placed m := by
  simp only [Kiosk.place, exec_bind_ok_iff, transact_ok_iff, Tx.read_ok_iff, exec_pure_ok_iff] at h
  obtain ⟨⟨device', rules⟩, _, ⟨_, rfl⟩, cartId, m₁, filled, order, m₂, ordered, placed', m₃,
    opened, same, rfl⟩ := h
  obtain ⟨rfl, rfl⟩ := Prod.mk.inj same
  have keyed₁ : Keyed m₁ := by
    obtain ⟨_, rfl⟩ := Prod.mk.inj filled
    exact ⟨fun id listed => lt_of_lt_of_le (keyed.ordersOld id listed) (Nat.le_add_right _ _),
      keyed.payments.mono (Nat.le_add_right _ _)⟩
  obtain ⟨found, status, payments⟩ := checkoutTx_found keyed₁ (transact_ok_iff.mp ordered)
  exact openPayment_due payments found status rfl opened

theorem storefront_place_due {env : Storefront.StorefrontEnv}
    {dto : Storefront.StorefrontCheckoutDto} {a : Storefront.AdmittedCheckout} {placed : Placed}
    (keyed : Keyed db) (h : Call.exec (Storefront.place env cartId dto) db = (.ok (a, placed), m)) :
    Due placed m := by
  simp only [Storefront.place, exec_bind_ok_iff, transact_ok_iff, Tx.read_ok_iff,
    Orders.getCart] at h
  obtain ⟨a', _, ⟨_, rfl⟩, cart, _, ⟨_, rfl⟩, h⟩ := h
  split at h
  · cases h
  · simp only [exec_bind_ok_iff, exec_pure_ok_iff] at h
    obtain ⟨order, m₂, ordered, placed', m₃, opened, same, rfl⟩ := h
    obtain ⟨rfl, rfl⟩ := Prod.mk.inj same
    obtain ⟨found, status, payments⟩ := checkoutTx_found keyed (transact_ok_iff.mp ordered)
    exact openPayment_due payments found status rfl opened

def paidOrder (env : Env) (placed : Placed) (confirms : Bool) : Order :=
  if confirms then Orders.applyTransition env.now { toStatus := .confirmed } placed.order
  else placed.order

theorem paidOrder_status {env : Env} {placed : Placed} {confirms : Bool}
    (status : placed.order.status = .placed) :
    (paidOrder env placed confirms).status = if confirms then .confirmed else .placed := by
  cases confirms with
  | true => rfl
  | false => exact status

theorem pay_completed {env : Env} {placed : Placed} {n : Db} {processed : LoadedPaymentIntent}
    (due : Due placed m) (paid : Call.exec (pay env placed) m = (.ok processed, n))
    (completed : processed.intent.status = .completed) :
    Orders.findOrder placed.context placed.order.id n =
      .ok (paidOrder env placed (providerAutoConfirms env placed m)) ∧
        processed.allocations ≠ [] := by
  simp only [pay, processAllocation, exec_bind_ok_iff, transact_ok_iff] at paid
  obtain ⟨⟨loaded, config⟩, m₁, captured, confirmed⟩ := paid
  obtain ⟨a, logs, admitted, after, chosen, stored, sameIntent, sameOrderId, sameOrder⟩ :=
    processAllocationTx_ok due.payments captured
  obtain ⟨load, _, listed, sameAllocation, _, _, resolved, _⟩ := admitAllocation_ok admitted
  obtain ⟨loadedStored, loadedId, loadedOrder, _⟩ := loadIntent_ok load
  have intentIs : a.loaded.intent = placed.intent :=
    due.payments.intent_eq loadedStored due.intent loadedId
  have allocationIs : a.allocation = placed.allocation :=
    due.payments.allocation_eq listed due.allocation sameAllocation
  have subject : loaded.intent.orderId = placed.order.id := by
    rw [← due.intentOrder, ← intentIs]
    exact sameOrderId
  have orderIs : loaded.order = placed.order := by
    obtain ⟨located, _⟩ := Orders.findOrder_ok_iff.mp due.order
    rw [intentIs, due.intentOrder, located] at loadedOrder
    rw [sameOrder, ← Option.some.inj loadedOrder]
  have confirms : providerAutoConfirms env placed m = config.autoConfirmOrderOnSuccess := by
    rw [intentIs, allocationIs] at resolved
    rw [providerAutoConfirms, resolved, ← chosen]
  have consistent₁ : Consistent m₁.payments m₁.nextId := by
    rw [after]
    exact effect_consistent (admitted_answer_effect admitted) due.payments
  have found₁ : Orders.findOrder placed.context placed.order.id m₁ = .ok placed.order :=
    (findOrder_congr (by rw [after])).trans due.order
  have seen : ∀ u, u.payments = m₁.payments →
      exec (getIntent placed.context placed.intent.id) u = (.ok processed, n) →
        n = u ∧ loaded.intent.status = .completed ∧ processed.allocations ≠ [] := by
    intro u same read
    obtain ⟨load', rfl⟩ := getIntent_ok read
    obtain ⟨stored', id', _, owned⟩ := loadIntent_ok load'
    rw [same] at stored' owned
    refine ⟨rfl, ?_, ?_⟩
    · rw [consistent₁.intent_eq stored stored' (sameIntent.trans id'.symm)]
      exact completed
    · obtain ⟨b, listed', owner⟩ := consistent₁.allocation_of_intent stored'
      rw [owned]
      exact List.ne_nil_of_mem (List.mem_filter.mpr ⟨listed', decide_eq_true (owner.trans id')⟩)
  rw [confirms]
  split at confirmed
  · rename_i asked
    simp only [exec_bind_ok_iff] at confirmed
    obtain ⟨result, m₂, moved, read⟩ := confirmed
    have moved' := transact_ok_iff.mp moved
    obtain ⟨current, located, _, made, after'⟩ := Orders.transitionOrderTx_found moved'
    have kept : m₂.payments = m₁.payments := by
      obtain ⟨_, _, _, _, settled⟩ := Orders.transitionOrderTx_ok moved'
      rw [settled.rest]
    obtain ⟨rfl, _, nonempty⟩ := seen m₂ kept read
    rw [subject] at located after'
    rw [found₁] at located
    have on : config.autoConfirmOrderOnSuccess = true := asked.2.1
    refine ⟨?_, nonempty⟩
    rw [after', made, ← Except.ok.inj located, on]
    rfl
  · rename_i unasked
    obtain ⟨rfl, status, nonempty⟩ := seen m₁ rfl confirmed
    refine ⟨?_, nonempty⟩
    have off : config.autoConfirmOrderOnSuccess = false := by
      rw [← Bool.not_eq_true]
      exact fun on => unasked ⟨status, on, by rw [orderIs]; exact due.status⟩
    rw [found₁, off]
    rfl

def AnswersAsPromised {α : Type} (orderOf : α → Order) (checkout : ServiceCall α) (db : Db)
    (promised : OrderStatus) : Prop :=
  ∃ answer db', Call.exec checkout db = (.ok answer, db') ∧ (orderOf answer).status = promised

section
variable {env paying : Env} {placed : Placed} {n t : Db} {processed : LoadedPaymentIntent}
  {confirms : Bool} {o : Order}

theorem orderAfterPayment_on
    (found : Orders.findOrder placed.context placed.order.id n = .ok (paidOrder paying placed confirms))
    (on : placed.autoConfirmPaidOrders = true) :
    Call.exec (orderAfterPayment env placed processed) n =
      (.ok (paidOrder paying placed confirms), n) := by
  have unconfirmed : ¬(processed.intent.status = .completed ∧ ¬placed.autoConfirmPaidOrders = true) :=
    fun h => h.2 on
  rw [orderAfterPayment, if_neg unconfirmed]
  exact transact_ok (Tx.read_ok_iff.mpr ⟨found, rfl⟩)

theorem orderAfterPayment_ok
    (found : Orders.findOrder placed.context placed.order.id n = .ok (paidOrder paying placed confirms))
    (status : placed.order.status = .placed) (completed : processed.intent.status = .completed)
    (h : Call.exec (orderAfterPayment env placed processed) n = (.ok o, t)) :
    Orders.findOrder placed.context placed.order.id t = .ok o ∧
      (o.status = promisedStatus placed.autoConfirmPaidOrders confirms →
        placed.autoConfirmPaidOrders = true ∧ confirms = true) := by
  cases rule : placed.autoConfirmPaidOrders with
  | true =>
    rw [orderAfterPayment_on found rule] at h
    obtain ⟨first, rfl⟩ := Prod.mk.inj h
    obtain rfl := Except.ok.inj first
    refine ⟨found, fun asPromised => ⟨rfl, ?_⟩⟩
    rw [paidOrder_status status] at asPromised
    cases confirms with
    | true => rfl
    | false => cases asPromised
  | false =>
    rw [orderAfterPayment, if_pos ⟨completed, by simp [rule]⟩] at h
    obtain ⟨current, located, allowed, made, after⟩ :=
      Orders.transitionOrderTx_found (transact_ok_iff.mp h)
    rw [found] at located
    obtain rfl := Except.ok.inj located
    refine ⟨after, fun asPromised => ?_⟩
    rw [paidOrder_status status] at allowed
    cases confirms with
    | true => cases allowed
    | false =>
      rw [made] at asPromised
      cases asPromised

end

theorem kiosk_answers_iff {env : Kiosk.KioskEnv} {dto : Kiosk.KioskCheckoutDto} {n : Db}
    {device : Device} {placed : Placed} {processed : LoadedPaymentIntent} (keyed : Keyed db)
    (placing : Call.exec (Kiosk.place env dto) db = (.ok (device, placed), m))
    (paid : Call.exec (pay env.paying placed) m = (.ok processed, n))
    (completed : processed.intent.status = .completed) :
    AnswersAsPromised Kiosk.KioskCheckoutResponse.order (Kiosk.checkout env dto) db
        (promisedStatus placed.autoConfirmPaidOrders (providerAutoConfirms env.paying placed m)) ↔
      placed.autoConfirmPaidOrders = true ∧ providerAutoConfirms env.paying placed m = true := by
  have due := kiosk_place_due keyed placing
  obtain ⟨found, nonempty⟩ := pay_completed due paid completed
  obtain ⟨first, rest, allocations⟩ := List.exists_cons_of_ne_nil nonempty
  have answers : exec (Kiosk.checkout env dto) db =
      exec (Kiosk.finish env device placed processed) n := by
    rw [Kiosk.checkout, exec_bind_of_ok placing, exec_bind_of_ok paid]
  simp only [AnswersAsPromised, answers, Kiosk.finish, allocations, List.head?_cons,
    exec_bind_ok_iff, exec_pure_ok_iff]
  constructor
  · rintro ⟨_, _, ⟨o, t, answered, rfl, rfl⟩, asPromised⟩
    exact (orderAfterPayment_ok found due.status completed answered).2 asPromised
  · rintro ⟨rule, confirms⟩
    refine ⟨_, _, ⟨_, _, orderAfterPayment_on found rule, rfl, rfl⟩, ?_⟩
    show (paidOrder env.paying placed (providerAutoConfirms env.paying placed m)).status = _
    rw [paidOrder_status due.status, rule, confirms]
    rfl

theorem finalOrder_ok {env : Storefront.StorefrontEnv} {placed : Placed}
    {processed : LoadedPaymentIntent} {o o' : Order} {n t : Db}
    (completed : processed.intent.status = .completed)
    (found : Orders.findOrder placed.context placed.order.id n = .ok o)
    (h : Call.exec (Storefront.finalOrder env placed processed o) n = (.ok o', t)) :
    o'.status = o.status ∧ (Text.isFilled o.customerPhone → Customers.Recordable o n) := by
  rw [Storefront.finalOrder, if_pos completed] at h
  simp only [exec_bind_ok_iff, Customers.finalizeOrderGrowth, Orders.getOrder,
    transact_ok_iff, Tx.read_ok_iff] at h
  obtain ⟨_, _, grown, read, rfl⟩ := h
  obtain ⟨before, after, located, located', same⟩ := Customers.finalizeOrderGrowthTx_ok grown
  rw [found] at located
  rw [read] at located'
  obtain rfl := Except.ok.inj located
  obtain rfl := Except.ok.inj located'
  exact ⟨same, (Customers.finalizeOrderGrowthTx_succeeds_iff _ found).mp ⟨_, _, grown⟩⟩

theorem finalOrder_succeeds (env : Storefront.StorefrontEnv) {placed : Placed}
    {processed : LoadedPaymentIntent} {o : Order} {n : Db}
    (completed : processed.intent.status = .completed)
    (found : Orders.findOrder placed.context placed.order.id n = .ok o)
    (recordable : Text.isFilled o.customerPhone → Customers.Recordable o n) :
    ∃ o' t, Call.exec (Storefront.finalOrder env placed processed o) n = (.ok o', t) := by
  obtain ⟨result, t, grown⟩ :=
    (Customers.finalizeOrderGrowthTx_succeeds_iff env.growing.now found).mpr recordable
  obtain ⟨_, o', _, located, _⟩ := Customers.finalizeOrderGrowthTx_ok grown
  refine ⟨o', t, ?_⟩
  rw [Storefront.finalOrder, if_pos completed]
  simp only [exec_bind_ok_iff, Customers.finalizeOrderGrowth, Orders.getOrder,
    transact_ok_iff, Tx.read_ok_iff]
  exact ⟨result, t, grown, located, rfl⟩

theorem recordable_paidOrder {env : Env} {placed : Placed} {confirms : Bool} {n : Db} :
    (Text.isFilled (paidOrder env placed confirms).customerPhone →
        Customers.Recordable (paidOrder env placed confirms) n) ↔
      (Text.isFilled placed.order.customerPhone → Customers.Recordable placed.order n) := by
  cases confirms with
  | true =>
    constructor
    all_goals
      intro h filled
      obtain ⟨cart, points, campaign⟩ := h filled
      exact ⟨cart, points, campaign⟩
  | false => exact Iff.rfl

theorem storefront_answers_iff {env : Storefront.StorefrontEnv}
    {dto : Storefront.StorefrontCheckoutDto} {n : Db} {a : Storefront.AdmittedCheckout}
    {placed : Placed} {processed : LoadedPaymentIntent} (keyed : Keyed db)
    (placing : Call.exec (Storefront.place env cartId dto) db = (.ok (a, placed), m))
    (paid : Call.exec (pay env.paying placed) m = (.ok processed, n))
    (completed : processed.intent.status = .completed) :
    AnswersAsPromised Storefront.StorefrontCheckoutResponse.order
        (Storefront.checkout env cartId dto) db
        (promisedStatus placed.autoConfirmPaidOrders (providerAutoConfirms env.paying placed m)) ↔
      (placed.autoConfirmPaidOrders = true ∧ providerAutoConfirms env.paying placed m = true) ∧
        (Text.isFilled placed.order.customerPhone → Customers.Recordable placed.order n) := by
  have due := storefront_place_due keyed placing
  obtain ⟨found, _⟩ := pay_completed due paid completed
  have answers : exec (Storefront.checkout env cartId dto) db =
      exec (Storefront.finish env dto a placed processed) n := by
    rw [Storefront.checkout, exec_bind_of_ok placing, exec_bind_of_ok paid]
  simp only [AnswersAsPromised, answers, Storefront.finish, exec_bind_ok_iff, exec_pure_ok_iff]
  constructor
  · rintro ⟨_, _, ⟨o, t, answered, o', _, final, rfl, rfl⟩, asPromised⟩
    obtain ⟨stored, both⟩ := orderAfterPayment_ok found due.status completed answered
    obtain ⟨same, recordable⟩ := finalOrder_ok completed stored final
    have settings := both (same.symm.trans asPromised)
    rw [orderAfterPayment_on found settings.1] at answered
    obtain ⟨first, rfl⟩ := Prod.mk.inj answered
    obtain rfl := Except.ok.inj first
    exact ⟨settings, recordable_paidOrder.mp recordable⟩
  · rintro ⟨⟨rule, confirms⟩, recordable⟩
    obtain ⟨o', t, final⟩ := finalOrder_succeeds env completed found
      (recordable_paidOrder.mpr recordable)
    refine ⟨_, _, ⟨_, _, orderAfterPayment_on found rule, o', t, final, rfl, rfl⟩, ?_⟩
    show o'.status = _
    rw [(finalOrder_ok completed found final).1, paidOrder_status due.status, rule, confirms]
    rfl

/-- A checkout whose payment is captured answers with the order in the promised status exactly
when both settings are on and, at the storefront, the order's growth can be recorded. -/
theorem paid_checkouts_answer_iff {db : Db} (keyed : Keyed db) :
    (∀ {env : Kiosk.KioskEnv} {dto : Kiosk.KioskCheckoutDto} {m n : Db} {device : Device}
      {placed : Placed} {processed : LoadedPaymentIntent},
      Call.exec (Kiosk.place env dto) db = (.ok (device, placed), m) →
      Call.exec (pay env.paying placed) m = (.ok processed, n) →
      processed.intent.status = .completed →
      (AnswersAsPromised Kiosk.KioskCheckoutResponse.order (Kiosk.checkout env dto) db
          (promisedStatus placed.autoConfirmPaidOrders
            (providerAutoConfirms env.paying placed m)) ↔
        placed.autoConfirmPaidOrders = true ∧ providerAutoConfirms env.paying placed m = true)) ∧
    (∀ {env : Storefront.StorefrontEnv} {cartId : Id} {dto : Storefront.StorefrontCheckoutDto}
      {m n : Db} {a : Storefront.AdmittedCheckout} {placed : Placed}
      {processed : LoadedPaymentIntent},
      Call.exec (Storefront.place env cartId dto) db = (.ok (a, placed), m) →
      Call.exec (pay env.paying placed) m = (.ok processed, n) →
      processed.intent.status = .completed →
      (AnswersAsPromised Storefront.StorefrontCheckoutResponse.order
          (Storefront.checkout env cartId dto) db
          (promisedStatus placed.autoConfirmPaidOrders
            (providerAutoConfirms env.paying placed m)) ↔
        (placed.autoConfirmPaidOrders = true ∧ providerAutoConfirms env.paying placed m = true) ∧
          (Text.isFilled placed.order.customerPhone → Customers.Recordable placed.order n))) :=
  ⟨kiosk_answers_iff keyed, storefront_answers_iff keyed⟩

def kioskCart : Cart :=
  { id := 80, tenantId := 1, storeId := 2, customerProfileId := none, channel := .kiosk,
    status := .open, customerName := none, customerPhone := none, note := none,
    subtotal := 1000, modifierTotal := 0, fulfillmentFee := 0, discountTotal := 0,
    total := 1000, promotionCode := none, promotionSnapshot := none, fulfillmentMode := none,
    fulfillmentStatus := none, fulfillmentPayload := none, promisedAt := none, etaAt := none,
    deviceId := some 70, createdByUserId := none,
    items := [⟨⟨81, 10, none, 1, some 1000, 0, 1000, .null, []⟩, none⟩] }

def storefrontCart : Cart :=
  { kioskCart with
    id := 90
    channel := .delivery
    customerPhone := some "8 913 555"
    fulfillmentMode := some "PICKUP"
    deviceId := none
    items := [⟨⟨91, 10, none, 1, some 1000, 0, 1000, .null, []⟩, none⟩] }

def corner : Db :=
  { shop with
    setup :=
      { shop.setup with
        stores := [{ id := 2, tenantId := 1, status := .active }]
        devices := [⟨70, 1, 2, "K1", .kiosk, .active⟩]
        paymentProviderConfigs :=
          [{ id := 24, tenantId := 1, storeId := none, providerKey := "online",
             providerType := .cardSimulated, method := .card, enabled := true, priority := 1,
             allowedChannels := [.delivery], autoConfirmOrderOnSuccess := true,
             settings := none, createdAt := 0 }] }
    carts := [storefrontCart] }

theorem corner_keyed : Keyed corner := by
  have init : Initial corner := ⟨rfl, rfl, nofun, rfl⟩
  exact keyed_run init []

def envAt (now : Instant) : Env := Env.shipped now "r" "A-1" fun _ => .ok []

def kioskWith (rules : List (String × Json)) : Kiosk.KioskEnv where
  verifyAsync _ := some ⟨70, 1, 2, "K1", .kiosk, "kiosk_public"⟩
  resolveEffectiveCustomization _ _ _ _ := .ok [("kiosk.rules", .obj rules)]
  fillCart _ _ _ db := ⟨.ok 80, db.carts ++ [kioskCart], 0⟩
  ordering := envAt 1
  paying := envAt 2
  confirming := envAt 3

def kioskOrder : Kiosk.KioskCheckoutDto where
  deviceId := 70
  accessToken := some "token"
  customerName := none
  note := none
  paymentMethod := .card
  items := [⟨10, none, 1, none, []⟩]

def storefront : Storefront.StorefrontEnv where
  verifyCartToken _ := some ⟨90, 1, 2, none, none, .guest, "storefront_cart_public"⟩
  verifySessionToken _ := none
  signTrackingToken _ := "token"
  resolveEffectiveCustomization _ _ _ _ _ := .ok []
  ordering := envAt 1
  paying := envAt 2
  confirming := envAt 3
  growing := envAt 4

def storefrontOrder : Storefront.StorefrontCheckoutDto where
  accessToken := "token"
  customerSessionToken := none
  customerName := none
  customerPhone := some "8 913 555"
  note := none
  paymentMethod := .card

theorem paid_checkouts_answer_confirmed : AnswersAsPromised Kiosk.KioskCheckoutResponse.order
        (Kiosk.checkout (kioskWith []) kioskOrder) corner .confirmed ∧
      AnswersAsPromised Storefront.StorefrontCheckoutResponse.order
        (Storefront.checkout storefront 90 storefrontOrder) corner .confirmed := by
  constructor
  · have shown : Call.answersWith (Kiosk.place (kioskWith []) kioskOrder) corner (fun p m =>
        Call.answersWith (pay (envAt 2) p.2) m fun processed _ =>
          processed.intent.status = .completed ∧ p.2.autoConfirmPaidOrders = true ∧
            providerAutoConfirms (envAt 2) p.2 m = true) = true := by
      decide +kernel
    simp only [Call.answersWith_iff, decide_eq_true_eq] at shown
    obtain ⟨⟨device, placed⟩, m, placing, processed, n, paid, completed, rule, confirms⟩ := shown
    have answers := ((paid_checkouts_answer_iff corner_keyed).1 placing paid completed).mpr
      ⟨rule, confirms⟩
    rw [rule] at answers
    exact answers
  · have shown : Call.answersWith (Storefront.place storefront 90 storefrontOrder) corner (fun p m =>
        Call.answersWith (pay (envAt 2) p.2) m fun processed n =>
          processed.intent.status = .completed ∧ p.2.autoConfirmPaidOrders = true ∧
            providerAutoConfirms (envAt 2) p.2 m = true ∧
            Customers.Recordable p.2.order n) = true := by
      decide +kernel
    simp only [Call.answersWith_iff, decide_eq_true_eq] at shown
    obtain ⟨⟨a, placed⟩, m, placing, processed, n, paid, completed, rule, confirms, recordable⟩ :=
      shown
    have answers := ((paid_checkouts_answer_iff corner_keyed).2 placing paid completed).mpr
      ⟨⟨rule, confirms⟩, fun _ => recordable⟩
    rw [rule] at answers
    exact answers

/-- With the kiosk's rule off, the order that the provider has confirmed cannot be confirmed
again: the checkout fails after the payment. -/
theorem unruledKiosk_refuses : Keyed corner ∧ ∃ p m processed n,
      Call.exec (Kiosk.place (kioskWith [("autoConfirmPaidOrders", .bool false)]) kioskOrder) corner =
        (.ok p, m) ∧
      Call.exec (pay (envAt 2) p.2) m = (.ok processed, n) ∧
      processed.intent.status = .completed ∧
      ¬∃ answer db', Call.exec
        (Kiosk.checkout (kioskWith [("autoConfirmPaidOrders", .bool false)]) kioskOrder) corner =
          (.ok answer, db') := by
  have shown : Call.answersWith
      (Kiosk.place (kioskWith [("autoConfirmPaidOrders", .bool false)]) kioskOrder) corner (fun p m =>
        Call.answersWith (pay (envAt 2) p.2) m fun processed _ =>
          processed.intent.status = .completed) = true := by
    decide +kernel
  have refused : Call.answersWith
      (Kiosk.checkout (kioskWith [("autoConfirmPaidOrders", .bool false)]) kioskOrder) corner
        (fun _ _ => true) = false := by
    decide +kernel
  simp only [Call.answersWith_iff, decide_eq_true_eq] at shown
  obtain ⟨p, m, placing, processed, n, paid, completed⟩ := shown
  refine ⟨corner_keyed, p, m, processed, n, placing, paid, completed, ?_⟩
  rintro ⟨answer, db', answered⟩
  rw [← Bool.not_eq_true, Call.answersWith_iff] at refused
  exact refused ⟨answer, db', answered, rfl⟩

end Exetron.Checkout
