import Exetron.Payments.Deliveries
import Exetron.Payments.Tenancy

/-!
# Isolation of deliveries

A delivery accepted under the configuration of a tenant touches the rows of that tenant alone
when the row it is looked up for is the tenant's.
-/

namespace Exetron.Payments

open Lib List

variable {U orderId : Id} {env : Env} {providerKey : String} {webhook : PaymentWebhookResolution}
  {dto : ReceivePaymentWebhookDto}

/-- What a tenant has in the tables a delivery writes to. -/
structure TenantRows where
  attempts : List PaymentAttempt
  allocations : List PaymentAllocation
  intents : List PaymentIntent
  operations : List PaymentOperation
  orders : List Order

def rowsOf (db : Db) (tenantId : Id) : TenantRows where
  attempts := db.payments.attempts.filter fun t => t.tenantId = tenantId
  allocations := db.payments.allocations.filter fun a => a.tenantId = tenantId
  intents := db.payments.intents.filter fun i => i.tenantId = tenantId
  operations := db.payments.operations.filter fun o => o.tenantId = tenantId
  orders := db.orders.filter fun o => o.tenantId = tenantId

def Delivery.tenantId : Delivery → Id
  | .attempt _ row => row.tenantId
  | .operation row => row.tenantId

def Delivery.StampedAt (now : Instant) : Delivery → Prop
  | .attempt _ row => row.finishedAt = some now
  | .operation row => row.processedAt = some now

section
variable {db : Db} (tenanted : Tenanted db) (consistent : Consistent db.payments db.nextId)
include tenanted

theorem Tenanted.order_of_intent {i : PaymentIntent} (hi : i ∈ db.payments.intents)
    (sound : Sound db) {o : Order} (ho : o ∈ db.orders) (same : o.id = i.orderId) :
    o.tenantId = i.tenantId := by
  obtain ⟨o', stored, key⟩ := mem_map.mp (tenanted.intents _ (mem_map_of_mem hi))
  obtain ⟨id, tenant⟩ := Prod.mk.inj key
  rw [sound.order_eq ho stored (same.trans id.symm)]
  exact tenant

theorem Tenanted.order_of_operation {o : PaymentOperation} (ho : o ∈ db.payments.operations)
    (sound : Sound db) {order : Order} (hr : order ∈ db.orders) (same : order.id = o.orderId) :
    order.tenantId = o.tenantId := by
  obtain ⟨order', stored, key⟩ := mem_map.mp (tenanted.operations _ (mem_map_of_mem ho))
  obtain ⟨id, tenant⟩ := Prod.mk.inj key
  rw [sound.order_eq hr stored (same.trans id.symm)]
  exact tenant

include consistent

theorem Tenanted.intent_of_attempt {t : PaymentAttempt} (ht : t ∈ db.payments.attempts)
    {i : PaymentIntent} (hi : i ∈ db.payments.intents) (same : i.id = t.paymentIntentId) :
    i.tenantId = t.tenantId := by
  obtain ⟨_, listed, key⟩ := tenanted.attempts _ (mem_map_of_mem ht)
  obtain ⟨i', stored, rfl⟩ := mem_map.mp listed
  obtain ⟨id, tenant⟩ := Prod.mk.inj key
  rw [consistent.intent_eq hi stored (same.trans id.symm)]
  exact tenant

theorem Tenanted.allocation_of_attempt {t : PaymentAttempt} (ht : t ∈ db.payments.attempts)
    {a : PaymentAllocation} (ha : a ∈ db.payments.allocations)
    (same : a.id = t.paymentAllocationId) : a.tenantId = t.tenantId := by
  obtain ⟨_, listed, key⟩ := tenanted.allocations _ (mem_map_of_mem ha)
  obtain ⟨i, stored, rfl⟩ := mem_map.mp listed
  obtain ⟨id, tenant⟩ := Prod.mk.inj key
  have owner := consistent.owner_of_attempt ht a ha same
  rw [← show i.tenantId = a.tenantId from tenant]
  exact tenanted.intent_of_attempt consistent ht stored (Eq.trans id owner)

end

theorem filter_modify_tenant {α : Type} {key tenant : α → Id} {k : Id} {f : α → α} {rows : List α}
    (keeps : ∀ r, tenant (f r) = tenant r) (foreign : ∀ r ∈ rows, key r = k → tenant r ≠ U) :
    (Rows.modify key k f rows).filter (fun r => tenant r = U) = rows.filter fun r => tenant r = U := by
  refine Rows.filter_modify_other fun r member same => ?_
  have other := foreign r member same
  exact ⟨decide_eq_false other, decide_eq_false fun mine => other ((keeps r).symm.trans mine)⟩

theorem rowsOf_delivered {db : Db} (tenanted : Tenanted db)
    (consistent : Consistent db.payments db.nextId) (sound : Sound db) {delivery : Delivery}
    {n : Id} {events : List PaymentWebhookEvent} {logs : Logs}
    (addressed : addressee providerKey webhook db = .ok delivery)
    (foreign : delivery.tenantId ≠ U) : rowsOf { db with
      nextId := n
      payments := setEvents events (delivered env providerKey webhook db.payments delivery)
      orders := flagged webhook db.orders delivery
      logs := logs } U = rowsOf db U := by
  have stored := addressee_stored addressed
  cases delivery with
  | attempt externalReference attempt =>
    obtain ⟨stored, _⟩ := stored
    have attempts : (Rows.modify PaymentAttempt.id attempt.id (settleAttempt webhook env.now)
        db.payments.attempts).filter (fun t => t.tenantId = U) =
        db.payments.attempts.filter fun t => t.tenantId = U := by
      refine filter_modify_tenant (fun _ => rfl) fun t member same => ?_
      rw [consistent.attempt_eq member stored same]
      exact foreign
    have allocations : (Rows.modify PaymentAllocation.id attempt.paymentAllocationId
        (settleAllocation providerKey externalReference webhook env.now)
        db.payments.allocations).filter (fun a => a.tenantId = U) =
        db.payments.allocations.filter fun a => a.tenantId = U := by
      refine filter_modify_tenant (fun _ => rfl) fun a member same => ?_
      rw [tenanted.allocation_of_attempt consistent stored member same]
      exact foreign
    have intents : ∀ p : PaymentTables, (Rows.modify PaymentIntent.id attempt.paymentIntentId
        (refreshed p) db.payments.intents).filter (fun i => i.tenantId = U) =
        db.payments.intents.filter fun i => i.tenantId = U := by
      intro p
      refine filter_modify_tenant (fun _ => rfl) fun i member same => ?_
      rw [tenanted.intent_of_attempt consistent stored member same]
      exact foreign
    simp only [rowsOf, setEvents, delivered, refresh, patchAllocation, patchAttempt, settlePatch,
      attemptPatch, flagged, attempts, allocations, intents]
  | operation operation =>
    have operations : (Rows.modify PaymentOperation.id operation.id
        (settleOperation webhook env.now) db.payments.operations).filter
          (fun o => o.tenantId = U) = db.payments.operations.filter fun o => o.tenantId = U := by
      refine filter_modify_tenant (fun _ => rfl) fun o member same => ?_
      rw [consistent.operation_eq member stored same]
      exact foreign
    have orders : (flagOrder operation.orderId (flagAfterDelivery webhook.outcome)
        db.orders).filter (fun o => o.tenantId = U) = db.orders.filter fun o => o.tenantId = U := by
      refine filter_modify_tenant (fun _ => rfl) fun o member same => ?_
      rw [tenanted.order_of_operation stored sound member same]
      exact foreign
    simp only [rowsOf, setEvents, delivered, patchOperation, operationPatch, flagged, operations,
      orders]

theorem rowsOf_transitionOrder {m : Db} {context : RequestContext} {dto : Orders.TransitionOrderDto}
    (foreign : ∀ o ∈ m.orders, o.id = orderId → o.tenantId ≠ U) :
    rowsOf (Call.exec (Orders.transitionOrder env context orderId dto) m).2 U = rowsOf m U := by
  refine Call.transact_related (R := fun s t => rowsOf t U = rowsOf s U) rfl fun result m' h => ?_
  obtain ⟨current, logs, admitted, _, moved⟩ := Orders.transitionOrderTx_ok h
  obtain ⟨located, _⟩ := Orders.admitTransition_ok admitted
  obtain ⟨_, same⟩ := Table.findUnique_mem located
  have orders : (Rows.modify Order.id current.id (Orders.applyTransition env.now dto)
      m.orders).filter (fun o => o.tenantId = U) = m.orders.filter fun o => o.tenantId = U := by
    refine filter_modify_tenant (fun _ => rfl) fun o member mine => foreign o member ?_
    exact mine.trans same
  rw [moved.rest]
  simp only [rowsOf, orders]

theorem deliver_confirms {config : PaymentProviderConfig} {eventId n : Id} {db db' : Db}
    {event : PaymentWebhookEvent} (consistent : Consistent db.payments n)
    (h : deliver env providerKey config webhook eventId db = .ok ((event, some orderId), db')) :
    ∃ externalReference attempt,
      addressee providerKey webhook db = .ok (.attempt externalReference attempt) ∧
      ∃ i ∈ db.payments.intents, i.id = attempt.paymentIntentId ∧ i.orderId = orderId := by
  simp only [deliver, Tx.bind_ok_iff, Tx.read_ok_iff] at h
  obtain ⟨meaning, _, ⟨read, rfl⟩, h⟩ := h
  rw [Except.ok.inj read]
  rcases meaning with reason | ⟨externalReference, attempt⟩ | operation
  · simp only [Tx.bind_ok_iff, Tx.pure_ok_iff] at h
    obtain ⟨_, _, _, same, _⟩ := h
    cases same
  · simp only [Tx.bind_ok_iff, Tx.pure_ok_iff] at h
    obtain ⟨loaded, _, applied, _, _, _, same, _⟩ := h
    simp only [applyToAttempt, Tx.bind_ok_iff, Table.update_ok_iff] at applied
    obtain ⟨_, _, ⟨_, _, rfl, rfl⟩, _, _, ⟨_, _, rfl, rfl⟩, refreshes⟩ := applied
    have consistent' : Consistent (patchAllocation attempt.paymentAllocationId
        (settlePatch providerKey externalReference webhook env.now)
        (patchAttempt attempt.id (attemptPatch webhook env.now) db.payments)) n := by
      unfold Consistent
      rw [keysOf_patchAllocation, keysOf_patchAttempt]
      exact consistent
    obtain ⟨_, member, sameId, _⟩ := refreshIntent_ok consistent' refreshes
    obtain ⟨i, stored, made⟩ := mem_refresh.mp member
    refine ⟨externalReference, attempt, rfl, i, stored, ?_, ?_⟩
    · rw [← sameId, made]
      split <;> rfl
    · have order : loaded.intent.orderId = i.orderId := by
        rw [made]
        split <;> rfl
      have answered := (Prod.mk.inj same).2
      split at answered
      · rw [← order]
        exact Option.some.inj answered
      · cases answered
  · simp only [Tx.bind_ok_iff, Tx.pure_ok_iff] at h
    obtain ⟨_, _, _, _, _, _, same, _⟩ := h
    cases same

theorem receiveWebhookTx_confirms {db db' : Db} {event : PaymentWebhookEvent}
    (consistent : Consistent db.payments db.nextId)
    (h : receiveWebhookTx env providerKey dto db = .ok ((event, some orderId), db')) :
    ∃ webhook externalReference attempt,
      acceptDelivery env providerKey dto db = some (webhook, .attempt externalReference attempt) ∧
      ∃ i ∈ db.payments.intents, i.id = attempt.paymentIntentId ∧ i.orderId = orderId := by
  simp only [receiveWebhookTx, Tx.bind_ok_iff, Tx.read_ok_iff] at h
  obtain ⟨existing, _, ⟨found, rfl⟩, h⟩ := h
  replace found := Except.ok.inj found
  cases existing with
  | some event =>
    obtain ⟨same, _⟩ := Tx.pure_ok_iff.mp h
    cases same
  | none =>
    simp only [Tx.bind_ok_iff, Tx.read_ok_iff, freshId_ok_iff, Table.create_ok_iff] at h
    obtain ⟨⟨config, webhook⟩, _, ⟨meaning, rfl⟩, _, _, ⟨rfl, rfl⟩, _, _, ⟨rfl, rfl⟩, h⟩ := h
    simp only [acceptDelivery, found, meaning]
    by_cases signed : webhook.signatureValid
    · rw [if_pos signed] at h ⊢
      obtain ⟨externalReference, attempt, addressed, paid⟩ :=
        deliver_confirms (n := db.nextId) (by exact consistent) h
      refine ⟨webhook, externalReference, attempt, ?_, paid⟩
      have addressed' : addressee providerKey webhook db =
          .ok (.attempt externalReference attempt) := addressed
      rw [addressed']
      rfl
    · rw [if_neg signed] at h
      obtain ⟨same, _⟩ := Tx.pure_ok_iff.mp h
      cases same

theorem Tenanted.ordered {db : Db} (tenanted : Tenanted db) : Ordered db where
  intents i stored := by
    obtain ⟨o, listed, key⟩ := mem_map.mp (tenanted.intents _ (mem_map_of_mem stored))
    exact mem_map.mpr ⟨o, listed, (Prod.mk.inj key).1⟩
  operations o stored := by
    obtain ⟨order, listed, key⟩ :=
      mem_map.mp (tenanted.operations _ (mem_map_of_mem stored))
    exact mem_map.mpr ⟨order, listed, (Prod.mk.inj key).1⟩

def verifyingTenant (env : Env) (providerKey : String) (dto : ReceivePaymentWebhookDto) (db : Db) :
    Option Id :=
  match readDelivery env providerKey dto db with
  | .ok (config, webhook) => if webhook.signatureValid then some config.tenantId else none
  | .error _ => none

def AddressesOwn (env : Env) (providerKey : String) (dto : ReceivePaymentWebhookDto) (db : Db)
    (tenantId : Id) : Prop :=
  ∀ webhook delivery, acceptDelivery env providerKey dto db = some (webhook, delivery) →
    delivery.tenantId = tenantId

theorem rowsOf_receiveWebhook {db : Db} (tenanted : Tenanted db)
    (consistent : Consistent db.payments db.nextId) (sound : Sound db) {tenantId : Id}
    (own : AddressesOwn env providerKey dto db tenantId) (other : U ≠ tenantId) :
    rowsOf (Call.exec (receiveWebhook env providerKey dto) db).2 U = rowsOf db U := by
  cases h : receiveWebhookTx env providerKey dto db with
  | error e => rw [receiveWebhook_of_error h]
  | ok answer =>
    obtain ⟨⟨event, autoConfirmOrderId⟩, m⟩ := answer
    have committed : rowsOf m U = rowsOf db U := by
      obtain ⟨n, events, logs, grows, after⟩ := receiveWebhookTx_ok consistent h
      cases accepted : acceptDelivery env providerKey dto db with
      | none =>
        rw [accepted] at after
        subst after
        rfl
      | some meaning =>
        rw [accepted] at after
        subst after
        refine rowsOf_delivered tenanted consistent sound (acceptDelivery_ok accepted) ?_
        rw [own _ _ accepted]
        exact other.symm
    rw [receiveWebhook_state h]
    cases autoConfirmOrderId with
    | none => exact committed
    | some orderId =>
      refine (rowsOf_transitionOrder fun o stored same => ?_).trans committed
      obtain ⟨webhook, externalReference, attempt, accepted, i, listed, intent, order⟩ :=
        receiveWebhookTx_confirms consistent h
      obtain ⟨n, events, logs, grows, after⟩ := receiveWebhookTx_ok consistent h
      rw [accepted] at after
      subst after
      have tenant := tenanted.order_of_intent listed sound stored (same.trans order.symm)
      rw [tenant, tenanted.intent_of_attempt consistent
        (addressee_stored (acceptDelivery_ok accepted)).1 listed intent]
      rw [show attempt.tenantId = tenantId from own _ _ accepted]
      exact other.symm

theorem stamped_of_kept {db : Db} (tenanted : Tenanted db)
    (consistent : Consistent db.payments db.nextId) {delivery : Delivery}
    (accepted : acceptDelivery env providerKey dto db = some (webhook, delivery))
    (kept : rowsOf (Call.exec (receiveWebhook env providerKey dto) db).2 delivery.tenantId =
      rowsOf db delivery.tenantId) : delivery.StampedAt env.now := by
  obtain ⟨result, m, h⟩ := receiveWebhookTx_succeeds consistent tenanted.ordered accepted
  have payments : (Call.exec (receiveWebhook env providerKey dto) db).2.payments = m.payments := by
    rcases receiveWebhook_of_ok h with after | ⟨orderId, after⟩
    · rw [after]
    · rw [after]
      exact (transitionOrder_paymentsKept env _ orderId _ m).payments
  obtain ⟨n, events, logs, grows, after⟩ := receiveWebhookTx_ok consistent h
  rw [accepted] at after
  subst after
  have stored := addressee_stored (acceptDelivery_ok accepted)
  cases delivery with
  | attempt externalReference attempt =>
    have keeps : ∀ t : PaymentAttempt,
        decide ((settleAttempt webhook env.now t).tenantId = attempt.tenantId) =
          decide (t.tenantId = attempt.tenantId) := fun _ => rfl
    have same := congrArg TenantRows.attempts kept
    simp only [rowsOf, payments] at same
    have rewritten := (Rows.filter_modify keeps db.payments.attempts).symm.trans same
    have row := Rows.eq_of_modify_eq rewritten (mem_filter.mpr ⟨stored.1, decide_eq_true rfl⟩)
    exact (congrArg PaymentAttempt.finishedAt row).symm
  | operation operation =>
    have keeps : ∀ o : PaymentOperation,
        decide ((settleOperation webhook env.now o).tenantId = operation.tenantId) =
          decide (o.tenantId = operation.tenantId) := fun _ => rfl
    have same := congrArg TenantRows.operations kept
    simp only [rowsOf, payments] at same
    have rewritten := (Rows.filter_modify keeps db.payments.operations).symm.trans same
    have row := Rows.eq_of_modify_eq rewritten (mem_filter.mpr ⟨stored, decide_eq_true rfl⟩)
    exact (congrArg PaymentOperation.processedAt row).symm

/-- A delivery that verifies under a tenant's configuration leaves the rows of the other tenants
alone when it is for a row of that tenant, and otherwise only when that row was written at the
same instant. -/
theorem deliveries_isolated {db : Db} (init : Initial db) (rs : List Request) {env : Env}
    {providerKey : String} {dto : ReceivePaymentWebhookDto} (context : RequestContext) :
    ∀ tenantId ∈ verifyingTenant env providerKey dto (run db rs),
      (AddressesOwn env providerKey dto (run db rs) tenantId →
        ∀ U, U ≠ tenantId →
          rowsOf (run db (rs ++ [⟨env, context, .receiveWebhook providerKey dto⟩])) U =
            rowsOf (run db rs) U) ∧
      ((∀ U, U ≠ tenantId →
          rowsOf (run db (rs ++ [⟨env, context, .receiveWebhook providerKey dto⟩])) U =
            rowsOf (run db rs) U) →
        AddressesOwn env providerKey dto (run db rs) tenantId ∨
          ∃ webhook delivery,
            acceptDelivery env providerKey dto (run db rs) = some (webhook, delivery) ∧
              delivery.StampedAt env.now) := by
  intro tenantId _
  have consistent := consistent_run init rs
  have sound := sound_run init rs
  have tenanted := tenanted_run init rs
  have last : run db (rs ++ [⟨env, context, .receiveWebhook providerKey dto⟩]) =
      (Call.exec (receiveWebhook env providerKey dto) (run db rs)).2 := by
    rw [run, Trace.run_append]
    rfl
  rw [last]
  refine ⟨fun own U other => rowsOf_receiveWebhook tenanted consistent sound own other,
    fun kept => ?_⟩
  by_cases own : AddressesOwn env providerKey dto (run db rs) tenantId
  · exact Or.inl own
  · refine Or.inr ?_
    simp only [AddressesOwn, not_forall] at own
    obtain ⟨webhook, delivery, accepted, foreign⟩ := own
    exact ⟨webhook, delivery, accepted,
      stamped_of_kept tenanted consistent accepted (kept _ foreign)⟩

def mall : Db :=
  { shop with
    setup :=
      { shop.setup with
        paymentProviderConfigs := shop.setup.paymentProviderConfigs ++
          [{ id := 23, tenantId := 3, storeId := none, providerKey := "terminal",
             providerType := .cardSimulated, method := .card, enabled := true, priority := 1,
             allowedChannels := [.pos], autoConfirmOrderOnSuccess := false,
             settings := some [("webhookSecret", .str "secret of tenant 3")], createdAt := 0 }] } }

def reportAs (tenantId : Id) (signature : Option String) : ReceivePaymentWebhookDto where
  tenantId := some tenantId
  deliveryId := "delivery-1"
  eventType := "payment"
  signature := signature
  payload := [("externalReference", .str (buildExternalReference 3 "r" "terminal"))]

theorem mall_initial : Initial mall := ⟨rfl, rfl, shop_initial.reservations, rfl⟩

theorem deliveries_isolated_own :
    AddressesOwn (cashierAt 4 (.cancelIntent 0)).env "terminal" (reportAs 1 none)
        (run mall awaitingTerminal) 1 ∧
      ∀ U, U ≠ 1 →
        rowsOf (run mall (awaitingTerminal ++
            [cashierAt 4 (.receiveWebhook "terminal" (reportAs 1 none))])) U =
          rowsOf (run mall awaitingTerminal) U := by
  have own : AddressesOwn (cashierAt 4 (.cancelIntent 0)).env "terminal" (reportAs 1 none)
      (run mall awaitingTerminal) 1 := by
    have tenant : (acceptDelivery (cashierAt 4 (.cancelIntent 0)).env "terminal" (reportAs 1 none)
        (run mall awaitingTerminal)).all (fun meaning => meaning.2.tenantId = 1) = true := by
      decide +kernel
    intro webhook delivery accepted
    rw [accepted] at tenant
    exact of_decide_eq_true tenant
  have verified : 1 ∈ verifyingTenant (cashierAt 4 (.cancelIntent 0)).env "terminal"
      (reportAs 1 none) (run mall awaitingTerminal) := by
    decide +kernel
  exact ⟨own, (deliveries_isolated mall_initial awaitingTerminal
    (cashierAt 4 (.cancelIntent 0)).context 1 verified).1 own⟩

/-- With its own secret, one tenant completes the payment of another. -/
theorem reportAs_crosses_tenants : Initial mall ∧
      3 ∈ verifyingTenant (cashierAt 4 (.cancelIntent 0)).env "terminal"
        (reportAs 3 (some "secret of tenant 3")) (run mall awaitingTerminal) ∧
      ∃ U, U ≠ 3 ∧
        rowsOf (run mall (awaitingTerminal ++
            [cashierAt 4 (.receiveWebhook "terminal" (reportAs 3 (some "secret of tenant 3")))])) U ≠
          rowsOf (run mall awaitingTerminal) U := by
  refine ⟨mall_initial, by decide +kernel, 1, by decide, fun same => ?_⟩
  have statuses := congrArg (fun rows => rows.intents.map PaymentIntent.status) same
  exact absurd statuses (by decide +kernel)

end Exetron.Payments
