import Exetron.Kitchen.Steps
import Exetron.Lib.Trace
import Exetron.Orders.Steps
import Exetron.Payments.Steps

/-!
# The system

The database under the calls of the services, one request after another. A request brings its
own environment: adapters, clock and order number may answer differently every time.
-/

namespace Exetron

open Lib Payments Call

variable {env : Env} {providerKey : String} {dto : ReceivePaymentWebhookDto}

inductive ApiCall where
  | createIntent (dto : CreatePaymentIntentDto)
  | processAllocation (intentId allocationId : Id) (providerKey : Option String)
  | cancelIntent (intentId : Id)
  | createOperation (dto : CreatePaymentOperationDto)
  | receiveWebhook (providerKey : String) (dto : ReceivePaymentWebhookDto)
  | checkout (cartId : Id) (dto : Orders.CheckoutCartDto)
  | transitionOrder (orderId : Id) (dto : Orders.TransitionOrderDto)
  | transitionTicket (ticketId : Id) (dto : Kitchen.TransitionKitchenTicketDto)
  /-- What other services do to carts and to the rows these services only read. -/
  | elsewhere (setup : Setup) (carts : List Cart)

structure Request where
  env : Env
  context : RequestContext
  call : ApiCall

/-- The database after a request, whatever its answer. -/
def step (db : Db) (r : Request) : Db :=
  match r.call with
  | .createIntent dto => (Call.exec (createIntent r.context dto) db).2
  | .processAllocation intentId allocationId providerKey =>
    (Call.exec (processAllocation r.env r.context intentId allocationId providerKey) db).2
  | .cancelIntent intentId => (Call.exec (cancelIntent r.context intentId) db).2
  | .createOperation dto => (Call.exec (createOperation r.env r.context dto) db).2
  | .receiveWebhook providerKey dto => (Call.exec (receiveWebhook r.env providerKey dto) db).2
  | .checkout cartId dto => (Call.exec (Orders.checkout r.env r.context cartId dto) db).2
  | .transitionOrder orderId dto =>
    (Call.exec (Orders.transitionOrder r.env r.context orderId dto) db).2
  | .transitionTicket ticketId dto =>
    (Call.exec (Kitchen.transitionTicket r.env r.context ticketId dto) db).2
  | .elsewhere setup carts => { db with setup, carts }

abbrev run : Db → List Request → Db := Trace.run step

/-- A database before the first checkout: no orders, and nothing that belongs to one. -/
structure Initial (db : Db) : Prop where
  orders : db.orders = []
  tickets : db.kitchenTickets = []
  reservations : ∀ r ∈ db.stock.reservations, r.sourceType ≠ "order"
  payments : db.payments = ⟨[], [], [], [], []⟩

/-- A transaction of the orders or the kitchen service leaves the payments alone. -/
structure PaymentsKept (db db' : Db) : Prop where
  payments : db'.payments = db.payments
  grows : db.nextId ≤ db'.nextId

theorem paymentsKept_refl (db : Db) : PaymentsKept db db := ⟨rfl, le_refl _⟩

theorem transitionOrder_paymentsKept (env : Env) (context : RequestContext) (orderId : Id)
    (dto : Orders.TransitionOrderDto) (db : Db) :
    PaymentsKept db (Call.exec (Orders.transitionOrder env context orderId dto) db).2 := by
  refine transact_related (paymentsKept_refl db) fun _ _ h => ?_
  obtain ⟨_, _, _, _, moved⟩ := Orders.transitionOrderTx_ok h
  exact ⟨by rw [moved.rest], moved.grows⟩

theorem checkout_paymentsKept (env : Env) (context : RequestContext) (cartId : Id)
    (dto : Orders.CheckoutCartDto) (db : Db) :
    PaymentsKept db (Call.exec (Orders.checkout env context cartId dto) db).2 := by
  refine transact_related (paymentsKept_refl db) fun _ _ h => ?_
  obtain ⟨_, _, _, _, done⟩ := Orders.checkoutTx_ok h
  exact ⟨by rw [done.rest], le_of_lt done.grows⟩

theorem transitionTicket_paymentsKept (env : Env) (context : RequestContext) (ticketId : Id)
    (dto : Kitchen.TransitionKitchenTicketDto) (db : Db) :
    PaymentsKept db (Call.exec (Kitchen.transitionTicket env context ticketId dto) db).2 := by
  refine transact_related (paymentsKept_refl db) fun _ _ h => ?_
  obtain ⟨_, _, _, _, _, rfl⟩ := Kitchen.transitionTicketTx_ok h
  exact ⟨rfl, le_refl _⟩

theorem getIntent_state (context : RequestContext) (intentId : Id) (db : Db) :
    (Call.exec (getIntent context intentId) db).2 = db := by
  refine transact_related (R := fun s t => t = s) rfl fun _ _ h => ?_
  exact (Tx.read_ok_iff.mp h).2.symm

def movementOfDelivery (webhook : PaymentWebhookResolution) : Delivery → Movement
  | .attempt _ attempt => .attemptDelivery attempt webhook.outcome
  | .operation operation => .operationDelivery operation webhook.outcome

/-- What a request means for the payment ledger in the state it finds. -/
def movement (db : Db) (r : Request) : Movement :=
  match r.call with
  | .createIntent dto =>
    match admitIntent r.context dto db with
    | .ok a => .opening (newIntent r.context dto a db.nextId)
        (List.zipWith (newAllocation a.tenantId db.nextId)
          (List.range' (db.nextId + 1) a.allocations.length) a.allocations)
    | .error _ => .nothing
  | .processAllocation intentId allocationId providerKey =>
    match admitAllocation r.env r.context intentId allocationId providerKey db with
    | .ok a => .answer a.loaded.intent a.allocation a.execution.status
    | .error _ => .nothing
  | .cancelIntent intentId =>
    match admitCancel r.context intentId db with
    | .ok loaded => .cancellation loaded.intent
    | .error _ => .nothing
  | .createOperation dto =>
    match admitOperation r.env r.context dto db with
    | .ok a => .operation a.allocation dto.amount a.execution.status
    | .error _ => .nothing
  | .receiveWebhook providerKey dto =>
    match acceptDelivery r.env providerKey dto db with
    | some (webhook, delivery) => movementOfDelivery webhook delivery
    | none => .nothing
  | _ => .nothing

/-- A request moves the ledger as its movement says; the keys handed out later are not its own. -/
def Moves (m : Movement) (db db' : Db) : Prop :=
  ∃ n, Effect db.payments db.nextId m db'.payments n ∧ n ≤ db'.nextId

theorem moves_of_kept {m : Movement} {db db' : Db} (kept : PaymentsKept db db') : Moves m db db' := by
  refine ⟨db.nextId, ?_, kept.grows⟩
  rw [kept.payments]
  exact Effect.record m db.payments.webhookEvents db.nextId (le_refl _)

theorem moves_of_moves_of_kept {m : Movement} {a b c : Db} (h : Moves m a b)
    (kept : PaymentsKept b c) : Moves m a c := by
  obtain ⟨n, effect, bound⟩ := h
  refine ⟨n, ?_, le_trans bound kept.grows⟩
  rw [kept.payments]
  exact effect

theorem processAllocation_of_error {context : RequestContext} {intentId allocationId : Id}
    {providerKey : Option String} {db : Db} {e : ApiException}
    (h : processAllocationTx env context intentId allocationId providerKey db = .error e) :
    (Call.exec (processAllocation env context intentId allocationId providerKey) db).2 = db := by
  rw [processAllocation, exec_bind, transact_error h]

theorem processAllocation_of_ok {context : RequestContext} {intentId allocationId : Id}
    {providerKey : Option String} {db m : Db} {result : LoadedPaymentIntent × LegacyProviderConfig}
    (h : processAllocationTx env context intentId allocationId providerKey db = .ok (result, m)) :
    (Call.exec (processAllocation env context intentId allocationId providerKey) db).2 = m ∨
      ∃ orderId, (Call.exec (processAllocation env context intentId allocationId providerKey)
        db).2 = (Call.exec (Orders.transitionOrder env context orderId
          { toStatus := .confirmed }) m).2 := by
  obtain ⟨loaded, config⟩ := result
  rw [processAllocation, exec_bind, transact_ok h]
  by_cases confirms : loaded.intent.status = .completed ∧ config.autoConfirmOrderOnSuccess ∧
      loaded.order.status = .placed
  · refine Or.inr ⟨loaded.intent.orderId, ?_⟩
    simp only [confirms, and_self, if_true, exec_bind]
    split
    · rw [getIntent_state]
      simp [*]
    · simp [*]
  · refine Or.inl ?_
    simp only [confirms, if_false]
    exact getIntent_state _ _ _

theorem delivered_effect {webhook : PaymentWebhookResolution} {delivery : Delivery} {db : Db}
    (events : List PaymentWebhookEvent)
    (addressed : addressee providerKey webhook db = .ok delivery) :
    Effect db.payments db.nextId (movementOfDelivery webhook delivery)
      (setEvents events (delivered env providerKey webhook db.payments delivery))
      (db.nextId + 1) := by
  have stored := addressee_stored addressed
  cases delivery with
  | attempt externalReference attempt => exact Effect.attemptDelivery events stored.1 rfl rfl
  | operation operation => exact Effect.operationDelivery events stored rfl

theorem receiveWebhookTx_moves (context : RequestContext) {db db' : Db}
    {result : PaymentWebhookEvent × Option Id} (consistent : Consistent db.payments db.nextId)
    (h : receiveWebhookTx env providerKey dto db = .ok (result, db')) :
    Moves (movement db ⟨env, context, .receiveWebhook providerKey dto⟩) db db' := by
  obtain ⟨n, events, logs, grows, after⟩ := receiveWebhookTx_ok consistent h
  simp only [movement]
  cases accepted : acceptDelivery env providerKey dto db with
  | none =>
    rw [accepted] at after
    subst after
    exact ⟨n, Effect.record _ events n grows, le_refl _⟩
  | some meaning =>
    obtain ⟨webhook, delivery⟩ := meaning
    rw [accepted] at after
    subst after
    exact ⟨db.nextId + 1, delivered_effect events (acceptDelivery_ok accepted), le_refl _⟩

theorem receiveWebhook_of_error {db : Db} {e : ApiException}
    (h : receiveWebhookTx env providerKey dto db = .error e) :
    (Call.exec (receiveWebhook env providerKey dto) db).2 = db := by
  rw [receiveWebhook, exec_bind, transact_error h]

theorem receiveWebhook_state {db m : Db} {event : PaymentWebhookEvent}
    {autoConfirmOrderId : Option Id}
    (h : receiveWebhookTx env providerKey dto db = .ok ((event, autoConfirmOrderId), m)) :
    (Call.exec (receiveWebhook env providerKey dto) db).2 = match autoConfirmOrderId with
      | none => m
      | some orderId => (Call.exec (Orders.transitionOrder env (buildWebhookContext dto) orderId
          { toStatus := .confirmed }) m).2 := by
  rw [receiveWebhook, exec_bind, transact_ok h]
  cases autoConfirmOrderId with
  | none => rfl
  | some orderId =>
    simp only [exec_bind]
    split
    · simp [*, exec_pure]
    · simp [*]

theorem receiveWebhook_of_ok {db m : Db} {result : PaymentWebhookEvent × Option Id}
    (h : receiveWebhookTx env providerKey dto db = .ok (result, m)) :
    (Call.exec (receiveWebhook env providerKey dto) db).2 = m ∨
      ∃ orderId, (Call.exec (receiveWebhook env providerKey dto) db).2 =
        (Call.exec (Orders.transitionOrder env (buildWebhookContext dto) orderId
          { toStatus := .confirmed }) m).2 := by
  obtain ⟨event, autoConfirmOrderId⟩ := result
  rw [receiveWebhook_state h]
  cases autoConfirmOrderId with
  | none => exact Or.inl rfl
  | some orderId => exact Or.inr ⟨orderId, rfl⟩

/-- Every request does to the payments what its movement says. -/
theorem step_moves {db : Db} (consistent : Consistent db.payments db.nextId) (r : Request) :
    Moves (movement db r) db (step db r) := by
  obtain ⟨env, context, call⟩ := r
  cases call with
  | createIntent dto =>
    refine transact_related (moves_of_kept (paymentsKept_refl db)) fun created db' h => ?_
    obtain ⟨a, logs, admitted, intent, allocations, after⟩ := createIntentTx_ok h
    have effect := createIntentTx_effect h
    rw [intent, allocations] at effect
    simp only [movement, admitted]
    exact ⟨db'.nextId, effect, le_refl _⟩
  | processAllocation intentId allocationId providerKey =>
    cases h : processAllocationTx env context intentId allocationId providerKey db with
    | error e =>
      simp only [step, processAllocation_of_error h]
      exact moves_of_kept (paymentsKept_refl db)
    | ok answer =>
      obtain ⟨a, logs, admitted, after, _⟩ := processAllocationTx_ok consistent h
      have moved : Moves (movement db ⟨env, context,
          .processAllocation intentId allocationId providerKey⟩) db answer.2 := by
        simp only [movement, admitted, after]
        exact ⟨db.nextId + 1, admitted_answer_effect admitted, le_refl _⟩
      rcases processAllocation_of_ok h with after | ⟨orderId, after⟩
      · simp only [step, after]
        exact moved
      · simp only [step, after]
        exact moves_of_moves_of_kept moved (transitionOrder_paymentsKept env context orderId _ _)
  | cancelIntent intentId =>
    refine transact_related (moves_of_kept (paymentsKept_refl db)) fun _ db' h => ?_
    obtain ⟨loaded, logs, admitted, rfl⟩ := cancelIntentTx_ok h
    simp only [movement, admitted]
    exact ⟨db.nextId, admitted_cancel_effect admitted, le_refl _⟩
  | createOperation dto =>
    refine transact_related (moves_of_kept (paymentsKept_refl db)) fun _ db' h => ?_
    obtain ⟨a, logs, admitted, rfl, rfl⟩ := createOperationTx_ok consistent h
    simp only [movement, admitted]
    exact ⟨db.nextId + 1, admitted_operation_effect admitted, le_refl _⟩
  | receiveWebhook providerKey dto =>
    cases h : receiveWebhookTx env providerKey dto db with
    | error e =>
      simp only [step, receiveWebhook_of_error h]
      exact moves_of_kept (paymentsKept_refl db)
    | ok answer =>
      have moved := receiveWebhookTx_moves context consistent h
      rcases receiveWebhook_of_ok h with after | ⟨orderId, after⟩
      · simp only [step, after]
        exact moved
      · simp only [step, after]
        exact moves_of_moves_of_kept moved (transitionOrder_paymentsKept env _ orderId _ _)
  | checkout cartId dto => exact moves_of_kept (checkout_paymentsKept env context cartId dto db)
  | transitionOrder orderId dto =>
    exact moves_of_kept (transitionOrder_paymentsKept env context orderId dto db)
  | transitionTicket ticketId dto =>
    exact moves_of_kept (transitionTicket_paymentsKept env context ticketId dto db)
  | elsewhere setup carts => exact moves_of_kept ⟨rfl, le_refl _⟩

theorem step_consistent {db : Db} (consistent : Consistent db.payments db.nextId) (r : Request) :
    Consistent (step db r).payments (step db r).nextId := by
  obtain ⟨n, effect, bound⟩ := step_moves consistent r
  exact (effect_consistent effect consistent).mono bound

theorem initial_consistent {db : Db} (init : Initial db) : Consistent db.payments db.nextId := by
  unfold Consistent
  rw [init.payments]
  constructor <;> simp [keysOf]

/-- Every request of the run meets `C` on the ledger it finds. -/
abbrev AlongLedger (C : PaymentTables → Movement → Prop) : Db → List Request → Prop :=
  Trace.Along step fun db r => C db.payments (movement db r)

section
variable {C : PaymentTables → Movement → Prop} {P : PaymentTables → Prop}
  {R : PaymentTables → PaymentTables → Prop} {db : Db} {rs : List Request}

theorem consistent_run (init : Initial db) (rs : List Request) :
    Consistent (run db rs).payments (run db rs).nextId := by
  have keeps : ∀ (db : Db) (r : Request), Consistent db.payments db.nextId →
      Consistent (step db r).payments (step db r).nextId :=
    fun _ r consistent => step_consistent consistent r
  exact Trace.run_always keeps (initial_consistent init) rs

theorem ledger_invariant
    (keeps : ∀ p n m p' n', Effect p n m p' n' → Consistent p n → C p m → P p → P p')
    (consistent : Consistent db.payments db.nextId) (start : P db.payments)
    (along : AlongLedger C db rs) : P (run db rs).payments := by
  have step_keeps : ∀ (db : Db) (r : Request), Consistent db.payments db.nextId ∧ P db.payments →
      C db.payments (movement db r) →
        Consistent (step db r).payments (step db r).nextId ∧ P (step db r).payments := by
    intro db r inv meets
    obtain ⟨n, effect, _⟩ := step_moves inv.1 r
    exact ⟨step_consistent inv.1 r, keeps _ _ _ _ _ effect inv.1 meets inv.2⟩
  exact (Trace.run_invariant step_keeps ⟨consistent, start⟩ along).2

theorem ledger_related (refl : ∀ p, R p p) (trans : ∀ p q r, R p q → R q r → R p r)
    (keeps : ∀ p n m p' n', Effect p n m p' n' → Consistent p n → P p → P p')
    (moves : ∀ p n m p' n', Effect p n m p' n' → Consistent p n → P p → C p m → R p p')
    (consistent : Consistent db.payments db.nextId) (start : P db.payments)
    (along : AlongLedger C db rs) : R db.payments (run db rs).payments := by
  have step_keeps : ∀ (db : Db) (r : Request), Consistent db.payments db.nextId ∧ P db.payments →
      Consistent (step db r).payments (step db r).nextId ∧ P (step db r).payments := by
    intro db r inv
    obtain ⟨n, effect, _⟩ := step_moves inv.1 r
    exact ⟨step_consistent inv.1 r, keeps _ _ _ _ _ effect inv.1 inv.2⟩
  have step_related : ∀ (db : Db) (r : Request), Consistent db.payments db.nextId ∧ P db.payments →
      C db.payments (movement db r) → R db.payments (step db r).payments := by
    intro db r inv meets
    obtain ⟨n, effect, _⟩ := step_moves inv.1 r
    exact moves _ _ _ _ _ effect inv.1 inv.2 meets
  exact Trace.run_related (R := fun db db' => R db.payments db'.payments)
    (fun db => refl db.payments) (fun _ _ _ => trans _ _ _) step_keeps step_related
    ⟨consistent, start⟩ along

end

/-- One store with a till, a card terminal that answers by webhook, a card reader that declines,
and a customer's cart. -/
def shop : Db where
  nextId := 100
  setup :=
    { stores := []
      devices := []
      posShifts := []
      posSessions := []
      products :=
        [{ id := 10, tenantId := 1, code := "espresso", name := "Espresso", description := none,
           categoryCode := none, basePrice := some 1000, modifierGroupLinks := [] }]
      storeSettings := []
      tenantSettings := []
      paymentProviderConfigs :=
        [{ id := 20, tenantId := 1, storeId := none, providerKey := "till",
           providerType := .cashManual, method := .cash, enabled := true, priority := 1,
           allowedChannels := [.pos], autoConfirmOrderOnSuccess := false, settings := none,
           createdAt := 0 },
         { id := 21, tenantId := 1, storeId := none, providerKey := "terminal",
           providerType := .cardSimulated, method := .card, enabled := true, priority := 1,
           allowedChannels := [.pos], autoConfirmOrderOnSuccess := false,
           settings := some [("adapterMode", .str "webhook")], createdAt := 0 },
         { id := 22, tenantId := 1, storeId := none, providerKey := "reader",
           providerType := .cardSimulated, method := .card, enabled := true, priority := 2,
           allowedChannels := [.pos], autoConfirmOrderOnSuccess := false,
           settings := some [("simulateResult", .str "failed")], createdAt := 0 }]
      warehouses := [⟨30, 1, some 2, true⟩]
      recipeBoms := [⟨1, 10, none, 40, 10000⟩]
      stopListRules := [] }
  carts :=
    [{ id := 50, tenantId := 1, storeId := 2, customerProfileId := none, channel := .pos,
       status := .open, customerName := none, customerPhone := none, note := none,
       subtotal := 1000, modifierTotal := 0, fulfillmentFee := 0, discountTotal := 0,
       total := 1000, promotionCode := none, promotionSnapshot := none, fulfillmentMode := none,
       fulfillmentStatus := none, fulfillmentPayload := none, promisedAt := none, etaAt := none,
       deviceId := none, createdByUserId := none,
       items := [⟨⟨51, 10, none, 1, some 1000, 0, 1000, .null, []⟩, none⟩] }]
  orders := []
  kitchenTickets := []
  stock := ⟨[⟨60, 1, 30, 40, 500000, 0, 0⟩], [], []⟩
  payments := ⟨[], [], [], [], []⟩
  customers := ⟨[], [], [], []⟩
  logs := ⟨[], [], [], []⟩

def cashierAt (now : Instant) (call : ApiCall) : Request where
  env := Env.shipped now "r" "A-1" fun _ => .ok []
  context := ⟨"cashier", some 1, .tenantMember, [2], none⟩
  call := call

def terminalReports (made : Instant) (deliveryId outcome : String) : ApiCall :=
  .receiveWebhook "terminal"
    { deliveryId
      eventType := "payment"
      payload :=
        [("externalReference", .str (buildExternalReference made "r" "terminal")),
         ("outcome", .str outcome)] }

theorem shop_initial : Initial shop := by
  refine ⟨rfl, rfl, ?_, rfl⟩
  intro r listed
  cases listed

end Exetron
