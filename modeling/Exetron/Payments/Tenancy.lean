import Exetron.Fulfilment

/-!
# Tenants and deliveries

Payment rows belong to the tenant of the order they are for. A delivery is accepted under the
provider configuration of one tenant, and its row is looked up by the provider's key and
reference alone.
-/

namespace Exetron.Payments

open Lib List

variable {context : RequestContext} {db db' : Db}

/-- The columns that tie payment rows to orders: each row's key, what it is for, its tenant. -/
structure Owners where
  /-- For an order. -/
  intents : List (Id × Id × Id)
  /-- For an intent. -/
  allocations : List (Id × Id × Id)
  /-- For an intent. -/
  attempts : List (Id × Id × Id)
  /-- For an order. -/
  operations : List (Id × Id × Id)

def intentOwner (i : PaymentIntent) : Id × Id × Id := (i.id, i.orderId, i.tenantId)

def allocationOwner (a : PaymentAllocation) : Id × Id × Id := (a.id, a.paymentIntentId, a.tenantId)

def attemptOwner (t : PaymentAttempt) : Id × Id × Id := (t.id, t.paymentIntentId, t.tenantId)

def operationOwner (o : PaymentOperation) : Id × Id × Id := (o.id, o.orderId, o.tenantId)

def ownersOf (p : PaymentTables) : Owners where
  intents := p.intents.map intentOwner
  allocations := p.allocations.map allocationOwner
  attempts := p.attempts.map attemptOwner
  operations := p.operations.map operationOwner

/-- Every row has the tenant of what it is for. -/
structure Owners.Tenanted (w : Owners) (orders : List (Id × Id)) : Prop where
  intents : ∀ i ∈ w.intents, i.2 ∈ orders
  allocations : ∀ a ∈ w.allocations, ∃ i ∈ w.intents, (i.1, i.2.2) = a.2
  attempts : ∀ t ∈ w.attempts, ∃ i ∈ w.intents, (i.1, i.2.2) = t.2
  operations : ∀ o ∈ w.operations, o.2 ∈ orders

def Tenanted (db : Db) : Prop := (ownersOf db.payments).Tenanted (db.orders.map orderKey)

section
variable (p : PaymentTables)

theorem ownersOf_refresh (id : Id) : ownersOf (refresh id p) = ownersOf p := by
  have keeps : ∀ i, intentOwner (refreshed p i) = intentOwner i := fun _ => rfl
  simp only [ownersOf, refresh, Rows.map_modify keeps]

theorem ownersOf_cancel (id : Id) : ownersOf (cancel id p) = ownersOf p := by
  have keeps : ∀ i : PaymentIntent, intentOwner { i with status := .cancelled } = intentOwner i :=
    fun _ => rfl
  have keeps' : ∀ a : PaymentAllocation,
      allocationOwner { a with status := .cancelled } = allocationOwner a := fun _ => rfl
  simp only [ownersOf, cancel]
  rw [Rows.map_modify keeps, Rows.map_updateWhere keeps']

theorem ownersOf_delivered (env : Env) (providerKey : String) (webhook : PaymentWebhookResolution)
    (events : List PaymentWebhookEvent) (delivery : Delivery) :
    ownersOf (setEvents events (delivered env providerKey webhook p delivery)) = ownersOf p := by
  cases delivery with
  | attempt externalReference attempt =>
    have keeps : ∀ a, allocationOwner
        (settleAllocation providerKey externalReference webhook env.now a) = allocationOwner a :=
      fun _ => rfl
    have keeps' : ∀ t, attemptOwner (settleAttempt webhook env.now t) = attemptOwner t :=
      fun _ => rfl
    refine (ownersOf_refresh _ _).trans ?_
    simp only [ownersOf, patchAllocation, patchAttempt, settlePatch, attemptPatch,
      Rows.map_modify keeps, Rows.map_modify keeps']
  | operation operation =>
    have keeps : ∀ o, operationOwner (settleOperation webhook env.now o) = operationOwner o :=
      fun _ => rfl
    simp only [ownersOf, delivered, setEvents, patchOperation, operationPatch, Rows.map_modify keeps]

theorem ownersOf_answered (a : AdmittedAllocation) (now : Instant) (attemptId : Id) :
    ownersOf (answered a now attemptId p) =
      { ownersOf p with
        attempts := (ownersOf p).attempts ++
          [(attemptId, a.loaded.intent.id, a.loaded.intent.tenantId)] } := by
  have keeps : ∀ b, allocationOwner
      (answerAllocation a.providerConfig.providerKey a.execution now b) = allocationOwner b :=
    fun _ => rfl
  have patched : ∀ attempt : PaymentAttempt, ownersOf (patchAllocation a.allocation.id
        (answerPatch a.providerConfig.providerKey a.execution now) (addAttempt attempt p)) =
        { ownersOf p with attempts := (ownersOf p).attempts ++ [attemptOwner attempt] } := by
    intro attempt
    simp only [ownersOf, patchAllocation, addAttempt, answerPatch, Rows.map_modify keeps,
      map_append, map_singleton]
  unfold answered
  split
  · exact patched _
  · exact (ownersOf_refresh _ _).trans (patched _)

end

/-- Owners only come to be with a tenant of their own. -/
structure OwnersGrow (orders : List (Id × Id)) (w w' : Owners) : Prop where
  intents : ∃ new, w'.intents = w.intents ++ new ∧ ∀ i ∈ new, i.2 ∈ orders
  allocations : ∃ new, w'.allocations = w.allocations ++ new ∧
    ∀ a ∈ new, ∃ i ∈ w'.intents, (i.1, i.2.2) = a.2
  attempts : ∃ new, w'.attempts = w.attempts ++ new ∧
    ∀ t ∈ new, ∃ i ∈ w'.intents, (i.1, i.2.2) = t.2
  operations : ∃ new, w'.operations = w.operations ++ new ∧ ∀ o ∈ new, o.2 ∈ orders

theorem nothing_new {α : Type} {P : α → Prop} (xs : List α) :
    ∃ new, xs = xs ++ new ∧ ∀ x ∈ new, P x :=
  ⟨[], (append_nil xs).symm, fun _ member => nomatch member⟩

theorem ownersGrow_refl (orders : List (Id × Id)) (w : Owners) : OwnersGrow orders w w :=
  ⟨nothing_new _, nothing_new _, nothing_new _, nothing_new _⟩

theorem Owners.Tenanted.grow {w w' : Owners} {orders orders' : List (Id × Id)}
    (h : w.Tenanted orders) (grows : OwnersGrow orders w w') (kept : orders ⊆ orders') :
    w'.Tenanted orders' := by
  obtain ⟨⟨is, intents, newIntents⟩, ⟨as, allocations, newAllocations⟩,
    ⟨ts, attempts, newAttempts⟩, ⟨os, operations, newOperations⟩⟩ := grows
  have old : ∀ i ∈ w.intents, i ∈ w'.intents := fun i member => by
    rw [intents]
    exact mem_append_left _ member
  constructor
  · intro i member
    rw [intents] at member
    rcases mem_append.mp member with member | member
    · exact kept (h.intents i member)
    · exact kept (newIntents i member)
  · intro a member
    rw [allocations] at member
    rcases mem_append.mp member with member | member
    · obtain ⟨i, stored, same⟩ := h.allocations a member
      exact ⟨i, old i stored, same⟩
    · exact newAllocations a member
  · intro t member
    rw [attempts] at member
    rcases mem_append.mp member with member | member
    · obtain ⟨i, stored, same⟩ := h.attempts t member
      exact ⟨i, old i stored, same⟩
    · exact newAttempts t member
  · intro o member
    rw [operations] at member
    rcases mem_append.mp member with member | member
    · exact kept (h.operations o member)
    · exact kept (newOperations o member)

theorem admitIntent_tenant {dto : CreatePaymentIntentDto} {a : AdmittedIntent}
    (h : admitIntent context dto db = .ok a) :
    (a.order.id, a.tenantId) ∈ db.orders.map orderKey := by
  obtain ⟨stored, _⟩ := admitIntent_ok h
  simp only [admitIntent, except_bind_ok_iff, except_pure_ok_iff, rejectIf_ok_iff,
    Table.findUniqueOrThrow_ok_iff] at h
  obtain ⟨order, _, tenantId, _, _, _, _, unmixed, _, _, _, _, _, _, _, _, _, _, _, _, _, _, _, _,
    _, _, rfl⟩ := h
  have same : order.tenantId = tenantId := by
    by_contra other
    exact unmixed (Or.inl other)
  exact mem_map.mpr ⟨order, stored, by rw [orderKey, same]⟩

theorem createIntentTx_owners {dto : CreatePaymentIntentDto} {created : LoadedPaymentIntent}
    (h : createIntentTx context dto db = .ok (created, db')) :
    OwnersGrow (db.orders.map orderKey) (ownersOf db.payments) (ownersOf db'.payments) := by
  obtain ⟨a, logs, admitted, intent, allocations, rfl⟩ := createIntentTx_ok h
  have tenant := admitIntent_tenant admitted
  have opened : intentOwner created.intent = (db.nextId, a.order.id, a.tenantId) := by
    rw [intent]
    rfl
  refine ⟨⟨[(db.nextId, a.order.id, a.tenantId)], ?_, ?_⟩, ⟨_, map_append, ?_⟩,
    nothing_new _, nothing_new _⟩
  · simp only [ownersOf, openIntent, map_append, map_singleton, opened]
  · intro i member
    rw [mem_singleton.mp member]
    exact tenant
  · intro key member
    obtain ⟨b, listed, rfl⟩ := mem_map.mp member
    rw [allocations] at listed
    obtain ⟨id, input, rfl⟩ := mem_newAllocations listed
    refine ⟨(db.nextId, a.order.id, a.tenantId), ?_, rfl⟩
    simp only [ownersOf, openIntent, map_append, map_singleton, opened]
    exact mem_append_right _ (mem_singleton_self _)

theorem processAllocationTx_owners {env : Env} {intentId allocationId : Id}
    {providerKey : Option String} {result : LoadedPaymentIntent × LegacyProviderConfig}
    (consistent : Consistent db.payments db.nextId)
    (h : processAllocationTx env context intentId allocationId providerKey db = .ok (result, db')) :
    OwnersGrow (db.orders.map orderKey) (ownersOf db.payments) (ownersOf db'.payments) := by
  obtain ⟨a, logs, admitted, rfl, _⟩ := processAllocationTx_ok consistent h
  obtain ⟨load, _⟩ := admitAllocation_ok admitted
  obtain ⟨stored, _⟩ := loadIntent_ok load
  rw [ownersOf_answered]
  refine ⟨nothing_new _, nothing_new _, ⟨_, rfl, ?_⟩, nothing_new _⟩
  intro t member
  rw [mem_singleton.mp member]
  exact ⟨_, mem_map_of_mem stored, rfl⟩

theorem createOperationTx_owners {env : Env} {dto : CreatePaymentOperationDto}
    {result : PaymentOperation} (consistent : Consistent db.payments db.nextId)
    (tenanted : Tenanted db) (h : createOperationTx env context dto db = .ok (result, db')) :
    OwnersGrow (db.orders.map orderKey) (ownersOf db.payments) (ownersOf db'.payments) := by
  obtain ⟨a, logs, admitted, made, rfl⟩ := createOperationTx_ok consistent h
  obtain ⟨load, _⟩ := admitOperation_ok admitted
  obtain ⟨stored, _⟩ := loadIntent_ok load
  refine ⟨nothing_new _, nothing_new _, nothing_new _, ⟨_, map_append, ?_⟩⟩
  intro o member
  rw [map_singleton, mem_singleton] at member
  rw [member, made]
  exact tenanted.intents (intentOwner a.loaded.intent) (mem_map_of_mem stored)

theorem receiveWebhookTx_owners {env : Env} {providerKey : String} {dto : ReceivePaymentWebhookDto}
    {result : PaymentWebhookEvent × Option Id} (consistent : Consistent db.payments db.nextId)
    (h : receiveWebhookTx env providerKey dto db = .ok (result, db')) :
    ownersOf db'.payments = ownersOf db.payments := by
  obtain ⟨n, events, logs, grows, after⟩ := receiveWebhookTx_ok consistent h
  cases accepted : acceptDelivery env providerKey dto db with
  | none =>
    rw [accepted] at after
    subst after
    rfl
  | some meaning =>
    rw [accepted] at after
    subst after
    exact ownersOf_delivered _ _ _ _ _ _

theorem step_owners (consistent : Consistent db.payments db.nextId) (tenanted : Tenanted db)
    (r : Request) :
    OwnersGrow (db.orders.map orderKey) (ownersOf db.payments) (ownersOf (step db r).payments) := by
  have kept : ∀ {m m' : Db}, PaymentsKept m m' →
      OwnersGrow (db.orders.map orderKey) (ownersOf db.payments) (ownersOf m.payments) →
      OwnersGrow (db.orders.map orderKey) (ownersOf db.payments) (ownersOf m'.payments) := by
    intro m m' same grows
    rw [same.payments]
    exact grows
  have refl := ownersGrow_refl (db.orders.map orderKey) (ownersOf db.payments)
  obtain ⟨env, context, call⟩ := r
  cases call with
  | createIntent dto =>
    exact Call.transact_related (R := fun _ (db' : Db) => OwnersGrow _ _ (ownersOf db'.payments)) refl
      fun _ _ h => createIntentTx_owners h
  | processAllocation intentId allocationId providerKey =>
    cases h : processAllocationTx env context intentId allocationId providerKey db with
    | error e =>
      simp only [step, processAllocation_of_error h]
      exact refl
    | ok answer =>
      have grows := processAllocationTx_owners consistent h
      rcases processAllocation_of_ok h with after | ⟨orderId, after⟩
      · simp only [step, after]
        exact grows
      · simp only [step, after]
        exact kept (transitionOrder_paymentsKept env context orderId _ _) grows
  | cancelIntent intentId =>
    refine Call.transact_related (R := fun _ (db' : Db) => OwnersGrow _ _ (ownersOf db'.payments)) refl
      fun _ _ h => ?_
    obtain ⟨loaded, logs, admitted, rfl⟩ := cancelIntentTx_ok h
    simp only [ownersOf_cancel]
    exact refl
  | createOperation dto =>
    exact Call.transact_related (R := fun _ (db' : Db) => OwnersGrow _ _ (ownersOf db'.payments)) refl
      fun _ _ h => createOperationTx_owners consistent tenanted h
  | receiveWebhook providerKey dto =>
    cases h : receiveWebhookTx env providerKey dto db with
    | error e =>
      simp only [step, receiveWebhook_of_error h]
      exact refl
    | ok answer =>
      have same := receiveWebhookTx_owners consistent h
      rcases receiveWebhook_of_ok h with after | ⟨orderId, after⟩
      · simp only [step, after]
        rw [same]
        exact refl
      · simp only [step, after]
        refine kept (transitionOrder_paymentsKept env _ orderId _ _) ?_
        rw [same]
        exact refl
  | checkout cartId dto => exact kept (checkout_paymentsKept env context cartId dto db) refl
  | transitionOrder orderId dto =>
    exact kept (transitionOrder_paymentsKept env context orderId dto db) refl
  | transitionTicket ticketId dto =>
    exact kept (transitionTicket_paymentsKept env context ticketId dto db) refl
  | elsewhere setup carts => exact refl

theorem tenanted_run (init : Initial db) (rs : List Request) : Tenanted (run db rs) := by
  have start : Tenanted db := by
    unfold Tenanted
    rw [init.payments]
    constructor <;> intro _ member <;> cases member
  have keeps : ∀ (db : Db) (r : Request), Consistent db.payments db.nextId ∧ Tenanted db →
      Consistent (step db r).payments (step db r).nextId ∧ Tenanted (step db r) := by
    intro db r inv
    refine ⟨step_consistent inv.1 r, ?_⟩
    exact inv.2.grow (step_owners inv.1 inv.2 r) (step_served inv.1 r).orderKeys
  exact (Trace.run_always keeps ⟨initial_consistent init, start⟩ rs).2

end Exetron.Payments
