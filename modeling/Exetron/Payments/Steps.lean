import Exetron.Payments.Ledger

/-!
# Transactions of the payments service

What each transaction of `PaymentsService` does to the database when it succeeds: its effect on
the ledger, and that it leaves the rest alone.
-/

namespace Exetron.Payments

open Lib List Tx Table

variable {u : Unit} {db db' : Db} {context : RequestContext}
  {intentId n tenantId allocationId eventId : Id} {loaded : LoadedPaymentIntent} {env : Env}
  {providerKey : String} {webhook : PaymentWebhookResolution} {dto : CreatePaymentIntentDto}
  {result : PaymentWebhookEvent × Option Id} {operation : PaymentOperation}

theorem recordConnectorExecution_ok {entry : ConnectorExecutionLog}
    (h : recordConnectorExecution entry db = .ok (u, db')) :
    ∃ logs, db' = { db with logs := logs } :=
  ⟨_, log_ok_iff.mp h⟩

theorem recordPayment_ok {storeId : Id} {name entityType : String} {entityId : Id}
    (h : recordPayment context tenantId storeId name entityType entityId db = .ok (u, db')) :
    ∃ logs, db' = { db with logs := logs } := by
  obtain ⟨_, _, audited, h⟩ := bind_ok h
  rw [log_ok_iff.mp h, log_ok_iff.mp audited]
  exact ⟨_, rfl⟩

theorem loadIntent_ok (h : loadIntent intentId db = .ok loaded) :
    loaded.intent ∈ db.payments.intents ∧ loaded.intent.id = intentId ∧
      orders.findUnique loaded.intent.orderId db = some loaded.order ∧
      loaded.allocations = allocationsOf db.payments intentId := by
  simp only [loadIntent, except_bind_ok_iff, except_pure_ok_iff, findUniqueOrThrow_ok_iff] at h
  obtain ⟨intent, found, order, ordered, rfl⟩ := h
  obtain ⟨member, same⟩ := findUnique_mem found
  refine ⟨member, same, ordered, ?_⟩
  rw [show intent.id = intentId from same]

theorem refreshIntent_ok (consistent : Consistent db.payments n)
    (h : refreshIntent intentId db = .ok (loaded, db')) :
    db' = { db with payments := refresh intentId db.payments } ∧
      loaded.intent ∈ (refresh intentId db.payments).intents ∧ loaded.intent.id = intentId ∧
      orders.findUnique loaded.intent.orderId db = some loaded.order := by
  simp only [refreshIntent, bind_ok_iff, read_ok_iff, update_ok_iff, pure_ok_iff] at h
  obtain ⟨before, _, ⟨load, rfl⟩, _, _, ⟨row, found, rfl, rfl⟩, rfl, rfl⟩ := h
  obtain ⟨member, same, ordered, owned⟩ := loadIntent_ok load
  obtain ⟨rowMember, rowSame⟩ := findUnique_mem found
  have rowIs : row = before.intent := consistent.intent_eq rowMember member rowSame
  have rewritten : Rows.modify PaymentIntent.id before.intent.id (fun row => { row with
        status := (resolvePaymentIntentState before.intent.totalAmount
          (before.allocations.map allocationState)).1
        paidAmount := (resolvePaymentIntentState before.intent.totalAmount
          (before.allocations.map allocationState)).2 }) db.payments.intents =
      Rows.modify PaymentIntent.id intentId (refreshed db.payments) db.payments.intents := by
    rw [same]
    refine Rows.modify_congr fun r hr hk => ?_
    have rIs : r = before.intent := consistent.intent_eq hr member (hk.trans same.symm)
    rw [rIs, refreshed, summaryOf, same, owned]
  refine ⟨?_, ?_, ?_, ?_⟩
  · simp only [paymentIntents, refresh]
    rw [← rewritten]
  · simp only [refresh]
    rw [← rewritten]
    refine Rows.mem_modify.mpr ⟨before.intent, member, ?_⟩
    rw [if_pos rfl, rowIs]
  · rw [rowIs]
    exact same
  · rw [rowIs]
    exact ordered

theorem admitIntent_ok {a : AdmittedIntent} (h : admitIntent context dto db = .ok a) :
    a.order ∈ db.orders ∧ a.order.id = dto.orderId ∧ a.totalAmount = a.order.total ∧
      a.allocations = dto.allocations ∧ a.allocations ≠ [] ∧
      (a.allocations.map PaymentAllocationInput.amount).sum = a.order.total ∧
      ∀ i ∈ db.payments.intents, i.orderId = a.order.id → ¬isActive i.status := by
  simp only [admitIntent, except_bind_ok_iff, except_pure_ok_iff, rejectIf_ok_iff,
    findUniqueOrThrow_ok_iff] at h
  obtain ⟨order, found, tenantId, _, _, _, _, _, _, _, session, _, _, _, shift, _, _, _, device, _,
    _, _, _, inactive, validated, valid, rfl⟩ := h
  obtain ⟨member, same⟩ := findUnique_mem found
  obtain ⟨nonempty, total, normalized, sum⟩ := validatePaymentAllocations_ok valid
  refine ⟨member, same, total, normalized, ?_, ?_, ?_⟩
  · rw [normalized]
    exact nonempty
  · rw [normalized]
    exact sum
  · intro i stored sameOrder active
    refine inactive (any_eq_true.mpr ⟨i, stored, ?_⟩)
    exact decide_eq_true ⟨sameOrder, active⟩

theorem createIntentTx_ok {created : LoadedPaymentIntent}
    (h : createIntentTx context dto db = .ok (created, db')) :
    ∃ a logs, admitIntent context dto db = .ok a ∧
      created.intent = newIntent context dto a db.nextId ∧
      created.allocations = List.zipWith (newAllocation a.tenantId db.nextId)
        (List.range' (db.nextId + 1) a.allocations.length) a.allocations ∧
      db' = { db with
        nextId := db.nextId + 1 + a.allocations.length
        payments := openIntent created.intent created.allocations db.payments
        logs := logs } := by
  simp only [createIntentTx, bind_ok_iff, read_ok_iff, freshId_ok_iff, freshIds_ok_iff,
    create_ok_iff, createMany_ok_iff, pure_ok_iff] at h
  obtain ⟨a, _, ⟨admitted, rfl⟩, _, _, ⟨rfl, rfl⟩, _, _, ⟨rfl, rfl⟩, _, _, ⟨rfl, rfl⟩, _, _, rfl,
    _, _, recorded, rfl, rfl⟩ := h
  obtain ⟨logs, rfl⟩ := recordPayment_ok recorded
  exact ⟨a, logs, admitted, rfl, rfl, rfl⟩

theorem map_id_newAllocations {ids : List Id} {inputs : List PaymentAllocationInput}
    (same : ids.length = inputs.length) :
    (List.zipWith (newAllocation tenantId intentId) ids inputs).map PaymentAllocation.id = ids := by
  induction ids generalizing inputs with
  | nil => rfl
  | cons id ids ih =>
    cases inputs with
    | nil => cases same
    | cons input inputs =>
      simp only [zipWith_cons_cons, map_cons, ih (Nat.succ.inj same)]
      rfl

theorem mem_newAllocations {ids : List Id} {inputs : List PaymentAllocationInput}
    {b : PaymentAllocation}
    (listed : b ∈ List.zipWith (newAllocation tenantId intentId) ids inputs) :
    ∃ id input, b = newAllocation tenantId intentId id input := by
  obtain ⟨k, _, rfl⟩ := mem_iff_getElem.mp listed
  exact ⟨_, _, getElem_zipWith⟩

/-- A successful `createIntent` opens an intent in the ledger. -/
theorem createIntentTx_effect {created : LoadedPaymentIntent}
    (h : createIntentTx context dto db = .ok (created, db')) :
    Effect db.payments db.nextId (.opening created.intent created.allocations)
      db'.payments db'.nextId := by
  obtain ⟨a, logs, admitted, intent, allocations, rfl⟩ := createIntentTx_ok h
  obtain ⟨_, _, _, _, nonempty, _, inactive⟩ := admitIntent_ok admitted
  have length : created.allocations.length = a.allocations.length := by simp [allocations]
  simp only [← length]
  refine Effect.opening ?_ ?_ ?_ ?_ ?_ ?_ ?_ ?_
  · rw [intent]
    rfl
  · rw [length, allocations]
    exact map_id_newAllocations (by simp)
  · intro b listed
    rw [allocations] at listed
    obtain ⟨id, input, rfl⟩ := mem_newAllocations listed
    rw [intent]
    rfl
  · intro b listed
    rw [allocations] at listed
    obtain ⟨id, input, rfl⟩ := mem_newAllocations listed
    rfl
  · intro empty
    rw [empty] at length
    exact nonempty (length_eq_zero_iff.mp length.symm)
  · rw [intent]
    rfl
  · rw [intent]
    rfl
  · intro i stored same
    rw [intent] at same
    exact inactive i stored same

theorem admitAllocation_ok {providerKey : Option String} {a : AdmittedAllocation}
    (h : admitAllocation env context intentId allocationId providerKey db = .ok a) :
    loadIntent intentId db = .ok a.loaded ∧
      (a.loaded.intent.status ≠ .completed ∧ a.loaded.intent.status ≠ .cancelled) ∧
      a.allocation ∈ db.payments.allocations ∧ a.allocation.id = allocationId ∧
      a.allocation.paymentIntentId = intentId ∧
      (a.allocation.status ≠ .completed ∧ a.allocation.status ≠ .cancelled) ∧
      resolveProviderConfigTx env a.loaded.intent a.allocation.method providerKey db =
        .ok a.providerConfig ∧
      env.executePaymentProviderAttempt (adapterConfig a.providerConfig a.allocation.method) =
        .ok a.execution := by
  simp only [admitAllocation, except_bind_ok_iff, except_pure_ok_iff, rejectIf_ok_iff,
    required_ok_iff, not_or] at h
  obtain ⟨loaded, load, _, _, _, unclosed, allocation, found, _, unsettled, providerConfig,
    resolved, execution, executed, rfl⟩ := h
  obtain ⟨_, _, _, owned⟩ := loadIntent_ok load
  have listed := mem_of_find?_eq_some found
  rw [owned] at listed
  obtain ⟨stored, owner⟩ := mem_filter.mp listed
  exact ⟨load, unclosed, stored, by simpa using find?_some found, by simpa using owner,
    unsettled, resolved, executed⟩

def answerPatch (providerKey : String) (execution : PaymentAdapterExecutionResult)
    (now : Instant) : AllocationPatch where
  run := answerAllocation providerKey execution now
  status := allocationStatusOf execution.status
  run_id _ := rfl
  run_paymentIntentId _ := rfl
  run_amount _ := rfl
  run_status _ := rfl

theorem intentAfterAnswer_ok {outcome : ExecutionOutcome} (consistent : Consistent db.payments n)
    (h : intentAfterAnswer intentId outcome db = .ok (loaded, db')) : db' = { db with
      payments := if outcome = .pending then db.payments else refresh intentId db.payments } ∧
      loaded.intent ∈ db'.payments.intents ∧ loaded.intent.id = intentId ∧
      orders.findUnique loaded.intent.orderId db = some loaded.order := by
  unfold intentAfterAnswer at h
  split at h
  · obtain ⟨load, rfl⟩ := read_ok_iff.mp h
    obtain ⟨member, same, ordered, _⟩ := loadIntent_ok load
    exact ⟨by simp [*], member, same, ordered⟩
  · obtain ⟨rfl, member, same, ordered⟩ := refreshIntent_ok consistent h
    exact ⟨by simp [*], member, same, ordered⟩

def answered (a : AdmittedAllocation) (now : Instant) (attemptId : Id) (p : PaymentTables) :
    PaymentTables :=
  let attempt := answerAttempt a.execution now (openedAttempt a attemptId)
  let f := answerPatch a.providerConfig.providerKey a.execution now
  if a.execution.status = .pending then patchAllocation a.allocation.id f (addAttempt attempt p)
  else refresh a.loaded.intent.id (patchAllocation a.allocation.id f (addAttempt attempt p))

theorem admitted_answer_effect {providerKey : Option String} {a : AdmittedAllocation}
    (h : admitAllocation env context intentId allocationId providerKey db = .ok a) :
    Effect db.payments db.nextId (.answer a.loaded.intent a.allocation a.execution.status)
      (answered a env.now db.nextId db.payments) (db.nextId + 1) := by
  obtain ⟨load, unclosed, storedAllocation, _, owner, unsettled, _⟩ := admitAllocation_ok h
  obtain ⟨stored, same, _⟩ := loadIntent_ok load
  exact Effect.answer stored unclosed storedAllocation (owner.trans same.symm) unsettled rfl rfl rfl
    rfl rfl

theorem processAllocationTx_ok {providerKey : Option String}
    {result : LoadedPaymentIntent × LegacyProviderConfig}
    (consistent : Consistent db.payments db.nextId)
    (h : processAllocationTx env context intentId allocationId providerKey db = .ok (result, db')) :
    ∃ a logs, admitAllocation env context intentId allocationId providerKey db = .ok a ∧
      db' = { db with
        nextId := db.nextId + 1
        payments := answered a env.now db.nextId db.payments
        logs := logs } ∧
      result.2 = a.providerConfig ∧ result.1.intent ∈ db'.payments.intents ∧
      result.1.intent.id = intentId ∧ result.1.intent.orderId = a.loaded.intent.orderId ∧
      result.1.order = a.loaded.order := by
  simp only [processAllocationTx, bind_ok_iff, read_ok_iff, freshId_ok_iff,
    create_ok_iff, update_ok_iff, pure_ok_iff] at h
  obtain ⟨a, _, ⟨admitted, rfl⟩, _, _, ⟨rfl, rfl⟩, _, _, ⟨rfl, rfl⟩, _, _, ⟨_, _, _, rfl⟩,
    _, _, logged, _, _, ⟨_, _, _, rfl⟩, updated, _, refreshes, _, _, recorded, rfl, rfl⟩ := h
  obtain ⟨_, rfl⟩ := recordConnectorExecution_ok logged
  obtain ⟨logs, rfl⟩ := recordPayment_ok recorded
  obtain ⟨load, _, stored, _, owner, _⟩ := admitAllocation_ok admitted
  obtain ⟨intentStored, same, ordered, _⟩ := loadIntent_ok load
  have newAttempt : ∀ t ∈ db.payments.attempts, t.id ≠ (openedAttempt a db.nextId).id :=
    fun t member => ne_of_lt (consistent.attempt_lt member)
  have attempts : Rows.modify PaymentAttempt.id (openedAttempt a db.nextId).id
      (answerAttempt a.execution env.now) (db.payments.attempts ++ [openedAttempt a db.nextId]) =
      db.payments.attempts ++ [answerAttempt a.execution env.now (openedAttempt a db.nextId)] :=
    Rows.modify_append_new newAttempt
  simp only [paymentAttempts, paymentAllocations, attempts] at refreshes
  have consistent' : Consistent (patchAllocation a.allocation.id
      (answerPatch a.providerConfig.providerKey a.execution env.now)
      (addAttempt (answerAttempt a.execution env.now (openedAttempt a db.nextId)) db.payments))
      (db.nextId + 1) := by
    unfold Consistent
    rw [keysOf_patchAllocation]
    exact consistent_addAttempt consistent stored rfl rfl (same.trans owner.symm)
  obtain ⟨rfl, member, updatedId, updatedOrder⟩ := intentAfterAnswer_ok consistent' refreshes
  have sameOrder : updated.intent.orderId = a.loaded.intent.orderId := by
    by_cases pending : a.execution.status = .pending
    · simp only [pending, if_true] at member
      rw [consistent.intent_eq member intentStored updatedId]
    · simp only [pending, if_false] at member
      obtain ⟨i, stored, refreshed⟩ := mem_refresh.mp member
      have sameId : i.id = a.loaded.intent.id := by
        rw [← updatedId, refreshed]
        split <;> rfl
      rw [refreshed, if_pos sameId, consistent.intent_eq stored intentStored sameId]
      rfl
  refine ⟨a, logs, admitted, ?_, rfl, member, updatedId.trans same, sameOrder, ?_⟩
  · simp only [answered]
    rfl
  · rw [sameOrder] at updatedOrder
    exact Option.some.inj (updatedOrder.symm.trans ordered)

theorem getIntent_ok (h : Call.exec (getIntent context intentId) db = (.ok loaded, db')) :
    loadIntent intentId db = .ok loaded ∧ db' = db := by
  simp only [getIntent, Call.transact_ok_iff, read_ok_iff, except_bind_ok_iff,
    except_pure_ok_iff] at h
  obtain ⟨⟨_, load, _, _, rfl⟩, rfl⟩ := h
  exact ⟨load, rfl⟩

theorem admitCancel_ok (h : admitCancel context intentId db = .ok loaded) :
    loadIntent intentId db = .ok loaded ∧ loaded.intent.status ≠ .completed ∧
      loaded.intent.paidAmount = 0 := by
  simp only [admitCancel, except_bind_ok_iff, except_pure_ok_iff, rejectIf_ok_iff, ne_eq,
    not_not] at h
  obtain ⟨_, load, _, _, _, notCompleted, _, unpaid, rfl⟩ := h
  exact ⟨load, notCompleted, unpaid⟩

theorem cancelIntentTx_ok {result : LoadedPaymentIntent}
    (h : cancelIntentTx context intentId db = .ok (result, db')) :
    ∃ loaded logs, admitCancel context intentId db = .ok loaded ∧
      db' = { db with payments := cancel loaded.intent.id db.payments, logs := logs } := by
  simp only [cancelIntentTx, bind_ok_iff, read_ok_iff, update_ok_iff,
    updateMany_ok_iff, pure_ok_iff] at h
  obtain ⟨loaded, _, ⟨admitted, rfl⟩, _, _, ⟨_, rfl⟩, _, _, ⟨_, _, rfl, rfl⟩, _, _, ⟨_, rfl⟩,
    _, _, recorded, _, rfl⟩ := h
  obtain ⟨logs, rfl⟩ := recordPayment_ok recorded
  refine ⟨loaded, logs, admitted, ?_⟩
  simp only [paymentAllocations, paymentIntents, cancel, isOpenAllocation, decide_eq_true_eq]

theorem admitted_cancel_effect (h : admitCancel context intentId db = .ok loaded) :
    Effect db.payments db.nextId (.cancellation loaded.intent)
      (cancel loaded.intent.id db.payments) db.nextId := by
  obtain ⟨load, notCompleted, unpaid⟩ := admitCancel_ok h
  exact Effect.cancellation (loadIntent_ok load).1 notCompleted unpaid

theorem admitOperation_ok {dto : CreatePaymentOperationDto} {a : AdmittedOperation}
    (h : admitOperation env context dto db = .ok a) :
    loadIntent dto.paymentIntentId db = .ok a.loaded ∧ a.allocation ∈ db.payments.allocations ∧
      a.allocation.paymentIntentId = a.loaded.intent.id ∧
      env.executePaymentOperation (adapterConfig a.providerConfig a.allocation.method) dto.kind
        dto.amount = .ok a.execution := by
  simp only [admitOperation, except_bind_ok_iff, except_pure_ok_iff, required_ok_iff,
    Option.or_eq_some_iff] at h
  obtain ⟨loaded, load, _, _, allocation, found, _, _, execution, executed, rfl⟩ := h
  obtain ⟨_, same, _, owned⟩ := loadIntent_ok load
  have listed : allocation ∈ loaded.allocations := by
    rcases found with found | ⟨_, found⟩
    · exact mem_of_find?_eq_some found
    · exact mem_of_find?_eq_some found
  rw [owned] at listed
  obtain ⟨stored, owner⟩ := mem_filter.mp listed
  exact ⟨load, stored, (of_decide_eq_true owner).trans same.symm, executed⟩

/-- The order's refund flag as `createOperation` writes it. -/
def flagAfterOperation (outcome : ExecutionOutcome) : RefundStatus :=
  if outcome = .pending then .pendingManual else .notRequired

def flagAfterDelivery (outcome : WebhookOutcome) : RefundStatus :=
  if outcome = .succeeded then .notRequired else .pendingManual

def flagOrder (orderId : Id) (flag : RefundStatus) (rows : List Order) : List Order :=
  Rows.modify Order.id orderId (fun row => { row with refundStatus := flag }) rows

theorem createOperationTx_ok {dto : CreatePaymentOperationDto} {result : PaymentOperation}
    (consistent : Consistent db.payments db.nextId)
    (h : createOperationTx env context dto db = .ok (result, db')) :
    ∃ a logs, admitOperation env context dto db = .ok a ∧
      result = answerOperation a.execution env.now (openedOperation context dto a db.nextId) ∧
      db' = { db with
        nextId := db.nextId + 1
        payments := addOperation result db.payments
        orders := flagOrder a.loaded.intent.orderId (flagAfterOperation a.execution.status)
          db.orders
        logs := logs } := by
  simp only [createOperationTx, bind_ok_iff, read_ok_iff, freshId_ok_iff,
    create_ok_iff, update_ok_iff, pure_ok_iff] at h
  obtain ⟨a, _, ⟨admitted, rfl⟩, _, _, ⟨rfl, rfl⟩, _, _, ⟨rfl, rfl⟩, _, _, ⟨row, found, rfl, rfl⟩,
    _, _, logged, _, _, ⟨_, _, _, rfl⟩, _, _, recorded, rfl, rfl⟩ := h
  obtain ⟨_, rfl⟩ := recordConnectorExecution_ok logged
  obtain ⟨logs, rfl⟩ := recordPayment_ok recorded
  have newOperation : ∀ o ∈ db.payments.operations,
      o.id ≠ (openedOperation context dto a db.nextId).id :=
    fun o member => ne_of_lt (consistent.operation_lt member)
  have rowIs : row = openedOperation context dto a db.nextId :=
    Option.some.inj (found.symm.trans (Rows.find_append_new newOperation))
  refine ⟨a, logs, admitted, by rw [rowIs], ?_⟩
  have operations := Rows.modify_append_new (f := answerOperation a.execution env.now) newOperation
  simp only [paymentOperations, orders, addOperation, flagOrder, flagAfterOperation, operations,
    rowIs]

theorem admitted_operation_effect {dto : CreatePaymentOperationDto} {a : AdmittedOperation}
    (h : admitOperation env context dto db = .ok a) :
    Effect db.payments db.nextId (.operation a.allocation dto.amount a.execution.status)
      (addOperation (answerOperation a.execution env.now (openedOperation context dto a db.nextId))
        db.payments) (db.nextId + 1) := by
  obtain ⟨_, stored, _⟩ := admitOperation_ok h
  exact Effect.operation stored rfl rfl rfl rfl

def acceptDelivery (env : Env) (providerKey : String) (dto : ReceivePaymentWebhookDto) (db : Db) :
    Option (PaymentWebhookResolution × Delivery) :=
  match findDelivery providerKey dto.deliveryId db, readDelivery env providerKey dto db with
  | none, .ok (_, webhook) =>
    if webhook.signatureValid then
      (addressee providerKey webhook db).toOption.map fun delivery => (webhook, delivery)
    else none
  | _, _ => none

def attemptPatch (webhook : PaymentWebhookResolution) (now : Instant) : AttemptPatch where
  run := settleAttempt webhook now
  status := attemptStatusOfDelivery webhook.outcome
  run_id _ := rfl
  run_paymentIntentId _ := rfl
  run_paymentAllocationId _ := rfl
  run_status _ := by
    simp only [settleAttempt]
    cases webhook.outcome <;> rfl

def settlePatch (providerKey externalReference : String) (webhook : PaymentWebhookResolution)
    (now : Instant) : AllocationPatch where
  run := settleAllocation providerKey externalReference webhook now
  status := allocationStatusOfDelivery webhook.outcome
  run_id _ := rfl
  run_paymentIntentId _ := rfl
  run_amount _ := rfl
  run_status _ := by
    simp only [settleAllocation]
    cases webhook.outcome <;> rfl

def operationPatch (webhook : PaymentWebhookResolution) (now : Instant) : OperationPatch where
  run := settleOperation webhook now
  status := operationStatusOfDelivery webhook.outcome
  run_id _ := rfl
  run_paymentAllocationId _ := rfl
  run_orderId _ := rfl
  run_amount _ := rfl
  run_status _ := by
    simp only [settleOperation]
    cases webhook.outcome <;> rfl

theorem applyToAttempt_ok {externalReference : String} {attempt : PaymentAttempt}
    (consistent : Consistent db.payments n)
    (h : applyToAttempt env providerKey externalReference webhook attempt db = .ok (loaded, db')) :
    db' = { db with
      payments := refresh attempt.paymentIntentId
        (patchAllocation attempt.paymentAllocationId
          (settlePatch providerKey externalReference webhook env.now)
          (patchAttempt attempt.id (attemptPatch webhook env.now) db.payments)) } := by
  simp only [applyToAttempt, bind_ok_iff, update_ok_iff] at h
  obtain ⟨_, _, ⟨_, _, rfl, rfl⟩, _, _, ⟨_, _, rfl, rfl⟩, refreshes⟩ := h
  have consistent' : Consistent (patchAllocation attempt.paymentAllocationId
      (settlePatch providerKey externalReference webhook env.now)
      (patchAttempt attempt.id (attemptPatch webhook env.now) db.payments)) n := by
    unfold Consistent
    rw [keysOf_patchAllocation, keysOf_patchAttempt]
    exact consistent
  exact (refreshIntent_ok consistent' refreshes).1

theorem applyToOperation_ok (h : applyToOperation env webhook operation db = .ok (u, db')) :
    db' = { db with
      payments := patchOperation operation.id (operationPatch webhook env.now) db.payments
      orders := flagOrder operation.orderId (flagAfterDelivery webhook.outcome) db.orders } := by
  simp only [applyToOperation, bind_ok_iff, update_ok_iff, pure_ok_iff] at h
  obtain ⟨_, _, ⟨_, _, rfl, rfl⟩, _, _, ⟨_, _, rfl, rfl⟩, _, rfl⟩ := h
  rfl

theorem applyToOperation_found (h : applyToOperation env webhook operation db = .ok (u, db')) :
    operation.orderId ∈ db.orders.map Order.id := by
  simp only [applyToOperation, bind_ok_iff, update_ok_iff] at h
  obtain ⟨_, _, ⟨_, _, rfl, rfl⟩, _, _, ⟨order, found, _⟩, _⟩ := h
  obtain ⟨stored, same⟩ := findUnique_mem found
  exact mem_map.mpr ⟨order, stored, same⟩

theorem finishDelivery_ok {config : PaymentProviderConfig} {event : PaymentWebhookEvent}
    (h : finishDelivery env providerKey config webhook eventId db = .ok (event, db')) :
    ∃ events logs, db' = { db with payments := setEvents events db.payments, logs := logs } := by
  simp only [finishDelivery, bind_ok_iff, update_ok_iff] at h
  obtain ⟨_, _, logged, _, _, _, rfl⟩ := h
  obtain ⟨logs, rfl⟩ := recordConnectorExecution_ok logged
  exact ⟨_, logs, rfl⟩

theorem failDelivery_ok {reason : String} {event : PaymentWebhookEvent}
    (h : failDelivery eventId reason db = .ok (event, db')) :
    ∃ events, db' = { db with payments := setEvents events db.payments } := by
  obtain ⟨_, _, _, rfl⟩ := update_ok_iff.mp h
  exact ⟨_, rfl⟩

theorem addressee_stored {delivery : Delivery}
    (h : addressee providerKey webhook db = .ok delivery) : match delivery with
    | .attempt externalReference attempt =>
      attempt ∈ db.payments.attempts ∧ attempt.providerKey = providerKey ∧
        attempt.externalReference = some externalReference
    | .operation operation => operation ∈ db.payments.operations := by
  unfold addressee at h
  split at h
  · cases h
  · split at h
    · cases h
    · cases h
      rename_i found
      have matched := find?_some found
      simp only [decide_eq_true_eq] at matched
      exact ⟨mem_of_find?_eq_some found, matched⟩
  · split at h
    · cases h
    · cases h
      rename_i found
      exact mem_of_find?_eq_some found

theorem acceptDelivery_ok {dto : ReceivePaymentWebhookDto} {delivery : Delivery}
    (h : acceptDelivery env providerKey dto db = some (webhook, delivery)) :
    addressee providerKey webhook db = .ok delivery := by
  unfold acceptDelivery at h
  split at h
  · split at h
    · rename_i config webhook' _ _ _
      obtain ⟨found, addressed, same⟩ := Option.map_eq_some_iff.mp h
      obtain ⟨rfl, rfl⟩ := Prod.mk.inj same
      cases outcome : addressee providerKey webhook' db with
      | error reason =>
        rw [outcome] at addressed
        cases addressed
      | ok delivery =>
        rw [outcome] at addressed
        exact congrArg _ (Option.some.inj addressed)
    · cases h
  · cases h

def delivered (env : Env) (providerKey : String) (webhook : PaymentWebhookResolution)
    (p : PaymentTables) : Delivery → PaymentTables
  | .attempt externalReference attempt =>
    refresh attempt.paymentIntentId (patchAllocation attempt.paymentAllocationId
      (settlePatch providerKey externalReference webhook env.now)
      (patchAttempt attempt.id (attemptPatch webhook env.now) p))
  | .operation operation => patchOperation operation.id (operationPatch webhook env.now) p

def flagged (webhook : PaymentWebhookResolution) (rows : List Order) : Delivery → List Order
  | .attempt _ _ => rows
  | .operation operation => flagOrder operation.orderId (flagAfterDelivery webhook.outcome) rows

theorem deliver_ok {config : PaymentProviderConfig} (consistent : Consistent db.payments n)
    (h : deliver env providerKey config webhook eventId db = .ok (result, db')) :
    ∃ events logs, db' = match addressee providerKey webhook db with
      | .error _ => { db with payments := setEvents events db.payments, logs := logs }
      | .ok delivery => { db with
          payments := setEvents events (delivered env providerKey webhook db.payments delivery)
          orders := flagged webhook db.orders delivery
          logs := logs } := by
  simp only [deliver, bind_ok_iff, read_ok_iff] at h
  obtain ⟨meaning, _, ⟨read, rfl⟩, h⟩ := h
  rw [Except.ok.inj read]
  rcases meaning with reason | externalReference | operation
  · simp only [bind_ok_iff, pure_ok_iff] at h
    obtain ⟨_, _, failed, _, rfl⟩ := h
    obtain ⟨events, rfl⟩ := failDelivery_ok failed
    exact ⟨events, db.logs, rfl⟩
  · simp only [bind_ok_iff, pure_ok_iff] at h
    obtain ⟨_, _, applied, _, _, finished, _, rfl⟩ := h
    obtain ⟨events, logs, rfl⟩ := finishDelivery_ok finished
    rw [applyToAttempt_ok consistent applied]
    exact ⟨events, logs, rfl⟩
  · simp only [bind_ok_iff, pure_ok_iff] at h
    obtain ⟨_, _, applied, _, _, finished, _, rfl⟩ := h
    obtain ⟨events, logs, rfl⟩ := finishDelivery_ok finished
    rw [applyToOperation_ok applied]
    exact ⟨events, logs, rfl⟩

theorem receiveWebhookTx_ok {dto : ReceivePaymentWebhookDto}
    (consistent : Consistent db.payments db.nextId)
    (h : receiveWebhookTx env providerKey dto db = .ok (result, db')) :
    ∃ n events logs, db.nextId ≤ n ∧ db' = match acceptDelivery env providerKey dto db with
      | none =>
        { db with nextId := n, payments := setEvents events db.payments, logs := logs }
      | some (webhook, delivery) => { db with
          nextId := db.nextId + 1
          payments := setEvents events (delivered env providerKey webhook db.payments delivery)
          orders := flagged webhook db.orders delivery
          logs := logs } := by
  simp only [receiveWebhookTx, bind_ok_iff, read_ok_iff] at h
  obtain ⟨existing, _, ⟨found, rfl⟩, h⟩ := h
  replace found := Except.ok.inj found
  cases existing with
  | some event =>
    obtain ⟨_, rfl⟩ := pure_ok_iff.mp h
    simp only [acceptDelivery, found]
    exact ⟨db.nextId, db.payments.webhookEvents, db.logs, le_refl _, rfl⟩
  | none =>
    simp only [bind_ok_iff, read_ok_iff, freshId_ok_iff, create_ok_iff] at h
    obtain ⟨⟨config, webhook⟩, _, ⟨meaning, rfl⟩, _, _, ⟨rfl, rfl⟩, _, _, ⟨rfl, rfl⟩, h⟩ := h
    simp only [acceptDelivery, found, meaning]
    by_cases signed : webhook.signatureValid
    · rw [if_pos signed] at h ⊢
      obtain ⟨events, logs, rfl⟩ := deliver_ok (n := db.nextId) (by exact consistent) h
      refine ⟨db.nextId + 1, events, logs, Nat.le_succ _, ?_⟩
      change (match addressee providerKey webhook db with
        | .error _ => _
        | .ok delivery => _) = _
      cases addressed : addressee providerKey webhook db with
      | error reason => rfl
      | ok delivery =>
        cases delivery <;> rfl
    · rw [if_neg signed] at h ⊢
      obtain ⟨_, rfl⟩ := pure_ok_iff.mp h
      exact ⟨db.nextId + 1, _, db.logs, Nat.le_succ _, rfl⟩

theorem receiveWebhookTx_found {dto : ReceivePaymentWebhookDto}
    (h : receiveWebhookTx env providerKey dto db = .ok (result, db'))
    (accepted : acceptDelivery env providerKey dto db = some (webhook, .operation operation)) :
    operation.orderId ∈ db.orders.map Order.id := by
  have addressed := acceptDelivery_ok accepted
  simp only [acceptDelivery] at accepted
  simp only [receiveWebhookTx, bind_ok_iff, read_ok_iff] at h
  obtain ⟨existing, _, ⟨found, rfl⟩, h⟩ := h
  replace found := Except.ok.inj found
  cases existing with
  | some event =>
    rw [found] at accepted
    cases accepted
  | none =>
    simp only [bind_ok_iff, read_ok_iff, freshId_ok_iff, create_ok_iff] at h
    obtain ⟨⟨config, webhook'⟩, _, ⟨meaning, rfl⟩, _, _, ⟨rfl, rfl⟩, _, _, ⟨rfl, rfl⟩, h⟩ := h
    simp only [found, meaning] at accepted
    split at accepted
    · rename_i signed
      obtain ⟨_, _, same⟩ := Option.map_eq_some_iff.mp accepted
      obtain ⟨rfl, _⟩ := Prod.mk.inj same
      rw [if_pos signed] at h
      simp only [deliver, bind_ok_iff, read_ok_iff] at h
      obtain ⟨outcome, _, ⟨read, rfl⟩, h⟩ := h
      obtain rfl := (Except.ok.inj read).symm.trans addressed
      simp only [bind_ok_iff] at h
      obtain ⟨_, _, applied, _⟩ := h
      have listed := applyToOperation_found applied
      exact listed
    · cases accepted

end Exetron.Payments
