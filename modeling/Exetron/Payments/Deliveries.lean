import Exetron.System

/-!
# Recorded deliveries

A delivery is recorded under its provider and its id, with the verdict on its signature. A
record stays, and a delivery that finds one does nothing.
-/

namespace Exetron.Payments

open Lib List Tx Table

variable {providerKey deliveryId : String} {db db' : Db} {env : Env}
  {result : PaymentWebhookEvent × Option Id} {dto : ReceivePaymentWebhookDto}
  {webhook : PaymentWebhookResolution} {eventId : Id}

def stamp (event : PaymentWebhookEvent) : String × String × Bool :=
  (event.providerKey, event.deliveryId, event.signatureValid)

def stamps (db : Db) : List (String × String × Bool) := db.payments.webhookEvents.map stamp

theorem findDelivery_some {event : PaymentWebhookEvent}
    (h : findDelivery providerKey deliveryId db = some event) :
    stamp event ∈ stamps db ∧ stamp event = (providerKey, deliveryId, event.signatureValid) := by
  have matched := find?_some h
  simp only [decide_eq_true_eq] at matched
  refine ⟨mem_map_of_mem (mem_of_find?_eq_some h), ?_⟩
  rw [stamp, matched.1, matched.2]

theorem findDelivery_of_stamp {valid : Bool}
    (recorded : (providerKey, deliveryId, valid) ∈ stamps db) :
    ∃ event, findDelivery providerKey deliveryId db = some event := by
  obtain ⟨event, stored, same⟩ := mem_map.mp recorded
  simp only [stamp, Prod.mk.injEq] at same
  rw [← Option.isSome_iff_exists, findDelivery, find?_isSome]
  exact ⟨event, stored, decide_eq_true ⟨same.1, same.2.1⟩⟩

theorem stamps_update {id : Id} {f : PaymentWebhookEvent → PaymentWebhookEvent}
    {event : PaymentWebhookEvent} (h : paymentWebhookEvents.update id f db = .ok (event, db'))
    (keeps : ∀ e, stamp (f e) = stamp e) : stamps db' = stamps db := by
  obtain ⟨_, _, _, rfl⟩ := update_ok_iff.mp h
  exact Rows.map_modify keeps db.payments.webhookEvents

theorem stamps_refreshIntent {intentId : Id} {loaded : LoadedPaymentIntent}
    (h : refreshIntent intentId db = .ok (loaded, db')) : stamps db' = stamps db := by
  simp only [refreshIntent, bind_ok_iff, read_ok_iff, update_ok_iff, pure_ok_iff] at h
  obtain ⟨_, _, ⟨_, rfl⟩, _, _, ⟨_, _, rfl, rfl⟩, rfl, rfl⟩ := h
  rfl

theorem stamps_deliver {config : PaymentProviderConfig}
    (h : deliver env providerKey config webhook eventId db = .ok (result, db')) :
    stamps db' = stamps db := by
  have finished : ∀ {event : PaymentWebhookEvent} {m m' : Db},
      finishDelivery env providerKey config webhook eventId m = .ok (event, m') →
        stamps m' = stamps m := by
    intro event m m' h
    obtain ⟨_, _, logged, h⟩ := bind_ok h
    have kept := stamps_update h fun _ => rfl
    rw [kept, log_ok_iff.mp logged]
    rfl
  simp only [deliver, bind_ok_iff, read_ok_iff] at h
  obtain ⟨meaning, _, ⟨_, rfl⟩, h⟩ := h
  rcases meaning with reason | externalReference | operation
  · simp only [bind_ok_iff, pure_ok_iff] at h
    obtain ⟨_, _, failed, _, rfl⟩ := h
    exact stamps_update failed fun _ => rfl
  · simp only [bind_ok_iff, pure_ok_iff, applyToAttempt, update_ok_iff] at h
    obtain ⟨_, _, ⟨_, _, ⟨_, _, rfl, rfl⟩, _, _, ⟨_, _, rfl, rfl⟩, refreshes⟩, _, _, finish, _,
      rfl⟩ := h
    rw [finished finish, stamps_refreshIntent refreshes]
    rfl
  · simp only [bind_ok_iff, pure_ok_iff] at h
    obtain ⟨_, _, applied, _, _, finish, _, rfl⟩ := h
    rw [finished finish, applyToOperation_ok applied]
    rfl

def stampOf (env : Env) (providerKey : String) (dto : ReceivePaymentWebhookDto) (db : Db) :
    List (String × String × Bool) :=
  match findDelivery providerKey dto.deliveryId db, readDelivery env providerKey dto db with
  | none, .ok (_, webhook) => [(providerKey, dto.deliveryId, webhook.signatureValid)]
  | _, _ => []

theorem receiveWebhookTx_stamps (h : receiveWebhookTx env providerKey dto db = .ok (result, db')) :
    stamps db' = stamps db ++ stampOf env providerKey dto db := by
  simp only [receiveWebhookTx, bind_ok_iff, read_ok_iff] at h
  obtain ⟨existing, _, ⟨found, rfl⟩, h⟩ := h
  replace found := Except.ok.inj found
  cases existing with
  | some event =>
    obtain ⟨_, rfl⟩ := pure_ok_iff.mp h
    simp only [stampOf, found, append_nil]
  | none =>
    simp only [bind_ok_iff, read_ok_iff, freshId_ok_iff, create_ok_iff] at h
    obtain ⟨⟨config, webhook⟩, _, ⟨meaning, rfl⟩, _, _, ⟨rfl, rfl⟩, _, _, ⟨rfl, rfl⟩, h⟩ := h
    have created : ∀ event : PaymentWebhookEvent, ∀ m : Db,
        stamps (paymentWebhookEvents.put (paymentWebhookEvents.rows m ++ [event]) m) =
          stamps m ++ [stamp event] := fun _ _ => map_append
    simp only [stampOf, found, meaning]
    split at h
    · rw [stamps_deliver h, created]
      rfl
    · obtain ⟨_, rfl⟩ := pure_ok_iff.mp h
      exact created _ _

theorem stamped_of_receiveWebhookTx
    (h : receiveWebhookTx env providerKey dto db = .ok (result, db')) :
    ∃ valid, (providerKey, dto.deliveryId, valid) ∈ stamps db' := by
  rw [receiveWebhookTx_stamps h]
  cases found : findDelivery providerKey dto.deliveryId db with
  | some event =>
    obtain ⟨recorded, same⟩ := findDelivery_some found
    rw [same] at recorded
    exact ⟨_, mem_append_left _ recorded⟩
  | none =>
    simp only [receiveWebhookTx, bind_ok_iff, read_ok_iff] at h
    obtain ⟨_, _, ⟨read, rfl⟩, h⟩ := h
    obtain rfl := found.symm.trans (Except.ok.inj read)
    simp only [bind_ok_iff, read_ok_iff] at h
    obtain ⟨⟨_, webhook⟩, _, ⟨meaning, rfl⟩, _⟩ := h
    refine ⟨webhook.signatureValid, mem_append_right _ ?_⟩
    simp [stampOf, found, meaning]

/-- The records a request adds. -/
def newStamps (db : Db) (r : Request) : List (String × String × Bool) :=
  match r.call with
  | .receiveWebhook providerKey dto =>
    match receiveWebhookTx r.env providerKey dto db with
    | .ok _ => stampOf r.env providerKey dto db
    | .error _ => []
  | _ => []

theorem stamps_of_kept (kept : PaymentsKept db db') : stamps db' = stamps db := by
  rw [stamps, kept.payments, stamps]

theorem receiveWebhook_stamps {m : Db}
    (h : receiveWebhookTx env providerKey dto db = .ok (result, m)) :
    stamps (Call.exec (receiveWebhook env providerKey dto) db).2 =
      stamps db ++ stampOf env providerKey dto db := by
  have committed := receiveWebhookTx_stamps h
  rcases receiveWebhook_of_ok h with after | ⟨orderId, after⟩
  · rw [after]
    exact committed
  · rw [after, stamps_of_kept (transitionOrder_paymentsKept env _ orderId _ _)]
    exact committed

theorem step_stamps (consistent : Consistent db.payments db.nextId) (r : Request) :
    stamps (step db r) = stamps db ++ newStamps db r := by
  obtain ⟨env, context, call⟩ := r
  cases call with
  | receiveWebhook providerKey dto =>
    cases h : receiveWebhookTx env providerKey dto db with
    | error e => simp only [step, receiveWebhook_of_error h, newStamps, h, append_nil]
    | ok answer =>
      simp only [step, newStamps, h]
      exact receiveWebhook_stamps h
  | createIntent dto =>
    refine (Call.transact_related (R := fun _ db' => stamps db' = stamps db) rfl
      fun created db' h => ?_).trans (append_nil _).symm
    obtain ⟨_, _, _, _, _, rfl⟩ := createIntentTx_ok h
    rfl
  | processAllocation intentId allocationId providerKey =>
    refine Eq.trans ?_ (append_nil _).symm
    cases h : processAllocationTx env context intentId allocationId providerKey db with
    | error e => simp only [step, processAllocation_of_error h]
    | ok answer =>
      obtain ⟨a, _, _, same, _⟩ := processAllocationTx_ok consistent h
      have kept : stamps answer.2 = stamps db := by
        rw [stamps, same, answered]
        split <;> rfl
      rcases processAllocation_of_ok h with after | ⟨orderId, after⟩
      · simp only [step, after]
        exact kept
      · simp only [step, after]
        rw [stamps_of_kept (transitionOrder_paymentsKept env context orderId _ _)]
        exact kept
  | cancelIntent intentId =>
    refine (Call.transact_related (R := fun _ db' => stamps db' = stamps db) rfl
      fun _ db' h => ?_).trans (append_nil _).symm
    obtain ⟨_, _, _, rfl⟩ := cancelIntentTx_ok h
    rfl
  | createOperation dto =>
    refine (Call.transact_related (R := fun _ db' => stamps db' = stamps db) rfl
      fun _ db' h => ?_).trans (append_nil _).symm
    obtain ⟨_, _, _, _, rfl⟩ := createOperationTx_ok consistent h
    rfl
  | checkout cartId dto =>
    exact (stamps_of_kept (checkout_paymentsKept env context cartId dto db)).trans
      (append_nil _).symm
  | transitionOrder orderId dto =>
    exact (stamps_of_kept (transitionOrder_paymentsKept env context orderId dto db)).trans
      (append_nil _).symm
  | transitionTicket ticketId dto =>
    exact (stamps_of_kept (transitionTicket_paymentsKept env context ticketId dto db)).trans
      (append_nil _).symm
  | elsewhere setup carts => exact (append_nil _).symm

/-- Intents and operations are for orders that exist. -/
structure Ordered (db : Db) : Prop where
  intents : ∀ i ∈ db.payments.intents, i.orderId ∈ db.orders.map Order.id
  operations : ∀ o ∈ db.payments.operations, o.orderId ∈ db.orders.map Order.id

theorem refreshIntent_succeeds {intentId : Id}
    (stored : intentId ∈ db.payments.intents.map PaymentIntent.id)
    (ordered : ∀ i ∈ db.payments.intents, i.orderId ∈ db.orders.map Order.id) :
    ∃ loaded db', refreshIntent intentId db = .ok (loaded, db') := by
  obtain ⟨i, found⟩ := Rows.exists_find_iff.mpr stored
  obtain ⟨listed, same⟩ := Rows.find_some found
  obtain ⟨order, ordered⟩ := Rows.exists_find_iff.mpr (ordered i listed)
  have load : loadIntent intentId db = .ok ⟨i, allocationsOf db.payments i.id, order⟩ := by
    simp only [loadIntent, except_bind_ok_iff, except_pure_ok_iff, findUniqueOrThrow_ok_iff]
    exact ⟨i, found, order, ordered, rfl⟩
  refine bind_succeeds ⟨_, db, read_ok_iff.mpr ⟨load, rfl⟩⟩ fun loaded u read => ?_
  obtain ⟨load', rfl⟩ := read_ok_iff.mp read
  obtain rfl := Except.ok.inj (load.symm.trans load')
  refine bind_succeeds (update_succeeds_iff.mpr ?_) fun _ _ _ => ⟨_, _, rfl⟩
  exact mem_map_of_mem listed

theorem applyToAttempt_succeeds (env : Env) (providerKey externalReference : String)
    (webhook : PaymentWebhookResolution) {attempt : PaymentAttempt} {n : Id}
    (consistent : Consistent db.payments n) (stored : attempt ∈ db.payments.attempts)
    (ordered : ∀ i ∈ db.payments.intents, i.orderId ∈ db.orders.map Order.id) : ∃ loaded db',
      applyToAttempt env providerKey externalReference webhook attempt db = .ok (loaded, db') := by
  obtain ⟨a, listed, same, owner⟩ := consistent.allocation_of_attempt stored
  obtain ⟨i, listedIntent, sameIntent⟩ := consistent.intent_of_allocation listed
  refine bind_succeeds (update_succeeds_iff.mpr (mem_map_of_mem stored)) ?_
  intro _ u settled
  obtain ⟨_, _, _, rfl⟩ := update_ok_iff.mp settled
  refine bind_succeeds (update_succeeds_iff.mpr ?_) fun _ u settled => ?_
  · exact mem_map.mpr ⟨a, listed, same⟩
  obtain ⟨_, _, _, rfl⟩ := update_ok_iff.mp settled
  exact refreshIntent_succeeds (mem_map.mpr ⟨i, listedIntent, sameIntent.trans owner⟩) ordered

theorem finishDelivery_succeeds (env : Env) (providerKey : String) (config : PaymentProviderConfig)
    (webhook : PaymentWebhookResolution)
    (stored : eventId ∈ db.payments.webhookEvents.map PaymentWebhookEvent.id) :
    ∃ event db', finishDelivery env providerKey config webhook eventId db = .ok (event, db') := by
  refine bind_succeeds ⟨(), _, log_ok_iff.mpr rfl⟩ fun _ u logged => ?_
  obtain rfl := log_ok_iff.mp logged
  exact update_succeeds_iff.mpr stored

theorem deliver_succeeds (env : Env) (config : PaymentProviderConfig) {n : Id} {delivery : Delivery}
    (consistent : Consistent db.payments n) (ordered : Ordered db)
    (recorded : eventId ∈ db.payments.webhookEvents.map PaymentWebhookEvent.id)
    (addressed : addressee providerKey webhook db = .ok delivery) :
    ∃ result db', deliver env providerKey config webhook eventId db = .ok (result, db') := by
  have stored := addressee_stored addressed
  refine bind_succeeds ⟨_, db, rfl⟩ fun meaning u read => ?_
  obtain ⟨same, rfl⟩ := read_ok_iff.mp read
  obtain rfl := (Except.ok.inj same).symm.trans addressed
  cases delivery with
  | attempt externalReference attempt =>
    refine bind_succeeds (applyToAttempt_succeeds env providerKey externalReference webhook
      consistent stored.1 ordered.intents) fun loaded u applied => ?_
    obtain rfl := applyToAttempt_ok consistent applied
    exact bind_succeeds (finishDelivery_succeeds env providerKey config webhook recorded)
      fun _ _ _ => ⟨_, _, rfl⟩
  | operation operation =>
    have applies : ∃ u db', applyToOperation env webhook operation db = .ok (u, db') := by
      refine bind_succeeds (update_succeeds_iff.mpr (mem_map_of_mem stored)) ?_
      intro _ u settled
      obtain ⟨_, _, _, rfl⟩ := update_ok_iff.mp settled
      exact bind_succeeds (update_succeeds_iff.mpr (ordered.operations operation stored))
        fun _ _ _ => ⟨_, _, rfl⟩
    refine bind_succeeds applies fun _ u applied => ?_
    obtain rfl := applyToOperation_ok applied
    exact bind_succeeds (finishDelivery_succeeds env providerKey config webhook recorded)
      fun _ _ _ => ⟨_, _, rfl⟩

theorem receiveWebhookTx_succeeds {delivery : Delivery}
    (consistent : Consistent db.payments db.nextId) (ordered : Ordered db)
    (accepted : acceptDelivery env providerKey dto db = some (webhook, delivery)) :
    ∃ result db', receiveWebhookTx env providerKey dto db = .ok (result, db') := by
  have addressed := acceptDelivery_ok accepted
  unfold acceptDelivery at accepted
  split at accepted
  · rename_i config webhook' found meaning
    split at accepted
    · rename_i signed
      obtain ⟨_, _, same⟩ := Option.map_eq_some_iff.mp accepted
      obtain ⟨rfl, _⟩ := Prod.mk.inj same
      refine bind_succeeds ⟨_, db, rfl⟩ fun existing u read => ?_
      obtain ⟨same, rfl⟩ := read_ok_iff.mp read
      obtain rfl := (Except.ok.inj same).symm.trans found
      refine bind_succeeds ⟨_, db, read_ok_iff.mpr ⟨meaning, rfl⟩⟩ fun read u again => ?_
      obtain ⟨same, rfl⟩ := read_ok_iff.mp again
      obtain rfl := Except.ok.inj (meaning.symm.trans same)
      refine bind_succeeds ⟨_, _, rfl⟩ fun id u fresh => ?_
      obtain ⟨rfl, rfl⟩ := freshId_ok_iff.mp fresh
      refine bind_succeeds ⟨_, _, create_ok_iff.mpr ⟨rfl, rfl⟩⟩ fun event u made => ?_
      obtain ⟨rfl, rfl⟩ := create_ok_iff.mp made
      simp only [signed, if_true]
      refine deliver_succeeds (n := db.nextId) env config (by exact consistent)
        ⟨ordered.intents, ordered.operations⟩ ?_ addressed
      show _ ∈ map _ (db.payments.webhookEvents ++ [_])
      rw [map_append]
      exact mem_append_right _ (mem_singleton_self _)
    · cases accepted
  · cases accepted

def redelivers (providerKey deliveryId : String) (r : Request) : Bool :=
  match r.call with
  | .receiveWebhook key dto => key = providerKey ∧ dto.deliveryId = deliveryId
  | _ => false

theorem step_redelivery {valid : Bool} {r : Request}
    (recorded : (providerKey, deliveryId, valid) ∈ stamps db)
    (again : redelivers providerKey deliveryId r = true) : step db r = db := by
  obtain ⟨env, context, call⟩ := r
  cases call with
  | receiveWebhook key dto =>
    obtain ⟨rfl, rfl⟩ := of_decide_eq_true again
    obtain ⟨event, found⟩ := findDelivery_of_stamp recorded
    have answer : receiveWebhookTx env key dto db = .ok ((event, none), db) := by
      simp only [receiveWebhookTx, bind_ok_iff, read_ok_iff]
      refine ⟨some event, db, ⟨by rw [found], rfl⟩, ?_⟩
      exact pure_ok_iff.mpr ⟨rfl, rfl⟩
    simp only [step, receiveWebhook, Call.exec_bind, Call.transact_ok answer]
    rfl
  | _ => cases again

/-- Once a delivery is committed, repeats of it may be left out of whatever follows: the whole
database is the same without them. -/
theorem redeliveries_change_nothing {db : Db} (init : Initial db) (rs : List Request) {r : Request}
    {providerKey : String} {dto : ReceivePaymentWebhookDto}
    (delivery : r.call = .receiveWebhook providerKey dto)
    (committed : ∃ answer, receiveWebhookTx r.env providerKey dto (run db rs) = .ok answer)
    (later : List Request) : run db (rs ++ r :: later) =
      run db (rs ++ r :: later.filter fun q => !redelivers providerKey dto.deliveryId q) := by
  obtain ⟨⟨result, m⟩, committed⟩ := committed
  obtain ⟨valid, recorded⟩ := stamped_of_receiveWebhookTx committed
  have consistent := consistent_run init rs
  have recorded' : (providerKey, dto.deliveryId, valid) ∈ stamps (step (run db rs) r) := by
    have committedStamps := receiveWebhookTx_stamps committed
    rw [step_stamps consistent r, newStamps, delivery]
    simp only [committed]
    rw [← committedStamps]
    exact recorded
  have keeps : ∀ (db : Db) (q : Request), Consistent db.payments db.nextId ∧
      (providerKey, dto.deliveryId, valid) ∈ stamps db →
        Consistent (step db q).payments (step db q).nextId ∧
          (providerKey, dto.deliveryId, valid) ∈ stamps (step db q) := by
    intro db q inv
    refine ⟨step_consistent inv.1 q, ?_⟩
    rw [step_stamps inv.1 q]
    exact List.mem_append_left _ inv.2
  rw [run, Trace.run_append, Trace.run_append]
  refine (Trace.run_filter keeps (fun db q inv again => ?_)
    ⟨step_consistent consistent r, recorded'⟩ later).symm
  exact step_redelivery inv.2 (by simpa using again)

def awaitingTerminal : List Request :=
  [cashierAt 1 (.checkout 50 {}),
   cashierAt 2 (.createIntent { storeId := 2, orderId := 100, allocations := [⟨.card, 1000⟩] }),
   cashierAt 3 (.processAllocation 103 104 (some "terminal"))]

theorem redeliveries_change_nothing_terminal :
    run shop (awaitingTerminal ++ cashierAt 4 (terminalReports 3 "delivery-1" "SUCCEEDED") ::
        [cashierAt 5 (terminalReports 3 "delivery-1" "FAILED"),
         cashierAt 6 (.transitionOrder 100 { toStatus := .confirmed }),
         cashierAt 7 (terminalReports 3 "delivery-1" "SUCCEEDED")]) =
      run shop (awaitingTerminal ++ cashierAt 4 (terminalReports 3 "delivery-1" "SUCCEEDED") ::
        [cashierAt 6 (.transitionOrder 100 { toStatus := .confirmed })]) := by
  refine redeliveries_change_nothing (r := cashierAt 4 (terminalReports 3 "delivery-1" "SUCCEEDED"))
    shop_initial awaitingTerminal rfl (exists_ok_of_toBool ?_) _
  decide +kernel

end Exetron.Payments
