import Exetron.Lib.Relational
import Exetron.Payments.Deliveries

/-!
# Forged deliveries

Two runs of deliveries, one with the forged ones and one without. A forged delivery is recorded
under its key; what it leaves is seen only by a genuine delivery under the same key.
-/

namespace Exetron.Payments

open Lib List Tx Table

variable {s t db db' : Db} {env : Env} {providerKey : String}

/-- Two databases that agree on the configuration, the orders, the payments and on which orders
have tickets. -/
structure Alike (s t : Db) : Prop where
  setup : s.setup = t.setup
  orders : s.orders = t.orders
  ticketed : s.kitchenTickets.map KitchenTicket.orderId =
    t.kitchenTickets.map KitchenTicket.orderId
  intents : s.payments.intents = t.payments.intents
  allocations : s.payments.allocations = t.payments.allocations
  attempts : s.payments.attempts = t.payments.attempts
  operations : s.payments.operations = t.payments.operations

theorem alike_equivalence : Equivalence Alike where
  refl _ := ⟨rfl, rfl, rfl, rfl, rfl, rfl, rfl⟩
  symm h := ⟨h.setup.symm, h.orders.symm, h.ticketed.symm, h.intents.symm, h.allocations.symm,
    h.attempts.symm, h.operations.symm⟩
  trans h h' := ⟨h.setup.trans h'.setup, h.orders.trans h'.orders, h.ticketed.trans h'.ticketed,
    h.intents.trans h'.intents, h.allocations.trans h'.allocations, h.attempts.trans h'.attempts,
    h.operations.trans h'.operations⟩

def AlikeWith (id id' : Id) (s t : Db) : Prop :=
  Alike s t ∧ id ∈ s.payments.webhookEvents.map PaymentWebhookEvent.id ∧
    id' ∈ t.payments.webhookEvents.map PaymentWebhookEvent.id

theorem keeps_log (f : Logs → Logs) : Tx.Keeps Alike (log f) :=
  keeps_write fun _ => ⟨rfl, rfl, rfl, rfl, rfl, rfl, rfl⟩

theorem related_log (f g : Logs → Logs) (id id' : Id) :
    Tx.Related (AlikeWith id id') (log f) (log g) fun a b s t => a = b ∧ AlikeWith id id' s t := by
  intro s t h
  refine Or.inr ⟨(), (), _, _, rfl, rfl, rfl, ?_, h.2⟩
  exact ⟨h.1.setup, h.1.orders, h.1.ticketed, h.1.intents, h.1.allocations, h.1.attempts,
    h.1.operations⟩

section
variable {id id' : Id}

theorem related_updateAttempt (k : Id) (f : PaymentAttempt → PaymentAttempt) :
    Tx.Related (AlikeWith id id') (paymentAttempts.update k f) (paymentAttempts.update k f)
      fun a b s t => a = b ∧ AlikeWith id id' s t :=
  related_update (fun _ _ h => h.1.attempts)
    (fun _ _ _ h => ⟨{ h.1 with attempts := rfl }, h.2⟩) k f

theorem related_updateAllocation (k : Id) (f : PaymentAllocation → PaymentAllocation) :
    Tx.Related (AlikeWith id id') (paymentAllocations.update k f) (paymentAllocations.update k f)
      fun a b s t => a = b ∧ AlikeWith id id' s t :=
  related_update (fun _ _ h => h.1.allocations)
    (fun _ _ _ h => ⟨{ h.1 with allocations := rfl }, h.2⟩) k f

theorem related_updateIntent (k : Id) (f : PaymentIntent → PaymentIntent) :
    Tx.Related (AlikeWith id id') (paymentIntents.update k f) (paymentIntents.update k f)
      fun a b s t => a = b ∧ AlikeWith id id' s t :=
  related_update (fun _ _ h => h.1.intents)
    (fun _ _ _ h => ⟨{ h.1 with intents := rfl }, h.2⟩) k f

theorem related_updateOperation (k : Id) (f : PaymentOperation → PaymentOperation) :
    Tx.Related (AlikeWith id id') (paymentOperations.update k f) (paymentOperations.update k f)
      fun a b s t => a = b ∧ AlikeWith id id' s t :=
  related_update (fun _ _ h => h.1.operations)
    (fun _ _ _ h => ⟨{ h.1 with operations := rfl }, h.2⟩) k f

theorem related_updateOrder {P : Db → Db → Prop} (alike : ∀ s t, P s t → s.orders = t.orders)
    (puts : ∀ s t rows, P s t → P { s with orders := rows } { t with orders := rows }) (k : Id)
    (f : Order → Order) :
    Tx.Related P (orders.update k f) (orders.update k f) fun a b s t => a = b ∧ P s t :=
  related_update alike puts k f

theorem related_updateEvent (f : PaymentWebhookEvent → PaymentWebhookEvent) :
    Tx.Related (AlikeWith id id') (paymentWebhookEvents.update id f)
      (paymentWebhookEvents.update id' f) fun _ _ s t => Alike s t := by
  intro s t h
  obtain ⟨alike, left, right⟩ := h
  obtain ⟨a, s', ha⟩ := update_succeeds_iff (t := paymentWebhookEvents) (f := f).mpr left
  obtain ⟨b, t', hb⟩ := update_succeeds_iff (t := paymentWebhookEvents) (f := f).mpr right
  refine Or.inr ⟨a, b, s', t', ha, hb, ?_⟩
  obtain ⟨_, _, _, rfl⟩ := update_ok_iff.mp ha
  obtain ⟨_, _, _, rfl⟩ := update_ok_iff.mp hb
  exact ⟨alike.setup, alike.orders, alike.ticketed, alike.intents, alike.allocations,
    alike.attempts, alike.operations⟩

theorem loadIntent_alike (alike : Alike s t) (intentId : Id) :
    loadIntent intentId s = loadIntent intentId t := by
  have intents : paymentIntents.findUniqueOrThrow intentId s =
      paymentIntents.findUniqueOrThrow intentId t := by
    simp only [findUniqueOrThrow, findUnique, paymentIntents, alike.intents]
  have ordered : ∀ orderId, orders.findUniqueOrThrow orderId s =
      orders.findUniqueOrThrow orderId t := fun orderId => by
    simp only [findUniqueOrThrow, findUnique, orders, alike.orders]
  simp only [loadIntent, intents, ordered, allocationsOf, alike.allocations]

theorem related_refreshIntent (intentId : Id) :
    Tx.Related (AlikeWith id id') (refreshIntent intentId) (refreshIntent intentId)
      fun a b s t => a = b ∧ AlikeWith id id' s t := by
  refine related_bind_eq (related_read fun s t h => loadIntent_alike h.1 intentId) ?_
  intro loaded
  exact related_bind_eq (related_updateIntent _ _) fun _ =>
    related_pure fun s t h => ⟨rfl, h⟩

theorem related_applyToAttempt (env : Env) (providerKey externalReference : String)
    (webhook : PaymentWebhookResolution) (attempt : PaymentAttempt) : Tx.Related (AlikeWith id id')
      (applyToAttempt env providerKey externalReference webhook attempt)
      (applyToAttempt env providerKey externalReference webhook attempt)
      fun a b s t => a = b ∧ AlikeWith id id' s t :=
  related_bind_eq (related_updateAttempt _ _) fun _ =>
    related_bind_eq (related_updateAllocation _ _) fun _ => related_refreshIntent _

theorem related_applyToOperation (env : Env) (webhook : PaymentWebhookResolution)
    (operation : PaymentOperation) :
    Tx.Related (AlikeWith id id') (applyToOperation env webhook operation)
      (applyToOperation env webhook operation) fun a b s t => a = b ∧ AlikeWith id id' s t := by
  refine related_bind_eq (related_updateOperation _ _) fun _ => ?_
  refine related_bind_eq (related_updateOrder (fun s t h => h.1.orders) ?_ _ _) fun _ => ?_
  · exact fun s t rows h => ⟨{ h.1 with orders := rfl }, h.2⟩
  · exact related_pure fun s t h => ⟨rfl, h⟩

theorem related_finishDelivery (env : Env) (providerKey : String) (config : PaymentProviderConfig)
    (webhook : PaymentWebhookResolution) :
    Tx.Related (AlikeWith id id') (finishDelivery env providerKey config webhook id)
      (finishDelivery env providerKey config webhook id') fun _ _ s t => Alike s t :=
  related_bind_eq (related_log _ _ id id') fun _ => related_updateEvent _

theorem related_deliver (env : Env) (providerKey : String) (config : PaymentProviderConfig)
    (webhook : PaymentWebhookResolution) :
    Tx.Related (AlikeWith id id') (deliver env providerKey config webhook id)
      (deliver env providerKey config webhook id') fun a b s t => a.2 = b.2 ∧ Alike s t := by
  have addressed : ∀ s t, AlikeWith id id' s t →
      addressee providerKey webhook s = addressee providerKey webhook t := by
    intro s t h
    simp only [addressee, findAttempt, findOperation, h.1.attempts, h.1.operations]
  refine related_bind_eq (related_read fun s t h => congrArg _ (addressed s t h)) ?_
  rintro (reason | externalReference | operation)
  · exact related_bind (related_updateEvent _) fun _ _ =>
      related_pure fun s t h => ⟨rfl, h⟩
  · refine related_bind_eq (related_applyToAttempt env providerKey _ webhook _) fun loaded => ?_
    exact related_bind (related_finishDelivery env providerKey config webhook) fun _ _ =>
      related_pure fun s t h => ⟨rfl, h⟩
  · refine related_bind_eq (related_applyToOperation env webhook operation) fun _ => ?_
    exact related_bind (related_finishDelivery env providerKey config webhook) fun _ _ =>
      related_pure fun s t h => ⟨rfl, h⟩

end

theorem related_receiveWebhookTx (env : Env) (providerKey : String)
    (dto : ReceivePaymentWebhookDto) : Tx.Related
      (fun s t => Alike s t ∧ findDelivery providerKey dto.deliveryId s = none ∧
        findDelivery providerKey dto.deliveryId t = none)
      (receiveWebhookTx env providerKey dto) (receiveWebhookTx env providerKey dto)
      fun a b s t => a.2 = b.2 ∧ Alike s t := by
  refine related_bind (Q := fun a b s t => a = none ∧ b = none ∧ Alike s t) ?_ ?_
  · rintro s t ⟨alike, left, right⟩
    exact Or.inr ⟨_, _, s, t, rfl, rfl, left, right, alike⟩
  rintro a b s t ⟨rfl, rfl, alike⟩
  revert s t alike
  refine related_bind_eq (P := Alike) (Q := Alike) (related_read fun s t alike => ?_) fun read => ?_
  · simp only [readDelivery, alike.setup]
  obtain ⟨config, webhook⟩ := read
  refine related_bind (Q := fun _ _ => Alike) ?_ fun id id' => ?_
  · rintro s t ⟨_, _, _, _, _, _, _⟩
    exact Or.inr ⟨_, _, _, _, rfl, rfl, ⟨‹_›, ‹_›, ‹_›, ‹_›, ‹_›, ‹_›, ‹_›⟩⟩
  refine related_bind (Q := fun e e' => AlikeWith e.id e'.id) ?_ fun event event' => ?_
  · intro s t alike
    refine Or.inr ⟨_, _, _, _, rfl, rfl, ?_, ?_, ?_⟩
    · exact ⟨alike.setup, alike.orders, alike.ticketed, alike.intents, alike.allocations,
        alike.attempts, alike.operations⟩
    all_goals exact mem_map_of_mem (mem_append_right _ (mem_singleton_self _))
  by_cases signed : webhook.signatureValid = true
  · simp only [signed, if_true]
    exact related_deliver env providerKey config webhook
  · simp only [signed]
    exact related_pure fun s t h => ⟨rfl, h.1⟩

theorem keeps_recordEverywhere (context : RequestContext) (order : Order)
    (name entityType : String) (entityId : Id) :
    Tx.Keeps Alike (Orders.recordEverywhere context order name entityType entityId) :=
  keeps_bind alike_equivalence (keeps_log _) fun _ =>
    keeps_bind alike_equivalence (keeps_log _) fun _ => keeps_log _

theorem keeps_enqueueStorefrontCustomerUpdates (order : Order) (templateKey : Option String) :
    Tx.Keeps Alike (Orders.enqueueStorefrontCustomerUpdates order templateKey) := by
  have nothing : Tx.Keeps Alike (pure () : Transaction Unit) := keeps_pure alike_equivalence ()
  unfold Orders.enqueueStorefrontCustomerUpdates
  split
  · refine keeps_bind alike_equivalence (keeps_log _) fun _ => ?_
    refine keeps_bind alike_equivalence (keeps_log _) fun _ => ?_
    split
    · exact keeps_bind alike_equivalence (keeps_log _) fun _ => keeps_log _
    · exact nothing
  · exact nothing

theorem related_createStationTicket (context : RequestContext) (order : Order)
    (group : Kitchen.StationKey × List LineItem) :
    Tx.Related Alike (Orders.createStationTicket context order group)
      (Orders.createStationTicket context order group) fun _ _ s t => Alike s t := by
  obtain ⟨stationKey, items⟩ := group
  cases stationKey with
  | text stationKey =>
    refine related_bind (Q := fun _ _ => Alike) ?_ fun id id' => ?_
    · rintro s t ⟨_, _, _, _, _, _, _⟩
      exact Or.inr ⟨_, _, _, _, rfl, rfl, ⟨‹_›, ‹_›, ‹_›, ‹_›, ‹_›, ‹_›, ‹_›⟩⟩
    refine related_bind (Q := fun _ _ => Alike) ?_ fun ticket ticket' =>
      related_of_keeps alike_equivalence (keeps_recordEverywhere _ _ _ _ _)
        (keeps_recordEverywhere _ _ _ _ _)
    intro s t alike
    refine Or.inr ⟨_, _, _, _, rfl, rfl, { alike with ticketed := ?_ }⟩
    show map _ (s.kitchenTickets ++ [_]) = map _ (t.kitchenTickets ++ [_])
    rw [map_append, map_append, alike.ticketed]
    rfl
  | inherited name => exact fun s t _ => Or.inl ⟨_, rfl, rfl⟩

theorem related_createKitchenTicketsForOrder (context : RequestContext) (order : Order) :
    Tx.Related Alike (Orders.createKitchenTicketsForOrder context order)
      (Orders.createKitchenTicketsForOrder context order) fun _ _ s t => Alike s t := by
  have counted (db : Db) : (db.kitchenTickets.countP fun ticket => ticket.orderId = order.id) =
      (db.kitchenTickets.map KitchenTicket.orderId).countP (· = order.id) := by
    rw [countP_map]
    rfl
  refine related_bind_eq (related_read fun s t alike => ?_) fun existing => ?_
  · rw [counted, counted, alike.ticketed]
  split
  · exact related_pure fun _ _ alike => alike
  · refine related_bind_eq (related_read fun s t alike => ?_) fun grouped => ?_
    · rw [alike.setup]
    · exact related_forM (related_createStationTicket context order) grouped

theorem related_confirm (env : Env) (context : RequestContext) (orderId : Id)
    (dto : Orders.TransitionOrderDto) (confirms : dto.toStatus = .confirmed) :
    Tx.Related Alike (Orders.transitionOrderTx env context orderId dto)
      (Orders.transitionOrderTx env context orderId dto) fun _ _ s t => Alike s t := by
  refine related_bind_eq (related_read fun s t alike => ?_) fun current => ?_
  · simp only [Orders.admitTransition, findUniqueOrThrow, findUnique, orders, alike.orders]
  refine related_bind_eq (related_updateOrder (fun _ _ alike => alike.orders) ?_ _ _) ?_
  · exact fun s t rows alike => { alike with orders := rfl }
  intro order
  refine related_bind (related_of_keeps alike_equivalence (keeps_recordEverywhere _ _ _ _ _)
    (keeps_recordEverywhere _ _ _ _ _)) fun _ _ => ?_
  refine related_bind (related_of_keeps alike_equivalence
    (keeps_enqueueStorefrontCustomerUpdates _ _) (keeps_enqueueStorefrontCustomerUpdates _ _))
    fun _ _ => ?_
  refine related_bind (Q := fun _ _ => Alike) ?_ fun _ _ =>
    related_pure fun _ _ alike => alike
  rw [confirms]
  exact related_bind (related_of_keeps alike_equivalence (keeps_recordEverywhere _ _ _ _ _)
    (keeps_recordEverywhere _ _ _ _ _)) fun _ _ => related_createKitchenTicketsForOrder _ _

structure WebhookRequest where
  env : Env
  providerKey : String
  dto : ReceivePaymentWebhookDto

def receive (db : Db) (w : WebhookRequest) : Db :=
  (Call.exec (receiveWebhook w.env w.providerKey w.dto) db).2

/-- The request finds a provider configuration, and its signature is right under it. -/
def verifies (db : Db) (w : WebhookRequest) : Bool :=
  match readDelivery w.env w.providerKey w.dto db with
  | .ok (_, webhook) => webhook.signatureValid
  | .error _ => false

theorem verifies_setup (same : s.setup = t.setup) : verifies s = verifies t := by
  funext w
  simp only [verifies, readDelivery, same]

/-- A request whose signature is right finds no forged delivery under its key. -/
def Unobstructed (db : Db) (w : WebhookRequest) : Prop :=
  verifies db w = true →
    (findDelivery w.providerKey w.dto.deliveryId db).all PaymentWebhookEvent.signatureValid = true

instance (db : Db) (w : WebhookRequest) : Decidable (Unobstructed db w) :=
  inferInstanceAs (Decidable (_ → _))

theorem setup_refreshIntent {intentId : Id} {loaded : LoadedPaymentIntent}
    (h : refreshIntent intentId db = .ok (loaded, db')) : db'.setup = db.setup := by
  simp only [refreshIntent, bind_ok_iff, read_ok_iff, update_ok_iff, pure_ok_iff] at h
  obtain ⟨_, _, ⟨_, rfl⟩, _, _, ⟨_, _, rfl, rfl⟩, rfl, rfl⟩ := h
  rfl

theorem setup_deliver {config : PaymentProviderConfig} {webhook : PaymentWebhookResolution}
    {eventId : Id} {result : PaymentWebhookEvent × Option Id}
    (h : deliver env providerKey config webhook eventId db = .ok (result, db')) :
    db'.setup = db.setup := by
  have finished : ∀ {event : PaymentWebhookEvent} {m m' : Db},
      finishDelivery env providerKey config webhook eventId m = .ok (event, m') →
        m'.setup = m.setup := by
    intro event m m' h
    obtain ⟨_, _, rfl⟩ := finishDelivery_ok h
    rfl
  simp only [deliver, bind_ok_iff, read_ok_iff] at h
  obtain ⟨meaning, _, ⟨_, rfl⟩, h⟩ := h
  rcases meaning with reason | externalReference | operation
  · simp only [bind_ok_iff, pure_ok_iff] at h
    obtain ⟨_, _, failed, _, rfl⟩ := h
    obtain ⟨_, rfl⟩ := failDelivery_ok failed
    rfl
  · simp only [bind_ok_iff, pure_ok_iff, applyToAttempt, update_ok_iff] at h
    obtain ⟨_, _, ⟨_, _, ⟨_, _, rfl, rfl⟩, _, _, ⟨_, _, rfl, rfl⟩, refreshes⟩, _, _, finish, _,
      rfl⟩ := h
    rw [finished finish, setup_refreshIntent refreshes]
    rfl
  · simp only [bind_ok_iff, pure_ok_iff] at h
    obtain ⟨_, _, applied, _, _, finish, _, rfl⟩ := h
    rw [finished finish, applyToOperation_ok applied]

theorem setup_receiveWebhookTx {dto : ReceivePaymentWebhookDto}
    {result : PaymentWebhookEvent × Option Id}
    (h : receiveWebhookTx env providerKey dto db = .ok (result, db')) : db'.setup = db.setup := by
  simp only [receiveWebhookTx, bind_ok_iff, read_ok_iff] at h
  obtain ⟨existing, _, ⟨_, rfl⟩, h⟩ := h
  cases existing with
  | some event =>
    obtain ⟨_, rfl⟩ := pure_ok_iff.mp h
    rfl
  | none =>
    simp only [bind_ok_iff, read_ok_iff, freshId_ok_iff, create_ok_iff] at h
    obtain ⟨⟨config, webhook⟩, _, ⟨_, rfl⟩, _, _, ⟨rfl, rfl⟩, _, _, ⟨rfl, rfl⟩, h⟩ := h
    split at h
    · exact (setup_deliver h).trans rfl
    · obtain ⟨_, rfl⟩ := pure_ok_iff.mp h
      rfl

theorem receive_setup (db : Db) (w : WebhookRequest) : (receive db w).setup = db.setup := by
  cases h : receiveWebhookTx w.env w.providerKey w.dto db with
  | error e => rw [receive, receiveWebhook_of_error h]
  | ok answer =>
    have committed := setup_receiveWebhookTx h
    rcases receiveWebhook_of_ok h with after | ⟨orderId, after⟩
    · rw [receive, after, committed]
    · rw [receive, after, ← committed]
      refine Call.transact_related (R := fun (s t : Db) => t.setup = s.setup) rfl fun _ _ h => ?_
      obtain ⟨_, _, _, _, moved⟩ := Orders.transitionOrderTx_ok h
      rw [moved.rest]

theorem receiveWebhookTx_forged {dto : ReceivePaymentWebhookDto} {event : PaymentWebhookEvent}
    {autoConfirmOrderId : Option Id} (forged : verifies db ⟨env, providerKey, dto⟩ = false)
    (h : receiveWebhookTx env providerKey dto db = .ok ((event, autoConfirmOrderId), db')) :
    autoConfirmOrderId = none ∧ Alike db db' := by
  simp only [receiveWebhookTx, bind_ok_iff, read_ok_iff] at h
  obtain ⟨existing, _, ⟨_, rfl⟩, h⟩ := h
  cases existing with
  | some event =>
    obtain ⟨same, rfl⟩ := pure_ok_iff.mp h
    exact ⟨(Prod.mk.inj same).2.symm, alike_equivalence.refl _⟩
  | none =>
    simp only [bind_ok_iff, read_ok_iff, freshId_ok_iff, create_ok_iff] at h
    obtain ⟨⟨config, webhook⟩, _, ⟨meaning, rfl⟩, _, _, ⟨rfl, rfl⟩, _, _, ⟨rfl, rfl⟩, h⟩ := h
    simp only [verifies, meaning] at forged
    simp only [forged] at h
    obtain ⟨same, rfl⟩ := pure_ok_iff.mp h
    exact ⟨(Prod.mk.inj same).2.symm, ⟨rfl, rfl, rfl, rfl, rfl, rfl, rfl⟩⟩

theorem receive_forged {w : WebhookRequest} (forged : verifies db w = false) :
    Alike db (receive db w) ∧
      (stamps (receive db w) = stamps db ∨
        stamps (receive db w) = stamps db ++ [(w.providerKey, w.dto.deliveryId, false)]) := by
  cases h : receiveWebhookTx w.env w.providerKey w.dto db with
  | error e =>
    rw [receive, receiveWebhook_of_error h]
    exact ⟨alike_equivalence.refl db, Or.inl rfl⟩
  | ok answer =>
    obtain ⟨⟨event, autoConfirmOrderId⟩, db'⟩ := answer
    obtain ⟨rfl, alike⟩ := receiveWebhookTx_forged forged h
    rw [receive, receiveWebhook_stamps h, receiveWebhook_state h]
    refine ⟨alike, ?_⟩
    unfold stampOf
    split
    · rename_i config webhook _ meaning
      simp only [verifies, meaning] at forged
      exact Or.inr (by rw [forged])
    · exact Or.inl (append_nil _)

theorem receive_new {w : WebhookRequest} (alike : Alike s t)
    (left : findDelivery w.providerKey w.dto.deliveryId s = none)
    (right : findDelivery w.providerKey w.dto.deliveryId t = none) :
    Alike (receive s w) (receive t w) ∧
      ∃ added, stamps (receive s w) = stamps s ++ added ∧
        stamps (receive t w) = stamps t ++ added := by
  have recorded : stampOf w.env w.providerKey w.dto s = stampOf w.env w.providerKey w.dto t := by
    simp only [stampOf, left, right, readDelivery, alike.setup]
  rcases related_receiveWebhookTx w.env w.providerKey w.dto s t ⟨alike, left, right⟩ with
    ⟨e, hs, ht⟩ | ⟨⟨es, x⟩, ⟨et, y⟩, s', t', hs, ht, same, alike'⟩
  · rw [receive, receive, receiveWebhook_of_error hs, receiveWebhook_of_error ht]
    exact ⟨alike, [], (append_nil _).symm, (append_nil _).symm⟩
  · refine ⟨?_, _, receiveWebhook_stamps hs, recorded ▸ receiveWebhook_stamps ht⟩
    rw [receive, receive, receiveWebhook_state hs, receiveWebhook_state ht]
    obtain rfl : x = y := same
    cases x with
    | none => exact alike'
    | some orderId =>
      rcases related_confirm w.env (buildWebhookContext w.dto) orderId { toStatus := .confirmed }
        rfl s' t' alike' with ⟨e, hs, ht⟩ | ⟨_, _, s'', t'', hs, ht, alike''⟩
      · simp only [Orders.transitionOrder, Call.transact_error hs, Call.transact_error ht]
        exact alike'
      · simp only [Orders.transitionOrder, Call.transact_ok hs, Call.transact_ok ht]
        exact alike''

/-- The run with the forged requests against the run without them: the first has on record what
the second has, and more only of forged requests. -/
structure Shadowed (s t : Db) : Prop where
  alike : Alike s t
  known : ∀ providerKey deliveryId valid, (providerKey, deliveryId, valid) ∈ stamps t →
    ∃ valid', (providerKey, deliveryId, valid') ∈ stamps s
  genuine : ∀ providerKey deliveryId, (providerKey, deliveryId, true) ∈ stamps s →
    ∃ valid, (providerKey, deliveryId, valid) ∈ stamps t

theorem shadowed_refl (db : Db) : Shadowed db db where
  alike := alike_equivalence.refl db
  known _ _ valid recorded := ⟨valid, recorded⟩
  genuine _ _ recorded := ⟨true, recorded⟩

theorem Shadowed.forged {w : WebhookRequest} (shadowed : Shadowed s t)
    (forged : verifies s w = false) : Shadowed (receive s w) t := by
  obtain ⟨alike, recorded⟩ := receive_forged forged
  have kept : ∀ k ∈ stamps s, k ∈ stamps (receive s w) := by
    intro k listed
    rcases recorded with same | added
    · rwa [same]
    · rw [added]
      exact mem_append_left _ listed
  have none_genuine : ∀ providerKey deliveryId,
      (providerKey, deliveryId, true) ∈ stamps (receive s w) →
        (providerKey, deliveryId, true) ∈ stamps s := by
    intro providerKey deliveryId listed
    rcases recorded with same | added
    · rwa [same] at listed
    · rw [added] at listed
      simpa using listed
  exact
    { alike := alike_equivalence.trans (alike_equivalence.symm alike) shadowed.alike
      known := fun providerKey deliveryId valid listed =>
        (shadowed.known providerKey deliveryId valid listed).imp fun _ => kept _
      genuine := fun providerKey deliveryId listed =>
        shadowed.genuine providerKey deliveryId (none_genuine providerKey deliveryId listed) }

theorem receive_recorded {w : WebhookRequest} {valid : Bool}
    (recorded : (w.providerKey, w.dto.deliveryId, valid) ∈ stamps db) : receive db w = db :=
  step_redelivery (r := ⟨w.env, buildWebhookContext w.dto, .receiveWebhook w.providerKey w.dto⟩)
    recorded (decide_eq_true ⟨rfl, rfl⟩)

theorem Shadowed.verified {w : WebhookRequest} (shadowed : Shadowed s t)
    (unobstructed : Unobstructed s w) (verified : verifies s w = true) :
    Shadowed (receive s w) (receive t w) := by
  cases found : findDelivery w.providerKey w.dto.deliveryId s with
  | some event =>
    obtain ⟨recorded, same⟩ := findDelivery_some found
    have signed : event.signatureValid = true := by
      have all := unobstructed verified
      rw [found] at all
      exact all
    rw [same, signed] at recorded
    obtain ⟨valid, recorded'⟩ := shadowed.genuine _ _ recorded
    rw [receive_recorded recorded, receive_recorded recorded']
    exact shadowed
  | none =>
    have found' : findDelivery w.providerKey w.dto.deliveryId t = none := by
      cases there : findDelivery w.providerKey w.dto.deliveryId t with
      | none => rfl
      | some event =>
        obtain ⟨recorded, same⟩ := findDelivery_some there
        rw [same] at recorded
        obtain ⟨valid, recorded'⟩ := shadowed.known _ _ _ recorded
        obtain ⟨event', found'⟩ := findDelivery_of_stamp recorded'
        rw [found] at found'
        cases found'
    obtain ⟨alike, added, left, right⟩ := receive_new shadowed.alike found found'
    refine { alike, known := ?_, genuine := ?_ }
    · intro providerKey deliveryId valid listed
      rw [right, mem_append] at listed
      simp only [left, mem_append]
      rcases listed with old | new
      · exact (shadowed.known _ _ _ old).imp fun _ => Or.inl
      · exact ⟨valid, Or.inr new⟩
    · intro providerKey deliveryId listed
      rw [left, mem_append] at listed
      simp only [right, mem_append]
      rcases listed with old | new
      · exact (shadowed.genuine _ _ old).imp fun _ => Or.inl
      · exact ⟨true, Or.inr new⟩

/-- Forged requests leave nothing in the payments and the orders, in every run in which no
genuine request comes under the key of a forged one that is on record. -/
theorem forged_deliveries_unseen (db : Db) (ws : List WebhookRequest)
    (along : Trace.Along receive Unobstructed db ws) :
    Alike (Trace.run receive db ws) (Trace.run receive db (ws.filter (verifies db))) := by
  let S : Db → Db → Prop := fun s t => Shadowed s t ∧ s.setup = db.setup
  have dropped : ∀ s t w, S s t → Unobstructed s w → verifies db w = false →
      S (receive s w) t := by
    rintro s t w ⟨shadowed, setup⟩ _ forged
    rw [← verifies_setup setup] at forged
    exact ⟨shadowed.forged forged, (receive_setup s w).trans setup⟩
  have kept : ∀ s t w, S s t → Unobstructed s w → verifies db w = true →
      S (receive s w) (receive t w) := by
    rintro s t w ⟨shadowed, setup⟩ unobstructed verified
    rw [← verifies_setup setup] at verified
    exact ⟨shadowed.verified unobstructed verified, (receive_setup s w).trans setup⟩
  exact (Trace.run_filter_simulated dropped kept ⟨shadowed_refl db, rfl⟩ along).1.alike

def signingShop : Db :=
  { shop with
    setup :=
      { shop.setup with
        paymentProviderConfigs :=
          [{ id := 21, tenantId := 1, storeId := none, providerKey := "terminal",
             providerType := .cardSimulated, method := .card, enabled := true, priority := 1,
             allowedChannels := [.pos], autoConfirmOrderOnSuccess := false,
             settings := some [("adapterMode", .str "webhook"), ("webhookSecret", .str "secret")],
             createdAt := 0 }] } }

def successReport (deliveryId signature : String) : WebhookRequest where
  env := Env.shipped 4 "r" "A-1" fun _ => .ok []
  providerKey := "terminal"
  dto :=
    { tenantId := some 1
      deliveryId
      eventType := "payment"
      signature := some signature
      payload := [("externalReference", .str (buildExternalReference 3 "r" "terminal"))] }

theorem forged_deliveries_unseen_other_key :
    Trace.Along receive Unobstructed (run signingShop awaitingTerminal)
        [successReport "delivery-1" "guess", successReport "delivery-2" "secret"] ∧
      Alike
        (Trace.run receive (run signingShop awaitingTerminal)
          [successReport "delivery-1" "guess", successReport "delivery-2" "secret"])
        (Trace.run receive (run signingShop awaitingTerminal)
          ([successReport "delivery-1" "guess", successReport "delivery-2" "secret"].filter
            (verifies (run signingShop awaitingTerminal)))) := by
  have along : Trace.Along receive Unobstructed (run signingShop awaitingTerminal)
      [successReport "delivery-1" "guess", successReport "delivery-2" "secret"] := by
    decide +kernel
  exact ⟨along, forged_deliveries_unseen _ _ along⟩

/-- A forged delivery takes the key of the genuine one: the payment it reports stays pending. -/
theorem forgedDelivery_blocks : ¬ Alike
      (Trace.run receive (run signingShop awaitingTerminal)
        [successReport "delivery-1" "guess", successReport "delivery-1" "secret"])
      (Trace.run receive (run signingShop awaitingTerminal)
        ([successReport "delivery-1" "guess", successReport "delivery-1" "secret"].filter
          (verifies (run signingShop awaitingTerminal)))) := by
  intro alike
  have statuses := congrArg (List.map PaymentIntent.status) alike.intents
  exact absurd statuses (by decide +kernel)

end Exetron.Payments
