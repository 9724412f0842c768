import Exetron.Fulfillment.Service
import Exetron.Lib.Trace

/-!
# Dispatch

`FulfillmentService` on the orders of a store: the courier, the times and the status that the
dispatch board shows. Each call writes the order and its events in one transaction, and what the
board shows of an order can be read off its events.
-/

namespace Exetron.Fulfillment

open Lib List

inductive FulfillmentStatus where
  | pending
  | scheduled
  | preparing
  | readyForPickup
  | outForDelivery
  | delivered
  | pickedUp
  | tableAssigned
  | served
  deriving DecidableEq

def FulfillmentStatus.text : FulfillmentStatus → String
  | .pending => "PENDING"
  | .scheduled => "SCHEDULED"
  | .preparing => "PREPARING"
  | .readyForPickup => "READY_FOR_PICKUP"
  | .outForDelivery => "OUT_FOR_DELIVERY"
  | .delivered => "DELIVERED"
  | .pickedUp => "PICKED_UP"
  | .tableAssigned => "TABLE_ASSIGNED"
  | .served => "SERVED"

def asFulfillmentStatus (value : Option String) : Option FulfillmentStatus :=
  [.pending, .scheduled, .preparing, .readyForPickup, .outForDelivery, .delivered, .pickedUp,
    .tableAssigned, .served].find? fun status => some status.text = value

@[simp] theorem asFulfillmentStatus_text (status : FulfillmentStatus) :
    asFulfillmentStatus (some status.text) = some status := by
  cases status <;> decide

def statusNotificationTemplate : FulfillmentStatus → Option String
  | .readyForPickup => some "storefront-pickup-ready"
  | .outForDelivery => some "storefront-out-for-delivery"
  | .delivered => some "storefront-delivered"
  | .pickedUp => some "storefront-picked-up"
  | .served => some "storefront-served"
  | _ => none

/-- `new Date(text)` and `toISOString`. -/
structure DateTexts where
  parseDate : String → Option Instant
  toISOString : Instant → String
  parseDate_toISOString : ∀ time, parseDate (toISOString time) = some time

structure AssignFulfillmentCourierDto where
  courierName : String
  (courierPhone courierExternalId : Option String)

/-- Texts that `@IsISO8601` accepts, so none is empty. -/
structure UpdateFulfillmentEtaDto where
  (etaAt promisedAt : Option String)

structure UpdateFulfillmentStatusDto where
  status : FulfillmentStatus
  note : Option String

inductive FulfillmentEventPayload where
  /-- `fulfillment.assignment_updated`. -/
  | assignmentUpdated (courier : AssignFulfillmentCourierDto)
  /-- `fulfillment.eta_updated`. -/
  | etaUpdated (etaAt promisedAt : Option String)
  /-- `fulfillment.status_updated`. -/
  | statusUpdated (status : FulfillmentStatus) (note : Option String)
  /-- `storefront.notification_queued`. -/
  | notificationQueued (templateKey customerPhone : String)

structure FulfillmentEvent where
  (orderId tenantId storeId : Id)
  payload : FulfillmentEventPayload

structure DispatchDb where
  orders : Rows.Keyed Order Order.id
  orderEvents : List FulfillmentEvent

def recordFulfillmentEvent (order : Order) (payload : FulfillmentEventPayload) :
    FulfillmentEvent := ⟨order.id, order.tenantId, order.storeId, payload⟩

/-- The `data` of an order's update, which leaves its id. -/
abbrev OrderUpdate := {update : Order → Order // ∀ order, (update order).id = order.id}

abbrev Change := Except ApiException (OrderUpdate × List FulfillmentEventPayload)

/-- The order is read, changed and given its events in one transaction. -/
def updateOrder (context : RequestContext) (orderId : Id) (change : Order → Change)
    (db : DispatchDb) : Except ApiException DispatchDb := do
  let order ← required (Rows.find Order.id db.orders.val orderId) (.recordNotFound "Order")
  authorize context order.tenantId order.storeId
  let (update, payloads) ← change order
  pure
    { orders := ⟨Rows.modify Order.id order.id update.val db.orders.val, by
        rw [Rows.map_modify update.property]
        exact db.orders.property⟩
      orderEvents := db.orderEvents ++ payloads.map (recordFulfillmentEvent order) }

def AssignFulfillmentCourierDto.toJson (dto : AssignFulfillmentCourierDto) : Json := .obj
  [("courierName", .str dto.courierName), ("courierPhone", .ofOption .str dto.courierPhone),
   ("courierExternalId", .ofOption .str dto.courierExternalId)]

/-- `{ ...(asRecord(payload) ?? {}), courier }`. -/
def withCourier (courier : Json) : Option Json → Json
  | some (.obj fields) => .obj (Record.set fields "courier" courier)
  | _ => .obj [("courier", courier)]

def assignCourier (dto : AssignFulfillmentCourierDto) (order : Order) : Change :=
  let nextPayload := withCourier dto.toJson order.fulfillmentPayload
  pure (⟨fun row => { row with fulfillmentPayload := some nextPayload }, fun _ => rfl⟩,
    [.assignmentUpdated dto])

/-- A text that is no date is refused by the database client. -/
def newDate (dates : DateTexts) : Option String → Except ApiException (Option Instant)
  | none => pure none
  | some text => some <$> required (dates.parseDate text) .typeError

def updateEta (dates : DateTexts) (dto : UpdateFulfillmentEtaDto) (order : Order) : Change := do
  let etaAt ← newDate dates dto.etaAt
  let promisedAt ← newDate dates dto.promisedAt
  pure (⟨fun row => { row with etaAt, promisedAt := promisedAt.or order.promisedAt }, fun _ => rfl⟩,
    [.etaUpdated dto.etaAt (dto.promisedAt.or (order.promisedAt.map dates.toISOString))])

/-- An empty phone number is none. -/
def queuedNotification (order : Order) (status : FulfillmentStatus) :
    List FulfillmentEventPayload :=
  match order.customerPhone.filter (· ≠ ""), statusNotificationTemplate status with
  | some customerPhone, some templateKey => [.notificationQueued templateKey customerPhone]
  | _, _ => []

def updateStatus (dto : UpdateFulfillmentStatusDto) (order : Order) : Change :=
  pure (⟨fun row => { row with fulfillmentStatus := some dto.status.text }, fun _ => rfl⟩,
    .statusUpdated dto.status dto.note :: queuedNotification order dto.status)

structure FulfillmentCourier where
  (courierName courierPhone courierExternalId : Option String)

structure FulfillmentSnapshot where
  mode : Option FulfillmentMode
  status : Option FulfillmentStatus
  fee : Money
  (promisedAt etaAt : Option Instant)
  details : Option FulfillmentSelection
  courier : Option FulfillmentCourier

def courierOf : Option Json → Option FulfillmentCourier
  | some (.obj fields) =>
    some
      { courierName := filledText (Record.get fields "courierName")
        courierPhone := filledText (Record.get fields "courierPhone")
        courierExternalId := filledText (Record.get fields "courierExternalId") }
  | _ => none

def mapFulfillmentSnapshot (order : Order) : FulfillmentSnapshot where
  mode := asFulfillmentMode (order.fulfillmentMode.map .str)
  status := asFulfillmentStatus order.fulfillmentStatus
  fee := order.fulfillmentFee
  promisedAt := order.promisedAt
  etaAt := order.etaAt
  details := order.fulfillmentPayload.bind normalizeFulfillmentSelection
  courier := courierOf (order.fulfillmentPayload.bind (Json.get? "courier"))

/-- What an event says of the snapshot of its order. -/
def showEvent (dates : DateTexts) (snapshot : FulfillmentSnapshot) (event : FulfillmentEvent) :
    FulfillmentSnapshot :=
  match event.payload with
  | .assignmentUpdated courier => { snapshot with courier := courierOf courier.toJson }
  | .etaUpdated etaAt promisedAt =>
    { snapshot with etaAt := etaAt.bind dates.parseDate
                    promisedAt := promisedAt.bind dates.parseDate }
  | .statusUpdated status _ => { snapshot with status }
  | .notificationQueued .. => snapshot

theorem get?_withCourier (courier : Json) (payload : Option Json) (key : String) :
    (withCourier courier payload).get? key =
      if "courier" = key then some courier else payload.bind (Json.get? key) := by
  have set (fields : List (String × Json)) :
      (Json.obj (Record.set fields "courier" courier)).get? key =
        if "courier" = key then some courier else (Json.obj fields).get? key :=
    Record.get_set fields "courier" key courier
  rcases payload with _ | payload
  · exact set []
  · cases payload with
    | obj fields => exact set fields
    | _ => exact set []

theorem normalizeFulfillmentSelection_withCourier (courier : Json) (payload : Option Json) :
    normalizeFulfillmentSelection (withCourier courier payload) =
      payload.bind normalizeFulfillmentSelection := by
  cases payload with
  | none => simp [normalizeFulfillmentSelection, get?_withCourier, asFulfillmentMode]
  | some payload => simp [normalizeFulfillmentSelection, get?_withCourier]

section
variable {dates : DateTexts} {order order' order'' : Order} {events events' : List FulfillmentEvent}
  {payloads : List FulfillmentEventPayload}

def eventsOf (orderId : Id) (events : List FulfillmentEvent) : List FulfillmentEvent :=
  events.filter fun event => event.orderId = orderId

def isNotification : FulfillmentEventPayload → Bool
  | .notificationQueued .. => true
  | _ => false

/-- The notifications that an event of an order calls for. -/
def notifications (order : Order) (event : FulfillmentEvent) : List FulfillmentEventPayload :=
  match event.payload with
  | .statusUpdated status _ => queuedNotification order status
  | _ => []

/-- The order is what the events say of the one it was, and they tell its customer of every status
that has a template. -/
structure Follows (dates : DateTexts) (events : List FulfillmentEvent) (order order' : Order) :
    Prop where
  id : order'.id = order.id
  customerPhone : order'.customerPhone = order.customerPhone
  shown : mapFulfillmentSnapshot order' =
    (eventsOf order.id events).foldl (showEvent dates) (mapFulfillmentSnapshot order)
  told : ((eventsOf order.id events).map FulfillmentEvent.payload).filter isNotification =
    (eventsOf order.id events).flatMap (notifications order)

theorem eventsOf_append (orderId : Id) (events events' : List FulfillmentEvent) :
    eventsOf orderId (events ++ events') = eventsOf orderId events ++ eventsOf orderId events' :=
  filter_append ..

theorem eventsOf_record (payloads : List FulfillmentEventPayload) :
    eventsOf order.id (payloads.map (recordFulfillmentEvent order)) =
      payloads.map (recordFulfillmentEvent order) := by
  refine filter_eq_self.mpr fun event listed => ?_
  obtain ⟨payload, -, rfl⟩ := mem_map.mp listed
  exact decide_eq_true rfl

theorem Follows.trans (first : Follows dates events order order')
    (second : Follows dates events' order' order'') :
    Follows dates (events ++ events') order order'' where
  id := second.id.trans first.id
  customerPhone := second.customerPhone.trans first.customerPhone
  shown := by
    rw [second.shown, first.shown, first.id, eventsOf_append, foldl_append]
  told := by
    have same : notifications order' = notifications order := by
      funext event
      simp only [notifications, queuedNotification, first.customerPhone]
    have later := second.told
    rw [first.id, same] at later
    rw [eventsOf_append, map_append, filter_append, flatMap_append, first.told, later]

theorem Follows.untouched (none : eventsOf order.id events = []) :
    Follows dates events order order := ⟨rfl, rfl, by rw [none]; rfl, by rw [none]; rfl⟩

/-- What a call writes of an order is what its events say. -/
def Records (dates : DateTexts) (change : Order → Change) : Prop :=
  ∀ order update payloads, change order = .ok (update, payloads) →
    Follows dates (payloads.map (recordFulfillmentEvent order)) order (update.val order)

theorem assignCourier_records (dto : AssignFulfillmentCourierDto) :
    Records dates (assignCourier dto) := by
  intro order update payloads changed
  obtain ⟨rfl, rfl⟩ := Prod.mk.inj (except_pure_ok_iff.mp changed)
  refine ⟨rfl, rfl, ?_, by rw [eventsOf_record]; rfl⟩
  rw [eventsOf_record]
  simp [mapFulfillmentSnapshot, showEvent, recordFulfillmentEvent, get?_withCourier,
    normalizeFulfillmentSelection_withCourier]

theorem newDate_ok {text : Option String} {time : Option Instant}
    (read : newDate dates text = .ok time) (before : Option Instant) :
    (text.or (before.map dates.toISOString)).bind dates.parseDate = time.or before := by
  cases text with
  | none =>
    obtain rfl := except_pure_ok_iff.mp read
    cases before <;> simp [dates.parseDate_toISOString]
  | some text =>
    cases parsed : dates.parseDate text with
    | none => simp [newDate, required, parsed] at read
    | some _ =>
      simp only [newDate, required, parsed] at read
      cases read
      simp [parsed]

theorem updateEta_records (dto : UpdateFulfillmentEtaDto) :
    Records dates (updateEta dates dto) := by
  intro order update payloads changed
  simp only [updateEta, except_bind_ok_iff, except_pure_ok_iff] at changed
  obtain ⟨etaAt, eta, promisedAt, promised, same⟩ := changed
  obtain ⟨rfl, rfl⟩ := Prod.mk.inj same
  refine ⟨rfl, rfl, ?_, by rw [eventsOf_record]; rfl⟩
  have asked := newDate_ok eta none
  rw [Option.map_none, Option.or_none, Option.or_none] at asked
  rw [eventsOf_record]
  simp [mapFulfillmentSnapshot, showEvent, recordFulfillmentEvent, asked, newDate_ok promised]

theorem queuedNotification_cases (order : Order) (status : FulfillmentStatus) :
    queuedNotification order status = [] ∨ ∃ templateKey customerPhone,
      queuedNotification order status = [.notificationQueued templateKey customerPhone] := by
  unfold queuedNotification
  split
  · exact .inr ⟨_, _, rfl⟩
  · exact .inl rfl

theorem updateStatus_records (dto : UpdateFulfillmentStatusDto) :
    Records dates (updateStatus dto) := by
  intro order update payloads changed
  obtain ⟨rfl, rfl⟩ := Prod.mk.inj (except_pure_ok_iff.mp changed)
  refine ⟨rfl, rfl, ?_, ?_⟩
  all_goals
    rw [eventsOf_record]
    rcases queuedNotification_cases order dto.status with none | ⟨templateKey, customerPhone, one⟩
  · simp [none, mapFulfillmentSnapshot, showEvent, recordFulfillmentEvent]
  · simp [one, mapFulfillmentSnapshot, showEvent, recordFulfillmentEvent]
  · simp [none, notifications, recordFulfillmentEvent, isNotification]
  · simp [one, notifications, recordFulfillmentEvent, isNotification]

end

inductive DispatchRequest where
  | assignCourier (context : RequestContext) (orderId : Id) (dto : AssignFulfillmentCourierDto)
  | updateEta (context : RequestContext) (orderId : Id) (dto : UpdateFulfillmentEtaDto)
  | updateStatus (context : RequestContext) (orderId : Id) (dto : UpdateFulfillmentStatusDto)
  /-- What other services do to the orders. -/
  | elsewhere (update : OrderUpdate)
      (keeps : ∀ order dates, Follows dates [] order (update.val order))

variable {dates : DateTexts} {db db' db'' : DispatchDb} {context : RequestContext} {orderId : Id}
  {change : Order → Change}

/-- A rejected call is rolled back. -/
def afterUpdate (context : RequestContext) (orderId : Id) (change : Order → Change)
    (db : DispatchDb) : DispatchDb := (updateOrder context orderId change db).toOption.getD db

def dispatchStep (dates : DateTexts) (db : DispatchDb) : DispatchRequest → DispatchDb
  | .assignCourier context orderId dto => afterUpdate context orderId (assignCourier dto) db
  | .updateEta context orderId dto => afterUpdate context orderId (updateEta dates dto) db
  | .updateStatus context orderId dto => afterUpdate context orderId (updateStatus dto) db
  | .elsewhere update _ =>
    { db with orders := ⟨db.orders.val.map update.val, by
        rw [map_map, show Order.id ∘ update.val = Order.id from funext update.property]
        exact db.orders.property⟩ }

/-- The log grows by events that every order follows. -/
def Logged (dates : DateTexts) (db db' : DispatchDb) : Prop :=
  ∃ events, db'.orderEvents = db.orderEvents ++ events ∧
    ∀ order ∈ db.orders.val, ∃ order' ∈ db'.orders.val, Follows dates events order order'

theorem logged_refl (db : DispatchDb) : Logged dates db db :=
  ⟨[], (append_nil _).symm, fun order stored => ⟨order, stored, .untouched rfl⟩⟩

theorem Logged.trans (first : Logged dates db db') (second : Logged dates db' db'') :
    Logged dates db db'' := by
  obtain ⟨events, logs, follows⟩ := first
  obtain ⟨events', logs', follows'⟩ := second
  refine ⟨events ++ events', by rw [logs', logs, append_assoc], fun order stored => ?_⟩
  obtain ⟨order', stored', first⟩ := follows order stored
  obtain ⟨order'', stored'', second⟩ := follows' order' stored'
  exact ⟨order'', stored'', first.trans second⟩

theorem afterUpdate_logged (records : Records dates change) :
    Logged dates db (afterUpdate context orderId change db) := by
  rw [afterUpdate]
  cases updated : updateOrder context orderId change db with
  | error e => exact logged_refl db
  | ok db' =>
    simp only [updateOrder, except_bind_ok_iff, except_pure_ok_iff, required_ok_iff] at updated
    obtain ⟨order, found, _, _, ⟨update, payloads⟩, changed, rfl⟩ := updated
    obtain ⟨stored, rfl⟩ := Rows.find_some found
    refine ⟨_, rfl, fun other listed => ?_⟩
    by_cases same : other.id = order.id
    · obtain rfl := Rows.eq_of_key db.orders.property listed stored same
      exact ⟨_, Rows.mem_modify.mpr ⟨other, listed, if_pos rfl⟩, records _ _ _ changed⟩
    · refine ⟨other, Rows.mem_modify.mpr ⟨other, listed, if_neg same⟩, .untouched ?_⟩
      refine filter_eq_nil_iff.mpr fun event logged => ?_
      obtain ⟨payload, -, rfl⟩ := mem_map.mp logged
      exact fun owned => same (of_decide_eq_true owned).symm

theorem dispatchStep_logged (db : DispatchDb) (r : DispatchRequest) :
    Logged dates db (dispatchStep dates db r) := by
  cases r with
  | assignCourier _ _ dto => exact afterUpdate_logged (assignCourier_records dto)
  | updateEta _ _ dto => exact afterUpdate_logged (updateEta_records dto)
  | updateStatus _ _ dto => exact afterUpdate_logged (updateStatus_records dto)
  | elsewhere update keeps =>
    refine ⟨[], (append_nil _).symm, fun order stored => ?_⟩
    exact ⟨_, mem_map_of_mem stored, keeps order dates⟩

end Exetron.Fulfillment
