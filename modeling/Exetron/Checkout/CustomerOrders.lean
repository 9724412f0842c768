import Exetron.Checkout.Storefront
import Exetron.Growth.Steps

/-!
# A customer's orders

A storefront session keeps the phone it was opened with, an order the phone that its growth was
recorded under. The history lists the orders whose phone is the session's, letter for letter.
-/

namespace Exetron.Storefront

open Lib Payments Checkout Customers
open Growth (GrowthRequest Grows GrowthKeys Fresh)

structure CreateStorefrontCustomerSessionDto where
  storeCode : String
  customerName : Option String
  customerPhone : String

/-- What the opening of a session takes from outside. -/
structure CustomerSessionEnv where
  codeOf : Store → String
  resolveEffectiveCustomization : RequestContext → Store → Db → Except ApiException Fields

def loadPublicStoreByCode (env : CustomerSessionEnv) (storeCode : String) (db : Db) :
    Except ApiException Store :=
  required
    (db.setup.stores.find? fun store => env.codeOf store = storeCode ∧ store.status = .active)
    (.badRequest "Storefront store was not found.")

def createCustomerSession (env : CustomerSessionEnv) (dto : CreateStorefrontCustomerSessionDto)
    (db : Db) : Except ApiException StorefrontCustomerSessionClaims := do
  let store ← loadPublicStoreByCode env dto.storeCode db
  let settings ← env.resolveEffectiveCustomization (buildPublicContext store) store db
  ensureStorefrontEnabled (Json.orElse (readField "storefront.config" (some settings)) .null)
  let rules := resolveStorefrontRules
    (Json.orElse (readField "storefront.rules" (some settings)) .null)
  rejectIf (!rules.allowCustomerSessions)
    (.badRequest "Customer sessions are disabled for this storefront.")
  rejectIf (Text.trim dto.customerPhone = "")
    (.badRequest "Customer phone is required for a storefront session.")
  pure
    { tenantId := store.tenantId
      storeId := store.id
      customerName := (dto.customerName.filter fun name => Text.trim name ≠ "").map Text.trim
      customerPhone := Text.trim dto.customerPhone
      scope := "storefront_customer_session" }

def verifyCustomerSessionTokenLoose (env : StorefrontEnv) (accessToken : String) :
    Except ApiException StorefrontCustomerSessionClaims := do
  let claims ← verifyStorefrontToken env.verifySessionToken accessToken
  rejectIf (claims.scope ≠ "storefront_customer_session" ∨ Text.trim claims.customerPhone = "")
    (.unauthorized "Storefront customer session token is invalid.")
  pure claims

structure StorefrontCustomerOrderListItem where
  orderId : Id
  number : String
  status : OrderStatus
  total : Money
  placedAt : Instant
  canRepeatOrder : Bool

def listItem (order : Order) : StorefrontCustomerOrderListItem where
  orderId := order.id
  number := order.number
  status := order.status
  total := order.total
  placedAt := order.placedAt
  canRepeatOrder := order.status ≠ .cancelled

def customerOrders (claims : StorefrontCustomerSessionClaims) (db : Db) : List Order :=
  (db.orders.filter fun order =>
    order.tenantId = claims.tenantId ∧ order.storeId = claims.storeId ∧
      order.channel = .delivery ∧ order.customerPhone = some claims.customerPhone).insertionSort
    fun left right => right.placedAt ≤ left.placedAt

def listCustomerOrders (env : StorefrontEnv) (accessToken : String) (db : Db) :
    Except ApiException (List StorefrontCustomerOrderListItem) := do
  let claims ← verifyCustomerSessionTokenLoose env accessToken
  let _ ← loadPublicStoreById claims.storeId db
  pure ((customerOrders claims db).map listItem)

/-- The checks of `repeatCustomerOrder`, before a cart is filled with the order's items. -/
def admitRepeat (env : StorefrontEnv) (orderId : Id) (accessToken : String) (db : Db) :
    Except ApiException Order := do
  let claims ← verifyCustomerSessionTokenLoose env accessToken
  let store ← loadPublicStoreById claims.storeId db
  let order ← Orders.findOrder (buildPublicContext store) orderId db
  rejectIf (order.customerPhone ≠ some claims.customerPhone)
    (.badRequest "Repeat order is only available for the original customer.")
  rejectIf (order.channel ≠ .delivery)
    (.badRequest "Repeat order is only available for storefront orders.")
  pure order

def SeesAndRepeats (env : StorefrontEnv) (accessToken : String) (orderId : Id) (db : Db) : Prop :=
  (∃ items, listCustomerOrders env accessToken db = .ok items ∧
    ∃ item ∈ items, item.orderId = orderId) ∧
  ∃ order, admitRepeat env orderId accessToken db = .ok order

def Serves (claims : StorefrontCustomerSessionClaims) (db : Db) : Prop :=
  ∃ store, loadPublicStoreById claims.storeId db = .ok store ∧ store.tenantId = claims.tenantId

def PlacedUnder (env : StorefrontEnv) (claims : StorefrontCustomerSessionClaims)
    (dto : StorefrontCheckoutDto) (db : Db) (order : Order) (db' : Db) : Prop :=
  ∃ cartId seen a, admitCheckout env cartId dto seen = .ok a ∧ a.customerSession = some claims ∧
    Orders.checkoutTx env.ordering (buildPublicContext a.store) cartId
      { customerName := dto.customerName.or claims.customerName
        customerPhone := customerPhoneOf dto a
        note := dto.note } db = .ok (order, db') ∧
    order.channel = .delivery

def Finalised (orderId : Id) (db db' : Db) : Prop :=
  ∃ env : Env, ∃ context result,
    finalizeOrderGrowthTx env.now context orderId db = .ok (result, db')

def settledPhone (phone : String) : String :=
  if Text.trim phone = "" then phone else normalizeCustomerPhone phone

/-- The row of the session's order, under a phone of the kind. -/
structure OrderUnder (claims : StorefrontCustomerSessionClaims) (orderId : Id) (P : String → Prop)
    (order : Order) : Prop where
  id : order.id = orderId
  tenant : order.tenantId = claims.tenantId
  store : order.storeId = claims.storeId
  channel : order.channel = .delivery
  phone : ∃ phone, order.customerPhone = some phone ∧ P phone

def Carries (claims : StorefrontCustomerSessionClaims) (orderId : Id) (P : String → Prop)
    (db : Db) : Prop :=
  ∃ order ∈ db.orders, OrderUnder claims orderId P order

section
variable {claims : StorefrontCustomerSessionClaims} {orderId : Id} {P : String → Prop}
  {db db' : Db}

theorem Carries.mono {Q : String → Prop} (carries : Carries claims orderId P db)
    (weaker : ∀ phone, P phone → Q phone) : Carries claims orderId Q db := by
  obtain ⟨order, stored, under⟩ := carries
  obtain ⟨phone, is, kind⟩ := under.phone
  exact ⟨order, stored, { under with phone := ⟨phone, is, weaker phone kind⟩ }⟩

theorem Carries.of_subset (carries : Carries claims orderId P db)
    (more : ∀ order ∈ db.orders, order ∈ db'.orders) : Carries claims orderId P db' := by
  obtain ⟨order, stored, under⟩ := carries
  exact ⟨order, more order stored, under⟩

theorem Carries.of_same (carries : Carries claims orderId P db) (same : db'.orders = db.orders) :
    Carries claims orderId P db' :=
  carries.of_subset fun _ stored => same ▸ stored

theorem Carries.modify (carries : Carries claims orderId P db) {key : Id} {f : Order → Order}
    (orders : db'.orders = Rows.modify Order.id key f db.orders)
    (keeps : ∀ order ∈ db.orders, order.id = key → OrderUnder claims orderId P order →
      OrderUnder claims orderId P (f order)) : Carries claims orderId P db' := by
  obtain ⟨order, stored, under⟩ := carries
  rw [Carries, orders]
  by_cases here : order.id = key
  · exact ⟨f order, Rows.mem_modify.mpr ⟨order, stored, if_pos here⟩, keeps order stored here under⟩
  · exact ⟨order, Rows.mem_modify.mpr ⟨order, stored, if_neg here⟩, under⟩

theorem Carries.finalised {context : RequestContext} {order : Order} {phone : String}
    {profile : CustomerProfile} {accountId otherId : Id} (keys : GrowthKeys db)
    (carries : Carries claims orderId P db) {Q : String → Prop}
    (found : Orders.findOrder context otherId db = .ok order)
    (known : order.customerPhone.filter (fun phone => Text.trim phone ≠ "") = some phone)
    (recorded : GrowthRecorded order phone profile accountId db db')
    (other : otherId ≠ orderId → ∀ q, P q → Q q)
    (normal : P phone → Text.trim phone ≠ "" → Q (normalizeCustomerPhone phone)) :
    Carries claims orderId Q db' := by
  obtain ⟨stored, sameId⟩ := Table.findUnique_mem (Orders.findOrder_ok_iff.mp found).1
  obtain ⟨row, listed, under⟩ := carries
  obtain ⟨given, filled⟩ := Option.filter_eq_some_iff.mp known
  have orders : db'.orders = Rows.modify Order.id order.id (linkTo order profile) db.orders := by
    rw [recorded.rest]
  rw [Carries, orders]
  by_cases here : row.id = order.id
  · obtain rfl := Rows.eq_of_key keys.orders listed stored here
    refine ⟨linkTo row profile row, Rows.mem_modify.mpr ⟨row, listed, if_pos rfl⟩,
      under.id, under.tenant, under.store, under.channel, profile.phone, rfl, ?_⟩
    obtain ⟨own, is, kind⟩ := under.phone
    obtain rfl := Option.some.inj (is.symm.trans given)
    rw [recorded.known]
    exact normal kind (of_decide_eq_true filled)
  · obtain ⟨own, is, kind⟩ := under.phone
    have apart : otherId ≠ orderId :=
      fun same => here (under.id.trans (same.symm.trans sameId.symm))
    exact ⟨row, Rows.mem_modify.mpr ⟨row, listed, if_neg here⟩,
      under.id, under.tenant, under.store, under.channel, own, is, other apart own kind⟩

theorem carries_step (closed : ∀ phone, P phone → Text.trim phone ≠ "" →
    P (normalizeCustomerPhone phone)) (keys : GrowthKeys db)
    (carries : Carries claims orderId P db) (r : GrowthRequest) :
    Carries claims orderId P (Growth.step db r) := by
  cases Growth.step_grows keys r with
  | untouched same => exact carries.of_same same.orders
  | moved other moved customers redemptions supply =>
    cases moved with
    | kept carts orders grows | opened dto tenantId storeId carts orders grows =>
      exact carries.of_same orders
    | turned cart cart' turns carts orders grows => exact carries.of_same orders
    | ordered cart dto order itemIds stored isOpen made listed carts orders first grows =>
      exact carries.of_subset fun row listed => orders ▸ List.mem_append_left _ listed
  | promoted cart promotion profile applied => exact carries.of_same (by rw [applied.rest])
  | adjusted accountId adjusted credited => exact carries.of_same (by rw [adjusted.rest])
  | created tenantId code audit is | changed audit is => exact carries.of_same (by rw [is])
  | transitioned current admitted carts orders customers redemptions grows =>
    exact carries.modify orders fun order stored same under => { under with }
  | finalised order phone profile accountId found known recorded =>
    exact carries.finalised keys found known recorded (fun _ _ kind => kind) (closed phone)

theorem carries_run (closed : ∀ phone, P phone → Text.trim phone ≠ "" →
    P (normalizeCustomerPhone phone)) (keys : GrowthKeys db)
    (carries : Carries claims orderId P db) (events : List GrowthRequest) :
    GrowthKeys (Growth.run db events) ∧ Carries claims orderId P (Growth.run db events) := by
  have keeps : ∀ (s : Db) (r : GrowthRequest), GrowthKeys s ∧ Carries claims orderId P s →
      GrowthKeys (Growth.step s r) ∧ Carries claims orderId P (Growth.step s r) :=
    fun s r both => ⟨Growth.step_growthKeys both.1 r, carries_step closed both.1 both.2 r⟩
  exact Trace.run_always keeps ⟨keys, carries⟩ events

theorem normalizeCustomerPhone_blank {phone : String} (blank : Text.trim phone = "") :
    normalizeCustomerPhone phone = "" := by
  have none : (phone.toList.filter fun c => '0' ≤ c ∧ c ≤ '9') = [] := by
    refine List.filter_eq_nil_iff.mpr fun c written digit => ?_
    refine Text.trim_ne_empty written ?_ blank
    exact Text.isSpace_of_isDigit (by simpa [Char.isDigit, Char.le_def] using digit)
  rw [normalizeCustomerPhone, none]
  exact blank

theorem settledPhone_settles {phone other : String}
    (is : other = phone ∨ other = settledPhone phone) :
    settledPhone other = settledPhone phone := by
  rcases is with rfl | rfl
  · rfl
  · unfold settledPhone
    by_cases blank : Text.trim phone = ""
    · simp only [blank, if_true]
    · simp only [blank, if_false, normalizeCustomerPhone_idem, ite_self]

theorem normalize_of_filled {phone other : String} (filled : Text.trim other ≠ "")
    (settles : settledPhone other = settledPhone phone) :
    normalizeCustomerPhone other = settledPhone phone := by
  rw [← settles, settledPhone, if_neg filled]

theorem settledPhone_eq_iff {phone other : String} (trimmed : Text.trim phone = phone)
    (filled : phone ≠ "") : settledPhone other = phone ↔ normalizeCustomerPhone other = phone := by
  unfold settledPhone
  split
  · next blank =>
    rw [normalizeCustomerPhone_blank blank]
    constructor
    · rintro rfl
      exact absurd (trimmed.symm.trans blank) filled
    · exact fun empty => absurd empty.symm filled
  · rfl

theorem Finalised.step (finalised : Finalised orderId db db') :
    ∃ r : GrowthRequest, db' = Growth.step db r := by
  obtain ⟨env, context, result, done⟩ := finalised
  refine ⟨⟨env, context, .finalizeOrderGrowth orderId⟩, ?_⟩
  show db' = (Call.exec (Call.transact _) db).2
  rw [Call.transact_ok done]

theorem Finalised.carries {phone : String} (keys : GrowthKeys db)
    (carries : Carries claims orderId (fun q => q = phone ∨ q = settledPhone phone) db)
    (finalised : Finalised orderId db db') :
    Carries claims orderId (· = settledPhone phone) db' := by
  obtain ⟨env, context, result, done⟩ := finalised
  obtain ⟨order, found, after⟩ := Growth.finalizeOrderGrowthTx_recorded keys.customers done
  cases known : order.customerPhone.filter fun phone => Text.trim phone ≠ "" with
  | none =>
    rw [known] at after
    obtain ⟨stored, sameId⟩ := Table.findUnique_mem (Orders.findOrder_ok_iff.mp found).1
    obtain ⟨row, listed, under⟩ := carries
    obtain rfl := Rows.eq_of_key keys.orders listed stored (under.id.trans sameId.symm)
    obtain ⟨own, is, kind⟩ := under.phone
    have blank : Text.trim own = "" := by
      by_contra filled
      rw [is, Option.filter_some, if_pos (decide_eq_true filled)] at known
      exact nomatch known
    have settles := settledPhone_settles kind
    rw [settledPhone, if_pos blank] at settles
    exact after ▸ ⟨row, listed, { under with phone := ⟨own, is, settles⟩ }⟩
  | some own =>
    rw [known] at after
    obtain ⟨profile, accountId, recorded⟩ := after
    refine carries.finalised keys found known recorded (fun apart => absurd rfl apart) ?_
    exact fun kind filled => normalize_of_filled filled (settledPhone_settles kind)

end

section
variable {env : StorefrontEnv} {claims : StorefrontCustomerSessionClaims} {token : String}
  {orderId : Id} {phone : String} {db db' : Db}

theorem mem_customerOrders {order : Order} : order ∈ customerOrders claims db ↔
    order ∈ db.orders ∧ order.tenantId = claims.tenantId ∧ order.storeId = claims.storeId ∧
      order.channel = .delivery ∧ order.customerPhone = some claims.customerPhone := by
  rw [customerOrders, List.mem_insertionSort, List.mem_filter, decide_eq_true_iff]

theorem authorize_public_iff {store : Store} {tenantId storeId : Id} {u : Unit} :
    authorize (buildPublicContext store) tenantId storeId = .ok u ↔
      tenantId = store.tenantId ∧ storeId = store.id := by
  have tenant : resolveTenantId (buildPublicContext store) (some tenantId) =
      if tenantId = store.tenantId then .ok store.tenantId
      else .error (.forbidden "Cross-tenant access is not allowed.") := by
    by_cases same : tenantId = store.tenantId <;> simp [resolveTenantId, buildPublicContext, same]
  have access : enforceStoreAccess (buildPublicContext store) storeId = .ok u ↔
      storeId = store.id := by
    simp [enforceStoreAccess, buildPublicContext, rejectIf_ok_iff]
  rw [authorize, except_bind_ok_iff, tenant]
  by_cases same : tenantId = store.tenantId <;> simp [same, access]

theorem sees_iff (keys : GrowthKeys db)
    (accepted : verifyCustomerSessionTokenLoose env token = .ok claims) (serves : Serves claims db)
    (carries : Carries claims orderId (· = phone) db) :
    SeesAndRepeats env token orderId db ↔ phone = claims.customerPhone := by
  obtain ⟨store, loaded, tenant⟩ := serves
  obtain ⟨row, listed, under⟩ := carries
  obtain ⟨own, is, rfl⟩ := under.phone
  have storeIs : store.id = claims.storeId := by
    obtain ⟨row, found, h⟩ := except_bind_ok_iff.mp loaded
    obtain ⟨_, -, h⟩ := except_bind_ok_iff.mp h
    obtain rfl := except_pure_ok_iff.mp h
    exact (Rows.find_some (required_ok_iff.mp found)).2
  have found : orders.findUnique orderId db = some row :=
    under.id ▸ Rows.find_of_mem keys.orders listed
  constructor
  · rintro ⟨-, order, admitted⟩
    simp only [admitRepeat, except_bind_ok_iff, accepted, Except.ok.injEq, exists_eq_left',
      rejectIf_ok_iff, not_not] at admitted
    obtain ⟨_, -, order, read, _, same, -⟩ := admitted
    obtain rfl := Option.some.inj ((Orders.findOrder_ok_iff.mp read).1.symm.trans found)
    exact Option.some.inj (is.symm.trans same)
  · rintro rfl
    refine ⟨⟨_, ?_, listItem row, List.mem_map_of_mem (mem_customerOrders.mpr ⟨listed, under.tenant,
      under.store, under.channel, is⟩), under.id⟩, row, ?_⟩
    · simp only [listCustomerOrders, except_bind_ok_iff, except_pure_ok_iff]
      exact ⟨claims, accepted, store, loaded, rfl⟩
    · have authorized : authorize (buildPublicContext store) row.tenantId row.storeId = .ok () :=
        authorize_public_iff.mpr ⟨under.tenant.trans tenant.symm, under.store.trans storeIs.symm⟩
      simp only [admitRepeat, except_bind_ok_iff, rejectIf_ok_iff, except_pure_ok_iff]
      exact ⟨claims, accepted, store, loaded, row, Orders.findOrder_ok_iff.mpr ⟨found, authorized⟩,
        (), not_not.mpr is, (), not_not.mpr under.channel, rfl⟩

theorem admitCheckout_session {cartId : Id} {dto : StorefrontCheckoutDto} {a : AdmittedCheckout}
    (h : admitCheckout env cartId dto db = .ok a) (session : a.customerSession = some claims) :
    a.store.id = claims.storeId ∧ a.store.tenantId = claims.tenantId := by
  simp only [admitCheckout, except_bind_ok_iff, except_pure_ok_iff] at h
  obtain ⟨_, -, store, -, read, found, _, -, _, -, _, -, _, -, _, -, _, -, rfl⟩ := h
  obtain rfl : read = some claims := session
  unfold readCustomerSession at found
  split at found
  · cases found
  · next token filled =>
    cases verified : verifyCustomerSessionToken env token store with
    | error e =>
      rw [verified] at found
      cases found
    | ok own =>
      rw [verified] at found
      obtain rfl := Option.some.inj (Except.ok.inj found)
      simp only [verifyCustomerSessionToken, except_bind_ok_iff, except_pure_ok_iff,
        rejectIf_ok_iff] at verified
      obtain ⟨_, -, _, -, _, valid, rfl⟩ := verified
      push Not at valid
      exact ⟨valid.1.symm, valid.2.symm⟩

/-- The order has the phone of the request, or else that of the session. -/
theorem PlacedUnder.carries {dto : StorefrontCheckoutDto} {order : Order}
    (placed : PlacedUnder env claims dto db order db') :
    Carries claims order.id (· = dto.customerPhone.getD claims.customerPhone) db' ∧
      ∃ r : GrowthRequest, db' = Growth.step db r := by
  obtain ⟨cartId, seen, a, admitted, session, placed, channel⟩ := placed
  obtain ⟨store, tenant⟩ := admitCheckout_session admitted session
  obtain ⟨cart, plan, own, made, done⟩ := Orders.checkoutTx_ok placed
  simp only [Orders.admitCheckout, except_bind_ok_iff, except_pure_ok_iff, Prod.mk.injEq] at own
  obtain ⟨_, -, _, -, _, authorized, _, -, _, -, rfl, rfl⟩ := own
  obtain ⟨ownTenant, ownStore⟩ := authorize_public_iff.mp authorized
  have given : order.customerPhone = some (dto.customerPhone.getD claims.customerPhone) := by
    rw [made]
    show (customerPhoneOf dto a).or _ = _
    rw [customerPhoneOf, session]
    cases dto.customerPhone <;> rfl
  refine ⟨⟨order, ?_, rfl, ?_, ?_, channel, _, given, rfl⟩, ⟨env.ordering,
    buildPublicContext a.store, .cart (.checkout cartId
      { customerName := dto.customerName.or claims.customerName
        customerPhone := customerPhoneOf dto a
        note := dto.note }) rfl⟩, ?_⟩
  · rw [done.rest]
    exact List.mem_append_right _ List.mem_cons_self
  · rw [made]
    exact ownTenant.trans tenant
  · rw [made]
    exact ownStore.trans store
  · show db' = (Call.exec (Call.transact _) db).2
    rw [Call.transact_ok placed]

/-- An order that was placed and finalised under a session is seen and repeated by it, for good,
just when the normal form of the order's phone is the phone of the session. -/
theorem sees_own_orders_iff {sessions : CustomerSessionEnv}
    {dto : CreateStorefrontCustomerSessionDto} {seen : Db}
    (opened : createCustomerSession sessions dto seen = .ok claims)
    (accepted : verifyCustomerSessionTokenLoose env token = .ok claims)
    {start : Db} (fresh : Fresh start) (before between after : List GrowthRequest)
    {checkout : StorefrontCheckoutDto} {order : Order}
    (placed : PlacedUnder env claims checkout (Growth.run start before) order db)
    (finalised : Finalised order.id (Growth.run db between) db')
    (serves : Serves claims (Growth.run db' after)) :
    SeesAndRepeats env token order.id (Growth.run db' after) ↔
      normalizeCustomerPhone (checkout.customerPhone.getD (Text.trim dto.customerPhone)) =
        Text.trim dto.customerPhone := by
  have phoneIs : claims.customerPhone = Text.trim dto.customerPhone ∧
      Text.trim dto.customerPhone ≠ "" := by
    simp only [createCustomerSession, except_bind_ok_iff, except_pure_ok_iff,
      rejectIf_ok_iff] at opened
    obtain ⟨_, -, _, -, _, -, _, -, _, filled, rfl⟩ := opened
    exact ⟨rfl, filled⟩
  obtain ⟨same, filled⟩ := phoneIs
  have trimmed : Text.trim claims.customerPhone = claims.customerPhone := by
    rw [same, Text.trim_trim]
  rw [← same] at filled ⊢
  -- until it is finalised, the order has the phone it was placed with or its normal form
  have keep : ∀ (s : Db) (r : GrowthRequest), GrowthKeys s → GrowthKeys (Growth.step s r) :=
    fun _ r keys => Growth.step_growthKeys keys r
  have keys := Trace.run_always keep (Growth.growthKeys_fresh fresh) before
  obtain ⟨carried, r, rfl⟩ := placed.carries
  obtain ⟨keys, carried⟩ := carries_run
    (P := fun q => q = checkout.customerPhone.getD claims.customerPhone ∨
      q = settledPhone (checkout.customerPhone.getD claims.customerPhone))
    (fun _ kind written => .inr (normalize_of_filled written (settledPhone_settles kind)))
    (Growth.step_growthKeys keys r) (carried.mono fun _ is => .inl is) between
  have settled := finalised.carries keys carried
  obtain ⟨r', rfl⟩ := finalised.step
  -- and from then on the normal form
  obtain ⟨keys, settled⟩ := carries_run
    (fun _ is written => normalize_of_filled written (settledPhone_settles (.inr is)))
    (Growth.step_growthKeys keys r') settled after
  rw [sees_iff keys accepted serves settled]
  exact settledPhone_eq_iff trimmed filled

end

def tableStore : Store := { id := 2, tenantId := 1, status := .active }

def tableSessions : CustomerSessionEnv where
  codeOf _ := "table"
  resolveEffectiveCustomization _ _ _ := .ok []

def tableSession (phone : String) : StorefrontCustomerSessionClaims where
  tenantId := 1
  storeId := 2
  customerName := none
  customerPhone := phone
  scope := "storefront_customer_session"

def table (phone : String) : StorefrontEnv where
  verifyCartToken _ := some ⟨100, 1, 2, none, none, .customer, "storefront_cart_public"⟩
  verifySessionToken _ := some (tableSession phone)
  signTrackingToken _ := "token"
  resolveEffectiveCustomization _ _ _ _ _ := .ok []
  ordering := Env.shipped 4 "r" "A-1" fun _ => .ok []
  paying := Env.shipped 5 "r" "A-1" fun _ => .ok []
  confirming := Env.shipped 6 "r" "A-1" fun _ => .ok []
  growing := Env.shipped 7 "r" "A-1" fun _ => .ok []

def tableCheckout : StorefrontCheckoutDto where
  accessToken := "token"
  customerSessionToken := some "token"
  customerName := none
  customerPhone := none
  note := none
  paymentMethod := .card

def tableCart : List GrowthRequest :=
  [Growth.createCartAt 1 { storeId := 2, channel := some .delivery },
   Growth.addItemAt 2 100 { productId := 10, quantity := 1 },
   Growth.atCounter 3 (.cart (.applyCartFulfillment 100 (.obj [("mode", .str "PICKUP")])) rfl)]

def tableVisit (phone : String) (p : Id → Db → Bool) : Bool :=
  Call.answersWith (Orders.checkout (table phone).ordering (buildPublicContext tableStore) 100
    { customerPhone := some phone }) (Growth.run Growth.bakery tableCart) fun order s =>
      order.channel = .delivery && Call.answersWith
        (finalizeOrderGrowth 7 (buildPublicContext tableStore) order.id) s fun _ t => p order.id t

theorem tableVisit_finalised {phone : String} {p : Id → Db → Bool}
    (admits : ∃ a, admitCheckout (table phone) 100 tableCheckout Growth.bakery = .ok a ∧
      a.customerSession = some (tableSession phone) ∧ a.store = tableStore ∧
        customerPhoneOf tableCheckout a = some phone)
    (visited : tableVisit phone p = true) : ∃ order s t,
      PlacedUnder (table phone) (tableSession phone) tableCheckout
        (Growth.run Growth.bakery tableCart) order s ∧
      Finalised order.id s t ∧ p order.id t = true := by
  simp only [tableVisit, Call.answersWith_iff, Bool.and_eq_true, decide_eq_true_iff] at visited
  obtain ⟨order, s, placed, channel, result, t, finalised, holds⟩ := visited
  obtain ⟨a, admitted, session, store, given⟩ := admits
  refine ⟨order, s, t, ⟨100, _, a, admitted, session, ?_, channel⟩,
    ⟨Env.shipped 7 "r" "A-1" fun _ => .ok [], _, result, Call.transact_ok_iff.mp finalised⟩, holds⟩
  rw [store, given]
  exact Call.transact_ok_iff.mp placed

/-- The normal form of the phone is the phone. -/
theorem plain_phone_sees_its_order : ∃ orderId t,
    SeesAndRepeats (table "+8370600") "token" orderId t := by
  have visited : tableVisit "+8370600" (fun _ t => (loadPublicStoreById 2 t).toOption.any
      fun store => store.tenantId = 1) = true := by decide +kernel
  obtain ⟨order, s, t, placed, finalised, served⟩ :=
    tableVisit_finalised ⟨_, rfl, rfl, rfl, rfl⟩ visited
  obtain ⟨store, loaded, tenant⟩ := (Option.any_eq_true _ _).mp served
  have serves : Serves (tableSession "+8370600") t :=
    ⟨store, toOption_eq_some_iff.mp loaded, of_decide_eq_true tenant⟩
  have opened : createCustomerSession tableSessions ⟨"table", none, "+8370600"⟩ Growth.bakery =
      .ok (tableSession "+8370600") := rfl
  exact ⟨order.id, t, (sees_own_orders_iff opened rfl Growth.bakery_fresh tableCart [] [] placed
    finalised serves).mpr (by decide +kernel)⟩

/-- A session under `8 370600` does not find the order: that is kept under `+8370600`. -/
theorem spaced_phone_loses_its_order : ¬∀ (env : StorefrontEnv) (sessions : CustomerSessionEnv)
    (dto : CreateStorefrontCustomerSessionDto) (seen : Db)
    (claims : StorefrontCustomerSessionClaims) (token : String),
    createCustomerSession sessions dto seen = .ok claims →
    verifyCustomerSessionTokenLoose env token = .ok claims →
    ∀ (start : Db), Fresh start → ∀ (before between after : List GrowthRequest)
      (checkout : StorefrontCheckoutDto) (order : Order) (db db' : Db),
      PlacedUnder env claims checkout (Growth.run start before) order db →
      Finalised order.id (Growth.run db between) db' → Serves claims (Growth.run db' after) →
      SeesAndRepeats env token order.id (Growth.run db' after) := by
  intro claim
  have visited : tableVisit "8 370600" (fun _ t => (loadPublicStoreById 2 t).toOption.any
      (fun store => store.tenantId = 1) && (listCustomerOrders (table "8 370600") "token"
        t).toOption.any fun items => items.length = 0) = true := by decide +kernel
  obtain ⟨order, s, t, placed, finalised, shown⟩ :=
    tableVisit_finalised ⟨_, rfl, rfl, rfl, rfl⟩ visited
  obtain ⟨served, unlisted⟩ := Bool.and_eq_true_iff.mp shown
  obtain ⟨store, loaded, tenant⟩ := (Option.any_eq_true _ _).mp served
  have serves : Serves (tableSession "8 370600") t :=
    ⟨store, toOption_eq_some_iff.mp loaded, of_decide_eq_true tenant⟩
  obtain ⟨items, listed, item, listedItem, -⟩ := (claim (table "8 370600") tableSessions
    ⟨"table", none, "8 370600"⟩ Growth.bakery (tableSession "8 370600") "token" rfl rfl
    Growth.bakery Growth.bakery_fresh tableCart [] [] tableCheckout order s t placed finalised
    serves).1
  obtain ⟨items', read, empty⟩ := (Option.any_eq_true _ _).mp unlisted
  obtain rfl := Except.ok.inj (listed.symm.trans (toOption_eq_some_iff.mp read))
  rw [List.length_eq_zero_iff.mp (of_decide_eq_true empty)] at listedItem
  exact absurd listedItem List.not_mem_nil

end Exetron.Storefront
