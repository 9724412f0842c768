import Exetron.Growth.Uses

/-!
# Usage limits

A promotion counts the orders that were finalised with it. It stays within its limit as long as each
of them has a phone number and finds a use left: the limit was looked at when the promotion was
applied, and any number of carts may have looked.
-/

namespace Exetron.Growth

open Lib Orders Customers Carts List

/-- The order of a request that finalises one, with success. -/
def finalisations (db : Db) (r : GrowthRequest) : List Id :=
  match r.call with
  | .finalizeOrderGrowth orderId =>
    match (Call.exec (finalizeOrderGrowth r.env.now r.context orderId) db).1 with
    | .ok _ => [orderId]
    | .error _ => []
  | _ => []

abbrev finalised (db : Db) (rs : List GrowthRequest) : List Id :=
  Trace.recorded step finalisations [] db rs

def WithinLimits (orderIds : List Id) (db : Db) : Prop :=
  ∀ promotion ∈ db.customers.campaigns, ∀ usageLimit ∈ promotion.usageLimit,
    promotion.usedCount ≤ usageLimit ∧ uses db orderIds promotion.id ≤ usageLimit

def FindsRoom (db : Db) (order : Order) : Prop :=
  ∀ promotionId ∈ campaignOf order, order.id ∈ redemptions db ∨
    Text.isFilled order.customerPhone ∧ ∀ promotion ∈ db.customers.campaigns,
      promotion.id = promotionId → ∀ usageLimit ∈ promotion.usageLimit,
        promotion.usedCount < usageLimit

def KeepsRoom (db : Db) (r : GrowthRequest) : Prop :=
  match r.call with
  | .finalizeOrderGrowth orderId =>
    ∀ order ∈ (findOrder r.context orderId db).toOption, FindsRoom db order
  | .updatePromotion promotionId dto =>
    ∀ given ∈ dto.usageLimit, ∀ usageLimit ∈ given, ∀ promotion ∈ db.customers.campaigns,
      promotion.id = toString promotionId → promotion.usedCount ≤ usageLimit
  | _ => True

instance (db : Db) (order : Order) : Decidable (FindsRoom db order) :=
  inferInstanceAs (Decidable (∀ promotionId ∈ campaignOf order, order.id ∈ redemptions db ∨
    Text.isFilled order.customerPhone ∧ ∀ promotion ∈ db.customers.campaigns,
      promotion.id = promotionId → ∀ usageLimit ∈ promotion.usageLimit,
        promotion.usedCount < usageLimit))

instance (db : Db) (r : GrowthRequest) : Decidable (KeepsRoom db r) :=
  match r with
  | ⟨_, context, .finalizeOrderGrowth orderId⟩ =>
    inferInstanceAs (Decidable (∀ order ∈ (findOrder context orderId db).toOption,
      FindsRoom db order))
  | ⟨_, _, .updatePromotion promotionId dto⟩ =>
    inferInstanceAs (Decidable (∀ given ∈ dto.usageLimit, ∀ usageLimit ∈ given,
      ∀ promotion ∈ db.customers.campaigns, promotion.id = toString promotionId →
        promotion.usedCount ≤ usageLimit))
  | ⟨_, _, .cart _ _⟩ | ⟨_, _, .createPromotion _⟩ | ⟨_, _, .adjustLoyalty _ _⟩
  | ⟨_, _, .transitionOrder _ _⟩ | ⟨_, _, .elsewhere _ _⟩ => isTrue trivial

/-- Every order finalised with a promotion is counted for it, and every limit holds. -/
structure UsesCounted (orderIds : List Id) (db : Db) : Prop where
  known : ∀ orderId ∈ orderIds, orderId ∈ db.orders.map Order.id
  counted : ∀ order ∈ db.orders, order.id ∈ orderIds → (campaignOf order).isSome →
    order.id ∈ redemptions db
  within : ∀ promotion ∈ db.customers.campaigns, ∀ usageLimit ∈ promotion.usageLimit,
    promotion.usedCount ≤ usageLimit

section
variable {orderIds : List Id} {db db' : Db}

theorem UsesCounted.within_limits (inv : UsesCounted orderIds db) (tallied : Tallied db) :
    WithinLimits orderIds db := by
  intro promotion stored usageLimit given
  have within := inv.within promotion stored usageLimit given
  have fewer : uses db orderIds promotion.id ≤ uses db (redemptions db) promotion.id := by
    refine countP_mono_left fun order listed has => ?_
    obtain ⟨isFinalised, named⟩ := of_decide_eq_true has
    exact decide_eq_true ⟨inv.counted order listed isFinalised (by rw [named]; rfl), named⟩
  have counts := tallied.counts promotion stored
  exact ⟨within, by omega⟩

theorem usesCounted_fresh (fresh : Fresh db) : UsesCounted [] db where
  known orderId listed := by cases listed
  counted order stored listed := by cases listed
  within promotion stored := by
    rw [fresh.customers] at stored
    cases stored

theorem UsesCounted.of_same (inv : UsesCounted orderIds db)
    (counted : ∀ id ∈ redemptions db, id ∈ redemptions db')
    (within : ∀ promotion ∈ db'.customers.campaigns, ∀ usageLimit ∈ promotion.usageLimit,
      promotion.usedCount ≤ usageLimit)
    {f : Order → Order} (keeps : KeepsUse f) {orderId : Id}
    (orders : db'.orders = Rows.modify Order.id orderId f db.orders) :
    UsesCounted orderIds db' where
  known id listed := by
    rw [orders, Rows.map_modify keeps.id]
    exact inv.known id listed
  counted order stored listed promoted := by
    refine counted _ ?_
    rw [orders] at stored
    rcases Rows.mem_of_modify stored with before | ⟨before, stored', _, rfl⟩
    · exact inv.counted order before listed promoted
    · rw [campaignOf, keeps.snapshot before] at promoted
      rw [keeps.id before] at listed ⊢
      exact inv.counted before stored' listed promoted
  within := within

theorem UsesCounted.of_untouched (inv : UsesCounted orderIds db)
    (counted : redemptions db' = redemptions db)
    (campaigns : db'.customers.campaigns = db.customers.campaigns)
    (orders : db'.orders = db.orders) : UsesCounted orderIds db' :=
  inv.of_same (fun _ listed => counted ▸ listed) (campaigns ▸ inv.within) keepsUse_refl
    (orders.trans (modify_none db.orders 0))

theorem UsesCounted.ordered (inv : UsesCounted orderIds db) (keys : GrowthKeys db)
    (customers : db'.customers = db.customers) (counted : redemptions db' = redemptions db)
    {order : Order} (new : order.id = db.nextId) (orders : db'.orders = db.orders ++ [order]) :
    UsesCounted orderIds db' where
  known id listed := by
    rw [orders, map_append]
    exact mem_append_left _ (inv.known id listed)
  counted other stored listed promoted := by
    rw [counted]
    rw [orders] at stored
    rcases mem_append.mp stored with before | last
    · exact inv.counted other before listed promoted
    · rw [mem_singleton.mp last] at listed
      obtain ⟨earlier, before, same⟩ := mem_map.mp (inv.known order.id listed)
      exact absurd (same.trans new) (keys.oldOrders earlier before).ne
  within := customers ▸ inv.within

theorem UsesCounted.created (inv : UsesCounted orderIds db) {dto : CreatePromotionCampaignDto}
    {tenantId : Id} {code : String} {audit : List AuditEntry} (is : db' = { db with
      nextId := db.nextId + 1
      customers := { db.customers with
        campaigns := db.customers.campaigns ++ [newCampaign dto tenantId code db.nextId] }
      logs := { db.logs with audit := audit } }) : UsesCounted orderIds db' := by
  rw [is]
  refine { known := inv.known, counted := inv.counted, within := fun promotion stored => ?_ }
  rcases mem_append.mp stored with before | new
  · exact inv.within promotion before
  · rw [mem_singleton.mp new]
    exact fun usageLimit given => le_trans Int.one_nonneg (dto.usageLimit_min usageLimit given)

theorem UsesCounted.changed (inv : UsesCounted orderIds db) {env : Env} {context : RequestContext}
    {promotionId : Id} {dto : UpdatePromotionCampaignDto} {audit : List AuditEntry}
    (room : KeepsRoom db ⟨env, context, .updatePromotion promotionId dto⟩) (is : db' = { db with
      customers := { db.customers with
        campaigns := Rows.modify PromotionCampaign.id (toString promotionId) (withChanges env dto)
          db.customers.campaigns }
      logs := { db.logs with audit := audit } }) : UsesCounted orderIds db' := by
  rw [is]
  refine { known := inv.known, counted := inv.counted, within := fun promotion stored => ?_ }
  rcases Rows.mem_of_modify stored with before | ⟨before, stored', own, rfl⟩
  · exact inv.within promotion before
  · intro usageLimit given
    replace given : usageLimit ∈ dto.usageLimit.getD before.usageLimit := given
    cases limit : dto.usageLimit with
    | none =>
      rw [limit] at given
      exact inv.within before stored' usageLimit given
    | some limit' =>
      rw [limit] at given
      exact room limit' limit usageLimit given before stored' own

theorem UsesCounted.finalised (inv : UsesCounted orderIds db) {order : Order} {phone : String}
    {profile : CustomerProfile} {accountId : Id} (room : FindsRoom db order)
    (recorded : GrowthRecorded order phone profile accountId db db') :
    UsesCounted orderIds db' := by
  have more : ∀ id ∈ redemptions db, id ∈ redemptions db' := fun id listed => by
    rw [recorded.redemptions]
    exact mem_append_left _ listed
  refine inv.of_same more (fun promotion listed usageLimit given => ?_)
    (keepsUse_linkTo order profile) (congrArg Db.orders recorded.rest)
  rw [recorded.campaigns] at listed
  cases isNew : uncounted order db with
  | none =>
    rw [Customers.counted, isNew] at listed
    exact inv.within promotion listed usageLimit given
  | some promotionId =>
    rw [Customers.counted, isNew] at listed
    obtain ⟨absent, campaign⟩ := not_counted_of_uncounted isNew
    have left := ((room promotionId campaign).resolve_left absent).2
    rcases Rows.mem_of_modify listed with before | ⟨before, stored', own, rfl⟩
    · exact inv.within promotion before usageLimit given
    · exact left before stored' own usageLimit given

/-- Every request that keeps room keeps every order counted and every limit. -/
theorem Grows.uses {r : GrowthRequest} (grows : Grows db r db') (keys : GrowthKeys db)
    (room : KeepsRoom db r) (inv : UsesCounted orderIds db) : UsesCounted orderIds db' := by
  cases grows with
  | untouched same =>
    exact inv.of_untouched same.redemptions (by rw [same.customers]) same.orders
  | moved other moved customers counted supply =>
    have campaigns : db'.customers.campaigns = db.customers.campaigns := by rw [customers]
    cases moved with
    | kept _ orders _ | opened _ _ _ _ orders _ | turned _ _ _ _ orders _ =>
      exact inv.of_untouched counted campaigns orders
    | ordered cart dto order itemIds stored isOpen made listed carts orders first grows =>
      exact inv.ordered keys customers counted (by rw [made]; rfl) orders
  | promoted cart promotion profile applied =>
    exact inv.of_untouched (by rw [applied.rest]; rfl) applied.enrolled.campaigns
      (by rw [applied.rest])
  | adjusted accountId adjusted credited =>
    exact inv.of_untouched adjusted.redemptions adjusted.campaigns (by rw [adjusted.rest])
  | created tenantId code audit is => exact inv.created is
  | changed audit is => exact inv.changed room is
  | transitioned current admitted carts orders customers counted grows =>
    exact inv.of_same (fun _ listed => counted ▸ listed) (customers ▸ inv.within)
      (keepsUse_applyTransition _ _) orders
  | finalised order phone profile accountId found known recorded =>
    exact inv.finalised (room order (by rw [found]; rfl)) recorded

theorem counted_of_finalised {now : Instant} {context : RequestContext} {orderId : Id}
    {result : Option (CustomerProfile × Option LoyaltyAccount)} (keys : GrowthKeys db)
    (room : ∀ order ∈ (findOrder context orderId db).toOption, FindsRoom db order)
    (h : finalizeOrderGrowthTx now context orderId db = .ok (result, db')) :
    orderId ∈ db'.orders.map Order.id ∧ ∀ row ∈ db'.orders, row.id = orderId →
      (campaignOf row).isSome → row.id ∈ redemptions db' := by
  obtain ⟨order, found, done⟩ := finalizeOrderGrowthTx_recorded keys.customers h
  obtain ⟨stored, rfl⟩ := Table.findUnique_mem (findOrder_ok_iff.mp found).1
  have finds := room order (by rw [found]; rfl)
  cases known : order.customerPhone.filter fun phone => Text.trim phone ≠ "" with
  | none =>
    rw [known] at done
    rw [done]
    refine ⟨mem_map_of_mem stored, fun row listed same promoted => ?_⟩
    obtain rfl := Rows.eq_of_key keys.orders listed stored same
    obtain ⟨promotionId, campaign⟩ := Option.isSome_iff_exists.mp promoted
    rcases finds promotionId campaign with before | ⟨filled, _⟩
    · exact before
    · rw [Text.isFilled_eq_isSome, known] at filled
      cases filled
  | some phone =>
    rw [known] at done
    obtain ⟨profile, accountId, recorded⟩ := done
    refine ⟨?_, fun row listed same promoted => ?_⟩
    · have ids : (Rows.modify Order.id order.id (linkTo order profile) db.orders).map Order.id =
          db.orders.map Order.id := by
        refine Rows.map_modify (fun row => ?_) _
        rfl
      rw [recorded.rest]
      show _ ∈ (Rows.modify Order.id order.id (linkTo order profile) db.orders).map Order.id
      rw [ids]
      exact mem_map_of_mem stored
    have campaign : (campaignOf order).isSome := by
      rw [recorded.rest] at listed
      obtain ⟨before, stored', rfl⟩ := Rows.mem_modify.mp listed
      have is : before.id = order.id := by
        split at same
        · assumption
        · exact same
      rw [if_pos is] at promoted
      rw [← Rows.eq_of_key keys.orders stored' stored is]
      exact promoted
    rw [recorded.redemptions, same]
    by_cases before : order.id ∈ redemptions db
    · exact mem_append_left _ before
    · refine mem_append_right _ (mem_map.mpr ?_)
      obtain ⟨promotionId, is⟩ := Option.isSome_iff_exists.mp campaign
      refine ⟨promotionId, ?_, rfl⟩
      rw [uncounted, if_neg fun listed => before (mem_redemptions_iff.mpr listed), is]
      exact mem_singleton_self _

theorem usesCounted_step {r : GrowthRequest} (keys : GrowthKeys db) (room : KeepsRoom db r)
    (inv : UsesCounted orderIds db) : UsesCounted (finalisations db r ++ orderIds) (step db r) := by
  have kept := (step_grows keys r).uses keys room inv
  obtain ⟨env, context, call⟩ := r
  cases call with
  | finalizeOrderGrowth orderId =>
    cases body : finalizeOrderGrowthTx env.now context orderId db with
    | error e =>
      have refused : finalisations db ⟨env, context, .finalizeOrderGrowth orderId⟩ = [] := by
        simp only [finalisations, finalizeOrderGrowth, Call.transact_error body]
      rw [refused]
      exact kept
    | ok result =>
      obtain ⟨answer, m⟩ := result
      have answered :
          finalisations db ⟨env, context, .finalizeOrderGrowth orderId⟩ = [orderId] := by
        simp only [finalisations, finalizeOrderGrowth, Call.transact_ok body]
      have after : step db ⟨env, context, .finalizeOrderGrowth orderId⟩ = m := by
        show (Call.exec (Call.transact _) db).2 = m
        rw [Call.transact_ok body]
      obtain ⟨isKnown, isCounted⟩ := counted_of_finalised keys room body
      rw [answered]
      rw [after] at kept ⊢
      refine { kept with
        known := fun id listed => ?_
        counted := fun row stored listed promoted => ?_ }
      · rcases mem_cons.mp listed with rfl | earlier
        · exact isKnown
        · exact kept.known id earlier
      · rcases mem_cons.mp listed with same | earlier
        · exact isCounted row stored same promoted
        · exact kept.counted row stored earlier promoted
  | cart | adjustLoyalty | createPromotion | updatePromotion | transitionOrder | elsewhere =>
    exact kept

end

/-- Along a run in which every order finalised finds room, no promotion is used more often than it
may be, in any state. -/
theorem usage_limits_kept {db : Db} (fresh : Fresh db) {rs : List GrowthRequest}
    (room : Trace.Along step KeepsRoom db rs) :
    ∀ before, before <+: rs → WithinLimits (finalised db before) (run db before) := by
  intro before prior
  have extend : ∀ (h : List Id) s e, Tallied s ∧ UsesCounted h s → KeepsRoom s e →
      Tallied (step s e) ∧ UsesCounted (finalisations s e ++ h) (step s e) :=
    fun h s e inv room => ⟨step_tallied inv.1 e, usesCounted_step inv.1.keys room inv.2⟩
  have inv := Trace.run_recorded_along extend ⟨tallied_fresh fresh, usesCounted_fresh fresh⟩
    (Trace.along_prefix prior room)
  exact inv.2.within_limits inv.1

def firstComer : CreatePromotionCampaignDto where
  tenantId := 1
  code := "first"
  name := "First comer"
  type := .fixedAmount
  value := 100
  usageLimit := some 1
  pointsCost_min := by decide
  usageLimit_min := by decide

def oneAfterTheOther : List GrowthRequest :=
  [atCounter 1 (.createPromotion firstComer),
   createCartAt 2 { storeId := 2, customerPhone := some "555" },
   addItemAt 3 101 { productId := 10, quantity := 1 },
   applyPromotionAt 4 { cartId := 101, code := "FIRST" },
   checkoutAt 5 101,
   atCounter 6 (.finalizeOrderGrowth 105),
   createCartAt 7 { storeId := 2, customerPhone := some "556" },
   addItemAt 8 109 { productId := 10, quantity := 1 },
   applyPromotionAt 9 { cartId := 109, code := "FIRST" },
   checkoutAt 10 109,
   atCounter 11 (.finalizeOrderGrowth 111)]

def sideBySide : List GrowthRequest :=
  [atCounter 1 (.createPromotion firstComer),
   createCartAt 2 { storeId := 2, customerPhone := some "555" },
   addItemAt 3 101 { productId := 10, quantity := 1 },
   createCartAt 4 { storeId := 2, customerPhone := some "556" },
   addItemAt 5 103 { productId := 10, quantity := 1 },
   applyPromotionAt 6 { cartId := 101, code := "FIRST" },
   applyPromotionAt 7 { cartId := 103, code := "FIRST" },
   checkoutAt 8 101,
   checkoutAt 9 103,
   atCounter 10 (.finalizeOrderGrowth 109),
   atCounter 11 (.finalizeOrderGrowth 112)]

theorem usage_limits_kept_one_after_the_other : (∀ before, before <+: oneAfterTheOther →
      WithinLimits (finalised bakery before) (run bakery before)) ∧
    (run bakery oneAfterTheOther).customers.campaigns.map PromotionCampaign.usedCount = [1] :=
  ⟨usage_limits_kept bakery_fresh (by decide +kernel), by decide +kernel⟩

/-- Applying the promotion asks what was used, and uses nothing. -/
theorem used_twice_side_by_side : ¬∀ before, before <+: sideBySide →
    WithinLimits (finalised bakery before) (run bakery before) := by
  intro always
  have within := always sideBySide (List.prefix_refl _)
  have exceeded : (run bakery sideBySide).customers.campaigns.any (fun promotion =>
      promotion.usageLimit = some 1 ∧ promotion.usedCount = 2) = true := by decide +kernel
  obtain ⟨promotion, stored, is⟩ := List.any_eq_true.mp exceeded
  obtain ⟨limited, used⟩ := of_decide_eq_true is
  have kept := (within promotion stored 1 limited).1
  rw [used] at kept
  exact absurd kept (by decide)

end Exetron.Growth
