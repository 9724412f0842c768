import Exetron.Growth.Books
import Exetron.Growth.Snapshots

/-!
# Uses of a promotion

A promotion's counter is the number of the orders that were counted for it, whatever is requested.
-/

namespace Exetron.Growth

open Lib Orders Customers Carts

def uses (db : Db) (orderIds : List Id) (promotionId : String) : Nat :=
  db.orders.countP fun order => order.id ∈ orderIds ∧ campaignOf order = some promotionId

/-- The counters are right. -/
structure Tallied (db : Db) : Prop where
  keys : GrowthKeys db
  named : Named db
  counts : ∀ promotion ∈ db.customers.campaigns,
    promotion.usedCount = uses db (redemptions db) promotion.id

section
variable {db db' : Db}

theorem tallied_fresh (fresh : Fresh db) : Tallied db where
  keys := growthKeys_fresh fresh
  named := named_fresh fresh
  counts promotion stored := by
    rw [fresh.customers] at stored
    cases stored

/-- A change of an order that keeps what it counts for. -/
structure KeepsUse (f : Order → Order) : Prop where
  id : ∀ order, (f order).id = order.id
  snapshot : ∀ order, (f order).promotionSnapshot = order.promotionSnapshot

theorem keepsUse_refl : KeepsUse fun order => order := ⟨fun _ => rfl, fun _ => rfl⟩

theorem modify_none (rows : List Order) (orderId : Id) :
    rows = Rows.modify Order.id orderId (fun order => order) rows := by
  rw [Rows.modify, Rows.updateWhere]
  simp

theorem uses_modify {f : Order → Order} (keeps : KeepsUse f) {orderId : Id}
    (orders : db'.orders = Rows.modify Order.id orderId f db.orders) (ids : List Id)
    (promotionId : String) : uses db' ids promotionId = uses db ids promotionId := by
  have same : db'.orders.map (fun order => (order.id, campaignOf order)) =
      db.orders.map fun order => (order.id, campaignOf order) := by
    rw [orders]
    refine Rows.map_modify (fun order => ?_) _
    rw [keeps.id order, campaignOf, keeps.snapshot order]
    rfl
  have counts : ∀ d : Db, uses d ids promotionId =
      (d.orders.map fun order => (order.id, campaignOf order)).countP
        fun key => key.1 ∈ ids ∧ key.2 = some promotionId := fun d => by
    rw [List.countP_map]
    rfl
  rw [counts db', counts db, same]

theorem Tallied.of_untouched (tallied : Tallied db) (keys : GrowthKeys db') (named : Named db')
    (counted : redemptions db' = redemptions db)
    (campaigns : db'.customers.campaigns = db.customers.campaigns)
    {f : Order → Order} (keeps : KeepsUse f) {orderId : Id}
    (orders : db'.orders = Rows.modify Order.id orderId f db.orders) : Tallied db' where
  keys := keys
  named := named
  counts promotion stored := by
    rw [counted, uses_modify keeps orders]
    exact tallied.counts promotion (campaigns ▸ stored)

theorem Tallied.ordered (tallied : Tallied db) (keys : GrowthKeys db') (named : Named db')
    (customers : db'.customers = db.customers) (counted : redemptions db' = redemptions db)
    {order : Order} (new : order.id = db.nextId) (orders : db'.orders = db.orders ++ [order]) :
    Tallied db' where
  keys := keys
  named := named
  counts promotion stored := by
    have unused : order.id ∉ redemptions db := fun listed => by
      obtain ⟨other, before, same⟩ := List.mem_map.mp (tallied.keys.counted order.id listed)
      exact (tallied.keys.oldOrders other before).ne (same.trans new)
    rw [counted, uses, orders, List.countP_append, List.countP_singleton,
      if_neg (by simp [unused]), Nat.add_zero]
    exact tallied.counts promotion (customers ▸ stored)

theorem toString_inj {m n : Nat} (same : toString m = toString n) : m = n := by
  have digits : Nat.toDigits 10 m = Nat.toDigits 10 n := by
    rw [← Nat.toList_repr, ← Nat.toList_repr, ← Nat.toString_eq_repr, ← Nat.toString_eq_repr, same]
  rw [← Nat.ofDigitChars_ten_toDigits (n := m), digits, Nat.ofDigitChars_ten_toDigits]

theorem Tallied.created (tallied : Tallied db) (keys : GrowthKeys db') (named : Named db')
    {dto : CreatePromotionCampaignDto} {tenantId : Id} {code : String} {audit : List AuditEntry}
    (is : db' = { db with
      nextId := db.nextId + 1
      customers := { db.customers with
        campaigns := db.customers.campaigns ++ [newCampaign dto tenantId code db.nextId] }
      logs := { db.logs with audit := audit } }) : Tallied db' := by
  have unused : uses db (redemptions db) (toString db.nextId) = 0 := by
    refine List.countP_eq_zero.mpr fun order stored has => ?_
    obtain ⟨_, campaign⟩ := of_decide_eq_true has
    obtain ⟨promotion, listed, same⟩ :=
      List.mem_map.mp (tallied.named.orders order stored _ campaign)
    obtain ⟨n, old, text⟩ := tallied.named.campaigns promotion listed
    exact old.ne (toString_inj (text.symm.trans same))
  refine ⟨keys, named, fun promotion stored => ?_⟩
  rw [is] at stored ⊢
  rcases List.mem_append.mp stored with before | new
  · exact tallied.counts promotion before
  · rw [List.mem_singleton.mp new]
    exact congrArg Nat.cast unused.symm

theorem Tallied.changed (tallied : Tallied db) (keys : GrowthKeys db') (named : Named db')
    {env : Env} {promotionId : Id} {dto : UpdatePromotionCampaignDto} {audit : List AuditEntry}
    (is : db' = { db with
      customers := { db.customers with
        campaigns := Rows.modify PromotionCampaign.id (toString promotionId) (withChanges env dto)
          db.customers.campaigns }
      logs := { db.logs with audit := audit } }) : Tallied db' := by
  refine ⟨keys, named, fun promotion stored => ?_⟩
  rw [is] at stored ⊢
  rcases Rows.mem_of_modify stored with before | ⟨before, stored', _, rfl⟩
  · exact tallied.counts promotion before
  · exact tallied.counts before stored'

theorem not_counted_of_uncounted {order : Order} {promotionId : String}
    (isNew : uncounted order db = some promotionId) :
    order.id ∉ redemptions db ∧ campaignOf order = some promotionId := by
  unfold uncounted at isNew
  split at isNew
  · cases isNew
  · exact ⟨fun listed => ‹¬_› (mem_redemptions_iff.mp listed), isNew⟩

theorem keepsUse_linkTo (order : Order) (profile : CustomerProfile) :
    KeepsUse (linkTo order profile) := ⟨fun _ => rfl, fun _ => rfl⟩

theorem keepsUse_applyTransition (now : Instant) (dto : TransitionOrderDto) :
    KeepsUse (applyTransition now dto) := ⟨fun _ => rfl, fun _ => rfl⟩

theorem Tallied.finalised (tallied : Tallied db) (keys : GrowthKeys db') (named : Named db')
    {order : Order} {phone : String} {profile : CustomerProfile} {accountId : Id}
    (stored : order ∈ db.orders)
    (recorded : GrowthRecorded order phone profile accountId db db') : Tallied db' := by
  have orders := congrArg Db.orders recorded.rest
  have keeps := keepsUse_linkTo order profile
  have campaigns := recorded.campaigns
  have redeemed := recorded.redemptions
  cases isNew : uncounted order db with
  | none =>
    rw [Customers.counted, isNew] at campaigns
    rw [isNew, Option.toList_none, List.map_nil, List.append_nil] at redeemed
    exact tallied.of_untouched keys named redeemed campaigns keeps orders
  | some promotionId =>
    rw [Customers.counted, isNew] at campaigns
    rw [isNew, Option.toList_some, List.map_singleton] at redeemed
    obtain ⟨absent, campaign⟩ := not_counted_of_uncounted isNew
    refine ⟨keys, named, fun promotion listed => ?_⟩
    rw [campaigns] at listed
    obtain ⟨before, stored', rfl⟩ := Rows.mem_modify.mp listed
    have counts := tallied.counts before stored'
    have more := Rows.countP_mem_append (q := fun row => campaignOf row = some before.id)
      tallied.keys.orders stored absent
    rw [redeemed, uses_modify keeps orders]
    by_cases own : before.id = promotionId
    · rw [if_pos own]
      show before.usedCount + 1 = uses db (redemptions db ++ [order.id]) before.id
      rw [uses, more, if_pos (campaign.trans (congrArg some own.symm)), counts]
      rfl
    · rw [if_neg own]
      rw [uses, more, if_neg fun is => own (Option.some.inj (is.symm.trans campaign))]
      exact counts

theorem Grows.tallied {r : GrowthRequest} (grows : Grows db r db') (tallied : Tallied db) :
    Tallied db' := by
  have keys := grows.keys tallied.keys
  have named := grows.named tallied.named
  have untouched : redemptions db' = redemptions db →
      db'.customers.campaigns = db.customers.campaigns → db'.orders = db.orders → Tallied db' :=
    fun counted campaigns orders => tallied.of_untouched keys named counted campaigns
      keepsUse_refl (orders.trans (modify_none db.orders 0))
  cases grows with
  | untouched same => exact untouched same.redemptions (by rw [same.customers]) same.orders
  | moved other moved customers counted supply =>
    have campaigns : db'.customers.campaigns = db.customers.campaigns := by rw [customers]
    cases moved with
    | kept _ orders _ | opened _ _ _ _ orders _ | turned _ _ _ _ orders _ =>
      exact untouched counted campaigns orders
    | ordered cart dto order itemIds stored isOpen made listed carts orders first grows =>
      exact tallied.ordered keys named customers counted (by rw [made]; rfl) orders
  | promoted cart promotion profile applied =>
    exact untouched (by rw [applied.rest]; rfl) applied.enrolled.campaigns (by rw [applied.rest])
  | adjusted accountId adjusted credited =>
    exact untouched adjusted.redemptions adjusted.campaigns (by rw [adjusted.rest])
  | created tenantId code audit is => exact tallied.created keys named is
  | changed audit is => exact tallied.changed keys named is
  | transitioned current admitted carts orders customers counted grows =>
    exact tallied.of_untouched keys named counted (by rw [customers])
      (keepsUse_applyTransition _ _) orders
  | finalised order phone profile accountId found known recorded =>
    have stored : order ∈ db.orders := (Table.findUnique_mem (findOrder_ok_iff.mp found).1).1
    exact tallied.finalised keys named stored recorded

theorem step_tallied (tallied : Tallied db) (r : GrowthRequest) : Tallied (step db r) :=
  (step_grows tallied.keys r).tallied tallied

/-- In every run from a fresh store the counter of every promotion is the number of its uses, and
what is posted or counted names orders that are there. -/
theorem promotions_tallied (fresh : Fresh db) (rs : List GrowthRequest) : Tallied (run db rs) := by
  have keeps (db : Db) (r : GrowthRequest) (tallied : Tallied db) := step_tallied tallied r
  exact Trace.run_always keeps (tallied_fresh fresh) rs

theorem promotions_tallied_cart : Tallied (run bakery [createCartAt 1 { storeId := 2 }]) :=
  promotions_tallied bakery_fresh _

end

end Exetron.Growth
