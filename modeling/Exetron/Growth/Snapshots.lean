import Exetron.Growth.Steps

/-!
# The promotions of carts and orders

A cart's promotion is dropped by every change but one of its name or note, and an order has that of
its cart. Each of them names a campaign of the shop.
-/

namespace Exetron.Growth

open Lib Orders Fulfillment Customers Carts

def campaignIn (snapshot : Option Json) : Option String :=
  (snapshot.bind (Json.get? "promotionId")).bind Json.asString?

/-- What a call but a promotion leaves of a cart's promotion: nothing, or all of it with the phone
number it was given for. -/
theorem Turns.promotion_kept {db : Db} {r : CartRequest} {cart cart' : Cart}
    (turns : Turns db r cart cart') (other : ∀ input, r.call ≠ .applyPromotionToCart input) :
    cart'.tenantId = cart.tenantId ∧ (cart'.promotionSnapshot = none ∨
      cart'.promotionSnapshot = cart.promotionSnapshot ∧ cart'.customerPhone = cart.customerPhone) := by
  cases turns with
  | @detailed _ _ _ dto _ admitted =>
    unfold detailed
    split
    · exact ⟨rfl, .inl rfl⟩
    · rename_i kept
      refine ⟨rfl, .inr ⟨rfl, ?_⟩⟩
      show dto.customerPhone.getD cart.customerPhone = cart.customerPhone
      unfold resetsPromotion at kept
      cases phone : dto.customerPhone with
      | none => rfl
      | some phone' =>
        rw [phone] at kept
        simpa using kept
  | added => exact ⟨rfl, .inl rfl⟩
  | changed => exact ⟨rfl, .inl rfl⟩
  | removed => exact ⟨rfl, .inl rfl⟩
  | fulfilled => exact ⟨rfl, .inl rfl⟩
  | @promoted _ _ input => exact absurd rfl (other input)

/-- Campaigns are named by the texts of old keys, and snapshots name campaigns. -/
structure Named (db : Db) : Prop where
  campaigns : ∀ promotion ∈ db.customers.campaigns, ∃ n < db.nextId, promotion.id = toString n
  carts : ∀ cart ∈ db.carts, ∀ promotionId ∈ campaignIn cart.promotionSnapshot,
    promotionId ∈ db.customers.campaigns.map PromotionCampaign.id
  orders : ∀ order ∈ db.orders, ∀ promotionId ∈ campaignOf order,
    promotionId ∈ db.customers.campaigns.map PromotionCampaign.id

theorem named_fresh {db : Db} (fresh : Fresh db) : Named db where
  campaigns promotion stored := by
    rw [fresh.customers] at stored
    cases stored
  carts cart stored := by
    rw [fresh.carts] at stored
    cases stored
  orders order stored := by
    rw [fresh.orders] at stored
    cases stored

section
variable {db db' : Db}

theorem Named.of_parts (named : Named db) (grows : db.nextId ≤ db'.nextId)
    (campaigns : db'.customers.campaigns.map PromotionCampaign.id =
      db.customers.campaigns.map PromotionCampaign.id)
    (carts : ∀ cart ∈ db'.carts, ∀ promotionId ∈ campaignIn cart.promotionSnapshot,
      promotionId ∈ db.customers.campaigns.map PromotionCampaign.id)
    (orders : ∀ order ∈ db'.orders, ∀ promotionId ∈ campaignOf order,
      promotionId ∈ db.customers.campaigns.map PromotionCampaign.id) : Named db' where
  campaigns promotion stored := by
    have listed : promotion.id ∈ db.customers.campaigns.map PromotionCampaign.id :=
      campaigns ▸ List.mem_map_of_mem stored
    obtain ⟨before, stored', same⟩ := List.mem_map.mp listed
    obtain ⟨n, old, is⟩ := named.campaigns before stored'
    exact ⟨n, lt_of_lt_of_le old grows, same ▸ is⟩
  carts := campaigns ▸ carts
  orders := campaigns ▸ orders

theorem Named.of_same (named : Named db) (grows : db.nextId ≤ db'.nextId)
    (campaigns : db'.customers.campaigns.map PromotionCampaign.id =
      db.customers.campaigns.map PromotionCampaign.id)
    (carts : ∀ cart ∈ db'.carts, cart.promotionSnapshot = none ∨
      ∃ before ∈ db.carts, cart.promotionSnapshot = before.promotionSnapshot)
    (orders : ∀ order ∈ db'.orders, ∃ before ∈ db.orders,
      order.promotionSnapshot = before.promotionSnapshot) : Named db' := by
  refine named.of_parts grows campaigns (fun cart stored promotionId is => ?_)
    fun order stored promotionId is => ?_
  · rcases carts cart stored with none | ⟨before, stored', same⟩
    · rw [none] at is
      cases is
    · exact named.carts before stored' promotionId (same ▸ is)
  · obtain ⟨before, stored', same⟩ := orders order stored
    refine named.orders before stored' promotionId ?_
    rw [campaignOf, ← same]
    exact is

theorem Named.ordered {r : CartRequest} (named : Named db) (grows : db.nextId ≤ db'.nextId)
    (customers : db'.customers = db.customers) {cart : Cart} {dto : CheckoutCartDto} {order : Order}
    {itemIds : List Id} (stored : cart ∈ db.carts)
    (made : order = orderOfCart r.env db.nextId itemIds cart dto)
    (carts : db'.carts = Rows.modify Cart.id cart.id (fun _ => converted order cart) db.carts)
    (orders : db'.orders = db.orders ++ [order]) : Named db' := by
  refine named.of_parts grows (by rw [customers]) (fun row listed promotionId is => ?_)
    fun row listed promotionId is => ?_
  · rw [carts] at listed
    rcases Rows.mem_of_modify listed with before | ⟨_, _, _, rfl⟩
    · exact named.carts row before promotionId is
    · exact named.carts cart stored promotionId is
  · rw [orders] at listed
    rcases List.mem_append.mp listed with before | new
    · exact named.orders row before promotionId is
    · rw [List.mem_singleton.mp new, made] at is
      exact named.carts cart stored promotionId is

theorem Named.created (named : Named db) {dto : CreatePromotionCampaignDto} {tenantId : Id}
    {code : String} {audit : List AuditEntry} : Named { db with
      nextId := db.nextId + 1
      customers := { db.customers with
        campaigns := db.customers.campaigns ++ [newCampaign dto tenantId code db.nextId] }
      logs := { db.logs with audit := audit } } where
  campaigns promotion stored := by
    rcases List.mem_append.mp stored with before | new
    · obtain ⟨n, old, is⟩ := named.campaigns promotion before
      exact ⟨n, Nat.lt_succ_of_lt old, is⟩
    · rw [List.mem_singleton.mp new]
      exact ⟨db.nextId, Nat.lt_succ_self _, rfl⟩
  carts cart stored promotionId is := by
    rw [List.map_append]
    exact List.mem_append_left _ (named.carts cart stored promotionId is)
  orders order stored promotionId is := by
    rw [List.map_append]
    exact List.mem_append_left _ (named.orders order stored promotionId is)

theorem counted_ids (order : Order) (db : Db) :
    (counted order db).map PromotionCampaign.id = db.customers.campaigns.map PromotionCampaign.id := by
  unfold counted
  cases uncounted order db with
  | none => rfl
  | some promotionId =>
    refine Rows.map_modify (fun row => ?_) _
    rfl

theorem linkedCarts_snapshot {order : Order} {profile : CustomerProfile} {rows : List Cart}
    {cart : Cart} (stored : cart ∈ linkedCarts order profile rows) :
    ∃ before ∈ rows, cart.promotionSnapshot = before.promotionSnapshot := by
  unfold linkedCarts at stored
  cases owner : order.cartId with
  | none =>
    rw [owner] at stored
    exact ⟨cart, stored, rfl⟩
  | some cartId =>
    rw [owner] at stored
    rcases Rows.mem_of_modify stored with before | ⟨before, stored', _, rfl⟩
    · exact ⟨cart, before, rfl⟩
    · exact ⟨before, stored', rfl⟩

theorem Grows.named {r : GrowthRequest} (grows : Grows db r db') (named : Named db) : Named db' := by
  have same : ∀ (rows : List Cart), db'.carts = rows → ∀ cart ∈ db'.carts, cart.promotionSnapshot = none ∨
      ∃ before ∈ rows, cart.promotionSnapshot = before.promotionSnapshot :=
    fun rows is cart stored => .inr ⟨cart, is ▸ stored, rfl⟩
  have sameOrders : db'.orders = db.orders → ∀ order ∈ db'.orders, ∃ before ∈ db.orders,
      order.promotionSnapshot = before.promotionSnapshot :=
    fun is order stored => ⟨order, is ▸ stored, rfl⟩
  cases grows with
  | untouched same' =>
    exact named.of_same same'.grows (by rw [same'.customers]) (same _ same'.carts)
      (sameOrders same'.orders)
  | moved other moved customers counted supply =>
    cases moved with
    | kept carts orders grows =>
      exact named.of_same grows (by rw [customers]) (same _ carts) (sameOrders orders)
    | opened dto tenantId storeId carts orders grows =>
      refine named.of_same (le_of_lt grows) (by rw [customers]) (fun cart stored => ?_)
        (sameOrders orders)
      rw [carts] at stored
      rcases List.mem_append.mp stored with before | new
      · exact .inr ⟨cart, before, rfl⟩
      · rw [List.mem_singleton.mp new]
        exact .inl rfl
    | turned own own' turns carts orders grows =>
      refine named.of_same grows (by rw [customers]) (fun cart stored => ?_) (sameOrders orders)
      rw [carts] at stored
      rcases Rows.mem_of_modify stored with before | ⟨_, _, _, rfl⟩
      · exact .inr ⟨cart, before, rfl⟩
      · rcases (Turns.promotion_kept turns other).2 with none | ⟨kept, _⟩
        · exact .inl none
        · exact .inr ⟨own, (turns_open turns).1, kept⟩
    | ordered cart dto order itemIds stored isOpen made listed carts orders first grows =>
      exact named.ordered grows customers stored made carts orders
  | promoted cart promotion profile applied =>
    refine named.of_parts applied.enrolled.grows (by rw [applied.enrolled.campaigns])
      (fun row listed promotionId is => ?_) fun row listed promotionId is => ?_
    · rw [applied.rest] at listed
      rcases Rows.mem_of_modify listed with before | ⟨_, _, _, rfl⟩
      · exact named.carts row before promotionId is
      · rw [← Option.some.inj is]
        exact List.mem_map_of_mem applied.campaign
    · rw [applied.rest] at listed
      exact named.orders row listed promotionId is
  | adjusted accountId adjusted credited =>
    exact named.of_same credited.grows (by rw [adjusted.campaigns])
      (same _ (by rw [adjusted.rest])) (sameOrders (by rw [adjusted.rest]))
  | created tenantId code audit is =>
    rw [is]
    exact named.created
  | changed audit is =>
    rw [is]
    refine named.of_parts le_rfl (Rows.map_modify (fun row => ?_) _) named.carts named.orders
    rfl
  | transitioned current admitted carts orders customers counted grows =>
    refine named.of_same grows (by rw [customers]) (same _ carts) fun order stored => ?_
    rw [orders] at stored
    rcases Rows.mem_of_modify stored with before | ⟨before, stored', _, rfl⟩
    · exact ⟨order, before, rfl⟩
    · exact ⟨before, stored', rfl⟩
  | finalised order phone profile accountId found known recorded =>
    have orders := congrArg Db.orders recorded.rest
    refine named.of_same recorded.credited.grows ?_ (fun cart stored => .inr ?_) fun row stored => ?_
    · rw [recorded.campaigns, counted_ids]
    · rw [recorded.rest] at stored
      exact linkedCarts_snapshot stored
    · rw [orders] at stored
      rcases Rows.mem_of_modify stored with before | ⟨before, stored', _, rfl⟩
      · exact ⟨row, before, rfl⟩
      · exact ⟨before, stored', rfl⟩

end

end Exetron.Growth
