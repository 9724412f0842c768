import Exetron.Customers.Service
import Exetron.Orders.Steps

/-!
# What the growth of an order does

One lemma for each part of `finalizeOrderGrowth` that says what a success leaves behind, and when
it succeeds. All of it succeeds but three parts: the order's cart, the points its promotion costs
and the campaign of its promotion have to be in order.
-/

namespace Exetron.Customers

open Lib List

variable {customerProfileId orderId : Id}

section
variable {now : Instant} {tenantId storeId : Id} {customerName : Option String} {phone : String}
  {profile : CustomerProfile} {db db' : Db}

theorem resolveOrCreateCustomerProfileTx_ok
    (h : resolveOrCreateCustomerProfileTx now tenantId storeId customerName phone db =
      .ok (profile, db')) :
    ∃ n profiles, db.nextId ≤ n ∧ db' = { db with
        nextId := n
        customers := { db.customers with profiles := profiles } } ∧
      profile.id ∈ profiles.map CustomerProfile.id := by
  simp only [resolveOrCreateCustomerProfileTx, Tx.bind_ok_iff, Tx.read_ok_iff] at h
  obtain ⟨current, _, ⟨_, rfl⟩, h⟩ := h
  cases current with
  | some current =>
    obtain ⟨row, found, rfl, rfl⟩ := Table.update_ok_iff.mp h
    obtain ⟨stored, same⟩ := Table.findUnique_mem found
    refine ⟨_, _, le_refl _, rfl, mem_map.mpr ⟨_, Rows.mem_modify.mpr ⟨row, stored, rfl⟩, ?_⟩⟩
    rw [if_pos same]
  | none =>
    simp only [Tx.bind_ok_iff, freshId_ok_iff, Table.create_ok_iff] at h
    obtain ⟨_, _, ⟨rfl, rfl⟩, rfl, rfl⟩ := h
    exact ⟨_, _, Nat.le_succ _, rfl,
      mem_map.mpr ⟨_, mem_append_right _ (mem_singleton_self _), rfl⟩⟩

theorem resolveOrCreateCustomerProfileTx_succeeds (now : Instant) (tenantId storeId : Id)
    (customerName : Option String) (phone : String) (db : Db) :
    ∃ profile db', resolveOrCreateCustomerProfileTx now tenantId storeId customerName phone db =
      .ok (profile, db') := by
  refine Tx.bind_succeeds ⟨_, _, Tx.read_ok_iff.mpr ⟨rfl, rfl⟩⟩ fun current _ read => ?_
  obtain ⟨found, rfl⟩ := Tx.read_ok_iff.mp read
  cases current with
  | some current =>
    have stored := mem_of_find?_eq_some (Except.ok.inj found)
    exact Table.update_succeeds_iff.mpr (mem_map_of_mem stored)
  | none =>
    refine Tx.bind_succeeds ⟨_, _, freshId_ok_iff.mpr ⟨rfl, rfl⟩⟩ fun id _ _ => ?_
    exact ⟨_, _, Table.create_ok_iff.mpr ⟨rfl, rfl⟩⟩

theorem findAccount_mem {account : LoyaltyAccount}
    (h : findAccount customerProfileId db = some account) :
    account ∈ db.customers.accounts ∧ account.customerProfileId = customerProfileId :=
  ⟨mem_of_find?_eq_some h, by simpa using find?_some h⟩

theorem ensureLoyaltyAccountTx_ok {account : LoyaltyAccount}
    (h : ensureLoyaltyAccountTx profile db = .ok (account, db')) :
    ∃ n accounts, db.nextId ≤ n ∧ db' = { db with
        nextId := n
        customers := { db.customers with accounts := accounts } } ∧
      profile.id ∈ accounts.map LoyaltyAccount.customerProfileId := by
  simp only [ensureLoyaltyAccountTx, Tx.bind_ok_iff, Tx.read_ok_iff] at h
  obtain ⟨current, _, ⟨found, rfl⟩, h⟩ := h
  cases current with
  | some current =>
    obtain ⟨rfl, rfl⟩ := Tx.pure_ok_iff.mp h
    obtain ⟨stored, owner⟩ := findAccount_mem (Except.ok.inj found)
    exact ⟨_, _, le_refl _, rfl, mem_map.mpr ⟨_, stored, owner⟩⟩
  | none =>
    simp only [Tx.bind_ok_iff, freshId_ok_iff, Table.create_ok_iff] at h
    obtain ⟨_, _, ⟨rfl, rfl⟩, rfl, rfl⟩ := h
    exact ⟨_, _, Nat.le_succ _, rfl,
      mem_map.mpr ⟨_, mem_append_right _ (mem_singleton_self _), rfl⟩⟩

theorem ensureLoyaltyAccountTx_succeeds (profile : CustomerProfile) (db : Db) :
    ∃ account db', ensureLoyaltyAccountTx profile db = .ok (account, db') := by
  refine Tx.bind_succeeds ⟨_, _, Tx.read_ok_iff.mpr ⟨rfl, rfl⟩⟩ fun current _ _ => ?_
  cases current with
  | some current => exact ⟨_, _, Tx.pure_ok_iff.mpr ⟨rfl, rfl⟩⟩
  | none =>
    refine Tx.bind_succeeds ⟨_, _, freshId_ok_iff.mpr ⟨rfl, rfl⟩⟩ fun id _ _ => ?_
    exact ⟨_, _, Table.create_ok_iff.mpr ⟨rfl, rfl⟩⟩

theorem refreshLoyaltyAccountTx_ok {account : LoyaltyAccount}
    (h : refreshLoyaltyAccountTx customerProfileId db = .ok (account, db')) :
    ∃ accounts, db' = { db with customers := { db.customers with accounts := accounts } } := by
  simp only [refreshLoyaltyAccountTx, Tx.bind_ok_iff, Tx.read_ok_iff, Table.update_ok_iff] at h
  obtain ⟨_, _, ⟨_, rfl⟩, _, _, ⟨_, rfl⟩, _, _, _, rfl⟩ := h
  exact ⟨_, rfl⟩

theorem refreshLoyaltyAccountTx_succeeds
    (listed : customerProfileId ∈ db.customers.accounts.map LoyaltyAccount.customerProfileId) :
    ∃ account db', refreshLoyaltyAccountTx customerProfileId db = .ok (account, db') := by
  obtain ⟨account, found⟩ := Rows.exists_find_iff.mpr listed
  have stored := (Rows.find_some found).1
  refine Tx.bind_succeeds ⟨_, _, Tx.read_ok_iff.mpr ⟨rfl, rfl⟩⟩ fun points _ read => ?_
  obtain ⟨_, rfl⟩ := Tx.read_ok_iff.mp read
  refine Tx.bind_succeeds ⟨account, _, Tx.read_ok_iff.mpr ⟨required_ok_iff.mpr found, rfl⟩⟩ ?_
  intro account' _ read'
  obtain ⟨found', rfl⟩ := Tx.read_ok_iff.mp read'
  have stored' := (findAccount_mem (required_ok_iff.mp found')).1
  exact Table.update_succeeds_iff.mpr (mem_map_of_mem stored')

theorem refreshCustomerProfileTx_ok
    (h : refreshCustomerProfileTx now customerProfileId db = .ok (profile, db')) :
    ∃ n accounts profiles, db' = { db with
      nextId := n
      customers := { db.customers with accounts := accounts, profiles := profiles } } := by
  simp only [refreshCustomerProfileTx, Tx.bind_ok_iff, Tx.read_ok_iff, Table.update_ok_iff] at h
  obtain ⟨_, _, ⟨_, rfl⟩, _, _, ⟨_, rfl⟩, _, _, ensured, _, _, _, rfl⟩ := h
  obtain ⟨n, accounts, _, rfl, _⟩ := ensureLoyaltyAccountTx_ok ensured
  exact ⟨n, accounts, _, rfl⟩

theorem refreshCustomerProfileTx_succeeds (now : Instant)
    (listed : customerProfileId ∈ db.customers.profiles.map CustomerProfile.id) :
    ∃ profile db', refreshCustomerProfileTx now customerProfileId db = .ok (profile, db') := by
  obtain ⟨profile, found⟩ := Rows.exists_find_iff.mpr listed
  refine Tx.bind_succeeds
    ⟨profile, _, Tx.read_ok_iff.mpr ⟨Table.findUniqueOrThrow_ok_iff.mpr found, rfl⟩⟩ ?_
  intro profile' _ read
  obtain ⟨found', rfl⟩ := Tx.read_ok_iff.mp read
  have stored := (Table.findUnique_mem (Table.findUniqueOrThrow_ok_iff.mp found')).1
  refine Tx.bind_succeeds ⟨_, _, Tx.read_ok_iff.mpr ⟨rfl, rfl⟩⟩ fun orders _ read' => ?_
  obtain ⟨_, rfl⟩ := Tx.read_ok_iff.mp read'
  refine Tx.bind_succeeds (ensureLoyaltyAccountTx_succeeds profile' db) fun loyalty _ ensured => ?_
  obtain ⟨_, _, _, rfl, _⟩ := ensureLoyaltyAccountTx_ok ensured
  exact Table.update_succeeds_iff.mpr (mem_map_of_mem stored)

end

def linkTo (order : Order) (profile : CustomerProfile) (row : Order) : Order :=
  { row with
    customerProfileId := some profile.id
    customerPhone := some profile.phone
    customerName := order.customerName.or profile.fullName }

/-- What the recording of an order's growth asks of the order and of the rows it finds. -/
structure Recordable (order : Order) (db : Db) : Prop where
  cart : ∀ cartId ∈ order.cartId, cartId ∈ db.carts.map Cart.id
  points : entryExists order.id .redeem db = false → ∀ pointsCost ∈ redeemedPoints order,
    pointsCost.den = 1
  campaign : orderEventExists order.id "customer.promotion_redeemed" db = false →
    ∀ promotionId ∈ campaignOf order,
      promotionId ∈ db.customers.campaigns.map PromotionCampaign.id

instance (order : Order) (db : Db) : Decidable (Recordable order db) :=
  decidable_of_iff
    ((∀ cartId ∈ order.cartId, cartId ∈ db.carts.map Cart.id) ∧
      (entryExists order.id .redeem db = false → ∀ pointsCost ∈ redeemedPoints order,
        pointsCost.den = 1) ∧
      (orderEventExists order.id "customer.promotion_redeemed" db = false →
        ∀ promotionId ∈ campaignOf order,
          promotionId ∈ db.customers.campaigns.map PromotionCampaign.id))
    ⟨fun ⟨cart, points, campaign⟩ => ⟨cart, points, campaign⟩,
      fun ⟨cart, points, campaign⟩ => ⟨cart, points, campaign⟩⟩

section
variable {order : Order} {profile : CustomerProfile} {account : LoyaltyAccount} {u : Unit}
  {db db' : Db}

theorem linkProfile_ok (h : linkProfile order profile db = .ok (u, db')) : ∃ carts, db' = { db with
        orders := Rows.modify Order.id order.id (linkTo order profile) db.orders
        carts := carts } ∧
      ∀ cartId ∈ order.cartId, cartId ∈ db.carts.map Cart.id := by
  simp only [linkProfile, Tx.bind_ok_iff, Table.update_ok_iff] at h
  obtain ⟨_, _, ⟨_, _, rfl, rfl⟩, h⟩ := h
  cases owner : order.cartId with
  | none =>
    rw [owner] at h
    obtain ⟨_, rfl⟩ := Tx.pure_ok_iff.mp h
    exact ⟨db.carts, rfl, by simp⟩
  | some cartId =>
    rw [owner] at h
    simp only [Tx.bind_ok_iff, Tx.pure_ok_iff] at h
    obtain ⟨_, _, updated, _, rfl⟩ := h
    have listed := Table.update_succeeds_iff.mp ⟨_, _, updated⟩
    obtain ⟨_, _, _, rfl⟩ := Table.update_ok_iff.mp updated
    refine ⟨_, rfl, fun cartId' is => ?_⟩
    rw [← Option.some.inj is]
    exact listed

theorem linkProfile_succeeds (stored : order.id ∈ db.orders.map Order.id)
    (cart : ∀ cartId ∈ order.cartId, cartId ∈ db.carts.map Cart.id) :
    ∃ u db', linkProfile order profile db = .ok (u, db') := by
  refine Tx.bind_succeeds (Table.update_succeeds_iff.mpr stored) fun _ _ updated => ?_
  obtain ⟨_, _, _, rfl⟩ := Table.update_ok_iff.mp updated
  cases owner : order.cartId with
  | none => exact ⟨_, _, Tx.pure_ok_iff.mpr ⟨rfl, rfl⟩⟩
  | some cartId =>
    refine Tx.bind_succeeds (Table.update_succeeds_iff.mpr (cart cartId owner)) fun _ _ _ => ?_
    exact ⟨_, _, Tx.pure_ok_iff.mpr ⟨rfl, rfl⟩⟩

theorem postEntry_ok {entryKind : LoyaltyLedgerEntryKind} {points : Int} {amount : Money}
    {description : String}
    (h : postEntry order profile account entryKind points amount description db = .ok (u, db')) :
    ∃ n entry, entry.entryKind = entryKind ∧ db' = { db with
      nextId := n
      customers := { db.customers with ledger := db.customers.ledger ++ [entry] } } := by
  simp only [postEntry, Tx.bind_ok_iff, freshId_ok_iff, Table.create_ok_iff, Tx.pure_ok_iff] at h
  obtain ⟨_, _, ⟨rfl, rfl⟩, _, _, ⟨rfl, rfl⟩, _, rfl⟩ := h
  exact ⟨_, _, rfl, rfl⟩

theorem postEntry_succeeds (order : Order) (profile : CustomerProfile) (account : LoyaltyAccount)
    (entryKind : LoyaltyLedgerEntryKind) (points : Int) (amount : Money) (description : String)
    (db : Db) : ∃ u db', postEntry order profile account entryKind points amount description db =
      .ok (u, db') := by
  refine Tx.bind_succeeds ⟨_, _, freshId_ok_iff.mpr ⟨rfl, rfl⟩⟩ fun _ _ _ => ?_
  refine Tx.bind_succeeds ⟨_, _, Table.create_ok_iff.mpr ⟨rfl, rfl⟩⟩ fun _ _ _ => ?_
  exact ⟨_, _, Tx.pure_ok_iff.mpr ⟨rfl, rfl⟩⟩

theorem recordEarn_ok (h : recordEarn order profile account db = .ok (u, db')) :
    ∃ n new, db' = { db with
        nextId := n
        customers := { db.customers with ledger := db.customers.ledger ++ new } } ∧
      ∀ entry ∈ new, entry.entryKind = .earn := by
  simp only [recordEarn, Tx.bind_ok_iff, Tx.read_ok_iff, Tx.ite_ok_iff, Tx.pure_ok_iff] at h
  obtain ⟨_, _, ⟨_, rfl⟩, ⟨_, posted⟩ | ⟨_, _, rfl⟩⟩ := h
  · obtain ⟨n, entry, kind, rfl⟩ := postEntry_ok posted
    refine ⟨n, [entry], rfl, fun other listed => ?_⟩
    rw [mem_singleton.mp listed, kind]
  · exact ⟨db.nextId, [], by simp, by simp⟩

theorem recordEarn_succeeds (order : Order) (profile : CustomerProfile) (account : LoyaltyAccount)
    (db : Db) : ∃ u db', recordEarn order profile account db = .ok (u, db') := by
  refine Tx.bind_succeeds ⟨_, _, Tx.read_ok_iff.mpr ⟨rfl, rfl⟩⟩ fun _ _ _ => ?_
  split
  · exact postEntry_succeeds _ _ _ _ _ _ _ _
  · exact ⟨_, _, Tx.pure_ok_iff.mpr ⟨rfl, rfl⟩⟩

theorem recordRedeem_ok (h : recordRedeem order profile account db = .ok (u, db')) :
    (∃ n ledger, db' = { db with
      nextId := n
      customers := { db.customers with ledger := ledger } }) ∧
      (entryExists order.id .redeem db = false → ∀ pointsCost ∈ redeemedPoints order,
        pointsCost.den = 1) := by
  simp only [recordRedeem, Tx.bind_ok_iff, Tx.read_ok_iff] at h
  obtain ⟨existing, _, ⟨read, rfl⟩, h⟩ := h
  obtain rfl := Except.ok.inj read
  cases cost : (if entryExists order.id .redeem db then none else redeemedPoints order) with
  | none =>
    rw [cost] at h
    obtain ⟨_, rfl⟩ := Tx.pure_ok_iff.mp h
    refine ⟨⟨_, _, rfl⟩, fun absent pointsCost is => ?_⟩
    rw [if_neg (by simp [absent]), is] at cost
    cases cost
  | some pointsCost =>
    rw [cost] at h
    simp only [Tx.bind_ok_iff, Tx.lift_ok_iff, required_ok_iff] at h
    obtain ⟨_, _, ⟨whole, rfl⟩, posted⟩ := h
    obtain ⟨_, _, _, rfl⟩ := postEntry_ok posted
    refine ⟨⟨_, _, rfl⟩, fun absent pointsCost' is => ?_⟩
    rw [if_neg (by simp [absent]), is] at cost
    rw [Option.some.inj cost]
    by_contra fraction
    rw [if_neg fraction] at whole
    cases whole

theorem recordRedeem_succeeds
    (points : entryExists order.id .redeem db = false → ∀ pointsCost ∈ redeemedPoints order,
      pointsCost.den = 1) :
    ∃ u db', recordRedeem order profile account db = .ok (u, db') := by
  refine Tx.bind_succeeds ⟨_, _, Tx.read_ok_iff.mpr ⟨rfl, rfl⟩⟩ fun existing _ read => ?_
  obtain ⟨found, rfl⟩ := Tx.read_ok_iff.mp read
  obtain rfl := Except.ok.inj found
  cases cost : (if entryExists order.id .redeem db then none else redeemedPoints order) with
  | none => exact ⟨_, _, Tx.pure_ok_iff.mpr ⟨rfl, rfl⟩⟩
  | some pointsCost =>
    have whole : pointsCost.den = 1 := by
      split at cost
      · cases cost
      · rename_i absent
        exact points (by simpa using absent) pointsCost cost
    refine Tx.bind_succeeds ⟨pointsCost.num, _, Tx.lift_ok_iff.mpr ⟨?_, rfl⟩⟩ fun _ _ _ => ?_
    · rw [if_pos whole]
      rfl
    · exact postEntry_succeeds _ _ _ _ _ _ _ _

theorem recordOrderEventTx_ok {type : String} (h : recordOrderEventTx order type db = .ok (u, db')) :
    ∃ logs, db' = { db with logs := logs } := by
  simp only [recordOrderEventTx, Tx.bind_ok_iff] at h
  obtain ⟨_, _, recorded, queued⟩ := h
  rw [log_ok_iff.mp queued, log_ok_iff.mp recorded]
  exact ⟨_, rfl⟩

theorem recordOrderEventTx_succeeds (order : Order) (type : String) (db : Db) :
    ∃ u db', recordOrderEventTx order type db = .ok (u, db') :=
  Tx.bind_succeeds ⟨(), _, log_ok_iff.mpr rfl⟩ fun _ _ _ => ⟨(), _, log_ok_iff.mpr rfl⟩

theorem recordOrderEventOnceTx_ok {type : String}
    (h : recordOrderEventOnceTx order type db = .ok (u, db')) :
    ∃ logs, db' = { db with logs := logs } := by
  simp only [recordOrderEventOnceTx, Tx.bind_ok_iff, Tx.read_ok_iff, Tx.ite_ok_iff,
    Tx.pure_ok_iff] at h
  obtain ⟨_, _, ⟨_, rfl⟩, ⟨_, _, rfl⟩ | ⟨_, recorded⟩⟩ := h
  · exact ⟨_, rfl⟩
  · exact recordOrderEventTx_ok recorded

theorem recordOrderEventOnceTx_succeeds (order : Order) (type : String) (db : Db) :
    ∃ u db', recordOrderEventOnceTx order type db = .ok (u, db') := by
  refine Tx.bind_succeeds ⟨_, _, Tx.read_ok_iff.mpr ⟨rfl, rfl⟩⟩ fun _ _ _ => ?_
  split
  · exact ⟨_, _, Tx.pure_ok_iff.mpr ⟨rfl, rfl⟩⟩
  · exact recordOrderEventTx_succeeds _ _ _

theorem redeemPromotion_ok (h : redeemPromotion order db = .ok (u, db')) :
    (∃ campaigns logs, db' = { db with
      customers := { db.customers with campaigns := campaigns }
      logs := logs }) ∧
      (orderEventExists order.id "customer.promotion_redeemed" db = false →
        ∀ promotionId ∈ campaignOf order,
          promotionId ∈ db.customers.campaigns.map PromotionCampaign.id) := by
  simp only [redeemPromotion, Tx.bind_ok_iff, Tx.read_ok_iff] at h
  obtain ⟨redeemed, _, ⟨read, rfl⟩, h⟩ := h
  obtain rfl := Except.ok.inj read
  cases campaign : (if orderEventExists order.id "customer.promotion_redeemed" db then none
      else campaignOf order) with
  | none =>
    rw [campaign] at h
    obtain ⟨_, rfl⟩ := Tx.pure_ok_iff.mp h
    refine ⟨⟨_, _, rfl⟩, fun absent promotionId is => ?_⟩
    rw [if_neg (by simp [absent]), is] at campaign
    cases campaign
  | some promotionId =>
    rw [campaign] at h
    simp only [Tx.bind_ok_iff] at h
    obtain ⟨_, _, updated, recorded⟩ := h
    have listed := Table.update_succeeds_iff.mp ⟨_, _, updated⟩
    obtain ⟨_, _, _, rfl⟩ := Table.update_ok_iff.mp updated
    obtain ⟨logs, rfl⟩ := recordOrderEventTx_ok recorded
    refine ⟨⟨_, logs, rfl⟩, fun absent promotionId' is => ?_⟩
    rw [if_neg (by simp [absent]), is] at campaign
    rw [Option.some.inj campaign]
    exact listed

theorem redeemPromotion_succeeds
    (campaign : orderEventExists order.id "customer.promotion_redeemed" db = false →
      ∀ promotionId ∈ campaignOf order,
        promotionId ∈ db.customers.campaigns.map PromotionCampaign.id) :
    ∃ u db', redeemPromotion order db = .ok (u, db') := by
  refine Tx.bind_succeeds ⟨_, _, Tx.read_ok_iff.mpr ⟨rfl, rfl⟩⟩ fun redeemed _ read => ?_
  obtain ⟨found, rfl⟩ := Tx.read_ok_iff.mp read
  obtain rfl := Except.ok.inj found
  cases redeems : (if orderEventExists order.id "customer.promotion_redeemed" db then none
      else campaignOf order) with
  | none => exact ⟨_, _, Tx.pure_ok_iff.mpr ⟨rfl, rfl⟩⟩
  | some promotionId =>
    have listed : promotionId ∈ db.customers.campaigns.map PromotionCampaign.id := by
      split at redeems
      · cases redeems
      · rename_i absent
        exact campaign (by simpa using absent) promotionId redeems
    refine Tx.bind_succeeds (Table.update_succeeds_iff.mpr listed) fun _ _ _ => ?_
    exact recordOrderEventTx_succeeds _ _ _

theorem entryExists_append_earn {new : List LoyaltyLedgerEntry}
    (earned : ∀ entry ∈ new, entry.entryKind = .earn)
    (same : db'.customers.ledger = db.customers.ledger ++ new) :
    entryExists orderId .redeem db' = entryExists orderId .redeem db := by
  have none_new : new.any (fun entry => entry.orderId = some orderId ∧ entry.entryKind = .redeem) =
      false := by
    rw [any_eq_false]
    intro entry listed
    simp [earned entry listed]
  rw [entryExists, entryExists, same, any_append, none_new, Bool.or_false]

end

theorem noteEarned_ok {order : Order} {u : Unit} {db db' : Db}
    (h : noteEarned order db = .ok (u, db')) : ∃ logs, db' = { db with logs := logs } := by
  unfold noteEarned at h
  split at h
  · exact recordOrderEventOnceTx_ok h
  · rw [← (Tx.pure_ok_iff.mp h).2]
    exact ⟨_, rfl⟩

theorem noteEarned_succeeds (order : Order) (db : Db) :
    ∃ u db', noteEarned order db = .ok (u, db') := by
  unfold noteEarned
  split
  · exact recordOrderEventOnceTx_succeeds _ _ _
  · exact ⟨_, _, Tx.pure_ok_iff.mpr ⟨rfl, rfl⟩⟩

theorem noteSegments_ok {order : Order} {previous next : List String} {u : Unit} {db db' : Db}
    (h : noteSegments order previous next db = .ok (u, db')) :
    ∃ logs, db' = { db with logs := logs } := by
  unfold noteSegments at h
  split at h
  · exact recordOrderEventTx_ok h
  · rw [← (Tx.pure_ok_iff.mp h).2]
    exact ⟨_, rfl⟩

theorem noteSegments_succeeds (order : Order) (previous next : List String) (db : Db) :
    ∃ u db', noteSegments order previous next db = .ok (u, db') := by
  unfold noteSegments
  split
  · exact recordOrderEventTx_succeeds _ _ _
  · exact ⟨_, _, Tx.pure_ok_iff.mpr ⟨rfl, rfl⟩⟩

section
variable {now : Instant} {order : Order} {phone : String} {db db' : Db}

theorem recordGrowth_ok {result : CustomerProfile × Option LoyaltyAccount}
    (h : recordGrowth now order phone db = .ok (result, db')) : Recordable order db ∧
      ∃ profile, db'.orders = Rows.modify Order.id order.id (linkTo order profile) db.orders := by
  simp only [recordGrowth, Tx.bind_ok_iff, Tx.read_ok_iff, Tx.pure_ok_iff] at h
  obtain ⟨profile, _, resolved, account, _, ensured, _, _, linked, _, _, earned, _, _, redeemed,
    _, _, promoted, _, _, noted, _, _, refreshed, _, _, refreshed', _, _, earnNoted, _, _, changed,
    _, _, queued, _, _, ⟨_, rfl⟩, _, rfl⟩ := h
  obtain ⟨_, _, _, rfl, _⟩ := resolveOrCreateCustomerProfileTx_ok resolved
  obtain ⟨_, _, _, rfl, _⟩ := ensureLoyaltyAccountTx_ok ensured
  obtain ⟨_, rfl, cart⟩ := linkProfile_ok linked
  obtain ⟨_, new, rfl, earn⟩ := recordEarn_ok earned
  obtain ⟨⟨_, _, rfl⟩, points⟩ := recordRedeem_ok redeemed
  obtain ⟨⟨_, _, rfl⟩, campaign⟩ := redeemPromotion_ok promoted
  obtain ⟨_, rfl⟩ := recordOrderEventOnceTx_ok noted
  obtain ⟨_, rfl⟩ := refreshLoyaltyAccountTx_ok refreshed
  obtain ⟨_, _, _, rfl⟩ := refreshCustomerProfileTx_ok refreshed'
  obtain ⟨_, rfl⟩ := noteEarned_ok earnNoted
  obtain ⟨_, rfl⟩ := noteSegments_ok changed
  obtain ⟨_, rfl⟩ := recordOrderEventOnceTx_ok queued
  refine ⟨⟨cart, fun absent => points ?_, campaign⟩, profile, rfl⟩
  exact (entryExists_append_earn earn rfl).trans absent

theorem recordGrowth_succeeds (now : Instant) (phone : String)
    (stored : order.id ∈ db.orders.map Order.id) (recordable : Recordable order db) :
    ∃ result db', recordGrowth now order phone db = .ok (result, db') := by
  refine Tx.bind_succeeds (resolveOrCreateCustomerProfileTx_succeeds _ _ _ _ _ _) ?_
  intro profile _ resolved
  obtain ⟨_, _, _, rfl, listed⟩ := resolveOrCreateCustomerProfileTx_ok resolved
  refine Tx.bind_succeeds (ensureLoyaltyAccountTx_succeeds _ _) fun account _ ensured => ?_
  obtain ⟨_, _, _, rfl, owned⟩ := ensureLoyaltyAccountTx_ok ensured
  refine Tx.bind_succeeds (linkProfile_succeeds stored recordable.cart) fun _ _ linked => ?_
  obtain ⟨_, rfl, _⟩ := linkProfile_ok linked
  refine Tx.bind_succeeds (recordEarn_succeeds _ _ _ _) fun _ _ earned => ?_
  obtain ⟨_, new, rfl, earn⟩ := recordEarn_ok earned
  refine Tx.bind_succeeds (recordRedeem_succeeds fun absent => recordable.points ?_) ?_
  · exact (entryExists_append_earn earn rfl).symm.trans absent
  intro _ _ redeemed
  obtain ⟨⟨_, _, rfl⟩, _⟩ := recordRedeem_ok redeemed
  refine Tx.bind_succeeds (redeemPromotion_succeeds recordable.campaign) fun _ _ promoted => ?_
  obtain ⟨⟨_, _, rfl⟩, _⟩ := redeemPromotion_ok promoted
  refine Tx.bind_succeeds (recordOrderEventOnceTx_succeeds _ _ _) fun _ _ noted => ?_
  obtain ⟨_, rfl⟩ := recordOrderEventOnceTx_ok noted
  refine Tx.bind_succeeds (refreshLoyaltyAccountTx_succeeds owned) fun _ _ refreshed => ?_
  obtain ⟨_, rfl⟩ := refreshLoyaltyAccountTx_ok refreshed
  refine Tx.bind_succeeds (refreshCustomerProfileTx_succeeds now listed) fun _ _ _ => ?_
  refine Tx.bind_succeeds (noteEarned_succeeds _ _) fun _ _ _ => ?_
  refine Tx.bind_succeeds (noteSegments_succeeds _ _ _ _) fun _ _ _ => ?_
  refine Tx.bind_succeeds (recordOrderEventOnceTx_succeeds _ _ _) fun _ _ _ => ?_
  refine Tx.bind_succeeds ⟨_, _, Tx.read_ok_iff.mpr ⟨rfl, rfl⟩⟩ fun _ _ _ => ?_
  exact ⟨_, _, Tx.pure_ok_iff.mpr ⟨rfl, rfl⟩⟩

theorem finalizeOrderGrowthTx_succeeds_iff (now : Instant) {context : RequestContext}
    (found : Orders.findOrder context orderId db = .ok order) :
    (∃ result db', finalizeOrderGrowthTx now context orderId db = .ok (result, db')) ↔
      (Text.isFilled order.customerPhone → Recordable order db) := by
  have reads : ∀ {α : Type} (f : Order → Transaction α),
      (Tx.read (Orders.findOrder context orderId) >>= f) db = f order db := by
    intro α f
    simp only [bind, StateT.bind, Tx.read, found, Except.map, Except.bind]
  have stored : order.id ∈ db.orders.map Order.id :=
    mem_map_of_mem (Table.findUnique_mem (Orders.findOrder_ok_iff.mp found).1).1
  simp only [finalizeOrderGrowthTx, reads]
  cases phone : order.customerPhone.filter fun phone => Text.trim phone ≠ "" with
  | none =>
    have blank : Text.isFilled order.customerPhone = false := by
      rw [Text.isFilled_eq_isSome, phone]
      rfl
    simp only [blank, Bool.false_eq_true, false_imp_iff, iff_true]
    exact ⟨_, _, Tx.pure_ok_iff.mpr ⟨rfl, rfl⟩⟩
  | some number =>
    have filled : Text.isFilled order.customerPhone = true := by
      rw [Text.isFilled_eq_isSome, phone]
      rfl
    simp only [filled, true_imp_iff]
    constructor
    · rintro ⟨_, _, h⟩
      obtain ⟨_, _, recorded, _⟩ := Tx.bind_ok h
      exact (recordGrowth_ok recorded).1
    · intro recordable
      refine Tx.bind_succeeds (recordGrowth_succeeds now number stored recordable) fun _ _ _ => ?_
      exact ⟨_, _, Tx.pure_ok_iff.mpr ⟨rfl, rfl⟩⟩

theorem finalizeOrderGrowthTx_ok {context : RequestContext}
    {result : Option (CustomerProfile × Option LoyaltyAccount)}
    (h : finalizeOrderGrowthTx now context orderId db = .ok (result, db')) :
    ∃ order order', Orders.findOrder context orderId db = .ok order ∧
      Orders.findOrder context orderId db' = .ok order' ∧ order'.status = order.status := by
  obtain ⟨order, _, read, h⟩ := Tx.bind_ok h
  obtain ⟨found, rfl⟩ := Tx.read_ok_iff.mp read
  cases phone : order.customerPhone.filter fun phone => Text.trim phone ≠ "" with
  | none =>
    rw [phone] at h
    obtain ⟨_, rfl⟩ := Tx.pure_ok_iff.mp h
    exact ⟨order, order, found, found, rfl⟩
  | some number =>
    rw [phone] at h
    obtain ⟨_, after, recorded, h⟩ := Tx.bind_ok h
    obtain ⟨_, rfl⟩ := Tx.pure_ok_iff.mp h
    obtain ⟨_, profile, orders'⟩ := recordGrowth_ok recorded
    obtain ⟨located, authorized⟩ := Orders.findOrder_ok_iff.mp found
    obtain ⟨stored, same⟩ := Table.findUnique_mem located
    have keeps : ∀ row, (linkTo order profile row).id = row.id := fun _ => rfl
    refine ⟨order, linkTo order profile order, found, Orders.findOrder_ok_iff.mpr ⟨?_, authorized⟩,
      rfl⟩
    show Rows.find Order.id after.orders orderId = _
    rw [orders', Rows.find_modify keeps, if_pos (show orderId = order.id from same.symm)]
    exact congrArg (Option.map (linkTo order profile)) located

end

end Exetron.Customers
