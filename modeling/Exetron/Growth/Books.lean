import Exetron.Growth.Steps

/-!
# Loyalty books

An account says at all times what its entries sum to. It never goes into debt as long as it still
holds, when an order is finalised, what the order's reward costs: the account was asked when the
reward was applied, and any number of carts may have asked it.
-/

namespace Exetron.Growth

open Lib Orders Customers Carts List

section
variable {r : GrowthRequest} {db db' : Db}

theorem booksBalanced_fresh (fresh : Fresh db) : BooksBalanced db := by
  intro account stored
  rw [fresh.customers] at stored
  cases stored

theorem pointsOf_congr (customers : db'.customers = db.customers) (accountId : Id) :
    pointsOf db' accountId = pointsOf db accountId := by
  rw [pointsOf, customers]
  rfl

theorem booksBalanced_congr (customers : db'.customers = db.customers) (books : BooksBalanced db) :
    BooksBalanced db' := fun account stored => by
  rw [pointsOf_congr customers]
  exact books account (customers ▸ stored)

theorem Grows.books (grows : Grows db r db') (keys : GrowthKeys db) (books : BooksBalanced db) :
    BooksBalanced db' := by
  cases grows with
  | untouched same => exact booksBalanced_congr same.customers books
  | moved other moved customers counted supply => exact booksBalanced_congr customers books
  | promoted cart promotion profile applied => exact applied.enrolled.books keys.customers books
  | adjusted accountId adjusted credited => exact credited.books keys.customers books
  | created tenantId code audit is | changed audit is =>
    rw [is]
    exact books
  | transitioned current admitted carts orders customers counted grows =>
    exact booksBalanced_congr customers books
  | finalised order phone profile accountId found known recorded =>
    exact recorded.credited.books keys.customers books

/-- After every run each account has the balance and the totals that its entries make. -/
theorem loyalty_books_balanced (fresh : Fresh db) (rs : List GrowthRequest) :
    BooksBalanced (run db rs) := by
  have keeps : ∀ s e, GrowthKeys s ∧ BooksBalanced s →
      GrowthKeys (step s e) ∧ BooksBalanced (step s e) := fun s e inv =>
    ⟨step_growthKeys inv.1 e, (step_grows inv.1 e).books inv.1 inv.2⟩
  exact (Trace.run_always keeps ⟨growthKeys_fresh fresh, booksBalanced_fresh fresh⟩ rs).2

end

def accountOf (tenantId : Id) (phone : String) (db : Db) : Option LoyaltyAccount :=
  (db.customers.profiles.find? fun profile =>
    profile.tenantId = tenantId ∧ profile.phoneNormalized = phone).bind fun profile =>
      findAccount profile.id db

def balanceOf (tenantId : Id) (phone : String) (db : Db) : Int :=
  ((accountOf tenantId phone db).map LoyaltyAccount.pointsBalance).getD 0

def NoDebt (db : Db) : Prop := ∀ account ∈ db.customers.accounts, 0 ≤ account.pointsBalance

def AddsPoints (r : GrowthRequest) : Prop :=
  match r.call with
  | .adjustLoyalty _ dto => 0 ≤ dto.points
  | _ => True

def Covered (db : Db) (order : Order) (phone : String) : Prop :=
  0 ≤ balanceOf order.tenantId (normalizeCustomerPhone phone) db +
    ((postings order db).map Prod.snd).sum

def FinalisesCovered (db : Db) (r : GrowthRequest) : Prop :=
  match r.call with
  | .finalizeOrderGrowth orderId =>
    ∀ order ∈ (findOrder r.context orderId db).toOption, Recordable order db →
      ∀ phone ∈ order.customerPhone.filter fun phone => Text.trim phone ≠ "",
        Covered db order phone
  | _ => True

instance (r : GrowthRequest) : Decidable (AddsPoints r) :=
  match r with
  | ⟨_, _, .adjustLoyalty _ dto⟩ => inferInstanceAs (Decidable (0 ≤ dto.points))
  | ⟨_, _, .cart _ _⟩ | ⟨_, _, .createPromotion _⟩ | ⟨_, _, .updatePromotion _ _⟩
  | ⟨_, _, .finalizeOrderGrowth _⟩ | ⟨_, _, .transitionOrder _ _⟩ | ⟨_, _, .elsewhere _ _⟩ =>
    isTrue trivial

instance (db : Db) (order : Order) (phone : String) : Decidable (Covered db order phone) :=
  inferInstanceAs (Decidable (0 ≤ _))

instance (db : Db) (r : GrowthRequest) : Decidable (FinalisesCovered db r) :=
  match r with
  | ⟨_, context, .finalizeOrderGrowth orderId⟩ =>
    inferInstanceAs (Decidable (∀ order ∈ (findOrder context orderId db).toOption,
      Recordable order db → ∀ phone ∈ order.customerPhone.filter fun phone => Text.trim phone ≠ "",
        Covered db order phone))
  | ⟨_, _, .cart _ _⟩ | ⟨_, _, .createPromotion _⟩ | ⟨_, _, .updatePromotion _ _⟩
  | ⟨_, _, .adjustLoyalty _ _⟩ | ⟨_, _, .transitionOrder _ _⟩ | ⟨_, _, .elsewhere _ _⟩ =>
    isTrue trivial

section
variable {r : GrowthRequest} {db db' : Db} {tenantId profileId accountId : Id} {phone : String}

/-- The points at hand are those of the entries of the account that the phone number leads to,
there already or not. -/
theorem balanceOf_eq (keys : GrowthKeys db) (books : BooksBalanced db) (keys' : CustomerKeys db')
    (idents' : idents db <+: idents db') (owners' : owners db <+: owners db')
    (has : HasAccount db' tenantId phone profileId accountId) :
    balanceOf tenantId phone db = (pointsOf db accountId).sum := by
  have same : ∀ owner, (accountId, owner) ∈ owners db → owner = profileId := fun owner member =>
    (Prod.mk.inj (Rows.eq_of_key keys'.accounts (owners'.subset member) has.2 rfl)).2
  have nothing : (∀ owner, (accountId, owner) ∉ owners db) → (pointsOf db accountId).sum = 0 := by
    intro absent
    rw [pointsOf_absent keys.customers fun listed => ?_]
    · rfl
    · obtain ⟨⟨_, owner⟩, member, rfl⟩ := mem_map.mp listed
      exact absent owner member
  unfold balanceOf accountOf
  cases found : db.customers.profiles.find? fun profile =>
      profile.tenantId = tenantId ∧ profile.phoneNormalized = phone with
  | none =>
    refine (nothing fun owner member => ?_).symm
    obtain rfl := same owner member
    obtain ⟨ident, listed, named⟩ := mem_map.mp (keys.customers.listed _ member)
    have is := Rows.eq_of_key keys'.profiles (idents'.subset listed) has.1 named
    obtain ⟨profile, stored, made⟩ := mem_map.mp listed
    obtain ⟨_, number⟩ := Prod.mk.inj (made.trans is)
    obtain ⟨tenant, number⟩ := Prod.mk.inj number
    exact find?_eq_none.mp found profile stored (decide_eq_true ⟨tenant, number⟩)
  | some profile =>
    have chosen := find?_some found
    obtain ⟨tenant, number⟩ := of_decide_eq_true chosen
    have listed : (profile.id, tenantId, phone) ∈ idents db :=
      mem_map.mpr ⟨profile, mem_of_find?_eq_some found, by rw [tenant, number]⟩
    have is : profile.id = profileId :=
      (Prod.mk.inj (Rows.eq_of_key keys'.phones (idents'.subset listed) has.1 rfl)).1
    rw [Option.bind_some, is]
    cases isFound : findAccount profileId db with
    | none =>
      refine (nothing fun owner member => ?_).symm
      obtain rfl := same owner member
      obtain ⟨account, stored, made⟩ := mem_map.mp member
      exact find?_eq_none.mp isFound account stored (decide_eq_true (Prod.mk.inj made).2)
    | some account =>
      obtain ⟨stored, own⟩ := findAccount_mem isFound
      have member : (account.id, profileId) ∈ owners db :=
        mem_map.mpr ⟨account, stored, by rw [own]⟩
      have accountIs : account.id = accountId :=
        (Prod.mk.inj (Rows.eq_of_key keys'.owned (owners'.subset member) has.2 rfl)).1
      rw [← accountIs]
      exact (books account stored).balance

theorem sum_pointsOf_nonneg (keys : GrowthKeys db) (books : BooksBalanced db) (free : NoDebt db)
    (accountId : Id) : 0 ≤ (pointsOf db accountId).sum := by
  by_cases owned : accountId ∈ (owners db).map Prod.fst
  · obtain ⟨_, member, rfl⟩ := mem_map.mp owned
    obtain ⟨account, stored, rfl⟩ := mem_map.mp member
    exact (books account stored).balance ▸ free account stored
  · rw [pointsOf_absent keys.customers owned]
    rfl

theorem Credited.noDebt_iff {orderId : Option Id} {points : List (LoyaltyLedgerEntryKind × Int)}
    (credited : Credited orderId profileId accountId points db db') (free : NoDebt db) :
    NoDebt db' ↔ 0 ≤ (pointsOf db accountId).sum + (points.map Prod.snd).sum := by
  obtain ⟨new, ledger, is, posted⟩ := credited.ledger
  have sum : (pointsOf db' accountId).sum = (pointsOf db accountId).sum + (points.map Prod.snd).sum := by
    rw [pointsOf_own ledger posted is, sum_append]
  rw [← sum]
  constructor
  · intro free'
    obtain ⟨account, stored, made⟩ := mem_map.mp credited.owned
    rcases credited.accounts account stored with ⟨_, balanced⟩ | ⟨other, _⟩
    · exact balanced.balance ▸ free' account stored
    · exact absurd (Prod.mk.inj made).1 other
  · intro enough account stored
    rcases credited.accounts account stored with ⟨_, balanced⟩ | ⟨_, before | ⟨empty, _⟩⟩
    · exact balanced.balance ▸ enough
    · exact free account before
    · exact le_of_eq empty.balance.symm

theorem noDebt_congr (customers : db'.customers = db.customers) (free : NoDebt db) : NoDebt db' :=
  fun account stored => free account (customers ▸ stored)

/-- A request that adjusts nothing down and finalises only what is covered makes no debts. -/
theorem Grows.noDebt (grows : Grows db r db') (keys : GrowthKeys db) (books : BooksBalanced db)
    (free : NoDebt db) (adds : AddsPoints r) (covered : FinalisesCovered db r) : NoDebt db' := by
  cases grows with
  | untouched same => exact noDebt_congr same.customers free
  | moved other moved customers counted supply => exact noDebt_congr customers free
  | promoted cart promotion profile applied =>
    intro account stored
    rcases applied.enrolled.accounts account stored with before | ⟨empty, _⟩
    · exact free account before
    · exact le_of_eq empty.balance.symm
  | @adjusted env context customerProfileId dto _ accountId adjusted credited =>
    refine (Credited.noDebt_iff credited free).mpr ?_
    have points : 0 ≤ dto.points := adds
    have held := sum_pointsOf_nonneg keys books free accountId
    simpa using add_nonneg held points
  | created tenantId code audit is | changed audit is =>
    rw [is]
    exact free
  | transitioned current admitted carts orders customers counted grows =>
    exact noDebt_congr customers free
  | finalised order phone profile accountId found known recorded =>
    have enough : Covered db order phone := covered order (by rw [found]; rfl) recorded.recordable phone known
    refine (Credited.noDebt_iff recorded.credited free).mpr ?_
    rw [← balanceOf_eq keys books recorded.credited.keys recorded.credited.idents
      recorded.credited.owners recorded.account]
    exact enough

theorem covered_of_noDebt {env : Env} {context : RequestContext} {orderId : Id}
    (keys : GrowthKeys db) (books : BooksBalanced db) (free : NoDebt db)
    (free' : NoDebt (step db ⟨env, context, .finalizeOrderGrowth orderId⟩)) :
    FinalisesCovered db ⟨env, context, .finalizeOrderGrowth orderId⟩ := by
  intro order located recordable phone known
  have found : findOrder context orderId db = .ok order := toOption_eq_some_iff.mp located
  obtain ⟨result, db', h⟩ :=
    (finalizeOrderGrowthTx_succeeds_iff env.now found).mpr fun _ => recordable
  have after : step db ⟨env, context, .finalizeOrderGrowth orderId⟩ = db' := by
    show (Call.exec (Call.transact _) db).2 = db'
    rw [Call.transact_ok h]
  rw [after] at free'
  obtain ⟨order', found', done⟩ := finalizeOrderGrowthTx_recorded keys.customers h
  obtain rfl := Except.ok.inj (found'.symm.trans found)
  rw [known] at done
  obtain ⟨profile, accountId, recorded⟩ := done
  rw [Covered, balanceOf_eq keys books recorded.credited.keys recorded.credited.idents
    recorded.credited.owners recorded.account]
  exact (Credited.noDebt_iff recorded.credited free).mp free'

end

/-- As long as nothing is adjusted down, no account is in debt in any state of a run just when every
order is covered in the moment it is finalised. -/
theorem balances_never_negative_iff {db : Db} (fresh : Fresh db) {rs : List GrowthRequest}
    (adds : ∀ r ∈ rs, AddsPoints r) : (∀ before, before <+: rs → NoDebt (run db before)) ↔
      Trace.Along step FinalisesCovered db rs := by
  have start : NoDebt db := fun account stored => by
    rw [fresh.customers] at stored
    cases stored
  have holds : ∀ s, GrowthKeys s ∧ BooksBalanced s ∧ NoDebt s → NoDebt s := fun s inv => inv.2.2
  have keeps : ∀ s e, GrowthKeys s ∧ BooksBalanced s ∧ NoDebt s → AddsPoints e →
      FinalisesCovered s e →
        GrowthKeys (step s e) ∧ BooksBalanced (step s e) ∧ NoDebt (step s e) := by
    rintro s e ⟨keys, books, free⟩ adds covered
    have grows := step_grows keys e
    exact ⟨grows.keys keys, grows.books keys books, grows.noDebt keys books free adds covered⟩
  have needs : ∀ s e, GrowthKeys s ∧ BooksBalanced s ∧ NoDebt s → AddsPoints e →
      NoDebt (step s e) → FinalisesCovered s e := by
    rintro s ⟨env, context, call⟩ ⟨keys, books, free⟩ _ free'
    cases call with
    | finalizeOrderGrowth orderId => exact covered_of_noDebt keys books free free'
    | _ => exact trivial
  exact Trace.always_iff_along_of holds keeps needs
    ⟨growthKeys_fresh fresh, booksBalanced_fresh fresh, start⟩ adds

def reward : CreatePromotionCampaignDto where
  tenantId := 1
  code := "reward"
  name := "Reward"
  type := .loyaltyRedeem
  value := 500
  pointsCost := some 100
  pointsCost_min := by decide
  usageLimit_min := by decide

def firstOrder : List GrowthRequest :=
  [atCounter 1 (.createPromotion reward),
   createCartAt 2 { storeId := 2, customerPhone := some "555" },
   addItemAt 3 101 { productId := 10, quantity := 20 },
   checkoutAt 4 101,
   atCounter 5 (.finalizeOrderGrowth 103)]

def rewarded : List GrowthRequest := firstOrder ++
  [createCartAt 6 { storeId := 2, customerPhone := some "555" },
   addItemAt 7 109 { productId := 10, quantity := 1 },
   applyPromotionAt 8 { cartId := 109, code := "REWARD" },
   checkoutAt 9 109,
   atCounter 10 (.finalizeOrderGrowth 111)]

def rewardedTwice : List GrowthRequest := firstOrder ++
  [createCartAt 6 { storeId := 2, customerPhone := some "555" },
   addItemAt 7 109 { productId := 10, quantity := 1 },
   createCartAt 8 { storeId := 2, customerPhone := some "555" },
   addItemAt 9 111 { productId := 10, quantity := 1 },
   applyPromotionAt 10 { cartId := 109, code := "REWARD" },
   applyPromotionAt 11 { cartId := 111, code := "REWARD" },
   checkoutAt 12 109,
   checkoutAt 13 111,
   atCounter 14 (.finalizeOrderGrowth 113),
   atCounter 15 (.finalizeOrderGrowth 116)]

theorem loyalty_books_balanced_twice :
    BooksBalanced (run bakery rewardedTwice) ∧ (run bakery rewardedTwice).customers.accounts.map
      (fun account => (account.pointsBalance, account.totalEarnedPoints,
        account.totalRedeemedPoints)) = [(-100, 100, 200)] :=
  ⟨loyalty_books_balanced bakery_fresh rewardedTwice, by decide +kernel⟩

theorem balances_never_negative_rewarded :
    (∀ before, before <+: rewarded → NoDebt (run bakery before)) ∧
      (run bakery rewarded).customers.accounts.map LoyaltyAccount.pointsBalance = [0] :=
  ⟨(balances_never_negative_iff bakery_fresh (by decide)).mpr (by decide +kernel),
    by decide +kernel⟩

/-- Both carts ask the account for the points of one. -/
theorem rewarded_twice_in_debt : (∀ r ∈ rewardedTwice, AddsPoints r) ∧
    ¬∀ before, before <+: rewardedTwice → NoDebt (run bakery before) := by
  refine ⟨by decide, fun always => ?_⟩
  have free := always rewardedTwice (List.prefix_refl _)
  have owing : (run bakery rewardedTwice).customers.accounts.any (fun account =>
      account.pointsBalance = -100) = true := by decide +kernel
  obtain ⟨account, stored, balance⟩ := List.any_eq_true.mp owing
  have held := free account stored
  rw [of_decide_eq_true balance] at held
  exact absurd held (by decide)

end Exetron.Growth
