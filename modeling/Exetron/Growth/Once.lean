import Exetron.Growth.UsageLimit

/-!
# What an order does once

However often an order is finalised, and whatever is requested in between, it earns points once,
pays for its reward once and is counted for its promotion once.
-/

namespace Exetron.Growth

open Lib Orders Customers Carts List

def entriesOf (db : Db) (orderId : Id) (kind : LoyaltyLedgerEntryKind) : List LoyaltyLedgerEntry :=
  db.customers.ledger.filter fun entry => entry.orderId = some orderId ∧ entry.entryKind = kind

def usedCountOf (db : Db) (promotionId : String) : Int :=
  ((Rows.find PromotionCampaign.id db.customers.campaigns promotionId).map
    PromotionCampaign.usedCount).getD 0

def rises (db db' : Db) (orderId : Id) : List (Id × String) :=
  db'.customers.campaigns.flatMap fun promotion =>
    List.replicate (promotion.usedCount - usedCountOf db promotion.id).toNat (orderId, promotion.id)

/-- What the finalisation of an order, if the request is one, adds to the counters. -/
def counting (db : Db) (r : GrowthRequest) : List (Id × String) :=
  match r.call with
  | .finalizeOrderGrowth orderId => rises db (step db r) orderId
  | _ => []

abbrev countings (db : Db) (rs : List GrowthRequest) : List (Id × String) :=
  Trace.recorded step counting [] db rs

structure GrownOnce (counts : List (Id × String)) (db : Db) : Prop where
  earned : ∀ orderId, (entriesOf db orderId .earn).length ≤ 1
  redeemed : ∀ orderId, (entriesOf db orderId .redeem).length ≤ 1
  counted : ∀ orderId, (counts.filter fun count => count.1 = orderId).length ≤ 1

section
variable {db db' : Db} {orderId : Id} {kind : LoyaltyLedgerEntryKind}

theorem entriesOf_congr (ledger : db'.customers.ledger = db.customers.ledger) :
    entriesOf db' orderId kind = entriesOf db orderId kind := by
  rw [entriesOf, ledger]
  rfl

theorem entriesOf_append {new : List LoyaltyLedgerEntry}
    (ledger : db'.customers.ledger = db.customers.ledger ++ new) :
    entriesOf db' orderId kind = entriesOf db orderId kind ++
      new.filter fun entry => entry.orderId = some orderId ∧ entry.entryKind = kind := by
  rw [entriesOf, ledger, filter_append]
  rfl

theorem entriesOf_eq_nil {order : Order} (absent : entryExists order.id kind db = false) :
    entriesOf db order.id kind = [] := by
  refine filter_eq_nil_iff.mpr fun entry listed is => ?_
  have found : entryExists order.id kind db = true :=
    any_eq_true.mpr ⟨entry, listed, is⟩
  rw [absent] at found
  cases found

theorem postings_once (order : Order) (db : Db) (kind : LoyaltyLedgerEntryKind) :
    ((postings order db).filter fun posting => posting.1 = kind).length ≤
      if entryExists order.id kind db then 0 else 1 := by
  have earns : (earning order db).filter (fun posting => posting.1 = kind) = [] ∨
      kind = .earn ∧ entryExists order.id .earn db = false ∧ (earning order db).length = 1 := by
    unfold earning
    split
    · rename_i due
      by_cases is : kind = .earn
      · exact .inr ⟨is, by simpa using due.1, rfl⟩
      · exact .inl (by simpa using fun same => is same.symm)
    · exact .inl rfl
  have redeems : (redeeming order db).filter (fun posting => posting.1 = kind) = [] ∨
      kind = .redeem ∧ entryExists order.id .redeem db = false ∧
        (redeeming order db).length ≤ 1 := by
    unfold redeeming
    split
    · exact .inl rfl
    · rename_i absent
      by_cases is : kind = .redeem
      · exact .inr ⟨is, by simpa using absent, by cases redeemedPoints order <;> simp⟩
      · refine .inl (filter_eq_nil_iff.mpr fun posting listed same => is ?_)
        obtain ⟨_, _, rfl⟩ := Option.map_eq_some_iff.mp (Option.mem_toList.mp listed)
        exact (of_decide_eq_true same).symm
  rw [postings, filter_append, length_append]
  rcases earns with noEarn | ⟨rfl, absent, one⟩
  · rw [noEarn, length_nil, Nat.zero_add]
    rcases redeems with noRedeem | ⟨rfl, absent, one⟩
    · rw [noRedeem]
      exact Nat.zero_le _
    · rw [absent]
      exact le_trans (length_filter_le _ _) one
  · rcases redeems with noRedeem | ⟨other, _, _⟩
    · rw [noRedeem, length_nil, Nat.add_zero, absent]
      exact le_trans (length_filter_le _ _) one.le
    · cases other

theorem entries_posted {order : Order} {profileId accountId : Id}
    (once : ∀ orderId kind, (entriesOf db orderId kind).length ≤ 1)
    {new : List LoyaltyLedgerEntry} (ledger : db'.customers.ledger = db.customers.ledger ++ new)
    (points : new.map kindAndPoints = postings order db)
    (posted : ∀ entry ∈ new, PostedTo (some order.id) profileId accountId entry) :
    (entriesOf db' orderId kind).length ≤ 1 := by
  rw [entriesOf_append ledger, length_append]
  by_cases own : orderId = order.id
  · subst own
    have kinds : (new.filter fun entry => entry.orderId = some order.id ∧ entry.entryKind = kind) =
        new.filter fun entry => (kindAndPoints entry).1 = kind :=
      filter_congr fun entry listed =>
        decide_eq_decide.mpr (by simp [(posted entry listed).order, kindAndPoints])
    have count : (new.filter fun entry => (kindAndPoints entry).1 = kind).length =
        ((postings order db).filter fun posting => posting.1 = kind).length := by
      rw [← points, filter_map, length_map]
      rfl
    have few := postings_once order db kind
    rw [kinds, count]
    cases absent : entryExists order.id kind db with
    | true =>
      rw [absent, if_pos rfl] at few
      exact le_trans (Nat.add_le_add (once order.id kind) few) le_rfl
    | false =>
      rw [absent] at few
      rw [entriesOf_eq_nil absent, length_nil, Nat.zero_add]
      exact few
  · have nothing : (new.filter fun entry => entry.orderId = some orderId ∧
        entry.entryKind = kind) = [] := by
      refine filter_eq_nil_iff.mpr fun entry listed is => own ?_
      have same := (of_decide_eq_true is).1
      rw [(posted entry listed).order] at same
      exact (Option.some.inj same).symm
    rw [nothing]
    exact once orderId kind

/-- No request leaves an order with two entries of a kind. -/
theorem Grows.entries {r : GrowthRequest} (grows : Grows db r db')
    (once : ∀ orderId kind, (entriesOf db orderId kind).length ≤ 1) :
    (entriesOf db' orderId kind).length ≤ 1 := by
  cases grows with
  | untouched same =>
    rw [entriesOf_congr (congrArg CustomerTables.ledger same.customers)]
    exact once orderId kind
  | moved other moved customers counted supply =>
    rw [entriesOf_congr (congrArg CustomerTables.ledger customers)]
    exact once orderId kind
  | promoted cart promotion profile applied =>
    rw [entriesOf_congr applied.enrolled.ledger]
    exact once orderId kind
  | adjusted accountId adjusted credited =>
    obtain ⟨new, ledger, _, posted⟩ := credited.ledger
    have nothing : (new.filter fun entry => entry.orderId = some orderId ∧
        entry.entryKind = kind) = [] := by
      refine filter_eq_nil_iff.mpr fun entry listed is => ?_
      have same := (of_decide_eq_true is).1
      rw [(posted entry listed).order] at same
      cases same
    rw [entriesOf_append ledger, nothing, append_nil]
    exact once orderId kind
  | created tenantId code audit is | changed audit is =>
    rw [entriesOf_congr (by rw [is])]
    exact once orderId kind
  | transitioned current admitted carts orders customers counted grows =>
    rw [entriesOf_congr (congrArg CustomerTables.ledger customers)]
    exact once orderId kind
  | finalised order phone profile accountId found known recorded =>
    obtain ⟨new, ledger, points, posted⟩ := recorded.credited.ledger
    exact entries_posted once ledger points posted

end

section
variable {db db' : Db} {orderId : Id}

theorem usedCountOf_stored (unique : (db.customers.campaigns.map PromotionCampaign.id).Nodup)
    {promotion : PromotionCampaign} (stored : promotion ∈ db.customers.campaigns) :
    usedCountOf db promotion.id = promotion.usedCount := by
  rw [usedCountOf, Rows.find_of_mem unique stored]
  rfl

theorem rises_own {count : Id × String} (listed : count ∈ rises db db' orderId) :
    count.1 = orderId := by
  obtain ⟨promotion, _, more⟩ := mem_flatMap.mp listed
  rw [eq_of_mem_replicate more]

theorem rises_nothing (unique : (db.customers.campaigns.map PromotionCampaign.id).Nodup)
    (campaigns : db'.customers.campaigns = db.customers.campaigns) : rises db db' orderId = [] := by
  refine flatMap_eq_nil_iff.mpr fun promotion stored => ?_
  rw [campaigns] at stored
  rw [usedCountOf_stored unique stored, sub_self]
  rfl

theorem rises_counted (unique : (db.customers.campaigns.map PromotionCampaign.id).Nodup)
    {promotionId : String} (campaigns : db'.customers.campaigns =
      Rows.modify PromotionCampaign.id promotionId countUse db.customers.campaigns) :
    (rises db db' orderId).length ≤ 1 := by
  have one : ∀ promotion ∈ db.customers.campaigns, (replicate
        ((if promotion.id = promotionId then countUse promotion else promotion).usedCount -
          usedCountOf db (if promotion.id = promotionId then countUse promotion
            else promotion).id).toNat
        (orderId, (if promotion.id = promotionId then countUse promotion
          else promotion).id)).length =
      if promotion.id = promotionId then 1 else 0 := by
    intro promotion stored
    have before := usedCountOf_stored unique stored
    rw [length_replicate]
    split
    · show (promotion.usedCount + 1 - usedCountOf db promotion.id).toNat = 1
      rw [before, add_sub_cancel_left]
      rfl
    · rw [before, sub_self]
      rfl
  have few : (db.customers.campaigns.filter fun promotion =>
      promotion.id = promotionId).length ≤ 1 :=
    Rows.length_filter_le_one unique fun promotion _ promotion' _ is is' =>
      (of_decide_eq_true is).trans (of_decide_eq_true is').symm
  calc (rises db db' orderId).length
      = (db.customers.campaigns.map fun promotion =>
          if promotion.id = promotionId then 1 else 0).sum := by
        rw [rises, campaigns, Rows.modify, Rows.updateWhere, flatMap_map, length_flatMap]
        refine congrArg sum (map_congr_left fun promotion stored => ?_)
        simpa using one promotion stored
    _ = (db.customers.campaigns.filter fun promotion => promotion.id = promotionId).length := by
        have total : Rows.total (fun promotion => promotion.id = promotionId) (fun _ => 1)
            db.customers.campaigns = (db.customers.campaigns.map fun promotion =>
              if promotion.id = promotionId then 1 else 0).sum := by
          rw [Rows.total_eq_sum]
          exact congrArg sum (map_congr_left fun promotion _ => by simp [Rows.share])
        rw [← total]
        simp [Rows.total]
    _ ≤ 1 := few

end

/-- What every request keeps: an order that added to a counter is among those counted. -/
structure OnceKept (counts : List (Id × String)) (db : Db) : Prop where
  keys : GrowthKeys db
  named : Named db
  promotions : (db.customers.campaigns.map PromotionCampaign.id).Nodup
  entries : ∀ orderId kind, (entriesOf db orderId kind).length ≤ 1
  distinct : (counts.map Prod.fst).Nodup
  counted : ∀ count ∈ counts, count.1 ∈ redemptions db

section
variable {db db' : Db} {r : GrowthRequest}

theorem onceKept_fresh (fresh : Fresh db) : OnceKept [] db where
  keys := growthKeys_fresh fresh
  named := named_fresh fresh
  promotions := by
    rw [fresh.customers]
    exact nodup_nil
  entries orderId kind := by
    rw [entriesOf, fresh.customers]
    exact Nat.zero_le _
  distinct := nodup_nil
  counted count listed := by cases listed

theorem Grows.promotions (grows : Grows db r db') (named : Named db)
    (unique : (db.customers.campaigns.map PromotionCampaign.id).Nodup) :
    (db'.customers.campaigns.map PromotionCampaign.id).Nodup := by
  cases grows with
  | untouched same => rwa [same.customers]
  | moved other moved customers counted supply => rwa [customers]
  | promoted cart promotion profile applied => rwa [applied.enrolled.campaigns]
  | adjusted accountId adjusted credited => rwa [adjusted.campaigns]
  | created tenantId code audit is =>
    rw [is]
    refine Rows.nodup_append_key unique fun listed => ?_
    obtain ⟨promotion, stored, same⟩ := mem_map.mp listed
    obtain ⟨n, old, text⟩ := named.campaigns promotion stored
    exact old.ne (toString_inj (text.symm.trans same))
  | @changed env _ promotionId dto _ audit is =>
    rw [is]
    show ((Rows.modify PromotionCampaign.id (toString promotionId) (withChanges env dto)
      db.customers.campaigns).map PromotionCampaign.id).Nodup
    rw [Rows.map_modify (f := withChanges env dto) fun _ => rfl]
    exact unique
  | transitioned current admitted carts orders customers counted grows => rwa [customers]
  | finalised order phone profile accountId found known recorded =>
    rw [recorded.campaigns, Customers.counted]
    split
    · exact unique
    · rw [Rows.map_modify (f := countUse) fun _ => rfl]
      exact unique

theorem Grows.redemptions_mono (grows : Grows db r db') {orderId : Id}
    (before : orderId ∈ redemptions db) : orderId ∈ redemptions db' := by
  cases grows with
  | untouched same => rwa [same.redemptions]
  | moved other moved customers counted supply => rwa [counted]
  | promoted cart promotion profile applied =>
    rw [applied.rest]
    exact before
  | adjusted accountId adjusted credited => rwa [adjusted.redemptions]
  | created tenantId code audit is | changed audit is =>
    rw [is]
    exact before
  | transitioned current admitted carts orders customers counted grows => rwa [counted]
  | finalised order phone profile accountId found known recorded =>
    rw [recorded.redemptions]
    exact mem_append_left _ before

theorem Grows.rises {env : Env} {context : RequestContext} {orderId : Id}
    (grows : Grows db ⟨env, context, .finalizeOrderGrowth orderId⟩ db')
    (unique : (db.customers.campaigns.map PromotionCampaign.id).Nodup) :
    rises db db' orderId = [] ∨ (rises db db' orderId).length ≤ 1 ∧
      orderId ∉ redemptions db ∧ orderId ∈ redemptions db' := by
  cases grows with
  | untouched same =>
    exact .inl (rises_nothing unique (congrArg CustomerTables.campaigns same.customers))
  | finalised order phone profile accountId found known recorded =>
    have own : order.id = orderId := (Table.findUnique_mem (findOrder_ok_iff.mp found).1).2
    have campaigns := recorded.campaigns
    have redeemed := recorded.redemptions
    cases isNew : uncounted order db with
    | none =>
      rw [Customers.counted, isNew] at campaigns
      exact .inl (rises_nothing unique campaigns)
    | some promotionId =>
      rw [Customers.counted, isNew] at campaigns
      rw [isNew, Option.toList_some, map_singleton, own] at redeemed
      refine .inr ⟨rises_counted unique campaigns, ?_, ?_⟩
      · rw [← own]
        exact (not_counted_of_uncounted isNew).1
      · rw [redeemed]
        exact mem_append_right _ (mem_singleton_self _)

theorem step_onceKept {counts : List (Id × String)} (kept : OnceKept counts db)
    (r : GrowthRequest) : OnceKept (counting db r ++ counts) (step db r) := by
  have grows := step_grows kept.keys r
  have still : ∀ count ∈ counts, count.1 ∈ redemptions (step db r) :=
    fun count listed => grows.redemptions_mono (kept.counted count listed)
  have added : ((counting db r ++ counts).map Prod.fst).Nodup ∧
      ∀ count ∈ counting db r ++ counts, count.1 ∈ redemptions (step db r) := by
    obtain ⟨env, context, call⟩ := r
    cases call with
    | finalizeOrderGrowth orderId =>
      rcases grows.rises kept.promotions with nothing | ⟨one, new, listed⟩
      · have none : counting db ⟨env, context, .finalizeOrderGrowth orderId⟩ = [] := nothing
        rw [none]
        exact ⟨kept.distinct, still⟩
      · have own : ∀ count ∈ counting db ⟨env, context, .finalizeOrderGrowth orderId⟩,
            count.1 = orderId := fun count => rises_own
        have once : (counting db ⟨env, context, .finalizeOrderGrowth orderId⟩).length ≤ 1 := one
        constructor
        · rw [map_append]
          refine nodup_append.mpr ⟨?_, kept.distinct, ?_⟩
          · rcases Nat.le_one_iff_eq_zero_or_eq_one.mp once with empty | single
            · rw [length_eq_zero_iff.mp empty]
              exact nodup_nil
            · obtain ⟨count, only⟩ := length_eq_one_iff.mp single
              rw [only]
              exact nodup_singleton _
          · rintro _ isNew _ before rfl
            obtain ⟨count, isNew, same⟩ := mem_map.mp isNew
            obtain ⟨count', before, same'⟩ := mem_map.mp before
            rw [own count isNew] at same
            exact new (same ▸ same' ▸ kept.counted count' before)
        · intro count member
          rcases mem_append.mp member with isNew | before
          · rw [own count isNew]
            exact listed
          · exact still count before
    | cart | adjustLoyalty | createPromotion | updatePromotion | transitionOrder | elsewhere =>
      exact ⟨kept.distinct, still⟩
  exact
    { keys := step_growthKeys kept.keys r
      named := grows.named kept.named
      promotions := grows.promotions kept.named kept.promotions
      entries := fun _ _ => grows.entries kept.entries
      distinct := added.1
      counted := added.2 }

theorem OnceKept.once {counts : List (Id × String)} (kept : OnceKept counts db) :
    GrownOnce counts db where
  earned orderId := kept.entries orderId .earn
  redeemed orderId := kept.entries orderId .redeem
  counted _ := Rows.length_filter_le_one kept.distinct fun _ _ _ _ is is' =>
    (of_decide_eq_true is).trans (of_decide_eq_true is').symm

end

/-- In every run from a fresh store an order earns points once at most, pays for its reward once
at most, and adds one use at most to the counters of the promotions. -/
theorem growth_once {db : Db} (fresh : Fresh db) (rs : List GrowthRequest) :
    GrownOnce (countings db rs) (run db rs) :=
  (Trace.run_recorded (Q := OnceKept) (fun _ _ r kept => step_onceKept kept r)
    (onceKept_fresh fresh) rs).once

def secondComer : UpdatePromotionCampaignDto where
  name := some "Second comer"
  usageLimit := some (some 2)
  pointsCost_min := by decide
  usageLimit_min := by decide

def finalisedAgain : List GrowthRequest :=
  [atCounter 1 (.createPromotion firstComer),
   createCartAt 2 { storeId := 2, customerPhone := some "555" },
   addItemAt 3 101 { productId := 10, quantity := 1 },
   applyPromotionAt 4 { cartId := 101, code := "FIRST" },
   checkoutAt 5 101,
   atCounter 6 (.finalizeOrderGrowth 105),
   atCounter 7 (.updatePromotion 100 secondComer),
   atCounter 8 (.finalizeOrderGrowth 105)]

theorem growth_once_finalised_again :
    GrownOnce (countings bakery finalisedAgain) (run bakery finalisedAgain) ∧
      (run bakery finalisedAgain).customers.ledger.map LoyaltyLedgerEntry.orderId = [some 105] ∧
      (countings bakery finalisedAgain).map Prod.fst = [105] :=
  ⟨growth_once bakery_fresh finalisedAgain, by decide +kernel, by decide +kernel⟩

end Exetron.Growth
