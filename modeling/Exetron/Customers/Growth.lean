import Exetron.Customers.Accounts

/-!
# What a recorded growth and an adjustment leave

The entries an order posts, the account they leave balanced, and the promotion it counts for.
-/

namespace Exetron.Customers

open Lib List Tx

variable {new : List LoyaltyLedgerEntry} {other : Id} {d : Db}

def earning (order : Order) (db : Db) : List (LoyaltyLedgerEntryKind × Int) :=
  if ¬entryExists order.id .earn db ∧ resolveEarnedLoyaltyPoints order.total > 0 ∧
      order.status ≠ .cancelled then
    [(.earn, resolveEarnedLoyaltyPoints order.total)]
  else []

def redeeming (order : Order) (db : Db) : List (LoyaltyLedgerEntryKind × Int) :=
  if entryExists order.id .redeem db then []
  else ((redeemedPoints order).map fun pointsCost =>
    (LoyaltyLedgerEntryKind.redeem, -pointsCost.num)).toList

def postings (order : Order) (db : Db) : List (LoyaltyLedgerEntryKind × Int) :=
  earning order db ++ redeeming order db

def uncounted (order : Order) (db : Db) : Option String :=
  if orderEventExists order.id "customer.promotion_redeemed" db then none else campaignOf order

def redemptions (db : Db) : List Id :=
  (db.logs.orderEvents.filter fun event => event.type = "customer.promotion_redeemed").map
    OrderEvent.orderId

def countUse (campaign : PromotionCampaign) : PromotionCampaign :=
  { campaign with usedCount := campaign.usedCount + 1 }

theorem mem_redemptions_iff {db : Db} {orderId : Id} : orderId ∈ redemptions db ↔
    orderEventExists orderId "customer.promotion_redeemed" db = true := by
  simp only [redemptions, orderEventExists, mem_map, mem_filter, any_eq_true, decide_eq_true_iff]
  constructor
  · rintro ⟨event, ⟨recorded, type⟩, rfl⟩
    exact ⟨event, recorded, rfl, type⟩
  · rintro ⟨event, recorded, rfl, type⟩
    exact ⟨event, ⟨recorded, type⟩, rfl⟩

/-- Entries posted for an order to an account. -/
structure PostedTo (orderId : Option Id) (profileId accountId : Id) (entry : LoyaltyLedgerEntry) :
    Prop where
  order : entry.orderId = orderId
  profile : entry.customerProfileId = profileId
  account : entry.loyaltyAccountId = accountId

def kindAndPoints (entry : LoyaltyLedgerEntry) : LoyaltyLedgerEntryKind × Int :=
  (entry.entryKind, entry.points)

/-- A change of the store that only posts entries. -/
structure Posts (orderId : Option Id) (profileId accountId : Id)
    (points : List (LoyaltyLedgerEntryKind × Int)) (db db' : Db) : Prop where
  rest : db' = { db with
    nextId := db'.nextId
    customers := { db.customers with ledger := db'.customers.ledger } }
  grows : db.nextId ≤ db'.nextId
  ledger : ∃ new, db'.customers.ledger = db.customers.ledger ++ new ∧
    new.map kindAndPoints = points ∧ ∀ entry ∈ new, PostedTo orderId profileId accountId entry

section
variable {order : Order} {profile : CustomerProfile} {account : LoyaltyAccount} {u : Unit}
  {db db' : Db}

theorem posts_nothing (orderId : Option Id) (profileId accountId : Id) (db : Db) :
    Posts orderId profileId accountId [] db db where
  rest := rfl
  grows := le_refl _
  ledger := ⟨[], (append_nil _).symm, rfl, fun _ listed => absurd listed not_mem_nil⟩

theorem postEntry_posts {entryKind : LoyaltyLedgerEntryKind} {points : Int} {amount : Money}
    {description : String}
    (h : postEntry order profile account entryKind points amount description db = .ok (u, db')) :
    Posts (some order.id) profile.id account.id [(entryKind, points)] db db' := by
  simp only [postEntry, bind_ok_iff, freshId_ok_iff, Table.create_ok_iff, pure_ok_iff] at h
  obtain ⟨_, _, ⟨rfl, rfl⟩, entry, _, ⟨made, rfl⟩, _, rfl⟩ := h
  rw [← made]
  refine ⟨rfl, Nat.le_succ _, [entry], rfl, by rw [made]; rfl, fun other listed => ?_⟩
  rw [mem_singleton.mp listed, made]
  exact ⟨rfl, rfl, rfl⟩

theorem postAdjustment_posts {dto : AdjustCustomerLoyaltyDto}
    (h : postAdjustment profile account dto db = .ok (u, db')) :
    Posts none profile.id account.id [(.adjust, dto.points)] db db' := by
  simp only [postAdjustment, bind_ok_iff, freshId_ok_iff, Table.create_ok_iff, pure_ok_iff] at h
  obtain ⟨_, _, ⟨rfl, rfl⟩, entry, _, ⟨made, rfl⟩, _, rfl⟩ := h
  rw [← made]
  refine ⟨rfl, Nat.le_succ _, [entry], rfl, by rw [made]; rfl, fun other listed => ?_⟩
  rw [mem_singleton.mp listed, made]
  exact ⟨rfl, rfl, rfl⟩

theorem recordEarn_posts (h : recordEarn order profile account db = .ok (u, db')) :
    Posts (some order.id) profile.id account.id (earning order db) db db' := by
  simp only [recordEarn, bind_ok_iff, read_ok_iff, ite_ok_iff, pure_ok_iff] at h
  obtain ⟨existing, _, ⟨read, rfl⟩, ⟨earns, posted⟩ | ⟨not, _, rfl⟩⟩ := h
  · obtain rfl := Except.ok.inj read
    rw [earning, if_pos earns]
    exact postEntry_posts posted
  · obtain rfl := Except.ok.inj read
    rw [earning, if_neg not]
    exact posts_nothing _ _ _ _

theorem recordRedeem_posts (h : recordRedeem order profile account db = .ok (u, db')) :
    Posts (some order.id) profile.id account.id (redeeming order db) db db' := by
  simp only [recordRedeem, bind_ok_iff, read_ok_iff] at h
  obtain ⟨existing, _, ⟨read, rfl⟩, h⟩ := h
  obtain rfl := Except.ok.inj read
  cases cost : (if entryExists order.id .redeem db then none else redeemedPoints order) with
  | none =>
    rw [cost] at h
    obtain ⟨_, rfl⟩ := pure_ok_iff.mp h
    have nothing : redeeming order db = [] := by
      unfold redeeming
      split at cost
      · exact if_pos ‹_›
      · rw [if_neg ‹_›, cost]
        rfl
    rw [nothing]
    exact posts_nothing _ _ _ _
  | some pointsCost =>
    rw [cost] at h
    simp only [bind_ok_iff, lift_ok_iff, required_ok_iff] at h
    obtain ⟨points, _, ⟨whole, rfl⟩, posted⟩ := h
    have paid : redeeming order db = [(.redeem, -pointsCost.num)] := by
      unfold redeeming
      split at cost
      · cases cost
      · rw [if_neg ‹_›, cost]
        rfl
    split at whole
    · obtain rfl := Option.some.inj whole
      rw [paid]
      exact postEntry_posts posted
    · cases whole

theorem Posts.redeeming_eq (posts : Posts (some order.id) profile.id account.id (earning order db) db
    db') : redeeming order db' = redeeming order db := by
  obtain ⟨new, ledger, points, _⟩ := posts.ledger
  have earned : ∀ entry ∈ new, entry.entryKind = .earn := by
    intro entry listed
    have kind : kindAndPoints entry ∈ earning order db := points ▸ mem_map_of_mem listed
    unfold earning at kind
    split at kind
    · exact congrArg Prod.fst (mem_singleton.mp kind)
    · cases kind
  rw [redeeming, entryExists_append_earn earned ledger]
  rfl

theorem recordOrderEventTx_redemptions {type : String}
    (h : recordOrderEventTx order type db = .ok (u, db')) :
    (∃ logs, db' = { db with logs := logs }) ∧ redemptions db' = redemptions db ++
      if type = "customer.promotion_redeemed" then [order.id] else [] := by
  simp only [recordOrderEventTx, bind_ok_iff] at h
  obtain ⟨_, _, recorded, queued⟩ := h
  rw [log_ok_iff.mp queued, log_ok_iff.mp recorded]
  refine ⟨⟨_, rfl⟩, ?_⟩
  rw [redemptions, filter_append, map_append]
  congr 1
  by_cases counted : type = "customer.promotion_redeemed" <;> simp [counted]

theorem recordOrderEventOnceTx_redemptions {type : String}
    (other : type ≠ "customer.promotion_redeemed")
    (h : recordOrderEventOnceTx order type db = .ok (u, db')) :
    (∃ logs, db' = { db with logs := logs }) ∧ redemptions db' = redemptions db := by
  simp only [recordOrderEventOnceTx, bind_ok_iff, read_ok_iff, ite_ok_iff, pure_ok_iff] at h
  obtain ⟨_, _, ⟨_, rfl⟩, ⟨_, _, rfl⟩ | ⟨_, recorded⟩⟩ := h
  · exact ⟨⟨_, rfl⟩, rfl⟩
  · obtain ⟨logs, same⟩ := recordOrderEventTx_redemptions recorded
    rw [if_neg other, append_nil] at same
    exact ⟨logs, same⟩

def counted (order : Order) (db : Db) : List PromotionCampaign :=
  match uncounted order db with
  | none => db.customers.campaigns
  | some promotionId =>
    Rows.modify PromotionCampaign.id promotionId countUse db.customers.campaigns

theorem redeemPromotion_counts (h : redeemPromotion order db = .ok (u, db')) :
    (∃ logs, db' = { db with
      customers := { db.customers with campaigns := counted order db }
      logs := logs }) ∧
      redemptions db' = redemptions db ++ (uncounted order db).toList.map fun _ => order.id := by
  simp only [redeemPromotion, bind_ok_iff, read_ok_iff] at h
  obtain ⟨redeemed, _, ⟨read, rfl⟩, h⟩ := h
  obtain rfl := Except.ok.inj read
  cases campaign : (if orderEventExists order.id "customer.promotion_redeemed" db then none
      else campaignOf order) with
  | none =>
    rw [campaign] at h
    obtain ⟨_, rfl⟩ := pure_ok_iff.mp h
    have same : uncounted order db = none := campaign
    rw [counted, same]
    exact ⟨⟨db.logs, rfl⟩, (append_nil _).symm⟩
  | some promotionId =>
    rw [campaign] at h
    have same : uncounted order db = some promotionId := campaign
    simp only [bind_ok_iff] at h
    obtain ⟨_, _, updated, recorded⟩ := h
    obtain ⟨_, _, _, rfl⟩ := Table.update_ok_iff.mp updated
    obtain ⟨⟨logs, rfl⟩, events⟩ := recordOrderEventTx_redemptions recorded
    rw [counted, same]
    exact ⟨⟨logs, rfl⟩, events⟩

end

/-- Entries were posted to an account, new or not, and the account refreshed. -/
structure Credited (orderId : Option Id) (profileId accountId : Id)
    (points : List (LoyaltyLedgerEntryKind × Int)) (db db' : Db) : Prop where
  idents : idents db <+: idents db'
  owners : owners db <+: owners db'
  owned : (accountId, profileId) ∈ Customers.owners db'
  grows : db.nextId ≤ db'.nextId
  keys : CustomerKeys db'
  ledger : ∃ new, db'.customers.ledger = db.customers.ledger ++ new ∧
    new.map kindAndPoints = points ∧ ∀ entry ∈ new, PostedTo orderId profileId accountId entry
  accounts : ∀ row ∈ db'.customers.accounts,
    row.id = accountId ∧ Balanced (pointsOf db' accountId) row ∨
      row.id ≠ accountId ∧ (row ∈ db.customers.accounts ∨ Balanced [] row ∧ db.nextId ≤ row.id)

section
variable {orderId : Option Id} {profileId accountId : Id}
  {points : List (LoyaltyLedgerEntryKind × Int)} {db db' m : Db}

theorem pointsOf_other (ledger : db'.customers.ledger = db.customers.ledger ++ new)
    (posted : ∀ entry ∈ new, PostedTo orderId profileId accountId entry)
    (different : other ≠ accountId) : pointsOf db' other = pointsOf db other := by
  have none : (new.filter fun entry => entry.loyaltyAccountId = other) = [] := by
    refine filter_eq_nil_iff.mpr fun entry listed is => ?_
    exact different ((of_decide_eq_true is).symm.trans (posted entry listed).account)
  rw [pointsOf_append ledger, none, map_nil, append_nil]

theorem pointsOf_own (ledger : db'.customers.ledger = db.customers.ledger ++ new)
    (posted : ∀ entry ∈ new, PostedTo orderId profileId accountId entry)
    (is : new.map kindAndPoints = points) :
    pointsOf db' accountId = pointsOf db accountId ++ points.map Prod.snd := by
  have all : (new.filter fun entry => entry.loyaltyAccountId = accountId) = new :=
    filter_eq_self.mpr fun entry listed => decide_eq_true (posted entry listed).account
  rw [pointsOf_append ledger, all, ← is, map_map]
  rfl

theorem pointsOf_absent (keys : CustomerKeys db) (absent : other ∉ (owners db).map Prod.fst) :
    pointsOf db other = [] := by
  refine map_eq_nil_iff.mpr (filter_eq_nil_iff.mpr fun entry listed own => absent ?_)
  exact of_decide_eq_true own ▸ mem_map_of_mem (keys.entries entry listed)

theorem pointsOf_new (keys : CustomerKeys db) (new : db.nextId ≤ other) :
    pointsOf db other = [] := by
  refine pointsOf_absent keys fun listed => ?_
  obtain ⟨owner, member, rfl⟩ := mem_map.mp listed
  exact absurd (keys.oldAccounts owner member) (not_lt.mpr new)

theorem Credited.books (credited : Credited orderId profileId accountId points db db')
    (keys : CustomerKeys db) (books : BooksBalanced db) : BooksBalanced db' := by
  obtain ⟨new, ledger, _, posted⟩ := credited.ledger
  intro row stored
  rcases credited.accounts row stored with ⟨rfl, balanced⟩ | ⟨different, before | ⟨empty, fresh⟩⟩
  · exact balanced
  · rw [pointsOf_other ledger posted different]
    exact books row before
  · rw [pointsOf_other ledger posted different, pointsOf_new keys fresh]
    exact empty

theorem Credited.of_same {db'' : Db} (credited : Credited orderId profileId accountId points db db')
    (customers : db''.customers = db'.customers) (grows : db'.nextId ≤ db''.nextId) :
    Credited orderId profileId accountId points db db'' where
  idents := idents_congr customers ▸ credited.idents
  owners := owners_congr customers ▸ credited.owners
  owned := owners_congr customers ▸ credited.owned
  grows := le_trans credited.grows grows
  keys := (enrolled_of_same customers grows).keys credited.keys
  ledger := customers ▸ credited.ledger
  accounts row stored := by
    have same : pointsOf db'' accountId = pointsOf db' accountId := by
      rw [pointsOf, customers]
      rfl
    rw [same]
    exact credited.accounts row (customers ▸ stored)

theorem CustomerKeys.posted (keys : CustomerKeys m) (owned : (accountId, profileId) ∈ owners m)
    (idents' : idents d = idents m) (owners' : owners d = owners m) (grows : m.nextId ≤ d.nextId)
    (ledger : d.customers.ledger = m.customers.ledger ++ new)
    (posted : ∀ entry ∈ new, PostedTo orderId profileId accountId entry) : CustomerKeys d where
  profiles := idents' ▸ keys.profiles
  phones := idents' ▸ keys.phones
  oldProfiles ident member := lt_of_lt_of_le (keys.oldProfiles ident (idents' ▸ member)) grows
  accounts := owners' ▸ keys.accounts
  owned := owners' ▸ keys.owned
  oldAccounts owner member := lt_of_lt_of_le (keys.oldAccounts owner (owners' ▸ member)) grows
  listed owner member := idents' ▸ keys.listed owner (owners' ▸ member)
  entries entry stored := by
    rw [ledger] at stored
    rw [owners']
    rcases mem_append.mp stored with before | last
    · exact keys.entries entry before
    · rw [(posted entry last).account, (posted entry last).profile]
      exact owned

theorem credited_of_settled {now : Instant} {e f : Db} {account : LoyaltyAccount}
    {profile : CustomerProfile} (keys : CustomerKeys db) (enrolled : Enrolled db m)
    (owned : (accountId, profileId) ∈ owners m)
    (profiles : d.customers.profiles = m.customers.profiles)
    (accounts : d.customers.accounts = m.customers.accounts) (grows : m.nextId ≤ d.nextId)
    (ledger : ∃ new, d.customers.ledger = m.customers.ledger ++ new ∧
      new.map kindAndPoints = points ∧ ∀ entry ∈ new, PostedTo orderId profileId accountId entry)
    (refreshed : refreshLoyaltyAccountTx profileId d = .ok (account, e))
    (refreshed' : refreshCustomerProfileTx now profileId e = .ok (profile, f)) :
    Credited orderId profileId accountId points db f ∧ idents f = idents m ∧
      ∃ accounts profiles, f = { d with
        customers := { d.customers with accounts := accounts, profiles := profiles } } := by
  obtain ⟨new, posts, is, posted⟩ := ledger
  have idents_d : idents d = idents m := by rw [idents, profiles]; rfl
  have owners_d : owners d = owners m := by rw [owners, accounts]; rfl
  have keys_d := (enrolled.keys keys).posted owned idents_d owners_d grows posts posted
  obtain ⟨⟨accounts', rfl⟩, owners_e, rows⟩ :=
    refreshLoyaltyAccountTx_books keys_d (owners_d ▸ owned) refreshed
  have listed : profileId ∈ (owners { d with
      customers := { d.customers with accounts := accounts' } }).map Prod.snd :=
    owners_e ▸ owners_d ▸ mem_map_of_mem owned
  obtain ⟨⟨profiles', rfl⟩, idents_f, _⟩ := refreshCustomerProfileTx_idents listed refreshed'
  have owners_f := owners_e.trans owners_d
  have idents_f' := idents_f.trans idents_d
  refine ⟨?_, idents_f', accounts', profiles', rfl⟩
  have nothing : ∀ entry ∈ ([] : List LoyaltyLedgerEntry), PostedTo orderId profileId accountId entry :=
    fun _ listed => absurd listed not_mem_nil
  constructor
  · exact idents_f' ▸ enrolled.idents
  · exact owners_f ▸ enrolled.owners
  · exact owners_f ▸ owned
  · exact le_trans enrolled.grows grows
  · exact keys_d.posted (owners_d ▸ owned) idents_f owners_e le_rfl (append_nil _).symm nothing
  · exact ⟨new, posts.trans (by rw [enrolled.ledger]), is, posted⟩
  · intro row stored
    rcases rows row stored with balanced | ⟨different, before⟩
    · exact .inl balanced
    · exact .inr ⟨different, enrolled.accounts row (accounts ▸ before)⟩

end

def linkCartTo (order : Order) (profile : CustomerProfile) (row : Cart) : Cart :=
  { row with
    customerProfileId := some profile.id
    customerPhone := some profile.phone
    customerName := order.customerName.or profile.fullName }

def linkedCarts (order : Order) (profile : CustomerProfile) (rows : List Cart) : List Cart :=
  match order.cartId with
  | none => rows
  | some cartId => Rows.modify Cart.id cartId (linkCartTo order profile) rows

/-- Only customers and logs are touched, and no order is counted. -/
structure Adjusted (db db' : Db) : Prop where
  rest : db' = { db with
    nextId := db'.nextId
    customers := db'.customers
    logs := db'.logs }
  campaigns : db'.customers.campaigns = db.customers.campaigns
  redemptions : redemptions db' = redemptions db

/-- An order's growth is recorded for the profile of its phone number. -/
structure GrowthRecorded (order : Order) (phone : String) (profile : CustomerProfile)
    (accountId : Id) (db db' : Db) : Prop where
  recordable : Recordable order db
  credited : Credited (some order.id) profile.id accountId (postings order db) db db'
  account : HasAccount db' order.tenantId (normalizeCustomerPhone phone) profile.id accountId
  known : profile.phone = normalizeCustomerPhone phone
  rest : db' = { db with
    nextId := db'.nextId
    carts := linkedCarts order profile db.carts
    orders := Rows.modify Order.id order.id (linkTo order profile) db.orders
    customers := db'.customers
    logs := db'.logs }
  campaigns : db'.customers.campaigns = counted order db
  redemptions : redemptions db' =
    redemptions db ++ (uncounted order db).toList.map fun _ => order.id

section
variable {now : Instant} {context : RequestContext} {order : Order} {profile : CustomerProfile}
  {phone : String} {u : Unit} {db db' m : Db}

theorem linkProfile_links (h : linkProfile order profile db = .ok (u, db')) : db' = { db with
      orders := Rows.modify Order.id order.id (linkTo order profile) db.orders
      carts := linkedCarts order profile db.carts } := by
  simp only [linkProfile, bind_ok_iff, Table.update_ok_iff] at h
  obtain ⟨_, _, ⟨_, _, rfl, rfl⟩, h⟩ := h
  unfold linkedCarts
  cases owner : order.cartId with
  | none =>
    rw [owner] at h
    obtain ⟨_, rfl⟩ := pure_ok_iff.mp h
    rfl
  | some cartId =>
    rw [owner] at h
    simp only [bind_ok_iff, pure_ok_iff] at h
    obtain ⟨_, _, updated, _, rfl⟩ := h
    obtain ⟨_, _, _, rfl⟩ := Table.update_ok_iff.mp updated
    rfl

theorem postings_congr (ledger : m.customers.ledger = db.customers.ledger) :
    earning order m = earning order db ∧ redeeming order m = redeeming order db := by
  have same : ∀ kind, entryExists order.id kind m = entryExists order.id kind db := fun kind => by
    rw [entryExists, ledger]
    rfl
  constructor
  · rw [earning, same]
    rfl
  · rw [redeeming, same]
    rfl

theorem uncounted_congr (events : m.logs.orderEvents = db.logs.orderEvents) :
    uncounted order m = uncounted order db := by
  rw [uncounted, orderEventExists, events]
  rfl

theorem adjustLoyaltyTx_credited {customerProfileId : Id} {dto : AdjustCustomerLoyaltyDto}
    {result : CustomerProfile × Option LoyaltyAccount} (keys : CustomerKeys db)
    (h : adjustLoyaltyTx now context customerProfileId dto db = .ok (result, db')) :
    Adjusted db db' ∧
      ∃ accountId, Credited none customerProfileId accountId [(.adjust, dto.points)] db db' := by
  simp only [adjustLoyaltyTx, bind_ok_iff, read_ok_iff, pure_ok_iff] at h
  obtain ⟨profile, _, ⟨admitted, rfl⟩, account, m, ensured, _, d, posted, _, e, refreshed, _, f,
    refreshed', _, _, audited, _, _, queued, _, _, ⟨_, rfl⟩, _, rfl⟩ := h
  have isFound : customerProfiles.findUnique customerProfileId db = some profile := by
    simp only [admitAdjustment, except_bind_ok_iff, Table.findUniqueOrThrow_ok_iff] at admitted
    obtain ⟨row, found, _, _, admitted⟩ := admitted
    obtain rfl : row = profile := by
      cases store : row.preferredStoreId with
      | none =>
        rw [store] at admitted
        exact except_pure_ok_iff.mp admitted
      | some storeId =>
        rw [store] at admitted
        obtain ⟨_, _, admitted⟩ := except_bind_ok_iff.mp admitted
        exact except_pure_ok_iff.mp admitted
    exact found
  obtain ⟨stored, same⟩ := Table.findUnique_mem isFound
  have known : profile.id ∈ (idents db).map Prod.fst :=
    mem_map.mpr ⟨_, mem_map_of_mem stored, rfl⟩
  obtain ⟨enrolled, _, _, owned⟩ := ensureLoyaltyAccountTx_enrolled known ensured
  have posts := postAdjustment_posts posted
  have kept : d.customers.profiles = m.customers.profiles ∧
      d.customers.accounts = m.customers.accounts := by
    rw [posts.rest]
    exact ⟨rfl, rfl⟩
  obtain ⟨credited, _, accounts, profiles, rfl⟩ := credited_of_settled keys enrolled owned kept.1
    kept.2 posts.grows posts.ledger refreshed refreshed'
  obtain ⟨_, _, _, rfl, _⟩ := ensureLoyaltyAccountTx_ok ensured
  rw [log_ok_iff.mp queued, log_ok_iff.mp audited]
  refine ⟨?_, account.id, ?_⟩
  · rw [posts.rest]
    exact ⟨rfl, rfl, rfl⟩
  · rw [← show profile.id = customerProfileId from same]
    exact credited.of_same rfl le_rfl

theorem Posts.trans {orderId : Option Id} {profileId accountId : Id}
    {first second : List (LoyaltyLedgerEntryKind × Int)}
    (posts : Posts orderId profileId accountId first db m)
    (posts' : Posts orderId profileId accountId second m d) :
    Posts orderId profileId accountId (first ++ second) db d where
  rest := by rw [posts'.rest, posts.rest]
  grows := le_trans posts.grows posts'.grows
  ledger := by
    obtain ⟨new, ledger, is, posted⟩ := posts.ledger
    obtain ⟨new', ledger', is', posted'⟩ := posts'.ledger
    refine ⟨new ++ new', ?_, ?_, fun entry listed => ?_⟩
    · rw [ledger', ledger, append_assoc]
    · rw [map_append, is, is']
    · rcases mem_append.mp listed with earlier | later
      · exact posted entry earlier
      · exact posted' entry later

theorem noteEarned_redemptions (h : noteEarned order db = .ok (u, db')) :
    (∃ logs, db' = { db with logs := logs }) ∧ redemptions db' = redemptions db := by
  unfold noteEarned at h
  split at h
  · exact recordOrderEventOnceTx_redemptions (by decide) h
  · obtain ⟨_, rfl⟩ := pure_ok_iff.mp h
    exact ⟨⟨_, rfl⟩, rfl⟩

theorem noteSegments_redemptions {previous next : List String}
    (h : noteSegments order previous next db = .ok (u, db')) :
    (∃ logs, db' = { db with logs := logs }) ∧ redemptions db' = redemptions db := by
  unfold noteSegments at h
  split at h
  · obtain ⟨logs, same⟩ := recordOrderEventTx_redemptions h
    rw [if_neg (by decide), append_nil] at same
    exact ⟨logs, same⟩
  · obtain ⟨_, rfl⟩ := pure_ok_iff.mp h
    exact ⟨⟨_, rfl⟩, rfl⟩

theorem recordGrowth_recorded {result : CustomerProfile × Option LoyaltyAccount}
    (keys : CustomerKeys db) (h : recordGrowth now order phone db = .ok (result, db')) :
    ∃ profile accountId, GrowthRecorded order phone profile accountId db db' := by
  have recordable := (recordGrowth_ok h).1
  simp only [recordGrowth, bind_ok_iff, read_ok_iff, pure_ok_iff] at h
  obtain ⟨profile, _, resolved, account, m, ensured, _, linkedDb, linked, _, earnedDb, earned, _,
    redeemedDb, redeemed, _, promotedDb, promoted, _, d, noted, _, e, refreshed, _, f, refreshed', _,
    _, earnNoted, _, _, changed, _, _, queued, _, _, ⟨_, rfl⟩, _, rfl⟩ := h
  obtain ⟨enrolled₁, _, known, listed⟩ := resolveOrCreateCustomerProfileTx_enrolled resolved
  obtain ⟨enrolled₂, idents₂, _, owned⟩ :=
    ensureLoyaltyAccountTx_enrolled (mem_map_of_mem listed) ensured
  rw [normalizeCustomerPhone_idem] at known listed
  have enrolled := enrolled_trans enrolled₁ enrolled₂
  obtain ⟨_, _, _, profileIs, _⟩ := resolveOrCreateCustomerProfileTx_ok resolved
  obtain ⟨_, _, _, accountIs, _⟩ := ensureLoyaltyAccountTx_ok ensured
  have link := linkProfile_links linked
  have customers : linkedDb.customers = m.customers := by rw [link]
  have same : linkedDb.nextId = m.nextId := by rw [link]
  have enrolledToo := enrolled_trans enrolled (enrolled_of_same customers same.ge)
  have earning_eq : earning order linkedDb = earning order db :=
    (postings_congr enrolledToo.ledger).1
  have redeeming_eq : redeeming order linkedDb = redeeming order db :=
    (postings_congr enrolledToo.ledger).2
  have earns := recordEarn_posts earned
  have redeems := recordRedeem_posts redeemed
  rw [earns.redeeming_eq, redeeming_eq] at redeems
  rw [earning_eq] at earns
  have posts := earns.trans redeems
  obtain ⟨⟨logs, promotedIs⟩, events₁⟩ := redeemPromotion_counts promoted
  obtain ⟨⟨logs', notedIs⟩, events₂⟩ := recordOrderEventOnceTx_redemptions (by decide) noted
  have settled : d = { redeemedDb with
      customers := { redeemedDb.customers with campaigns := counted order redeemedDb }
      logs := logs' } := by rw [notedIs, promotedIs]
  have before : redeemedDb.logs = db.logs ∧
      redeemedDb.customers.campaigns = db.customers.campaigns := by
    rw [posts.rest, link, accountIs, profileIs]
    exact ⟨rfl, rfl⟩
  have frame : d = { db with
      nextId := d.nextId
      carts := linkedCarts order profile db.carts
      orders := Rows.modify Order.id order.id (linkTo order profile) db.orders
      customers := d.customers
      logs := d.logs } := by rw [settled, posts.rest, link, accountIs, profileIs]
  have kept : d.customers.profiles = linkedDb.customers.profiles ∧
      d.customers.accounts = linkedDb.customers.accounts ∧ linkedDb.nextId ≤ d.nextId ∧
      d.customers.ledger = redeemedDb.customers.ledger := by
    rw [settled, posts.rest]
    exact ⟨rfl, rfl, posts.grows, rfl⟩
  obtain ⟨profilesKept, accountsKept, grows, ledgerKept⟩ := kept
  obtain ⟨credited, idents', accounts, profiles, rfl⟩ := credited_of_settled keys enrolledToo
    (owners_congr customers ▸ owned) profilesKept accountsKept grows (ledgerKept ▸ posts.ledger)
    refreshed refreshed'
  obtain ⟨⟨_, rfl⟩, events₃⟩ := noteEarned_redemptions earnNoted
  obtain ⟨⟨_, rfl⟩, events₄⟩ := noteSegments_redemptions changed
  obtain ⟨⟨_, rfl⟩, events₅⟩ := recordOrderEventOnceTx_redemptions (by decide) queued
  have untouched : uncounted order redeemedDb = uncounted order db :=
    uncounted_congr (congrArg Logs.orderEvents before.1)
  refine ⟨profile, account.id, ?_⟩
  constructor
  · exact recordable
  · exact credited.of_same rfl le_rfl
  · have found := enrolled₂.idents.subset listed
    rw [← idents_congr customers, ← idents'] at found
    exact ⟨found, (credited.of_same rfl le_rfl).owned⟩
  · exact known
  · rw [frame]
  · show d.customers.campaigns = _
    rw [settled, counted, counted, untouched, before.2]
  · rw [events₅, events₄, events₃]
    show redemptions d = _
    rw [events₂, events₁, untouched]
    show redemptions redeemedDb ++ _ = _
    rw [redemptions, before.1]
    rfl

end

end Exetron.Customers
