import Mathlib.Algebra.Order.BigOperators.Group.List
import Mathlib.Algebra.Order.Group.Abs
import Mathlib.Algebra.Order.Ring.Int
import Exetron.Customers.Steps

/-!
# Profiles, accounts and their entries

What enrolment and the refreshing of an account do to the customers' tables. A profile keeps the
tenant and the phone number it was made for, an account its profile; an account is balanced when it
says what its entries sum to.
-/

namespace Exetron.Customers

open Lib List

variable {profileId accountId : Id} {profile : CustomerProfile} {account : LoyaltyAccount}

/-- What of the profiles never changes. -/
def idents (db : Db) : List (Id × Id × String) :=
  db.customers.profiles.map fun profile => (profile.id, profile.tenantId, profile.phoneNormalized)

def owners (db : Db) : List (Id × Id) :=
  db.customers.accounts.map fun account => (account.id, account.customerProfileId)

/-- A tenant's phone number has one profile and a profile one account, whose entries name both. -/
structure CustomerKeys (db : Db) : Prop where
  profiles : ((idents db).map Prod.fst).Nodup
  phones : ((idents db).map Prod.snd).Nodup
  oldProfiles : ∀ ident ∈ idents db, ident.1 < db.nextId
  accounts : ((owners db).map Prod.fst).Nodup
  owned : ((owners db).map Prod.snd).Nodup
  oldAccounts : ∀ owner ∈ owners db, owner.1 < db.nextId
  listed : ∀ owner ∈ owners db, owner.2 ∈ (idents db).map Prod.fst
  entries : ∀ entry ∈ db.customers.ledger,
    (entry.loyaltyAccountId, entry.customerProfileId) ∈ owners db

/-- The account says what the points sum to. -/
structure Balanced (points : List Int) (account : LoyaltyAccount) : Prop where
  balance : account.pointsBalance = points.sum
  earned : account.totalEarnedPoints = (points.filter (0 < ·)).sum
  redeemed : account.totalRedeemedPoints = |(points.filter (· < 0)).sum|

def pointsOf (db : Db) (accountId : Id) : List Int :=
  (db.customers.ledger.filter fun entry => entry.loyaltyAccountId = accountId).map
    LoyaltyLedgerEntry.points

def BooksBalanced (db : Db) : Prop :=
  ∀ account ∈ db.customers.accounts, Balanced (pointsOf db account.id) account

theorem sum_natAbs_of_neg {points : List Int} (negative : ∀ n ∈ points, n < 0) :
    (points.map fun n => (n.natAbs : Int)).sum = |points.sum| := by
  have opposite : (points.map fun n => (n.natAbs : Int)).sum = -points.sum := by
    induction points with
    | nil => rfl
    | cons n points ih =>
      have first : n < 0 := negative n mem_cons_self
      have rest := ih fun m member => negative m (mem_cons_of_mem n member)
      rw [map_cons, sum_cons, sum_cons, rest]
      omega
  have nonneg : 0 ≤ (points.map fun n => (n.natAbs : Int)).sum :=
    sum_nonneg fun m member => by
      obtain ⟨n, _, rfl⟩ := mem_map.mp member
      omega
  rw [opposite, abs_of_nonpos (by omega)]

theorem balanced_refresh (points : List Int) (account : LoyaltyAccount) :
    Balanced points (refreshAccount points account) where
  balance := rfl
  earned := rfl
  redeemed := sum_natAbs_of_neg fun _ member => of_decide_eq_true (mem_filter.mp member).2

theorem pointsOf_append {db db' : Db} {new : List LoyaltyLedgerEntry}
    (posted : db'.customers.ledger = db.customers.ledger ++ new) :
    pointsOf db' accountId = pointsOf db accountId ++
      (new.filter fun entry => entry.loyaltyAccountId = accountId).map LoyaltyLedgerEntry.points := by
  rw [pointsOf, posted, filter_append, map_append]
  rfl

section
variable {db db' : Db}

def HasAccount (db : Db) (tenantId : Id) (phone : String) (profileId accountId : Id) : Prop :=
  (profileId, tenantId, phone) ∈ idents db ∧ (accountId, profileId) ∈ owners db

/-- No more than a profile and an account may be new, and the new account is empty. -/
structure Enrolled (db db' : Db) : Prop where
  idents : idents db <+: idents db'
  owners : owners db <+: owners db'
  grows : db.nextId ≤ db'.nextId
  keys : CustomerKeys db → CustomerKeys db'
  accounts : ∀ account ∈ db'.customers.accounts, account ∈ db.customers.accounts ∨
    Balanced [] account ∧ db.nextId ≤ account.id
  ledger : db'.customers.ledger = db.customers.ledger
  campaigns : db'.customers.campaigns = db.customers.campaigns

theorem enrolled_refl (db : Db) : Enrolled db db where
  idents := prefix_refl _
  owners := prefix_refl _
  grows := le_refl _
  keys := id
  accounts _ stored := .inl stored
  ledger := rfl
  campaigns := rfl

theorem enrolled_trans {m : Db} (first : Enrolled db m) (second : Enrolled m db') :
    Enrolled db db' where
  idents := first.idents.trans second.idents
  owners := first.owners.trans second.owners
  grows := le_trans first.grows second.grows
  keys keys := second.keys (first.keys keys)
  accounts account stored := by
    rcases second.accounts account stored with before | ⟨empty, new⟩
    · exact first.accounts account before
    · exact .inr ⟨empty, le_trans first.grows new⟩
  ledger := second.ledger.trans first.ledger
  campaigns := second.campaigns.trans first.campaigns

theorem idents_congr (customers : db'.customers = db.customers) : idents db' = idents db := by
  rw [idents, customers]
  rfl

theorem owners_congr (customers : db'.customers = db.customers) : owners db' = owners db := by
  rw [owners, customers]
  rfl

theorem CustomerKeys.of_same (keys : CustomerKeys db) (idents' : idents db' = idents db)
    (owners' : owners db' = owners db) (ledger : db'.customers.ledger = db.customers.ledger)
    (grows : db.nextId ≤ db'.nextId) : CustomerKeys db' where
  profiles := idents' ▸ keys.profiles
  phones := idents' ▸ keys.phones
  oldProfiles ident member := lt_of_lt_of_le (keys.oldProfiles ident (idents' ▸ member)) grows
  accounts := owners' ▸ keys.accounts
  owned := owners' ▸ keys.owned
  oldAccounts owner member := lt_of_lt_of_le (keys.oldAccounts owner (owners' ▸ member)) grows
  listed owner member := idents' ▸ keys.listed owner (owners' ▸ member)
  entries entry stored := owners' ▸ keys.entries entry (ledger ▸ stored)

theorem enrolled_of_same (customers : db'.customers = db.customers) (grows : db.nextId ≤ db'.nextId) :
    Enrolled db db' where
  idents := idents_congr customers ▸ prefix_refl _
  owners := owners_congr customers ▸ prefix_refl _
  grows := grows
  keys keys :=
    keys.of_same (idents_congr customers) (owners_congr customers) (by rw [customers]) grows
  accounts account stored := .inl (customers ▸ stored)
  ledger := by rw [customers]
  campaigns := by rw [customers]

theorem Enrolled.books (enrolled : Enrolled db db') (keys : CustomerKeys db)
    (books : BooksBalanced db) : BooksBalanced db' := by
  intro account stored
  have same : pointsOf db' account.id = pointsOf db account.id := by
    rw [pointsOf, enrolled.ledger]
    rfl
  rw [same]
  rcases enrolled.accounts account stored with before | ⟨empty, new⟩
  · exact books account before
  · have none : pointsOf db account.id = [] := by
      refine map_eq_nil_iff.mpr (filter_eq_nil_iff.mpr fun entry listed own => ?_)
      have old := keys.oldAccounts _ (keys.entries entry listed)
      exact absurd (of_decide_eq_true own ▸ old) (not_lt.mpr new)
    rw [none]
    exact empty

theorem CustomerKeys.profile_added (keys : CustomerKeys db) {tenantId : Id} {phone : String}
    (added : idents db' = idents db ++ [(db.nextId, tenantId, phone)])
    (new : (tenantId, phone) ∉ (idents db).map Prod.snd) (same : owners db' = owners db)
    (ledger : db'.customers.ledger = db.customers.ledger) (next : db'.nextId = db.nextId + 1) :
    CustomerKeys db' where
  profiles := by
    rw [added]
    refine Rows.nodup_append_key keys.profiles fun listed => ?_
    obtain ⟨ident, member, is⟩ := mem_map.mp listed
    exact (keys.oldProfiles ident member).ne is
  phones := by
    rw [added]
    exact Rows.nodup_append_key keys.phones new
  oldProfiles ident member := by
    rw [added] at member
    rcases mem_append.mp member with before | last
    · exact next ▸ Nat.lt_succ_of_lt (keys.oldProfiles ident before)
    · rw [mem_singleton.mp last, next]
      exact Nat.lt_succ_self _
  accounts := same ▸ keys.accounts
  owned := same ▸ keys.owned
  oldAccounts owner member := next ▸ Nat.lt_succ_of_lt (keys.oldAccounts owner (same ▸ member))
  listed owner member := by
    rw [added, map_append]
    exact mem_append_left _ (keys.listed owner (same ▸ member))
  entries entry stored := same ▸ keys.entries entry (ledger ▸ stored)

theorem CustomerKeys.account_added (keys : CustomerKeys db)
    (known : profileId ∈ (idents db).map Prod.fst) (same : idents db' = idents db)
    (added : owners db' = owners db ++ [(db.nextId, profileId)])
    (new : profileId ∉ (owners db).map Prod.snd)
    (ledger : db'.customers.ledger = db.customers.ledger) (next : db'.nextId = db.nextId + 1) :
    CustomerKeys db' where
  profiles := same ▸ keys.profiles
  phones := same ▸ keys.phones
  oldProfiles ident member := next ▸ Nat.lt_succ_of_lt (keys.oldProfiles ident (same ▸ member))
  accounts := by
    rw [added]
    refine Rows.nodup_append_key keys.accounts fun listed => ?_
    obtain ⟨owner, member, is⟩ := mem_map.mp listed
    exact (keys.oldAccounts owner member).ne is
  owned := by
    rw [added]
    exact Rows.nodup_append_key keys.owned new
  oldAccounts owner member := by
    rw [added] at member
    rcases mem_append.mp member with before | last
    · exact next ▸ Nat.lt_succ_of_lt (keys.oldAccounts owner before)
    · rw [mem_singleton.mp last, next]
      exact Nat.lt_succ_self _
  listed owner member := by
    rw [added] at member
    rw [same]
    rcases mem_append.mp member with before | last
    · exact keys.listed owner before
    · rw [mem_singleton.mp last]
      exact known
  entries entry stored :=
    added ▸ mem_append_left _ (keys.entries entry (ledger ▸ stored))

theorem idents_modify {f : CustomerProfile → CustomerProfile}
    (keeps : ∀ row, (f row).id = row.id ∧ (f row).tenantId = row.tenantId ∧
      (f row).phoneNormalized = row.phoneNormalized) (db : Db) :
    idents (customerProfiles.put (Rows.modify customerProfiles.key profileId f
      (customerProfiles.rows db)) db) = idents db := by
  have same : ∀ row, ((f row).id, (f row).tenantId, (f row).phoneNormalized) =
      (row.id, row.tenantId, row.phoneNormalized) := fun row => by
    rw [(keeps row).1, (keeps row).2.1, (keeps row).2.2]
  exact Rows.map_modify same db.customers.profiles

theorem resolveOrCreateCustomerProfileTx_enrolled {now : Instant} {tenantId storeId : Id}
    {customerName : Option String} {phone : String}
    (h : resolveOrCreateCustomerProfileTx now tenantId storeId customerName phone db =
      .ok (profile, db')) :
    Enrolled db db' ∧ owners db' = owners db ∧ profile.phone = normalizeCustomerPhone phone ∧
      (profile.id, tenantId, normalizeCustomerPhone phone) ∈ idents db' := by
  simp only [resolveOrCreateCustomerProfileTx, Tx.bind_ok_iff, Tx.read_ok_iff] at h
  obtain ⟨current, _, ⟨found, rfl⟩, h⟩ := h
  have found := Except.ok.inj found
  cases current with
  | some current =>
    obtain ⟨row, isRow, rfl, made⟩ := Table.update_ok_iff.mp h
    obtain ⟨_, named⟩ := Table.findUnique_mem isRow
    have chosen := find?_some found
    obtain ⟨ofTenant, ofPhone⟩ := of_decide_eq_true chosen
    have same : idents db' = idents db := by
      rw [made]
      refine idents_modify (fun _ => ?_) db
      exact ⟨rfl, rfl, rfl⟩
    have listed : (row.id, tenantId, normalizeCustomerPhone phone) ∈ idents db := by
      refine mem_map.mpr ⟨current, mem_of_find?_eq_some found, ?_⟩
      rw [ofTenant, ofPhone, ← named]
      rfl
    rw [made] at same ⊢
    refine ⟨⟨same ▸ prefix_refl _, prefix_refl _, le_refl _, fun keys => ?_,
      fun _ stored => .inl stored, rfl, rfl⟩, rfl, rfl, same ▸ listed⟩
    exact keys.of_same same rfl rfl le_rfl
  | none =>
    simp only [Tx.bind_ok_iff, freshId_ok_iff, Table.create_ok_iff] at h
    obtain ⟨_, _, ⟨rfl, rfl⟩, rfl, made⟩ := h
    have new : (tenantId, normalizeCustomerPhone phone) ∉ (idents db).map Prod.snd := by
      intro listed
      obtain ⟨_, member, same⟩ := mem_map.mp listed
      obtain ⟨row, stored, rfl⟩ := mem_map.mp member
      obtain ⟨ofTenant, ofPhone⟩ := Prod.mk.inj same
      exact find?_eq_none.mp found row stored (decide_eq_true ⟨ofTenant, ofPhone⟩)
    have added : idents db' = idents db ++ [(db.nextId, tenantId, normalizeCustomerPhone phone)] := by
      rw [made]
      show map _ (_ ++ [_]) = _
      exact map_append
    rw [made] at added ⊢
    exact ⟨⟨added ▸ prefix_append _ _, prefix_refl _, Nat.le_succ _,
      fun keys => keys.profile_added added new rfl rfl rfl, fun _ stored => .inl stored, rfl, rfl⟩,
      rfl, rfl, added ▸ mem_concat_self⟩

theorem ensureLoyaltyAccountTx_enrolled (known : profile.id ∈ (idents db).map Prod.fst)
    (h : ensureLoyaltyAccountTx profile db = .ok (account, db')) :
    Enrolled db db' ∧ idents db' = idents db ∧ account ∈ db'.customers.accounts ∧
      (account.id, profile.id) ∈ owners db' := by
  simp only [ensureLoyaltyAccountTx, Tx.bind_ok_iff, Tx.read_ok_iff] at h
  obtain ⟨current, _, ⟨found, rfl⟩, h⟩ := h
  have found := Except.ok.inj found
  cases current with
  | some current =>
    obtain ⟨rfl, rfl⟩ := Tx.pure_ok_iff.mp h
    obtain ⟨stored, own⟩ := findAccount_mem found
    exact ⟨enrolled_refl _, rfl, stored, mem_map.mpr ⟨current, stored, by rw [own]⟩⟩
  | none =>
    simp only [Tx.bind_ok_iff, freshId_ok_iff, Table.create_ok_iff] at h
    obtain ⟨_, _, ⟨rfl, rfl⟩, rfl, made⟩ := h
    have new : profile.id ∉ (owners db).map Prod.snd := by
      intro listed
      obtain ⟨_, member, own⟩ := mem_map.mp listed
      obtain ⟨row, stored, rfl⟩ := mem_map.mp member
      exact find?_eq_none.mp found row stored (decide_eq_true own)
    have added : owners db' = owners db ++ [(db.nextId, profile.id)] := by
      rw [made]
      show map _ (_ ++ [_]) = _
      exact map_append
    rw [made] at added ⊢
    refine ⟨⟨prefix_refl _, added ▸ prefix_append _ _, Nat.le_succ _,
      fun keys => keys.account_added known rfl added new rfl rfl, fun other stored => ?_, rfl, rfl⟩, rfl,
      mem_concat_self, added ▸ mem_concat_self⟩
    rcases mem_append.mp stored with before | last
    · exact .inl before
    · rw [mem_singleton.mp last]
      exact .inr ⟨⟨rfl, rfl, rfl⟩, le_refl _⟩

theorem CustomerKeys.entries_of (keys : CustomerKeys db)
    (owned : (accountId, profileId) ∈ owners db) :
    (db.customers.ledger.filter fun entry => entry.customerProfileId = profileId) =
      db.customers.ledger.filter fun entry => entry.loyaltyAccountId = accountId := by
  refine filter_congr fun entry stored => ?_
  have listed := keys.entries entry stored
  rw [decide_eq_decide]
  constructor
  · intro same
    exact (Prod.mk.inj (Rows.eq_of_key keys.owned listed owned same)).1
  · intro same
    exact (Prod.mk.inj (Rows.eq_of_key keys.accounts listed owned same)).2

theorem refreshLoyaltyAccountTx_books (keys : CustomerKeys db)
    (owned : (accountId, profileId) ∈ owners db)
    (h : refreshLoyaltyAccountTx profileId db = .ok (account, db')) :
    (∃ accounts, db' = { db with customers := { db.customers with accounts := accounts } }) ∧
      owners db' = owners db ∧ ∀ row ∈ db'.customers.accounts,
        row.id = accountId ∧ Balanced (pointsOf db accountId) row ∨
          row.id ≠ accountId ∧ row ∈ db.customers.accounts := by
  simp only [refreshLoyaltyAccountTx, Tx.bind_ok_iff, Tx.read_ok_iff, required_ok_iff,
    Table.update_ok_iff] at h
  obtain ⟨_, _, ⟨read, rfl⟩, found, _, ⟨isFound, rfl⟩, row, _, rfl, rfl⟩ := h
  obtain ⟨stored, own⟩ := findAccount_mem isFound
  have same : found.id = accountId := by
    have listed : (found.id, profileId) ∈ owners db := mem_map.mpr ⟨found, stored, by rw [own]⟩
    exact (Prod.mk.inj (Rows.eq_of_key keys.owned listed owned rfl)).1
  obtain rfl := Except.ok.inj read
  rw [keys.entries_of owned]
  refine ⟨⟨_, rfl⟩, ?_, fun row listed => ?_⟩
  · refine Rows.map_modify (fun row => ?_) db.customers.accounts
    rfl
  · obtain ⟨before, member, is⟩ := Rows.mem_modify.mp listed
    by_cases named : before.id = found.id
    · rw [if_pos (show loyaltyAccounts.key before = found.id from named)] at is
      rw [← is]
      exact .inl ⟨named.trans same, balanced_refresh _ before⟩
    · rw [if_neg (show ¬loyaltyAccounts.key before = found.id from named)] at is
      rw [← is]
      exact .inr ⟨same ▸ named, member⟩

theorem ensureLoyaltyAccountTx_kept (owned : profile.id ∈ (owners db).map Prod.snd)
    (h : ensureLoyaltyAccountTx profile db = .ok (account, db')) : db' = db := by
  simp only [ensureLoyaltyAccountTx, Tx.bind_ok_iff, Tx.read_ok_iff] at h
  obtain ⟨current, _, ⟨found, rfl⟩, h⟩ := h
  cases current with
  | some current => exact (Tx.pure_ok_iff.mp h).2.symm
  | none =>
    obtain ⟨_, member, own⟩ := mem_map.mp owned
    obtain ⟨row, stored, rfl⟩ := mem_map.mp member
    exact absurd (decide_eq_true own) (find?_eq_none.mp (Except.ok.inj found) row stored)

theorem refreshCustomerProfileTx_idents {now : Instant}
    (owned : profileId ∈ (owners db).map Prod.snd)
    (h : refreshCustomerProfileTx now profileId db = .ok (profile, db')) :
    (∃ profiles, db' = { db with customers := { db.customers with profiles := profiles } }) ∧
      idents db' = idents db ∧ profile.id = profileId := by
  simp only [refreshCustomerProfileTx, Tx.bind_ok_iff, Tx.read_ok_iff, Table.update_ok_iff,
    Table.findUniqueOrThrow_ok_iff] at h
  obtain ⟨current, _, ⟨found, rfl⟩, _, _, ⟨_, rfl⟩, _, _, ensured, row, isRow, rfl, made⟩ := h
  obtain ⟨_, named⟩ := Table.findUnique_mem found
  have same : current.id = profileId := named
  obtain rfl := ensureLoyaltyAccountTx_kept (same ▸ owned) ensured
  rw [made]
  refine ⟨⟨_, rfl⟩, ?_, (Table.findUnique_mem isRow).2.trans named⟩
  refine idents_modify (fun _ => ?_) _
  exact ⟨rfl, rfl, rfl⟩

end

end Exetron.Customers
