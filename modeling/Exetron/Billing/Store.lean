import Exetron.Access
import Exetron.Lib.Record
import Exetron.Lib.Rounding
import Exetron.Lib.Upsert
import Mathlib.Data.Rat.Floor

/-!
# The billing store

The eight billing tables, and how `BillingService` reads and writes them: `loadStateTx` reads all
plans and resellers and the tenant's other rows, `saveStateTx` writes a whole state back. Plans and
resellers are merged by code; the tenant's other rows are deleted and made again.
-/

namespace Exetron.Billing

open Lib

/-- An amount of a request, before the column rounds it. -/
abbrev Amount := ℚ

abbrev JsonRecord := Record String Json

inductive BillingPlanStatus where
  | active
  | archived
  deriving DecidableEq

inductive BillingSubscriptionStatus where
  | trial
  | active
  | grace
  | suspended
  | cancelled
  deriving DecidableEq

inductive BillingInvoiceStatus where
  | draft
  | issued
  | paid
  | void
  deriving DecidableEq

inductive BillingTrialStatus where
  | active
  | converted
  | expired
  deriving DecidableEq

structure BillingPlan where
  id : Id
  (code name : String)
  status : BillingPlanStatus
  priceAmount : Amount
  (currency intervalKey : String)
  (entitlements quotas : JsonRecord)
  metadata : Option JsonRecord
  (createdAt updatedAt : Instant)

structure ResellerAccount where
  id : Id
  (code name status : String)
  metadata : Option JsonRecord
  (createdAt updatedAt : Instant)

structure BillingAccount where
  (id tenantId : Id)
  resellerAccountId : Option Id
  status : String
  defaultPaymentTerms : Option String
  metadata : Option JsonRecord
  (createdAt updatedAt : Instant)

structure Subscription where
  (id tenantId billingAccountId planId : Id)
  status : BillingSubscriptionStatus
  (startedAt currentPeriodStart currentPeriodEnd : Instant)
  cancelledAt : Option Instant
  metadata : Option JsonRecord
  (createdAt updatedAt : Instant)

structure Invoice where
  (id tenantId billingAccountId : Id)
  subscriptionId : Option Id
  number : String
  status : BillingInvoiceStatus
  currency : String
  (subtotalAmount totalAmount : Amount)
  (dueAt issuedAt paidAt : Option Instant)
  lines : List JsonRecord
  metadata : Option JsonRecord
  (createdAt updatedAt : Instant)

structure EntitlementGrant where
  (id tenantId : Id)
  subscriptionId : Option Id
  (key scopeType : String)
  scopeId : Option String
  value : JsonRecord
  source : String
  (createdAt updatedAt : Instant)

structure QuotaCounter where
  (id tenantId : Id)
  subscriptionId : Option Id
  (key scopeType : String)
  scopeId : Option String
  (limitValue usedValue : Int)
  resetAt : Option Instant
  (createdAt updatedAt : Instant)

structure TrialGrant where
  (id tenantId : Id)
  subscriptionId : Option Id
  status : BillingTrialStatus
  (startedAt endsAt : Instant)
  convertedAt : Option Instant
  (createdAt updatedAt : Instant)

structure BillingDb where
  plans : List BillingPlan
  resellers : List ResellerAccount
  accounts : List BillingAccount
  subscriptions : List Subscription
  invoices : List Invoice
  entitlements : List EntitlementGrant
  quotas : List QuotaCounter
  trials : List TrialGrant
  nextId : Id

abbrev BillingTransaction := Tx BillingDb ApiException

/-- `Decimal(12, 2)`. -/
def toDecimal (amount : Amount) : Amount := (roundHalfAway (100 * amount) : ℚ) / 100

/-- A table whose rows belong to tenants: when two of them break its unique constraints, and what
is stored when one is created, under the same keys. -/
structure TenantTable (α : Type) extends Table BillingDb ApiException α Id where
  tenantId : α → Id
  clash : α → α → Prop
  decides : DecidableRel clash
  written : Instant → α → α
  model : String
  lawful : toTable.Lawful := by exact ⟨fun _ => rfl, fun _ _ _ => rfl⟩
  key_written : ∀ now r, key (written now r) = key r := by intros; rfl
  tenantId_written : ∀ now r, tenantId (written now r) = tenantId r := by intros; rfl
  clash_written : ∀ now a b, clash a (written now b) ↔ clash a b := by intros; rfl
  clash_symm : ∀ a b, clash a b → clash b a

instance {α : Type} (t : TenantTable α) : DecidableRel t.clash := t.decides

def TenantTable.refused {α : Type} (t : TenantTable α) : ApiException := .uniqueConstraint t.model

/-- A table whose rows are merged by code, which keeps their keys. -/
structure CodeTable (α : Type) extends Table BillingDb ApiException α Id where
  code : α → String
  merge : Instant → α → α → α
  written : Instant → α → α
  model : String
  lawful : toTable.Lawful := by exact ⟨fun _ => rfl, fun _ _ _ => rfl⟩
  keeps : ∀ now, Rows.KeepsKeys code key (merge now) (written now) := by
    exact fun _ => ⟨fun _ _ => rfl, fun _ _ => rfl, fun _ => rfl, fun _ => rfl⟩

def CodeTable.refused {α : Type} (t : CodeTable α) : ApiException := .uniqueConstraint t.model

def plans : CodeTable BillingPlan where
  rows db := db.plans
  put rows db := { db with plans := rows }
  key := BillingPlan.id
  missing := .recordNotFound "BillingPlan"
  code := BillingPlan.code
  merge now row plan := { row with
    name := plan.name
    status := plan.status
    priceAmount := toDecimal plan.priceAmount
    currency := plan.currency
    intervalKey := plan.intervalKey
    entitlements := plan.entitlements
    quotas := plan.quotas
    metadata := plan.metadata
    updatedAt := now }
  written now plan := { plan with
    priceAmount := toDecimal plan.priceAmount
    createdAt := now
    updatedAt := now }
  model := "BillingPlan"

def resellers : CodeTable ResellerAccount where
  rows db := db.resellers
  put rows db := { db with resellers := rows }
  key := ResellerAccount.id
  missing := .recordNotFound "ResellerAccount"
  code := ResellerAccount.code
  merge now row reseller := { row with
    name := reseller.name
    status := reseller.status
    metadata := reseller.metadata
    updatedAt := now }
  written now reseller := { reseller with createdAt := now, updatedAt := now }
  model := "ResellerAccount"

def accounts : TenantTable BillingAccount where
  rows db := db.accounts
  put rows db := { db with accounts := rows }
  key := BillingAccount.id
  missing := .recordNotFound "BillingAccount"
  tenantId := BillingAccount.tenantId
  clash a b := a.id = b.id ∨ a.tenantId = b.tenantId
  decides _ _ := inferInstanceAs (Decidable (_ ∨ _))
  written now account := { account with createdAt := now, updatedAt := now }
  model := "BillingAccount"
  clash_symm _ _ := Or.imp Eq.symm Eq.symm

def subscriptions : TenantTable Subscription where
  rows db := db.subscriptions
  put rows db := { db with subscriptions := rows }
  key := Subscription.id
  missing := .recordNotFound "Subscription"
  tenantId := Subscription.tenantId
  clash a b := a.id = b.id
  decides _ _ := inferInstanceAs (Decidable (_ = _))
  written now subscription := { subscription with createdAt := now, updatedAt := now }
  model := "Subscription"
  clash_symm _ _ := Eq.symm

def invoices : TenantTable Invoice where
  rows db := db.invoices
  put rows db := { db with invoices := rows }
  key := Invoice.id
  missing := .recordNotFound "Invoice"
  tenantId := Invoice.tenantId
  clash a b := a.id = b.id ∨ a.number = b.number
  decides _ _ := inferInstanceAs (Decidable (_ ∨ _))
  written now invoice := { invoice with
    subtotalAmount := toDecimal invoice.subtotalAmount
    totalAmount := toDecimal invoice.totalAmount
    createdAt := now
    updatedAt := now }
  model := "Invoice"
  clash_symm _ _ := Or.imp Eq.symm Eq.symm

/-- The columns of the unique index of entitlements and quotas, which holds two rows without a
scope id to be different. -/
def SameGrant (a b : Id × String × String × Option String) : Prop := a = b ∧ a.2.2.2 ≠ none

instance (a b : Id × String × String × Option String) : Decidable (SameGrant a b) :=
  inferInstanceAs (Decidable (_ ∧ _))

theorem SameGrant.symm {a b : Id × String × String × Option String} (same : SameGrant a b) :
    SameGrant b a := by
  obtain ⟨rfl, given⟩ := same
  exact ⟨rfl, given⟩

def entitlements : TenantTable EntitlementGrant where
  rows db := db.entitlements
  put rows db := { db with entitlements := rows }
  key := EntitlementGrant.id
  missing := .recordNotFound "EntitlementGrant"
  tenantId := EntitlementGrant.tenantId
  clash a b := a.id = b.id ∨ SameGrant (a.tenantId, a.key, a.scopeType, a.scopeId)
    (b.tenantId, b.key, b.scopeType, b.scopeId)
  decides _ _ := inferInstanceAs (Decidable (_ ∨ _))
  written now entitlement := { entitlement with createdAt := now, updatedAt := now }
  model := "EntitlementGrant"
  clash_symm _ _ := Or.imp Eq.symm SameGrant.symm

def quotas : TenantTable QuotaCounter where
  rows db := db.quotas
  put rows db := { db with quotas := rows }
  key := QuotaCounter.id
  missing := .recordNotFound "QuotaCounter"
  tenantId := QuotaCounter.tenantId
  clash a b := a.id = b.id ∨ SameGrant (a.tenantId, a.key, a.scopeType, a.scopeId)
    (b.tenantId, b.key, b.scopeType, b.scopeId)
  decides _ _ := inferInstanceAs (Decidable (_ ∨ _))
  written now quota := { quota with createdAt := now, updatedAt := now }
  model := "QuotaCounter"
  clash_symm _ _ := Or.imp Eq.symm SameGrant.symm

def trials : TenantTable TrialGrant where
  rows db := db.trials
  put rows db := { db with trials := rows }
  key := TrialGrant.id
  missing := .recordNotFound "TrialGrant"
  tenantId := TrialGrant.tenantId
  clash a b := a.id = b.id ∨ a.tenantId = b.tenantId
  decides _ _ := inferInstanceAs (Decidable (_ ∨ _))
  written now trial := { trial with createdAt := now, updatedAt := now }
  model := "TrialGrant"
  clash_symm _ _ := Or.imp Eq.symm Eq.symm

section
variable {α : Type}

/-- `findMany` of one tenant, in the order the rows were created. -/
def TenantTable.findMany (t : TenantTable α) (createdAt : α → Instant) (tenantId : Id)
    (db : BillingDb) : List α :=
  ((t.rows db).filter fun r => t.tenantId r = tenantId).insertionSort
    fun a b => createdAt a ≤ createdAt b

def TenantTable.deleteMany (t : TenantTable α) (tenantId : Id) : BillingTransaction Unit :=
  Tx.write fun db => t.put ((t.rows db).filter fun r => t.tenantId r ≠ tenantId) db

def TenantTable.insert (t : TenantTable α) (now : Instant) (r : α) : BillingTransaction Unit :=
  t.onRows fun rows => Rows.insertNew t.clash t.refused rows (t.written now r)

def CodeTable.findMany (t : CodeTable α) (createdAt : α → Instant) (db : BillingDb) : List α :=
  (t.rows db).insertionSort fun a b => createdAt a ≤ createdAt b

def CodeTable.upsert (t : CodeTable α) (now : Instant) (r : α) : BillingTransaction Unit :=
  t.onRows fun rows =>
    Rows.upsert t.code t.key (t.merge now) (t.written now) t.refused rows r

end

structure BillingState where
  plans : List BillingPlan
  accounts : List BillingAccount
  subscriptions : List Subscription
  invoices : List Invoice
  entitlements : List EntitlementGrant
  quotas : List QuotaCounter
  trials : List TrialGrant
  resellers : List ResellerAccount

def loadState (tenantId : Id) (db : BillingDb) : BillingState where
  plans := plans.findMany BillingPlan.createdAt db
  accounts := accounts.findMany BillingAccount.createdAt tenantId db
  subscriptions := subscriptions.findMany Subscription.createdAt tenantId db
  invoices := invoices.findMany Invoice.createdAt tenantId db
  entitlements := entitlements.findMany EntitlementGrant.createdAt tenantId db
  quotas := quotas.findMany QuotaCounter.createdAt tenantId db
  trials := trials.findMany TrialGrant.createdAt tenantId db
  resellers := resellers.findMany ResellerAccount.createdAt db

def loadStateTx (tenantId : Id) : BillingTransaction BillingState :=
  Tx.read fun db => .ok (loadState tenantId db)

section
variable {α : Type}

def TenantTable.insertMany (t : TenantTable α) (now : Instant) (tenantId : Id) (rs : List α) :
    BillingTransaction Unit :=
  (rs.filter fun r => t.tenantId r = tenantId).forM (t.insert now)

end

def saveStateTx (now : Instant) (tenantId : Id) (state : BillingState) :
    BillingTransaction Unit := do
  state.plans.forM (plans.upsert now)
  state.resellers.forM (resellers.upsert now)
  invoices.deleteMany tenantId
  entitlements.deleteMany tenantId
  quotas.deleteMany tenantId
  subscriptions.deleteMany tenantId
  trials.deleteMany tenantId
  accounts.deleteMany tenantId
  accounts.insertMany now tenantId state.accounts
  subscriptions.insertMany now tenantId state.subscriptions
  invoices.insertMany now tenantId state.invoices
  entitlements.insertMany now tenantId state.entitlements
  quotas.insertMany now tenantId state.quotas
  trials.insertMany now tenantId state.trials

section
variable {α : Type} {now : Instant} {tenantId : Id} {rs : List α} {db db' : BillingDb} {u : Unit}

theorem TenantTable.mem_findMany {t : TenantTable α} {createdAt : α → Instant} {r : α} :
    r ∈ t.findMany createdAt tenantId db ↔ r ∈ t.rows db ∧ t.tenantId r = tenantId := by
  rw [TenantTable.findMany, List.mem_insertionSort, List.mem_filter, decide_eq_true_eq]

theorem TenantTable.deleteMany_ok_iff {t : TenantTable α} :
    t.deleteMany tenantId db = .ok (u, db') ↔
      db' = t.put ((t.rows db).filter fun r => t.tenantId r ≠ tenantId) db :=
  Tx.write_ok_iff

theorem TenantTable.insertMany_ok_iff {t : TenantTable α} :
    t.insertMany now tenantId rs db = .ok (u, db') ↔
      ∃ rows, Rows.insertAll t.clash t.refused (t.rows db)
        ((rs.filter fun r => t.tenantId r = tenantId).map (t.written now)) = .ok rows ∧
        db' = t.put rows db := by
  have one : t.insertMany now tenantId rs db =
      t.onRows (fun rows => (rs.filter fun r => t.tenantId r = tenantId).foldlM (fun rows r =>
        Rows.insertNew t.clash t.refused rows (t.written now r)) rows) db :=
    Table.forM_onRows t.lawful _ _
  rw [one, Table.onRows_ok_iff]
  unfold Rows.insertAll
  rw [List.foldlM_map]

theorem CodeTable.upsertMany_ok_iff {t : CodeTable α} : rs.forM (t.upsert now) db = .ok (u, db') ↔
      ∃ rows, Rows.upsertAll t.code t.key (t.merge now) (t.written now)
        t.refused (t.rows db) rs = .ok rows ∧ db' = t.put rows db := by
  have one : rs.forM (t.upsert now) db =
      t.onRows (fun rows => rs.foldlM (Rows.upsert t.code t.key (t.merge now) (t.written now)
        t.refused) rows) db :=
    Table.forM_onRows t.lawful _ _
  rw [one, Table.onRows_ok_iff]
  rfl

def TenantTable.Replaced (t : TenantTable α) (now : Instant) (tenantId : Id) (rs : List α)
    (db db' : BillingDb) : Prop :=
  Rows.insertAll t.clash t.refused
    ((t.rows db).filter fun r => t.tenantId r ≠ tenantId)
    ((rs.filter fun r => t.tenantId r = tenantId).map (t.written now)) = .ok (t.rows db')

def CodeTable.Merged (t : CodeTable α) (now : Instant) (rs : List α) (db db' : BillingDb) : Prop :=
  Rows.upsertAll t.code t.key (t.merge now) (t.written now) t.refused (t.rows db)
    rs = .ok (t.rows db')

end

/-- What a state that is saved leaves in the tables. -/
structure Saved (now : Instant) (tenantId : Id) (state : BillingState) (db db' : BillingDb) :
    Prop where
  plans : plans.Merged now state.plans db db'
  resellers : resellers.Merged now state.resellers db db'
  accounts : accounts.Replaced now tenantId state.accounts db db'
  subscriptions : subscriptions.Replaced now tenantId state.subscriptions db db'
  invoices : invoices.Replaced now tenantId state.invoices db db'
  entitlements : entitlements.Replaced now tenantId state.entitlements db db'
  quotas : quotas.Replaced now tenantId state.quotas db db'
  trials : trials.Replaced now tenantId state.trials db db'
  nextId : db'.nextId = db.nextId

theorem saveStateTx_ok_iff {now : Instant} {tenantId : Id} {state : BillingState}
    {db db' : BillingDb} {u : Unit} :
    saveStateTx now tenantId state db = .ok (u, db') ↔ Saved now tenantId state db db' := by
  simp only [saveStateTx, Tx.bind_ok_iff, TenantTable.deleteMany_ok_iff,
    TenantTable.insertMany_ok_iff, CodeTable.upsertMany_ok_iff]
  constructor
  · rintro ⟨_, _, ⟨_, merged, rfl⟩, _, _, ⟨_, mergedToo, rfl⟩, _, _, rfl, _, _, rfl, _, _, rfl,
      _, _, rfl, _, _, rfl, _, _, rfl, _, _, ⟨_, account, rfl⟩, _, _, ⟨_, subscription, rfl⟩, _, _,
      ⟨_, invoice, rfl⟩, _, _, ⟨_, entitlement, rfl⟩, _, _, ⟨_, quota, rfl⟩, _, trial, rfl⟩
    exact ⟨merged, mergedToo, account, subscription, invoice, entitlement, quota, trial, rfl⟩
  · intro saved
    exact ⟨(), _, ⟨_, saved.plans, rfl⟩, (), _, ⟨_, saved.resellers, rfl⟩, (), _, rfl, (), _, rfl,
      (), _, rfl, (), _, rfl, (), _, rfl, (), _, rfl, (), _, ⟨_, saved.accounts, rfl⟩, (), _,
      ⟨_, saved.subscriptions, rfl⟩, (), _, ⟨_, saved.invoices, rfl⟩, (), _,
      ⟨_, saved.entitlements, rfl⟩, (), _, ⟨_, saved.quotas, rfl⟩, db'.trials, saved.trials, by
        obtain ⟨_, _, _, _, _, _, _, _, _⟩ := db'
        obtain rfl := saved.nextId
        rfl⟩

end Exetron.Billing
