import Exetron.Billing.Service
import Mathlib.Data.List.Pairwise

/-!
# Keys of the billing tables

The unique constraints of the schema and the supply of ids, and that a save keeps them. What a save
leaves in a table of tenants' rows is read off the state that was saved; under codes that are there
it changes no key of a table of codes.
-/

namespace Exetron.Billing

open Lib List

section
variable {α : Type} {now : Instant} {tenantId : Id} {rs rows rows' : List α} {bound bound' : Id}

/-- Rows that the constraints allow together, with ids drawn before `bound`. -/
structure TenantTable.Unique (t : TenantTable α) (rows : List α) (bound : Id) : Prop where
  apart : rows.Pairwise fun a b => ¬t.clash a b
  old : ∀ r ∈ rows, t.key r < bound

/-- The rows to save belong to the tenant, and clash neither with each other nor with a row of
another tenant. -/
structure TenantTable.Fits (t : TenantTable α) (tenantId : Id) (rs rows : List α) (bound : Id) :
    Prop where
  own : ∀ r ∈ rs, t.tenantId r = tenantId
  unique : t.Unique rs bound
  others : ∀ x ∈ rows, t.tenantId x ≠ tenantId → ∀ r ∈ rs, ¬t.clash x r

def TenantTable.replace (t : TenantTable α) (now : Instant) (tenantId : Id) (rs rows : List α) :
    List α :=
  rows.filter (fun r => t.tenantId r ≠ tenantId) ++ rs.map (t.written now)

instance (t : TenantTable α) : Std.Symm fun a b => ¬t.clash a b :=
  ⟨fun _ _ free clash => free (t.clash_symm _ _ clash)⟩

theorem TenantTable.clash_written_left {t : TenantTable α} (now : Instant) (a b : α) :
    t.clash (t.written now a) b ↔ t.clash a b :=
  ⟨fun h => t.clash_symm _ _ ((t.clash_written now b a).mp (t.clash_symm _ _ h)),
    fun h => t.clash_symm _ _ ((t.clash_written now b a).mpr (t.clash_symm _ _ h))⟩

theorem TenantTable.Unique.mono {t : TenantTable α} (unique : t.Unique rows bound)
    (later : bound ≤ bound') : t.Unique rows bound' :=
  ⟨unique.apart, fun r there => lt_of_lt_of_le (unique.old r there) later⟩

theorem TenantTable.Fits.mono {t : TenantTable α} (fits : t.Fits tenantId rs rows bound)
    (later : bound ≤ bound') : t.Fits tenantId rs rows bound' :=
  ⟨fits.own, fits.unique.mono later, fits.others⟩

theorem TenantTable.Fits.replaced_iff {t : TenantTable α} {db db' : BillingDb}
    (fits : t.Fits tenantId rs (t.rows db) bound) :
    t.Replaced now tenantId rs db db' ↔ t.rows db' = t.replace now tenantId rs (t.rows db) := by
  have own : (rs.filter fun r => t.tenantId r = tenantId) = rs :=
    filter_eq_self.mpr fun r there => decide_eq_true (fits.own r there)
  rw [TenantTable.Replaced, own, Rows.insertAll_ok_iff, pairwise_map]
  simp only [TenantTable.clash_written_left, t.clash_written, forall_mem_map, mem_filter,
    decide_eq_true_eq, and_imp]
  exact ⟨fun h => h.2.2, fun h => ⟨fits.others, fits.unique.apart, h⟩⟩

theorem TenantTable.Fits.unique_replace {t : TenantTable α}
    (fits : t.Fits tenantId rs rows bound) (unique : t.Unique rows bound) :
    t.Unique (t.replace now tenantId rs rows) bound := by
  constructor
  · rw [TenantTable.replace, pairwise_append, pairwise_map]
    refine ⟨unique.apart.filter _, ?_, ?_⟩
    · simp only [t.clash_written, TenantTable.clash_written_left]
      exact fits.unique.apart
    · intro x there r new
      obtain ⟨there, other⟩ := mem_filter.mp there
      obtain ⟨made, fresh, rfl⟩ := mem_map.mp new
      rw [t.clash_written]
      exact fits.others x there (of_decide_eq_true other) made fresh
  · intro r there
    rcases mem_append.mp there with there | there
    · exact unique.old r (mem_filter.mp there).1
    · obtain ⟨r, new, rfl⟩ := mem_map.mp there
      rw [t.key_written]
      exact fits.unique.old r new

theorem TenantTable.Fits.replace {t : TenantTable α} {saved : List α}
    (fits : t.Fits tenantId rs rows bound) (own : ∀ r ∈ saved, t.tenantId r = tenantId) :
    t.Fits tenantId rs (t.replace now tenantId saved rows) bound where
  own := fits.own
  unique := fits.unique
  others x there other := by
    rcases mem_append.mp there with there | there
    · exact fits.others x (mem_filter.mp there).1 other
    · obtain ⟨made, new, rfl⟩ := mem_map.mp there
      rw [t.tenantId_written] at other
      exact absurd (own made new) other

section
variable {t : TenantTable α} {db db' : BillingDb} (fits : t.Fits tenantId rs (t.rows db) bound)
  (saved : t.Replaced now tenantId rs db db')

include fits saved

theorem TenantTable.Fits.unique_saved (unique : t.Unique (t.rows db) bound) :
    t.Unique (t.rows db') bound := by
  rw [fits.replaced_iff.mp saved]
  exact fits.unique_replace unique

theorem TenantTable.Fits.again : t.Fits tenantId rs (t.rows db') bound := by
  rw [fits.replaced_iff.mp saved]
  exact fits.replace fits.own

end

theorem TenantTable.Unique.loaded {t : TenantTable α} {db : BillingDb}
    (unique : t.Unique (t.rows db) bound) (createdAt : α → Instant) :
    t.Fits tenantId (t.findMany createdAt tenantId db) (t.rows db) bound where
  own r there := (TenantTable.mem_findMany.mp there).2
  unique := by
    refine ⟨?_, fun r there => unique.old r (TenantTable.mem_findMany.mp there).1⟩
    exact (perm_insertionSort _ _).symm.pairwise (unique.apart.filter _)
      fun free clash => free (t.clash_symm _ _ clash)
  others x there other r loaded clash := by
    obtain ⟨stored, own⟩ := TenantTable.mem_findMany.mp loaded
    have same : x = r := by
      by_contra differ
      exact unique.apart.forall there stored differ clash
    exact other (same ▸ own)

/-- A new row fits where the tenant has none, in a table whose constraints are on ids and
tenants. -/
theorem TenantTable.Unique.single {t : TenantTable α} {new : α} (unique : t.Unique rows bound)
    (own : t.tenantId new = tenantId) (fresh : t.key new = bound)
    (byKeys : ∀ x, t.clash x new → t.key x = t.key new ∨ t.tenantId x = t.tenantId new) :
    t.Fits tenantId [new] rows (bound + 1) where
  own r there := by
    rw [mem_singleton.mp there]
    exact own
  unique := by
    refine ⟨pairwise_singleton _ _, fun r there => ?_⟩
    rw [mem_singleton.mp there, fresh]
    exact Nat.lt_succ_self bound
  others x there other r made clash := by
    obtain rfl := mem_singleton.mp made
    rcases byKeys x clash with same | same
    · exact absurd (same.trans fresh) (Nat.ne_of_lt (unique.old x there))
    · exact other (same.trans own)

theorem TenantTable.Fits.loaded_replace {t : TenantTable α} {createdAt : α → Instant}
    {db : BillingDb} (fits : t.Fits tenantId rs rows bound)
    (stamped : ∀ r, createdAt (t.written now r) = now)
    (saved : t.rows db = t.replace now tenantId rs rows) :
    t.findMany createdAt tenantId db = rs.map (t.written now) := by
  have mine : (t.rows db).filter (fun r => t.tenantId r = tenantId) = rs.map (t.written now) := by
    rw [saved, TenantTable.replace, filter_append]
    have others : (rows.filter fun r => t.tenantId r ≠ tenantId).filter
        (fun r => t.tenantId r = tenantId) = [] := by
      rw [filter_filter, filter_eq_nil_iff]
      intro r _
      simp
    have own : (rs.map (t.written now)).filter (fun r => t.tenantId r = tenantId) =
        rs.map (t.written now) := by
      rw [filter_eq_self]
      intro r there
      obtain ⟨made, new, rfl⟩ := mem_map.mp there
      rw [t.tenantId_written, fits.own made new, decide_eq_true rfl]
    rw [others, own, nil_append]
  rw [TenantTable.findMany, mine]
  refine List.Pairwise.insertionSort_eq (pairwise_map.mpr ?_)
  exact pairwise_of_forall fun _ _ => by rw [stamped, stamped]

structure CodeTable.Unique (t : CodeTable α) (rows : List α) (bound : Id) : Prop where
  codes : (rows.map t.code).Nodup
  ids : (rows.map t.key).Nodup
  old : ∀ r ∈ rows, t.key r < bound

/-- Records to save: each under a code that is there, but for a new one ahead. -/
inductive CodeTable.Ready (t : CodeTable α) (rs rows : List α) : Prop
  | present (all : ∀ r ∈ rs, t.code r ∈ rows.map t.code)
  | new (r : α) (rest : List α) (is : rs = r :: rest) (code : t.code r ∉ rows.map t.code)
      (id : t.key r ∉ rows.map t.key) (all : ∀ r' ∈ rest, t.code r' ∈ rows.map t.code)

/-- What saving records does to the keys of the rows. -/
inductive CodeTable.Grown (t : CodeTable α) (rs rows rows' : List α) : Prop
  | same (codes : rows'.map t.code = rows.map t.code) (ids : rows'.map t.key = rows.map t.key)
  | one (r : α) (rest : List α) (is : rs = r :: rest)
      (codes : rows'.map t.code = rows.map t.code ++ [t.code r])
      (ids : rows'.map t.key = rows.map t.key ++ [t.key r])
      (newCode : t.code r ∉ rows.map t.code) (newId : t.key r ∉ rows.map t.key)

theorem CodeTable.Ready.merges {t : CodeTable α} (now : Instant) (ready : t.Ready rs rows) :
    ∃ rows', Rows.upsertAll t.code t.key (t.merge now) (t.written now) t.refused rows rs =
        .ok rows' ∧
      t.Grown rs rows rows' ∧ ∀ r ∈ rs, t.code r ∈ rows'.map t.code := by
  cases ready with
  | present all =>
    obtain ⟨rows', done, codes, ids⟩ := Rows.upsertAll_present (t.keeps now) all
    exact ⟨rows', done, .same codes ids, fun r there => codes ▸ all r there⟩
  | new r rest is code id all =>
    subst is
    obtain ⟨rows', done, codes, ids⟩ := Rows.upsertAll_new (t.keeps now) code id all
    refine ⟨rows', done, .one r rest rfl codes ids code id, fun r' there => ?_⟩
    rw [codes]
    rcases mem_cons.mp there with rfl | there
    · exact mem_append_right _ (mem_singleton.mpr rfl)
    · exact mem_append_left _ (all r' there)

theorem CodeTable.Ready.merged {t : CodeTable α} {db db' : BillingDb}
    (ready : t.Ready rs (t.rows db)) (saved : t.Merged now rs db db') :
    t.Grown rs (t.rows db) (t.rows db') ∧ ∀ r ∈ rs, t.code r ∈ (t.rows db').map t.code := by
  obtain ⟨rows', done, facts⟩ := ready.merges now
  rw [CodeTable.Merged, done] at saved
  rw [← Except.ok.inj saved]
  exact facts

theorem CodeTable.Grown.unique {t : CodeTable α} (grown : t.Grown rs rows rows')
    (unique : t.Unique rows bound) (old : ∀ r ∈ rs, t.key r < bound) : t.Unique rows' bound := by
  have below : ∀ k ∈ rows.map t.key, k < bound := by
    simpa only [forall_mem_map] using unique.old
  cases grown with
  | same codes ids =>
    refine ⟨codes ▸ unique.codes, ids ▸ unique.ids, fun r there => ?_⟩
    exact below _ (ids ▸ mem_map_of_mem there)
  | one r rest is codes ids newCode newId =>
    refine ⟨?_, ?_, fun r' there => ?_⟩
    · rw [codes]
      exact nodup_append_comm.mp (nodup_cons.mpr ⟨newCode, unique.codes⟩)
    · rw [ids]
      exact nodup_append_comm.mp (nodup_cons.mpr ⟨newId, unique.ids⟩)
    · have listed : t.key r' ∈ rows.map t.key ++ [t.key r] := ids ▸ mem_map_of_mem there
      rcases mem_append.mp listed with listed | listed
      · exact below _ listed
      · rw [mem_singleton.mp listed]
        exact old r (is ▸ mem_cons_self)

theorem CodeTable.mem_findMany {t : CodeTable α} {createdAt : α → Instant} {db : BillingDb}
    {r : α} : r ∈ t.findMany createdAt db ↔ r ∈ t.rows db :=
  mem_insertionSort _

theorem CodeTable.ready_findMany {t : CodeTable α} {createdAt : α → Instant} {db : BillingDb} :
    t.Ready (t.findMany createdAt db) (t.rows db) :=
  .present fun _ there => mem_map_of_mem (CodeTable.mem_findMany.mp there)

end

structure Keys (db : BillingDb) : Prop where
  plans : plans.Unique db.plans db.nextId
  resellers : resellers.Unique db.resellers db.nextId
  accounts : accounts.Unique db.accounts db.nextId
  subscriptions : subscriptions.Unique db.subscriptions db.nextId
  invoices : invoices.Unique db.invoices db.nextId
  entitlements : entitlements.Unique db.entitlements db.nextId
  quotas : quotas.Unique db.quotas db.nextId
  trials : trials.Unique db.trials db.nextId

/-- A state that a save of the tenant writes without a refusal. -/
structure Fitting (tenantId : Id) (state : BillingState) (db : BillingDb) : Prop where
  plans : plans.Ready state.plans db.plans
  plansOld : ∀ plan ∈ state.plans, plan.id < db.nextId
  resellers : resellers.Ready state.resellers db.resellers
  resellersOld : ∀ reseller ∈ state.resellers, reseller.id < db.nextId
  accounts : accounts.Fits tenantId state.accounts db.accounts db.nextId
  subscriptions : subscriptions.Fits tenantId state.subscriptions db.subscriptions db.nextId
  invoices : invoices.Fits tenantId state.invoices db.invoices db.nextId
  entitlements : entitlements.Fits tenantId state.entitlements db.entitlements db.nextId
  quotas : quotas.Fits tenantId state.quotas db.quotas db.nextId
  trials : trials.Fits tenantId state.trials db.trials db.nextId

section
variable {now : Instant} {tenantId : Id} {state : BillingState} {db db' : BillingDb}

theorem Keys.loaded (keys : Keys db) : Fitting tenantId (loadState tenantId db) db where
  plans := CodeTable.ready_findMany
  plansOld plan there := keys.plans.old plan (CodeTable.mem_findMany.mp there)
  resellers := CodeTable.ready_findMany
  resellersOld reseller there := keys.resellers.old reseller (CodeTable.mem_findMany.mp there)
  accounts := keys.accounts.loaded _
  subscriptions := keys.subscriptions.loaded _
  invoices := keys.invoices.loaded _
  entitlements := keys.entitlements.loaded _
  quotas := keys.quotas.loaded _
  trials := keys.trials.loaded _

theorem Fitting.saves (now : Instant) (fitting : Fitting tenantId state db) :
    ∃ db', Saved now tenantId state db db' := by
  obtain ⟨planRows, plansSaved, -⟩ := fitting.plans.merges now
  obtain ⟨resellerRows, resellersSaved, -⟩ := fitting.resellers.merges now
  refine ⟨{
    plans := planRows
    resellers := resellerRows
    accounts := Billing.accounts.replace now tenantId state.accounts db.accounts
    subscriptions := Billing.subscriptions.replace now tenantId state.subscriptions db.subscriptions
    invoices := Billing.invoices.replace now tenantId state.invoices db.invoices
    entitlements := Billing.entitlements.replace now tenantId state.entitlements db.entitlements
    quotas := Billing.quotas.replace now tenantId state.quotas db.quotas
    trials := Billing.trials.replace now tenantId state.trials db.trials
    nextId := db.nextId }, plansSaved, resellersSaved, ?_, ?_, ?_, ?_, ?_, ?_, rfl⟩
  · exact fitting.accounts.replaced_iff.mpr rfl
  · exact fitting.subscriptions.replaced_iff.mpr rfl
  · exact fitting.invoices.replaced_iff.mpr rfl
  · exact fitting.entitlements.replaced_iff.mpr rfl
  · exact fitting.quotas.replaced_iff.mpr rfl
  · exact fitting.trials.replaced_iff.mpr rfl

theorem Keys.saved (keys : Keys db) (fitting : Fitting tenantId state db)
    (saved : Saved now tenantId state db db') : Keys db' := by
  constructor <;> rw [saved.nextId]
  · exact (fitting.plans.merged saved.plans).1.unique keys.plans fitting.plansOld
  · exact (fitting.resellers.merged saved.resellers).1.unique keys.resellers fitting.resellersOld
  · exact fitting.accounts.unique_saved saved.accounts keys.accounts
  · exact fitting.subscriptions.unique_saved saved.subscriptions keys.subscriptions
  · exact fitting.invoices.unique_saved saved.invoices keys.invoices
  · exact fitting.entitlements.unique_saved saved.entitlements keys.entitlements
  · exact fitting.quotas.unique_saved saved.quotas keys.quotas
  · exact fitting.trials.unique_saved saved.trials keys.trials

theorem Fitting.again (fitting : Fitting tenantId state db)
    (saved : Saved now tenantId state db db') : Fitting tenantId state db' := by
  constructor <;> try rw [saved.nextId]
  · exact .present (fitting.plans.merged saved.plans).2
  · exact fitting.plansOld
  · exact .present (fitting.resellers.merged saved.resellers).2
  · exact fitting.resellersOld
  · exact fitting.accounts.again saved.accounts
  · exact fitting.subscriptions.again saved.subscriptions
  · exact fitting.invoices.again saved.invoices
  · exact fitting.entitlements.again saved.entitlements
  · exact fitting.quotas.again saved.quotas
  · exact fitting.trials.again saved.trials

end

end Exetron.Billing
