import Exetron.Billing.Keys

/-!
# Bootstrapping twice

What a bootstrap finds it keeps, and what it makes it finds again, but for a plan whose code is
given with white space around it: that plan is made under the trimmed code and looked up under the
code as it was given, so every bootstrap makes another one.
-/

namespace Exetron.Billing

open Lib List Tx

variable {bound id : Id} {context : RequestContext} {plan : BillingPlan} {account : BillingAccount}

section
variable {now : Instant} {tenantId : Id} {state : BillingState} {db db' : BillingDb}

/-! ### Drawing an id -/

theorem newId_ok_iff :
    newId db = .ok (id, db') ↔ id = db.nextId ∧ db' = { db with nextId := db.nextId + 1 } := by
  simp only [newId, bind_ok_iff, read_ok_iff, write_ok_iff, pure_ok_iff]
  constructor
  · rintro ⟨_, _, ⟨read, rfl⟩, _, _, rfl, rfl, rfl⟩
    exact ⟨(Except.ok.inj read).symm, rfl⟩
  · rintro ⟨rfl, rfl⟩
    exact ⟨_, _, ⟨rfl, rfl⟩, (), _, rfl, rfl, rfl⟩

theorem CodeTable.Unique.mono {α : Type} {t : CodeTable α} {rows : List α} {bound' : Id}
    (unique : t.Unique rows bound) (later : bound ≤ bound') : t.Unique rows bound' :=
  ⟨unique.codes, unique.ids, fun r there => lt_of_lt_of_le (unique.old r there) later⟩

theorem Keys.drawn (keys : Keys db) : Keys { db with nextId := db.nextId + 1 } where
  plans := keys.plans.mono (Nat.le_succ _)
  resellers := keys.resellers.mono (Nat.le_succ _)
  accounts := keys.accounts.mono (Nat.le_succ _)
  subscriptions := keys.subscriptions.mono (Nat.le_succ _)
  invoices := keys.invoices.mono (Nat.le_succ _)
  entitlements := keys.entitlements.mono (Nat.le_succ _)
  quotas := keys.quotas.mono (Nat.le_succ _)
  trials := keys.trials.mono (Nat.le_succ _)

theorem Fitting.drawn (fitting : Fitting tenantId state db) :
    Fitting tenantId state { db with nextId := db.nextId + 1 } where
  plans := fitting.plans
  plansOld plan there := Nat.lt_succ_of_lt (fitting.plansOld plan there)
  resellers := fitting.resellers
  resellersOld reseller there := Nat.lt_succ_of_lt (fitting.resellersOld reseller there)
  accounts := fitting.accounts.mono (Nat.le_succ _)
  subscriptions := fitting.subscriptions.mono (Nat.le_succ _)
  invoices := fitting.invoices.mono (Nat.le_succ _)
  entitlements := fitting.entitlements.mono (Nat.le_succ _)
  quotas := fitting.quotas.mono (Nat.le_succ _)
  trials := fitting.trials.mono (Nat.le_succ _)

/-! ### Records and rows of one code -/

section
variable {α : Type} {t : CodeTable α} {rs rows rows' : List α}

/-- The records have the ids of the rows, or will have them once a new one ahead is stored. -/
inductive CodeTable.Listing (t : CodeTable α) (rs rows : List α) : Prop
  | present (all : ∀ r ∈ rs, t.code r ∈ rows.map t.code)
      (ids : ∀ id, id ∈ rs.map t.key ↔ id ∈ rows.map t.key)
  | new (r : α) (rest : List α) (is : rs = r :: rest) (code : t.code r ∉ rows.map t.code)
      (id : t.key r ∉ rows.map t.key) (all : ∀ r' ∈ rest, t.code r' ∈ rows.map t.code)
      (ids : ∀ id, id ∈ rest.map t.key ↔ id ∈ rows.map t.key)

theorem CodeTable.Listing.ready (listing : t.Listing rs rows) : t.Ready rs rows := by
  cases listing with
  | present all _ => exact .present all
  | new r rest is code id all _ => exact .new r rest is code id all

theorem CodeTable.Listing.ids_saved (listing : t.Listing rs (t.rows db))
    (saved : t.Merged now rs db db') (id : Id) :
    id ∈ rs.map t.key ↔ id ∈ (t.rows db').map t.key := by
  obtain ⟨grown, all⟩ := listing.ready.merged saved
  cases grown with
  | same codes ids =>
    rw [ids]
    cases listing with
    | present _ listed => exact listed id
    | new r rest is code _ _ _ => exact absurd (codes ▸ all r (is ▸ mem_cons_self)) code
  | one r rest is _ ids newCode _ =>
    rw [ids, is, map_cons, mem_cons, mem_append, mem_singleton, or_comm]
    cases listing with
    | present all _ => exact absurd (all r (is ▸ mem_cons_self)) newCode
    | new r' rest' is' _ _ _ listed =>
      obtain ⟨rfl, rfl⟩ := cons.inj (is.symm.trans is')
      rw [listed id]

theorem CodeTable.Listing.saved (listing : t.Listing rs (t.rows db))
    (saved : t.Merged now rs db db') : t.Listing rs (t.rows db') :=
  .present (listing.ready.merged saved).2 (listing.ids_saved saved)

/-- The records have the codes and the ids of the rows. -/
structure CodeTable.Mirrors (t : CodeTable α) (rs rows : List α) : Prop where
  codes : ∀ code, code ∈ rs.map t.code ↔ code ∈ rows.map t.code
  ids : ∀ id, id ∈ rs.map t.key ↔ id ∈ rows.map t.key

theorem CodeTable.mirrors_findMany {createdAt : α → Instant} :
    t.Mirrors (t.findMany createdAt db) (t.rows db) where
  codes _ := ((perm_insertionSort _ _).map t.code).mem_iff
  ids _ := ((perm_insertionSort _ _).map t.key).mem_iff

theorem CodeTable.Mirrors.listing (mirrors : t.Mirrors rs rows) : t.Listing rs rows :=
  .present (fun _ there => (mirrors.codes _).mp (mem_map_of_mem there)) mirrors.ids

theorem CodeTable.Mirrors.saved (mirrors : t.Mirrors rs (t.rows db))
    (saved : t.Merged now rs db db') : t.Mirrors rs (t.rows db') := by
  cases (mirrors.listing.ready.merged saved).1 with
  | same codes ids =>
    constructor
    · rw [codes]
      exact mirrors.codes
    · rw [ids]
      exact mirrors.ids
  | one r rest is _ _ newCode _ =>
    exact absurd ((mirrors.codes _).mp (is ▸ mem_map_of_mem mem_cons_self)) newCode

theorem CodeTable.Mirrors.modify {change : α → α} (mirrors : t.Mirrors rs rows)
    (codes : ∀ r, t.code (change r) = t.code r) (ids : ∀ r, t.key (change r) = t.key r) :
    t.Mirrors (Rows.modify t.key id change rs) rows where
  codes code := by
    rw [Rows.map_modify codes]
    exact mirrors.codes code
  ids id := by
    rw [Rows.map_modify ids]
    exact mirrors.ids id

end

/-! ### The steps of a bootstrap -/

section
variable {dto : BillingBootstrapDto} {start : BillingDb}

def PlanKept (dto : BillingBootstrapDto) (db : BillingDb) : Prop :=
  dto.planCode ∈ db.plans.map BillingPlan.code ∨ Text.trim dto.planCode = dto.planCode

/-- Between the steps of a bootstrap of `start`, once it has its plan. -/
structure Begun (dto : BillingBootstrapDto) (start : BillingDb) (state : BillingState)
    (db : BillingDb) : Prop where
  keys : Keys db
  fitting : Fitting dto.tenantId state db
  kept : PlanKept dto start →
    plans.Listing state.plans db.plans ∧ dto.planCode ∈ state.plans.map BillingPlan.code
  lost : ¬PlanKept dto start →
    (∃ plan ∈ state.plans, plan.id = start.nextId) ∧
      dto.planCode ∉ state.plans.map BillingPlan.code ∧
      dto.planCode ∉ db.plans.map BillingPlan.code

theorem Begun.drawn (begun : Begun dto start state db) :
    Begun dto start state { db with nextId := db.nextId + 1 } :=
  ⟨begun.keys.drawn, begun.fitting.drawn, begun.kept, begun.lost⟩

theorem Begun.saved (begun : Begun dto start state db)
    (saved : Saved now dto.tenantId state db db') : Begun dto start state db' where
  keys := begun.keys.saved begun.fitting saved
  fitting := begun.fitting.again saved
  kept kept := ⟨(begun.kept kept).1.saved saved.plans, (begun.kept kept).2⟩
  lost lost := by
    obtain ⟨made, unlisted, unstored⟩ := begun.lost lost
    refine ⟨made, unlisted, ?_⟩
    cases (begun.fitting.plans.merged saved.plans).1 with
    | same codes _ => exact fun stored => unstored (codes ▸ stored)
    | one plan rest is codes _ _ _ =>
      intro stored
      rcases mem_append.mp (codes ▸ stored) with stored | stored
      · exact unstored stored
      · refine unlisted ?_
        rw [mem_singleton.mp stored, is]
        exact mem_map_of_mem mem_cons_self

/-- The same, while the resellers are still those that were loaded. -/
structure Unlinked (dto : BillingBootstrapDto) (start : BillingDb) (state : BillingState)
    (db : BillingDb) : Prop extends Begun dto start state db where
  resellers : resellers.Mirrors state.resellers db.resellers

theorem Unlinked.drawn (unlinked : Unlinked dto start state db) :
    Unlinked dto start state { db with nextId := db.nextId + 1 } :=
  ⟨unlinked.toBegun.drawn, unlinked.resellers⟩

theorem Unlinked.saved (unlinked : Unlinked dto start state db)
    (saved : Saved now dto.tenantId state db db') : Unlinked dto start state db' :=
  ⟨unlinked.toBegun.saved saved, unlinked.resellers.saved saved.resellers⟩

/-- A state before the plan is looked up. -/
structure Fresh (dto : BillingBootstrapDto) (state : BillingState) (db : BillingDb) : Prop where
  keys : Keys db
  fitting : Fitting dto.tenantId state db
  plans : plans.Mirrors state.plans db.plans
  resellers : resellers.Mirrors state.resellers db.resellers

theorem Keys.fresh (keys : Keys db) : Fresh dto (loadState dto.tenantId db) db :=
  ⟨keys, keys.loaded, CodeTable.mirrors_findMany, CodeTable.mirrors_findMany⟩

theorem Fresh.found {input : PlanInput} (fresh : Fresh dto state db) (there : plan ∈ state.plans)
    (code : plan.code = dto.planCode) : Unlinked dto db { state with
      plans := Rows.modify BillingPlan.id plan.id (input.patch now) state.plans } db := by
  have mirrors : Billing.plans.Mirrors
      (Rows.modify BillingPlan.id plan.id (input.patch now) state.plans) db.plans :=
    fresh.plans.modify (fun _ => rfl) (fun _ => rfl)
  have stored : dto.planCode ∈ db.plans.map BillingPlan.code := by
    rw [← code]
    exact (fresh.plans.codes _).mp (mem_map_of_mem there)
  refine ⟨⟨fresh.keys, { fresh.fitting with plans := mirrors.listing.ready, plansOld := ?_ },
    fun _ => ⟨mirrors.listing, (mirrors.codes _).mpr stored⟩,
    fun lost => absurd (.inl stored) lost⟩, fresh.resellers⟩
  intro patched inside
  obtain ⟨row, mine, same⟩ := mem_map.mp ((mirrors.ids _).mp (mem_map_of_mem inside))
  exact lt_of_eq_of_lt same.symm (fresh.keys.plans.old row mine)

theorem Fresh.made (fresh : Fresh dto state db) (id : plan.id = db.nextId)
    (code : plan.code = Text.trim dto.planCode)
    (unstored : dto.planCode ∉ db.plans.map BillingPlan.code) :
    Unlinked dto db { state with plans := plan :: state.plans }
      { db with nextId := db.nextId + 1 } := by
  have newId : plan.id ∉ db.plans.map BillingPlan.id := by
    intro stored
    obtain ⟨row, there, same⟩ := mem_map.mp stored
    exact absurd (same.trans id) (Nat.ne_of_lt (fresh.keys.plans.old row there))
  have listed : ∀ r ∈ state.plans, r.code ∈ db.plans.map BillingPlan.code := fun r there =>
    (fresh.plans.codes _).mp (mem_map_of_mem there)
  have ready : Billing.plans.Ready (plan :: state.plans) db.plans := by
    by_cases taken : plan.code ∈ db.plans.map BillingPlan.code
    · exact .present (forall_mem_cons.mpr ⟨taken, listed⟩)
    · exact .new plan state.plans rfl taken newId listed
  refine ⟨⟨fresh.keys.drawn, { fresh.fitting.drawn with plans := ready, plansOld := ?_ },
    fun kept => ?_, fun lost => ⟨⟨plan, mem_cons_self, id⟩, ?_, ?_⟩⟩, fresh.resellers⟩
  · refine forall_mem_cons.mpr ⟨?_, fresh.fitting.drawn.plansOld⟩
    rw [id]
    exact Nat.lt_succ_self _
  · have trimmed : Text.trim dto.planCode = dto.planCode := kept.resolve_left unstored
    have same : plan.code = dto.planCode := code.trans trimmed
    have absent : plan.code ∉ db.plans.map BillingPlan.code := same ▸ unstored
    refine ⟨.new plan state.plans rfl absent newId listed fresh.plans.ids, ?_⟩
    exact mem_map.mpr ⟨plan, mem_cons_self, same⟩
  · intro found
    rcases mem_cons.mp found with same | found
    · exact lost (.inr (same.trans code).symm)
    · exact unstored ((fresh.plans.codes _).mp found)
  · exact unstored

theorem ensurePlan_begun {input : PlanInput} (is : input.code = dto.planCode)
    (fresh : Fresh dto state db) {r : BillingPlan × BillingState}
    (h : ensurePlan now state input db = .ok (r, db')) :
    Unlinked dto db r.2 db' ∧ r.2 = { state with plans := r.2.plans } := by
  unfold ensurePlan at h
  cases found : state.plans.find? fun plan => plan.code = input.code with
  | some plan =>
    rw [found] at h
    obtain ⟨rfl, rfl⟩ := pure_ok_iff.mp h
    have code : plan.code = input.code := by simpa using find?_some found
    exact ⟨fresh.found (mem_of_find?_eq_some found) (code.trans is), rfl⟩
  | none =>
    rw [found] at h
    simp only [bind_ok_iff, newId_ok_iff, pure_ok_iff] at h
    obtain ⟨_, _, ⟨rfl, rfl⟩, rfl, rfl⟩ := h
    refine ⟨fresh.made rfl (congrArg Text.trim is) fun stored => ?_, rfl⟩
    obtain ⟨plan, there, same⟩ := mem_map.mp ((fresh.plans.codes _).mpr stored)
    exact find?_eq_none.mp found plan there (decide_eq_true (same.trans is.symm))

theorem TenantTable.Fits.eq_single {α : Type} {t : TenantTable α} {rs rows : List α} {r : α}
    (fits : t.Fits tenantId rs rows bound)
    (perTenant : ∀ a b, t.tenantId a = t.tenantId b → t.clash a b) (there : r ∈ rs) : rs = [r] := by
  match rs, fits, there with
  | [_], _, there => rw [mem_singleton.mp there]
  | a :: b :: rest, fits, _ =>
    have apart := (pairwise_cons.mp fits.unique.apart).1 b mem_cons_self
    have own := fits.own
    exact absurd (perTenant a b ((own a (by simp)).trans (own b (by simp)).symm)) apart

theorem TenantTable.Fits.eq_nil {α : Type} {t : TenantTable α} {rs rows : List α}
    (fits : t.Fits tenantId rs rows bound)
    (none : rs.find? (fun r => t.tenantId r = tenantId) = none) : rs = [] := by
  refine eq_nil_iff_forall_not_mem.mpr fun r there => ?_
  exact find?_eq_none.mp none r there (decide_eq_true (fits.own r there))

theorem ensureAccountTx_begun (begun : Unlinked dto start state db)
    {r : BillingAccount × BillingState}
    (h : ensureAccountTx now dto.tenantId state none db = .ok (r, db')) :
    Unlinked dto start r.2 db' ∧ r.2 = { state with accounts := [r.1] } := by
  unfold ensureAccountTx at h
  dsimp only at h
  cases found : state.accounts.find? fun account => account.tenantId = dto.tenantId with
  | some account =>
    rw [found] at h
    obtain ⟨rfl, rfl⟩ := pure_ok_iff.mp h
    have single : state.accounts = [account] :=
      begun.fitting.accounts.eq_single (fun _ _ => .inr) (mem_of_find?_eq_some found)
    refine ⟨begun, ?_⟩
    rw [← single]
  | none =>
    rw [found] at h
    have empty : state.accounts = [] := begun.fitting.accounts.eq_nil found
    simp only [bind_ok_iff, newId_ok_iff, saveStateTx_ok_iff, pure_ok_iff] at h
    obtain ⟨_, _, ⟨rfl, rfl⟩, _, _, saved, rfl, rfl⟩ := h
    rw [empty] at saved ⊢
    have fits : accounts.Fits dto.tenantId [{
        id := db.nextId
        tenantId := dto.tenantId
        resellerAccountId := none
        status := "ACTIVE"
        defaultPaymentTerms := none
        metadata := none
        createdAt := now
        updatedAt := now }] db.accounts (db.nextId + 1) :=
      begun.keys.accounts.single rfl rfl fun _ => id
    exact ⟨Unlinked.saved { begun.drawn with
      fitting := { begun.drawn.fitting with accounts := fits } } saved, rfl⟩

theorem ensureTrial_begun {days : Nat} (begun : Unlinked dto start state db)
    {r : TrialGrant × BillingState}
    (h : ensureTrial now state dto.tenantId days db = .ok (r, db')) :
    Unlinked dto start r.2 db' ∧ r.2 = { state with trials := [r.1] } := by
  unfold ensureTrial at h
  cases found : state.trials.find? fun trial => trial.tenantId = dto.tenantId with
  | some trial =>
    rw [found] at h
    obtain ⟨rfl, rfl⟩ := pure_ok_iff.mp h
    have single : state.trials = [trial] :=
      begun.fitting.trials.eq_single (fun _ _ => .inr) (mem_of_find?_eq_some found)
    refine ⟨begun, ?_⟩
    rw [← single]
  | none =>
    rw [found] at h
    have empty : state.trials = [] := begun.fitting.trials.eq_nil found
    simp only [bind_ok_iff, newId_ok_iff, pure_ok_iff] at h
    obtain ⟨_, _, ⟨rfl, rfl⟩, rfl, rfl⟩ := h
    rw [empty]
    refine ⟨{ begun.drawn with fitting := { begun.drawn.fitting with trials := ?_ } }, rfl⟩
    exact begun.keys.trials.single rfl rfl fun _ => id

theorem ensureSubscription_begun {accountId planId : Id} {ends : Instant}
    (begun : Unlinked dto start state db) {r : Subscription × BillingState}
    (h : ensureSubscription now state dto.tenantId accountId planId ends db = .ok (r, db')) :
    Unlinked dto start r.2 db' ∧ r.2 = { state with subscriptions := r.2.subscriptions } ∧
      (state.subscriptions ≠ [] → r.2.subscriptions = state.subscriptions) ∧
      (state.subscriptions = [] → r.2.subscriptions = [r.1]) := by
  unfold ensureSubscription at h
  cases found : state.subscriptions.find? fun subscription =>
      subscription.tenantId = dto.tenantId with
  | some subscription =>
    rw [found] at h
    obtain ⟨rfl, rfl⟩ := pure_ok_iff.mp h
    exact ⟨begun, rfl, fun _ => rfl,
      fun empty => absurd (empty ▸ mem_of_find?_eq_some found) not_mem_nil⟩
  | none =>
    rw [found] at h
    have empty : state.subscriptions = [] := begun.fitting.subscriptions.eq_nil found
    simp only [bind_ok_iff, newId_ok_iff, pure_ok_iff] at h
    obtain ⟨_, _, ⟨rfl, rfl⟩, rfl, rfl⟩ := h
    rw [empty]
    refine ⟨{ begun.drawn with fitting := { begun.drawn.fitting with subscriptions := ?_ } }, rfl,
      fun some => absurd rfl some, fun _ => rfl⟩
    exact begun.keys.subscriptions.single rfl rfl fun _ => .inl

def resellerAsked (dto : BillingBootstrapDto) : Option String :=
  dto.resellerCode.filter fun code => code ≠ ""

theorem ensureReseller_begun {code name : String} (begun : Unlinked dto start state db)
    {r : ResellerAccount × BillingState}
    (h : ensureReseller now state code name db = .ok (r, db')) :
    Begun dto start r.2 db' ∧ resellers.Listing r.2.resellers db'.resellers ∧
      r.2 = { state with resellers := r.2.resellers } ∧
      code ∈ r.2.resellers.map ResellerAccount.code := by
  unfold ensureReseller at h
  cases found : state.resellers.find? fun reseller => reseller.code = code with
  | some reseller =>
    rw [found] at h
    obtain ⟨rfl, rfl⟩ := pure_ok_iff.mp h
    have same : reseller.code = code := by simpa using find?_some found
    exact ⟨begun.toBegun, begun.resellers.listing, rfl,
      mem_map.mpr ⟨reseller, mem_of_find?_eq_some found, same⟩⟩
  | none =>
    rw [found] at h
    simp only [bind_ok_iff, newId_ok_iff, pure_ok_iff] at h
    obtain ⟨_, _, ⟨rfl, rfl⟩, rfl, rfl⟩ := h
    have unstored : code ∉ db.resellers.map ResellerAccount.code := by
      intro stored
      obtain ⟨reseller, there, same⟩ := mem_map.mp ((begun.resellers.codes _).mpr stored)
      exact find?_eq_none.mp found reseller there (decide_eq_true same)
    have newId : db.nextId ∉ db.resellers.map ResellerAccount.id := by
      intro stored
      obtain ⟨row, there, same⟩ := mem_map.mp stored
      exact absurd same (Nat.ne_of_lt (begun.keys.resellers.old row there))
    have listing : resellers.Listing ({
        id := db.nextId
        code := code
        name := name
        status := "ACTIVE"
        metadata := none
        createdAt := now
        updatedAt := now } :: state.resellers) db.resellers :=
      .new _ _ rfl unstored newId
        (fun r there => (begun.resellers.codes _).mp (mem_map_of_mem there))
        begun.resellers.ids
    refine ⟨{ begun.drawn.toBegun with
      fitting := { begun.drawn.fitting with
        resellers := listing.ready
        resellersOld := ?_ } }, listing, rfl, mem_cons_self⟩
    exact forall_mem_cons.mpr ⟨Nat.lt_succ_self _, begun.drawn.fitting.resellersOld⟩

theorem linkReseller_begun {state' : BillingState} (begun : Unlinked dto start state db)
    (single : state.accounts = [account])
    (h : linkReseller now state dto account.id db = .ok (state', db')) :
    Begun dto start state' db' ∧ resellers.Listing state'.resellers db'.resellers ∧
      (∃ linked : BillingAccount, linked.id = account.id ∧
        state' = { state with accounts := [linked], resellers := state'.resellers }) ∧
      ∀ code ∈ resellerAsked dto, code ∈ state'.resellers.map ResellerAccount.code := by
  have unlinked (is : state = state') (unasked : resellerAsked dto = none) :
      Begun dto start state' db ∧ resellers.Listing state'.resellers db.resellers ∧
        (∃ linked : BillingAccount, linked.id = account.id ∧
          state' = { state with accounts := [linked], resellers := state'.resellers }) ∧
        ∀ code ∈ resellerAsked dto, code ∈ state'.resellers.map ResellerAccount.code := by
    subst is
    refine ⟨begun.toBegun, begun.resellers.listing, ⟨account, rfl, by rw [← single]⟩, ?_⟩
    rw [unasked]
    exact fun code asked => absurd asked (Option.not_mem_none code)
  unfold linkReseller at h
  cases given : dto.resellerCode with
  | none =>
    rw [given] at h
    obtain ⟨is, rfl⟩ := pure_ok_iff.mp h
    exact unlinked is (by rw [resellerAsked, given]; rfl)
  | some code =>
    rw [given] at h
    dsimp only at h
    by_cases blank : code = ""
    · rw [if_pos blank] at h
      obtain ⟨is, rfl⟩ := pure_ok_iff.mp h
      exact unlinked is (by rw [resellerAsked, given, blank]; rfl)
    · rw [if_neg blank] at h
      simp only [bind_ok_iff, pure_ok_iff] at h
      obtain ⟨ensured, _, found, rfl, rfl⟩ := h
      obtain ⟨after, listing, is, there⟩ := ensureReseller_begun begun found
      have mine : ensured.2.accounts = [account] := by rw [is, ← single]
      have linked : Rows.modify BillingAccount.id account.id (fun account =>
          { account with resellerAccountId := some ensured.1.id }) ensured.2.accounts =
            [{ account with resellerAccountId := some ensured.1.id }] := by
        rw [mine]
        simp [Rows.modify, Rows.updateWhere]
      rw [linked]
      have fits := after.fitting.accounts
      rw [mine] at fits
      refine ⟨{ after with fitting := { after.fitting with accounts := ?_ } }, listing,
        ⟨{ account with resellerAccountId := some ensured.1.id }, rfl, by rw [is]⟩, ?_⟩
      · exact {
          own := forall_mem_singleton.mpr (fits.own account (mem_singleton.mpr rfl))
          unique := ⟨pairwise_singleton _ _, forall_mem_singleton.mpr
            (fits.unique.old account (mem_singleton.mpr rfl))⟩
          others := fun x there other => forall_mem_singleton.mpr
            (fits.others x there other account (mem_singleton.mpr rfl)) }
      · intro asked mem
        rw [resellerAsked, given] at mem
        obtain ⟨same, -⟩ := Option.mem_filter_iff.mp mem
        obtain rfl := Option.some.inj same
        exact there

/-- What a bootstrap does: the state it answers and saves, with the tenant's account and trial, its
subscriptions, and the reseller that was asked for. -/
structure Booted (now : Instant) (dto : BillingBootstrapDto) (start : BillingDb)
    (state : BillingState) (db : BillingDb) : Prop where
  begun : Begun dto start state db
  accounts : ∃ account, state.accounts = [account]
  trials : ∃ trial, state.trials = [trial]
  loaded : (loadState dto.tenantId start).subscriptions ≠ [] →
    state.subscriptions = (loadState dto.tenantId start).subscriptions
  made : (loadState dto.tenantId start).subscriptions = [] → ∃ s, state.subscriptions = [s]
  resellers : resellers.Listing state.resellers db.resellers
  asked : ∀ code ∈ resellerAsked dto, code ∈ state.resellers.map ResellerAccount.code

theorem resolveTenantId_some {asked tenantId : Id}
    (h : resolveTenantId context (some asked) = .ok tenantId) : tenantId = asked := by
  unfold resolveTenantId at h
  by_cases admin : context.scope = .platformAdmin
  · rw [if_pos admin] at h
    exact (Option.some.inj (required_ok_iff.mp h)).symm
  · rw [if_neg admin] at h
    cases given : context.tenantId with
    | none =>
      rw [given] at h
      cases h
    | some own =>
      rw [given] at h
      dsimp only at h
      by_cases same : asked = own
      · rw [if_pos same] at h
        exact (Except.ok.inj h).symm.trans same.symm
      · rw [if_neg same] at h
        cases h

theorem bootstrap_booted {answer : BillingOverview} (keys : Keys db)
    (h : bootstrap now context dto db = .ok (answer, db')) :
    ∃ state middle, Booted now dto db state middle ∧ Saved now dto.tenantId state middle db' ∧
      answer = mapBillingOverview now state dto.tenantId := by
  simp only [bootstrap, bind_ok_iff, lift_ok_iff, loadStateTx, read_ok_iff,
    saveStateTx_ok_iff, pure_ok_iff] at h
  obtain ⟨tenantId, _, ⟨resolved, rfl⟩, state, _, ⟨read, rfl⟩, planned, _, plan, account, _,
    isAccount, trial, _, isTrial, subscription, _, isSubscription, final, _, linked, _, _, saved,
    rfl, rfl⟩ := h
  obtain rfl := resolveTenantId_some resolved
  obtain rfl := Except.ok.inj read
  obtain ⟨begun, planIs⟩ := ensurePlan_begun rfl keys.fresh plan
  obtain ⟨begun, accountIs⟩ := ensureAccountTx_begun begun isAccount
  obtain ⟨begun, trialIs⟩ := ensureTrial_begun begun isTrial
  obtain ⟨begun, subscriptionIs, loaded, made⟩ := ensureSubscription_begun begun isSubscription
  have single : subscription.2.accounts = [account.1] := by
    rw [subscriptionIs, trialIs, accountIs]
  obtain ⟨begun, listing, ⟨linkedAccount, -, finalIs⟩, asked⟩ :=
    linkReseller_begun begun single linked
  have same : trial.2.subscriptions = (loadState dto.tenantId db).subscriptions := by
    rw [trialIs, accountIs, planIs]
  refine ⟨final, _, ⟨begun, ⟨linkedAccount, by rw [finalIs]⟩, ⟨trial.1, ?_⟩, ?_, ?_, listing,
    asked⟩, saved, rfl⟩
  · rw [finalIs, subscriptionIs, trialIs]
  · intro some
    rw [finalIs, ← same]
    exact loaded (same ▸ some)
  · intro none
    refine ⟨subscription.1, ?_⟩
    rw [finalIs]
    exact made (same.trans none)

/-! ### The second run -/

theorem linkReseller_found (now : Instant) (db : BillingDb) (single : state.accounts = [account])
    (found : ∀ code ∈ resellerAsked dto, ∃ reseller,
      state.resellers.find? (fun reseller => reseller.code = code) = some reseller) :
    ∃ linked : BillingAccount, linked.id = account.id ∧
      linkReseller now state dto account.id db = .ok ({ state with accounts := [linked] }, db) := by
  have unlinked : ({ state with accounts := [account] } : BillingState) = state := by rw [← single]
  cases given : dto.resellerCode with
  | none => exact ⟨account, rfl, by rw [linkReseller, given, unlinked]; rfl⟩
  | some code =>
    by_cases blank : code = ""
    · refine ⟨account, rfl, ?_⟩
      rw [linkReseller, given, unlinked]
      dsimp only
      rw [if_pos blank]
      rfl
    · obtain ⟨reseller, there⟩ := found code (by
        rw [resellerAsked, given]
        exact Option.mem_filter_iff.mpr ⟨rfl, decide_eq_true blank⟩)
      refine ⟨{ account with resellerAccountId := some reseller.id }, rfl, ?_⟩
      have ensured : ensureReseller now state code (dto.resellerName.getD code) db =
          .ok ((reseller, state), db) := by
        rw [ensureReseller, there]
        rfl
      rw [linkReseller, given]
      dsimp only
      rw [if_neg blank, bind_of_ok ensured]
      simp [single, Rows.modify, Rows.updateWhere]
      rfl

theorem bootstrap_found (now : Instant) {trial : TrialGrant} {subscription : Subscription}
    (keys : Keys db) (resolved : resolveTenantId context (some dto.tenantId) = .ok dto.tenantId)
    (isLoaded : loadState dto.tenantId db = state)
    (planFound : state.plans.find? (fun plan => plan.code = dto.planCode) = some plan)
    (accountFound : state.accounts = [account])
    (trialFound : state.trials.find? (fun trial => trial.tenantId = dto.tenantId) = some trial)
    (subscriptionFound : state.subscriptions.find?
      (fun subscription => subscription.tenantId = dto.tenantId) = some subscription)
    (resellerFound : ∀ code ∈ resellerAsked dto, ∃ reseller,
      state.resellers.find? (fun reseller => reseller.code = code) = some reseller) :
    ∃ input : PlanInput, ∃ linked : BillingAccount, ∃ db', linked.id = account.id ∧
      bootstrap now context dto db = .ok (mapBillingOverview now { state with
        plans := Rows.modify BillingPlan.id plan.id (input.patch now) state.plans
        accounts := [linked] } dto.tenantId, db') ∧
      Fitting dto.tenantId { state with
        plans := Rows.modify BillingPlan.id plan.id (input.patch now) state.plans
        accounts := [linked] } db ∧
      Saved now dto.tenantId { state with
        plans := Rows.modify BillingPlan.id plan.id (input.patch now) state.plans
        accounts := [linked] } db db' := by
  obtain ⟨input, isInput⟩ : ∃ input : PlanInput, input = {
    code := dto.planCode
    name := dto.planName
    priceAmount := dto.planPriceAmount
    currency := dto.currency
    intervalKey := dto.intervalKey } := ⟨_, rfl⟩
  have code : input.code = dto.planCode := by rw [isInput]
  obtain ⟨planned, isPlanned⟩ : ∃ planned : BillingState, planned = { state with
    plans := Rows.modify BillingPlan.id plan.id (input.patch now) state.plans } := ⟨_, rfl⟩
  have fresh : Fresh dto state db := isLoaded ▸ keys.fresh
  have first : ensurePlan now state input db = .ok ((input.patch now plan, planned), db) := by
    rw [ensurePlan, code, planFound, isPlanned]
    rfl
  have single : planned.accounts = [account] := by rw [isPlanned]; exact accountFound
  have own : account.tenantId = dto.tenantId :=
    fresh.fitting.accounts.own account (accountFound ▸ mem_cons_self)
  have second : ensureAccountTx now dto.tenantId planned none db =
      .ok ((account, planned), db) := by
    rw [ensureAccountTx, single]
    simp [own]
    rfl
  have third : ensureTrial now planned dto.tenantId (dto.trialDays.getD 30) db =
      .ok ((trial, planned), db) := by
    rw [ensureTrial, isPlanned, trialFound]
    rfl
  have fourth : ensureSubscription now planned dto.tenantId account.id (input.patch now plan).id
      trial.endsAt db = .ok ((subscription, planned), db) := by
    rw [ensureSubscription, isPlanned, subscriptionFound]
    rfl
  have reseller : ∀ code ∈ resellerAsked dto, ∃ reseller,
      planned.resellers.find? (fun reseller => reseller.code = code) = some reseller := by
    rw [isPlanned]
    exact resellerFound
  obtain ⟨linked, same, last⟩ := linkReseller_found now db single reseller
  have begun := (ensurePlan_begun code fresh first).1
  have fitting := (linkReseller_begun begun single last).1.fitting
  obtain ⟨db', saved⟩ := fitting.saves now
  subst isPlanned isInput
  refine ⟨_, linked, db', same, ?_, fitting, saved⟩
  refine bind_ok_iff.mpr ⟨_, _, lift_ok_iff.mpr ⟨resolved, rfl⟩, ?_⟩
  refine bind_ok_iff.mpr ⟨state, db, read_ok_iff.mpr ⟨congrArg Except.ok isLoaded, rfl⟩, ?_⟩
  refine bind_ok_iff.mpr ⟨_, _, first, ?_⟩
  refine bind_ok_iff.mpr ⟨_, _, second, ?_⟩
  refine bind_ok_iff.mpr ⟨_, _, third, ?_⟩
  refine bind_ok_iff.mpr ⟨_, _, fourth, ?_⟩
  refine bind_ok_iff.mpr ⟨_, _, last, ?_⟩
  exact bind_ok_iff.mpr ⟨(), db', saveStateTx_ok_iff.mpr saved, rfl⟩

end

end

/-! ### Identities -/

structure SameIdentities (first second : BillingOverview) : Prop where
  billingAccount : first.billingAccount.map BillingAccount.id =
    second.billingAccount.map BillingAccount.id
  activeTrial : first.activeTrial.map TrialGrant.id = second.activeTrial.map TrialGrant.id
  activeSubscription : first.activeSubscription.map Subscription.id =
    second.activeSubscription.map Subscription.id
  activePlan : first.activePlan.map BillingPlan.id = second.activePlan.map BillingPlan.id
  plans : ∀ id, id ∈ first.plans.map BillingPlan.id ↔ id ∈ second.plans.map BillingPlan.id
  accounts : ∀ id,
    id ∈ first.accounts.map BillingAccount.id ↔ id ∈ second.accounts.map BillingAccount.id
  subscriptions : ∀ id,
    id ∈ first.subscriptions.map Subscription.id ↔ id ∈ second.subscriptions.map Subscription.id
  trials : ∀ id, id ∈ first.trials.map TrialGrant.id ↔ id ∈ second.trials.map TrialGrant.id
  resellers : ∀ id,
    id ∈ first.resellers.map ResellerAccount.id ↔ id ∈ second.resellers.map ResellerAccount.id

structure CreatesNothing (db db' : BillingDb) : Prop where
  plans : ∀ id, id ∈ db'.plans.map BillingPlan.id ↔ id ∈ db.plans.map BillingPlan.id
  accounts : ∀ id, id ∈ db'.accounts.map BillingAccount.id ↔ id ∈ db.accounts.map BillingAccount.id
  trials : ∀ id, id ∈ db'.trials.map TrialGrant.id ↔ id ∈ db.trials.map TrialGrant.id
  subscriptions : ∀ id,
    id ∈ db'.subscriptions.map Subscription.id ↔ id ∈ db.subscriptions.map Subscription.id
  resellers : ∀ id,
    id ∈ db'.resellers.map ResellerAccount.id ↔ id ∈ db.resellers.map ResellerAccount.id

def RankedWithoutStamps (tenantId : Id) (db : BillingDb) : Prop :=
  let loaded := subscriptions.findMany Subscription.createdAt tenantId db
  (activeSubscription (loaded.map (subscriptions.written 0))).map Subscription.id =
    (activeSubscription loaded).map Subscription.id

section
variable {now later : Instant} {tenantId : Id} {state : BillingState} {db db' : BillingDb}
  {dto : BillingBootstrapDto} {start : BillingDb}

theorem activeSubscription_written (now later : Instant) (rows : List Subscription) :
    activeSubscription (rows.map (subscriptions.written later)) =
      (activeSubscription (rows.map (subscriptions.written now))).map
        (subscriptions.written later) := by
  have twice : rows.map (subscriptions.written later) =
      (rows.map (subscriptions.written now)).map (subscriptions.written later) := by
    rw [map_map]
    rfl
  have sorted : ((rows.map (subscriptions.written now)).insertionSort SubscriptionBefore).map
      (subscriptions.written later) =
      ((rows.map (subscriptions.written now)).map (subscriptions.written later)).insertionSort
        SubscriptionBefore := by
    refine map_insertionSort _ _ _ _ fun a there b other => ?_
    obtain ⟨left, -, rfl⟩ := mem_map.mp there
    obtain ⟨right, -, rfl⟩ := mem_map.mp other
    simp [SubscriptionBefore, subscriptions]
  rw [activeSubscription, activeSubscription, twice, ← sorted, head?_map]

theorem activeSubscription_some {rows : List Subscription} (some : rows ≠ []) :
    ∃ s, activeSubscription rows = .some s := by
  refine Option.isSome_iff_exists.mp (isSome_head?.mpr fun none => ?_)
  exact some (eq_nil_of_length_eq_zero
    ((length_insertionSort SubscriptionBefore rows).symm.trans (by rw [none]; rfl)))

theorem activeSubscription_mem {rows : List Subscription} {s : Subscription}
    (active : activeSubscription rows = some s) : s ∈ rows :=
  (mem_insertionSort _).mp (mem_of_head? active)

theorem TenantTable.Fits.ids_saved {α : Type} {t : TenantTable α} (createdAt : α → Instant)
    {rs : List α} (fits : t.Fits tenantId rs (t.rows db) bound)
    (saved : t.Replaced now tenantId rs db db')
    (same : rs.map t.key = (t.findMany createdAt tenantId db).map t.key) (id : Id) :
    id ∈ (t.rows db').map t.key ↔ id ∈ (t.rows db).map t.key := by
  have mine : id ∈ (rs.map (t.written now)).map t.key ↔
      id ∈ ((t.rows db).filter fun r => t.tenantId r = tenantId).map t.key := by
    have kept : t.key ∘ t.written now = t.key := funext fun r => t.key_written now r
    rw [map_map, kept, same]
    exact ((perm_insertionSort _ _).map t.key).mem_iff
  rw [fits.replaced_iff.mp saved, TenantTable.replace, map_append, mem_append, mine]
  simp only [mem_map, mem_filter, decide_eq_true_eq]
  constructor
  · rintro (⟨r, ⟨there, -⟩, is⟩ | ⟨r, ⟨there, -⟩, is⟩) <;> exact ⟨r, there, is⟩
  · rintro ⟨r, there, is⟩
    by_cases own : t.tenantId r = tenantId
    · exact .inr ⟨r, ⟨there, own⟩, is⟩
    · exact .inl ⟨r, ⟨there, own⟩, is⟩

/-- What a second run answers when the first one kept its plan: the records of the first as they
were stored. -/
structure Resumed (now : Instant) (tenantId : Id) (first second : BillingState) (db : BillingDb) :
    Prop where
  plans : ∀ id, id ∈ second.plans.map BillingPlan.id ↔ id ∈ db.plans.map BillingPlan.id
  accounts : second.accounts.map BillingAccount.id = first.accounts.map BillingAccount.id
  owners : ∀ account ∈ second.accounts, account.tenantId = tenantId
  trials : second.trials = first.trials.map (trials.written now)
  subscriptions : second.subscriptions = first.subscriptions.map (subscriptions.written now)
  resellers : ∀ id, id ∈ second.resellers.map ResellerAccount.id ↔
    id ∈ db.resellers.map ResellerAccount.id

theorem find_of_code {α : Type} {rs : List α} {code : α → String} {c : String}
    (there : c ∈ rs.map code) : ∃ r, rs.find? (fun r => code r = c) = some r := by
  obtain ⟨r, mine, same⟩ := mem_map.mp there
  exact Option.isSome_iff_exists.mp (find?_isSome.mpr ⟨r, mine, decide_eq_true same⟩)

theorem Booted.subscribed (booted : Booted now dto start state db) : state.subscriptions ≠ [] := by
  intro none
  by_cases empty : (loadState dto.tenantId start).subscriptions = []
  · obtain ⟨made, is⟩ := booted.made empty
    exact absurd (is.symm.trans none) (cons_ne_nil _ _)
  · exact empty ((booted.loaded empty).symm.trans none)

theorem bootstrap_again (later : Instant) (booted : Booted now dto start state db)
    (saved : Saved now dto.tenantId state db db') (kept : PlanKept dto start)
    (resolved : resolveTenantId context (some dto.tenantId) = .ok dto.tenantId) :
    ∃ second db'', bootstrap later context dto db' =
        .ok (mapBillingOverview later second dto.tenantId, db'') ∧
      Resumed now dto.tenantId state second db' ∧ CreatesNothing db' db'' := by
  have after := booted.begun.saved saved
  have fitting := booted.begun.fitting
  obtain ⟨account, isAccount⟩ := booted.accounts
  obtain ⟨trial, isTrial⟩ := booted.trials
  obtain ⟨loaded, isLoaded⟩ : ∃ loaded, loadState dto.tenantId db' = loaded := ⟨_, rfl⟩
  -- What the first run stored is what the second one loads.
  have accounts' : loaded.accounts = [accounts.written now account] := by
    rw [← isLoaded]
    exact (fitting.accounts.loaded_replace (fun _ => rfl)
      (fitting.accounts.replaced_iff.mp saved.accounts)).trans (by rw [isAccount]; rfl)
  have trials' : loaded.trials = state.trials.map (trials.written now) := by
    rw [← isLoaded]
    exact fitting.trials.loaded_replace (fun _ => rfl) (fitting.trials.replaced_iff.mp saved.trials)
  have subscriptions' : loaded.subscriptions =
      state.subscriptions.map (subscriptions.written now) := by
    rw [← isLoaded]
    exact fitting.subscriptions.loaded_replace (fun _ => rfl)
      (fitting.subscriptions.replaced_iff.mp saved.subscriptions)
  have planMirrors : plans.Mirrors loaded.plans db'.plans :=
    isLoaded ▸ CodeTable.mirrors_findMany
  have resellerMirrors : resellers.Mirrors loaded.resellers db'.resellers :=
    isLoaded ▸ CodeTable.mirrors_findMany
  -- So every step finds its record.
  obtain ⟨plan, planFound⟩ : ∃ plan, loaded.plans.find? (fun plan => plan.code = dto.planCode) =
      some plan := by
    obtain ⟨mine, there, same⟩ := mem_map.mp (booted.begun.kept kept).2
    refine find_of_code ((planMirrors.codes _).mpr ?_)
    exact same ▸ (fitting.plans.merged saved.plans).2 mine there
  have resellerFound : ∀ code ∈ resellerAsked dto, ∃ reseller,
      loaded.resellers.find? (fun reseller => reseller.code = code) = some reseller := by
    intro code asked
    obtain ⟨mine, there, same⟩ := mem_map.mp (booted.asked code asked)
    refine find_of_code ((resellerMirrors.codes _).mpr ?_)
    exact same ▸ (fitting.resellers.merged saved.resellers).2 mine there
  have trialFound : loaded.trials.find? (fun trial => trial.tenantId = dto.tenantId) =
      some (trials.written now trial) := by
    have own : trial.tenantId = dto.tenantId :=
      fitting.trials.own trial (isTrial ▸ mem_cons_self)
    rw [trials', isTrial]
    exact find?_cons_of_pos (decide_eq_true own)
  obtain ⟨subscription, there⟩ := exists_mem_of_ne_nil _ booted.subscribed
  obtain ⟨found, subscriptionFound⟩ : ∃ found, loaded.subscriptions.find?
      (fun subscription => subscription.tenantId = dto.tenantId) = some found := by
    refine Option.isSome_iff_exists.mp (find?_isSome.mpr
      ⟨subscriptions.written now subscription, ?_, ?_⟩)
    · rw [subscriptions']
      exact mem_map_of_mem there
    · exact decide_eq_true (fitting.subscriptions.own subscription there)
  obtain ⟨input, linked, db'', same, ran, fits, savedAgain⟩ := bootstrap_found later
    after.keys resolved isLoaded planFound accounts' trialFound subscriptionFound resellerFound
  have patched : plans.Mirrors
      (Rows.modify BillingPlan.id plan.id (input.patch later) loaded.plans) db'.plans :=
    planMirrors.modify (fun _ => rfl) (fun _ => rfl)
  refine ⟨_, db'', ran, ⟨patched.ids, ?_, fits.accounts.own, trials', subscriptions',
    resellerMirrors.ids⟩, ⟨?_, ?_, ?_, ?_, ?_⟩⟩
  · rw [isAccount]
    exact congrArg (fun id => [id]) same
  · exact fun id => ((patched.saved savedAgain.plans).ids id).symm.trans (patched.ids id)
  · refine fits.accounts.ids_saved BillingAccount.createdAt savedAgain.accounts ?_
    have stored : accounts.findMany BillingAccount.createdAt dto.tenantId db' =
        [accounts.written now account] := (congrArg BillingState.accounts isLoaded).trans accounts'
    rw [stored]
    exact congrArg (fun id => [id]) same
  · refine fits.trials.ids_saved TrialGrant.createdAt savedAgain.trials ?_
    exact congrArg (fun loaded => loaded.trials.map TrialGrant.id) isLoaded.symm
  · refine fits.subscriptions.ids_saved Subscription.createdAt savedAgain.subscriptions ?_
    exact congrArg (fun loaded => loaded.subscriptions.map Subscription.id) isLoaded.symm
  · exact fun id =>
      ((resellerMirrors.saved savedAgain.resellers).ids id).symm.trans (resellerMirrors.ids id)

/-! ### The two answers -/

theorem find_own {α : Type} {rs : List α} (owner : α → Id) (own : ∀ r ∈ rs, owner r = tenantId) :
    rs.find? (fun r => owner r = tenantId) = rs.head? := by
  cases rs with
  | nil => rfl
  | cons r rs => exact find?_cons_of_pos (decide_eq_true (own r mem_cons_self))

theorem filter_own {α : Type} {rs : List α} (owner : α → Id) (own : ∀ r ∈ rs, owner r = tenantId) :
    rs.filter (fun r => owner r = tenantId) = rs :=
  filter_eq_self.mpr fun r there => decide_eq_true (own r there)

theorem map_find_id {plans : List BillingPlan} :
    (plans.find? fun plan => plan.id = id).map BillingPlan.id =
      if id ∈ plans.map BillingPlan.id then some id else none := by
  cases found : plans.find? fun plan => plan.id = id with
  | some plan =>
    have same : plan.id = id := by simpa using find?_some found
    have there : id ∈ plans.map BillingPlan.id :=
      mem_map.mpr ⟨plan, mem_of_find?_eq_some found, same⟩
    rw [if_pos there, Option.map_some, same]
  | none =>
    rw [if_neg, Option.map_none]
    intro there
    obtain ⟨plan, mine, same⟩ := mem_map.mp there
    exact find?_eq_none.mp found plan mine (decide_eq_true same)

theorem activeSubscription_of_id (now : Instant) {rows : List Subscription}
    {a b : Option Subscription} (unique : subscriptions.Unique rows bound)
    (first : ∀ s ∈ a, s ∈ rows) (second : ∀ s ∈ b, ∃ r ∈ rows, s = subscriptions.written now r)
    (same : a.map Subscription.id = b.map Subscription.id) :
    a.map Subscription.planId = b.map Subscription.planId := by
  match a, b, same with
  | none, none, _ => rfl
  | some s, some s', same =>
    obtain ⟨r, there, rfl⟩ := second s' rfl
    have ids : s.id = r.id := Option.some.inj same
    by_cases differ : s = r
    · rw [differ]
      rfl
    · exact absurd ids (unique.apart.forall (first s rfl) there differ)

theorem rankedWithoutStamps_iff (booted : Booted now dto start state db) :
    RankedWithoutStamps dto.tenantId start ↔
      (activeSubscription (state.subscriptions.map (subscriptions.written now))).map
          Subscription.id =
        (activeSubscription state.subscriptions).map Subscription.id := by
  have ids (rows : List Subscription) :
      (activeSubscription (rows.map (subscriptions.written 0))).map Subscription.id =
        (activeSubscription (rows.map (subscriptions.written now))).map Subscription.id := by
    rw [activeSubscription_written now, Option.map_map]
    rfl
  by_cases empty : (loadState dto.tenantId start).subscriptions = []
  · obtain ⟨s, is⟩ := booted.made empty
    have none : subscriptions.findMany Subscription.createdAt dto.tenantId start = [] := empty
    rw [RankedWithoutStamps, none, is]
    simp [activeSubscription, subscriptions]
  · have loaded : subscriptions.findMany Subscription.createdAt dto.tenantId start =
        state.subscriptions := (booted.loaded empty).symm
    rw [RankedWithoutStamps, loaded, ids]

/-- The two answers name the same records when the subscription that ranks first does so without
the stamps. -/
theorem sameIdentities_iff (later : Instant) {second : BillingState}
    (booted : Booted now dto start state db)
    (saved : Saved now dto.tenantId state db db') (kept : PlanKept dto start)
    (resumed : Resumed now dto.tenantId state second db') :
    SameIdentities (mapBillingOverview now state dto.tenantId)
        (mapBillingOverview later second dto.tenantId) ↔
      RankedWithoutStamps dto.tenantId start := by
  have fitting := booted.begun.fitting
  have plansSame : ∀ id, id ∈ state.plans.map BillingPlan.id ↔
      id ∈ second.plans.map BillingPlan.id := fun id =>
    ((booted.begun.kept kept).1.ids_saved saved.plans id).trans (resumed.plans id).symm
  have isFirst : (mapBillingOverview now state dto.tenantId).activeSubscription =
      activeSubscription state.subscriptions := by
    show activeSubscription (state.subscriptions.filter _) = _
    rw [filter_own Subscription.tenantId fitting.subscriptions.own]
  have owned : ∀ s ∈ second.subscriptions, s.tenantId = dto.tenantId := by
    rw [resumed.subscriptions]
    exact forall_mem_map.mpr fitting.subscriptions.own
  have isSecond : (mapBillingOverview later second dto.tenantId).activeSubscription =
      activeSubscription (state.subscriptions.map (subscriptions.written now)) := by
    show activeSubscription (second.subscriptions.filter _) = _
    rw [filter_own Subscription.tenantId owned, resumed.subscriptions]
  rw [rankedWithoutStamps_iff booted, ← isFirst, ← isSecond]
  refine ⟨fun same => same.activeSubscription.symm, fun same => ?_⟩
  have planIds := activeSubscription_of_id now fitting.subscriptions.unique
    (a := activeSubscription state.subscriptions)
    (b := activeSubscription (state.subscriptions.map (subscriptions.written now)))
    (fun s active => activeSubscription_mem active)
    (fun s active => by
      obtain ⟨r, there, is⟩ := mem_map.mp (activeSubscription_mem active)
      exact ⟨r, there, is.symm⟩)
    (isFirst ▸ isSecond ▸ same.symm)
  refine ⟨?_, ?_, same.symm, ?_, plansSame, ?_, ?_, ?_, ?_⟩
  · show (state.accounts.find? _).map _ = (second.accounts.find? _).map _
    rw [find_own BillingAccount.tenantId fitting.accounts.own,
      find_own BillingAccount.tenantId resumed.owners, ← head?_map, ← head?_map,
      resumed.accounts]
  · obtain ⟨trial, isTrial⟩ := booted.trials
    have own := fitting.trials.own
    have owned' : ∀ t ∈ second.trials, t.tenantId = dto.tenantId := by
      rw [resumed.trials]
      exact forall_mem_map.mpr own
    show (((state.trials.filter _).insertionSort _).head?).map _ =
      (((second.trials.filter _).insertionSort _).head?).map _
    rw [filter_own TrialGrant.tenantId own, filter_own TrialGrant.tenantId owned', resumed.trials,
      isTrial]
    rfl
  · have plan {at' : Instant} {state : BillingState} {own : Subscription}
        (is : (mapBillingOverview at' state dto.tenantId).activeSubscription = some own) :
        (mapBillingOverview at' state dto.tenantId).activePlan =
          state.plans.find? fun plan => plan.id = own.planId := by
      simp only [mapBillingOverview] at is ⊢
      rw [is]
    obtain ⟨mine, active⟩ := activeSubscription_some booted.subscribed
    rw [active] at planIds isFirst
    obtain ⟨stored, activeStored, planId⟩ := Option.map_eq_some_iff.mp planIds.symm
    rw [activeStored] at isSecond
    rw [plan isFirst, plan isSecond, map_find_id, map_find_id, planId]
    simp only [plansSame]
  · intro id
    show id ∈ state.accounts.map _ ↔ id ∈ second.accounts.map _
    rw [resumed.accounts]
  · intro id
    show id ∈ state.subscriptions.map _ ↔ id ∈ second.subscriptions.map _
    rw [resumed.subscriptions, map_map]
    rfl
  · intro id
    show id ∈ state.trials.map _ ↔ id ∈ second.trials.map _
    rw [resumed.trials, map_map]
    rfl
  · intro id
    exact (booted.resellers.ids_saved saved.resellers id).trans (resumed.resellers id).symm

/-- A second bootstrap with the same request creates nothing and answers the same identities
exactly when the code of the plan is stored as it is given or is left alone by trimming, and the
stamps of the tenant's subscriptions do not decide which one ranks first. -/
theorem bootstrap_idempotent_iff {context : RequestContext} {first : BillingOverview}
    (keys : Keys start) (ran : bootstrap now context dto start = .ok (first, db')) :
    (∃ second db'', bootstrap later context dto db' = .ok (second, db'') ∧
        SameIdentities first second ∧ CreatesNothing db' db'') ↔
      PlanKept dto start ∧ RankedWithoutStamps dto.tenantId start := by
  have resolved : resolveTenantId context (some dto.tenantId) = .ok dto.tenantId := by
    obtain ⟨tenantId, _, asked, -⟩ := Tx.bind_ok_iff.mp ran
    have lifted := (Tx.lift_ok_iff.mp asked).1
    exact resolveTenantId_some lifted ▸ lifted
  obtain ⟨state, middle, booted, saved, rfl⟩ := bootstrap_booted keys ran
  have after := booted.begun.saved saved
  by_cases kept : PlanKept dto start
  · obtain ⟨second, db'', again, resumed, nothing⟩ :=
      bootstrap_again later booted saved kept resolved
    have same := sameIdentities_iff later booted saved kept resumed
    constructor
    · rintro ⟨answer, stored, run, identities, -⟩
      rw [again] at run
      obtain ⟨rfl, -⟩ := Prod.mk.inj (Except.ok.inj run)
      exact ⟨kept, same.mp identities⟩
    · exact fun ⟨_, ranked⟩ => ⟨_, db'', again, same.mpr ranked, nothing⟩
  · refine ⟨fun ⟨answer, stored, run, identities, _⟩ => ?_, fun h => absurd h.1 kept⟩
    have lost : ¬PlanKept dto db' := by
      rintro (found | trimmed)
      · exact (after.lost kept).2.2 found
      · exact kept (.inr trimmed)
    obtain ⟨second, _, bootedAgain, _, rfl⟩ := bootstrap_booted after.keys run
    obtain ⟨plan, made, id⟩ := (bootedAgain.begun.lost lost).1
    obtain ⟨mine, there, is⟩ := List.mem_map.mp
      ((identities.plans db'.nextId).mpr (List.mem_map.mpr ⟨plan, made, id⟩))
    have old : mine.id < middle.nextId := booted.begun.fitting.plansOld mine there
    rw [is, saved.nextId] at old
    exact absurd old (Nat.lt_irrefl _)

end

/-! ### A plan code with white space -/

def emptyBilling : BillingDb := ⟨[], [], [], [], [], [], [], [], 0⟩

def billingAdmin : RequestContext where
  userId := "admin"
  tenantId := some 7
  scope := .tenantMember
  storeIds := []
  deviceId := none

def starter (planCode : String) : BillingBootstrapDto where
  tenantId := 7
  planCode := planCode
  planName := "Starter"
  planPriceAmount := some 990
  currency := none
  intervalKey := none
  trialDays := none
  resellerCode := some "NORTH "
  resellerName := none

theorem emptyBilling_keys : Keys emptyBilling where
  plans := ⟨nodup_nil, nodup_nil, fun _ none => absurd none not_mem_nil⟩
  resellers := ⟨nodup_nil, nodup_nil, fun _ none => absurd none not_mem_nil⟩
  accounts := ⟨.nil, fun _ none => absurd none not_mem_nil⟩
  subscriptions := ⟨.nil, fun _ none => absurd none not_mem_nil⟩
  invoices := ⟨.nil, fun _ none => absurd none not_mem_nil⟩
  entitlements := ⟨.nil, fun _ none => absurd none not_mem_nil⟩
  quotas := ⟨.nil, fun _ none => absurd none not_mem_nil⟩
  trials := ⟨.nil, fun _ none => absurd none not_mem_nil⟩

def spacedOnce : BillingOverview × BillingDb :=
  (bootstrap 1000 billingAdmin (starter "STARTER ") emptyBilling).toOption.get (by decide +kernel)

def spacedTwice : BillingOverview × BillingDb :=
  (bootstrap 2000 billingAdmin (starter "STARTER ") spacedOnce.2).toOption.get (by decide +kernel)

/-- The second run lists a plan that the first one does not. -/
theorem spacedCode_not_idempotent :
    bootstrap 1000 billingAdmin (starter "STARTER ") emptyBilling = .ok spacedOnce ∧
      ¬∃ second db', bootstrap 2000 billingAdmin (starter "STARTER ") spacedOnce.2 =
          .ok (second, db') ∧
        SameIdentities spacedOnce.1 second ∧ CreatesNothing spacedOnce.2 db' := by
  refine ⟨eq_ok_get _, ?_⟩
  rintro ⟨second, db', ran, same, -⟩
  have again : bootstrap 2000 billingAdmin (starter "STARTER ") spacedOnce.2 = .ok spacedTwice := by
    unfold spacedTwice
    exact eq_ok_get _
  obtain rfl : spacedTwice.1 = second :=
    congrArg Prod.fst (Except.ok.inj (again.symm.trans ran))
  have listed : 5 ∈ spacedTwice.1.plans.map BillingPlan.id := by decide +kernel
  have unlisted : 5 ∉ spacedOnce.1.plans.map BillingPlan.id := by decide +kernel
  exact unlisted ((same.plans 5).mpr listed)

def trimmedOnce : BillingOverview × BillingDb :=
  (bootstrap 1000 billingAdmin (starter "STARTER") emptyBilling).toOption.get (by decide +kernel)

theorem trimmedCode_idempotent :
    bootstrap 1000 billingAdmin (starter "STARTER") emptyBilling = .ok trimmedOnce ∧
      ∃ second db', bootstrap 2000 billingAdmin (starter "STARTER") trimmedOnce.2 =
          .ok (second, db') ∧
        SameIdentities trimmedOnce.1 second ∧ CreatesNothing trimmedOnce.2 db' := by
  have ran : bootstrap 1000 billingAdmin (starter "STARTER") emptyBilling = .ok trimmedOnce :=
    eq_ok_get _
  refine ⟨ran, (bootstrap_idempotent_iff emptyBilling_keys ran).mpr ⟨.inr ?_, rfl⟩⟩
  decide +kernel

end Exetron.Billing
