import Mathlib.Algebra.Order.BigOperators.Group.List
import Mathlib.Algebra.Order.Group.Int
import Exetron.Payments.Deliveries
import Exetron.Payments.Tenancy

/-!
# The paid amount of an intent

`createIntent` takes any amounts that add up to the order's total. Where they are all positive
the paid amount stays between nothing and the total, and the total is reached with the last
allocation.
-/

namespace Exetron.Payments

open Lib List

variable {states : List AllocationState} {intentId : Id} {p p' q : PaymentTables}

def statesOf (p : PaymentTables) (intentId : Id) : List AllocationState :=
  (allocationsOf p intentId).map allocationState

def amountsOf (p : PaymentTables) (intentId : Id) : List Money :=
  (allocationsOf p intentId).map PaymentAllocation.amount

theorem completedAmount_nonneg (positive : ∀ s ∈ states, 0 < s.amount) :
    0 ≤ completedAmount states := by
  rw [completedAmount_eq_sum]
  refine sum_nonneg fun x listed => ?_
  obtain ⟨s, member, rfl⟩ := mem_map.mp listed
  rw [AllocationState.captured]
  split
  · exact le_of_lt (positive s member)
  · exact le_refl _

theorem completedAmount_add_open (states : List AllocationState) : completedAmount states +
        ((states.filter fun s => s.status ≠ .completed).map AllocationState.amount).sum =
      (states.map AllocationState.amount).sum := by
  rw [completedAmount_eq_sum]
  induction states with
  | nil => rfl
  | cons s rest ih =>
    by_cases done : s.status = .completed
    · rw [filter_cons_of_neg (by simp [done]), map_cons, sum_cons, map_cons,
        sum_cons, ← ih, AllocationState.captured, if_pos done]
      lia
    · rw [filter_cons_of_pos (by simp [done]), map_cons, sum_cons, map_cons,
        sum_cons, map_cons, sum_cons, ← ih, AllocationState.captured, if_neg done]
      lia

theorem completedAmount_le_sum (positive : ∀ s ∈ states, 0 < s.amount) :
    completedAmount states ≤ (states.map AllocationState.amount).sum := by
  have missing : 0 ≤
      ((states.filter fun s => s.status ≠ .completed).map AllocationState.amount).sum := by
    refine sum_nonneg fun x listed => ?_
    obtain ⟨s, member, rfl⟩ := mem_map.mp listed
    exact le_of_lt (positive s (mem_filter.mp member).1)
  have whole := completedAmount_add_open states
  lia

theorem completedAmount_eq_sum_iff (positive : ∀ s ∈ states, 0 < s.amount) :
    completedAmount states = (states.map AllocationState.amount).sum ↔
      ∀ s ∈ states, s.status = .completed := by
  have whole := completedAmount_add_open states
  constructor
  · intro reached s member
    by_contra unfinished
    have missing : 0 <
        ((states.filter fun s => s.status ≠ .completed).map AllocationState.amount).sum := by
      refine sum_pos _ (fun x listed => ?_) ?_
      · obtain ⟨t, open_, rfl⟩ := mem_map.mp listed
        exact positive t (mem_filter.mp open_).1
      · refine ne_nil_of_mem (mem_map_of_mem (mem_filter.mpr ⟨member, ?_⟩))
        exact decide_eq_true unfinished
    lia
  · intro all
    have none : states.filter (fun s => s.status ≠ .completed) = [] :=
      filter_eq_nil_iff.mpr fun s member => by simp [all s member]
    rw [none] at whole
    simpa using whole

/-- An intent is paid what is completed of it, is due what its allocations add up to, and, when
all of them are positive, is completed when the two agree. -/
structure Balanced (p : PaymentTables) (i : PaymentIntent) : Prop where
  paid : i.paidAmount = completedAmount (statesOf p i.id)
  total : i.totalAmount = (amountsOf p i.id).sum
  status : (∀ x ∈ amountsOf p i.id, 0 < x) → (i.status = .completed ↔ i.paidAmount = i.totalAmount)

def AllBalanced (p : PaymentTables) : Prop := ∀ i ∈ p.intents, Balanced p i

def OpensForSum : Movement → Prop
  | .opening intent allocations =>
    (allocations.map PaymentAllocation.amount).sum = intent.totalAmount
  | _ => True

theorem sum_newAllocations {tenantId : Id} {ids : List Id} {inputs : List PaymentAllocationInput}
    (same : ids.length = inputs.length) :
    (List.zipWith (newAllocation tenantId intentId) ids inputs).map PaymentAllocation.amount =
      inputs.map PaymentAllocationInput.amount := by
  induction ids generalizing inputs with
  | nil =>
    cases inputs with
    | nil => rfl
    | cons input inputs => cases same
  | cons id ids ih =>
    cases inputs with
    | nil => cases same
    | cons input inputs =>
      simp only [zipWith_cons_cons, map_cons, ih (Nat.succ.inj same)]
      rfl

theorem movement_opensForSum (db : Db) (r : Request) : OpensForSum (movement db r) := by
  obtain ⟨env, context, call⟩ := r
  cases call with
  | createIntent dto =>
    simp only [movement]
    cases admitted : admitIntent context dto db with
    | error e => trivial
    | ok a =>
      obtain ⟨_, _, total, _, _, sum, _⟩ := admitIntent_ok admitted
      show (map _ (zipWith _ _ _)).sum = a.totalAmount
      rw [sum_newAllocations (by simp), sum, total]
  | processAllocation intentId allocationId providerKey | cancelIntent intentId =>
    simp only [movement]
    split <;> trivial
  | createOperation dto =>
    simp only [movement]
    split <;> trivial
  | receiveWebhook providerKey dto =>
    simp only [movement]
    split
    · rename_i webhook delivery _
      cases delivery <;> trivial
    · trivial
  | _ => trivial

theorem amountsOf_patchAllocation (p : PaymentTables) (id intentId : Id) (f : AllocationPatch) :
    amountsOf (patchAllocation id f p) intentId = amountsOf p intentId := by
  have owner : ∀ a : PaymentAllocation,
      decide ((f.run a).paymentIntentId = intentId) = decide (a.paymentIntentId = intentId) :=
    fun a => by simp
  have kept : ∀ a, (f.run a).amount = a.amount := fun a => by simp
  simp only [amountsOf, allocationsOf, patchAllocation]
  rw [Rows.filter_modify (q := fun a : PaymentAllocation => decide (a.paymentIntentId = intentId))
    owner, Rows.map_modify kept]

theorem amountsOf_cancel (p : PaymentTables) (id intentId : Id) :
    amountsOf (cancel id p) intentId = amountsOf p intentId := by
  have owner : ∀ a : PaymentAllocation,
      decide ({ a with status := .cancelled }.paymentIntentId = intentId) =
        decide (a.paymentIntentId = intentId) := fun _ => rfl
  have kept : ∀ a : PaymentAllocation, { a with status := .cancelled }.amount = a.amount :=
    fun _ => rfl
  rw [amountsOf, allocationsOf, cancel, Rows.filter_updateWhere owner, Rows.map_updateWhere kept]
  rfl

theorem completedAmount_cancel (p : PaymentTables) (id intentId : Id) :
    completedAmount (statesOf (cancel id p) intentId) = completedAmount (statesOf p intentId) := by
  have owner : ∀ a : PaymentAllocation,
      decide ({ a with status := .cancelled }.paymentIntentId = intentId) =
        decide (a.paymentIntentId = intentId) := fun _ => rfl
  rw [completedAmount_eq_sum, completedAmount_eq_sum, statesOf, statesOf, allocationsOf, cancel,
    Rows.filter_updateWhere owner, Rows.updateWhere, map_map, map_map, map_map]
  refine congrArg sum (map_congr_left fun a _ => ?_)
  simp only [Function.comp, decide_eq_true_eq, allocationState, AllocationState.captured]
  split
  · rename_i open_
    have uncompleted : a.status ≠ .completed := by
      intro done
      simp [isOpenAllocation, done] at open_
    simp [uncompleted]
  · rfl

theorem Balanced.of_same {i : PaymentIntent} (h : Balanced p i)
    (completed : completedAmount (statesOf p' i.id) = completedAmount (statesOf p i.id))
    (amounts : amountsOf p' i.id = amountsOf p i.id) : Balanced p' i where
  paid := h.paid.trans completed.symm
  total := by rw [amounts, h.total]
  status := by
    rw [amounts]
    exact h.status

theorem statesOf_patch_other {id intentId' : Id} {f : AllocationPatch}
    (allocations : q.allocations = p.allocations)
    (owner : ∀ a ∈ p.allocations, a.id = id → a.paymentIntentId = intentId)
    (other : intentId' ≠ intentId) :
    statesOf (patchAllocation id f q) intentId' = statesOf p intentId' := by
  rw [statesOf, allocationStates_patch, statesWith_congr p allocations, statesWith_eq, statesOf]
  intro a stored mine same
  exact absurd (mine.symm.trans (owner a stored same)) other

theorem balanced_settled {id : Id} {f : AllocationPatch} (balanced : AllBalanced p)
    (intents : q.intents = p.intents) (allocations : q.allocations = p.allocations)
    (owner : ∀ a ∈ p.allocations, a.id = id → a.paymentIntentId = intentId) :
    AllBalanced (refresh intentId (patchAllocation id f q)) := by
  have amounts : ∀ i, amountsOf (patchAllocation id f q) i = amountsOf p i := by
    intro i
    rw [amountsOf_patchAllocation, amountsOf, amountsOf, allocationsOf, allocationsOf, allocations]
  intro i' member
  obtain ⟨i, stored, rfl⟩ := mem_refresh.mp member
  change i ∈ q.intents at stored
  rw [intents] at stored
  have before := balanced i stored
  split
  · refine ⟨resolvePaymentIntentState_paid, ?_, fun _ => ?_⟩
    · exact before.total.trans (congrArg sum (amounts i.id).symm)
    · show (resolvePaymentIntentState _ _).1 = .completed ↔ (resolvePaymentIntentState _ _).2 = _
      rw [resolvePaymentIntentState_paid]
      exact resolvePaymentIntentState_completed_iff
  · rename_i other
    refine before.of_same ?_ (amounts i.id)
    exact congrArg completedAmount (statesOf_patch_other allocations owner other)

theorem effect_balanced {n n' : Id} {m : Movement} (h : Effect p n m p' n')
    (consistent : Consistent p n) (opens : OpensForSum m) (balanced : AllBalanced p) :
    AllBalanced p' := by
  cases h with
  | record m events n' grows => exact fun i stored => (balanced i stored).of_same rfl rfl
  | @opening intent allocations intentId allocationIds owner pending nonempty status paid =>
    intro i stored
    rcases mem_append.mp stored with stored | new
    · have other : i.id ≠ intent.id := by
        rw [intentId]
        exact ne_of_lt (consistent.intent_lt stored)
      have same := allocationsOf_openIntent_old p owner other
      refine (balanced i stored).of_same ?_ ?_
      · rw [statesOf, same, statesOf]
      · rw [amountsOf, same, amountsOf]
    · rw [mem_singleton.mp new]
      have mine := allocationsOf_openIntent_new consistent intentId owner
      have nothing : completedAmount (statesOf (openIntent intent allocations p) intent.id) = 0 := by
        rw [statesOf, mine]
        refine completedAmount_eq_zero fun s listed => ?_
        obtain ⟨a, member, rfl⟩ := mem_map.mp listed
        simp [allocationState, pending a member]
      refine ⟨by rw [paid, nothing], ?_, fun positive => ?_⟩
      · rw [amountsOf, mine]
        exact opens.symm
      · have due : 0 < intent.totalAmount := by
          rw [amountsOf, mine] at positive
          rw [← show _ = intent.totalAmount from opens]
          exact sum_pos _ positive (by simpa using nonempty)
        simp [status, paid, ne_of_lt due]
  | @answer intent allocation outcome attempt f stored unclosed storedAllocation owner unsettled
      attemptId attemptAllocation attemptIntent attemptStatus status =>
    have owned : ∀ a ∈ p.allocations, a.id = allocation.id → a = allocation := fun a listed same =>
      consistent.allocation_eq listed storedAllocation same
    have owners : ∀ a ∈ p.allocations, a.id = allocation.id → a.paymentIntentId = intent.id :=
      fun a listed same => (owned a listed same).symm ▸ owner
    split
    · rename_i waiting
      -- nothing was captured of the allocation, and nothing is now
      intro i member
      refine (balanced i member).of_same ?_ (amountsOf_patchAllocation _ _ _ f)
      have same : (addAttempt attempt p).allocations = p.allocations := rfl
      rw [statesOf, allocationStates_patch, statesWith_congr p same, statesOf]
      refine completedAmount_statesWith fun a listed _ same => ?_
      rw [owned a listed same, status, waiting]
      simp [AllocationState.captured, allocationState, allocationStatusOf, unsettled.1]
    · exact balanced_settled (q := addAttempt attempt p) balanced rfl rfl owners
  | @cancellation intent stored notCompleted unpaid =>
    intro i' member
    obtain ⟨i, listed, rfl⟩ := mem_cancel.mp member
    have before := balanced i listed
    have after := before.of_same (completedAmount_cancel p intent.id i.id)
      (amountsOf_cancel p intent.id i.id)
    split
    · rename_i same
      refine ⟨after.paid, after.total, fun positive => ?_⟩
      obtain rfl := consistent.intent_eq listed stored same
      have open_ : i.paidAmount ≠ i.totalAmount := fun reached =>
        notCompleted ((after.status positive).mpr reached)
      simp [open_]
    · exact after
  | operation => exact fun i stored => (balanced i stored).of_same rfl rfl
  | @attemptDelivery attempt outcome f g events stored =>
    have settled : AllBalanced (refresh attempt.paymentIntentId
        (patchAllocation attempt.paymentAllocationId f (patchAttempt attempt.id g p))) :=
      balanced_settled balanced rfl rfl (consistent.owner_of_attempt stored)
    exact fun i member => (settled i member).of_same rfl rfl
  | operationDelivery => exact fun i stored => (balanced i stored).of_same rfl rfl

theorem allBalanced_run {db : Db} (init : Initial db) (rs : List Request) :
    AllBalanced (run db rs).payments := by
  have start : AllBalanced db.payments := by
    rw [init.payments]
    intro i stored
    cases stored
  refine ledger_invariant (C := fun _ m => OpensForSum m)
    (fun _ _ _ _ _ effect => effect_balanced effect) (initial_consistent init) start ?_
  exact Trace.along_mono (fun db r _ => movement_opensForSum db r) (Trace.along_true db rs)

/-- In every reachable state payment rows have keys and owners of their own, the tenant of the order
they are for, and an intent is paid what is completed of it and due what was allocated. -/
theorem payments_hold_together {db : Db} (init : Initial db) (rs : List Request) :
    Consistent (run db rs).payments (run db rs).nextId ∧ Tenanted (run db rs) ∧
      AllBalanced (run db rs).payments :=
  ⟨consistent_run init rs, tenanted_run init rs, allBalanced_run init rs⟩

theorem payments_hold_together_checkout :
    let db := run shop [cashierAt 1 (.checkout 50 {})]
    Consistent db.payments db.nextId ∧ Tenanted db ∧ AllBalanced db.payments :=
  payments_hold_together shop_initial _

def AmountsKept (p p' : PaymentTables) : Prop :=
  ∀ i ∈ p.intents, ∃ i' ∈ p'.intents, i'.id = i.id ∧ amountsOf p' i.id = amountsOf p i.id

theorem amountsKept_refl (p : PaymentTables) : AmountsKept p p := fun i stored => ⟨i, stored, rfl, rfl⟩

theorem AmountsKept.trans {r : PaymentTables} (h : AmountsKept p q) (h' : AmountsKept q r) :
    AmountsKept p r := by
  intro i stored
  obtain ⟨j, listed, same, amounts⟩ := h i stored
  obtain ⟨k, member, same', amounts'⟩ := h' j listed
  refine ⟨k, member, same'.trans same, ?_⟩
  rw [same] at amounts'
  exact amounts'.trans amounts

theorem amountsKept_refresh (intentId : Id) (id : Id) (f : AllocationPatch) :
    AmountsKept p (refresh intentId (patchAllocation id f p)) := by
  intro i stored
  refine ⟨_, mem_refresh.mpr ⟨i, stored, rfl⟩, ?_, amountsOf_patchAllocation p id i.id f⟩
  split <;> rfl

theorem effect_amountsKept {n n' : Id} {m : Movement} (h : Effect p n m p' n')
    (consistent : Consistent p n) : AmountsKept p p' := by
  cases h with
  | record m events n' grows => exact amountsKept_refl p
  | @opening intent allocations intentId allocationIds owner =>
    intro i stored
    refine ⟨i, mem_append_left _ stored, rfl, ?_⟩
    have other : i.id ≠ intent.id := by
      rw [intentId]
      exact ne_of_lt (consistent.intent_lt stored)
    rw [amountsOf, allocationsOf_openIntent_old p owner other, amountsOf]
  | @answer intent allocation outcome attempt f =>
    split
    · exact fun i stored => ⟨i, stored, rfl, amountsOf_patchAllocation p allocation.id i.id f⟩
    · exact amountsKept_refresh (p := addAttempt attempt p) intent.id allocation.id f
  | @cancellation intent =>
    intro i stored
    refine ⟨_, mem_cancel.mpr ⟨i, stored, rfl⟩, ?_, amountsOf_cancel p intent.id i.id⟩
    split <;> rfl
  | operation => exact amountsKept_refl p
  | @attemptDelivery attempt outcome f g =>
    exact amountsKept_refresh (p := patchAttempt attempt.id g p) attempt.paymentIntentId
      attempt.paymentAllocationId f
  | operationDelivery => exact amountsKept_refl p

/-- What a paid amount has to be. -/
structure PaidInBounds (p : PaymentTables) (i : PaymentIntent) : Prop where
  nonneg : 0 ≤ i.paidAmount
  bounded : i.paidAmount ≤ i.totalAmount
  completed_iff : i.status = .completed ↔ ∀ a ∈ allocationsOf p i.id, a.status = .completed

theorem Balanced.paidInBounds {i : PaymentIntent} (h : Balanced p i)
    (positive : ∀ x ∈ amountsOf p i.id, 0 < x) : PaidInBounds p i := by
  have amounts : (statesOf p i.id).map AllocationState.amount = amountsOf p i.id := by
    rw [statesOf, map_map]
    rfl
  have positive' : ∀ s ∈ statesOf p i.id, 0 < s.amount := fun s member =>
    positive s.amount (amounts ▸ mem_map_of_mem member)
  refine ⟨?_, ?_, ?_⟩
  · rw [h.paid]
    exact completedAmount_nonneg positive'
  · rw [h.paid, h.total, ← amounts]
    exact completedAmount_le_sum positive'
  · rw [h.status positive, h.paid, h.total, ← amounts, completedAmount_eq_sum_iff positive']
    simp only [statesOf, mem_map, forall_exists_index, and_imp, forall_apply_eq_imp_iff₂,
      allocationState]

/-- An intent opened with positive amounts only stays in bounds, whatever follows. -/
theorem paid_in_bounds {db : Db} (init : Initial db) (rs later : List Request) {r : Request}
    {dto : CreatePaymentIntentDto} {created : LoadedPaymentIntent} {m : Db}
    (call : r.call = .createIntent dto)
    (accepted : createIntentTx r.context dto (run db rs) = .ok (created, m))
    (positive : ∀ a ∈ dto.allocations, 0 < a.amount) :
    ∃ i ∈ (run db (rs ++ r :: later)).payments.intents, i.id = created.intent.id ∧
      PaidInBounds (run db (rs ++ r :: later)).payments i := by
  have stepped : step (run db rs) r = m := by
    simp only [step, call, createIntent, Call.transact_ok accepted]
  have consistent : Consistent m.payments m.nextId := by
    rw [← stepped]
    exact step_consistent (consistent_run init rs) r
  obtain ⟨a, logs, admitted, intent, allocations, after⟩ := createIntentTx_ok accepted
  obtain ⟨_, _, _, inputs, _⟩ := admitIntent_ok admitted
  have opened : created.intent ∈ m.payments.intents := by
    rw [after]
    exact List.mem_append_right _ (List.mem_singleton_self _)
  have amounts : amountsOf m.payments created.intent.id =
      dto.allocations.map PaymentAllocationInput.amount := by
    have mine : allocationsOf m.payments created.intent.id = created.allocations := by
      rw [after]
      refine allocationsOf_openIntent_new (consistent_run init rs) (by rw [intent]; rfl) ?_
      intro b listed
      rw [allocations] at listed
      obtain ⟨id, input, rfl⟩ := mem_newAllocations listed
      rw [intent]
      rfl
    rw [amountsOf, mine, allocations, sum_newAllocations (by simp), inputs]
  have kept : AmountsKept m.payments (run m later).payments :=
    ledger_related (C := fun _ _ => True) (P := fun _ => True) amountsKept_refl
      (fun _ _ _ => AmountsKept.trans) (fun _ _ _ _ _ _ _ _ => trivial)
      (fun _ _ _ _ _ effect consistent _ _ => effect_amountsKept effect consistent) consistent
      trivial (Trace.along_true m later)
  have final : run db (rs ++ r :: later) = run m later := by
    rw [run, Trace.run_append, Trace.run, ← run, stepped]
  have balanced := allBalanced_run init (rs ++ r :: later)
  rw [final] at balanced ⊢
  obtain ⟨i, stored, same, amounts'⟩ := kept created.intent opened
  refine ⟨i, stored, same, (balanced i stored).paidInBounds fun x listed => ?_⟩
  rw [same, amounts', amounts] at listed
  obtain ⟨input, member, rfl⟩ := List.mem_map.mp listed
  exact positive input member

def paidInParts (amounts : List Money) : Request :=
  cashierAt 2 (.createIntent
    { storeId := 2, orderId := 100, allocations := amounts.map fun amount => ⟨.cash, amount⟩ })

theorem paid_in_bounds_parts : ∃ created m, createIntentTx (paidInParts [400, 600]).context
        { storeId := 2, orderId := 100, allocations := [⟨.cash, 400⟩, ⟨.cash, 600⟩] }
        (run shop [cashierAt 1 (.checkout 50 {})]) = .ok (created, m) ∧
      ∃ i ∈ (run shop ([cashierAt 1 (.checkout 50 {})] ++ paidInParts [400, 600] ::
          [cashierAt 3 (.processAllocation 103 104 none)])).payments.intents,
        i.id = created.intent.id ∧
          PaidInBounds (run shop ([cashierAt 1 (.checkout 50 {})] ++ paidInParts [400, 600] ::
            [cashierAt 3 (.processAllocation 103 104 none)])).payments i := by
  have answered : ∃ answer, createIntentTx (paidInParts [400, 600]).context
      { storeId := 2, orderId := 100, allocations := [⟨.cash, 400⟩, ⟨.cash, 600⟩] }
      (run shop [cashierAt 1 (.checkout 50 {})]) = .ok answer :=
    exists_ok_of_toBool (by decide +kernel)
  obtain ⟨⟨created, m⟩, accepted⟩ := answered
  exact ⟨created, m, accepted, paid_in_bounds (r := paidInParts [400, 600]) shop_initial
    [cashierAt 1 (.checkout 50 {})] [cashierAt 3 (.processAllocation 103 104 none)] rfl accepted
    (by decide)⟩

/-- A negative part leaves more paid than due, and a part of nothing is never asked for. -/
theorem paidInParts_out_of_bounds : Initial shop ∧
      (∃ i ∈ (run shop [cashierAt 1 (.checkout 50 {}), paidInParts [-500, 1500],
          cashierAt 3 (.processAllocation 103 105 none)]).payments.intents,
        i.totalAmount < i.paidAmount) ∧
      ∃ i ∈ (run shop [cashierAt 1 (.checkout 50 {}), paidInParts [1000, 0],
          cashierAt 3 (.processAllocation 103 104 none)]).payments.intents,
        i.status = .completed ∧
          ∃ a ∈ allocationsOf (run shop [cashierAt 1 (.checkout 50 {}), paidInParts [1000, 0],
            cashierAt 3 (.processAllocation 103 104 none)]).payments i.id, a.status ≠ .completed :=
  ⟨shop_initial, by decide +kernel, by decide +kernel⟩

end Exetron.Payments
