import Mathlib.Algebra.BigOperators.Group.List.Basic
import Mathlib.Algebra.Group.Int.Defs
import Exetron.Types

/-!
# Payment runtime

`payment-runtime.util.ts`: the allocations an intent may be opened with, and the status and the
paid amount of an intent as its allocations give them.
-/

namespace Exetron.Payments

open List

structure PaymentAllocationInput where
  method : PaymentMethodKind
  amount : Money

/-- The amounts come with at most two decimals, so `toFixed(2)` keeps them. -/
def validatePaymentAllocations (allocations : List PaymentAllocationInput) (expectedTotal : Money) :
    Except ApiException (Money × List PaymentAllocationInput) := do
  rejectIf (allocations = []) (.badRequest "At least one payment allocation is required.")
  let total := (allocations.map PaymentAllocationInput.amount).sum
  rejectIf (total ≠ expectedTotal) (.badRequest "Payment allocations must match the order total.")
  pure (total, allocations)

theorem validatePaymentAllocations_ok {allocations normalized : List PaymentAllocationInput}
    {expectedTotal total : Money}
    (h : validatePaymentAllocations allocations expectedTotal = .ok (total, normalized)) :
    allocations ≠ [] ∧ total = expectedTotal ∧ normalized = allocations ∧
      (allocations.map PaymentAllocationInput.amount).sum = expectedTotal := by
  simp only [validatePaymentAllocations, except_bind_ok_iff, rejectIf_ok_iff, except_pure_ok_iff,
    Prod.mk.injEq, ne_eq, not_not] at h
  obtain ⟨_, nonempty, _, matches_total, rfl, rfl⟩ := h
  exact ⟨nonempty, matches_total, rfl, matches_total⟩

/-- What `resolvePaymentIntentState` reads of an allocation. -/
structure AllocationState where
  amount : Money
  status : PaymentAllocationStatus
  deriving DecidableEq

def completedAmount (allocations : List AllocationState) : Money :=
  allocations.foldl (fun sum a => if a.status ≠ .completed then sum else sum + a.amount) 0

def resolvePaymentIntentState (totalAmount : Money) (allocations : List AllocationState) :
    PaymentIntentStatus × Money :=
  let completed := completedAmount allocations
  let statuses := allocations.map AllocationState.status
  if completed = totalAmount then (.completed, completed)
  else if completed > 0 then (.partiallyPaid, completed)
  else if .pending ∈ statuses then (.pending, completed)
  else if .failed ∈ statuses then (.failed, completed)
  else if .cancelled ∈ statuses ∧ ∀ status ∈ statuses, status = .cancelled then
    (.cancelled, completed)
  else (.pending, completed)

def resolveDefaultProviderType : PaymentMethodKind → PaymentProviderType
  | .cash => .cashManual
  | .card => .cardSimulated
  | .qr => .qrSimulated

def resolveDefaultAutoConfirm (channel : OrderChannel) : Bool := channel = .kiosk

def AllocationState.captured (a : AllocationState) : Money :=
  if a.status = .completed then a.amount else 0

theorem completedAmount_eq_sum (allocations : List AllocationState) :
    completedAmount allocations = (allocations.map AllocationState.captured).sum := by
  have general : ∀ sum : Money,
      allocations.foldl (fun sum a => if a.status ≠ .completed then sum else sum + a.amount) sum =
        sum + (allocations.map AllocationState.captured).sum := by
    induction allocations with
    | nil => intro sum; simp
    | cons a rest ih =>
      intro sum
      rw [foldl_cons, ih, map_cons, sum_cons, AllocationState.captured]
      by_cases done : a.status = .completed
      · simp only [done, ne_eq, not_true_eq_false, if_false, if_true]
        lia
      · simp only [done, ne_eq, not_false_eq_true, if_true, if_false]
        lia
  rw [completedAmount, general 0, Int.zero_add]

variable {totalAmount : Money} {allocations : List AllocationState}

theorem resolvePaymentIntentState_paid :
    (resolvePaymentIntentState totalAmount allocations).2 = completedAmount allocations := by
  simp only [resolvePaymentIntentState]
  split_ifs <;> rfl

theorem resolvePaymentIntentState_completed_iff :
    (resolvePaymentIntentState totalAmount allocations).1 = .completed ↔
      completedAmount allocations = totalAmount := by
  simp only [resolvePaymentIntentState]
  split_ifs with h <;> simp [h]

theorem completedAmount_eq_zero (none : ∀ a ∈ allocations, a.status ≠ .completed) :
    completedAmount allocations = 0 := by
  rw [completedAmount_eq_sum]
  refine sum_eq_zero fun x listed => ?_
  obtain ⟨a, member, rfl⟩ := mem_map.mp listed
  exact if_neg (none a member)

theorem resolvePaymentIntentState_waiting {allocations' : List AllocationState}
    (same : completedAmount allocations' = completedAmount allocations)
    (waiting : ∃ a ∈ allocations', a.status = .pending)
    (unclosed : (resolvePaymentIntentState totalAmount allocations).1 = .pending ∨
      (resolvePaymentIntentState totalAmount allocations).1 = .partiallyPaid) :
    resolvePaymentIntentState totalAmount allocations' =
      resolvePaymentIntentState totalAmount allocations := by
  have listed : .pending ∈ allocations'.map AllocationState.status := mem_map.mpr waiting
  simp only [resolvePaymentIntentState, same, listed, if_true] at unclosed ⊢
  split_ifs at unclosed ⊢ <;> simp at unclosed <;> rfl

theorem resolvePaymentIntentState_pending (nonempty : allocations ≠ []) (due : totalAmount ≠ 0)
    (all : ∀ a ∈ allocations, a.status = .pending) :
    resolvePaymentIntentState totalAmount allocations = (.pending, 0) := by
  have nothing : completedAmount allocations = 0 :=
    completedAmount_eq_zero fun a member => by simp [all a member]
  obtain ⟨a, member⟩ := exists_mem_of_ne_nil _ nonempty
  have listed : .pending ∈ allocations.map AllocationState.status :=
    mem_map.mpr ⟨a, member, all a member⟩
  simp [resolvePaymentIntentState, nothing, due.symm, listed]

theorem resolvePaymentIntentState_cancelled (nonempty : allocations ≠ []) (due : totalAmount ≠ 0)
    (all : ∀ a ∈ allocations, a.status = .cancelled) :
    resolvePaymentIntentState totalAmount allocations = (.cancelled, 0) := by
  have nothing : completedAmount allocations = 0 :=
    completedAmount_eq_zero fun a member => by simp [all a member]
  have statuses : ∀ status ∈ allocations.map AllocationState.status, status = .cancelled := by
    intro status listed
    obtain ⟨a, member, rfl⟩ := mem_map.mp listed
    exact all a member
  obtain ⟨a, member⟩ := exists_mem_of_ne_nil _ nonempty
  have listed : .cancelled ∈ allocations.map AllocationState.status :=
    mem_map.mpr ⟨a, member, all a member⟩
  have noPending : .pending ∉ allocations.map AllocationState.status := fun h =>
    nomatch statuses _ h
  have noFailed : .failed ∉ allocations.map AllocationState.status := fun h =>
    nomatch statuses _ h
  simp only [resolvePaymentIntentState, nothing, due.symm, noPending, noFailed, listed, if_false,
    Int.lt_irrefl, gt_iff_lt, true_and]
  rw [if_pos statuses]

/-- The statuses that `createIntent` takes for an intent still in use. -/
def isActive (status : PaymentIntentStatus) : Prop :=
  status = .pending ∨ status = .partiallyPaid ∨ status = .completed

instance (status : PaymentIntentStatus) : Decidable (isActive status) :=
  inferInstanceAs (Decidable (_ ∨ _ ∨ _))

/-- An intent's allocations give it an active status unless nothing is captured, nothing is
pending, and what is left is a failure or nothing but cancellations. -/
theorem isActive_resolve_iff : isActive (resolvePaymentIntentState totalAmount allocations).1 ↔
      completedAmount allocations = totalAmount ∨ 0 < completedAmount allocations ∨
        (∃ a ∈ allocations, a.status = .pending) ∨
        ((∀ a ∈ allocations, a.status ≠ .failed) ∧
          ¬((∃ a ∈ allocations, a.status = .cancelled) ∧
            ∀ a ∈ allocations, a.status = .cancelled)) := by
  simp only [resolvePaymentIntentState, mem_map, gt_iff_lt]
  split_ifs with whole part pending failed cancelled
  · simp [isActive, whole]
  · simp [isActive, part]
  · simp [isActive, pending]
  · have dead : ¬isActive .failed := by decide
    obtain ⟨a, member, status⟩ := failed
    simp only [dead, whole, part, pending, false_or, false_iff, not_and_or]
    exact Or.inl fun h => h a member status
  · have dead : ¬isActive .cancelled := by decide
    simp only [mem_map, forall_exists_index, and_imp, forall_apply_eq_imp_iff₂] at cancelled
    simp only [dead, whole, part, pending, false_or, false_iff]
    exact fun h => h.2 cancelled
  · have active : isActive .pending := Or.inl rfl
    simp only [mem_map, forall_exists_index, and_imp, forall_apply_eq_imp_iff₂] at cancelled
    simp only [active, true_iff]
    refine Or.inr (Or.inr (Or.inr ⟨?_, cancelled⟩))
    intro a member status
    exact failed ⟨a, member, status⟩

end Exetron.Payments
