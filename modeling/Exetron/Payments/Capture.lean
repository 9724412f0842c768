import Exetron.System

/-!
# One capture for an allocation

Every `processAllocation` opens an attempt of its own, and an earlier attempt may still be open
at its provider. An allocation is captured once when a success finds no other one, and a
cancelled allocation stays uncaptured when no delivery overwrites it.
-/

namespace Exetron.Payments

open Lib

def successesOf (p : PaymentTables) (allocationId : Id) : List PaymentAttempt :=
  p.attempts.filter fun t => t.paymentAllocationId = allocationId ∧ t.status = .succeeded

/-- A success finds no other success of its allocation, and no delivery finds its allocation
cancelled. -/
def CapturesOnce (p : PaymentTables) : Movement → Prop
  | .answer _ allocation .succeeded =>
    ∀ t ∈ p.attempts, t.paymentAllocationId = allocation.id → t.status ≠ .succeeded
  | .attemptDelivery attempt outcome =>
    (∀ a ∈ p.allocations, a.id = attempt.paymentAllocationId → a.status ≠ .cancelled) ∧
    (outcome = .succeeded → ∀ t ∈ p.attempts,
      t.paymentAllocationId = attempt.paymentAllocationId → t.status = .succeeded →
        t.id = attempt.id)
  | _ => True

instance (p : PaymentTables) : (m : Movement) → Decidable (CapturesOnce p m)
  | .answer _ _ .succeeded => inferInstanceAs (Decidable (∀ _ ∈ _, _ → _ ≠ _))
  | .attemptDelivery _ _ => inferInstanceAs (Decidable (_ ∧ (_ → ∀ _ ∈ _, _ → _ → _)))
  | .nothing | .opening _ _ | .answer _ _ .pending | .answer _ _ .failed | .cancellation _
  | .operation _ _ _ | .operationDelivery _ _ => isTrue trivial

def CapturedOnce (p : PaymentTables) : Prop :=
  ∀ s ∈ p.attempts, ∀ t ∈ p.attempts, s.paymentAllocationId = t.paymentAllocationId →
    s.status = .succeeded → t.status = .succeeded → s.id = t.id

theorem initial_capturedOnce {db : Db} (init : Initial db) : CapturedOnce db.payments := by
  rw [init.payments]
  intro s listed
  cases listed

theorem capturedOnce_addAttempt {p : PaymentTables} {attempt : PaymentAttempt}
    (once : CapturedOnce p) (first : attempt.status = .succeeded → ∀ t ∈ p.attempts,
      t.paymentAllocationId = attempt.paymentAllocationId → t.status ≠ .succeeded) :
    CapturedOnce (addAttempt attempt p) := by
  intro s hs t ht same successS successT
  rcases List.mem_append.mp hs with hs | hs <;> rcases List.mem_append.mp ht with ht | ht
  · exact once s hs t ht same successS successT
  · rw [List.mem_singleton.mp ht] at same successT
    exact absurd successS (first successT s hs same)
  · rw [List.mem_singleton.mp hs] at same successS
    exact absurd successT (first successS t ht same.symm)
  · rw [List.mem_singleton.mp hs, List.mem_singleton.mp ht]

theorem capturedOnce_patchAttempt {p : PaymentTables} {n : Id} {attempt : PaymentAttempt}
    {g : AttemptPatch} (once : CapturedOnce p) (consistent : Consistent p n)
    (stored : attempt ∈ p.attempts) (only : g.status = .succeeded → ∀ t ∈ p.attempts,
      t.paymentAllocationId = attempt.paymentAllocationId → t.status = .succeeded →
        t.id = attempt.id) : CapturedOnce (patchAttempt attempt.id g p) := by
  intro s' listedS t' listedT same successS successT
  obtain ⟨s, hs, rfl⟩ := Rows.mem_modify.mp listedS
  obtain ⟨t, ht, rfl⟩ := Rows.mem_modify.mp listedT
  by_cases mineS : s.id = attempt.id <;> by_cases mineT : t.id = attempt.id
  · simp only [if_pos, mineS, mineT, AttemptPatch.run_id]
  · simp only [if_pos mineS, if_neg mineT, AttemptPatch.run_status,
      AttemptPatch.run_paymentAllocationId] at same successS successT
    rw [consistent.attempt_eq hs stored mineS] at same
    exact absurd (only successS t ht same.symm successT) mineT
  · simp only [if_neg mineS, if_pos mineT, AttemptPatch.run_status,
      AttemptPatch.run_paymentAllocationId] at same successS successT
    rw [consistent.attempt_eq ht stored mineT] at same
    exact absurd (only successT s hs same successS) mineS
  · simp only [if_neg mineS, if_neg mineT] at same successS successT ⊢
    exact once s hs t ht same successS successT

theorem effect_capturedOnce {p p' : PaymentTables} {n n' : Id} {m : Movement}
    (h : Effect p n m p' n') (consistent : Consistent p n) (captures : CapturesOnce p m)
    (once : CapturedOnce p) : CapturedOnce p' := by
  cases h with
  | record m events n' grows => exact once
  | opening => exact once
  | @answer intent allocation outcome attempt f stored unclosed storedAllocation owner unsettled
      attemptId attemptAllocation attemptIntent attemptStatus status =>
    have added : CapturedOnce (addAttempt attempt p) := by
      refine capturedOnce_addAttempt once fun success t listed same => ?_
      rw [attemptStatus] at success
      rw [attemptAllocation] at same
      cases outcome with
      | succeeded => exact captures t listed same
      | pending => cases success
      | failed => cases success
    split <;> exact added
  | cancellation => exact once
  | operation => exact once
  | @attemptDelivery attempt outcome f g events stored attemptStatus status =>
    refine capturedOnce_patchAttempt once consistent stored fun success => captures.2 ?_
    rw [attemptStatus] at success
    cases outcome with
    | succeeded => rfl
    | failed => cases success
  | operationDelivery => exact once

/-- Cancelled allocations are cancelled later, and what is captured of them later was before. -/
structure CancelledKept (p p' : PaymentTables) : Prop where
  allocations : ∀ a ∈ p.allocations, a.status = .cancelled →
    ∃ a' ∈ p'.allocations, a'.id = a.id ∧ a'.status = .cancelled
  attempts : ∀ a ∈ p.allocations, a.status = .cancelled → ∀ t' ∈ p'.attempts,
    t'.paymentAllocationId = a.id → t'.status = .succeeded →
      ∃ t ∈ p.attempts, t.id = t'.id ∧ t.paymentAllocationId = a.id ∧ t.status = .succeeded

theorem cancelledKept_refl (p : PaymentTables) : CancelledKept p p where
  allocations a listed cancelled := ⟨a, listed, rfl, cancelled⟩
  attempts _ _ _ t listed owner success := ⟨t, listed, rfl, owner, success⟩

theorem CancelledKept.trans {p q r : PaymentTables} (h : CancelledKept p q)
    (h' : CancelledKept q r) : CancelledKept p r where
  allocations a listed cancelled := by
    obtain ⟨b, listed, same, cancelled⟩ := h.allocations a listed cancelled
    obtain ⟨c, listed, same', cancelled⟩ := h'.allocations b listed cancelled
    exact ⟨c, listed, same'.trans same, cancelled⟩
  attempts a listed cancelled t listedT owner success := by
    obtain ⟨b, listedB, same, cancelledB⟩ := h.allocations a listed cancelled
    obtain ⟨u, listedU, sameU, ownerU, successU⟩ :=
      h'.attempts b listedB cancelledB t listedT (owner.trans same.symm) success
    obtain ⟨v, listedV, sameV, ownerV, successV⟩ :=
      h.attempts a listed cancelled u listedU (ownerU.trans same) successU
    exact ⟨v, listedV, sameV.trans sameU, ownerV, successV⟩

theorem cancelled_kept_patch {p : PaymentTables} {id : Id} {f : AllocationPatch}
    (uncancelled : ∀ a ∈ p.allocations, a.id = id → a.status ≠ .cancelled) :
    ∀ a ∈ p.allocations, a.status = .cancelled →
      ∃ a' ∈ (patchAllocation id f p).allocations, a'.id = a.id ∧ a'.status = .cancelled := by
  intro a listed cancelled
  refine ⟨a, Rows.mem_modify.mpr ⟨a, listed, if_neg fun same => ?_⟩, rfl, cancelled⟩
  exact uncancelled a listed same cancelled

theorem effect_cancelledKept {p p' : PaymentTables} {n n' : Id} {m : Movement}
    (h : Effect p n m p' n') (consistent : Consistent p n) (captures : CapturesOnce p m) :
    CancelledKept p p' := by
  cases h with
  | record m events n' grows => exact ⟨(cancelledKept_refl p).1, (cancelledKept_refl p).2⟩
  | opening =>
    refine ⟨fun a listed cancelled => ?_, (cancelledKept_refl p).2⟩
    exact ⟨a, List.mem_append_left _ listed, rfl, cancelled⟩
  | @answer intent allocation outcome attempt f stored unclosed storedAllocation owner unsettled
      attemptId attemptAllocation =>
    have uncancelled : ∀ a ∈ p.allocations, a.id = allocation.id → a.status ≠ .cancelled := by
      intro a listed same
      rw [consistent.allocation_eq listed storedAllocation same]
      exact unsettled.2
    have kept : CancelledKept p (patchAllocation allocation.id f (addAttempt attempt p)) := by
      refine ⟨cancelled_kept_patch uncancelled, fun a listed cancelled t member mine success => ?_⟩
      rcases List.mem_append.mp member with member | new
      · exact ⟨t, member, rfl, mine, success⟩
      · rw [List.mem_singleton.mp new, attemptAllocation] at mine
        exact absurd cancelled (uncancelled a listed mine.symm)
    split
    · exact kept
    · exact ⟨kept.1, kept.2⟩
  | cancellation =>
    refine ⟨fun a listed cancelled => ?_, (cancelledKept_refl p).2⟩
    refine ⟨a, Rows.mem_updateWhere.mpr ⟨a, listed, if_neg ?_⟩, rfl, cancelled⟩
    simp [isOpenAllocation, cancelled]
  | operation => exact ⟨(cancelledKept_refl p).1, (cancelledKept_refl p).2⟩
  | @attemptDelivery attempt outcome f g events stored =>
    refine ⟨cancelled_kept_patch (p := patchAttempt attempt.id g p) captures.1, ?_⟩
    intro a listed cancelled t' member mine success
    obtain ⟨t, before, rfl⟩ := Rows.mem_modify.mp member
    by_cases same : t.id = attempt.id
    · simp only [if_pos same, AttemptPatch.run_paymentAllocationId] at mine
      rw [consistent.attempt_eq before stored same] at mine
      exact absurd cancelled (captures.1 a listed mine.symm)
    · simp only [if_neg same] at mine success ⊢
      exact ⟨t, before, rfl, mine, success⟩
  | operationDelivery => exact ⟨(cancelledKept_refl p).1, (cancelledKept_refl p).2⟩

/-- No allocation is captured twice at the end of a run, nor captured after a cancellation. -/
structure Captured (db : Db) (rs : List Request) : Prop where
  once : ∀ allocationId, (successesOf (run db rs).payments allocationId).length ≤ 1
  beforeCancellation : ∀ rs₁ rs₂, rs = rs₁ ++ rs₂ →
    ∀ a ∈ (run db rs₁).payments.allocations, a.status = .cancelled →
      ∀ t ∈ successesOf (run db rs).payments a.id,
        ∃ t₀ ∈ successesOf (run db rs₁).payments a.id, t₀.id = t.id

/-- In every run whose successes are the first of their allocation and whose deliveries find no
cancelled allocation, every allocation is captured at most once. -/
theorem captured_at_most_once {db : Db} {rs : List Request} (init : Initial db)
    (along : AlongLedger CapturesOnce db rs) : Captured db rs := by
  constructor
  · intro allocationId
    have once : CapturedOnce (run db rs).payments :=
      ledger_invariant (fun _ _ _ _ _ effect => effect_capturedOnce effect)
        (initial_consistent init) (initial_capturedOnce init) along
    have unique := (consistent_run init rs).attempt_ids
    refine Rows.length_filter_le_one unique fun s hs t ht successS successT => ?_
    obtain ⟨ownerS, successS⟩ := of_decide_eq_true successS
    obtain ⟨ownerT, successT⟩ := of_decide_eq_true successT
    exact once s hs t ht (ownerS.trans ownerT.symm) successS successT
  · rintro rs₁ rs₂ rfl a listed cancelled t member
    obtain ⟨member, success⟩ := List.mem_filter.mp member
    obtain ⟨owner, success⟩ := of_decide_eq_true success
    have kept : CancelledKept (run db rs₁).payments (run (run db rs₁) rs₂).payments :=
      ledger_related (P := fun _ => True) cancelledKept_refl (fun _ _ _ => CancelledKept.trans)
        (fun _ _ _ _ _ _ _ _ => trivial)
        (fun _ _ _ _ _ effect consistent _ => effect_cancelledKept effect consistent)
        (consistent_run init rs₁) trivial (Trace.along_append.mp along).2
    rw [run, Trace.run_append] at member
    obtain ⟨t₀, member, same, owner, success⟩ :=
      kept.attempts a listed cancelled t member owner success
    exact ⟨t₀, List.mem_filter.mpr ⟨member, decide_eq_true ⟨owner, success⟩⟩, same⟩

def doubleCapture : List Request :=
  [cashierAt 1 (.checkout 50 {}),
   cashierAt 2 (.createIntent { storeId := 2, orderId := 100, allocations := [⟨.card, 1000⟩] }),
   cashierAt 3 (.processAllocation 103 104 (some "terminal")),
   cashierAt 4 (.processAllocation 103 104 (some "terminal")),
   cashierAt 5 (terminalReports 3 "delivery-1" "SUCCEEDED"),
   cashierAt 6 (terminalReports 4 "delivery-2" "SUCCEEDED")]

theorem captured_at_most_once_delivered : Captured shop (doubleCapture.take 5) :=
  captured_at_most_once shop_initial (by decide +kernel)

theorem doubleCapture_two_successes :
    Initial shop ∧ (successesOf (run shop doubleCapture).payments 104).length = 2 :=
  ⟨shop_initial, by decide +kernel⟩

end Exetron.Payments
