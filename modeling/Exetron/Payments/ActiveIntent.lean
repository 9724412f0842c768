import Exetron.System

/-!
# The active intent of an order

`createIntent` refuses a second active intent. An outcome that reaches a failed or cancelled
intent afterwards can make it active again beside its successor: without such revivals no order
ever has two active intents.
-/

namespace Exetron.Payments

open Lib

def activeIntentsOf (p : PaymentTables) (orderId : Id) : List PaymentIntent :=
  p.intents.filter fun i => i.orderId = orderId ∧ isActive i.status

def Exclusive (intents : List PaymentIntent) : Prop :=
  ∀ i ∈ intents, ∀ j ∈ intents, i.orderId = j.orderId → isActive i.status → isActive j.status →
    i.id = j.id

def StaysInactive (totalAmount : Money) (states : List AllocationState) : Prop :=
  completedAmount states ≠ totalAmount ∧ completedAmount states ≤ 0 ∧
    (∀ a ∈ states, a.status ≠ .pending) ∧ ∃ a ∈ states, a.status = .failed

/-- An outcome that reaches an inactive intent while another intent of its order is active
leaves it without money and without hope. -/
def NoRevival (p : PaymentTables) (m : Movement) : Prop :=
  ∀ s ∈ m.settlement, ∀ i ∈ p.intents, i.id = s.intentId → ¬isActive i.status →
    (∃ j ∈ p.intents, j.orderId = i.orderId ∧ isActive j.status) →
      StaysInactive i.totalAmount (statesWith p i.id s.allocationId s.status)

instance (totalAmount : Money) (states : List AllocationState) :
    Decidable (StaysInactive totalAmount states) :=
  inferInstanceAs (Decidable (_ ∧ _ ∧ _ ∧ _))

instance (p : PaymentTables) (m : Movement) : Decidable (NoRevival p m) :=
  inferInstanceAs (Decidable (∀ s ∈ m.settlement, ∀ i ∈ p.intents, _ → _ → _ → _))

theorem not_active_of_staysInactive {totalAmount : Money} {states : List AllocationState}
    (h : StaysInactive totalAmount states) :
    ¬isActive (resolvePaymentIntentState totalAmount states).1 := by
  obtain ⟨short, empty, noPending, a, member, failed⟩ := h
  intro active
  rcases isActive_resolve_iff.mp active with whole | part | ⟨b, listed, pending⟩ | ⟨noFailed, _⟩
  · exact short whole
  · exact absurd part (not_lt.mpr empty)
  · exact noPending b listed pending
  · exact noFailed a member failed

/-- Rewriting intents keeps the active ones apart when only one key can come back to life, and
then has no active intent beside it. -/
theorem exclusive_rewritten (id : Id) {rows rows' : List PaymentIntent} (exclusive : Exclusive rows)
    (rewritten : ∀ i' ∈ rows', ∃ i ∈ rows, i'.id = i.id ∧ i'.orderId = i.orderId ∧
      (isActive i'.status → isActive i.status ∨
        i.id = id ∧ ∀ j ∈ rows, j.orderId = i.orderId → ¬isActive j.status)) :
    Exclusive rows' := by
  intro i' hi' j' hj' sameOrder activeI activeJ
  obtain ⟨i, hi, idI, orderI, revivedI⟩ := rewritten i' hi'
  obtain ⟨j, hj, idJ, orderJ, revivedJ⟩ := rewritten j' hj'
  have same : i.orderId = j.orderId := orderI.symm.trans (sameOrder.trans orderJ)
  rw [idI, idJ]
  rcases revivedI activeI with wasI | ⟨keyI, aloneI⟩
  · rcases revivedJ activeJ with wasJ | ⟨_, aloneJ⟩
    · exact exclusive i hi j hj same wasI wasJ
    · exact absurd wasI (aloneJ i hi same)
  · rcases revivedJ activeJ with wasJ | ⟨keyJ, _⟩
    · exact absurd wasJ (aloneI j hj same.symm)
    · exact keyI.trans keyJ.symm

theorem exclusive_settled {p q : PaymentTables} {m : Movement} {s : Settlement} {f : AllocationPatch}
    (exclusive : Exclusive p.intents) (settles : m.settlement = some s) (noRevival : NoRevival p m)
    (intents : q.intents = p.intents) (allocations : q.allocations = p.allocations)
    (status : f.status = s.status) :
    Exclusive (refresh s.intentId (patchAllocation s.allocationId f q)).intents := by
  refine exclusive_rewritten s.intentId exclusive fun i' member => ?_
  obtain ⟨i, hi, rfl⟩ := mem_refresh.mp member
  change i ∈ q.intents at hi
  rw [intents] at hi
  refine ⟨i, hi, ?_⟩
  split
  · rename_i same
    refine ⟨rfl, rfl, fun active => ?_⟩
    by_cases was : isActive i.status
    · exact Or.inl was
    · refine Or.inr ⟨same, fun j hj sameOrder activeJ => ?_⟩
      have dead := noRevival s settles i hi same was ⟨j, hj, sameOrder, activeJ⟩
      have states : statesWith q i.id s.allocationId f.status =
          statesWith p i.id s.allocationId s.status := by
        simp only [statesWith, allocationsOf, allocations, status]
      simp only [refreshed, summaryOf_patchAllocation, states] at active
      exact not_active_of_staysInactive dead active
  · exact ⟨rfl, rfl, Or.inl⟩

theorem effect_exclusive {p p' : PaymentTables} {n n' : Id} {m : Movement}
    (h : Effect p n m p' n') (noRevival : NoRevival p m) (exclusive : Exclusive p.intents) :
    Exclusive p'.intents := by
  cases h with
  | record m events n' grows => exact exclusive
  | @opening intent allocations _ _ _ _ _ _ _ inactive =>
    intro i hi j hj sameOrder activeI activeJ
    rcases List.mem_append.mp hi with hi | hi <;> rcases List.mem_append.mp hj with hj | hj
    · exact exclusive i hi j hj sameOrder activeI activeJ
    · rw [List.mem_singleton.mp hj] at sameOrder
      exact absurd activeI (inactive i hi sameOrder)
    · rw [List.mem_singleton.mp hi] at sameOrder
      exact absurd activeJ (inactive j hj sameOrder.symm)
    · rw [List.mem_singleton.mp hi, List.mem_singleton.mp hj]
  | @answer intent allocation outcome attempt f stored unclosed storedAllocation owner unsettled
      attemptId attemptAllocation attemptIntent attemptStatus status =>
    cases outcome with
    | pending => exact exclusive
    | succeeded | failed => exact exclusive_settled exclusive rfl noRevival rfl rfl status
  | @cancellation intent =>
    refine exclusive_rewritten intent.id exclusive fun i' member => ?_
    obtain ⟨i, hi, rfl⟩ := mem_cancel.mp member
    refine ⟨i, hi, ?_⟩
    split
    · have dead : ¬isActive .cancelled := by decide
      exact ⟨rfl, rfl, fun active => absurd active dead⟩
    · exact ⟨rfl, rfl, Or.inl⟩
  | operation => exact exclusive
  | attemptDelivery events stored attemptStatus status =>
    exact exclusive_settled exclusive rfl noRevival rfl rfl status
  | operationDelivery => exact exclusive

theorem length_activeIntentsOf_le {p : PaymentTables} {n : Id} (consistent : Consistent p n)
    (exclusive : Exclusive p.intents) (orderId : Id) : (activeIntentsOf p orderId).length ≤ 1 := by
  refine Rows.length_filter_le_one consistent.intents_nodup fun i hi j hj activeI activeJ => ?_
  obtain ⟨orderI, activeI⟩ := of_decide_eq_true activeI
  obtain ⟨orderJ, activeJ⟩ := of_decide_eq_true activeJ
  exact exclusive i hi j hj (orderI.trans orderJ.symm) activeI activeJ

theorem initial_exclusive {db : Db} (init : Initial db) : Exclusive db.payments.intents := by
  rw [init.payments]
  intro i stored
  cases stored

/-- In every run without a revival, each order has at most one active intent. -/
theorem at_most_one_active_intent {db : Db} {rs : List Request} (init : Initial db)
    (along : AlongLedger NoRevival db rs) (orderId : Id) :
    (activeIntentsOf (run db rs).payments orderId).length ≤ 1 := by
  have exclusive : Exclusive (run db rs).payments.intents :=
    ledger_invariant (P := fun p => Exclusive p.intents)
      (fun _ _ _ _ _ effect _ => effect_exclusive effect) (initial_consistent init)
      (initial_exclusive init) along
  exact length_activeIntentsOf_le (consistent_run init rs) exclusive orderId

def revival : List Request :=
  [cashierAt 1 (.checkout 50 {}),
   cashierAt 2 (.createIntent { storeId := 2, orderId := 100, allocations := [⟨.card, 1000⟩] }),
   cashierAt 3 (.processAllocation 103 104 (some "reader")),
   cashierAt 4 (.createIntent { storeId := 2, orderId := 100, allocations := [⟨.card, 1000⟩] }),
   cashierAt 5 (.processAllocation 103 104 (some "terminal")),
   cashierAt 6 (terminalReports 5 "delivery-1" "SUCCEEDED")]

theorem at_most_one_active_intent_declined :
    (activeIntentsOf (run shop (revival.take 5)).payments 100).length ≤ 1 :=
  at_most_one_active_intent shop_initial (by decide +kernel) 100

theorem revival_two_active_intents :
    Initial shop ∧ ¬(activeIntentsOf (run shop revival).payments 100).length ≤ 1 :=
  ⟨shop_initial, by decide +kernel⟩

end Exetron.Payments
