import Exetron.System

/-!
# Closed allocations and intents

A completed or cancelled allocation, and a completed or cancelled intent, keep their status
under `processAllocation` and `cancelIntent`. `receiveWebhook` does not look at the status it
overwrites: they keep it under deliveries that find nothing closed to write anew.
-/

namespace Exetron.Payments

open Lib

variable {p q p' : PaymentTables} {id n' : Id} {f : AllocationPatch}

def allocationStatus (p : PaymentTables) (id : Id) : Option PaymentAllocationStatus :=
  (Rows.find PaymentAllocation.id p.allocations id).map PaymentAllocation.status

def intentStatus (p : PaymentTables) (id : Id) : Option PaymentIntentStatus :=
  (Rows.find PaymentIntent.id p.intents id).map PaymentIntent.status

def StatusesKept (p p' : PaymentTables) : Prop :=
  (∀ id, ∀ status ∈ [PaymentAllocationStatus.completed, .cancelled],
    allocationStatus p id = some status → allocationStatus p' id = some status) ∧
  ∀ id, ∀ status ∈ [PaymentIntentStatus.completed, .cancelled],
    intentStatus p id = some status → intentStatus p' id = some status

/-- A delivery for an attempt finds its intent and its allocation open, or repeats what they
say already. -/
def LeavesClosed (p : PaymentTables) : Movement → Prop
  | .attemptDelivery attempt outcome =>
    (∀ i ∈ p.intents, i.id = attempt.paymentIntentId → i.status ≠ .cancelled) ∧
    (∀ a ∈ p.allocations, a.id = attempt.paymentAllocationId →
      a.status ≠ .cancelled ∧ (a.status = .completed → outcome = .succeeded)) ∧
    ∀ i ∈ p.intents, i.id = attempt.paymentIntentId → i.status = .completed →
      ∀ a ∈ p.allocations, a.id = attempt.paymentAllocationId →
        outcome = .failed ∨ a.status = .completed ∨ a.amount = 0
  | _ => True

instance (p : PaymentTables) : (m : Movement) → Decidable (LeavesClosed p m)
  | .attemptDelivery _ _ => inferInstanceAs (Decidable (_ ∧ _ ∧ _))
  | .nothing | .opening _ _ | .answer _ _ _ | .cancellation _ | .operation _ _ _
  | .operationDelivery _ _ => isTrue trivial

def PaidInFull (p : PaymentTables) : Prop :=
  ∀ i ∈ p.intents, i.status = .completed → (summaryOf p i).1 = .completed

theorem paidInFull_settled {intentId : Id} (paid : PaidInFull p) (intents : q.intents = p.intents)
    (allocations : q.allocations = p.allocations)
    (owner : ∀ a ∈ p.allocations, a.id = id → a.paymentIntentId = intentId) :
    PaidInFull (refresh intentId (patchAllocation id f q)) := by
  intro i' member done
  obtain ⟨i, stored, rfl⟩ := mem_refresh.mp member
  change i ∈ q.intents at stored
  rw [intents] at stored
  split at done
  · simp only [if_pos, *]
    exact done
  · rename_i other
    simp only [other, if_false]
    have before := paid i stored done
    rw [← summaryOf_patch_other p allocations owner other] at before
    exact before

theorem initial_paidInFull {db : Db} (init : Initial db) : PaidInFull db.payments := by
  rw [init.payments]
  intro i stored
  cases stored

theorem effect_paidInFull {n : Id} {m : Movement} (h : Effect p n m p' n')
    (consistent : Consistent p n) (paid : PaidInFull p) : PaidInFull p' := by
  cases h with
  | record m events n' grows => exact paid
  | @opening intent allocations intentId allocationIds owner pending nonempty status =>
    intro i stored done
    rcases List.mem_append.mp stored with stored | new
    · have other : i.id ≠ intent.id := by
        rw [intentId]
        exact ne_of_lt (consistent.intent_lt stored)
      rw [summaryOf, allocationsOf_openIntent_old p owner other]
      exact paid i stored done
    · rw [List.mem_singleton.mp new, status] at done
      cases done
  | @answer intent allocation outcome attempt f stored unclosed storedAllocation owner =>
    have owned : ∀ a ∈ p.allocations, a.id = allocation.id → a.paymentIntentId = intent.id := by
      intro a listed same
      rw [consistent.allocation_eq listed storedAllocation same, owner]
    split
    · intro i listed done
      have other : i.id ≠ intent.id := by
        intro same
        rw [consistent.intent_eq listed stored same] at done
        exact unclosed.1 done
      rw [summaryOf_patch_other p (q := addAttempt attempt p) rfl owned other]
      exact paid i listed done
    · exact paidInFull_settled paid rfl rfl owned
  | @cancellation intent stored notCompleted unpaid =>
    intro i' member done
    obtain ⟨i, listed, rfl⟩ := mem_cancel.mp member
    split at done
    · cases done
    · rename_i other
      simp only [other, if_false]
      rw [summaryOf, allocationsOf_cancel_other p other]
      exact paid i listed done
  | operation => exact paid
  | @attemptDelivery attempt outcome f g events stored =>
    exact paidInFull_settled (p := p) (q := patchAttempt attempt.id g p) paid rfl rfl
      (consistent.owner_of_attempt stored)
  | operationDelivery => exact paid

/-- Every closed row is still there with its status. -/
structure ClosedKept (p p' : PaymentTables) : Prop where
  allocations : ∀ a ∈ p.allocations, a.status ∈ [.completed, .cancelled] →
    ∃ a' ∈ p'.allocations, a'.id = a.id ∧ a'.status = a.status
  intents : ∀ i ∈ p.intents, i.status ∈ [.completed, .cancelled] →
    ∃ i' ∈ p'.intents, i'.id = i.id ∧ i'.status = i.status

theorem closedKept_refl (p : PaymentTables) : ClosedKept p p where
  allocations a listed _ := ⟨a, listed, rfl, rfl⟩
  intents i listed _ := ⟨i, listed, rfl, rfl⟩

theorem ClosedKept.trans {r : PaymentTables} (h : ClosedKept p q) (h' : ClosedKept q r) :
    ClosedKept p r where
  allocations a listed closed := by
    obtain ⟨b, listed, id, status⟩ := h.allocations a listed closed
    obtain ⟨c, listed, id', status'⟩ := h'.allocations b listed (status ▸ closed)
    exact ⟨c, listed, id'.trans id, status'.trans status⟩
  intents i listed closed := by
    obtain ⟨j, listed, id, status⟩ := h.intents i listed closed
    obtain ⟨k, listed, id', status'⟩ := h'.intents j listed (status ▸ closed)
    exact ⟨k, listed, id'.trans id, status'.trans status⟩

theorem allocations_kept_patch
    (repeats : ∀ a ∈ p.allocations, a.id = id → a.status ∈ [.completed, .cancelled] →
      f.status = a.status) :
    ∀ a ∈ p.allocations, a.status ∈ [.completed, .cancelled] →
      ∃ a' ∈ (patchAllocation id f p).allocations, a'.id = a.id ∧ a'.status = a.status := by
  intro a listed closed
  refine ⟨_, Rows.mem_modify.mpr ⟨a, listed, rfl⟩, ?_⟩
  split
  · exact ⟨f.run_id a, (f.run_status a).trans (repeats a listed ‹_› closed)⟩
  · exact ⟨rfl, rfl⟩

theorem intents_kept_refresh
    (repeats : ∀ i ∈ p.intents, i.id = id → i.status ∈ [.completed, .cancelled] →
      (summaryOf p i).1 = i.status) :
    ∀ i ∈ p.intents, i.status ∈ [.completed, .cancelled] →
      ∃ i' ∈ (refresh id p).intents, i'.id = i.id ∧ i'.status = i.status := by
  intro i listed closed
  refine ⟨_, mem_refresh.mpr ⟨i, listed, rfl⟩, ?_⟩
  split
  · exact ⟨rfl, repeats i listed ‹_› closed⟩
  · exact ⟨rfl, rfl⟩

theorem closedKept_patch
    (allocation : ∀ a ∈ p.allocations, a.id = id → a.status ∈ [.completed, .cancelled] →
      f.status = a.status) : ClosedKept p (patchAllocation id f p) where
  allocations := allocations_kept_patch allocation
  intents i listed _ := ⟨i, listed, rfl, rfl⟩

/-- A settled allocation keeps what is closed when it finds its allocation and its intent open,
or repeats their statuses. -/
theorem closedKept_settled {intentId : Id} (intents : q.intents = p.intents)
    (allocations : q.allocations = p.allocations)
    (allocation : ∀ a ∈ p.allocations, a.id = id → a.status ∈ [.completed, .cancelled] →
      f.status = a.status)
    (intent : ∀ i ∈ p.intents, i.id = intentId → i.status ∈ [.completed, .cancelled] →
      (resolvePaymentIntentState i.totalAmount (statesWith p i.id id f.status)).1 = i.status) :
    ClosedKept p (refresh intentId (patchAllocation id f q)) where
  allocations := by
    rw [← allocations] at allocation ⊢
    exact allocations_kept_patch allocation
  intents := by
    rw [← intents] at intent ⊢
    refine intents_kept_refresh (p := patchAllocation id f q) fun i listed same closed => ?_
    rw [summaryOf_patchAllocation, statesWith_congr p allocations]
    exact intent i listed same closed

/-- A delivery captures nothing new when it fails on what is not completed, repeats a
completion, or completes an empty allocation. -/
theorem captured_repeated {a : PaymentAllocation} {outcome : WebhookOutcome}
    (completed : a.status = .completed → outcome = .succeeded)
    (nothing : outcome = .failed ∨ a.status = .completed ∨ a.amount = 0) :
    AllocationState.captured ⟨a.amount, allocationStatusOfDelivery outcome⟩ =
      (allocationState a).captured := by
  rcases nothing with rfl | done | empty
  · have undone : a.status ≠ .completed := fun done => nomatch completed done
    simp [AllocationState.captured, allocationState, allocationStatusOfDelivery, undone]
  · simp [AllocationState.captured, allocationState, allocationStatusOfDelivery, done,
      completed done]
  · simp [AllocationState.captured, allocationState, empty]

theorem effect_closedKept {n : Id} {m : Movement} (h : Effect p n m p' n')
    (consistent : Consistent p n) (paid : PaidInFull p) (leaves : LeavesClosed p m) :
    ClosedKept p p' := by
  cases h with
  | record m events n' grows => exact ⟨(closedKept_refl p).1, (closedKept_refl p).2⟩
  | opening =>
    exact
      { allocations := fun a listed _ => ⟨a, List.mem_append_left _ listed, rfl, rfl⟩
        intents := fun i listed _ => ⟨i, List.mem_append_left _ listed, rfl, rfl⟩ }
  | @answer intent allocation outcome attempt f stored unclosed storedAllocation owner unsettled =>
    have open_ : ∀ a ∈ p.allocations, a.id = allocation.id →
        a.status ∈ [.completed, .cancelled] → f.status = a.status := by
      intro a listed same closed
      rw [consistent.allocation_eq listed storedAllocation same] at closed
      simp [unsettled] at closed
    split
    · have kept := closedKept_patch open_
      exact ⟨kept.1, kept.2⟩
    · refine closedKept_settled (p := p) (q := addAttempt attempt p) rfl rfl open_ ?_
      intro i listed same closed
      rw [consistent.intent_eq listed stored same] at closed
      simp [unclosed] at closed
  | @cancellation intent stored notCompleted unpaid =>
    refine { allocations := fun a listed closed => ?_, intents := fun i listed closed => ?_ }
    · refine ⟨a, Rows.mem_updateWhere.mpr ⟨a, listed, if_neg ?_⟩, rfl, rfl⟩
      rcases List.mem_pair.mp closed with done | done <;> simp [isOpenAllocation, done]
    · refine ⟨_, mem_cancel.mpr ⟨i, listed, rfl⟩, ?_⟩
      split
      · rename_i same
        rw [consistent.intent_eq listed stored same] at closed ⊢
        rcases List.mem_pair.mp closed with done | done
        · exact absurd done notCompleted
        · exact ⟨rfl, done.symm⟩
      · exact ⟨rfl, rfl⟩
  | operation => exact ⟨(closedKept_refl p).1, (closedKept_refl p).2⟩
  | @attemptDelivery attempt outcome f g events stored attemptStatus status =>
    obtain ⟨intentOpen, allocationOpen, stays⟩ := leaves
    have kept : ClosedKept p (refresh attempt.paymentIntentId
        (patchAllocation attempt.paymentAllocationId f (patchAttempt attempt.id g p))) := by
      refine closedKept_settled rfl rfl ?_ ?_
      · intro b listed same closed
        obtain ⟨uncancelled, repeats⟩ := allocationOpen b listed same
        rcases List.mem_pair.mp closed with done | cancelled
        · rw [status, repeats done, done]
          rfl
        · exact absurd cancelled uncancelled
      · intro i listed same closed
        rcases List.mem_pair.mp closed with done | cancelled
        · have full := resolvePaymentIntentState_completed_iff.mp (paid i listed done)
          rw [done, resolvePaymentIntentState_completed_iff, status, ← full]
          refine completedAmount_statesWith fun b listed' _ same' => ?_
          exact captured_repeated (allocationOpen b listed' same').2
            (stays i listed same done b listed' same')
        · exact absurd cancelled (intentOpen i listed same)
    exact ⟨kept.1, kept.2⟩
  | operationDelivery => exact ⟨(closedKept_refl p).1, (closedKept_refl p).2⟩

theorem statusesKept_of_closedKept (consistent : Consistent p' n') (kept : ClosedKept p p') :
    StatusesKept p p' := by
  constructor
  · intro id status closed before
    obtain ⟨a, found, rfl⟩ := Option.map_eq_some_iff.mp before
    obtain ⟨listed, rfl⟩ := Rows.find_some found
    obtain ⟨a', listed', same, status'⟩ := kept.allocations a listed closed
    rw [allocationStatus, ← same, Rows.find_of_mem consistent.allocation_ids listed', Option.map_some, status']
  · intro id status closed before
    obtain ⟨i, found, rfl⟩ := Option.map_eq_some_iff.mp before
    obtain ⟨listed, rfl⟩ := Rows.find_some found
    obtain ⟨i', listed', same, status'⟩ := kept.intents i listed closed
    rw [intentStatus, ← same, Rows.find_of_mem consistent.intents_nodup listed', Option.map_some,
      status']

/-- In every run whose deliveries leave closed rows alone, completed and cancelled allocations
and intents keep their status, from any reachable state on. -/
theorem closed_absorbing {db : Db} {rs rs' : List Request} (init : Initial db)
    (along : AlongLedger LeavesClosed (run db rs) rs') :
    StatusesKept (run db rs).payments (run (run db rs) rs').payments := by
  have paid : PaidInFull (run db rs).payments :=
    ledger_invariant (C := fun _ _ => True)
      (fun _ _ _ _ _ effect consistent _ => effect_paidInFull effect consistent)
      (initial_consistent init) (initial_paidInFull init) (Trace.along_true _ _)
  have reached := consistent_run init rs
  have kept : ClosedKept (run db rs).payments (run (run db rs) rs').payments :=
    ledger_related closedKept_refl (fun _ _ _ => ClosedKept.trans)
      (fun _ _ _ _ _ effect consistent => effect_paidInFull effect consistent)
      (fun _ _ _ _ _ effect consistent => effect_closedKept effect consistent) reached paid along
  have later := consistent_run init (rs ++ rs')
  rw [run, Trace.run_append] at later
  exact statusesKept_of_closedKept later kept

def lateFailure : List Request :=
  [cashierAt 1 (.checkout 50 {}),
   cashierAt 2 (.createIntent { storeId := 2, orderId := 100, allocations := [⟨.card, 1000⟩] }),
   cashierAt 3 (.processAllocation 103 104 (some "terminal")),
   cashierAt 4 (terminalReports 3 "delivery-1" "SUCCEEDED"),
   cashierAt 5 (terminalReports 3 "delivery-2" "FAILED")]

theorem closed_absorbing_success : StatusesKept (run shop (lateFailure.take 3)).payments
      (run (run shop (lateFailure.take 3)) [lateFailure[3]]).payments :=
  closed_absorbing shop_initial (by decide +kernel)

theorem lateFailure_reopens :
    Initial shop ∧ allocationStatus (run shop (lateFailure.take 4)).payments 104 = some .completed ∧
      intentStatus (run shop (lateFailure.take 4)).payments 103 = some .completed ∧
      allocationStatus (run shop lateFailure).payments 104 = some .failed ∧
      intentStatus (run shop lateFailure).payments 103 = some .failed :=
  ⟨shop_initial, by decide +kernel⟩

end Exetron.Payments
