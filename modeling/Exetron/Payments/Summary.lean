import Exetron.System

/-!
# The summary of an intent

An intent keeps the status and the paid amount that `resolvePaymentIntentState` gives its
allocations. A settled outcome refreshes them; a pending answer and a cancellation do not.
-/

namespace Exetron.Payments

open Lib

variable {p : PaymentTables} {n : Id} {intent : PaymentIntent}

def Summarised (p : PaymentTables) : Prop :=
  ∀ i ∈ p.intents, (i.status, i.paidAmount) =
    resolvePaymentIntentState i.totalAmount ((allocationsOf p i.id).map allocationState)

/-- Something is due when an intent is opened, no failed intent is left waiting, and an intent
is cancelled with nothing completed. -/
def KeepsSummary (p : PaymentTables) : Movement → Prop
  | .opening intent _ => intent.totalAmount ≠ 0
  | .answer intent _ .pending => intent.status ≠ .failed
  | .cancellation intent => ∀ a ∈ allocationsOf p intent.id, a.status ≠ .completed
  | _ => True

instance (p : PaymentTables) : (m : Movement) → Decidable (KeepsSummary p m)
  | .opening _ _ => inferInstanceAs (Decidable (_ ≠ _))
  | .answer _ _ .pending => inferInstanceAs (Decidable (_ ≠ _))
  | .cancellation _ => inferInstanceAs (Decidable (∀ _ ∈ _, _ ≠ _))
  | .nothing | .answer _ _ .succeeded | .answer _ _ .failed | .operation _ _ _
  | .attemptDelivery _ _ | .operationDelivery _ _ => isTrue trivial

theorem initial_summarised {db : Db} (init : Initial db) : Summarised db.payments := by
  rw [init.payments]
  intro i stored
  cases stored

theorem summarised_openIntent {allocations : List PaymentAllocation} (summarised : Summarised p)
    (consistent : Consistent p n) (intentId : intent.id = n)
    (owner : ∀ a ∈ allocations, a.paymentIntentId = intent.id)
    (pending : ∀ a ∈ allocations, a.status = .pending) (nonempty : allocations ≠ [])
    (status : intent.status = .pending) (paid : intent.paidAmount = 0)
    (due : intent.totalAmount ≠ 0) : Summarised (openIntent intent allocations p) := by
  intro i stored
  rcases List.mem_append.mp stored with stored | new
  · have other : i.id ≠ intent.id := by
      rw [intentId]
      exact ne_of_lt (consistent.intent_lt stored)
    rw [allocationsOf_openIntent_old p owner other]
    exact summarised i stored
  · rw [List.mem_singleton.mp new, allocationsOf_openIntent_new consistent intentId owner, status,
      paid]
    refine (resolvePaymentIntentState_pending (by simpa using nonempty) due ?_).symm
    intro state listed
    obtain ⟨a, member, rfl⟩ := List.mem_map.mp listed
    exact pending a member

theorem summarised_settled {q : PaymentTables} {intentId id : Id} {f : AllocationPatch}
    (summarised : Summarised p) (intents : q.intents = p.intents)
    (allocations : q.allocations = p.allocations)
    (owner : ∀ a ∈ p.allocations, a.id = id → a.paymentIntentId = intentId) :
    Summarised (refresh intentId (patchAllocation id f q)) := by
  intro i' member
  obtain ⟨i, stored, rfl⟩ := mem_refresh.mp member
  change i ∈ q.intents at stored
  rw [intents] at stored
  split
  · rfl
  · rename_i other
    have before := summarised i stored
    change _ = summaryOf p i at before
    rw [← summaryOf_patch_other p allocations owner other] at before
    exact before

/-- A pending answer leaves an open intent as it is; so does its allocations' state. -/
theorem summarised_waiting {q : PaymentTables} {allocation : PaymentAllocation}
    {f : AllocationPatch} (summarised : Summarised p) (consistent : Consistent p n)
    (intents : q.intents = p.intents) (allocations : q.allocations = p.allocations)
    (stored : intent ∈ p.intents)
    (unclosed : intent.status = .pending ∨ intent.status = .partiallyPaid)
    (storedAllocation : allocation ∈ p.allocations) (owner : allocation.paymentIntentId = intent.id)
    (uncompleted : allocation.status ≠ .completed) (status : f.status = .pending) :
    Summarised (patchAllocation allocation.id f q) := by
  intro i member
  change i ∈ q.intents at member
  rw [intents] at member
  have owned : ∀ a ∈ p.allocations, a.id = allocation.id → a = allocation := fun a listed same =>
    consistent.allocation_eq listed storedAllocation same
  by_cases same : i.id = intent.id
  · obtain rfl := consistent.intent_eq member stored same
    have before := summarised i stored
    rw [allocationStates_patch, statesWith_congr p allocations, status, before]
    refine (resolvePaymentIntentState_waiting ?_ ?_ ?_).symm
    · refine completedAmount_statesWith fun a listed _ same => ?_
      rw [owned a listed same]
      simp [AllocationState.captured, allocationState, uncompleted]
    · refine ⟨⟨allocation.amount, .pending⟩, ?_, rfl⟩
      refine List.mem_map.mpr ⟨allocation, List.mem_filter.mpr ⟨storedAllocation, ?_⟩, by simp⟩
      exact decide_eq_true owner
    · rw [← before]
      exact unclosed
  · have before := summarised i member
    change _ = summaryOf p i at before
    rw [← summaryOf_patch_other p allocations
      (fun a listed same => (owned a listed same) ▸ owner) same] at before
    exact before

theorem summarised_cancel (summarised : Summarised p) (consistent : Consistent p n)
    (stored : intent ∈ p.intents) (notCompleted : intent.status ≠ .completed)
    (unpaid : intent.paidAmount = 0)
    (uncaptured : ∀ a ∈ allocationsOf p intent.id, a.status ≠ .completed) :
    Summarised (cancel intent.id p) := by
  intro i' member
  obtain ⟨i, listed, rfl⟩ := mem_cancel.mp member
  split
  · rename_i same
    obtain rfl := consistent.intent_eq listed stored same
    have due : i.totalAmount ≠ 0 := by
      intro free
      have nothing : completedAmount ((allocationsOf p i.id).map allocationState) = 0 := by
        refine completedAmount_eq_zero fun state listed => ?_
        obtain ⟨a, mine, rfl⟩ := List.mem_map.mp listed
        exact uncaptured a mine
      have done : (summaryOf p i).1 = .completed :=
        resolvePaymentIntentState_completed_iff.mpr (nothing.trans free.symm)
      rw [summaryOf, ← summarised i stored] at done
      exact notCompleted done
    have consistent' : Consistent (cancel i.id p) n := by
      unfold Consistent
      rw [keysOf_cancel]
      exact consistent
    have nonempty : allocationsOf (cancel i.id p) i.id ≠ [] := by
      obtain ⟨a, mine, owner⟩ := consistent'.allocation_of_intent member
      rw [if_pos rfl] at owner
      exact List.ne_nil_of_mem (List.mem_filter.mpr ⟨mine, decide_eq_true owner⟩)
    simp only [unpaid]
    refine (resolvePaymentIntentState_cancelled (by simpa using nonempty) due ?_).symm
    intro state listed
    obtain ⟨a, mine, rfl⟩ := List.mem_map.mp listed
    rcases allocationsOf_cancel_self p i.id a mine with cancelled | ⟨before, closed⟩
    · exact cancelled
    · have uncompleted := uncaptured a before
      simp only [allocationState]
      cases status : a.status <;> simp [isOpenAllocation, status] at closed uncompleted ⊢
  · rename_i other
    rw [allocationsOf_cancel_other p other]
    exact summarised i listed

theorem effect_summarised {p' : PaymentTables} {n' : Id} {m : Movement} (h : Effect p n m p' n')
    (consistent : Consistent p n) (keeps : KeepsSummary p m) (summarised : Summarised p) :
    Summarised p' := by
  cases h with
  | record m events n' grows => exact summarised
  | opening intentId allocationIds owner pending nonempty status paid =>
    exact summarised_openIntent summarised consistent intentId owner pending nonempty status paid
      keeps
  | @answer intent allocation outcome attempt f stored unclosed storedAllocation owner unsettled
      attemptId attemptAllocation attemptIntent attemptStatus status =>
    have owned : ∀ a ∈ p.allocations, a.id = allocation.id → a.paymentIntentId = intent.id := by
      intro a listed same
      rw [consistent.allocation_eq listed storedAllocation same, owner]
    cases outcome with
    | pending =>
      have waiting : intent.status = .pending ∨ intent.status = .partiallyPaid := by
        have unfailed : intent.status ≠ .failed := keeps
        cases was : intent.status <;> simp [was] at unclosed unfailed ⊢
      exact summarised_waiting (q := addAttempt attempt p) summarised consistent rfl rfl stored
        waiting storedAllocation owner unsettled.1 status
    | succeeded | failed =>
      exact summarised_settled (q := addAttempt attempt p) summarised rfl rfl owned
  | cancellation stored notCompleted unpaid =>
    exact summarised_cancel summarised consistent stored notCompleted unpaid keeps
  | operation => exact summarised
  | @attemptDelivery attempt outcome f g events stored =>
    exact summarised_settled (q := patchAttempt attempt.id g p) summarised rfl rfl
      (consistent.owner_of_attempt stored)
  | operationDelivery => exact summarised

/-- In every run whose steps keep the summary, every intent shows what its allocations give. -/
theorem intents_summarised {db : Db} {rs : List Request} (init : Initial db)
    (along : AlongLedger KeepsSummary db rs) : Summarised (run db rs).payments :=
  ledger_invariant (fun _ _ _ _ _ effect => effect_summarised effect) (initial_consistent init)
    (initial_summarised init) along

def waitingRetry : List Request :=
  [cashierAt 1 (.checkout 50 {}),
   cashierAt 2 (.createIntent { storeId := 2, orderId := 100, allocations := [⟨.card, 1000⟩] }),
   cashierAt 3 (.processAllocation 103 104 (some "reader")),
   cashierAt 4 (.processAllocation 103 104 (some "terminal"))]

theorem intents_summarised_declined : Summarised (run shop (waitingRetry.take 3)).payments :=
  intents_summarised shop_initial (by decide +kernel)

theorem waitingRetry_unsummarised :
    Initial shop ∧ ¬Summarised (run shop waitingRetry).payments := by
  refine ⟨shop_initial, fun summarised => ?_⟩
  have shown : ∃ i ∈ (run shop waitingRetry).payments.intents, i.status = .failed ∧
      (resolvePaymentIntentState i.totalAmount
        ((allocationsOf (run shop waitingRetry).payments i.id).map allocationState)).1 =
          .pending := by
    decide +kernel
  obtain ⟨i, stored, failed, pending⟩ := shown
  rw [← summarised i stored, failed] at pending
  cases pending

end Exetron.Payments
