import Exetron.System

/-!
# Refunds and voids

`createOperation` asks neither for a completed allocation nor for an amount that is left to
refund. The refunds of an allocation stay within what was captured when every operation asks
for a positive amount that is left, and when deliveries take no captured money away.
-/

namespace Exetron.Payments

open Lib

variable {p : PaymentTables} {n : Id} {operation : PaymentOperation}

def isLive (status : PaymentOperationStatus) : Bool := status ∈ [.pending, .succeeded, .completed]

def liveOperations (p : PaymentTables) (allocationId : Id) : List PaymentOperation :=
  p.operations.filter fun o => o.paymentAllocationId = some allocationId ∧ isLive o.status

def refunded (p : PaymentTables) (allocationId : Id) : Money :=
  ((liveOperations p allocationId).map PaymentOperation.amount).sum

def capturedBy (a : PaymentAllocation) : Money := if a.status = .completed then a.amount else 0

/-- Live operations are for positive amounts, and together within what their allocation has
captured. -/
structure Covered (p : PaymentTables) : Prop where
  positive : ∀ o ∈ p.operations, isLive o.status → 0 < o.amount
  within : ∀ a ∈ p.allocations, refunded p a.id ≤ capturedBy a

def Left (p : PaymentTables) (a : PaymentAllocation) (amount : Money) : Prop :=
  0 < amount ∧ refunded p a.id + amount ≤ capturedBy a

/-- A new or revived operation asks for an amount that is left, nothing refunded loses its
capture, and no capture is negative. -/
def StaysCovered (p : PaymentTables) : Movement → Prop
  | .operation allocation amount outcome => outcome ≠ .failed → Left p allocation amount
  | .operationDelivery operation outcome =>
    outcome = .succeeded → ¬isLive operation.status →
      ∀ a ∈ p.allocations, operation.paymentAllocationId = some a.id → Left p a operation.amount
  | .attemptDelivery attempt outcome =>
    ∀ a ∈ p.allocations, a.id = attempt.paymentAllocationId →
      (outcome = .failed → a.status = .completed → liveOperations p a.id = []) ∧
      (outcome = .succeeded → 0 ≤ a.amount)
  | .answer _ allocation outcome => outcome = .succeeded → 0 ≤ allocation.amount
  | _ => True

instance (p : PaymentTables) (a : PaymentAllocation) (amount : Money) :
    Decidable (Left p a amount) :=
  inferInstanceAs (Decidable (_ ∧ _))

instance (p : PaymentTables) : (m : Movement) → Decidable (StaysCovered p m)
  | .operation _ _ _ => inferInstanceAs (Decidable (_ → _))
  | .operationDelivery _ _ => inferInstanceAs (Decidable (_ → _ → ∀ _ ∈ _, _ → _))
  | .attemptDelivery attempt outcome =>
    decidable_of_iff (∀ a ∈ p.allocations, a.id = attempt.paymentAllocationId →
      (outcome = .failed → a.status = .completed → (liveOperations p a.id).isEmpty) ∧
      (outcome = .succeeded → 0 ≤ a.amount)) (by simp only [StaysCovered, List.isEmpty_iff])
  | .answer _ _ _ => inferInstanceAs (Decidable (_ → _))
  | .nothing | .opening _ _ | .cancellation _ => isTrue trivial

def share (allocationId : Id) (o : PaymentOperation) : Money :=
  if o.paymentAllocationId = some allocationId ∧ isLive o.status then o.amount else 0

theorem refunded_eq_sum (p : PaymentTables) (allocationId : Id) :
    refunded p allocationId = (p.operations.map (share allocationId)).sum := by
  rw [refunded, liveOperations]
  induction p.operations with
  | nil => rfl
  | cons o rest ih =>
    rw [List.filter_cons, List.map_cons, List.sum_cons, ← ih, share]
    by_cases live : o.paymentAllocationId = some allocationId ∧ isLive o.status = true
    · rw [if_pos (decide_eq_true live), if_pos live, List.map_cons, List.sum_cons]
    · rw [if_neg (by simpa using live), if_neg live, Int.zero_add]

theorem refunded_congr {q : PaymentTables} (same : q.operations = p.operations)
    (allocationId : Id) : refunded q allocationId = refunded p allocationId := by
  rw [refunded, refunded, liveOperations, liveOperations, same]

theorem refunded_addOperation (p : PaymentTables) (operation : PaymentOperation)
    (allocationId : Id) : refunded (addOperation operation p) allocationId =
      refunded p allocationId + share allocationId operation := by
  rw [refunded_eq_sum, refunded_eq_sum, addOperation, List.map_append, List.sum_append]
  simp

theorem refunded_patchOperation (consistent : Consistent p n) (stored : operation ∈ p.operations)
    (f : OperationPatch) (allocationId : Id) :
    refunded (patchOperation operation.id f p) allocationId + share allocationId operation =
      refunded p allocationId + share allocationId (f.run operation) := by
  rw [refunded_eq_sum, refunded_eq_sum]
  exact Rows.sum_map_modify (share allocationId) consistent.operation_ids stored

theorem share_nonneg (covered : Covered p) (stored : operation ∈ p.operations) (allocationId : Id) :
    0 ≤ share allocationId operation := by
  unfold share
  split
  · rename_i live
    exact Int.le_of_lt (covered.positive operation stored live.2)
  · exact Int.le_refl 0

theorem initial_covered {db : Db} (init : Initial db) : Covered db.payments := by
  rw [init.payments]
  constructor
  · intro o stored
    cases stored
  · intro a stored
    cases stored

theorem covered_openIntent {intent : PaymentIntent} {allocations : List PaymentAllocation}
    (covered : Covered p) (consistent : Consistent p n)
    (allocationIds : allocations.map PaymentAllocation.id = List.range' (n + 1) allocations.length)
    (pending : ∀ a ∈ allocations, a.status = .pending) :
    Covered (openIntent intent allocations p) := by
  refine ⟨covered.positive, fun a listed => ?_⟩
  change refunded p a.id ≤ capturedBy a
  rcases List.mem_append.mp listed with listed | new
  · exact covered.within a listed
  · have young : n + 1 ≤ a.id := by
      have ranged : a.id ∈ allocations.map PaymentAllocation.id := List.mem_map_of_mem new
      rw [allocationIds] at ranged
      exact (List.mem_range'_1.mp ranged).1
    have untouched : liveOperations p a.id = [] := by
      refine List.filter_eq_nil_iff.mpr fun o stored live => ?_
      obtain ⟨b, storedB, refers⟩ := consistent.allocation_of_operation stored
      have old := consistent.allocation_lt storedB
      have same : some b.id = some a.id := refers.symm.trans (of_decide_eq_true live).1
      rw [Option.some.inj same] at old
      exact absurd young (by lia)
    rw [refunded, untouched, capturedBy, pending a new]
    exact Int.le_refl 0

theorem covered_patchAllocation {q : PaymentTables} {id : Id} {f : AllocationPatch}
    (covered : Covered p) (operations : q.operations = p.operations)
    (allocations : q.allocations = p.allocations) (enough : ∀ a ∈ p.allocations, a.id = id →
      refunded p a.id ≤ if f.status = .completed then a.amount else 0) :
    Covered (patchAllocation id f q) := by
  constructor
  · intro o stored
    change o ∈ q.operations at stored
    rw [operations] at stored
    exact covered.positive o stored
  · intro a' listed
    obtain ⟨a, stored, rfl⟩ := Rows.mem_modify.mp listed
    rw [allocations] at stored
    change refunded q _ ≤ _
    rw [refunded_congr operations]
    split
    · rename_i same
      simpa only [capturedBy, f.run_id, f.run_status, f.run_amount] using enough a stored same
    · exact covered.within a stored

theorem covered_cancel (covered : Covered p) (intentId : Id) : Covered (cancel intentId p) := by
  refine ⟨covered.positive, fun a' listed => ?_⟩
  obtain ⟨a, stored, rfl⟩ := Rows.mem_updateWhere.mp listed
  change refunded p _ ≤ _
  have before := covered.within a stored
  split
  · rename_i opened
    have uncompleted : a.status ≠ .completed := by
      intro done
      simp [isOpenAllocation, done] at opened
    rw [capturedBy, if_neg uncompleted] at before
    exact before
  · exact before

theorem covered_addOperation {allocation : PaymentAllocation} (covered : Covered p)
    (consistent : Consistent p n) (stored : allocation ∈ p.allocations)
    (refers : operation.paymentAllocationId = some allocation.id)
    (left : isLive operation.status → Left p allocation operation.amount) :
    Covered (addOperation operation p) := by
  constructor
  · intro o listed live
    rcases List.mem_append.mp listed with listed | new
    · exact covered.positive o listed live
    · rw [List.mem_singleton.mp new] at live ⊢
      exact (left live).1
  · intro a listed
    change a ∈ p.allocations at listed
    rw [refunded_addOperation]
    have before := covered.within a listed
    unfold share
    split
    · rename_i mine
      have same : allocation.id = a.id := Option.some.inj (refers.symm.trans mine.1)
      obtain rfl := consistent.allocation_eq stored listed same
      exact (left mine.2).2
    · lia

theorem covered_patchOperation {f : OperationPatch} (covered : Covered p)
    (consistent : Consistent p n) (stored : operation ∈ p.operations)
    (left : isLive f.status → ¬isLive operation.status → ∀ a ∈ p.allocations,
      operation.paymentAllocationId = some a.id → Left p a operation.amount) :
    Covered (patchOperation operation.id f p) := by
  constructor
  · intro o' listed live
    obtain ⟨o, storedO, rfl⟩ := Rows.mem_modify.mp listed
    split at live
    · rename_i same
      simp only [if_pos same, OperationPatch.run_status, OperationPatch.run_amount] at live ⊢
      rw [consistent.operation_eq storedO stored same]
      by_cases was : isLive operation.status
      · exact covered.positive operation stored was
      · obtain ⟨a, storedA, refers⟩ := consistent.allocation_of_operation stored
        exact (left live was a storedA refers).1
    · rename_i other
      simp only [if_neg other]
      exact covered.positive o storedO live
  · intro a listed
    change a ∈ p.allocations at listed
    have before := covered.within a listed
    have moved := refunded_patchOperation consistent stored f a.id
    have nonneg := share_nonneg covered stored a.id
    by_cases mine : operation.paymentAllocationId = some a.id
    · by_cases live : isLive f.status
      · by_cases was : isLive operation.status
        · have same : share a.id (f.run operation) = share a.id operation := by
            simp [share, mine, live, was]
          lia
        · have new : share a.id (f.run operation) = operation.amount := by
            simp [share, mine, live]
          have old : share a.id operation = 0 := by simp [share, was]
          have room := (left live was a listed mine).2
          lia
      · have new : share a.id (f.run operation) = 0 := by simp [share, live]
        lia
    · have new : share a.id (f.run operation) = 0 := by simp [share, mine]
      lia

theorem effect_covered {p' : PaymentTables} {n' : Id} {m : Movement} (h : Effect p n m p' n')
    (consistent : Consistent p n) (stays : StaysCovered p m) (covered : Covered p) :
    Covered p' := by
  cases h with
  | record m events n' grows => exact ⟨covered.positive, covered.within⟩
  | opening intentId allocationIds owner pending =>
    exact covered_openIntent covered consistent allocationIds pending
  | @answer intent allocation outcome attempt f stored unclosed storedAllocation owner unsettled
      attemptId attemptAllocation attemptIntent attemptStatus status =>
    have patched : Covered (patchAllocation allocation.id f (addAttempt attempt p)) := by
      refine covered_patchAllocation covered rfl rfl fun a listed same => ?_
      obtain rfl := consistent.allocation_eq listed storedAllocation same
      have before := covered.within a listed
      rw [capturedBy, if_neg unsettled.1] at before
      rw [status]
      cases outcome with
      | succeeded => exact Int.le_trans before (stays rfl)
      | pending => exact before
      | failed => exact before
    split
    · exact patched
    · exact ⟨patched.positive, patched.within⟩
  | cancellation => exact covered_cancel covered _
  | @operation allocation amount outcome operation stored operationId refers operationAmount
      operationStatus =>
    refine covered_addOperation covered consistent stored refers fun live => ?_
    rw [operationAmount]
    refine stays fun failed => ?_
    rw [operationStatus, failed] at live
    cases live
  | @attemptDelivery attempt outcome f g events stored attemptStatus status =>
    have patched : Covered (patchAllocation attempt.paymentAllocationId f
        (patchAttempt attempt.id g p)) := by
      refine covered_patchAllocation covered rfl rfl fun a listed same => ?_
      have before := covered.within a listed
      obtain ⟨unrefunded, nonneg⟩ := stays a listed same
      rw [status]
      by_cases done : a.status = .completed
      · cases outcome with
        | succeeded =>
          rw [capturedBy, if_pos done] at before
          exact before
        | failed =>
          rw [refunded, unrefunded rfl done]
          exact Int.le_refl 0
      · rw [capturedBy, if_neg done] at before
        cases outcome with
        | succeeded => exact Int.le_trans before (nonneg rfl)
        | failed => exact before
    exact ⟨patched.positive, patched.within⟩
  | @operationDelivery operation outcome f events stored status =>
    have patched : Covered (patchOperation operation.id f p) := by
      refine covered_patchOperation covered consistent stored fun live => stays ?_
      rw [status] at live
      cases outcome with
      | succeeded => rfl
      | failed => cases live
    exact ⟨patched.positive, patched.within⟩

/-- In every run whose steps stay covered, refunds are for positive amounts and never exceed
what their allocation has captured. -/
theorem refunds_covered {db : Db} {rs : List Request} (init : Initial db)
    (along : AlongLedger StaysCovered db rs) : Covered (run db rs).payments :=
  ledger_invariant (fun _ _ _ _ _ effect => effect_covered effect) (initial_consistent init)
    (initial_covered init) along

def doubleRefund : List Request :=
  [cashierAt 1 (.checkout 50 {}),
   cashierAt 2 (.createIntent { storeId := 2, orderId := 100, allocations := [⟨.cash, 1000⟩] }),
   cashierAt 3 (.processAllocation 103 104 none),
   cashierAt 4 (.createOperation { paymentIntentId := 103, kind := .refund, amount := 800 }),
   cashierAt 5 (.createOperation { paymentIntentId := 103, kind := .refund, amount := 800 })]

theorem refunds_covered_once : Covered (run shop (doubleRefund.take 4)).payments :=
  refunds_covered shop_initial (by decide +kernel)

theorem doubleRefund_exceeds : Initial shop ∧ refunded (run shop doubleRefund).payments 104 = 1600 ∧
      ∃ a ∈ (run shop doubleRefund).payments.allocations, a.id = 104 ∧ capturedBy a = 1000 :=
  ⟨shop_initial, by decide +kernel, by decide +kernel⟩

end Exetron.Payments
