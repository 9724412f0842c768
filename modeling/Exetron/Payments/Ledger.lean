import Exetron.Payments.Service

/-!
# The payment ledger

The payment tables as a state machine of their own. A `Movement` is what a request means for
the ledger in the state it arrives in; `Effect` is what the movement does to the tables.
-/

namespace Exetron.Payments

open Lib List

variable {id intentId : Id} {i : PaymentIntent} {t : PaymentAttempt}

/-- A write to an allocation that gives it a status and keeps its key, owner and amount. -/
structure AllocationPatch where
  run : PaymentAllocation → PaymentAllocation
  status : PaymentAllocationStatus
  run_id : ∀ a, (run a).id = a.id
  run_paymentIntentId : ∀ a, (run a).paymentIntentId = a.paymentIntentId
  run_amount : ∀ a, (run a).amount = a.amount
  run_status : ∀ a, (run a).status = status

/-- A write to an attempt that gives it a status and keeps its key and its allocation. -/
structure AttemptPatch where
  run : PaymentAttempt → PaymentAttempt
  status : PaymentAttemptStatus
  run_id : ∀ t, (run t).id = t.id
  run_paymentIntentId : ∀ t, (run t).paymentIntentId = t.paymentIntentId
  run_paymentAllocationId : ∀ t, (run t).paymentAllocationId = t.paymentAllocationId
  run_status : ∀ t, (run t).status = status

/-- A write to an operation that gives it a status and keeps the rest of what it says. -/
structure OperationPatch where
  run : PaymentOperation → PaymentOperation
  status : PaymentOperationStatus
  run_id : ∀ o, (run o).id = o.id
  run_paymentAllocationId : ∀ o, (run o).paymentAllocationId = o.paymentAllocationId
  run_orderId : ∀ o, (run o).orderId = o.orderId
  run_amount : ∀ o, (run o).amount = o.amount
  run_status : ∀ o, (run o).status = status

attribute [simp] AllocationPatch.run_id AllocationPatch.run_paymentIntentId
  AllocationPatch.run_amount AllocationPatch.run_status AttemptPatch.run_id
  AttemptPatch.run_paymentIntentId AttemptPatch.run_paymentAllocationId AttemptPatch.run_status
  OperationPatch.run_id OperationPatch.run_paymentAllocationId OperationPatch.run_orderId
  OperationPatch.run_amount OperationPatch.run_status

def summaryOf (p : PaymentTables) (i : PaymentIntent) : PaymentIntentStatus × Money :=
  resolvePaymentIntentState i.totalAmount ((allocationsOf p i.id).map allocationState)

def refreshed (p : PaymentTables) (i : PaymentIntent) : PaymentIntent :=
  { i with status := (summaryOf p i).1, paidAmount := (summaryOf p i).2 }

def refresh (intentId : Id) (p : PaymentTables) : PaymentTables :=
  { p with intents := Rows.modify PaymentIntent.id intentId (refreshed p) p.intents }

def patchAllocation (id : Id) (f : AllocationPatch) (p : PaymentTables) : PaymentTables :=
  { p with allocations := Rows.modify PaymentAllocation.id id f.run p.allocations }

def patchAttempt (id : Id) (f : AttemptPatch) (p : PaymentTables) : PaymentTables :=
  { p with attempts := Rows.modify PaymentAttempt.id id f.run p.attempts }

def patchOperation (id : Id) (f : OperationPatch) (p : PaymentTables) : PaymentTables :=
  { p with operations := Rows.modify PaymentOperation.id id f.run p.operations }

def openIntent (intent : PaymentIntent) (allocations : List PaymentAllocation) (p : PaymentTables) :
    PaymentTables :=
  { p with
    intents := p.intents ++ [intent]
    allocations := p.allocations ++ allocations }

def addAttempt (attempt : PaymentAttempt) (p : PaymentTables) : PaymentTables :=
  { p with attempts := p.attempts ++ [attempt] }

def addOperation (operation : PaymentOperation) (p : PaymentTables) : PaymentTables :=
  { p with operations := p.operations ++ [operation] }

def isOpenAllocation (a : PaymentAllocation) : Bool := a.status ∈ [.pending, .failed]

def cancel (intentId : Id) (p : PaymentTables) : PaymentTables :=
  { p with
    intents := Rows.modify PaymentIntent.id intentId (fun i => { i with status := .cancelled }) p.intents
    allocations := Rows.updateWhere (fun a => a.paymentIntentId = intentId ∧ isOpenAllocation a)
      (fun a => { a with status := .cancelled }) p.allocations }

def setEvents (events : List PaymentWebhookEvent) (p : PaymentTables) : PaymentTables :=
  { p with webhookEvents := events }

/-- What a request means for the ledger. -/
inductive Movement where
  | nothing
  | opening (intent : PaymentIntent) (allocations : List PaymentAllocation)
  /-- The adapter's answer to a new attempt on an allocation. -/
  | answer (intent : PaymentIntent) (allocation : PaymentAllocation) (outcome : ExecutionOutcome)
  | cancellation (intent : PaymentIntent)
  /-- A refund or a void, with the adapter's answer. -/
  | operation (allocation : PaymentAllocation) (amount : Money) (outcome : ExecutionOutcome)
  | attemptDelivery (attempt : PaymentAttempt) (outcome : WebhookOutcome)
  | operationDelivery (operation : PaymentOperation) (outcome : WebhookOutcome)

def allocationStatusOfDelivery : WebhookOutcome → PaymentAllocationStatus
  | .succeeded => .completed
  | .failed => .failed

def attemptStatusOfDelivery : WebhookOutcome → PaymentAttemptStatus
  | .succeeded => .succeeded
  | .failed => .failed

def operationStatusOfDelivery : WebhookOutcome → PaymentOperationStatus
  | .succeeded => .completed
  | .failed => .failed

/-- An outcome that reaches an allocation, and the intent whose summary is refreshed after it. -/
structure Settlement where
  (intentId allocationId : Id)
  status : PaymentAllocationStatus

/-- A pending answer settles nothing. -/
def Movement.settlement : Movement → Option Settlement
  | .answer _ _ .pending => none
  | .answer intent allocation outcome =>
    some ⟨intent.id, allocation.id, allocationStatusOf outcome⟩
  | .attemptDelivery attempt outcome =>
    some ⟨attempt.paymentIntentId, attempt.paymentAllocationId, allocationStatusOfDelivery outcome⟩
  | _ => none

def statesWith (p : PaymentTables) (intentId allocationId : Id) (status : PaymentAllocationStatus) :
    List AllocationState :=
  (allocationsOf p intentId).map fun a =>
    ⟨a.amount, if a.id = allocationId then status else a.status⟩

/-- What a movement does to the tables and the supply of keys, with what the service has
checked before it. -/
inductive Effect (p : PaymentTables) (n : Id) : Movement → PaymentTables → Id → Prop
  | record (m : Movement) (events : List PaymentWebhookEvent) (n' : Id) (grows : n ≤ n') :
      Effect p n m (setEvents events p) n'
  | opening {intent : PaymentIntent} {allocations : List PaymentAllocation}
      (intentId : intent.id = n)
      (allocationIds :
        allocations.map PaymentAllocation.id = List.range' (n + 1) allocations.length)
      (owner : ∀ a ∈ allocations, a.paymentIntentId = intent.id)
      (pending : ∀ a ∈ allocations, a.status = .pending)
      (nonempty : allocations ≠ [])
      (status : intent.status = .pending)
      (paid : intent.paidAmount = 0)
      (inactive : ∀ i ∈ p.intents, i.orderId = intent.orderId → ¬isActive i.status) :
      Effect p n (.opening intent allocations) (openIntent intent allocations p)
        (n + 1 + allocations.length)
  | answer {intent : PaymentIntent} {allocation : PaymentAllocation} {outcome : ExecutionOutcome}
      {attempt : PaymentAttempt} {f : AllocationPatch}
      (stored : intent ∈ p.intents)
      (unclosed : intent.status ≠ .completed ∧ intent.status ≠ .cancelled)
      (storedAllocation : allocation ∈ p.allocations)
      (owner : allocation.paymentIntentId = intent.id)
      (unsettled : allocation.status ≠ .completed ∧ allocation.status ≠ .cancelled)
      (attemptId : attempt.id = n)
      (attemptAllocation : attempt.paymentAllocationId = allocation.id)
      (attemptIntent : attempt.paymentIntentId = intent.id)
      (attemptStatus : attempt.status = attemptStatusOf outcome)
      (status : f.status = allocationStatusOf outcome) :
      Effect p n (.answer intent allocation outcome)
        (if outcome = .pending then patchAllocation allocation.id f (addAttempt attempt p)
          else refresh intent.id (patchAllocation allocation.id f (addAttempt attempt p)))
        (n + 1)
  | cancellation {intent : PaymentIntent}
      (stored : intent ∈ p.intents)
      (notCompleted : intent.status ≠ .completed)
      (unpaid : intent.paidAmount = 0) :
      Effect p n (.cancellation intent) (cancel intent.id p) n
  | operation {allocation : PaymentAllocation} {amount : Money} {outcome : ExecutionOutcome}
      {operation : PaymentOperation}
      (storedAllocation : allocation ∈ p.allocations)
      (operationId : operation.id = n)
      (operationAllocation : operation.paymentAllocationId = some allocation.id)
      (operationAmount : operation.amount = amount)
      (operationStatus : operation.status = operationStatusOf outcome) :
      Effect p n (.operation allocation amount outcome) (addOperation operation p) (n + 1)
  | attemptDelivery {attempt : PaymentAttempt} {outcome : WebhookOutcome} {f : AllocationPatch}
      {g : AttemptPatch} (events : List PaymentWebhookEvent)
      (stored : attempt ∈ p.attempts)
      (attemptStatus : g.status = attemptStatusOfDelivery outcome)
      (status : f.status = allocationStatusOfDelivery outcome) :
      Effect p n (.attemptDelivery attempt outcome)
        (setEvents events (refresh attempt.paymentIntentId
          (patchAllocation attempt.paymentAllocationId f (patchAttempt attempt.id g p))))
        (n + 1)
  | operationDelivery {operation : PaymentOperation} {outcome : WebhookOutcome}
      {f : OperationPatch} (events : List PaymentWebhookEvent)
      (stored : operation ∈ p.operations)
      (status : f.status = operationStatusOfDelivery outcome) :
      Effect p n (.operationDelivery operation outcome)
        (setEvents events (patchOperation operation.id f p)) (n + 1)

section
variable (p : PaymentTables)

theorem allocationStates_patch (id intentId : Id) (f : AllocationPatch) :
    (allocationsOf (patchAllocation id f p) intentId).map allocationState =
      statesWith p intentId id f.status := by
  have owner : ∀ a : PaymentAllocation,
      decide ((f.run a).paymentIntentId = intentId) = decide (a.paymentIntentId = intentId) :=
    fun a => by simp
  simp only [allocationsOf, patchAllocation, statesWith]
  rw [Rows.filter_modify (q := fun a : PaymentAllocation => decide (a.paymentIntentId = intentId)) owner, Rows.modify,
    Rows.updateWhere, map_map]
  refine map_congr_left fun a _ => ?_
  by_cases same : a.id = id <;> simp [same, allocationState]

theorem summaryOf_patchAllocation (id : Id) (f : AllocationPatch) (i : PaymentIntent) :
    summaryOf (patchAllocation id f p) i =
      resolvePaymentIntentState i.totalAmount (statesWith p i.id id f.status) := by
  rw [summaryOf, allocationStates_patch]

theorem statesWith_congr {q : PaymentTables} (same : q.allocations = p.allocations)
    (intentId id : Id) (status : PaymentAllocationStatus) :
    statesWith q intentId id status = statesWith p intentId id status := by
  rw [statesWith, statesWith, allocationsOf, allocationsOf, same]

theorem allocationsOf_cancel_other (other : intentId ≠ id) :
    allocationsOf (cancel id p) intentId = allocationsOf p intentId := by
  have keeps : ∀ a : PaymentAllocation,
      decide ({ a with status := .cancelled }.paymentIntentId = intentId) =
        decide (a.paymentIntentId = intentId) := fun _ => rfl
  rw [allocationsOf, cancel, Rows.filter_updateWhere keeps]
  refine Rows.updateWhere_eq_self fun a member => ?_
  have mine := of_decide_eq_true (mem_filter.mp member).2
  simp [mine, other]

theorem allocationsOf_openIntent_old {intent : PaymentIntent} {allocations : List PaymentAllocation}
    (owner : ∀ a ∈ allocations, a.paymentIntentId = intent.id) (other : intentId ≠ intent.id) :
    allocationsOf (openIntent intent allocations p) intentId = allocationsOf p intentId := by
  have none : allocations.filter (fun a => a.paymentIntentId = intentId) = [] := by
    refine filter_eq_nil_iff.mpr fun a listed => ?_
    rw [owner a listed]
    exact fun same => other (of_decide_eq_true same).symm
  rw [allocationsOf, allocationsOf, openIntent, filter_append, none, append_nil]

theorem allocationsOf_cancel_self (id : Id) :
    ∀ a ∈ allocationsOf (cancel id p) id, a.status = .cancelled ∨
      a ∈ allocationsOf p id ∧ ¬isOpenAllocation a := by
  intro a' member
  obtain ⟨listed, mine⟩ := mem_filter.mp member
  obtain ⟨a, stored, rfl⟩ := Rows.mem_updateWhere.mp listed
  split at mine <;> rename_i closed
  · rw [if_pos closed]
    exact Or.inl rfl
  · rw [if_neg closed]
    refine Or.inr ⟨mem_filter.mpr ⟨stored, mine⟩, ?_⟩
    simpa [of_decide_eq_true mine] using closed

theorem statesWith_eq {status : PaymentAllocationStatus}
    (same : ∀ a ∈ p.allocations, a.paymentIntentId = intentId → a.id = id → a.status = status) :
    statesWith p intentId id status = (allocationsOf p intentId).map allocationState := by
  refine map_congr_left fun a member => ?_
  obtain ⟨stored, owner⟩ := mem_filter.mp member
  split
  · rw [allocationState, same a stored (of_decide_eq_true owner) ‹_›]
  · rfl

theorem summaryOf_patch_other {q : PaymentTables} {f : AllocationPatch}
    (allocations : q.allocations = p.allocations)
    (owner : ∀ a ∈ p.allocations, a.id = id → a.paymentIntentId = intentId)
    (other : i.id ≠ intentId) : summaryOf (patchAllocation id f q) i = summaryOf p i := by
  rw [summaryOf_patchAllocation, statesWith_congr p allocations, statesWith_eq, summaryOf]
  intro a stored mine same
  exact absurd (mine.symm.trans (owner a stored same)) other

theorem completedAmount_statesWith {p : PaymentTables} {status : PaymentAllocationStatus}
    (same : ∀ a ∈ p.allocations, a.paymentIntentId = intentId → a.id = id →
      AllocationState.captured ⟨a.amount, status⟩ = (allocationState a).captured) :
    completedAmount (statesWith p intentId id status) =
      completedAmount ((allocationsOf p intentId).map allocationState) := by
  rw [completedAmount_eq_sum, completedAmount_eq_sum, statesWith, map_map, map_map]
  refine congrArg sum (map_congr_left fun a member => ?_)
  obtain ⟨stored, owner⟩ := mem_filter.mp member
  simp only [Function.comp]
  split
  · exact same a stored (of_decide_eq_true owner) ‹_›
  · rfl

end

theorem mem_refresh {p : PaymentTables} :
    i ∈ (refresh id p).intents ↔ ∃ j ∈ p.intents, i = if j.id = id then refreshed p j else j := by
  simp only [refresh, Rows.mem_modify, eq_comm]

theorem mem_cancel {p : PaymentTables} : i ∈ (cancel id p).intents ↔
      ∃ j ∈ p.intents, i = if j.id = id then { j with status := .cancelled } else j := by
  simp only [cancel, Rows.mem_modify, eq_comm]

/-- The columns of the tables that name rows. -/
structure Keys where
  intents : List Id
  /-- An allocation and its intent. -/
  allocations : List (Id × Id)
  /-- An attempt, its allocation and its intent. -/
  attempts : List (Id × Id × Id)
  /-- An operation and its allocation. -/
  operations : List (Id × Option Id)

def allocationKey (a : PaymentAllocation) : Id × Id := (a.id, a.paymentIntentId)

def attemptKey (t : PaymentAttempt) : Id × Id × Id := (t.id, t.paymentAllocationId, t.paymentIntentId)

def operationKey (o : PaymentOperation) : Id × Option Id := (o.id, o.paymentAllocationId)

def keysOf (p : PaymentTables) : Keys where
  intents := p.intents.map PaymentIntent.id
  allocations := p.allocations.map allocationKey
  attempts := p.attempts.map attemptKey
  operations := p.operations.map operationKey

/-- Keys are unique, older than the supply, and refer to rows that exist. -/
structure Keys.Consistent (k : Keys) (n : Id) : Prop where
  intents_nodup : k.intents.Nodup
  intents_old : ∀ i ∈ k.intents, i < n
  allocations_nodup : (k.allocations.map (·.1)).Nodup
  allocations_old : ∀ a ∈ k.allocations, a.1 < n
  attempts_nodup : (k.attempts.map (·.1)).Nodup
  attempts_old : ∀ t ∈ k.attempts, t.1 < n
  operations_nodup : (k.operations.map (·.1)).Nodup
  operations_old : ∀ o ∈ k.operations, o.1 < n
  allocation_intent : ∀ a ∈ k.allocations, a.2 ∈ k.intents
  intent_allocation : ∀ i ∈ k.intents, ∃ a ∈ k.allocations, a.2 = i
  attempt_allocation : ∀ t ∈ k.attempts, t.2 ∈ k.allocations
  operation_allocation : ∀ o ∈ k.operations, ∃ a ∈ k.allocations, o.2 = some a.1

def Consistent (p : PaymentTables) (n : Id) : Prop := (keysOf p).Consistent n

section
variable (p : PaymentTables)

@[simp] theorem keysOf_refresh (id : Id) : keysOf (refresh id p) = keysOf p := by
  have keeps : ∀ i, (refreshed p i).id = i.id := fun _ => rfl
  simp only [keysOf, refresh, Rows.map_modify keeps]

@[simp] theorem keysOf_patchAllocation (id : Id) (f : AllocationPatch) :
    keysOf (patchAllocation id f p) = keysOf p := by
  have keeps : ∀ a, allocationKey (f.run a) = allocationKey a := fun a => by simp [allocationKey]
  simp only [keysOf, patchAllocation, Rows.map_modify keeps]

@[simp] theorem keysOf_patchAttempt (id : Id) (f : AttemptPatch) :
    keysOf (patchAttempt id f p) = keysOf p := by
  have keeps : ∀ t, attemptKey (f.run t) = attemptKey t := fun t => by simp [attemptKey]
  simp only [keysOf, patchAttempt, Rows.map_modify keeps]

@[simp] theorem keysOf_patchOperation (id : Id) (f : OperationPatch) :
    keysOf (patchOperation id f p) = keysOf p := by
  have keeps : ∀ o, operationKey (f.run o) = operationKey o := fun o => by simp [operationKey]
  simp only [keysOf, patchOperation, Rows.map_modify keeps]

@[simp] theorem keysOf_cancel (id : Id) : keysOf (cancel id p) = keysOf p := by
  have keeps : ∀ i : PaymentIntent, { i with status := .cancelled }.id = i.id := fun _ => rfl
  have keeps' : ∀ a : PaymentAllocation,
      allocationKey { a with status := .cancelled } = allocationKey a := fun _ => rfl
  simp only [keysOf, cancel]
  rw [Rows.map_modify keeps, Rows.map_updateWhere keeps']

@[simp] theorem keysOf_setEvents (events : List PaymentWebhookEvent) :
    keysOf (setEvents events p) = keysOf p := rfl

end

theorem Keys.Consistent.mono {k : Keys} {n n' : Id} (h : k.Consistent n) (grows : n ≤ n') :
    k.Consistent n' where
  __ := h
  intents_old i member := lt_of_lt_of_le (h.intents_old i member) grows
  allocations_old a member := lt_of_lt_of_le (h.allocations_old a member) grows
  attempts_old t member := lt_of_lt_of_le (h.attempts_old t member) grows
  operations_old o member := lt_of_lt_of_le (h.operations_old o member) grows

theorem keysOf_openIntent (intent : PaymentIntent) (allocations : List PaymentAllocation)
    (p : PaymentTables) : keysOf (openIntent intent allocations p) =
      { keysOf p with
        intents := (keysOf p).intents ++ [intent.id]
        allocations := (keysOf p).allocations ++ allocations.map allocationKey } := by
  simp [keysOf, openIntent]

theorem keysOf_addAttempt (attempt : PaymentAttempt) (p : PaymentTables) :
    keysOf (addAttempt attempt p) =
      { keysOf p with attempts := (keysOf p).attempts ++ [attemptKey attempt] } := by
  simp [keysOf, addAttempt]

theorem keysOf_addOperation (operation : PaymentOperation) (p : PaymentTables) :
    keysOf (addOperation operation p) =
      { keysOf p with operations := (keysOf p).operations ++ [operationKey operation] } := by
  simp [keysOf, addOperation]

theorem Keys.Consistent.openIntent {k : Keys} {n : Id} (h : k.Consistent n)
    {allocations : List (Id × Id)} (nonempty : allocations ≠ [])
    (ids : allocations.map (·.1) = List.range' (n + 1) allocations.length)
    (owner : ∀ a ∈ allocations, a.2 = n) :
    { k with intents := k.intents ++ [n], allocations := k.allocations ++ allocations }.Consistent
      (n + 1 + allocations.length) := by
  have range : ∀ a ∈ allocations, n + 1 ≤ a.1 ∧ a.1 < n + 1 + allocations.length := by
    intro a member
    have listed : a.1 ∈ allocations.map (·.1) := mem_map_of_mem member
    rw [ids] at listed
    simpa using listed
  have grown : k.Consistent (n + 1 + allocations.length) := h.mono (by lia)
  refine
    { grown with
      intents_nodup := Rows.nodup_append_new h.intents_nodup h.intents_old
      intents_old := ?_
      allocations_nodup := ?_
      allocations_old := ?_
      allocation_intent := ?_
      intent_allocation := ?_
      attempt_allocation := fun t member =>
        mem_append_left _ (h.attempt_allocation t member)
      operation_allocation := ?_ }
  · intro i member
    rcases mem_append.mp member with member | member
    · exact grown.intents_old i member
    · rw [mem_singleton.mp member]
      lia
  · rw [map_append, ids]
    refine nodup_append'.mpr ⟨h.allocations_nodup, nodup_range', ?_⟩
    intro x old new
    obtain ⟨a, member, rfl⟩ := mem_map.mp old
    have before := h.allocations_old a member
    have after := (mem_range'_1.mp new).1
    lia
  · intro a member
    rcases mem_append.mp member with member | member
    · exact grown.allocations_old a member
    · exact (range a member).2
  · intro a member
    rcases mem_append.mp member with member | member
    · exact mem_append_left _ (h.allocation_intent a member)
    · rw [owner a member]
      exact mem_append_right _ (mem_singleton_self n)
  · intro i member
    rcases mem_append.mp member with member | member
    · obtain ⟨a, stored, same⟩ := h.intent_allocation i member
      exact ⟨a, mem_append_left _ stored, same⟩
    · obtain ⟨a, added⟩ := exists_mem_of_ne_nil _ nonempty
      exact ⟨a, mem_append_right _ added, (owner a added).trans (mem_singleton.mp member).symm⟩
  · intro o member
    obtain ⟨a, stored, same⟩ := h.operation_allocation o member
    exact ⟨a, mem_append_left _ stored, same⟩

theorem Keys.Consistent.addAttempt {k : Keys} {n : Id} (h : k.Consistent n) {allocation : Id × Id}
    (stored : allocation ∈ k.allocations) :
    { k with attempts := k.attempts ++ [(n, allocation)] }.Consistent (n + 1) := by
  have grown : k.Consistent (n + 1) := h.mono (Nat.le_succ n)
  refine
    { grown with
      attempts_nodup := ?_
      attempts_old := ?_
      attempt_allocation := ?_ }
  · rw [map_append]
    refine Rows.nodup_append_new h.attempts_nodup ?_
    intro x listed
    obtain ⟨t, member, rfl⟩ := mem_map.mp listed
    exact h.attempts_old t member
  · intro t member
    rcases mem_append.mp member with member | member
    · exact grown.attempts_old t member
    · rw [mem_singleton.mp member]
      exact Nat.lt_succ_self n
  · intro t member
    rcases mem_append.mp member with member | member
    · exact h.attempt_allocation t member
    · rw [mem_singleton.mp member]
      exact stored

theorem Keys.Consistent.addOperation {k : Keys} {n : Id} (h : k.Consistent n) {allocation : Id × Id}
    (stored : allocation ∈ k.allocations) :
    { k with operations := k.operations ++ [(n, some allocation.1)] }.Consistent (n + 1) := by
  have grown : k.Consistent (n + 1) := h.mono (Nat.le_succ n)
  refine
    { grown with
      operations_nodup := ?_
      operations_old := ?_
      operation_allocation := ?_ }
  · rw [map_append]
    refine Rows.nodup_append_new h.operations_nodup ?_
    intro x listed
    obtain ⟨o, member, rfl⟩ := mem_map.mp listed
    exact h.operations_old o member
  · intro o member
    rcases mem_append.mp member with member | member
    · exact grown.operations_old o member
    · rw [mem_singleton.mp member]
      exact Nat.lt_succ_self n
  · intro o member
    rcases mem_append.mp member with member | member
    · exact h.operation_allocation o member
    · rw [mem_singleton.mp member]
      exact ⟨allocation, stored, rfl⟩

theorem consistent_addAttempt {p : PaymentTables} {n : Id} (h : Consistent p n)
    {attempt : PaymentAttempt} {allocation : PaymentAllocation}
    (stored : allocation ∈ p.allocations) (attemptId : attempt.id = n)
    (attemptAllocation : attempt.paymentAllocationId = allocation.id)
    (attemptIntent : attempt.paymentIntentId = allocation.paymentIntentId) :
    Consistent (addAttempt attempt p) (n + 1) := by
  have key : attemptKey attempt = (n, allocationKey allocation) := by
    simp only [attemptKey, allocationKey, attemptId, attemptAllocation, attemptIntent]
  unfold Consistent
  rw [keysOf_addAttempt, key]
  exact Keys.Consistent.addAttempt h (mem_map_of_mem stored)

theorem effect_consistent {p p' : PaymentTables} {n n' : Id} {m : Movement}
    (h : Effect p n m p' n') (consistent : Consistent p n) : Consistent p' n' := by
  unfold Consistent at consistent ⊢
  cases h with
  | record m events n' grows => exact consistent.mono grows
  | @opening intent allocations intentId allocationIds owner pending nonempty =>
    rw [keysOf_openIntent, intentId]
    have ids : (allocations.map allocationKey).map (·.1) =
        range' (n + 1) (allocations.map allocationKey).length := by
      rw [map_map, length_map, ← allocationIds]
      rfl
    have owned : ∀ a ∈ allocations.map allocationKey, a.2 = n := by
      intro key listed
      obtain ⟨a, member, rfl⟩ := mem_map.mp listed
      exact (owner a member).trans intentId
    simpa using consistent.openIntent (by simpa using nonempty) ids owned
  | @answer intent allocation outcome attempt f stored unclosed storedAllocation owner unsettled
      attemptId attemptAllocation attemptIntent =>
    have keys : keysOf (if outcome = .pending
          then patchAllocation allocation.id f (addAttempt attempt p)
          else refresh intent.id (patchAllocation allocation.id f (addAttempt attempt p))) =
        keysOf (addAttempt attempt p) := by
      split <;> simp
    rw [keys]
    exact consistent_addAttempt consistent storedAllocation attemptId attemptAllocation
      (attemptIntent.trans owner.symm)
  | cancellation stored notCompleted unpaid =>
    rw [keysOf_cancel]
    exact consistent
  | @operation allocation amount outcome operation storedAllocation operationId
      operationAllocation =>
    have key : operationKey operation = (n, some (allocationKey allocation).1) := by
      simp only [operationKey, allocationKey, operationId, operationAllocation]
    rw [keysOf_addOperation, key]
    exact consistent.addOperation (mem_map_of_mem storedAllocation)
  | attemptDelivery events stored attemptStatus status =>
    simp only [keysOf_setEvents, keysOf_refresh, keysOf_patchAllocation, keysOf_patchAttempt]
    exact consistent.mono (Nat.le_succ n)
  | operationDelivery events stored status =>
    simp only [keysOf_setEvents, keysOf_patchOperation]
    exact consistent.mono (Nat.le_succ n)

section
variable {p : PaymentTables} {n : Id} (h : Consistent p n)
include h

theorem Consistent.intent_eq {j : PaymentIntent} (hi : i ∈ p.intents) (hj : j ∈ p.intents)
    (same : i.id = j.id) : i = j :=
  Rows.eq_of_key h.intents_nodup hi hj same

theorem Consistent.allocation_ids : (p.allocations.map PaymentAllocation.id).Nodup := by
  have unique := h.allocations_nodup
  simp only [keysOf, map_map] at unique
  exact unique

theorem Consistent.attempt_ids : (p.attempts.map PaymentAttempt.id).Nodup := by
  have unique := h.attempts_nodup
  simp only [keysOf, map_map] at unique
  exact unique

theorem Consistent.operation_ids : (p.operations.map PaymentOperation.id).Nodup := by
  have unique := h.operations_nodup
  simp only [keysOf, map_map] at unique
  exact unique

theorem Consistent.allocation_eq {a b : PaymentAllocation} (ha : a ∈ p.allocations)
    (hb : b ∈ p.allocations) (same : a.id = b.id) : a = b :=
  Rows.eq_of_key h.allocation_ids ha hb same

theorem Consistent.attempt_eq {s : PaymentAttempt} (hs : s ∈ p.attempts) (ht : t ∈ p.attempts)
    (same : s.id = t.id) : s = t :=
  Rows.eq_of_key h.attempt_ids hs ht same

theorem Consistent.operation_eq {o q : PaymentOperation} (ho : o ∈ p.operations)
    (hq : q ∈ p.operations) (same : o.id = q.id) : o = q :=
  Rows.eq_of_key h.operation_ids ho hq same

theorem Consistent.intent_lt (member : i ∈ p.intents) : i.id < n :=
  h.intents_old i.id (mem_map_of_mem member)

theorem Consistent.allocation_lt {a : PaymentAllocation} (member : a ∈ p.allocations) : a.id < n :=
  h.allocations_old (allocationKey a) (mem_map_of_mem member)

theorem Consistent.attempt_lt (member : t ∈ p.attempts) : t.id < n :=
  h.attempts_old (attemptKey t) (mem_map_of_mem member)

theorem Consistent.operation_lt {o : PaymentOperation} (member : o ∈ p.operations) : o.id < n :=
  h.operations_old (operationKey o) (mem_map_of_mem member)

theorem Consistent.intent_of_allocation {a : PaymentAllocation} (member : a ∈ p.allocations) :
    ∃ i ∈ p.intents, i.id = a.paymentIntentId :=
  mem_map.mp (h.allocation_intent (allocationKey a) (mem_map_of_mem member))

theorem Consistent.allocation_of_intent (member : i ∈ p.intents) :
    ∃ a ∈ p.allocations, a.paymentIntentId = i.id := by
  obtain ⟨key, listed, same⟩ := h.intent_allocation i.id (mem_map_of_mem member)
  obtain ⟨a, member, rfl⟩ := mem_map.mp listed
  exact ⟨a, member, same⟩

theorem allocationsOf_openIntent_new {intent : PaymentIntent}
    {allocations : List PaymentAllocation} (intentId : intent.id = n)
    (owner : ∀ a ∈ allocations, a.paymentIntentId = intent.id) :
    allocationsOf (openIntent intent allocations p) intent.id = allocations := by
  have old : p.allocations.filter (fun a => a.paymentIntentId = intent.id) = [] := by
    refine filter_eq_nil_iff.mpr fun a listed same => ?_
    obtain ⟨i, stored, owned⟩ := h.intent_of_allocation listed
    have before := h.intent_lt stored
    rw [owned, of_decide_eq_true same, intentId] at before
    exact lt_irrefl n before
  have new : allocations.filter (fun a => a.paymentIntentId = intent.id) = allocations :=
    filter_eq_self.mpr fun a listed => decide_eq_true (owner a listed)
  rw [allocationsOf, openIntent, filter_append, old, new, nil_append]

theorem Consistent.allocation_of_attempt (member : t ∈ p.attempts) :
    ∃ a ∈ p.allocations, a.id = t.paymentAllocationId ∧ a.paymentIntentId = t.paymentIntentId := by
  have listed := h.attempt_allocation (attemptKey t) (mem_map_of_mem member)
  obtain ⟨a, member, same⟩ := mem_map.mp listed
  exact ⟨a, member, congrArg Prod.fst same, congrArg Prod.snd same⟩

theorem Consistent.owner_of_attempt (member : t ∈ p.attempts) :
    ∀ a ∈ p.allocations, a.id = t.paymentAllocationId → a.paymentIntentId = t.paymentIntentId := by
  obtain ⟨b, stored, same, owner⟩ := h.allocation_of_attempt member
  intro a listed same'
  rw [h.allocation_eq listed stored (same'.trans same.symm), owner]

theorem Consistent.allocation_of_operation {o : PaymentOperation} (member : o ∈ p.operations) :
    ∃ a ∈ p.allocations, o.paymentAllocationId = some a.id := by
  obtain ⟨key, listed, same⟩ :=
    h.operation_allocation (operationKey o) (mem_map_of_mem member)
  obtain ⟨a, member, rfl⟩ := mem_map.mp listed
  exact ⟨a, member, same⟩

end

end Exetron.Payments
