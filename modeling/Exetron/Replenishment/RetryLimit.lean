import Exetron.Replenishment.Steps
import Mathlib.Data.Rat.Floor
import Mathlib.Tactic.Linarith

/-!
# The limit of the retries

A failed push is tried again until the policy's `maxAttempts` is reached, and the job is a dead
letter then. A retry that is queued by hand counts as an attempt.
-/

namespace Exetron.Replenishment

open Lib Inventory.Service InventoryReplenishmentJob Record Option

/-- What is counted of a handoff: its deliveries, the retries that were queued other than by a
failed delivery, and whether the job has become a dead letter. -/
structure Tally where
  (deliveries queued : Nat)
  deadLettered : Bool
  deriving DecidableEq

namespace Tally

def delivered (limit : ℚ) (t : Tally) : Tally :=
  if t.deadLettered then t
  else { t with
    deliveries := t.deliveries + 1
    deadLettered := decide (limit ≤ t.deliveries + 1 + t.queued) }

def requeued (t : Tally) : Tally := { t with queued := t.queued + 1 }

end Tally

/-- The count since the last handoff, unless a dead letter was taken up again since. -/
def tally (limit : ℚ) : List JobEvent → Option Tally
  | [] => none
  | .handedOff :: _ => some ⟨0, 0, false⟩
  | .reopened :: _ => none
  | .delivered _ :: h => (tally limit h).map (Tally.delivered limit)
  | .queued :: h => (tally limit h).map Tally.requeued
  | .reported _ :: h => tally limit h

/-- The count of a handoff whose retries were all queued by failed deliveries. -/
structure OnTime (limit : ℚ) (t : Tally) : Prop where
  reached : t.deadLettered = true → (t.deliveries : ℤ) = ⌈limit⌉
  below : t.deadLettered = false → (t.deliveries : ℚ) < limit

theorem tally_onTime {limit : ℚ} (positive : 0 < limit) {h : List JobEvent} {t : Tally}
    (tallied : tally limit h = some t) (unqueued : t.queued = 0) : OnTime limit t := by
  induction h generalizing t with
  | nil => cases tallied
  | cons event h ih =>
    cases event with
    | handedOff =>
      obtain rfl := some.inj tallied
      exact ⟨by simp, fun _ => by simpa using positive⟩
    | reopened => cases tallied
    | reported status => exact ih tallied unqueued
    | queued =>
      obtain ⟨t₀, before, rfl⟩ := map_eq_some_iff.mp tallied
      exact absurd unqueued (Nat.succ_ne_zero _)
    | delivered status =>
      obtain ⟨t₀, before, rfl⟩ := map_eq_some_iff.mp tallied
      cases dead : t₀.deadLettered with
      | true =>
        rw [Tally.delivered, if_pos dead] at unqueued ⊢
        exact ih before unqueued
      | false =>
        have alive : ¬t₀.deadLettered = true := by simp [dead]
        rw [Tally.delivered, if_neg alive] at unqueued ⊢
        have earlier := (ih before unqueued).below dead
        have none : t₀.queued = 0 := unqueued
        constructor
        · intro reached
          have least : limit ≤ t₀.deliveries + 1 := by simpa [none] using reached
          symm
          rw [Int.ceil_eq_iff]
          push_cast
          exact ⟨by linarith, least⟩
        · intro left
          have more : ¬limit ≤ t₀.deliveries + 1 := by simpa [none] using left
          push_cast
          linarith

/-- The supplier record of a job agrees with the count of its handoff. -/
structure Counted (t : Tally) (record : InventoryRecord) : Prop where
  attempts : t.deadLettered = false → retryAttemptCount record = t.deliveries + t.queued
  live : t.deadLettered = false →
    textOf (record.get "deadLetterAt") = none ∧ textOf (record.get "deadLetteredAt") = none
  dead : t.deadLettered = true →
    (textOf (record.get "deadLetterAt")).isSome = true ∧ textOf (record.get "nextRetryAt") = none

section
variable {env : SupplierEnv} {context : RequestContext} {job : InventoryReplenishmentJob}
  {now : Instant} {t : Tally}

theorem supplier_patch_other {patch : InventoryRecord} (distinct : (patch.map Prod.fst).Nodup)
    {key : String} (other : patch.get key = none) :
    (job.patchSupplier now patch).getReplenishmentSupplier.get key =
      job.getReplenishmentSupplier.get key :=
  (supplier_patchSupplier job now patch distinct key).trans (by rw [other]; rfl)

theorem counted_patch {patch : InventoryRecord} (distinct : (patch.map Prod.fst).Nodup)
    (attempts : patch.get "retryAttemptCount" = none) (letter : patch.get "deadLetterAt" = none)
    (lettered : patch.get "deadLetteredAt" = none)
    (retry : ∀ value ∈ patch.get "nextRetryAt", textOf (some value) = none)
    (counted : Counted t job.getReplenishmentSupplier) :
    Counted t (job.patchSupplier now patch).getReplenishmentSupplier where
  attempts live := by
    rw [retryAttemptCount, supplier_patch_other distinct attempts]
    exact counted.attempts live
  live alive := by
    rw [supplier_patch_other distinct letter, supplier_patch_other distinct lettered]
    exact counted.live alive
  dead gone := by
    rw [supplier_patch_other distinct letter]
    refine ⟨(counted.dead gone).1, ?_⟩
    have read : (job.patchSupplier now patch).getReplenishmentSupplier.get "nextRetryAt" =
        (patch.get "nextRetryAt").or (job.getReplenishmentSupplier.get "nextRetryAt") :=
      supplier_patchSupplier job now patch distinct "nextRetryAt"
    rw [read]
    cases new : patch.get "nextRetryAt" with
    | none => exact (counted.dead gone).2
    | some value => exact retry value new

theorem counted_patch_live {patch : InventoryRecord} (distinct : (patch.map Prod.fst).Nodup)
    (attempts : patch.get "retryAttemptCount" = none) (letter : patch.get "deadLetterAt" = none)
    (lettered : patch.get "deadLetteredAt" = none) (alive : t.deadLettered = false)
    (counted : Counted t job.getReplenishmentSupplier) :
    Counted t (job.patchSupplier now patch).getReplenishmentSupplier where
  attempts live := by
    rw [retryAttemptCount, supplier_patch_other distinct attempts]
    exact counted.attempts live
  live alive := by
    rw [supplier_patch_other distinct letter, supplier_patch_other distinct lettered]
    exact counted.live alive
  dead gone := by
    rw [alive] at gone
    cases gone

theorem attempts_queueRetry (input : QueueRetryInput) (source : SupplierSource) :
    retryAttemptCount (queueRetry now input source job).getReplenishmentSupplier =
      retryAttemptCount job.getReplenishmentSupplier + 1 := by
  have read : (queueRetry now input source job).getReplenishmentSupplier.get "retryAttemptCount" =
      some (.num (retryAttemptCount job.getReplenishmentSupplier + 1)) := by
    show (queueRetry now input source job).supplier "retryAttemptCount" = _
    simp [queueRetry, supplier_patchSupplier, get_cons]
    rfl
  have positive : 0 ≤ retryAttemptCount job.getReplenishmentSupplier + 1 :=
    add_nonneg (le_max_left _ _) zero_le_one
  rw [retryAttemptCount, read, toNumber_num, max_eq_right positive]

theorem live_queueRetry (input : QueueRetryInput) (source : SupplierSource) :
    let record := (queueRetry now input source job).getReplenishmentSupplier
    textOf (record.get "deadLetterAt") = none ∧ textOf (record.get "deadLetteredAt") = none := by
  constructor
  · show textOf ((queueRetry now input source job).supplier "deadLetterAt") = none
    simp [queueRetry, supplier_patchSupplier, get_cons]
  · show textOf ((queueRetry now input source job).supplier "deadLetteredAt") = none
    simp [queueRetry, supplier_patchSupplier, get_cons]

theorem dead_markDeadLetter (input : DeadLetter) :
    let record := (markSupplierDeadLetterTx now input job).getReplenishmentSupplier
    (textOf (record.get "deadLetterAt")).isSome = true ∧
      textOf (record.get "nextRetryAt") = none := by
  constructor
  · show (textOf ((markSupplierDeadLetterTx now input job).supplier "deadLetterAt")).isSome = true
    simp [markSupplierDeadLetterTx, supplier_patchSupplier, get_cons, isoText]
  · show textOf ((markSupplierDeadLetterTx now input job).supplier "nextRetryAt") = none
    simp [markSupplierDeadLetterTx, supplier_patchSupplier, get_cons]

theorem counted_queueRetry {t' : Tally} (input : QueueRetryInput) (source : SupplierSource)
    (alive : t'.deadLettered = false)
    (attempts : retryAttemptCount job.getReplenishmentSupplier + 1 = t'.deliveries + t'.queued) :
    Counted t' (queueRetry now input source job).getReplenishmentSupplier where
  attempts _ := (attempts_queueRetry input source).trans attempts
  live _ := live_queueRetry input source
  dead gone := by
    rw [alive] at gone
    cases gone

theorem decision_retryable {policy : SupplierRetryPolicy} {runtime : SupplierConnectorRuntime}
    {execution : TransportHandoffExecution} (enabled : enabledPolicy runtime = some policy)
    (failed : execution.status = .failed) (retryable : isRetryable policy execution = true)
    (record : InventoryRecord) :
    let decision := resolveHttpPushRetryDecision record runtime execution
    decision.shouldRetry = decide (retryAttemptCount record + 1 < policy.maxAttempts) ∧
      decision.terminal = !decision.shouldRetry := by
  simp only [resolveHttpPushRetryDecision, enabled, failed, retryable, not_true_eq_false, if_false]
  split
  · rename_i reached
    simp [not_lt.mpr reached]
  · rename_i left
    simp [not_le.mp left]

theorem counted_again {limit : ℚ} {input : QueueRetryInput} {source : SupplierSource}
    (alive : t.deadLettered = false) (counted : Counted t job.getReplenishmentSupplier)
    (more : retryAttemptCount job.getReplenishmentSupplier + 1 < limit) :
    Counted (t.delivered limit) (queueRetry now input source job).getReplenishmentSupplier := by
  have next : retryAttemptCount job.getReplenishmentSupplier + 1 = t.deliveries + 1 + t.queued := by
    rw [counted.attempts alive]
    ring
  have still : ¬limit ≤ t.deliveries + 1 + t.queued := by
    rw [← next]
    exact not_le.mpr more
  rw [Tally.delivered, if_neg (by simp [alive])]
  refine counted_queueRetry input source (decide_eq_false still) ?_
  rw [next]
  push_cast
  rfl

theorem counted_letter {limit : ℚ} {letter : DeadLetter} (alive : t.deadLettered = false)
    (counted : Counted t job.getReplenishmentSupplier)
    (reached : ¬retryAttemptCount job.getReplenishmentSupplier + 1 < limit) :
    Counted (t.delivered limit)
      (markSupplierDeadLetterTx now letter job).getReplenishmentSupplier := by
  have gone : (t.delivered limit).deadLettered = true := by
    rw [Tally.delivered, if_neg (by simp [alive])]
    refine decide_eq_true (le_trans (not_lt.mp reached) (le_of_eq ?_))
    rw [counted.attempts alive]
    ring
  exact ⟨fun still => absurd gone (by simp [still]), fun still => absurd gone (by simp [still]),
    fun _ => dead_markDeadLetter letter⟩

/-- A job whose push has just failed, and which is no dead letter. -/
structure PushFailed (env : SupplierEnv) (job : InventoryReplenishmentJob) : Prop where
  connector : ∃ key connector, connectorKeyOf job = some key ∧
    requireSupplierConnectorTx env.integrationRegistry job.tenantId key = .ok connector
  transport : lastTransportStatus job = some "FAILED"
  status : reconciliationStatus job ≠ some "DEAD_LETTER"
  live : textOf (job.supplier "deadLetterAt") = none ∧ textOf (job.supplier "deadLetteredAt") = none

theorem PushFailed.queues (failed : PushFailed env job) {input : QueueRetryInput}
    (push : input.source = some .httpPush) :
    queueSupplierRetryTx env input job = .ok (queueRetry env.now input .httpPush job) := by
  obtain ⟨key, connector, keyed, offered⟩ := failed.connector
  have found (missing : String) : connectorOf env job missing =
      .ok (connector, resolveSupplierConnectorRuntime connector) :=
    connectorOf_ok_iff.mpr ⟨key, keyed, offered, rfl⟩
  have open' : isTerminal job = false := by
    simp [isTerminal, isTextAt, failed.status, failed.live]
  have failure : hasFailure job = true := by
    simp [hasFailure, failed.transport]
  refine queueSupplierRetryTx_ok_iff.mpr ⟨.httpPush, ?_, rfl⟩
  simp [admitRetry, found, open', resolveSupplierRetrySource, failure, push, rejectIf, required, bind,
    Except.bind]

variable {policy : SupplierRetryPolicy} {runtime : SupplierConnectorRuntime}
  {execution : TransportHandoffExecution}

theorem counted_afterFailedRetry (enabled : enabledPolicy runtime = some policy)
    (undelivered : execution.status = .failed) (retryable : isRetryable policy execution = true)
    (failed : PushFailed env job) (alive : t.deadLettered = false)
    (counted : Counted t job.getReplenishmentSupplier) :
    ∃ job', afterFailedRetry env runtime execution job = .ok job' ∧
      Counted (t.delivered policy.maxAttempts) job'.getReplenishmentSupplier := by
  obtain ⟨again, _⟩ :=
    decision_retryable enabled undelivered retryable job.getReplenishmentSupplier
  simp only [afterFailedRetry, again]
  by_cases more : retryAttemptCount job.getReplenishmentSupplier + 1 < policy.maxAttempts
  · rw [if_pos (decide_eq_true more), failed.queues rfl]
    exact ⟨_, rfl, counted_again alive counted more⟩
  · rw [if_neg (by simpa using more)]
    exact ⟨_, rfl, counted_letter alive counted more⟩

theorem counted_afterFailedHandoff (enabled : enabledPolicy runtime = some policy)
    (undelivered : execution.status = .failed) (retryable : isRetryable policy execution = true)
    (alive : t.deadLettered = false) (counted : Counted t job.getReplenishmentSupplier)
    {job' : InventoryReplenishmentJob}
    (decided : afterFailedHandoff env runtime execution job = .ok job') :
    Counted (t.delivered policy.maxAttempts) job'.getReplenishmentSupplier := by
  obtain ⟨again, terminal⟩ :=
    decision_retryable enabled undelivered retryable job.getReplenishmentSupplier
  simp only [afterFailedHandoff, terminal, again] at decided
  by_cases more : retryAttemptCount job.getReplenishmentSupplier + 1 < policy.maxAttempts
  · rw [if_pos (decide_eq_true more)] at decided
    obtain ⟨source, _, rfl⟩ := queueSupplierRetryTx_ok_iff.mp decided
    exact counted_again alive counted more
  · rw [if_neg (by simpa using more), if_pos (by simpa using more)] at decided
    obtain rfl := Except.ok.inj decided
    exact counted_letter alive counted more

theorem not_due_of_dead (dead : textOf (job.supplier "nextRetryAt") = none) :
    isDue now job = false := by
  simp [isDue, nextRetryAt, dead]

theorem counted_processDue {input : RunDueInput}
    (follows : ∀ key ∈ connectorKeyOf job, ∀ connector ∈
      (requireSupplierConnectorTx env.integrationRegistry job.tenantId key).toOption,
        enabledPolicy (resolveSupplierConnectorRuntime connector) = some policy)
    (failing : ∀ execution ∈ (processDueSupplierRetryTx env input job).delivery,
      execution.status = .failed ∧ isRetryable policy execution = true)
    (counted : Counted t job.getReplenishmentSupplier) :
    let p := processDueSupplierRetryTx env input job
    p.delivery = none ∧ Counted t p.job.getReplenishmentSupplier ∨
      (∃ execution ∈ p.delivery, execution.status = .failed) ∧ p.answer = .ok true ∧
        Counted (t.delivered policy.maxAttempts) p.job.getReplenishmentSupplier := by
  cases @processDue_cases env job input with
  | left answer is =>
    rw [is]
    exact .inl ⟨rfl, counted⟩
  | dispatched source due is =>
    rw [is]
    exact .inl ⟨rfl, counted_patch (by simp) (by simp [get_cons])
      (by simp [get_cons]) (by simp [get_cons]) (by simp [get_cons]) counted⟩
  | delivered connector runtime due is =>
    rw [is] at failing ⊢
    obtain ⟨⟨key, keyed, offered⟩, rfl, isDue', _⟩ := dueRetry_some due
    have enabled := follows key keyed connector (by rw [offered]; rfl)
    have alive : t.deadLettered = false := by
      cases dead : t.deadLettered with
      | false => rfl
      | true =>
        rw [not_due_of_dead (counted.dead dead).2] at isDue'
        cases isDue'
    have delivery : (deliverRetry env connector (resolveSupplierConnectorRuntime connector)
        job).delivery = some (pushRetry env connector (resolveSupplierConnectorRuntime connector)
          job) := by
      cases @deliverRetry_cases env job connector (resolveSupplierConnectorRuntime connector) with
      | completed done is => rw [is]
      | decided job' failed next is => rw [is]
      | undecided e failed next is => rw [is]
    obtain ⟨undelivered, retryable⟩ := failing _ delivery
    generalize executed : pushRetry env connector (resolveSupplierConnectorRuntime connector) job =
      execution at delivery undelivered retryable
    have kept : Counted t (failRetry env.now execution job).getReplenishmentSupplier :=
      counted_patch (by simp) (by simp [get_cons]) (by simp [get_cons])
        (by simp [get_cons]) (by simp [get_cons]) counted
    have pushed : PushFailed env (failRetry env.now execution job) := by
      refine ⟨⟨key, connector, ?_, offered⟩, ?_, ?_, kept.live alive⟩
      · rw [← keyed]
        simp [connectorKeyOf, failRetry, supplier_patchSupplier, get_cons]
      · simp [lastTransportStatus, failRetry, supplier_patchSupplier, get_cons, undelivered,
          TransportStatus.text]
      · have waiting : reconciliationStatus job = some "RETRY_QUEUED" := by
          rw [isDue, decide_eq_true_iff] at isDue'
          exact isDue'.1
        have same : reconciliationStatus (failRetry env.now execution job) =
            reconciliationStatus job := by
          simp [reconciliationStatus, reconciliation, failRetry, supplier_patchSupplier, get_cons]
        rw [same, waiting]
        simp
    obtain ⟨job', next, counted'⟩ :=
      counted_afterFailedRetry enabled undelivered retryable pushed alive kept
    cases @deliverRetry_cases env job connector (resolveSupplierConnectorRuntime connector) with
    | completed done is =>
      rw [executed] at done
      rw [undelivered] at done
      cases done
    | decided job'' failed next' is =>
      rw [executed] at next'
      obtain rfl := Except.ok.inj (next.symm.trans next')
      rw [is]
      exact .inr ⟨⟨_, rfl, failed⟩, rfl, counted'⟩
    | undecided e failed next' is =>
      rw [executed, next] at next'
      cases next'

end

/-- The key of the connector that a request uses for a job. -/
def keyUsed (r : SupplyRequest) (job : InventoryReplenishmentJob) : Option String :=
  match r.call with
  | .supplier _ (.handoff dto) => filled dto.connectorKey
  | _ => connectorKeyOf job

/-- The connector used for the job pushes under the policy, and every push fails in a way that the
policy retries. -/
structure FailsUnder (policy : SupplierRetryPolicy) (r : SupplyRequest)
    (job : InventoryReplenishmentJob) : Prop where
  follows : ∀ key ∈ keyUsed r job, ∀ connector ∈
    (requireSupplierConnectorTx r.env.integrationRegistry job.tenantId key).toOption,
      enabledPolicy (resolveSupplierConnectorRuntime connector) = some policy
  failing : ∀ execution ∈ (r.handler job).delivery,
    execution.status = .failed ∧ isRetryable policy execution = true

instance (policy : SupplierRetryPolicy) (r : SupplyRequest) (job : InventoryReplenishmentJob) :
    Decidable (FailsUnder policy r job) :=
  decidable_of_iff (_ ∧ _) ⟨fun h => ⟨h.1, h.2⟩, fun h => ⟨h.1, h.2⟩⟩

def TalliedAs (limit : ℚ) (h : List JobEvent) (record : InventoryRecord) : Prop :=
  ∀ t, tally limit h = some t → Counted t record

section
variable {env : SupplierEnv} {context : RequestContext} {job : InventoryReplenishmentJob}
  {policy : SupplierRetryPolicy} {h : List JobEvent}

theorem tally_delivered {limit : ℚ} {delivery : Option TransportHandoffExecution}
    (failed : ∃ execution ∈ delivery, execution.status = .failed) (h : List JobEvent) :
    tally limit (deliveredEvents delivery ++ h) = (tally limit h).map (Tally.delivered limit) := by
  obtain ⟨execution, rfl, failed⟩ := failed
  simp [deliveredEvents, failed, tally]

theorem tallied_processDue {input : RunDueInput}
    (follows : ∀ key ∈ connectorKeyOf job, ∀ connector ∈
      (requireSupplierConnectorTx env.integrationRegistry job.tenantId key).toOption,
        enabledPolicy (resolveSupplierConnectorRuntime connector) = some policy)
    (failing : ∀ execution ∈ (processDueSupplierRetryTx env input job).delivery,
      execution.status = .failed ∧ isRetryable policy execution = true)
    (tallied : TalliedAs policy.maxAttempts h job.getReplenishmentSupplier) :
    TalliedAs policy.maxAttempts
      (deliveredEvents (processDueSupplierRetryTx env input job).delivery ++ h)
      (processDueSupplierRetryTx env input job).job.getReplenishmentSupplier := by
  intro t counts
  cases delivery : (processDueSupplierRetryTx env input job).delivery with
  | none =>
    rw [delivery] at counts
    rcases counted_processDue follows failing (tallied t counts) with
      ⟨_, counted⟩ | ⟨⟨execution, made, _⟩, _⟩
    · exact counted
    · rw [delivery] at made
      cases made
  | some execution =>
    rw [tally_delivered ⟨execution, delivery, (failing execution delivery).1⟩] at counts
    obtain ⟨t₀, before, rfl⟩ := map_eq_some_iff.mp counts
    rcases counted_processDue follows failing (tallied t₀ before) with ⟨none, _⟩ | ⟨_, _, counted⟩
    · rw [delivery] at none
      cases none
    · exact counted

theorem push_of_enabled {runtime : SupplierConnectorRuntime}
    (enabled : enabledPolicy runtime = some policy) : runtime.mode = .httpPush := by
  rw [enabledPolicy, filter_eq_some_iff] at enabled
  simpa using (decide_eq_true_iff.mp enabled.2).1

theorem counted_handedOff (input : HandoffReplenishmentJobDto)
    (connector : Option IntegrationRegistryEntry) (execution : Option TransportHandoffExecution) :
    Counted ⟨0, 0, false⟩ (handedOff env context input connector execution) where
  attempts _ := by simp [retryAttemptCount, handedOff, get_cons, toNumber]
  live _ := by simp [handedOff, get_cons, textOf]
  dead gone := by cases gone

theorem tallied_handoff {input : HandoffReplenishmentJobDto} {jobId : Id}
    (fails : FailsUnder policy ⟨env, context, .supplier jobId (.handoff input)⟩ job)
    (tallied : TalliedAs policy.maxAttempts h job.getReplenishmentSupplier) :
    TalliedAs policy.maxAttempts
      (eventsOf ⟨env, context, .supplier jobId (.handoff input)⟩ job ++ h)
      (handoffReplenishmentJob env context input job).job.getReplenishmentSupplier := by
  have events : eventsOf ⟨env, context, .supplier jobId (.handoff input)⟩ job =
      if (handoffReplenishmentJob env context input job).answer.isOk then
        ((handoffReplenishmentJob env context input job).delivery.map fun execution =>
          JobEvent.delivered execution.status).toList ++ [.handedOff] else [] := rfl
  have delivery : (SupplyRequest.handler ⟨env, context, .supplier jobId (.handoff input)⟩ job) =
      handoffReplenishmentJob env context input job := rfl
  have failing := fails.failing
  rw [delivery] at failing
  rw [events]
  have used {connector : IntegrationRegistryEntry}
      (found : handoffConnector env input job = .ok (some connector)) :
      enabledPolicy (resolveSupplierConnectorRuntime connector) = some policy := by
    rw [handoffConnector] at found
    cases keyed : filled input.connectorKey with
    | none =>
      rw [keyed] at found
      cases found
    | some key =>
      simp only [keyed, except_bind_ok_iff] at found
      obtain ⟨offered, is, _, _, _, _, same⟩ := found
      obtain rfl := some.inj (Except.ok.inj same)
      exact fails.follows key keyed offered (by
        show offered ∈ (requireSupplierConnectorTx env.integrationRegistry _ key).toOption
        rw [is]
        rfl)
  intro t counts
  cases @handoff_cases env context job input with
  | refused e delivery is =>
    rw [is] at counts ⊢
    exact tallied t counts
  | byHand is =>
    rw [is] at counts ⊢
    obtain rfl := some.inj counts
    rw [getReplenishmentSupplier_putSupplier]
    exact counted_handedOff ..
  | prepared connector found other is => exact absurd (push_of_enabled (used found)) other
  | completed connector found push execution executed done is =>
    rw [is] at failing
    exact absurd done (by simp [(failing execution rfl).1])
  | failed connector found push execution executed undelivered job' next is =>
    rw [is] at failing counts ⊢
    obtain rfl := some.inj counts
    refine counted_afterFailedHandoff (used found) undelivered (failing execution rfl).2 rfl ?_ next
    rw [getReplenishmentSupplier_putSupplier]
    exact counted_handedOff ..

theorem connectorKeyOf_queueRetry (now : Instant) (input : QueueRetryInput)
    (source : SupplierSource) (job : InventoryReplenishmentJob) :
    connectorKeyOf (queueRetry now input source job) = connectorKeyOf job := by
  simp [connectorKeyOf, queueRetry, supplier_patchSupplier, get_cons]

theorem connectorKeyOf_makeDue (now : Instant) (job : InventoryReplenishmentJob) :
    connectorKeyOf (makeDue now job) = connectorKeyOf job := by
  simp [connectorKeyOf, makeDue, supplier_patchSupplier, get_cons]

theorem connectorKeyOf_prepared {input : RunDueInput} {job' : InventoryReplenishmentJob}
    (prepared : prepareDispatch env context input job = .ok job') :
    connectorKeyOf job' = connectorKeyOf job := by
  obtain ⟨_, queued, queueing, rfl⟩ := prepareDispatch_ok prepared
  have first : connectorKeyOf queued = connectorKeyOf job := by
    rcases queueing with ⟨_, rfl⟩ | ⟨_, queueing⟩
    · rfl
    · obtain ⟨source, _, rfl⟩ := queueSupplierRetryTx_ok_iff.mp queueing
      exact connectorKeyOf_queueRetry ..
  split
  · rw [connectorKeyOf_makeDue, first]
  · exact first

theorem alive_of_queued {t : Tally} {input : QueueRetryInput}
    {job' : InventoryReplenishmentJob} (closed : input.allowTerminalReopen = false)
    (counted : Counted t job.getReplenishmentSupplier)
    (queued : queueSupplierRetryTx env input job = .ok job') : t.deadLettered = false := by
  cases dead : t.deadLettered with
  | false => rfl
  | true =>
    obtain ⟨source, admitted, _⟩ := queueSupplierRetryTx_ok_iff.mp queued
    have terminal : isTerminal job = true := by
      have letter : isTextAt job "deadLetterAt" = true := (counted.dead dead).1
      simp [isTerminal, letter]
    simp only [admitRetry, except_bind_ok_iff, rejectIf_ok_iff] at admitted
    obtain ⟨_, _, _, open', _⟩ := admitted
    exact absurd ⟨closed, terminal⟩ open'

theorem counted_queued {t : Tally} {input : QueueRetryInput} {job' : InventoryReplenishmentJob}
    (closed : input.allowTerminalReopen = false) (counted : Counted t job.getReplenishmentSupplier)
    (queued : queueSupplierRetryTx env input job = .ok job') :
    Counted t.requeued job'.getReplenishmentSupplier := by
  have alive := alive_of_queued closed counted queued
  obtain ⟨source, _, rfl⟩ := queueSupplierRetryTx_ok_iff.mp queued
  refine counted_queueRetry input source alive ?_
  rw [counted.attempts alive, Tally.requeued]
  push_cast
  ring

theorem tallied_prepared {input : RunDueInput} {job' : InventoryReplenishmentJob}
    (prepared : prepareDispatch env context input job = .ok job')
    (tallied : TalliedAs policy.maxAttempts h job.getReplenishmentSupplier) :
    TalliedAs policy.maxAttempts (takenUp job true ++ h) job'.getReplenishmentSupplier := by
  obtain ⟨_, queued, queueing, rfl⟩ := prepareDispatch_ok prepared
  intro t counts
  rcases queueing with ⟨waits, rfl⟩ | ⟨idle, queueing⟩
  · cases letter : isTextAt queued "deadLetterAt" with
    | true => simp [takenUp, waits, letter, tally] at counts
    | false =>
      simp only [takenUp, waits, letter, if_true, Bool.false_eq_true, if_false,
        List.nil_append] at counts
      have counted := tallied t counts
      have alive : t.deadLettered = false := by
        cases dead : t.deadLettered with
        | false => rfl
        | true => exact absurd (counted.dead dead).1 (ne_true_of_eq_false letter)
      rw [if_pos waits]
      exact counted_patch_live (by simp) (by simp [get_cons]) (by simp [get_cons])
        (by simp [get_cons]) alive counted
  · simp only [takenUp, idle, if_true, Bool.false_eq_true, if_false, List.cons_append,
      List.nil_append, tally] at counts
    obtain ⟨t₀, before, rfl⟩ := map_eq_some_iff.mp counts
    have counted := counted_queued rfl (tallied t₀ before) queueing
    have alive : t₀.deadLettered = false := alive_of_queued rfl (tallied t₀ before) queueing
    split
    · exact counted_patch_live (by simp) (by simp [get_cons]) (by simp [get_cons])
        (by simp [get_cons]) alive counted
    · exact counted

theorem tally_takenUp {limit : ℚ} {t : Tally} (before : tally limit h = some t)
    (open' : isTextAt job "deadLetterAt" = false) :
    ∃ t', tally limit (takenUp job true ++ h) = some t' := by
  cases waits : isQueued job with
  | true => exact ⟨t, by simp [takenUp, waits, open', before]⟩
  | false => exact ⟨t.requeued, by simp [takenUp, waits, tally, before]⟩

theorem tallied_dispatch {input : RunDueInput} {jobId : Id}
    (fails : FailsUnder policy ⟨env, context, .supplier jobId (.dispatchRetry input)⟩ job)
    (tallied : TalliedAs policy.maxAttempts h job.getReplenishmentSupplier) :
    TalliedAs policy.maxAttempts
      (eventsOf ⟨env, context, .supplier jobId (.dispatchRetry input)⟩ job ++ h)
      (dispatchReplenishmentSupplierRetry env context input job).job.getReplenishmentSupplier := by
  have events : eventsOf ⟨env, context, .supplier jobId (.dispatchRetry input)⟩ job =
      deliveredEvents (dispatchReplenishmentSupplierRetry env context input job).delivery ++
        takenUp job (dispatchReplenishmentSupplierRetry env context input job).answer.isOk := rfl
  have failing : ∀ execution ∈ (dispatchReplenishmentSupplierRetry env context input job).delivery,
        execution.status = .failed ∧ isRetryable policy execution = true := fails.failing
  have follows {queued : InventoryReplenishmentJob}
      (prepared : prepareDispatch env context input job = .ok queued) :
      ∀ key ∈ connectorKeyOf queued, ∀ connector ∈
        (requireSupplierConnectorTx env.integrationRegistry queued.tenantId key).toOption,
          enabledPolicy (resolveSupplierConnectorRuntime connector) = some policy := by
    rw [connectorKeyOf_prepared prepared, (prepareDispatch_only prepared).tenantId_eq]
    exact fails.follows
  rw [events]
  cases @dispatch_cases env context job input with
  | refused e is =>
    rw [is]
    exact tallied
  | processed queued input' prepared done answered is =>
    rw [answered, is, List.append_assoc]
    rw [is] at failing
    exact tallied_processDue (follows prepared) failing (tallied_prepared prepared tallied)
  | takenBack queued input' prepared e failed is =>
    rw [is] at failing ⊢
    intro t counts
    cases delivery : (processDueSupplierRetryTx env input' queued).delivery with
    | none =>
      rw [delivery] at counts
      exact tallied t counts
    | some execution =>
      have undelivered := (failing execution delivery).1
      have nothing : takenUp job (Except.error e : Except ApiException Bool).isOk = [] := rfl
      rw [nothing, List.append_nil, tally_delivered ⟨execution, delivery, undelivered⟩] at counts
      obtain ⟨t₀, before, rfl⟩ := map_eq_some_iff.mp counts
      have counted := tallied t₀ before
      cases letter : isTextAt job "deadLetterAt" with
      | true =>
        have dead : t₀.deadLettered = true := by
          cases dead : t₀.deadLettered with
          | true => rfl
          | false =>
            rw [isTextAt] at letter
            have none := (counted.live dead).1
            rw [supplier, none] at letter
            cases letter
        rw [Tally.delivered, if_pos dead]
        exact counted
      | false =>
        obtain ⟨t₁, made⟩ := tally_takenUp before letter
        rcases counted_processDue (follows prepared) failing
            (tallied_prepared prepared tallied t₁ made) with ⟨none, _⟩ | ⟨_, answered, _⟩
        · rw [delivery] at none
          cases none
        · rw [failed] at answered
          cases answered

theorem tallied_queue {updated : Except ApiException InventoryReplenishmentJob}
    (queues : ∀ job', updated = .ok job' → ∃ input : QueueRetryInput,
      input.allowTerminalReopen = false ∧ queueSupplierRetryTx env input job = .ok job')
    (tallied : TalliedAs policy.maxAttempts h job.getReplenishmentSupplier) :
    TalliedAs policy.maxAttempts
      ((if (ofUpdate job updated).answer.isOk then [JobEvent.queued] else []) ++ h)
      (ofUpdate job updated).job.getReplenishmentSupplier := by
  intro t counts
  cases updated with
  | error e => exact tallied t counts
  | ok job' =>
    obtain ⟨input, closed, queued⟩ := queues job' rfl
    obtain ⟨t₀, before, rfl⟩ := map_eq_some_iff.mp counts
    exact counted_queued closed (tallied t₀ before) queued

theorem tallied_message {reports : Option SupplierStatus} {job' : InventoryReplenishmentJob}
    (kept : ∀ t, Counted t job.getReplenishmentSupplier → Counted t job'.getReplenishmentSupplier)
    (tallied : TalliedAs policy.maxAttempts h job.getReplenishmentSupplier) :
    TalliedAs policy.maxAttempts ((reports.map JobEvent.reported).toList ++ h)
      job'.getReplenishmentSupplier := by
  have same : tally policy.maxAttempts ((reports.map JobEvent.reported).toList ++ h) =
      tally policy.maxAttempts h := by
    cases reports <;> rfl
  intro t counts
  rw [same] at counts
  exact kept t (tallied t counts)

theorem counted_update {t : Tally} {updated : Except ApiException InventoryReplenishmentJob}
    (kept : ∀ job', updated = .ok job' → Counted t job'.getReplenishmentSupplier)
    (counted : Counted t job.getReplenishmentSupplier) :
    Counted t (ofUpdate job updated).job.getReplenishmentSupplier := by
  cases updated with
  | error e => exact counted
  | ok job' => exact kept job' rfl

theorem counted_webhook {t : Tally} {input : ProcessWebhookDto}
    (counted : Counted t job.getReplenishmentSupplier) : Counted t
      (processReplenishmentSupplierWebhook env context input job).job.getReplenishmentSupplier := by
  unfold processReplenishmentSupplierWebhook
  split
  · exact counted
  all_goals
    exact counted_patch (by simp) (by simp [get_cons]) (by simp [get_cons])
      (by simp [get_cons]) (by simp [get_cons]) counted

theorem counted_import {t : Tally} {input : ImportSupplierUpdateDto}
    (counted : Counted t job.getReplenishmentSupplier) : Counted t
      (importReplenishmentSupplierUpdate env context input job).job.getReplenishmentSupplier := by
  unfold importReplenishmentSupplierUpdate
  split
  · exact counted
  all_goals
    exact counted_patch (by simp) (by simp [get_cons]) (by simp [get_cons])
      (by simp [get_cons]) (by simp [get_cons]) counted

theorem counted_drop {t : Tally} {input : DropSupplierFileDto}
    (counted : Counted t job.getReplenishmentSupplier) :
    Counted t (dropReplenishmentSupplierFile env context input job).job.getReplenishmentSupplier := by
  unfold dropReplenishmentSupplierFile
  split
  · exact counted
  · exact counted_import counted

theorem counted_replay {t : Tally} {dto : ReplayReconciliationDto}
    {job' : InventoryReplenishmentJob} (counted : Counted t job.getReplenishmentSupplier)
    (replayed : replayReplenishmentSupplierReconciliation env context dto job = .ok job') :
    Counted t job'.getReplenishmentSupplier := by
  simp only [replayReplenishmentSupplierReconciliation, except_bind_ok_iff] at replayed
  obtain ⟨⟨runtime, source, processed⟩, _, replayed⟩ := replayed
  obtain rfl := Except.ok.inj replayed
  cases source <;>
    exact counted_patch (by simp [pendingKey]) (by simp [pendingKey, get_cons])
      (by simp [pendingKey, get_cons]) (by simp [pendingKey, get_cons])
      (by simp [pendingKey, get_cons]) counted

end

/-- What a request does to a job keeps its supplier record in agreement with the count. -/
theorem tallied_handler {policy : SupplierRetryPolicy} {r : SupplyRequest}
    {job : InventoryReplenishmentJob} {h : List JobEvent} (fails : FailsUnder policy r job)
    (tallied : TalliedAs policy.maxAttempts h job.getReplenishmentSupplier) :
    TalliedAs policy.maxAttempts (eventsOf r job ++ h)
      (r.handler job).job.getReplenishmentSupplier := by
  obtain ⟨env, context, call⟩ := r
  cases call with
  | supplier jobId call =>
    cases call with
    | handoff dto => exact tallied_handoff fails tallied
    | updateStatus dto =>
      refine tallied_message (fun t counted => counted_update (fun job' updated => ?_) counted) tallied
      simp only [updateReplenishmentSupplierStatus, except_bind_ok_iff] at updated
      obtain ⟨_, _, _, _, updated⟩ := updated
      obtain rfl := Except.ok.inj updated
      exact counted_patch (by simp) (by simp [get_cons]) (by simp [get_cons])
        (by simp [get_cons]) (by simp [get_cons]) counted
    | syncStatus note =>
      refine tallied_message (fun t counted => counted_update (fun job' updated => ?_) counted) tallied
      simp only [syncReplenishmentSupplierStatus, except_bind_ok_iff] at updated
      obtain ⟨_, _, updated⟩ := updated
      obtain rfl := Except.ok.inj updated
      exact counted_patch (by simp) (by simp [get_cons]) (by simp [get_cons])
        (by simp [get_cons]) (by simp [get_cons]) counted
    | webhook dto => exact tallied_message (fun _ => counted_webhook) tallied
    | importUpdate dto => exact tallied_message (fun _ => counted_import) tallied
    | dropFile dto => exact tallied_message (fun _ => counted_drop) tallied
    | replay dto =>
      have kept (t : Tally) (counted : Counted t job.getReplenishmentSupplier) :=
        counted_update (fun job' (replayed :
            replayReplenishmentSupplierReconciliation env context dto job = .ok job') =>
            counted_replay counted replayed) counted
      exact @tallied_message _ _ _ none _ kept tallied
    | reopen dto =>
      intro t counts
      change tally policy.maxAttempts ((if (ofUpdate job (reopenReplenishmentSupplierDeadLetter env
        context dto job)).answer.isOk then [JobEvent.reopened] else []) ++ h) = some t at counts
      show Counted t (ofUpdate job (reopenReplenishmentSupplierDeadLetter env context dto
        job)).job.getReplenishmentSupplier
      cases reopened : reopenReplenishmentSupplierDeadLetter env context dto job with
      | error e =>
        rw [reopened] at counts
        exact tallied t counts
      | ok job' =>
        rw [reopened] at counts
        cases counts
    | queueRetry dto =>
      refine @tallied_queue env _ _ _ _ (fun job' updated => ?_) tallied
      simp only [queueReplenishmentSupplierRetry, except_bind_ok_iff] at updated
      obtain ⟨_, _, queued⟩ := updated
      exact ⟨dto.toInput, rfl, queued⟩
    | dispatchRetry dto => exact tallied_dispatch fails tallied
  | queueRetrySweep dto =>
    exact @tallied_queue env _ _ _ _ (fun job' queued => ⟨_, rfl, queued⟩) tallied
  | runDueRetries dto => exact tallied_processDue fails.follows fails.failing tallied
  | _ => exact tallied

theorem tallied_along {policy : SupplierRetryPolicy} {id : Id} {s : Supply} (start : s.jobs = [])
    {rs : List SupplyRequest} (along : Trace.Along step
      (fun s r => ∀ job ∈ r.handled s.jobs, job.id = id → FailsUnder policy r job) s rs) :
    JobKeys (run s rs) ∧ ∀ job, jobOf (run s rs) id = some job →
      TalliedAs policy.maxAttempts (history id s rs) job.getReplenishmentSupplier :=
  history_along (fun _ counts => by cases counts)
    (fun _ _ _ fails tallied => tallied_handler fails tallied) start along

theorem maxAttempts_pos (retryPolicy : InventoryRecord) :
    0 < (resolveRetryPolicy retryPolicy).maxAttempts :=
  lt_of_lt_of_le zero_lt_one (le_max_left _ _)

theorem not_swept {s : Supply} {id : Id} (keys : JobKeys s)
    (dead : ∀ job, jobOf s id = some job → textOf (job.supplier "nextRetryAt") = none)
    (env : SupplierEnv) (context : RequestContext) (dto : SweepDto) (status : TransportStatus) :
    .delivered status ∉ eventsAt id s ⟨env, context, .runDueRetries dto⟩ := by
  intro swept
  rw [eventsAt] at swept
  split at swept
  · rename_i job found
    obtain ⟨listed, here⟩ := Rows.find_some found
    have stored : jobOf s id = some job := by
      rw [jobOf, ← here]
      exact Rows.find_of_mem keys.unique ((handled_unique keys.unique _).1 job listed)
    have idle : isDue env.now job = false := not_due_of_dead (dead job stored)
    change JobEvent.delivered status ∈
      deliveredEvents (processDueSupplierRetryTx env ⟨dto.source, dto.note⟩ job).delivery at swept
    cases @processDue_cases env job ⟨dto.source, dto.note⟩ with
    | left answer is | dispatched source due is => simp [is, deliveredEvents] at swept
    | delivered connector runtime due is =>
      rw [(dueRetry_some due).2.2.1] at idle
      cases idle
  · simp at swept

/-- Along a run in which every delivery of the job fails and is retried under the connector's
policy, the job is a dead letter exactly from the failed delivery at which the deliveries since the
handoff and the retries that were queued by hand reach the policy's limit, and no sweep delivers a
dead letter. When no retry was queued by hand, the deliveries are exactly the limit then. -/
theorem failed_dead_lettered {retryPolicy : InventoryRecord} {id : Id} {s : Supply}
    (start : s.jobs = []) {rs : List SupplyRequest}
    (along : Trace.Along step (fun s r => ∀ job ∈ r.handled s.jobs, job.id = id →
      FailsUnder (resolveRetryPolicy retryPolicy) r job) s rs)
    {t : Tally}
    (tallied : tally (resolveRetryPolicy retryPolicy).maxAttempts (history id s rs) = some t) :
    (∀ job, jobOf (run s rs) id = some job →
      isTextAt job "deadLetterAt" = t.deadLettered) ∧
    (t.queued = 0 → OnTime (resolveRetryPolicy retryPolicy).maxAttempts t) ∧
    (t.deadLettered = true → ∀ env context dto status,
      .delivered status ∉ eventsAt id (run s rs) ⟨env, context, .runDueRetries dto⟩) := by
  obtain ⟨keys, counted⟩ := tallied_along start along
  refine ⟨fun job stored => ?_, tally_onTime (maxAttempts_pos retryPolicy) tallied,
    fun dead => not_swept keys fun job stored => ((counted job stored t tallied).dead dead).2⟩
  have agrees := counted job stored t tallied
  cases dead : t.deadLettered with
  | true => exact (agrees.dead dead).1
  | false =>
    rw [isTextAt]
    exact Option.isSome_eq_false_iff.mpr (Option.isNone_iff_eq_none.mpr (agrees.live dead).1)

def pushPolicy : InventoryRecord := [("enabled", .bool true), ("initialDelayMs", .num 0)]

def failedOrder : List SupplyRequest :=
  dairyOrder pushes (.failed "fetch failed") ++
    [dairySweep 5 (.failed "fetch failed"), dairySweep 6 (.failed "fetch failed")]

theorem failedOrder_dead_lettered :
    (∀ job, jobOf (run dairy failedOrder) 100 = some job → isTextAt job "deadLetterAt" = true) ∧
    OnTime (resolveRetryPolicy pushPolicy).maxAttempts ⟨3, 0, true⟩ ∧
    .delivered .failed ∉ eventsAt 100 (run dairy failedOrder)
      (dairySweep 7 (.failed "fetch failed")) := by
  have start : dairy.jobs = [] := rfl
  have along : Trace.Along step (fun s r => ∀ job ∈ r.handled s.jobs, job.id = 100 →
      FailsUnder (resolveRetryPolicy pushPolicy) r job) dairy failedOrder := by decide +kernel
  have counts : tally (resolveRetryPolicy pushPolicy).maxAttempts (history 100 dairy failedOrder) =
      some ⟨3, 0, true⟩ := by decide +kernel
  obtain ⟨dead, onTime, left⟩ := failed_dead_lettered start along counts
  exact ⟨dead, onTime rfl, left rfl _ _ _ _⟩

/-- A retry is queued by hand after the failed handoff, and the job is a dead letter after two of
the three deliveries. -/
theorem queuedOrder_dead_lettered : let rs := dairyOrder pushes (.failed "fetch failed") ++
      [dairyAt pushes 5 (.failed "fetch failed") (.supplier 100 (.queueRetry {})),
        dairySweep 6 (.failed "fetch failed")]
    Trace.Along step (fun s r => ∀ job ∈ r.handled s.jobs, job.id = 100 →
      FailsUnder (resolveRetryPolicy pushPolicy) r job) dairy rs ∧
    history 100 dairy rs = [.delivered .failed, .queued, .delivered .failed, .handedOff] ∧
    (jobOf (run dairy rs) 100).any (isTextAt · "deadLetterAt") ∧
    (resolveRetryPolicy pushPolicy).maxAttempts = 3 := by
  decide +kernel

end Exetron.Replenishment
