import Exetron.Replenishment.RetryLimit

/-!
# The connector's retry policy

What a connector's policy says of a failed push, and what is decided of it. The classification of
an answer marks every network error and every transient status as retryable, whatever the policy
says.
-/

namespace Exetron.Replenishment

open Lib Inventory.Service InventoryReplenishmentJob

/-- How a push fails: nothing is sent, nothing comes back, or an answer is not accepted. -/
inductive PushFailure where
  | unsent
  | network
  | http (status : Nat)
  deriving DecidableEq

def pushFailure (runtime : SupplierConnectorRuntime) (answer : HttpAnswer) : Option PushFailure :=
  match runtime.endpoint with
  | none => some .unsent
  | some _ => match answer with
    | .failed _ => some .network
    | .answered status _ =>
      if status ∈ runtime.acceptedStatusCodes then none else some (.http status)

/-- Network errors only with `retryOnNetworkError`, HTTP failures only with a listed status. -/
def SupplierRetryPolicy.allows (policy : SupplierRetryPolicy) : PushFailure → Bool
  | .unsent => false
  | .network => policy.retryOnNetworkError
  | .http status => status ∈ policy.retryableHttpStatusCodes

def MayRetry (runtime : SupplierConnectorRuntime) (attempts : ℚ) (answer : HttpAnswer) : Prop :=
  ∃ policy ∈ enabledPolicy runtime, attempts + 1 < policy.maxAttempts ∧
    ∃ failure ∈ pushFailure runtime answer, policy.allows failure = true

instance (runtime : SupplierConnectorRuntime) (attempts : ℚ) (answer : HttpAnswer) :
    Decidable (MayRetry runtime attempts answer) := by
  unfold MayRetry
  infer_instance

/-- What the classification of an answer marks as retryable. -/
def PushFailure.classedRetryable : PushFailure → Bool
  | .unsent => false
  | .network => true
  | .http status => isTransientHttpStatus status

def Overridden (runtime : SupplierConnectorRuntime) (attempts : ℚ) (answer : HttpAnswer) : Prop :=
  ∃ policy ∈ enabledPolicy runtime, attempts + 1 < policy.maxAttempts ∧
    ∃ failure ∈ pushFailure runtime answer,
      failure.classedRetryable = true ∧ policy.allows failure = false

/-- The two calls that push an order: the handoff of a job and the retry of one that is due. -/
inductive Push where
  | handoff (context : RequestContext) (input : HandoffReplenishmentJobDto)
  | retry

namespace Push

variable (env : SupplierEnv) (connector : IntegrationRegistryEntry)
  (current : InventoryReplenishmentJob)

def execution : Push → TransportHandoffExecution
  | .handoff _ input =>
    executeHandoff env connector (resolveSupplierConnectorRuntime connector) input current
  | .retry => pushRetry env connector (resolveSupplierConnectorRuntime connector) current

def attempts : Push → ℚ
  | .handoff _ _ => 0
  | .retry => retryAttemptCount current.getReplenishmentSupplier

def failedState (push : Push) : InventoryReplenishmentJob :=
  match push with
  | .handoff context input => current.putSupplier env.now
      (handedOff env context input (some connector) (some (push.execution env connector current)))
  | .retry => failRetry env.now (push.execution env connector current) current

def decided (push : Push) : Except ApiException InventoryReplenishmentJob :=
  let runtime := resolveSupplierConnectorRuntime connector
  let execution := push.execution env connector current
  match push with
  | .handoff _ _ =>
    afterFailedHandoff env runtime execution (push.failedState env connector current)
  | .retry => afterFailedRetry env runtime execution (push.failedState env connector current)

def decision (push : Push) : RetryDecision :=
  resolveHttpPushRetryDecision (push.failedState env connector current).getReplenishmentSupplier
    (resolveSupplierConnectorRuntime connector) (push.execution env connector current)

end Push

def Scheduled (job : InventoryReplenishmentJob) : Prop :=
  isQueued job = true ∧ ∃ t, job.supplier "nextRetryAt" = some (isoText t)

def Final (job : InventoryReplenishmentJob) : Prop := textOf (job.supplier "nextRetryAt") = none

/-- The job is scheduled when it is to be retried, and final otherwise. -/
structure CarriedOut (decision : RetryDecision) (job : InventoryReplenishmentJob) : Prop where
  scheduled : decision.shouldRetry = true → Scheduled job
  final : decision.shouldRetry = false → Final job

/-- A failed push is retried just when the policy allows it below the limit, and the job is left as
the decision says. -/
def FollowsPolicy (env : SupplierEnv) (connector : IntegrationRegistryEntry)
    (current : InventoryReplenishmentJob) (push : Push) : Prop :=
  (push.execution env connector current).status = .failed →
    ((push.decision env connector current).shouldRetry = true ↔
      MayRetry (resolveSupplierConnectorRuntime connector) (push.attempts current)
        (env.fetch current.id)) ∧
    ∀ job, push.decided env connector current = .ok job →
      CarriedOut (push.decision env connector current) job

section
variable {now : Instant} {answer : HttpAnswer} {prepared : TransportHandoffExecution}
  {runtime : SupplierConnectorRuntime} {policy : SupplierRetryPolicy}

theorem mem_of_contains {text part : String} (found : contains text part = true) {c : Char}
    (listed : c ∈ part.toList) : c ∈ text.toList :=
  (of_decide_eq_true found : part.toList <:+: text.toList).subset listed

theorem lowerChar_digit {c : Char} (digit : c.isDigit = true) : Text.lowerChar c = c := by
  have range : 48 ≤ c.toNat ∧ c.toNat ≤ 57 := by
    simpa [Char.isDigit, UInt32.le_iff_toNat_le] using digit
  have not_capital : ¬('A' ≤ c ∧ c ≤ 'Z') := by
    rintro ⟨capital, _⟩
    have least : 65 ≤ c.toNat := capital
    omega
  rw [Text.lowerChar, if_neg not_capital, if_neg (by omega)]

theorem mem_returned {status : Nat} {c : Char} (listed : c ∈ (Text.toLowerCase
      ("HTTP push delivery returned " ++ toString status ++ ".")).toList) :
    c ∈ "http push delivery returned .".toList ∨ c.isDigit = true := by
  rw [Text.toLowerCase, String.toList_ofList, String.toList_append, String.toList_append,
    List.map_append, List.map_append] at listed
  rcases List.mem_append.mp listed with front | stop
  · rcases List.mem_append.mp front with word | digit
    · left
      have words : "HTTP push delivery returned ".toList.map Text.lowerChar ⊆
          "http push delivery returned .".toList := by decide +kernel
      exact words word
    · right
      obtain ⟨d, isDigit, rfl⟩ := List.mem_map.mp digit
      rw [Nat.toString_eq_repr, Nat.toList_repr] at isDigit
      have digit := Nat.isDigit_of_mem_toDigits (by decide) (by decide) isDigit
      rw [lowerChar_digit digit]
      exact digit
  · left
    have dots : ".".toList.map Text.lowerChar ⊆ "http push delivery returned .".toList := by
      decide +kernel
    exact dots stop

theorem not_contains_returned (status : Nat) {part : String} {c : Char} (listed : c ∈ part.toList)
    (foreign : c ∉ "http push delivery returned .".toList) (letter : c.isDigit = false) :
    contains (Text.toLowerCase ("HTTP push delivery returned " ++ toString status ++ ".")) part =
      false := by
  rw [Bool.eq_false_iff]
  intro found
  rcases mem_returned (mem_of_contains found listed) with word | digit
  · exact foreign word
  · rw [letter] at digit
    cases digit

theorem retryClass_refused (key : Option String) (status : Nat) (body : InventoryRecord)
    (mapped : Option SupplierStatus) :
    (classifyInventorySupplierProviderHttpPushResult key (some status) false false body
      mapped).retryClass = if isTransientHttpStatus status then .retryable else .terminal := by
  by_cases unauthorized : status = 401 ∨ status = 403
  · have steady : isTransientHttpStatus status = false := by
      rcases unauthorized with rfl | rfl <;> decide
    simp [classifyInventorySupplierProviderHttpPushResult, unauthorized, steady]
  · by_cases transient : isTransientHttpStatus status <;>
      simp [classifyInventorySupplierProviderHttpPushResult, unauthorized, transient]

theorem isRetryable_reported {execution : TransportHandoffExecution} {report : PushReport}
    (reported : execution.report = some report) {message : String}
    (said : execution.errorMessage = some message)
    (plain : ∀ part ∈ ["fetch failed", "network", "abort", "timeout"],
      contains (Text.toLowerCase message) part = false) :
    isRetryable policy execution = (decide (report.retryClass = .retryable) ||
      report.httpStatus.any fun status =>
        decide (0 < status ∧ status ∈ policy.retryableHttpStatusCodes)) := by
  simp only [List.forall_mem_cons] at plain
  simp [isRetryable, isRetryableHttpStatus, reported, said, plain]

theorem push_failed_iff :
    (executeInventorySupplierHttpPushDelivery now answer prepared runtime).status = .failed ↔
      (pushFailure runtime answer).isSome = true := by
  unfold executeInventorySupplierHttpPushDelivery pushFailure
  cases runtime.endpoint with
  | none => simp
  | some endpoint =>
    cases answer with
    | failed message => simp
    | answered status body =>
      by_cases accepted : status ∈ runtime.acceptedStatusCodes <;> simp [accepted]

theorem isRetryable_push (positive : ∀ status ∈ policy.retryableHttpStatusCodes, 0 < status)
    {failure : PushFailure} (failed : pushFailure runtime answer = some failure) :
    isRetryable policy (executeInventorySupplierHttpPushDelivery now answer prepared runtime) =
      (failure.classedRetryable || policy.allows failure) := by
  unfold pushFailure at failed
  unfold executeInventorySupplierHttpPushDelivery
  cases endpoint : runtime.endpoint with
  | none =>
    rw [endpoint] at failed
    obtain rfl := Option.some.inj failed
    rw [isRetryable_reported rfl rfl (by decide +kernel)]
    rfl
  | some path =>
    rw [endpoint] at failed
    cases answer with
    | failed message =>
      obtain rfl := Option.some.inj failed
      simp [isRetryable, reportOf, classifyInventorySupplierProviderHttpPushResult,
        PushFailure.classedRetryable]
    | answered status body =>
      by_cases accepted : status ∈ runtime.acceptedStatusCodes
      · simp [accepted] at failed
      · have refused : (if status ∈ runtime.acceptedStatusCodes then none
            else some (PushFailure.http status)) = some failure := failed
        rw [if_neg accepted] at refused
        obtain rfl := Option.some.inj refused
        have plain : ∀ part ∈ ["fetch failed", "network", "abort", "timeout"],
            contains (Text.toLowerCase
              ("HTTP push delivery returned " ++ toString status ++ ".")) part = false := by
          simp only [List.forall_mem_cons]
          exact ⟨not_contains_returned status (c := 'f') (by simp) (by simp) rfl,
            not_contains_returned status (c := 'w') (by simp) (by simp) rfl,
            not_contains_returned status (c := 'b') (by simp) (by simp) rfl,
            not_contains_returned status (c := 'm') (by simp) (by simp) rfl, by simp⟩
        have said : (if decide (status ∈ runtime.acceptedStatusCodes) = true then none
            else some ("HTTP push delivery returned " ++ toString status ++ ".")) =
              some ("HTTP push delivery returned " ++ toString status ++ ".") :=
          if_neg (by simpa using accepted)
        rw [isRetryable_reported rfl said plain]
        by_cases transient : isTransientHttpStatus status
        · simp [reportOf, accepted, retryClass_refused, transient, PushFailure.classedRetryable]
        · simpa [reportOf, accepted, retryClass_refused, transient, PushFailure.classedRetryable,
            SupplierRetryPolicy.allows] using positive status

end

section
variable {runtime : SupplierConnectorRuntime} {connector : IntegrationRegistryEntry}

theorem shouldRetry_iff {record : InventoryRecord} {execution : TransportHandoffExecution}
    (failed : execution.status = .failed) :
    (resolveHttpPushRetryDecision record runtime execution).shouldRetry = true ↔
      ∃ policy ∈ enabledPolicy runtime, retryAttemptCount record + 1 < policy.maxAttempts ∧
        isRetryable policy execution = true := by
  cases enabled : enabledPolicy runtime with
  | none => simp [resolveHttpPushRetryDecision, enabled]
  | some policy =>
    by_cases retryable : isRetryable policy execution = true
    · simp [(decision_retryable enabled failed retryable record).1, retryable]
    · simp [resolveHttpPushRetryDecision, enabled, failed, retryable]

theorem mem_statusCodesOf {items : List Json} {status : Nat}
    (listed : status ∈ statusCodesOf items) : 100 ≤ status := by
  obtain ⟨item, _, read⟩ := List.mem_filterMap.mp (List.mem_of_mem_take listed)
  obtain ⟨n, _, kept⟩ := Option.bind_eq_some_iff.mp read
  split at kept
  · rename_i whole
    obtain rfl := Option.some.inj kept
    have least : (100 : ℤ) ≤ n.num := by
      have same : (n.num : ℚ) = n := Rat.coe_int_num_of_den_eq_one whole.1
      exact_mod_cast same.symm ▸ whole.2.1
    omega
  · cases kept

theorem positive_of_resolved (retryPolicy : InventoryRecord) :
    ∀ status ∈ (resolveRetryPolicy retryPolicy).retryableHttpStatusCodes, 0 < status := by
  have either (statusCodes : List Nat) (small : ∀ status ∈ statusCodes, 100 ≤ status) :
      ∀ status ∈ orDefault statusCodes [408, 425, 429, 500, 502, 503, 504], 0 < status := by
    unfold orDefault
    split
    · decide
    · exact fun status listed => lt_of_lt_of_le (by decide) (small status listed)
  refine either _ fun status listed => ?_
  split at listed
  · exact mem_statusCodesOf listed
  · split at listed
    · exact mem_statusCodesOf listed
    · cases listed

theorem positive_of_enabled {policy : SupplierRetryPolicy}
    (enabled : enabledPolicy (resolveSupplierConnectorRuntime connector) = some policy) :
    ∀ status ∈ policy.retryableHttpStatusCodes, 0 < status := by
  have resolved := (Option.filter_eq_some_iff.mp enabled).1
  simp only [resolveSupplierConnectorRuntime] at resolved
  split at resolved
  · obtain rfl := Option.some.inj resolved
    exact positive_of_resolved _
  · cases resolved

end

section
variable {env : SupplierEnv} {job : InventoryReplenishmentJob} {now : Instant}

theorem scheduled_queueRetry (input : QueueRetryInput) (source : SupplierSource) :
    Scheduled (queueRetry now input source job) := by
  refine ⟨?_, now + ⌊retryDelayMs input⌋₊, ?_⟩
  · simp [isQueued, reconciliationStatus, reconciliation, queueRetry, supplier_patchSupplier,
      Record.get_cons]
  · simp [queueRetry, supplier_patchSupplier, Record.get_cons]

theorem final_markDeadLetter (letter : DeadLetter) :
    Final (markSupplierDeadLetterTx now letter job) := (dead_markDeadLetter letter).2

theorem final_handedOff {context : RequestContext} {input : HandoffReplenishmentJobDto}
    {connector : Option IntegrationRegistryEntry} {execution : Option TransportHandoffExecution} :
    Final (job.putSupplier now (handedOff env context input connector execution)) := by
  rw [Final, supplier_putSupplier]
  simp [handedOff, Record.get_cons, textOf]

variable {runtime : SupplierConnectorRuntime} {execution : TransportHandoffExecution}
  {failed : InventoryReplenishmentJob}

theorem carriedOut_queueRetry {decision : RetryDecision} (again : decision.shouldRetry = true)
    {input : QueueRetryInput} (queued : queueSupplierRetryTx env input failed = .ok job) :
    CarriedOut decision job := by
  obtain ⟨source, _, rfl⟩ := queueSupplierRetryTx_ok_iff.mp queued
  exact ⟨fun _ => scheduled_queueRetry input source, fun ended => by simp [again] at ended⟩

theorem carriedOut_final {decision : RetryDecision} (ended : ¬decision.shouldRetry = true)
    (final : Final job) : CarriedOut decision job :=
  ⟨fun again => absurd again ended, fun _ => final⟩

theorem carriedOut_handoff (decided : afterFailedHandoff env runtime execution failed = .ok job)
    (final : Final failed) : CarriedOut
      (resolveHttpPushRetryDecision failed.getReplenishmentSupplier runtime execution) job := by
  simp only [afterFailedHandoff] at decided
  split at decided
  · exact carriedOut_queueRetry ‹_› decided
  · rename_i ended
    refine carriedOut_final ended ?_
    split at decided
    · obtain rfl := Except.ok.inj decided
      exact final_markDeadLetter _
    · obtain rfl := Except.ok.inj decided
      exact final

theorem carriedOut_retry (decided : afterFailedRetry env runtime execution failed = .ok job) :
    CarriedOut
      (resolveHttpPushRetryDecision failed.getReplenishmentSupplier runtime execution) job := by
  simp only [afterFailedRetry] at decided
  split at decided
  · exact carriedOut_queueRetry ‹_› decided
  · rename_i ended
    obtain rfl := Except.ok.inj decided
    exact carriedOut_final ended (final_markDeadLetter _)

variable {connector : IntegrationRegistryEntry} {current : InventoryReplenishmentJob}

theorem carriedOut_push {push : Push} (decided : push.decided env connector current = .ok job) :
    CarriedOut (push.decision env connector current) job := by
  unfold Push.decision
  unfold Push.decided at decided
  cases push with
  | handoff context input =>
    dsimp only at decided
    refine carriedOut_handoff decided ?_
    unfold Push.failedState
    dsimp only
    exact final_handedOff
  | retry => 
    dsimp only at decided
    exact carriedOut_retry decided

theorem attempts_handedOff {context : RequestContext} {input : HandoffReplenishmentJobDto}
    {connector : Option IntegrationRegistryEntry}
    {execution : Option TransportHandoffExecution} : retryAttemptCount (job.putSupplier now
      (handedOff env context input connector execution)).getReplenishmentSupplier = 0 := by
  have none : (handedOff env context input connector execution).get "retryAttemptCount" = none := by
    simp [handedOff, Record.get_cons]
  rw [getReplenishmentSupplier_putSupplier, retryAttemptCount, none]
  rfl

theorem attempts_failRetry : retryAttemptCount
    (failRetry now execution job).getReplenishmentSupplier =
      retryAttemptCount job.getReplenishmentSupplier := by
  rw [failRetry, retryAttemptCount, supplier_patch_other (by simp) (by simp [Record.get_cons])]
  rfl

theorem attempts_failedState (push : Push) :
    retryAttemptCount (push.failedState env connector current).getReplenishmentSupplier =
      push.attempts current := by
  unfold Push.failedState Push.attempts
  cases push with
  | handoff context input => exact attempts_handedOff
  | retry => exact attempts_failRetry

theorem execution_push (push : Push) {policy : SupplierRetryPolicy}
    (enabled : enabledPolicy (resolveSupplierConnectorRuntime connector) = some policy)
    (current : InventoryReplenishmentJob) : ∃ prepared, push.execution env connector current =
      executeInventorySupplierHttpPushDelivery env.now (env.fetch current.id) prepared
        (resolveSupplierConnectorRuntime connector) := by
  have mode := (of_decide_eq_true (Option.filter_eq_some_iff.mp enabled).2).1
  unfold Push.execution
  cases push with
  | handoff context input =>
    unfold executeHandoff
    exact ⟨_, if_pos mode⟩
  | retry =>
    unfold pushRetry
    exact ⟨_, rfl⟩

theorem decides_retry_iff {push : Push}
    (failed : (push.execution env connector current).status = .failed) :
    (push.decision env connector current).shouldRetry = true ↔
      ∃ policy ∈ enabledPolicy (resolveSupplierConnectorRuntime connector),
        push.attempts current + 1 < policy.maxAttempts ∧
          ∃ failure ∈ pushFailure (resolveSupplierConnectorRuntime connector)
            (env.fetch current.id), (failure.classedRetryable || policy.allows failure) = true := by
  rw [Push.decision, shouldRetry_iff failed, attempts_failedState]
  refine exists_congr fun policy => and_congr_right fun enabled => and_congr_right fun _ => ?_
  obtain ⟨prepared, pushed⟩ := execution_push push enabled current
  rw [pushed] at failed ⊢
  obtain ⟨failure, isFailure⟩ := Option.isSome_iff_exists.mp (push_failed_iff.mp failed)
  rw [isRetryable_push (positive_of_enabled enabled) isFailure, isFailure]
  simp

/-- The policy is followed just when the classification does not override it. -/
theorem followsPolicy_iff (env : SupplierEnv) (connector : IntegrationRegistryEntry)
    (current : InventoryReplenishmentJob) (push : Push) : FollowsPolicy env connector current push ↔
      ¬Overridden (resolveSupplierConnectorRuntime connector) (push.attempts current)
        (env.fetch current.id) := by
  constructor
  · rintro follows ⟨policy, enabled, more, failure, isFailure, classed, refused⟩
    obtain ⟨prepared, pushed⟩ := execution_push push enabled current
    have failed : (push.execution env connector current).status = .failed := by
      rw [pushed]
      exact push_failed_iff.mpr (Option.isSome_iff_exists.mpr ⟨failure, isFailure⟩)
    have again := (decides_retry_iff failed).mpr
      ⟨policy, enabled, more, failure, isFailure, by rw [classed, Bool.true_or]⟩
    obtain ⟨policy', enabled', _, failure', isFailure', allowed⟩ := (follows failed).1.mp again
    obtain rfl := Option.some.inj (enabled.symm.trans enabled')
    obtain rfl := Option.some.inj (isFailure.symm.trans isFailure')
    rw [refused] at allowed
    cases allowed
  · intro kept failed
    refine ⟨?_, fun job decided => carriedOut_push decided⟩
    rw [decides_retry_iff failed, MayRetry]
    refine exists_congr fun policy => and_congr_right fun enabled => and_congr_right fun more =>
      exists_congr fun failure => and_congr_right fun isFailure => ?_
    rw [Bool.or_eq_true]
    refine ⟨fun retried => ?_, .inr⟩
    rcases retried with classed | allowed
    · by_contra refused
      exact kept ⟨policy, enabled, more, failure, isFailure, classed, by simpa using refused⟩
    · exact allowed

end

/-- The dairy takes pushes, and none is to be tried again after a network error. -/
def unrepeated : InventoryRecord :=
  [("mode", .str "HTTP_PUSH"),
    ("endpoint", .str "https://dairy"),
    ("retryPolicy", .obj [("enabled", .bool true), ("retryOnNetworkError", .bool false)])]

def dispatchedJob : InventoryReplenishmentJob where
  id := 100
  tenantId := 1
  storeId := none
  warehouseId := none
  status := .dispatched
  summary := .null
  artifact := .null
  updatedAt := 3

/-- The push of a handoff meets a network error, and is queued again. -/
theorem networkError_retried : ¬∀ (env : SupplierEnv) (connector : IntegrationRegistryEntry)
      (current : InventoryReplenishmentJob) (push : Push),
      FollowsPolicy env connector current push := by
  intro follows
  let request := dairyAt unrepeated 4 (.failed "fetch failed") (.dispatch 100)
  let push : Push := .handoff request.context { supplierName := "Dairy", connectorKey := "dairy" }
  have failed : (push.execution request.env (dairyConnector unrepeated) dispatchedJob).status =
      .failed := by decide +kernel
  have again : (push.decision request.env (dairyConnector unrepeated)
      dispatchedJob).shouldRetry = true := by decide +kernel
  have refused : ¬MayRetry (resolveSupplierConnectorRuntime (dairyConnector unrepeated))
      (push.attempts dispatchedJob) (request.env.fetch dispatchedJob.id) := by decide +kernel
  exact refused ((follows _ _ _ push failed).1.mp again)

end Exetron.Replenishment
