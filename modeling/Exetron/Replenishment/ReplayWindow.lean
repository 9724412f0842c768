import Exetron.Lib.Window
import Exetron.Replenishment.Duplicates
import Exetron.Replenishment.Steps

/-!
# The replay window

An order remembers the messages it took last, on either channel. From one handoff to the next what
it remembers is a window over the ids it accepted, and nothing else the service does moves it.
-/

namespace Exetron.Replenishment

open Lib Inventory.Service InventoryReplenishmentJob Record

variable {now : Instant} {runtime : SupplierConnectorRuntime} {r : SupplyRequest}

/-- The channels whose messages an order remembers. -/
inductive ReplayChannel where
  | webhook | fileImport
  deriving DecidableEq

def ReplayChannel.listKey : ReplayChannel → String
  | .webhook => "webhookDeliveries"
  | .fileImport => "imports"

def ReplayChannel.idKey : ReplayChannel → String
  | .webhook => "deliveryId"
  | .fileImport => "importId"

def replayIds (channel : ReplayChannel) (job : InventoryReplenishmentJob) : List String :=
  (entriesOf ((replayOf job).get channel.listKey)).map fun entry =>
    (Json.orElse (entry.get channel.idKey) (.str "")).toText

def replayWindow (connector : IntegrationRegistryEntry) : Nat :=
  ⌊(resolveSupplierConnectorRuntime connector).replayWindowSize⌋₊

namespace SupplierMessage

def channel : SupplierMessage → ReplayChannel
  | .webhook _ => .webhook
  | .fileImport _ => .fileImport

/-- The message is neither refused nor taken for one that was processed. -/
def isAccepted (env : SupplierEnv) (context : RequestContext) (message : SupplierMessage)
    (job : InventoryReplenishmentJob) : Bool :=
  match message with
  | .webhook input =>
    match receiveWebhook env context input job with
    | .ok (_, .accepted _) => true
    | _ => false
  | .fileImport input =>
    match receiveImport env context input job with
    | .ok (_, .accepted _) => true
    | _ => false

end SupplierMessage

def SupplierCall.message (env : SupplierEnv) (context : RequestContext) (call : SupplierCall)
    (job : InventoryReplenishmentJob) : Option SupplierMessage :=
  match call with
  | .webhook dto => some (.webhook dto)
  | .importUpdate dto => some (.fileImport dto)
  | .dropFile dto => (prepareFileDrop env context dto job).toOption.map .fileImport
  | _ => none

/-- The message a request applies to a job. -/
def SupplyRequest.accepted (r : SupplyRequest) (job : InventoryReplenishmentJob) :
    Option SupplierMessage :=
  match r.call with
  | .supplier _ call =>
    (call.message r.env r.context job).filter fun message =>
      message.isAccepted r.env r.context job
  | _ => none

def acceptedOn (channel : ReplayChannel) (message : Option SupplierMessage) : List String :=
  ((message.filter fun message => message.channel = channel).map SupplierMessage.id).toList

/-- The ids of a channel that a request adds to those accepted for the job. -/
def acceptedAt (channel : ReplayChannel) (id : Id) (s : Supply) (r : SupplyRequest) : List String :=
  match Rows.find InventoryReplenishmentJob.id (r.handled s.jobs) id with
  | some job => acceptedOn channel (r.accepted job)
  | none => []

def acceptedIds (channel : ReplayChannel) (id : Id) (s : Supply) (rs : List SupplyRequest) :
    List String :=
  Trace.recorded step (acceptedAt channel id) [] s rs

def KeepsReplay (job job' : InventoryReplenishmentJob) : Prop :=
  ∀ channel : ReplayChannel,
    (replayOf job').get channel.listKey = (replayOf job).get channel.listKey

section
variable {env : SupplierEnv} {context : RequestContext} {job job' : InventoryReplenishmentJob}

theorem keepsReplay_refl (job : InventoryReplenishmentJob) : KeepsReplay job job := fun _ => rfl

theorem keepsReplay_trans {a b c : InventoryReplenishmentJob} (hab : KeepsReplay a b)
    (hbc : KeepsReplay b c) : KeepsReplay a c := fun channel => (hbc channel).trans (hab channel)

theorem replayIds_kept (keeps : KeepsReplay job job') (channel : ReplayChannel) :
    replayIds channel job' = replayIds channel job := by
  rw [replayIds, replayIds, keeps channel]

theorem keepsReplay_patch {patch : InventoryRecord} (distinct : (patch.map Prod.fst).Nodup)
    (none : patch.get "replay" = none) : KeepsReplay job (job.patchSupplier now patch) := by
  intro channel
  rw [replayOf, supplier_patchSupplier _ _ _ distinct, none]
  rfl

theorem keepsReplay_patch_list {patch : InventoryRecord} {value : Json} (key : String)
    (distinct : (patch.map Prod.fst).Nodup)
    (other : ∀ channel : ReplayChannel, key ≠ channel.listKey)
    (put : patch.get "replay" = some (.obj ((replayOf job).set key value))) :
    KeepsReplay job (job.patchSupplier now patch) := by
  intro channel
  rw [replayOf, supplier_patchSupplier _ _ _ distinct, put]
  exact (get_set ..).trans (if_neg (other channel))

theorem queueRetry_keepsReplay {input : QueueRetryInput} {source : SupplierSource} :
    KeepsReplay job (queueRetry now input source job) :=
  keepsReplay_patch_list "retryQueue" (by simp) (by rintro (_ | _) <;> decide)
    (by simp [get_cons]; rfl)

theorem queueSupplierRetryTx_keepsReplay {input : QueueRetryInput}
    (queued : queueSupplierRetryTx env input job = .ok job') : KeepsReplay job job' := by
  obtain ⟨source, _, rfl⟩ := queueSupplierRetryTx_ok_iff.mp queued
  exact queueRetry_keepsReplay

theorem markDeadLetter_keepsReplay {input : DeadLetter} :
    KeepsReplay job (markSupplierDeadLetterTx now input job) :=
  keepsReplay_patch_list "deadLetters" (by simp) (by rintro (_ | _) <;> decide)
    (by simp [get_cons]; rfl)

theorem afterFailedRetry_keepsReplay {execution : TransportHandoffExecution}
    (decided : afterFailedRetry env runtime execution job = .ok job') : KeepsReplay job job' := by
  simp only [afterFailedRetry] at decided
  split at decided
  · exact queueSupplierRetryTx_keepsReplay decided
  · obtain rfl := Except.ok.inj decided
    exact markDeadLetter_keepsReplay

theorem afterFailedHandoff_keepsReplay {execution : TransportHandoffExecution}
    (decided : afterFailedHandoff env runtime execution job = .ok job') : KeepsReplay job job' := by
  simp only [afterFailedHandoff] at decided
  split at decided
  · exact queueSupplierRetryTx_keepsReplay decided
  · split at decided
    · obtain rfl := Except.ok.inj decided
      exact markDeadLetter_keepsReplay
    · obtain rfl := Except.ok.inj decided
      exact keepsReplay_refl _

theorem failRetry_keepsReplay {execution : TransportHandoffExecution} :
    KeepsReplay job (failRetry now execution job) :=
  keepsReplay_patch (by simp) (by simp [get_cons])

theorem deliverRetry_keepsReplay (connector : IntegrationRegistryEntry)
    (runtime : SupplierConnectorRuntime) :
    KeepsReplay job (deliverRetry env connector runtime job).job := by
  cases @deliverRetry_cases env job connector runtime with
  | completed done is =>
    rw [is]
    exact keepsReplay_patch_list "retryDispatches" (by simp)
      (by rintro (_ | _) <;> decide) (by simp [get_cons, retryMarker]; rfl)
  | decided job' failed next is =>
    rw [is]
    exact keepsReplay_trans failRetry_keepsReplay (afterFailedRetry_keepsReplay next)
  | undecided e failed next is =>
    rw [is]
    exact failRetry_keepsReplay

theorem processDue_keepsReplay (input : RunDueInput) :
    KeepsReplay job (processDueSupplierRetryTx env input job).job := by
  cases @processDue_cases env job input with
  | left answer is => exact is ▸ keepsReplay_refl job
  | dispatched source due is =>
    rw [is]
    exact keepsReplay_patch_list "retryDispatches" (by simp)
      (by rintro (_ | _) <;> decide) (by simp [get_cons, retryMarker]; rfl)
  | delivered connector runtime due is => exact is ▸ deliverRetry_keepsReplay connector runtime

theorem prepareDispatch_keepsReplay {input : RunDueInput}
    (prepared : prepareDispatch env context input job = .ok job') : KeepsReplay job job' := by
  obtain ⟨_, queued, queueing, rfl⟩ := prepareDispatch_ok prepared
  have first : KeepsReplay job queued := by
    rcases queueing with ⟨_, rfl⟩ | ⟨_, queueing⟩
    · exact keepsReplay_refl _
    · exact queueSupplierRetryTx_keepsReplay queueing
  split
  · exact keepsReplay_trans first (keepsReplay_patch (by simp) (by simp [get_cons]))
  · exact first

theorem dispatchRetry_keepsReplay (input : RunDueInput) :
    KeepsReplay job (dispatchReplenishmentSupplierRetry env context input job).job := by
  cases @dispatch_cases env context job input with
  | refused e is => exact is ▸ keepsReplay_refl job
  | processed queued input' prepared done answered is =>
    rw [is]
    exact keepsReplay_trans (prepareDispatch_keepsReplay prepared) (processDue_keepsReplay _)
  | takenBack queued input' prepared e failed is => exact is ▸ keepsReplay_refl job

theorem handle_keepsReplay {message : SupplierMessage}
    (refused : message.isAccepted env context job = false) :
    KeepsReplay job (message.handle env context job).job := by
  cases message with
  | webhook input =>
    simp only [SupplierMessage.isAccepted] at refused
    simp only [SupplierMessage.handle, processReplenishmentSupplierWebhook]
    split
    · exact keepsReplay_refl job
    · exact keepsReplay_patch (by simp) (by simp [get_cons])
    · exact keepsReplay_patch (by simp) (by simp [get_cons])
    · rename_i received
      rw [received] at refused
      cases refused
  | fileImport input =>
    simp only [SupplierMessage.isAccepted] at refused
    simp only [SupplierMessage.handle, importReplenishmentSupplierUpdate]
    split
    · exact keepsReplay_refl job
    · exact keepsReplay_patch (by simp) (by simp [get_cons])
    · exact keepsReplay_patch (by simp) (by simp [get_cons])
    · rename_i received
      rw [received] at refused
      cases refused

/-- What an accepted message leaves: its id comes before the ones remembered. -/
structure Remembers (channel : ReplayChannel) (id : String) (size : Nat)
    (job job' : InventoryReplenishmentJob) : Prop where
  pushed : replayIds channel job' = Window.push size id (replayIds channel job)
  others : ∀ other ≠ channel, replayIds other job' = replayIds other job

theorem entriesOf_appendReplayMarker (current : Option Json) (marker : InventoryRecord)
    (limit : ℚ) : entriesOf (some (appendReplayMarker current marker limit)) =
      (marker :: entriesOf current).take ⌊limit⌋₊ := by
  unfold appendReplayMarker
  generalize (marker :: entriesOf current).take ⌊limit⌋₊ = entries
  show (entries.map Json.obj).filterMap _ = entries
  rw [List.filterMap_map]
  exact List.filterMap_some ..

theorem remembers_patch {patch marker : InventoryRecord} {limit : ℚ} {id : String}
    (channel : ReplayChannel) (distinct : (patch.map Prod.fst).Nodup)
    (put : patch.get "replay" = some (.obj ((replayOf job).set channel.listKey
      (appendReplayMarker ((replayOf job).get channel.listKey) marker limit))))
    (named : (Json.orElse (marker.get channel.idKey) (.str "")).toText = id) :
    Remembers channel id ⌊limit⌋₊ job (job.patchSupplier now patch) := by
  have replay : replayOf (job.patchSupplier now patch) = (replayOf job).set channel.listKey
      (appendReplayMarker ((replayOf job).get channel.listKey) marker limit) := by
    rw [replayOf, supplier_patchSupplier _ _ _ distinct, put]
    rfl
  constructor
  · rw [replayIds, replay, get_set, if_pos rfl, entriesOf_appendReplayMarker, List.map_take,
      List.map_cons, named]
    rfl
  · intro other distinct
    have apart : channel.listKey ≠ other.listKey := by
      cases channel <;> cases other <;> first | exact absurd rfl distinct | decide
    rw [replayIds, replay, get_set, if_neg apart]
    rfl

theorem receiveWebhook_accepted {input : ProcessWebhookDto} {acceptance : WebhookAcceptance}
    (received : receiveWebhook env context input job = .ok (runtime, .accepted acceptance)) :
    (∃ missing connector, connectorOf env job missing = .ok (connector, runtime)) ∧
      isProcessed job "webhookDeliveries" "deliveryId" (Text.trim input.deliveryId) = false := by
  simp only [receiveWebhook, except_bind_ok_iff] at received
  obtain ⟨_, _, ⟨connector, runtime'⟩, found, _, _, _, _, received⟩ := received
  split at received
  · cases received
  · rename_i new
    have same : runtime' = runtime := by
      split at received
      · cases received
      · obtain ⟨_, _, received⟩ := except_bind_ok_iff.mp received
        exact congrArg Prod.fst (Except.ok.inj received)
    exact ⟨⟨_, connector, same ▸ found⟩, by simpa using new⟩

theorem receiveImport_accepted {input : ImportSupplierUpdateDto} {verified : Bool}
    (received : receiveImport env context input job = .ok (runtime, .accepted verified)) :
    (∃ missing connector, connectorOf env job missing = .ok (connector, runtime)) ∧
      isProcessed job "imports" "importId" (Text.trim input.importId) = false := by
  simp only [receiveImport, except_bind_ok_iff] at received
  obtain ⟨_, _, ⟨connector, runtime'⟩, found, _, _, _, _, received⟩ := received
  split at received
  · cases received
  · rename_i new
    have same : runtime' = runtime := by
      split at received
      · cases received
      · exact congrArg Prod.fst (Except.ok.inj received)
    exact ⟨⟨_, connector, same ▸ found⟩, by simpa using new⟩

theorem handle_accepted {message : SupplierMessage}
    (accepted : message.isAccepted env context job = true) : ∃ missing connector runtime,
      connectorOf env job missing = .ok (connector, runtime) ∧ ¬message.IsRecorded job ∧
      Remembers message.channel message.id ⌊runtime.replayWindowSize⌋₊ job
        (message.handle env context job).job := by
  cases message with
  | webhook input =>
    simp only [SupplierMessage.isAccepted] at accepted
    split at accepted
    · rename_i runtime acceptance received
      obtain ⟨⟨missing, connector, found⟩, new⟩ := receiveWebhook_accepted received
      refine ⟨missing, connector, runtime, found, ?_, ?_⟩
      · exact fun recorded => absurd (new.symm.trans recorded) Bool.false_ne_true
      · simp only [SupplierMessage.handle, processReplenishmentSupplierWebhook, received]
        exact remembers_patch .webhook (by simp) (by simp [get_cons]; rfl) rfl
    · cases accepted
  | fileImport input =>
    simp only [SupplierMessage.isAccepted] at accepted
    split at accepted
    · rename_i runtime verified received
      obtain ⟨⟨missing, connector, found⟩, new⟩ := receiveImport_accepted received
      refine ⟨missing, connector, runtime, found, ?_, ?_⟩
      · exact fun recorded => absurd (new.symm.trans recorded) Bool.false_ne_true
      · simp only [SupplierMessage.handle, importReplenishmentSupplierUpdate, received]
        exact remembers_patch .fileImport (by simp) (by simp [get_cons]; rfl) rfl
    · cases accepted

theorem isRecorded_of_mem {message : SupplierMessage}
    (held : message.id ∈ replayIds message.channel job) : message.IsRecorded job := by
  have found {channel : ReplayChannel} {id : String} (held : id ∈ replayIds channel job) :
      isProcessed job channel.listKey channel.idKey id = true := by
    obtain ⟨entry, stands, rfl⟩ := List.mem_map.mp held
    unfold entriesOf at stands
    split at stands
    · rename_i items list
      obtain ⟨item, listed, is⟩ := List.mem_filterMap.mp stands
      rw [isProcessed, list]
      refine List.any_eq_true.mpr ⟨item, listed, decide_eq_true ?_⟩
      cases item with
      | obj fields =>
        obtain rfl := Option.some.inj is
        rfl
      | _ => cases is
    · cases stands
  cases message with
  | webhook input => exact found held
  | fileImport input => exact found held

end

theorem ofUpdate_keepsReplay {job : InventoryReplenishmentJob}
    {updated : Except ApiException InventoryReplenishmentJob}
    (keeps : ∀ job', updated = .ok job' → KeepsReplay job job') :
    KeepsReplay job (ofUpdate job updated).job := by
  cases updated with
  | ok job' => exact keeps job' rfl
  | error e => exact keepsReplay_refl job

/-- What a request that is no handoff does to what a job remembers. -/
inductive ReplayMoved (r : SupplyRequest) (job job' : InventoryReplenishmentJob) : Prop
  | kept (none : r.accepted job = none) (keeps : KeepsReplay job job')
  | accepted (message : SupplierMessage) (is : r.accepted job = some message)
      (missing : String) (connector : IntegrationRegistryEntry)
      (found : connectorOf r.env job missing =
        .ok (connector, resolveSupplierConnectorRuntime connector))
      (remembers : Remembers message.channel message.id (replayWindow connector) job job')

theorem accepted_new {job : InventoryReplenishmentJob} {message : SupplierMessage}
    (is : r.accepted job = some message) : message.id ∉ replayIds message.channel job := by
  obtain ⟨env, context, call⟩ := r
  cases call with
  | supplier jobId call =>
    obtain ⟨_, accepted⟩ := Option.filter_eq_some_iff.mp is
    obtain ⟨_, _, _, _, new, _⟩ := handle_accepted accepted
    exact fun held => new (isRecorded_of_mem held)
  | _ => cases is

theorem message_moved {job : InventoryReplenishmentJob} {jobId : Id} {call : SupplierCall}
    (message : SupplierMessage) (is : r.call = .supplier jobId call)
    (brings : call.message r.env r.context job = some message) :
    ReplayMoved r job (message.handle r.env r.context job).job := by
  have filtered : r.accepted job =
      (some message).filter fun message => message.isAccepted r.env r.context job := by
    rw [SupplyRequest.accepted, is]
    dsimp only
    rw [brings]
  rw [Option.filter_some] at filtered
  cases decided : message.isAccepted r.env r.context job with
  | false =>
    rw [decided] at filtered
    exact .kept filtered (handle_keepsReplay decided)
  | true =>
    rw [decided] at filtered
    obtain ⟨missing, connector, runtime, found, _, remembers⟩ := handle_accepted decided
    obtain ⟨_, _, _, resolved⟩ := connectorOf_ok_iff.mp found
    dsimp only at resolved
    rw [resolved] at found remembers
    exact .accepted message filtered missing connector found remembers

theorem handler_moved (r : SupplyRequest) (job : InventoryReplenishmentJob)
    (other : r.call.isHandoff = false) : ReplayMoved r job (r.handler job).job := by
  obtain ⟨env, context, call⟩ := r
  cases call with
  | supplier jobId call =>
    cases call with
    | handoff dto => cases other
    | webhook dto => exact message_moved (.webhook dto) rfl rfl
    | importUpdate dto => exact message_moved (.fileImport dto) rfl rfl
    | dropFile dto =>
      cases prepared : prepareFileDrop env context dto job with
      | error e =>
        refine .kept ?_ ?_
        · simp [SupplyRequest.accepted, SupplierCall.message, prepared, Except.toOption]
        · show KeepsReplay job (dropReplenishmentSupplierFile env context dto job).job
          rw [dropReplenishmentSupplierFile, prepared]
          exact keepsReplay_refl job
      | ok input =>
        have brings : (SupplierCall.dropFile dto).message env context job =
            some (.fileImport input) := by
          simp [SupplierCall.message, prepared, Except.toOption]
        have handled : (dropReplenishmentSupplierFile env context dto job).job =
            ((SupplierMessage.fileImport input).handle env context job).job := by
          rw [dropReplenishmentSupplierFile, prepared]
          rfl
        show ReplayMoved _ job (dropReplenishmentSupplierFile env context dto job).job
        rw [handled]
        exact message_moved _ rfl brings
    | updateStatus dto =>
      refine .kept rfl (ofUpdate_keepsReplay fun job' updated => ?_)
      simp only [updateReplenishmentSupplierStatus, except_bind_ok_iff] at updated
      obtain ⟨_, _, _, _, updated⟩ := updated
      obtain rfl := Except.ok.inj updated
      exact keepsReplay_patch (by simp) (by simp [get_cons])
    | syncStatus note =>
      refine .kept rfl (ofUpdate_keepsReplay fun job' updated => ?_)
      simp only [syncReplenishmentSupplierStatus, except_bind_ok_iff] at updated
      obtain ⟨_, _, updated⟩ := updated
      obtain rfl := Except.ok.inj updated
      exact keepsReplay_patch (by simp) (by simp [get_cons])
    | replay dto =>
      refine .kept rfl (ofUpdate_keepsReplay fun job' updated => ?_)
      simp only [replayReplenishmentSupplierReconciliation, except_bind_ok_iff] at updated
      obtain ⟨⟨runtime, source, processed⟩, _, updated⟩ := updated
      obtain rfl := Except.ok.inj updated
      cases source <;>
        exact keepsReplay_patch_list "operatorReplays" (by simp [pendingKey])
          (by rintro (_ | _) <;> decide) (by simp [get_cons, pendingKey]; rfl)
    | reopen dto =>
      refine .kept rfl (ofUpdate_keepsReplay fun job' updated => ?_)
      simp only [reopenReplenishmentSupplierDeadLetter, except_bind_ok_iff] at updated
      obtain ⟨_, _, _, _, updated⟩ := updated
      exact queueSupplierRetryTx_keepsReplay updated
    | queueRetry dto =>
      refine .kept rfl (ofUpdate_keepsReplay fun job' updated => ?_)
      simp only [queueReplenishmentSupplierRetry, except_bind_ok_iff] at updated
      obtain ⟨_, _, updated⟩ := updated
      exact queueSupplierRetryTx_keepsReplay updated
    | dispatchRetry dto => exact .kept rfl (dispatchRetry_keepsReplay dto)
  | queueRetrySweep dto =>
    exact .kept rfl (ofUpdate_keepsReplay fun _ => queueSupplierRetryTx_keepsReplay)
  | runDueRetries dto => exact .kept rfl (processDue_keepsReplay _)
  | _ => exact .kept rfl (keepsReplay_refl job)

theorem handoff_replayIds {env : SupplierEnv} {context : RequestContext}
    {job : InventoryReplenishmentJob} {input : HandoffReplenishmentJobDto}
    (made : (handoffReplenishmentJob env context input job).answer.isOk = true)
    (channel : ReplayChannel) :
    replayIds channel (handoffReplenishmentJob env context input job).job = [] := by
  have fresh (connector : Option IntegrationRegistryEntry)
      (execution : Option TransportHandoffExecution) : replayIds channel
        (job.putSupplier env.now (handedOff env context input connector execution)) = [] := by
    have none : (handedOff env context input connector execution).get "replay" = none := by
      simp [handedOff, get_cons]
    rw [replayIds, replayOf, supplier_putSupplier, none]
    rfl
  cases @handoff_cases env context job input with
  | refused e delivery is =>
    rw [is] at made
    cases made
  | byHand is => exact is ▸ fresh _ _
  | prepared connector found mode is => exact is ▸ fresh _ _
  | completed connector found push execution executed done is => exact is ▸ fresh _ _
  | failed connector found push execution executed undelivered job' next is =>
    rw [is]
    exact (replayIds_kept (afterFailedHandoff_keepsReplay next) channel).trans (fresh _ _)

/-- The request is no new handoff of the job, and its connector is the same as ever. -/
def KeepsOrder (connector : IntegrationRegistryEntry) (id : Id) (s : Supply)
    (r : SupplyRequest) : Prop :=
  ∀ job ∈ r.handled s.jobs, job.id = id → r.call.isHandoff = false ∧
    ∀ missing found, connectorOf r.env job missing = .ok found → found.1 = connector

theorem acceptedOn_other {channel : ReplayChannel} {message : SupplierMessage}
    (other : message.channel ≠ channel) : acceptedOn channel (some message) = [] := by
  simp [acceptedOn, other]

theorem jobOf_handled {s : Supply} (keys : JobKeys s) {id : Id} {job : InventoryReplenishmentJob}
    (found : Rows.find InventoryReplenishmentJob.id (r.handled s.jobs) id = some job) :
    jobOf s id = some job ∧ jobOf (step s r) id = some (r.handler job).job := by
  have handles : r.call.handles = true := by
    by_contra other
    rw [handled_of_other s.jobs (by simpa using other)] at found
    cases found
  obtain ⟨listed, unique⟩ := handled_unique keys.unique r
  obtain ⟨mem, keyed⟩ := Rows.find_some found
  have before : Rows.find InventoryReplenishmentJob.id s.jobs id = some job :=
    keyed ▸ Rows.find_of_mem keys.unique (listed job mem)
  have after := find_handleEach (handler_id r) unique s.jobs id
  rw [found, before] at after
  rw [step_handles s handles]
  exact ⟨before, after⟩

/-- What the job remembers is a window over what was accepted, also after one request more. -/
theorem step_shows {connector : IntegrationRegistryEntry} {channel : ReplayChannel} {id : Id}
    {h : List String} {s : Supply} (start : JobKeys s ∧ ∃ job, jobOf s id = some job ∧
      Window.Shows (replayWindow connector) h (replayIds channel job))
    (order : KeepsOrder connector id s r) :
    JobKeys (step s r) ∧ ∃ job, jobOf (step s r) id = some job ∧
      Window.Shows (replayWindow connector) (acceptedAt channel id s r ++ h)
        (replayIds channel job) := by
  obtain ⟨keys, job, stored, shows⟩ := start
  refine ⟨step_jobKeys keys r, ?_⟩
  cases found : Rows.find InventoryReplenishmentJob.id (r.handled s.jobs) id with
  | none =>
    have none : acceptedAt channel id s r = [] := by rw [acceptedAt, found]
    rw [none]
    cases step_jobStep keys r id with
    | handled job' before events found' after =>
      rw [found] at found'
      cases found'
    | moved job' job'' before events after supplier =>
      obtain rfl := Option.some.inj (stored.symm.trans before)
      refine ⟨job'', after, ?_⟩
      have keeps : KeepsReplay job job'' := fun channel => by
        simp only [replayOf, InventoryReplenishmentJob.supplier, supplier]
      rw [replayIds_kept keeps]
      exact shows
    | absent before events after =>
      rw [stored] at before
      cases before
  | some handled =>
    obtain ⟨before, after⟩ := jobOf_handled keys found
    obtain rfl := Option.some.inj (stored.symm.trans before)
    obtain ⟨mem, keyed⟩ := Rows.find_some found
    obtain ⟨other, same⟩ := order job mem keyed
    have adds : acceptedAt channel id s r = acceptedOn channel (r.accepted job) := by
      rw [acceptedAt, found]
    refine ⟨_, after, ?_⟩
    rw [adds]
    cases handler_moved r job other with
    | kept none keeps =>
      rw [none, replayIds_kept keeps]
      exact shows
    | accepted message is missing connector' found' remembers =>
      obtain rfl : connector' = connector := same _ _ found'
      rw [is]
      by_cases here : message.channel = channel
      · subst here
        have one : acceptedOn message.channel (some message) = [message.id] := by
          simp [acceptedOn]
        rw [one, remembers.pushed]
        exact shows.push (accepted_new is)
      · rw [acceptedOn_other here, remembers.others channel (Ne.symm here)]
        exact shows

/-- From a handoff on, whatever is called in whatever order, what a job remembers of a channel are
the last distinct ids it accepted, as many as the window of its connector holds. It holds no id
twice, and what it holds is not applied again. -/
theorem replayIds_exact {s : Supply} (keys : JobKeys s) {id : Id}
    {job₀ : InventoryReplenishmentJob} (stored : jobOf s id = some job₀) {r₀ : SupplyRequest}
    {dto : HandoffReplenishmentJobDto} (handoff : r₀.call = .supplier id (.handoff dto))
    (made : (r₀.handler job₀).answer.isOk = true) {connector : IntegrationRegistryEntry}
    {rs : List SupplyRequest} (order : Trace.Along step (KeepsOrder connector id) (step s r₀) rs)
    (channel : ReplayChannel) : ∃ job, jobOf (run (step s r₀) rs) id = some job ∧
      replayIds channel job =
        (acceptedIds channel id (step s r₀) rs).eraseDups.take (replayWindow connector) ∧
      (replayIds channel job).Nodup ∧
      ∀ r message, SupplyRequest.accepted r job = some message → message.channel = channel →
        message.id ∉ replayIds channel job := by
  have found : Rows.find InventoryReplenishmentJob.id (r₀.handled s.jobs) id = some job₀ := by
    obtain ⟨_, keyed⟩ := Rows.find_some stored
    rw [SupplyRequest.handled, handoff]
    show Rows.find _ (jobOf s id).toList id = _
    rw [stored]
    simp [Rows.find, keyed]
  have fresh : replayIds channel (r₀.handler job₀).job = [] := by
    obtain ⟨env, context, call⟩ := r₀
    obtain rfl : call = _ := handoff
    exact handoff_replayIds made channel
  have start : JobKeys (step s r₀) ∧ ∃ job, jobOf (step s r₀) id = some job ∧
      Window.Shows (replayWindow connector) [] (replayIds channel job) :=
    ⟨step_jobKeys keys r₀, _, (jobOf_handled keys found).2, by rw [fresh]; exact Window.shows_nil⟩
  obtain ⟨_, job, after, shows⟩ := Trace.run_recorded_along
    (Q := fun h s => JobKeys s ∧ ∃ job, jobOf s id = some job ∧
      Window.Shows (replayWindow connector) h (replayIds channel job))
    (fun h s r kept order => step_shows kept order) start order
  refine ⟨job, after, shows.eq_distinct, shows.distinct, fun r message accepted same => ?_⟩
  exact same ▸ accepted_new accepted

def waitingSupply : Supply where
  db := shop
  ingredients := []
  jobs := [waitingJob]

def clerkCalls (call : SupplierCall) : SupplyRequest := ⟨callingEnv, clerk, .supplier 1 call⟩

theorem connectorOf_calling {job : InventoryReplenishmentJob} {missing : String}
    {found : IntegrationRegistryEntry × SupplierConnectorRuntime}
    (connected : connectorOf callingEnv job missing = .ok found) : found.1 = callingConnector := by
  obtain ⟨key, _, offered, _⟩ := connectorOf_ok_iff.mp connected
  have first := List.mem_of_head? (required_ok_iff.mp offered)
  have listed := List.mem_filter.mp ((List.perm_insertionSort _ _).subset first)
  exact List.mem_singleton.mp listed.1

theorem clerkCalls_keepOrder {call : SupplierCall} {s : Supply}
    (other : (SupplyCall.supplier 1 call).isHandoff = false) :
    KeepsOrder callingConnector 1 s (clerkCalls call) :=
  fun _ _ _ => ⟨other, fun _ _ => connectorOf_calling⟩

/-- The order is handed off again and called back about twice. -/
theorem waitingSupply_replayIds :
    let handoff := clerkCalls (.handoff { supplierName := "Dairy", connectorKey := some "dairy" })
    let calls := [clerkCalls (.webhook { deliveryId := "d1", supplierStatus := .acknowledged }),
      clerkCalls (.webhook { deliveryId := "d2", supplierStatus := .delivered })]
    ∃ job, jobOf (run (step waitingSupply handoff) calls) 1 = some job ∧
      replayIds .webhook job = (acceptedIds .webhook 1 (step waitingSupply handoff)
        calls).eraseDups.take (replayWindow callingConnector) ∧
      (replayIds .webhook job).Nodup ∧
      ∀ r message, SupplyRequest.accepted r job = some message → message.channel = .webhook →
        message.id ∉ replayIds .webhook job := by
  intro handoff calls
  have order : Trace.Along step (KeepsOrder callingConnector 1) (step waitingSupply handoff)
      calls := ⟨clerkCalls_keepOrder rfl, clerkCalls_keepOrder rfl, trivial⟩
  have made : (handoff.handler waitingJob).answer.isOk = true := by
    show (SupplyRequest.handler (clerkCalls (.handoff
      { supplierName := "Dairy", connectorKey := some "dairy" })) waitingJob).answer.isOk = true
    decide +kernel
  exact replayIds_exact ⟨by decide, by decide⟩ rfl rfl made order .webhook

end Exetron.Replenishment
