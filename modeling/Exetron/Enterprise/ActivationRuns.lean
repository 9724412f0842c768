import Exetron.Enterprise.Approvals
import Exetron.Enterprise.Reached
import Exetron.Enterprise.Runtimes

/-!
# Activations over a run

What the operations that write the status of an activation request make of it. Two of them never
look at its readiness: a request is applied only after an approval just when no accepted creation
and no update of a status puts the status where the readiness would not.
-/

namespace Exetron.Enterprise

open Lib List

/-- The body of a call without force. -/
structure UnforcedBody where
  input : Json
  unforced : isTrue (input.get? "force") = false

inductive ActivationOperation where
  /-- Whatever other services make of the registry and the publications. -/
  | edit (registry : RegistryDb) (publications : List IntegrationPublication)
  | request (publicationId : Uuid) (input : Json)
  | requestInventory (input : Json)
  | updateStatus (id : Uuid) (input : Json)
  | apply (id : Uuid) (body : UnforcedBody)
  | install (installer : Installer) (id : Uuid) (body : UnforcedBody)

structure ActivationEvent where
  now : Moment
  operation : ActivationOperation

def ActivationDb.addActivation (s : ActivationDb)
    (answer : Except ApiException IntegrationActivationRequest) : ActivationDb :=
  match answer with
  | .ok row => { s with activations := s.activations ++ [row], nextUuid := s.nextUuid + 1 }
  | .error _ => { s with nextUuid := s.nextUuid + 1 }

def ActivationDb.withActivations (s : ActivationDb) (answer : Except ApiException
      (IntegrationActivationRequest × List IntegrationActivationRequest)) : ActivationDb :=
  match answer with
  | .ok (_, activations) => { s with activations }
  | .error _ => s

/-- The state of an answer, or the one before a call that fails. -/
def ActivationDb.answered (s : ActivationDb)
    (answer : Except ApiException (IntegrationActivationRequest × ActivationDb)) : ActivationDb :=
  match answer with
  | .ok (_, s') => s'
  | .error _ => s

variable (env : EnterpriseEnv)

def activationStep (s : ActivationDb) (e : ActivationEvent) : ActivationDb :=
  let new := env.uuid.text s.nextUuid
  match e.operation with
  | .edit registry publications => { s with registry, publications }
  | .request publicationId input =>
    s.addActivation (createIntegrationActivationRequest env s new publicationId input)
  | .requestInventory input => s.addActivation (createInventoryActivationRequest env s new input)
  | .updateStatus id input =>
    s.withActivations (updateIntegrationActivationRequestStatus env e.now id input s.activations)
  | .apply id body =>
    s.withActivations (applyIntegrationActivationRequest env e.now s id body.input)
  | .install installer id body =>
    s.answered (installIntegrationActivationRuntime env e.now installer s id body.input)

/-- No request has been made yet. -/
def ActivationDb.initial (registry : RegistryDb) (publications : List IntegrationPublication) :
    ActivationDb := ⟨registry, publications, [], 0⟩

def activationRun (registry : RegistryDb) (publications : List IntegrationPublication)
    (events : List ActivationEvent) : ActivationDb :=
  Trace.run (activationStep env) (.initial registry publications) events

def stepBlockingIssues (s : ActivationDb) (e : ActivationEvent)
    (request : IntegrationActivationRequest) : List String :=
  match e.operation with
  | .install .. =>
    (getActivationInstallReadinessSnapshot env (rolloutContext s request)).blockingIssues
  | _ => (activationReadiness env s request).blockingIssues

/-- A request becomes applied from an approval without blocking issues, and approved when its
readiness allows it. -/
structure ApprovesSoundly (s : ActivationDb) (e : ActivationEvent)
    (row : IntegrationActivationRequest) : Prop where
  applied : row.readStatus env = "APPLIED" →
    ∃ current ∈ s.activations, current.id = row.id ∧ (current.readStatus env = "APPLIED" ∨
      current.readStatus env = "APPROVED" ∧ stepBlockingIssues env s e current = [])
  approved : row.readStatus env = "APPROVED" →
    ∃ current ∈ s.activations, current.id = row.id ∧ (current.readStatus env = "APPROVED" ∨
      (activationReadiness env s current).canApprove = true)

def SoundStep (s : ActivationDb) (e : ActivationEvent) : Prop :=
  ∀ row ∈ (activationStep env s e).activations, ApprovesSoundly env s e row

def KeepsApproval (s : ActivationDb) (e : ActivationEvent) : Prop :=
  match e.operation with
  | .requestInventory input =>
    let status := env.normalized (textOr (input.get? "status") "PENDING")
    (createInventoryActivationRequest env s (env.uuid.text s.nextUuid) input).toBool = true →
      status ≠ "APPROVED" ∧ status ≠ "APPLIED"
  | .updateStatus id input =>
    let status := env.normalized (textOr (input.get? "status") "")
    ∀ current ∈ s.activations, current.id = id →
      (status = "APPLIED" → current.readStatus env = "APPLIED" ∨
        (activationReadiness env s current).canApply = true) ∧
      (status = "APPROVED" → current.readStatus env = "APPROVED" ∨
        (activationReadiness env s current).canApprove = true)
  | _ => True

variable {env} {s : ActivationDb} {e : ActivationEvent}

/-- Where a request comes from that is there after a step. -/
inductive ActivationMove (env : EnterpriseEnv) (s : ActivationDb) (e : ActivationEvent)
    (row : IntegrationActivationRequest) : Prop where
  | kept (stored : row ∈ s.activations)
  | requested (publicationId : Uuid) (input : Json)
      (is : e.operation = .request publicationId input)
      (made : createIntegrationActivationRequest env s (env.uuid.text s.nextUuid) publicationId
        input = .ok row)
  | requestedInventory (input : Json) (is : e.operation = .requestInventory input)
      (made : createInventoryActivationRequest env s (env.uuid.text s.nextUuid) input = .ok row)
  | decided (input : Json) (current : IntegrationActivationRequest)
      (is : e.operation = .updateStatus current.id input) (stored : current ∈ s.activations)
      (made : activationStatusDecided env e.now input current = .ok row)
  | applied (body : UnforcedBody) (current : IntegrationActivationRequest)
      (is : e.operation = .apply current.id body) (stored : current ∈ s.activations)
      (made : activationApplied env e.now s body.input current = .ok row)
  | installed (installer : Installer) (body : UnforcedBody) (current : IntegrationActivationRequest)
      (is : e.operation = .install installer current.id body) (stored : current ∈ s.activations)
      (admitted : (getActivationInstallReadinessSnapshot env
        (rolloutContext s current)).canInstall = true)
      (made : ∃ entry artifact,
        row = runtimeInstalled env e.now (rolloutContext s current) entry artifact)

theorem mem_addActivation {answer : Except ApiException IntegrationActivationRequest}
    {row : IntegrationActivationRequest} (h : row ∈ (s.addActivation answer).activations) :
    row ∈ s.activations ∨ answer = .ok row := by
  cases answer with
  | error e => exact .inl h
  | ok new =>
    rcases mem_append.mp h with old | is
    · exact .inl old
    · exact .inr (by rw [mem_singleton.mp is])

theorem mem_withActivations {answer : Except ApiException
      (IntegrationActivationRequest × List IntegrationActivationRequest)}
    {row : IntegrationActivationRequest} (h : row ∈ (s.withActivations answer).activations) :
    row ∈ s.activations ∨
      ∃ a activations, answer = .ok (a, activations) ∧ row ∈ activations := by
  cases answer with
  | error e => exact .inl h
  | ok done => exact .inr ⟨done.1, done.2, rfl, h⟩

theorem step_activation {row : IntegrationActivationRequest}
    (h : row ∈ (activationStep env s e).activations) : ActivationMove env s e row := by
  obtain ⟨now, operation⟩ := e
  cases operation with
  | edit registry publications => exact .kept h
  | request publicationId input =>
    rcases mem_addActivation h with old | made
    · exact .kept old
    · exact .requested publicationId input rfl made
  | requestInventory input =>
    rcases mem_addActivation h with old | made
    · exact .kept old
    · exact .requestedInventory input rfl made
  | updateStatus id input =>
    rcases mem_withActivations h with old | ⟨a, rows, made, member⟩
    · exact .kept old
    · rcases mem_updateOne made member with old | ⟨current, stored, rfl, changed⟩
      · exact .kept old
      · exact .decided input current rfl stored changed
  | apply id body =>
    rcases mem_withActivations h with old | ⟨a, rows, made, member⟩
    · exact .kept old
    · rcases mem_updateOne made member with old | ⟨current, stored, rfl, changed⟩
      · exact .kept old
      · exact .applied body current rfl stored changed
  | install installer id body =>
    simp only [activationStep] at h
    cases answer : installIntegrationActivationRuntime env now installer s id body.input with
    | error refused =>
      rw [answer] at h
      exact .kept h
    | ok done =>
      obtain ⟨request, s'⟩ := done
      obtain ⟨current, entry, tenantId, installed, installs⟩ :=
        installIntegrationActivationRuntime_ok answer
      obtain ⟨stored, keyed⟩ := Rows.find_some installs.found
      rw [answer, ActivationDb.answered, installs.db_eq] at h
      rcases Rows.mem_of_modify h with old | ⟨_, -, -, rfl⟩
      · exact .kept old
      · refine .installed installer body current (by rw [keyed]) stored ?_
          ⟨entry, _, installs.request_eq⟩
        exact installs.admitted.resolve_right (by rw [body.unforced]; exact Bool.false_ne_true)

variable {now : Moment} {input : Json} {current row : IntegrationActivationRequest}

theorem createIntegrationActivationRequest_ok {new publicationId : Uuid}
    (h : createIntegrationActivationRequest env s new publicationId input = .ok row) :
    row.id = new ∧ row.status = "PENDING" := by
  unfold createIntegrationActivationRequest at h
  obtain ⟨publication, -, made⟩ := except_bind_ok_iff.mp h
  obtain rfl := Except.ok.inj made
  exact ⟨rfl, rfl⟩

theorem createInventoryActivationRequest_ok {new : Uuid}
    (h : createInventoryActivationRequest env s new input = .ok row) :
    row.id = new ∧ row.status = env.normalized (textOr (input.get? "status") "PENDING") := by
  unfold createInventoryActivationRequest at h
  simp only [except_bind_ok_iff] at h
  obtain ⟨_, -, entry, -, made⟩ := h
  obtain rfl := Except.ok.inj made
  exact ⟨rfl, rfl⟩

theorem activationStatusDecided_ok (h : activationStatusDecided env now input current = .ok row) :
    row.id = current.id ∧ row.status = env.normalized (textOr (input.get? "status") "") := by
  unfold activationStatusDecided at h
  obtain ⟨_, -, made⟩ := except_bind_ok_iff.mp h
  obtain rfl := Except.ok.inj made
  exact ⟨rfl, rfl⟩

theorem activationApplied_ok (h : activationApplied env now s input current = .ok row) :
    row.id = current.id ∧ row.status = "APPLIED" ∧
      ((activationReadiness env s current).canApply = true ∨
        isTrue (input.get? "force") = true) := by
  unfold activationApplied at h
  simp only [except_bind_ok_iff, rejectIf_ok_iff] at h
  obtain ⟨_, admitted, publication, -, entry, -, made⟩ := h
  obtain rfl := Except.ok.inj made
  refine ⟨rfl, rfl, ?_⟩
  by_contra refused
  rw [not_or, Bool.not_eq_true, Bool.not_eq_true] at refused
  exact admitted refused

/-- Every request has an identifier of its own, given out before. -/
structure OwnActivations (env : EnterpriseEnv) (s : ActivationDb) : Prop where
  distinct : (s.activations.map (·.id)).Nodup
  issued : ∀ row ∈ s.activations, ∃ k < s.nextUuid, env.uuid.text k = row.id

theorem step_activationIds (env : EnterpriseEnv) (s : ActivationDb) (e : ActivationEvent) :
    ((activationStep env s e).activations.map (·.id) = s.activations.map (·.id) ∧
        s.nextUuid ≤ (activationStep env s e).nextUuid) ∨
      ((activationStep env s e).activations.map (·.id) =
          s.activations.map (·.id) ++ [env.uuid.text s.nextUuid] ∧
        (activationStep env s e).nextUuid = s.nextUuid + 1) := by
  have added {answer : Except ApiException IntegrationActivationRequest}
      (keyed : ∀ row, answer = .ok row → row.id = env.uuid.text s.nextUuid) :
      ((s.addActivation answer).activations.map (·.id) = s.activations.map (·.id) ∧
          s.nextUuid ≤ (s.addActivation answer).nextUuid) ∨
        ((s.addActivation answer).activations.map (·.id) =
            s.activations.map (·.id) ++ [env.uuid.text s.nextUuid] ∧
          (s.addActivation answer).nextUuid = s.nextUuid + 1) := by
    cases answer with
    | error e => exact .inl ⟨rfl, Nat.le_succ _⟩
    | ok row =>
      refine .inr ⟨?_, rfl⟩
      rw [ActivationDb.addActivation, map_append, map_singleton, keyed row rfl]
  have changed {id : Uuid} {change : IntegrationActivationRequest →
        Except ApiException IntegrationActivationRequest}
      (keeps : ∀ current row, change current = .ok row → row.id = current.id) :
      (s.withActivations (updateOne IntegrationActivationRequest.id activationRequestNotFound id
          change s.activations)).activations.map (·.id) = s.activations.map (·.id) ∧
        s.nextUuid ≤ (s.withActivations (updateOne IntegrationActivationRequest.id
          activationRequestNotFound id change s.activations)).nextUuid := by
    cases made : updateOne IntegrationActivationRequest.id activationRequestNotFound id change
        s.activations with
    | error e => exact ⟨rfl, le_rfl⟩
    | ok done => exact ⟨updateOne_keys keeps made, le_rfl⟩
  obtain ⟨now, operation⟩ := e
  cases operation with
  | edit registry publications => exact .inl ⟨rfl, le_rfl⟩
  | request publicationId input =>
    exact added fun row made => (createIntegrationActivationRequest_ok made).1
  | requestInventory input =>
    exact added fun row made => (createInventoryActivationRequest_ok made).1
  | updateStatus id input =>
    exact .inl (changed fun current row made => (activationStatusDecided_ok made).1)
  | apply id body => exact .inl (changed fun current row made => (activationApplied_ok made).1)
  | install installer id body =>
    simp only [activationStep]
    cases answer : installIntegrationActivationRuntime env now installer s id body.input with
    | error refused => exact .inl ⟨rfl, le_rfl⟩
    | ok done =>
      obtain ⟨request, s'⟩ := done
      obtain ⟨current, entry, tenantId, installed, installs⟩ :=
        installIntegrationActivationRuntime_ok answer
      obtain ⟨stored, keyed⟩ := Rows.find_some installs.found
      have sameId : request.id = id := by
        rw [installs.request_eq]
        exact keyed
      refine .inl ⟨?_, ?_⟩
      · rw [ActivationDb.answered, installs.db_eq]
        exact Rows.map_put sameId s.activations
      · rw [ActivationDb.answered, installs.db_eq]
        unfold ActivationDb.putRuntime
        dsimp only
        split
        · exact le_rfl
        · exact Nat.le_succ _

theorem ownActivations_step (own : OwnActivations env s) (e : ActivationEvent) :
    OwnActivations env (activationStep env s e) := by
  have before (id : Uuid) (listed : id ∈ s.activations.map (·.id)) :
      ∃ k < s.nextUuid, env.uuid.text k = id := by
    obtain ⟨row, stored, rfl⟩ := mem_map.mp listed
    exact own.issued row stored
  rcases step_activationIds env s e with ⟨same, later⟩ | ⟨more, next⟩
  · refine ⟨same ▸ own.distinct, fun row stored => ?_⟩
    have listed : row.id ∈ s.activations.map (·.id) := same ▸ mem_map_of_mem stored
    obtain ⟨k, low, is⟩ := before row.id listed
    exact ⟨k, low.trans_le later, is⟩
  · refine ⟨?_, fun row stored => ?_⟩
    · rw [more]
      refine nodup_append'.mpr ⟨own.distinct, nodup_singleton _, fun id listed new => ?_⟩
      obtain ⟨k, low, is⟩ := before id listed
      exact absurd (env.uuid.distinct (is.trans (mem_singleton.mp new))) low.ne
    · have listed : row.id ∈ s.activations.map (·.id) ++ [env.uuid.text s.nextUuid] :=
        more ▸ mem_map_of_mem stored
      rcases mem_append.mp listed with old | new
      · obtain ⟨k, low, is⟩ := before row.id old
        exact ⟨k, by omega, is⟩
      · exact ⟨s.nextUuid, by omega, (mem_singleton.mp new).symm⟩

theorem ownActivations_run (env : EnterpriseEnv) (registry : RegistryDb)
    (publications : List IntegrationPublication) (events : List ActivationEvent) :
    OwnActivations env (activationRun env registry publications events) := by
  have initial : OwnActivations env (.initial registry publications) :=
    ⟨nodup_nil, fun row stored => absurd stored not_mem_nil⟩
  have keeps : ∀ s e, OwnActivations env s → OwnActivations env (activationStep env s e) :=
    fun s e own => ownActivations_step own e
  exact Trace.run_always keeps initial events

theorem readStatus_of_normalized {text : String} (is : row.status = env.normalized text) :
    row.readStatus env = env.normalized text := by
  rw [IntegrationActivationRequest.readStatus, is, EnterpriseEnv.normalized_normalized]

theorem readStatus_pending (is : row.status = "PENDING") : row.readStatus env = "PENDING" := by
  rw [IntegrationActivationRequest.readStatus, is]
  exact env.normalized_of_capitals (by decide +kernel) (by simp)

theorem readStatus_applied (is : row.status = "APPLIED") : row.readStatus env = "APPLIED" := by
  rw [IntegrationActivationRequest.readStatus, is]
  exact env.normalized_of_capitals (by decide +kernel) (by simp)

theorem approvesSoundly_kept (stored : row ∈ s.activations) : ApprovesSoundly env s e row :=
  ⟨fun applied => ⟨row, stored, rfl, .inl applied⟩,
    fun approved => ⟨row, stored, rfl, .inl approved⟩⟩

theorem approvesSoundly_applied {body : UnforcedBody}
    (is : e.operation = .apply current.id body) (stored : current ∈ s.activations)
    (made : activationApplied env e.now s body.input current = .ok row) :
    ApprovesSoundly env s e row := by
  obtain ⟨sameId, status, admitted⟩ := activationApplied_ok made
  have canApply : (activationReadiness env s current).canApply = true :=
    admitted.resolve_right (by rw [body.unforced]; exact Bool.false_ne_true)
  obtain ⟨ready, approved⟩ := of_decide_eq_true canApply
  refine ⟨fun _ => ⟨current, stored, sameId.symm, .inr ⟨approved, ?_⟩⟩, fun approved' => ?_⟩
  · unfold stepBlockingIssues
    rw [is]
    exact of_decide_eq_true ready
  · rw [readStatus_applied status] at approved'
    exact absurd approved' (by decide)

theorem approvesSoundly_installed {installer : Installer} {body : UnforcedBody}
    (is : e.operation = .install installer current.id body) (stored : current ∈ s.activations)
    (admitted : (getActivationInstallReadinessSnapshot env
      (rolloutContext s current)).canInstall = true) {entry : IntegrationRegistryEntry}
    {artifact : Json}
    (made : row = runtimeInstalled env e.now (rolloutContext s current) entry artifact) :
    ApprovesSoundly env s e row := by
  have sameId : row.id = current.id := by rw [made]; rfl
  by_cases approved : current.readStatus env = "APPROVED"
  · have status : row.status = "APPLIED" := by
      rw [made]
      exact if_pos (decide_eq_true approved)
    refine ⟨fun _ => ⟨current, stored, sameId.symm, .inr ⟨approved, ?_⟩⟩, fun approved' => ?_⟩
    · unfold stepBlockingIssues
      rw [is]
      exact of_decide_eq_true admitted
    · rw [readStatus_applied status] at approved'
      exact absurd approved' (by decide)
  · have status : row.status = current.status := by
      rw [made]
      exact if_neg fun marked => approved (of_decide_eq_true marked)
    have same : row.readStatus env = current.readStatus env := by
      rw [IntegrationActivationRequest.readStatus, status, IntegrationActivationRequest.readStatus]
    exact ⟨fun applied => ⟨current, stored, sameId.symm, .inl (same ▸ applied)⟩,
      fun approved' => absurd (same ▸ approved') approved⟩

theorem soundStep_of_keeps (keeps : KeepsApproval env s e) : SoundStep env s e := by
  intro row member
  cases step_activation member with
  | kept stored => exact approvesSoundly_kept stored
  | requested publicationId input is made =>
    have pending : row.readStatus env = "PENDING" :=
      readStatus_pending (createIntegrationActivationRequest_ok made).2
    constructor <;> intro status <;> rw [pending] at status <;> exact absurd status (by decide)
  | requestedInventory input is made =>
    have status := readStatus_of_normalized (createInventoryActivationRequest_ok made).2
    rw [KeepsApproval, is] at keeps
    obtain ⟨notApproved, notApplied⟩ := keeps (by rw [made]; rfl)
    exact ⟨fun applied => absurd (status.symm.trans applied) notApplied,
      fun approved => absurd (status.symm.trans approved) notApproved⟩
  | decided input current is stored made =>
    obtain ⟨sameId, text⟩ := activationStatusDecided_ok made
    have status := readStatus_of_normalized text
    rw [KeepsApproval, is] at keeps
    obtain ⟨applies, approves⟩ := keeps current stored rfl
    refine ⟨fun applied => ⟨current, stored, sameId.symm, ?_⟩,
      fun approved => ⟨current, stored, sameId.symm, approves (status.symm.trans approved)⟩⟩
    rcases applies (status.symm.trans applied) with already | canApply
    · exact .inl already
    · obtain ⟨ready, approved⟩ := of_decide_eq_true canApply
      refine .inr ⟨approved, ?_⟩
      unfold stepBlockingIssues
      rw [is]
      exact of_decide_eq_true ready
  | applied body current is stored made => exact approvesSoundly_applied is stored made
  | installed installer body current is stored admitted made =>
    obtain ⟨entry, artifact, made⟩ := made
    exact approvesSoundly_installed is stored admitted made

theorem keeps_of_soundStep (own : OwnActivations env s) (sound : SoundStep env s e) :
    KeepsApproval env s e := by
  obtain ⟨now, operation⟩ := e
  cases operation with
  | requestInventory input =>
    intro accepted
    obtain ⟨row, made⟩ := exists_ok_of_toBool accepted
    obtain ⟨newId, text⟩ := createInventoryActivationRequest_ok made
    have member : row ∈ (activationStep env s ⟨now, .requestInventory input⟩).activations := by
      simp only [activationStep, made]
      exact mem_append_right _ (mem_singleton_self row)
    have fresh : ∀ current ∈ s.activations, current.id ≠ row.id := by
      intro current stored same
      obtain ⟨k, low, is⟩ := own.issued current stored
      exact low.ne (env.uuid.distinct (is.trans (same.trans newId)))
    have status := readStatus_of_normalized text
    refine ⟨fun approved => ?_, fun applied => ?_⟩
    · obtain ⟨current, stored, same, -⟩ := (sound row member).approved (status.trans approved)
      exact fresh current stored same
    · obtain ⟨current, stored, same, -⟩ := (sound row member).applied (status.trans applied)
      exact fresh current stored same
  | updateStatus id input =>
    rintro current stored rfl
    have written (given : env.normalized (textOr (input.get? "status") "") ≠ "") :
        ∃ row, row.id = current.id ∧
          row.readStatus env = env.normalized (textOr (input.get? "status") "") ∧
          ApprovesSoundly env s ⟨now, .updateStatus current.id input⟩ row := by
      obtain ⟨row, made⟩ : ∃ row, activationStatusDecided env now input current = .ok row := by
        simp only [activationStatusDecided, except_bind_ok_iff, rejectIf_ok_iff]
        exact ⟨_, (), given, rfl⟩
      obtain ⟨sameId, text⟩ := activationStatusDecided_ok made
      obtain ⟨rows, updated, member⟩ := mem_of_updateOne activationRequestNotFound
        (activationStatusDecided env now input) own.distinct stored made
      have here :
          row ∈ (activationStep env s ⟨now, .updateStatus current.id input⟩).activations := by
        simp only [activationStep, updateIntegrationActivationRequestStatus, updated]
        exact member
      exact ⟨row, sameId, readStatus_of_normalized text, sound row here⟩
    refine ⟨fun applied => ?_, fun approved => ?_⟩
    · obtain ⟨row, sameId, status, soundly⟩ := written (by rw [applied]; decide)
      obtain ⟨current', stored', same, before⟩ := soundly.applied (status.trans applied)
      obtain rfl := Rows.eq_of_key own.distinct stored' stored (same.trans sameId)
      refine before.imp_right fun ⟨approved, clear⟩ => ?_
      exact decide_eq_true ⟨decide_eq_true clear, approved⟩
    · obtain ⟨row, sameId, status, soundly⟩ := written (by rw [approved]; decide)
      obtain ⟨current', stored', same, before⟩ := soundly.approved (status.trans approved)
      obtain rfl := Rows.eq_of_key own.distinct stored' stored (same.trans sameId)
      exact before
  | _ => trivial

variable {registry : RegistryDb} {publications : List IntegrationPublication}
  {events : List ActivationEvent}

theorem approved_earlier (along : Trace.Along (activationStep env) (KeepsApproval env)
      (.initial registry publications) events) {before : List ActivationEvent}
    (prior : before <+: events)
    (stored : row ∈ (activationRun env registry publications before).activations)
    (applied : row.readStatus env = "APPLIED") : ∃ earlier, earlier <+: before ∧
      ∃ current ∈ (activationRun env registry publications earlier).activations,
        current.id = row.id ∧ current.readStatus env = "APPROVED" := by
  induction before using reverseRecOn generalizing row with
  | nil => exact absurd stored not_mem_nil
  | append_singleton before e ih =>
    have here := prefix_append before [e]
    have last := (Trace.along_append.mp (Trace.along_prefix prior along)).2.1
    rw [activationRun, Trace.run_append] at stored
    obtain ⟨current, old, same, was | ⟨approved, -⟩⟩ :=
      (soundStep_of_keeps last row stored).applied applied
    · obtain ⟨earlier, first, current', stored', same', approved⟩ := ih (here.trans prior) old was
      exact ⟨earlier, first.trans here, current', stored', same'.trans same, approved⟩
    · exact ⟨before, here, current, old, same, approved⟩

/-- Every step of a run approves and applies soundly just when each keeps the approvals; nothing is
applied then that was not approved before. -/
theorem sound_iff_keepsApproval (env : EnterpriseEnv) (registry : RegistryDb)
    (publications : List IntegrationPublication) (events : List ActivationEvent) :
    (Trace.Along (activationStep env) (SoundStep env) (.initial registry publications) events ↔
      Trace.Along (activationStep env) (KeepsApproval env) (.initial registry publications)
        events) ∧
    (Trace.Along (activationStep env) (KeepsApproval env) (.initial registry publications) events →
      ∀ before, before <+: events →
        ∀ row ∈ (activationRun env registry publications before).activations,
          row.readStatus env = "APPLIED" → ∃ earlier, earlier <+: before ∧
            ∃ current ∈ (activationRun env registry publications earlier).activations,
              current.id = row.id ∧ current.readStatus env = "APPROVED") := by
  have keeps : ∀ s e, OwnActivations env s → OwnActivations env (activationStep env s e) :=
    fun s e own => ownActivations_step own e
  have same : ∀ s e, OwnActivations env s → (SoundStep env s e ↔ KeepsApproval env s e) :=
    fun s e own => ⟨keeps_of_soundStep own, soundStep_of_keeps⟩
  refine ⟨Trace.along_congr keeps same (ownActivations_run env registry publications []) events,
    fun along before prior row stored applied => approved_earlier along prior stored applied⟩

def requestApplied : ActivationEvent :=
  ⟨0, .requestInventory (.obj [("connectorKey", .str "freshlane"), ("version", .str "1"),
    ("status", .str "APPLIED")])⟩

/-- A request may be created as applied. -/
theorem created_applied : ¬∀ (events : List ActivationEvent),
    ∀ row ∈ (activationRun counterEnv (oneConnector (.obj [])) [] events).activations,
      row.readStatus counterEnv = "APPLIED" → ∃ earlier, earlier <+: events ∧
        ∃ current ∈ (activationRun counterEnv (oneConnector (.obj [])) [] earlier).activations,
          current.id = row.id ∧ current.readStatus counterEnv = "APPROVED" := by
  intro claim
  have statuses :
      (activationRun counterEnv (oneConnector (.obj [])) [] [requestApplied]).activations.map
        (IntegrationActivationRequest.readStatus counterEnv) = ["APPLIED"] := by decide +kernel
  obtain ⟨row, stored, applied⟩ :=
    List.mem_map.mp (statuses.symm ▸ List.mem_singleton_self "APPLIED")
  obtain ⟨earlier, prior, current, stored', -, approved⟩ :=
    claim [requestApplied] row stored applied
  have listed : current.readStatus counterEnv ∈
      (activationRun counterEnv (oneConnector (.obj [])) [] earlier).activations.map
        (IntegrationActivationRequest.readStatus counterEnv) := List.mem_map_of_mem stored'
  rw [approved] at listed
  cases earlier with
  | nil => exact absurd stored' List.not_mem_nil
  | cons e rest =>
    obtain ⟨rfl, left⟩ := List.cons_prefix_cons.mp prior
    rw [List.prefix_nil.mp left, statuses] at listed
    exact absurd (List.mem_singleton.mp listed) (by decide)

end Exetron.Enterprise
