import Exetron.Enterprise.Reached

/-!
# The status of a publication and its revocation

Four operations write both fields. They agree all along a run just when no call gives a publication
the status `PUBLISHED` over a revocation, or `REVOKED` or `ARCHIVED` at its publishing.
-/

namespace Exetron.Enterprise

open Lib

variable {env : EnterpriseEnv} {s : EnterpriseDb} {e : Event} {now : Moment} {input : Json}

def IsOver (status : String) : Prop := status = "REVOKED" ∨ status = "ARCHIVED"

instance (status : String) : Decidable (IsOver status) := inferInstanceAs (Decidable (_ ∨ _))

/-- The status and the revocation agree. -/
structure Agrees (publication : IntegrationPublication) : Prop where
  published : publication.status = "PUBLISHED" → publication.revokedAt = none
  ended : IsOver publication.status → publication.revokedAt.isSome

/-- They agree everywhere, and the listings that ask for the status show what those show that ask
for both. -/
structure StatusesAgree (s : EnterpriseDb) : Prop where
  agree : ∀ publication ∈ s.publications, Agrees publication
  listings : s.publications.filter (fun publication => publication.status = "PUBLISHED") =
    s.publications.filter IntegrationPublication.isPublished

theorem statusesAgree_of_agree (agree : ∀ publication ∈ s.publications, Agrees publication) :
    StatusesAgree s := by
  refine ⟨agree, List.filter_congr fun publication stored => ?_⟩
  rw [IntegrationPublication.isPublished, decide_eq_decide]
  exact ⟨fun published => ⟨published, (agree publication stored).published published⟩, And.left⟩

def KeepsAgreement (env : EnterpriseEnv) (s : EnterpriseDb) (e : Event) : Prop :=
  match e.operation with
  | .publish entryId input =>
    (publishIntegrationRegistryEntry env e.now s.registry (env.uuid.text s.nextUuid) entryId
      input).toBool = true → ¬IsOver (env.normalized (textOr (input.get? "status") "PUBLISHED"))
  | .updatePublicationStatus id input =>
    Text.trim (textOr (input.get? "status") "") = "PUBLISHED" →
      ∀ current ∈ s.publications, current.id = id → current.revokedAt = none
  | .applyPublicationLifecycle id input =>
    env.normalized (textOr (input.get? "status") "") = "PUBLISHED" →
      isTrue (input.get? "force") = true → ∀ current ∈ s.publications, current.id = id →
        hasLifecycle env e.now current = true → isSunset env e.now current = true
  | _ => True

theorem publishIntegrationRegistryEntry_status {db : RegistryDb} {new entryId : Uuid}
    {row : IntegrationPublication}
    (h : publishIntegrationRegistryEntry env now db new entryId input = .ok row) :
    row.status = env.normalized (textOr (input.get? "status") "PUBLISHED") ∧
      row.revokedAt = none := by
  simp only [publishIntegrationRegistryEntry, except_bind_ok_iff, except_pure_ok_iff] at h
  obtain ⟨_, -, _, -, _, -, _, -, _, -, _, -, rfl⟩ := h
  exact ⟨rfl, rfl⟩

theorem readPublicationStatus_ok {status : String} (h : readPublicationStatus input = .ok status) :
    status = Text.trim (textOr (input.get? "status") "") := by
  simp only [readPublicationStatus, except_bind_ok_iff, except_pure_ok_iff] at h
  obtain ⟨_, -, rfl⟩ := h
  rfl

theorem published_not_over : ¬IsOver "PUBLISHED" := by decide

theorem agrees_withStatus {status : String} {current : IntegrationPublication}
    (kept : status = "PUBLISHED" → current.revokedAt = none) :
    Agrees (current.withStatus now status) := by
  refine ⟨fun published => ?_, fun ended => ?_⟩
  · have notOver : ¬(status = "REVOKED" ∨ status = "ARCHIVED") :=
      fun ended => published_not_over (published ▸ ended)
    show (if status = "REVOKED" ∨ status = "ARCHIVED" then _ else current.revokedAt) = none
    rw [if_neg notOver]
    exact kept published
  · replace ended : status = "REVOKED" ∨ status = "ARCHIVED" := ended
    show (if status = "REVOKED" ∨ status = "ARCHIVED" then _ else current.revokedAt).isSome
    rw [if_pos ended]
    rfl

theorem canAutoRevoke_recommended {publication : IntegrationPublication}
    {lifecycle : PublicationLifecycle}
    (h : getPublicationLifecycleSnapshot env now publication = .ok lifecycle) :
    lifecycle.recommendedStatus = if lifecycle.canAutoRevoke then some "REVOKED" else none := by
  simp only [getPublicationLifecycleSnapshot, except_bind_ok_iff, except_pure_ok_iff] at h
  obtain ⟨_, -, rfl⟩ := h
  rfl

theorem lifecycleApplied_ok_iff {current row : IntegrationPublication} :
    lifecycleApplied env now input current = .ok row ↔
      hasLifecycle env now current = true ∧
        (isSunset env now current = true ∨ isTrue (input.get? "force") = true) ∧
        { current with
          status := if isSunset env now current then "REVOKED"
            else Text.orElse (env.normalized (textOr (input.get? "status") "")) "REVOKED"
          revokedAt := some now } = row := by
  cases snapshot : getPublicationLifecycleSnapshot env now current with
  | error e =>
    have none : hasLifecycle env now current = false := by rw [hasLifecycle, snapshot]; rfl
    simp [lifecycleApplied, snapshot, none, bind, Except.bind]
  | ok lifecycle =>
    have some_ : hasLifecycle env now current = true := by rw [hasLifecycle, snapshot]; rfl
    have sunset : isSunset env now current = lifecycle.canAutoRevoke := by rw [isSunset, snapshot]
    simp only [lifecycleApplied, snapshot, some_, sunset, except_bind_ok_iff, except_pure_ok_iff,
      rejectIf_ok_iff, canAutoRevoke_recommended snapshot, Except.ok.injEq, exists_eq_left',
      exists_const, true_and]
    cases due : lifecycle.canAutoRevoke with
    | true => simp
    | false => simp

theorem agrees_of_step (agree : ∀ publication ∈ s.publications, Agrees publication)
    (keeps : KeepsAgreement env s e) :
    ∀ publication ∈ (step env s e).publications, Agrees publication := by
  intro publication member
  obtain ⟨now, operation⟩ := e
  cases step_publication member with
  | kept stored => exact agree publication stored
  | published entryId input is made =>
    obtain rfl := is
    obtain ⟨status, notRevoked⟩ := publishIntegrationRegistryEntry_status made
    refine ⟨fun _ => notRevoked, fun ended => ?_⟩
    rw [status] at ended
    exact absurd ended (keeps (by rw [made]; rfl))
  | signed input current is stored made =>
    obtain ⟨_, -, rfl⟩ := reSigned_ok made
    exact ⟨(agree current stored).published, (agree current stored).ended⟩
  | restated input status current is stored read made =>
    obtain rfl := is
    obtain rfl := readPublicationStatus_ok read
    subst made
    exact agrees_withStatus fun published => keeps published current stored rfl
  | ended input current is stored made =>
    obtain rfl := is
    obtain ⟨hasOne, dueOrForced, rfl⟩ := lifecycleApplied_ok_iff.mp made
    refine ⟨fun published => ?_, fun _ => rfl⟩
    -- The status that is written over a revocation is `PUBLISHED` for no due publication.
    replace published : (if isSunset env now current then "REVOKED"
      else Text.orElse (env.normalized (textOr (input.get? "status") "")) "REVOKED") =
        "PUBLISHED" :=
        published
    split at published
    · exact absurd published (by decide)
    · rename_i notDue
      have forced := dueOrForced.resolve_left notDue
      rw [Text.orElse] at published
      split at published
      · exact absurd published (by decide)
      · exact absurd (keeps published forced current stored rfl hasOne) notDue
  | swept input current is stored made =>
    subst made
    exact ⟨fun published => absurd published (by decide : ¬"REVOKED" = "PUBLISHED"), fun _ => rfl⟩

theorem keeps_of_agrees (sound : Sound env s)
    (agree : ∀ publication ∈ (step env s e).publications, Agrees publication) :
    KeepsAgreement env s e := by
  obtain ⟨now, operation⟩ := e
  cases operation with
  | publish entryId input =>
    intro accepted ended
    obtain ⟨row, made⟩ := exists_ok_of_toBool accepted
    obtain ⟨status, notRevoked⟩ := publishIntegrationRegistryEntry_status made
    have member : row ∈ (step env s ⟨now, .publish entryId input⟩).publications := by
      simp only [step, operate, EnterpriseDb.addPublication, made]
      exact List.mem_append_right _ (List.mem_singleton_self row)
    have revoked := (agree row member).ended (status ▸ ended)
    rw [notRevoked] at revoked
    cases revoked
  | updatePublicationStatus id input =>
    rintro published current stored rfl
    have read : readPublicationStatus input = .ok "PUBLISHED" := by
      rw [readPublicationStatus, published]
      rfl
    obtain ⟨rows, updated, member⟩ := mem_of_updateOne publicationNotFound
      (fun current => pure (current.withStatus now "PUBLISHED"))
      sound.publicationIds.distinct stored rfl
    have called : updateIntegrationPublicationStatus now current.id input s.publications =
        .ok (current.withStatus now "PUBLISHED", rows) := by
      rw [updateIntegrationPublicationStatus, read]
      exact updated
    have here : current.withStatus now "PUBLISHED" ∈
        (step env s ⟨now, .updatePublicationStatus current.id input⟩).publications := by
      simp only [step, operate, called]
      exact member
    exact (agree _ here).published rfl
  | applyPublicationLifecycle id input =>
    rintro published forced current stored rfl hasOne
    by_contra notDue
    obtain ⟨row, made, status, revoked⟩ : ∃ row, lifecycleApplied env now input current = .ok row ∧
        row.status = "PUBLISHED" ∧ row.revokedAt = some now := by
      refine ⟨_, lifecycleApplied_ok_iff.mpr ⟨hasOne, .inr forced, rfl⟩, ?_, rfl⟩
      show (if _ then _ else _) = _
      rw [if_neg notDue, published]
      rfl
    obtain ⟨rows, updated, member⟩ := mem_of_updateOne publicationNotFound
      (lifecycleApplied env now input) sound.publicationIds.distinct stored made
    have called : applyIntegrationPublicationLifecycle env now current.id input s.publications =
        .ok (row, rows) := updated
    have here :
        row ∈ (step env s ⟨now, .applyPublicationLifecycle current.id input⟩).publications := by
      simp only [step, operate, called]
      exact member
    have notRevoked := (agree row here).published status
    rw [revoked] at notRevoked
    cases notRevoked
  | _ => trivial

/-- The two fields agree in every state of a run just when each of its steps keeps them so. -/
theorem statusesAgree_iff_along (env : EnterpriseEnv) (registry : RegistryDb)
    (events : List Event) :
    (∀ before, before <+: events → StatusesAgree (runFrom env registry before)) ↔
      Trace.Along (step env) (KeepsAgreement env) (EnterpriseDb.initial registry) events := by
  have keeps : ∀ s e, (Sound env s ∧ StatusesAgree s) → KeepsAgreement env s e →
      Sound env (step env s e) ∧ StatusesAgree (step env s e) := fun s e inv kept =>
    ⟨sound_step inv.1 e, statusesAgree_of_agree (agrees_of_step inv.2.agree kept)⟩
  have needs : ∀ s e, (Sound env s ∧ StatusesAgree s) → StatusesAgree (step env s e) →
      KeepsAgreement env s e := fun s e inv after => keeps_of_agrees inv.1 after.agree
  refine Trace.always_iff_along (fun s inv => inv.2) keeps needs
    ⟨sound_initial env registry, statusesAgree_of_agree ?_⟩ events
  exact fun publication stored => absurd stored (List.not_mem_nil)

def revokeAndRepublish : List Event :=
  let revoke : Json := .obj [("status", .str "REVOKED")]
  let republish : Json := .obj [("status", .str "PUBLISHED")]
  let id := UuidSource.counter.text 0
  [⟨0, .publish "entry" (.obj [])⟩, ⟨1, .updatePublicationStatus id revoke⟩,
    ⟨2, .updatePublicationStatus id republish⟩]

/-- A publication that was revoked and published again is listed by its status only. -/
theorem republished_keeps_revocation : ¬∀ events,
    StatusesAgree (runFrom counterEnv (oneConnector (.obj [])) events) := by
  intro claim
  have listings := congrArg List.length (claim revokeAndRepublish).listings
  have parted :
      ((runFrom counterEnv (oneConnector (.obj [])) revokeAndRepublish).publications.filter
        fun publication => publication.status = "PUBLISHED").length = 1 ∧
      ((runFrom counterEnv (oneConnector (.obj [])) revokeAndRepublish).publications.filter
        IntegrationPublication.isPublished).length = 0 := by decide +kernel
  rw [parted.1, parted.2] at listings
  exact absurd listings (by decide)

end Exetron.Enterprise
