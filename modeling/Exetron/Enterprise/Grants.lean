import Exetron.Enterprise.Reached

/-!
# Who opens a publication

A publication is opened to everyone when it is public, and else by the token of a request that is
approved, has not expired and is for the consumer who comes. The token of a request that was revoked
opens nothing from then on.
-/

namespace Exetron.Enterprise

open Lib

variable {env : EnterpriseEnv} {s : EnterpriseDb} {e : Event} {publication : IntegrationPublication}

/-- The request grants what is fetched: it is approved and stands, and what is presented, without
the blanks around it, is its token and its consumer. -/
structure Grants (now : Moment) (input : FetchInput) (request : IntegrationDistributionRequest) :
    Prop where
  approved : request.status = "APPROVED"
  stands : ∀ date, request.grantExpiresAt = some date → now < date
  token : request.accessToken.isSome ∧ input.grantToken.map Text.trim = request.accessToken
  consumer : ∀ key, request.grantedConsumerKey = some key →
    input.consumerKey.map Text.trim = some key

/-- The publication is out, and public or granted. -/
structure Entitled (s : EnterpriseDb) (now : Moment) (input : FetchInput)
    (publication : IntegrationPublication) : Prop where
  stored : publication ∈ s.publications
  published : publication.status = "PUBLISHED"
  notRevoked : publication.revokedAt = none
  openedBy : publication.visibility = "PUBLIC" ∨
    ∃ request ∈ s.requests, request.publicationId = publication.id ∧ Grants now input request

theorem trimmedOrNull_some {value : Option String} {text : String}
    (h : trimmedOrNull value = some text) : value.map Text.trim = some text := by
  obtain ⟨given, rfl, kept⟩ := Option.bind_eq_some_iff.mp h
  rw [Option.map_some, (orNull_eq_some_iff.mp kept).1]

theorem findApprovedRequest_some {requests : List IntegrationDistributionRequest} {token : String}
    {request : IntegrationDistributionRequest}
    (h : findApprovedRequest requests token = some request) :
    request ∈ requests ∧ request.accessToken = some token ∧ request.status = "APPROVED" := by
  have listed := mem_newestFirst.mp (List.mem_of_mem_head? h)
  simpa using List.mem_filter.mp listed

theorem isPublished_iff : publication.isPublished = true ↔
      publication.status = "PUBLISHED" ∧ publication.revokedAt = none := by
  simp [IntegrationPublication.isPublished]

theorem resolveGrantedPublication_some {now : Moment} {input : FetchInput}
    (h : resolveGrantedPublication now s.publications s.requests input = some publication) :
    ∃ token, trimmedOrNull input.grantToken = some token ∧ ∃ request ∈ s.requests,
      request.accessToken = some token ∧ request.status = "APPROVED" ∧
      grantOpens now input request = true ∧ publication ∈ s.publications ∧
      publication.id = request.publicationId ∧ publication.isPublished = true := by
  simp only [resolveGrantedPublication, Option.bind_eq_bind, Option.bind_eq_some_iff,
    Option.filter_eq_some_iff] at h
  obtain ⟨token, presented, request, ⟨found, opens⟩, located, asked⟩ := h
  obtain ⟨stored, has, approved⟩ := findApprovedRequest_some found
  obtain ⟨member, is⟩ := Rows.find_some located
  simp only [isAskedFor, decide_eq_true_eq] at asked
  exact ⟨token, presented, request, stored, has, approved, opens, member, is, asked.2.2.1⟩

theorem resolvePublicPublication_ok {publications : List IntegrationPublication}
    {input : FetchInput} (h : resolvePublicPublication publications input = .ok publication) :
    publication ∈ publications ∧ publication.visibility = "PUBLIC" ∧
      publication.isPublished = true := by
  have listed := mem_newestFirst.mp (List.mem_of_mem_head? (required_ok_iff.mp h))
  obtain ⟨stored, fits⟩ := List.mem_filter.mp listed
  simp only [decide_eq_true_eq] at fits
  exact ⟨stored, fits.2.2.1, fits.2.2.2.1⟩

theorem entitled_of_resolved (sound : Sound env s) {now : Moment} {input : FetchInput}
    (h : resolvePublication now s.publications s.requests input = .ok publication) :
    Entitled s now input publication := by
  unfold resolvePublication at h
  split at h
  · rename_i granted
    obtain rfl := Except.ok.inj h
    obtain ⟨token, presented, request, stored, has, approved, opens, member, is, out⟩ :=
      resolveGrantedPublication_some granted
    obtain ⟨published, notRevoked⟩ := isPublished_iff.mp out
    simp only [grantOpens, decide_eq_true_eq, Option.all_eq_true] at opens
    refine ⟨member, published, notRevoked, .inr ⟨request, stored, is.symm, approved, ?_, ?_, ?_⟩⟩
    · exact opens.1
    · rw [has]
      exact ⟨rfl, trimmedOrNull_some presented⟩
    · intro key granted
      have filled := (sound.consumers request stored key granted).2
      exact trimmedOrNull_some ((opens.2 key granted).resolve_left filled)
  · obtain ⟨member, isPublic, out⟩ := resolvePublicPublication_ok h
    obtain ⟨published, notRevoked⟩ := isPublished_iff.mp out
    exact ⟨member, published, notRevoked, .inl isPublic⟩

/-- Every fetch of a state returns the part it is for of a publication that is entitled. -/
structure OpensToEntitled (env : EnterpriseEnv) (s : EnterpriseDb) : Prop where
  metadata (now : Moment) (input : FetchInput) (answer : PublicPublication) :
    getPublicIntegrationPublication env now s.publications s.requests input = .ok answer →
      ∃ publication, Entitled s now input publication ∧
        mapPublicPublication env publication = answer
  package (now : Moment) (input : FetchInput) (answer : DeveloperPackage) :
    getPublicIntegrationPublicationPackage now s.publications s.requests input = .ok answer →
      ∃ publication, Entitled s now input publication ∧ publication.artifact.package = answer
  docs (now : Moment) (input : FetchInput) (answer : DeveloperDocs) :
    getPublicIntegrationPublicationDocs now s.publications s.requests input = .ok answer →
      ∃ publication, Entitled s now input publication ∧ publication.artifact.docs = answer

theorem opensToEntitled (sound : Sound env s) : OpensToEntitled env s where
  metadata now input answer h := by
    obtain ⟨publication, resolved, made⟩ := map_ok_iff.mp h
    exact ⟨publication, entitled_of_resolved sound resolved, made⟩
  package now input answer h := by
    obtain ⟨publication, resolved, made⟩ := map_ok_iff.mp h
    exact ⟨publication, entitled_of_resolved sound resolved, made⟩
  docs now input answer h := by
    obtain ⟨publication, resolved, made⟩ := map_ok_iff.mp h
    exact ⟨publication, entitled_of_resolved sound resolved, made⟩

/-- The request with the identifier has the token. -/
def Holds (s : EnterpriseDb) (token id : Uuid) : Prop :=
  ∃ request ∈ s.requests, request.id = id ∧ request.accessToken = some token

theorem holds_of_run {token id : Uuid} (events : List Event) (issued : Issued env s token)
    (h : Holds (Trace.run (step env) s events) token id) : Holds s token id := by
  induction events generalizing s with
  | nil => exact h
  | cons e events ih =>
    obtain ⟨request, member, rfl, has⟩ := ih (issued.step e) h
    rcases (step_request member).token has with ⟨current, stored, is, was⟩ | new
    · exact ⟨current, stored, is, was⟩
    · exact absurd new issued.ne_new

def OpensNothing (s : EnterpriseDb) (token : Uuid) : Prop :=
  ∀ now input, input.grantToken.map Text.trim = some token →
    resolveGrantedPublication now s.publications s.requests input = none ∧
    resolvePublication now s.publications s.requests input =
      resolvePublicPublication s.publications input

theorem opensNothing_of_not_held {token : Uuid} (held : ∀ id, ¬Holds s token id) :
    OpensNothing s token := by
  intro now input presented
  have none : resolveGrantedPublication now s.publications s.requests input = none := by
    refine Option.eq_none_iff_forall_not_mem.mpr fun publication opened => ?_
    obtain ⟨token', presented', request, stored, has, -⟩ := resolveGrantedPublication_some opened
    have same := (trimmedOrNull_some presented').symm.trans presented
    exact held request.id ⟨request, stored, rfl, by rw [has, same]⟩
  exact ⟨none, by rw [resolvePublication, none]⟩

theorem opensNothing_of_revoked (sound : Sound env s)
    {request revoked : IntegrationDistributionRequest}
    {token : Uuid} (stored : request ∈ s.requests) (has : request.accessToken = some token)
    {middle : List Event} (there : revoked ∈ (Trace.run (step env) s middle).requests)
    (same : revoked.id = request.id) (is : revoked.status = "REVOKED") (later : List Event) :
    OpensNothing (Trace.run (step env) (Trace.run (step env) s middle) later) token := by
  have issued := sound.tokens request stored token has
  have soundThen := sound_run sound middle
  refine opensNothing_of_not_held fun id held => ?_
  have keeps : ∀ s e, Issued env s token → Issued env (step env s e) token :=
    fun _ e kept => kept.step e
  have issuedThen := Trace.run_always keeps issued middle
  have heldThen := holds_of_run later issuedThen held
  obtain ⟨first, member, rfl, was⟩ := holds_of_run middle issued heldThen
  obtain ⟨last, member', is', was'⟩ := heldThen
  have sameRequest := sound.ownTokens request stored first member token has was
  have here : last = revoked := Rows.eq_of_key soundThen.requestIds.distinct member' there
    (is'.trans (sameRequest.symm.trans same.symm))
  rw [here, soundThen.revoked revoked there is] at was'
  cases was'

theorem publications_open_to_entitled (env : EnterpriseEnv) (registry : RegistryDb)
    (events : List Event) : OpensToEntitled env (runFrom env registry events) ∧
    ∀ before middle later, events = before ++ middle ++ later →
      ∀ request ∈ (runFrom env registry before).requests, ∀ token,
        request.accessToken = some token →
        ∀ revoked ∈ (runFrom env registry (before ++ middle)).requests,
          revoked.id = request.id → revoked.status = "REVOKED" →
          OpensNothing (runFrom env registry events) token := by
  refine ⟨opensToEntitled (sound_runFrom env registry events), ?_⟩
  rintro before middle later rfl request stored token has revoked there same is
  simp only [runFrom, Trace.run_append] at stored there ⊢
  exact opensNothing_of_revoked (sound_runFrom env registry before) stored has there same is later

end Exetron.Enterprise
