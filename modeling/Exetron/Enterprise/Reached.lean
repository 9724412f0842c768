import Exetron.Enterprise.Runs

/-!
# The states of the distribution

What every run keeps: identifiers and tokens are the ones given out so far and each has one row, a
request names a publication for partners, and a revoked request has no token.
-/

namespace Exetron.Enterprise

open Lib List

variable {env : EnterpriseEnv} {s : EnterpriseDb} {e : Event} {now : Moment} {input : Json}
  {row : IntegrationDistributionRequest} {new : Uuid}

/-- What `updateIntegrationDistributionRequestStatus` makes of a request. -/
structure Decided (env : EnterpriseEnv) (now : Moment) (token : Uuid) (input : Json)
    (current row : IntegrationDistributionRequest) : Prop where
  id : row.id = current.id
  publicationId : row.publicationId = current.publicationId
  connectorKey : row.connectorKey = current.connectorKey
  version : row.version = current.version
  status : row.status = env.normalized (textOr (input.get? "status") "")
  grantedConsumerKey : row.grantedConsumerKey = readGrantedConsumerKey input current
  approved : row.status = "APPROVED" → row.accessToken = some (current.accessToken.getD token) ∧
    ∃ ttlDays explicit, readTtlDays input = .ok ttlDays ∧
      readGrantExpiresAt env input = .ok explicit ∧
      nextGrantExpiry now ttlDays explicit current = .ok row.grantExpiresAt
  revoked : row.status = "REVOKED" → row.accessToken = none
  other : row.status ≠ "APPROVED" → row.status ≠ "REVOKED" → row.accessToken = current.accessToken

theorem statusDecided_ok {token : Uuid} {current : IntegrationDistributionRequest}
    (h : statusDecided env now token input current = .ok row) :
    Decided env now token input current row := by
  simp only [statusDecided, except_bind_ok_iff] at h
  obtain ⟨_, -, ttlDays, ttl, explicit, given, h⟩ := h
  split at h
  · rename_i approves
    obtain ⟨expiry, next, made⟩ := except_bind_ok_iff.mp h
    obtain rfl := except_pure_ok_iff.mp made
    exact ⟨rfl, rfl, rfl, rfl, rfl, rfl, fun _ => ⟨rfl, ttlDays, explicit, ttl, given, next⟩,
      fun revokes => absurd (approves.symm.trans revokes) (by decide), fun no => absurd approves no⟩
  · rename_i notApproved
    split at h
    · rename_i revokes
      obtain rfl := except_pure_ok_iff.mp h
      exact ⟨rfl, rfl, rfl, rfl, rfl, rfl, fun approves => absurd approves notApproved,
        fun _ => rfl, fun _ no => absurd revokes no⟩
    · rename_i notRevoked
      obtain rfl := except_pure_ok_iff.mp h
      exact ⟨rfl, rfl, rfl, rfl, rfl, rfl, fun approves => absurd approves notApproved,
        fun revokes => absurd revokes notRevoked, fun _ _ => rfl⟩

theorem Decided.token {current : IntegrationDistributionRequest}
    (h : Decided env now new input current row) {token : Uuid}
    (has : row.accessToken = some token) : current.accessToken = some token ∨ token = new := by
  by_cases approves : row.status = "APPROVED"
  · rw [(h.approved approves).1] at has
    cases before : current.accessToken with
    | none => exact .inr (by rw [before] at has; exact (Option.some.inj has).symm)
    | some old => exact .inl (by rw [before] at has; exact has)
  · by_cases revokes : row.status = "REVOKED"
    · rw [h.revoked revokes] at has
      cases has
    · exact .inl (h.other approves revokes ▸ has)

theorem governanceApplied_ok {current : IntegrationDistributionRequest}
    (h : governanceApplied env now input current = .ok row) : row = current.revoke now := by
  simp only [governanceApplied, except_bind_ok_iff, except_pure_ok_iff] at h
  obtain ⟨_, -, made⟩ := h
  exact made.symm

/-- A request that was just asked for. -/
structure Asked (publications : List IntegrationPublication) (new : Uuid)
    (row : IntegrationDistributionRequest) : Prop where
  id : row.id = new
  publication : ∃ publication ∈ publications, publication.id = row.publicationId ∧
    publication.connectorKey = row.connectorKey ∧ publication.version = row.version ∧
    publication.visibility = "PARTNER"
  accessToken : row.accessToken = none
  grantedConsumerKey : row.grantedConsumerKey = none

theorem createPublicIntegrationDistributionRequest_ok {publications : List IntegrationPublication}
    {connectorKey version : String} (h :
      createPublicIntegrationDistributionRequest now publications new connectorKey version input =
      .ok row) : Asked publications new row := by
  simp only [createPublicIntegrationDistributionRequest, except_bind_ok_iff, required_ok_iff,
    except_pure_ok_iff] at h
  obtain ⟨_, -, publication, found, rfl⟩ := h
  have listed := mem_newestFirst.mp (mem_of_mem_head? found)
  obtain ⟨stored, fits⟩ := mem_filter.mp listed
  simp only [decide_eq_true_eq] at fits
  exact ⟨rfl, ⟨publication, stored, rfl, fits.1, fits.2.1, fits.2.2.1⟩, rfl, rfl⟩

/-- What no operation changes of a publication. -/
structure SamePublication (current row : IntegrationPublication) : Prop where
  id : row.id = current.id
  registryEntryId : row.registryEntryId = current.registryEntryId
  connectorKey : row.connectorKey = current.connectorKey
  version : row.version = current.version
  visibility : row.visibility = current.visibility
  channel : row.channel = current.channel
  artifact : row.artifact = current.artifact
  publishedAt : row.publishedAt = current.publishedAt

theorem reSigned_ok {db : RegistryDb} {current row : IntegrationPublication}
    (h : reSigned env now db input current = .ok row) :
    ∃ secret, publicationSigningSecret db current input = some secret ∧
      row = { current with
        attestation := buildPublicationAttestation env
          ⟨current.registryEntryId, current.connectorKey, current.version, current.visibility,
            current.channel, current.artifact.package.content, current.artifact.docs.markdown,
            some secret, current.publishedAt, now⟩ } := by
  simp only [reSigned, except_bind_ok_iff, required_ok_iff, except_pure_ok_iff] at h
  obtain ⟨_, -, secret, found, made⟩ := h
  exact ⟨secret, found, made.symm⟩

theorem lifecycleApplied_ok {current row : IntegrationPublication}
    (h : lifecycleApplied env now input current = .ok row) :
    ∃ status, row = { current with status, revokedAt := some now } := by
  simp only [lifecycleApplied, except_bind_ok_iff, except_pure_ok_iff] at h
  obtain ⟨lifecycle, -, _, -, made⟩ := h
  exact ⟨_, made.symm⟩

theorem publishIntegrationRegistryEntry_id {db : RegistryDb} {entryId : Uuid}
    {row : IntegrationPublication}
    (h : publishIntegrationRegistryEntry env now db new entryId input = .ok row) :
    row.id = new := by
  simp only [publishIntegrationRegistryEntry, except_bind_ok_iff, except_pure_ok_iff] at h
  obtain ⟨_, -, _, -, _, -, _, -, _, -, _, -, rfl⟩ := h
  rfl

/-- A publication after a step is a new one, or one from before of which only the status and the
attestation may be others. -/
theorem PublicationMove.origin {row : IntegrationPublication} (h : PublicationMove env s e row) :
    (∃ current ∈ s.publications, SamePublication current row) ∨
      row.id = env.uuid.text s.nextUuid := by
  cases h with
  | kept stored => exact .inl ⟨row, stored, ⟨rfl, rfl, rfl, rfl, rfl, rfl, rfl, rfl⟩⟩
  | published entryId input is made => exact .inr (publishIntegrationRegistryEntry_id made)
  | signed input current is stored made =>
    obtain ⟨_, -, rfl⟩ := reSigned_ok made
    exact .inl ⟨current, stored, ⟨rfl, rfl, rfl, rfl, rfl, rfl, rfl, rfl⟩⟩
  | restated input status current is stored read made =>
    subst made
    exact .inl ⟨current, stored, ⟨rfl, rfl, rfl, rfl, rfl, rfl, rfl, rfl⟩⟩
  | ended input current is stored made =>
    obtain ⟨_, rfl⟩ := lifecycleApplied_ok made
    exact .inl ⟨current, stored, ⟨rfl, rfl, rfl, rfl, rfl, rfl, rfl, rfl⟩⟩
  | swept input current is stored made =>
    subst made
    exact .inl ⟨current, stored, ⟨rfl, rfl, rfl, rfl, rfl, rfl, rfl, rfl⟩⟩

/-- A request after a step was just asked for, or decided, or is one from before that is as it was
or revoked. -/
theorem RequestMove.origin (h : RequestMove env s e row) :
    row ∈ s.requests ∨ Asked s.publications (env.uuid.text s.nextUuid) row ∨
      (∃ input, ∃ current ∈ s.requests, e.operation = .updateRequestStatus current.id input ∧
        Decided env e.now (env.uuid.text s.nextUuid) input current row) ∨
      ∃ current ∈ s.requests, row = current.revoke e.now := by
  cases h with
  | kept stored => exact .inl stored
  | asked connectorKey version input is made =>
    exact .inr (.inl (createPublicIntegrationDistributionRequest_ok made))
  | decided input current is stored made =>
    exact .inr (.inr (.inl ⟨input, current, stored, is, statusDecided_ok made⟩))
  | governed input current is stored made =>
    exact .inr (.inr (.inr ⟨current, stored, governanceApplied_ok made⟩))
  | swept input current is stored made => exact .inr (.inr (.inr ⟨current, stored, made⟩))

theorem RequestMove.token (h : RequestMove env s e row) {token : Uuid}
    (has : row.accessToken = some token) :
    (∃ current ∈ s.requests, current.id = row.id ∧ current.accessToken = some token) ∨
      token = env.uuid.text s.nextUuid := by
  rcases h.origin with stored | asked | ⟨input, current, stored, -, decided⟩ |
    ⟨current, stored, rfl⟩
  · exact .inl ⟨row, stored, rfl, has⟩
  · rw [asked.accessToken] at has
    cases has
  · exact (decided.token has).imp_left fun old => ⟨current, stored, decided.id.symm, old⟩
  · cases has

theorem updateOne_keys {α : Type} {key : α → Uuid} {missing : ApiException} {id : Uuid}
    {change : α → Except ApiException α} {rows rows' : List α} {a : α}
    (keeps : ∀ current row, change current = .ok row → key row = key current)
    (h : updateOne key missing id change rows = .ok (a, rows')) : rows'.map key = rows.map key := by
  obtain ⟨current, found, changed, rfl⟩ := updateOne_ok_iff.mp h
  exact Rows.map_put ((keeps current a changed).trans (Rows.find_some found).2) rows

theorem addNew_keys {α : Type} {key : α → Uuid} {answer : Except ApiException α} {a : α}
    {rows rows' : List α} (keyed : ∀ row, answer = .ok row → key row = new)
    (h : answer.map (fun row => (row, rows ++ [row])) = .ok (a, rows')) :
    rows'.map key = rows.map key ++ [new] := by
  cases made : answer with
  | error e =>
    rw [made] at h
    cases h
  | ok row =>
    rw [made] at h
    obtain ⟨-, rfl⟩ := Prod.mk.inj (Except.ok.inj h)
    rw [map_append, map_singleton, keyed row made]

theorem withPublications_ids {α : Type}
    {answer : Except ApiException (α × List IntegrationPublication)}
    {p : List Uuid → Prop} (same : p (s.publications.map (·.id)))
    (done : ∀ a rows, answer = .ok (a, rows) → p (rows.map (·.id))) :
    p ((s.withPublications answer).publications.map (·.id)) := by
  cases answer with
  | error e => exact same
  | ok result => exact done result.1 result.2 rfl

theorem withRequests_ids {α : Type}
    {answer : Except ApiException (α × List IntegrationDistributionRequest)}
    {p : List Uuid → Prop} (same : p (s.requests.map (·.id)))
    (done : ∀ a rows, answer = .ok (a, rows) → p (rows.map (·.id))) :
    p ((s.withRequests answer).requests.map (·.id)) := by
  cases answer with
  | error e => exact same
  | ok result => exact done result.1 result.2 rfl

def Grows (new : Uuid) (before after : List Uuid) : Prop := after = before ∨ after = before ++ [new]

theorem step_publicationIds (env : EnterpriseEnv) (s : EnterpriseDb) (e : Event) :
    Grows (env.uuid.text s.nextUuid) (s.publications.map (·.id))
      ((step env s e).publications.map (·.id)) := by
  obtain ⟨now, operation⟩ := e
  cases operation with
  | edit registry => exact .inl rfl
  | publish entryId input =>
    simp only [step, operate]
    exact withPublications_ids (.inl rfl) fun a rows made =>
      .inr (addNew_keys (fun row => publishIntegrationRegistryEntry_id) made)
  | reSign id input =>
    simp only [step, operate]
    refine withPublications_ids (.inl rfl) fun a rows made =>
      .inl (updateOne_keys (fun current row changed => ?_) made)
    obtain ⟨_, -, rfl⟩ := reSigned_ok changed
    rfl
  | updatePublicationStatus id input =>
    simp only [step, operate]
    refine withPublications_ids (.inl rfl) fun a rows made => .inl ?_
    unfold updateIntegrationPublicationStatus at made
    obtain ⟨status, -, made⟩ := except_bind_ok_iff.mp made
    refine updateOne_keys (fun current row changed => ?_) made
    obtain rfl := Except.ok.inj changed
    rfl
  | applyPublicationLifecycle id input =>
    simp only [step, operate]
    refine withPublications_ids (.inl rfl) fun a rows made =>
      .inl (updateOne_keys (fun current row changed => ?_) made)
    obtain ⟨_, rfl⟩ := lifecycleApplied_ok changed
    rfl
  | sweepPublications input =>
    refine .inl ?_
    have keeps : ∀ row : IntegrationPublication, (row.revoke now).id = row.id := fun _ => rfl
    simp only [step, operate, runIntegrationPublicationLifecycleSweep]
    split
    · rfl
    · exact Rows.map_updateWhere keeps _
  | requestDistribution connectorKey version input =>
    simp only [step, operate, EnterpriseDb.addRequest, withRequests_publications]
    exact .inl rfl
  | updateRequestStatus id input | applyRequestGovernance id input =>
    simp only [step, operate, withRequests_publications]
    exact .inl rfl
  | sweepRequests input => exact .inl rfl

theorem step_requestIds (env : EnterpriseEnv) (s : EnterpriseDb) (e : Event) :
    Grows (env.uuid.text s.nextUuid) (s.requests.map (·.id))
      ((step env s e).requests.map (·.id)) := by
  obtain ⟨now, operation⟩ := e
  cases operation with
  | edit registry => exact .inl rfl
  | publish entryId input =>
    simp only [step, operate, EnterpriseDb.addPublication, withPublications_requests]
    exact .inl rfl
  | reSign id input | updatePublicationStatus id input | applyPublicationLifecycle id input =>
    simp only [step, operate, withPublications_requests]
    exact .inl rfl
  | sweepPublications input => exact .inl rfl
  | requestDistribution connectorKey version input =>
    simp only [step, operate]
    exact withRequests_ids (.inl rfl) fun a rows made => .inr (addNew_keys
      (fun row asked => (createPublicIntegrationDistributionRequest_ok asked).id) made)
  | updateRequestStatus id input =>
    simp only [step, operate]
    exact withRequests_ids (.inl rfl) fun a rows made =>
      .inl (updateOne_keys (fun current row changed => (statusDecided_ok changed).id) made)
  | applyRequestGovernance id input =>
    simp only [step, operate]
    refine withRequests_ids (.inl rfl) fun a rows made =>
      .inl (updateOne_keys (fun current row changed => ?_) made)
    obtain rfl := governanceApplied_ok changed
    rfl
  | sweepRequests input =>
    refine .inl ?_
    have keeps : ∀ row : IntegrationDistributionRequest, (row.revoke now).id = row.id :=
      fun _ => rfl
    simp only [step, operate, runIntegrationDistributionRequestGovernanceSweep]
    split
    · rfl
    · exact Rows.map_updateWhere keeps _

def Issued (env : EnterpriseEnv) (s : EnterpriseDb) (id : Uuid) : Prop :=
  ∃ k < s.nextUuid, env.uuid.text k = id

theorem Issued.step {id : Uuid} (h : Issued env s id) (e : Event) :
    Issued env (step env s e) id := by
  obtain ⟨k, before, is⟩ := h
  exact ⟨k, Nat.lt_succ_of_lt before, is⟩

theorem issued_new (env : EnterpriseEnv) (s : EnterpriseDb) (e : Event) :
    Issued env (step env s e) (env.uuid.text s.nextUuid) := ⟨s.nextUuid, Nat.lt_succ_self _, rfl⟩

theorem Issued.ne_new {id : Uuid} (h : Issued env s id) : id ≠ env.uuid.text s.nextUuid := by
  obtain ⟨k, before, rfl⟩ := h
  exact fun same => Nat.ne_of_lt before (env.uuid.distinct same)

/-- Identifiers of a table that are each their own and were all given out. -/
structure OwnIds (env : EnterpriseEnv) (s : EnterpriseDb) (ids : List Uuid) : Prop where
  distinct : ids.Nodup
  issued : ∀ id ∈ ids, Issued env s id

theorem OwnIds.step {before after : List Uuid} (own : OwnIds env s before)
    (grows : Grows (env.uuid.text s.nextUuid) before after) (e : Event) :
    OwnIds env (step env s e) after := by
  rcases grows with rfl | rfl
  · exact ⟨own.distinct, fun id listed => (own.issued id listed).step e⟩
  · refine ⟨nodup_append'.mpr ⟨own.distinct, nodup_singleton _, fun id listed new => ?_⟩,
      fun id listed => ?_⟩
    · exact (own.issued id listed).ne_new (mem_singleton.mp new)
    · rcases mem_append.mp listed with old | new
      · exact (own.issued id old).step e
      · rw [mem_singleton.mp new]
        exact issued_new env s e

/-- A request and the publication it is for. -/
def Names (publication : IntegrationPublication) (request : IntegrationDistributionRequest) :
    Prop :=
  publication.id = request.publicationId ∧ publication.connectorKey = request.connectorKey ∧
    publication.version = request.version ∧ publication.visibility = "PARTNER"

structure Sound (env : EnterpriseEnv) (s : EnterpriseDb) : Prop where
  publicationIds : OwnIds env s (s.publications.map (·.id))
  requestIds : OwnIds env s (s.requests.map (·.id))
  tokens : ∀ request ∈ s.requests, ∀ token, request.accessToken = some token → Issued env s token
  ownTokens : ∀ request ∈ s.requests, ∀ other ∈ s.requests, ∀ token,
    request.accessToken = some token → other.accessToken = some token → request.id = other.id
  named : ∀ request ∈ s.requests, ∃ publication ∈ s.publications, Names publication request
  revoked : ∀ request ∈ s.requests, request.status = "REVOKED" → request.accessToken = none
  consumers : ∀ request ∈ s.requests, ∀ key, request.grantedConsumerKey = some key →
    Text.trim key = key ∧ key ≠ ""

theorem sound_initial (env : EnterpriseEnv) (registry : RegistryDb) :
    Sound env (EnterpriseDb.initial registry) := by
  constructor <;> simp [EnterpriseDb.initial]
  · exact ⟨nodup_nil, by simp⟩
  · exact ⟨nodup_nil, by simp⟩

theorem Sound.stays (sound : Sound env s) (e : Event) {publication : IntegrationPublication}
    (stored : publication ∈ s.publications) :
    ∃ row ∈ (step env s e).publications, SamePublication publication row := by
  have listed : publication.id ∈ s.publications.map (·.id) := mem_map_of_mem stored
  have kept : publication.id ∈ (step env s e).publications.map (·.id) := by
    rcases step_publicationIds env s e with same | more
    · rwa [same]
    · rw [more]
      exact mem_append_left _ listed
  obtain ⟨row, member, is⟩ := mem_map.mp kept
  rcases (step_publication member).origin with ⟨current, old, same⟩ | new
  · have here : current = publication :=
      Rows.eq_of_key sound.publicationIds.distinct old stored (same.id.symm.trans is)
    exact ⟨row, member, here ▸ same⟩
  · exact absurd (is.symm.trans new) (sound.publicationIds.issued _ listed).ne_new

theorem sound_named (sound : Sound env s) (e : Event) :
    ∀ request ∈ (step env s e).requests, ∃ publication ∈ (step env s e).publications,
      Names publication request := by
  have kept : ∀ request : IntegrationDistributionRequest, ∀ publication ∈ s.publications,
      Names publication request →
        ∃ publication ∈ (step env s e).publications, Names publication request := by
    intro request publication stored names
    obtain ⟨row, member, same⟩ := sound.stays e stored
    exact ⟨row, member, same.id.trans names.1, same.connectorKey.trans names.2.1,
      same.version.trans names.2.2.1, same.visibility.trans names.2.2.2⟩
  intro request member
  rcases (step_request member).origin with old | asked | ⟨input, current, old, -, decided⟩ |
    ⟨current, old, rfl⟩
  · obtain ⟨publication, stored, names⟩ := sound.named request old
    exact kept request publication stored names
  · obtain ⟨publication, stored, names⟩ := asked.publication
    exact kept request publication stored names
  · obtain ⟨publication, stored, names⟩ := sound.named current old
    refine kept request publication stored ?_
    rwa [Names, decided.publicationId, decided.connectorKey, decided.version]
  · obtain ⟨publication, stored, names⟩ := sound.named current old
    exact kept _ publication stored names

theorem sound_ownTokens (sound : Sound env s) (e : Event) :
    ∀ request ∈ (step env s e).requests, ∀ other ∈ (step env s e).requests, ∀ token,
      request.accessToken = some token → other.accessToken = some token →
        request.id = other.id := by
  have new : ∀ request ∈ (step env s e).requests,
      request.accessToken = some (env.uuid.text s.nextUuid) →
        ∃ input, e.operation = .updateRequestStatus request.id input := by
    intro request member has
    have fresh : ∀ current ∈ s.requests, current.accessToken ≠ some (env.uuid.text s.nextUuid) :=
      fun current stored old => (sound.tokens current stored _ old).ne_new rfl
    rcases (step_request member).origin with old | asked | ⟨input, current, old, is, decided⟩ |
      ⟨current, old, rfl⟩
    · exact absurd has (fresh request old)
    · rw [asked.accessToken] at has
      cases has
    · exact ⟨input, by rw [decided.id]; exact is⟩
    · cases has
  intro request member other member' token has has'
  rcases (step_request member).token has with ⟨current, old, is, was⟩ | rfl
  · rcases (step_request member').token has' with ⟨current', old', is', was'⟩ | fresh
    · exact is.symm.trans ((sound.ownTokens current old current' old' token was was').trans is')
    · exact absurd fresh (sound.tokens current old token was).ne_new
  · obtain ⟨input, is⟩ := new request member has
    obtain ⟨input', is'⟩ := new other member' has'
    rw [is] at is'
    exact (Operation.updateRequestStatus.inj is').1

theorem sound_consumers (sound : Sound env s) (e : Event) :
    ∀ request ∈ (step env s e).requests, ∀ key, request.grantedConsumerKey = some key →
      Text.trim key = key ∧ key ≠ "" := by
  intro request member key granted
  rcases (step_request member).origin with old | asked | ⟨input, current, old, -, decided⟩ |
    ⟨current, old, rfl⟩
  · exact sound.consumers request old key granted
  · rw [asked.grantedConsumerKey] at granted
    cases granted
  · rw [decided.grantedConsumerKey, readGrantedConsumerKey] at granted
    split at granted
    · exact sound.consumers current old key granted
    · obtain ⟨rfl, filled⟩ := orNull_eq_some_iff.mp granted
      exact ⟨Text.trim_trim _, filled⟩
  · exact sound.consumers current old key granted

theorem sound_step (sound : Sound env s) (e : Event) : Sound env (step env s e) where
  publicationIds := sound.publicationIds.step (step_publicationIds env s e) e
  requestIds := sound.requestIds.step (step_requestIds env s e) e
  tokens := by
    intro request member token has
    rcases (step_request member).token has with ⟨current, old, -, was⟩ | rfl
    · exact (sound.tokens current old token was).step e
    · exact issued_new env s e
  ownTokens := sound_ownTokens sound e
  named := sound_named sound e
  revoked := by
    intro request member is
    rcases (step_request member).origin with old | asked | ⟨input, current, old, -, decided⟩ |
      ⟨current, old, rfl⟩
    · exact sound.revoked request old is
    · exact asked.accessToken
    · exact decided.revoked is
    · rfl
  consumers := sound_consumers sound e

theorem sound_run (sound : Sound env s) (events : List Event) :
    Sound env (Trace.run (step env) s events) := by
  have keeps : ∀ s e, Sound env s → Sound env (step env s e) := fun _ e kept => sound_step kept e
  exact Trace.run_always keeps sound events

theorem sound_runFrom (env : EnterpriseEnv) (registry : RegistryDb) (events : List Event) :
    Sound env (runFrom env registry events) := sound_run (sound_initial env registry) events

/-- In every reachable state an access token is that of one request, a revoked request has none, and
every request names a publication for partners of its connector and version. -/
theorem tokens_are_own (env : EnterpriseEnv) (registry : RegistryDb) (events : List Event) :
    let s := runFrom env registry events
    (∀ request ∈ s.requests, ∀ other ∈ s.requests, ∀ token, request.accessToken = some token →
      other.accessToken = some token → request = other) ∧
    (∀ request ∈ s.requests, request.status = "REVOKED" → request.accessToken = none) ∧
    ∀ request ∈ s.requests, ∃ publication ∈ s.publications, Names publication request := by
  intro s
  have sound := sound_runFrom env registry events
  refine ⟨fun request stored other stored' token has has' => ?_, sound.revoked, sound.named⟩
  exact Rows.eq_of_key sound.requestIds.distinct stored stored'
    (sound.ownTokens request stored other stored' token has has')

end Exetron.Enterprise
