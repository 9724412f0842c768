import Exetron.Enterprise.Grants

/-!
# The term of a grant

An approval that names no expiry is to open the publication for its days. It does so just when the
request has no expiry from before, or one that is no earlier.
-/

namespace Exetron.Enterprise

open Lib Option

variable {env : EnterpriseEnv} {s : EnterpriseDb}

/-- The consumer of the request fetches the publication with its token. -/
structure PresentsGrant (publication : IntegrationPublication)
    (request : IntegrationDistributionRequest) (input : FetchInput) : Prop where
  connectorKey : input.connectorKey = publication.connectorKey
  version : input.version = publication.version
  channel : onChannel input.channel publication = true
  token : input.grantToken = request.accessToken
  consumer : ∀ key, request.grantedConsumerKey = some key → input.consumerKey = some key

/-- From one moment until another the request opens its publication to its consumer, as long as the
request stays as it is and the publication is out. -/
def OpensUntil (env : EnterpriseEnv) (s : EnterpriseDb) (request : IntegrationDistributionRequest)
    (now term : Moment) : Prop :=
  ∀ later : List Event, request ∈ (Trace.run (step env) s later).requests →
    ∀ publication ∈ (Trace.run (step env) s later).publications,
      publication.id = request.publicationId → publication.isPublished = true →
      ∀ moment, now ≤ moment → moment < term → ∀ input, PresentsGrant publication request input →
        resolvePublication moment (Trace.run (step env) s later).publications
          (Trace.run (step env) s later).requests input = .ok publication

theorem Sound.findApproved (sound : Sound env s) {request : IntegrationDistributionRequest}
    {token : Uuid} (stored : request ∈ s.requests) (has : request.accessToken = some token)
    (approved : request.status = "APPROVED") :
    findApprovedRequest s.requests token = some request := by
  have listed : request ∈ s.requests.filter fun request =>
      request.accessToken = some token ∧ request.status = "APPROVED" :=
    List.mem_filter.mpr ⟨stored, by simp [has, approved]⟩
  cases found : findApprovedRequest s.requests token with
  | none =>
    rw [findApprovedRequest, List.head?_eq_none_iff] at found
    have member : request ∈ newestFirst IntegrationDistributionRequest.updatedAt _ :=
      mem_newestFirst.mpr listed
    rw [found] at member
    cases member
  | some first =>
    obtain ⟨member, has', -⟩ := findApprovedRequest_some found
    rw [Rows.eq_of_key sound.requestIds.distinct member stored
      (sound.ownTokens first member request stored token has' has)]

theorem Issued.presented {token : Uuid} (h : Issued env s token) :
    trimmedOrNull (some token) = some token := by
  obtain ⟨k, -, rfl⟩ := h
  rw [trimmedOrNull, bind_some, env.uuid.trimmed]
  exact orNull_eq_some_iff.mpr ⟨rfl, env.uuid.filled k⟩

/-- What the grant path gives the consumer of an approved request. -/
theorem Sound.resolveGranted (sound : Sound env s) {request : IntegrationDistributionRequest}
    (stored : request ∈ s.requests) (approved : request.status = "APPROVED")
    (hasToken : request.accessToken.isSome) {publication : IntegrationPublication}
    (member : publication ∈ s.publications) (names : publication.id = request.publicationId)
    (out : publication.isPublished = true) {input : FetchInput}
    (presents : PresentsGrant publication request input) (moment : Moment) :
    resolveGrantedPublication moment s.publications s.requests input =
      if request.grantExpiresAt.all (fun date => moment < date) then some publication
      else none := by
  obtain ⟨token, has⟩ := isSome_iff_exists.mp hasToken
  have shown : trimmedOrNull input.grantToken = some token := by
    rw [presents.token, has]
    exact (sound.tokens request stored token has).presented
  have consumer : (request.grantedConsumerKey.all fun granted =>
      granted = "" ∨ trimmedOrNull input.consumerKey = some granted) = true := by
    rw [all_eq_true]
    intro key granted
    obtain ⟨trimmed, filled⟩ := sound.consumers request stored key granted
    refine decide_eq_true (.inr ?_)
    rw [presents.consumer key granted, trimmedOrNull, bind_some, trimmed]
    exact orNull_eq_some_iff.mpr ⟨rfl, filled⟩
  have located : Rows.find IntegrationPublication.id s.publications request.publicationId =
      some publication :=
    (Rows.find_eq_some_iff sound.publicationIds.distinct).mpr ⟨member, names⟩
  have asked : isAskedFor input publication = true := by
    simp [isAskedFor, presents.connectorKey, presents.version, presents.channel, out]
  simp only [resolveGrantedPublication, shown, bind_eq_bind, bind_some,
    sound.findApproved stored has approved, filter_some, grantOpens, consumer, and_true,
    decide_eq_true_eq]
  split
  · rw [bind_some, located, filter_some, if_pos asked]
  · rfl

theorem approvedExpiry {now : Moment} {ttlDays : Int} {current : IntegrationDistributionRequest}
    {expiry : Option Moment} (h : nextGrantExpiry now ttlDays none current = .ok expiry) :
    expiry = some (current.grantExpiresAt.getD (now + ttlDays * dayMs)) := by
  obtain ⟨date, next, rfl⟩ := map_ok_iff.mp h
  unfold defaultGrantExpiry at next
  split at next
  · rename_i before
    rw [before, ← Except.ok.inj next, getD_some]
  · rename_i before
    rw [required_ok_iff, toDate] at next
    split at next
    · rw [before, ← some.inj next, getD_none]
    · cases next

theorem readTtlDays_pos {input : Json} {ttlDays : Int} (h : readTtlDays input = .ok ttlDays) :
    0 < ttlDays := by
  unfold readTtlDays at h
  split at h
  · obtain rfl := Except.ok.inj h
    decide
  · have kept := (filter_eq_some_iff.mp (required_ok_iff.mp h)).2
    exact (of_decide_eq_true kept).2

theorem step_updateRequestStatus {now : Moment} {id : Uuid} {input : Json}
    {row : IntegrationDistributionRequest} {requests : List IntegrationDistributionRequest}
    (h : updateIntegrationDistributionRequestStatus env now (env.uuid.text s.nextUuid) id input
      s.requests = .ok (row, requests)) :
    (step env s ⟨now, .updateRequestStatus id input⟩).requests = requests ∧
      (step env s ⟨now, .updateRequestStatus id input⟩).publications = s.publications := by
  simp only [step, operate, h]
  exact ⟨rfl, rfl⟩

/-- An approval that names no expiry grants its term just when no earlier expiry was left. -/
theorem approval_opensUntil_iff (env : EnterpriseEnv) (registry : RegistryDb) (events : List Event)
    {now : Moment} {input : Json} {ttlDays : Int}
    {current row : IntegrationDistributionRequest} {requests : List IntegrationDistributionRequest}
    {publication : IntegrationPublication}
    (stored : current ∈ (runFrom env registry events).requests)
    (called : updateIntegrationDistributionRequestStatus env now
      (env.uuid.text (runFrom env registry events).nextUuid) current.id input
      (runFrom env registry events).requests = .ok (row, requests))
    (approves : row.status = "APPROVED") (noExpiry : input.get? "grantExpiresAt" = none)
    (term : readTtlDays input = .ok ttlDays)
    (member : publication ∈ (runFrom env registry events).publications)
    (names : publication.id = current.publicationId) (out : publication.isPublished = true) :
    OpensUntil env
        (step env (runFrom env registry events) ⟨now, .updateRequestStatus current.id input⟩)
        row now (now + ttlDays * dayMs) ↔
      ∀ date, current.grantExpiresAt = some date → now + ttlDays * dayMs ≤ date := by
  have sound := sound_runFrom env registry events
  generalize runFrom env registry events = s at *
  obtain ⟨requestsAfter, publicationsAfter⟩ := step_updateRequestStatus called
  have soundAfter := sound_step sound ⟨now, .updateRequestStatus current.id input⟩
  obtain ⟨found, located, changed, rfl⟩ := updateOne_ok_iff.mp called
  obtain rfl : current = found := by
    rw [Rows.find_of_mem sound.requestIds.distinct stored] at located
    exact Option.some.inj located
  have decided := statusDecided_ok changed
  obtain ⟨token, ttl, explicit, readTtl, readExpiry, next⟩ := decided.approved approves
  obtain rfl := Except.ok.inj (term.symm.trans readTtl)
  obtain rfl : none = explicit := by
    rw [readGrantExpiresAt, noExpiry] at readExpiry
    exact Except.ok.inj readExpiry
  have expiry := approvedExpiry next
  have hasToken : row.accessToken.isSome := by rw [token]; rfl
  constructor
  · intro opens date left
    by_contra early
    -- The expiry that was left has come before the term ends.
    have here : row ∈ (step env s ⟨now, .updateRequestStatus current.id input⟩).requests := by
      rw [requestsAfter]
      exact Rows.mem_modify.mpr ⟨current, stored, by rw [if_pos rfl]⟩
    have there : publication ∈
        (step env s ⟨now, .updateRequestStatus current.id input⟩).publications := by
      rwa [publicationsAfter]
    have names' : publication.id = row.publicationId := names.trans decided.publicationId.symm
    have partner : publication.visibility = "PARTNER" := by
      obtain ⟨named, listed, is, -, -, partner⟩ := soundAfter.named row here
      rwa [Rows.eq_of_key soundAfter.publicationIds.distinct there listed (names'.trans is.symm)]
    let fetch : FetchInput := ⟨publication.connectorKey, publication.version, none, row.accessToken,
      row.grantedConsumerKey⟩
    have presents : PresentsGrant publication row fetch :=
      ⟨rfl, rfl, rfl, rfl, fun _ granted => granted⟩
    have days := readTtlDays_pos term
    have soon : max now date < now + ttlDays * dayMs := by
      refine max_lt ?_ (not_le.mp early)
      exact lt_add_of_pos_right now (mul_pos days (by decide))
    have fetched := opens [] here publication there names' out (max now date) (le_max_left _ _) soon
      fetch presents
    have refused := soundAfter.resolveGranted here approves hasToken there names' out presents
      (max now date)
    rw [expiry, left, Option.getD_some, Option.all_some, if_neg (by simp)] at refused
    simp only [Trace.run, resolvePublication, refused] at fetched
    have isPublic := (resolvePublicPublication_ok fetched).2.1
    rw [partner] at isPublic
    exact absurd isPublic (by decide)
  · intro late later here publication' there names' out' moment after before fetch presents
    have soundLater := sound_run soundAfter later
    have granted := soundLater.resolveGranted here approves hasToken there names' out' presents
      moment
    have stands : moment < current.grantExpiresAt.getD (now + ttlDays * dayMs) := by
      cases left : current.grantExpiresAt with
      | none => exact before
      | some date => exact lt_of_lt_of_le before (late date left)
    rw [expiry, Option.all_some, if_pos (decide_eq_true stands)] at granted
    rw [resolvePublication, granted]

def askAndPublish : List Event :=
  let partner : Json := .obj [("companyName", .str "Partner"), ("contactName", .str "Ann"),
    ("contactEmail", .str "ann@partner.test")]
  [⟨0, .publish "entry" (.obj [])⟩, ⟨0, .requestDistribution "freshlane" "1" partner⟩]

def partnerRequestId : Uuid := UuidSource.counter.text 1

def approveAndSweep : List Event :=
  let approval : Json := .obj [("status", .str "APPROVED"), ("grantTtlDays", .num 1)]
  askAndPublish ++ [⟨0, .updateRequestStatus partnerRequestId approval⟩,
    ⟨2 * dayMs, .sweepRequests (.obj [("dryRun", .bool false)])⟩]

def approveForDefault : Json := .obj [("status", .str "APPROVED")]

def partnerRun (events : List Event) : EnterpriseDb :=
  runFrom counterEnv (oneConnector (.obj [])) events

/-- What the calls below look at of the request and the publication. -/
theorem partnerRun_rows (events : List Event) (now : Moment) (token : Uuid) (expiry : Option Moment)
    (requested : (partnerRun events).requests.map (fun row => (row.id, row.grantExpiresAt)) =
      [(partnerRequestId, expiry)])
    (published : (partnerRun events).publications.map
      (fun row => (row.id, row.connectorKey, row.version, row.isPublished)) =
        [(UuidSource.counter.text 0, "freshlane", "1", true)])
    (approved : (updateIntegrationDistributionRequestStatus counterEnv now
      (counterEnv.uuid.text (partnerRun events).nextUuid) partnerRequestId approveForDefault
      (partnerRun events).requests).toOption.map
        (fun answer => (answer.1.status, answer.1.publicationId, answer.1.accessToken,
          answer.1.grantedConsumerKey)) =
      some ("APPROVED", UuidSource.counter.text 0, some token, none)) :
    ∃ current ∈ (partnerRun events).requests, current.id = partnerRequestId ∧
      current.grantExpiresAt = expiry ∧
      ∃ row requests, updateIntegrationDistributionRequestStatus counterEnv now
        (counterEnv.uuid.text (partnerRun events).nextUuid) current.id approveForDefault
        (partnerRun events).requests = .ok (row, requests) ∧ row ∈ requests ∧
        row.status = "APPROVED" ∧ row.accessToken = some token ∧ row.grantedConsumerKey = none ∧
        ∃ publication ∈ (partnerRun events).publications,
          publication.id = row.publicationId ∧ publication.id = current.publicationId ∧
          publication.connectorKey = "freshlane" ∧ publication.version = "1" ∧
          publication.isPublished = true := by
  obtain ⟨⟨row, requests⟩, called, is⟩ := toOption_map_eq_some.mp approved
  obtain ⟨status, names, token, consumer⟩ : row.status = "APPROVED" ∧
      row.publicationId = UuidSource.counter.text 0 ∧ row.accessToken = some token ∧
      row.grantedConsumerKey = none := by simpa using is
  obtain ⟨current, located, changed, rfl⟩ := updateOne_ok_iff.mp called
  obtain ⟨stored, keyed⟩ := Rows.find_some located
  have listed : (current.id, current.grantExpiresAt) ∈
      (partnerRun events).requests.map fun row => (row.id, row.grantExpiresAt) :=
    List.mem_map_of_mem stored
  have out : (UuidSource.counter.text 0, "freshlane", "1", true) ∈
      (partnerRun events).publications.map
        fun row => (row.id, row.connectorKey, row.version, row.isPublished) := by
    rw [published]
    exact List.mem_singleton_self _
  obtain ⟨publication, member, is'⟩ := List.mem_map.mp out
  obtain ⟨id, connectorKey, version, isPublished⟩ : publication.id = UuidSource.counter.text 0 ∧
      publication.connectorKey = "freshlane" ∧ publication.version = "1" ∧
      publication.isPublished = true := by simpa using is'
  rw [requested, List.mem_singleton] at listed
  refine ⟨current, stored, keyed, (Prod.mk.inj listed).2, row, _, keyed.symm ▸ called, ?_, status,
    token, consumer, publication, member, id.trans names.symm, ?_, connectorKey, version,
    isPublished⟩
  · exact Rows.mem_modify.mpr ⟨current, stored, by rw [if_pos rfl]⟩
  · rw [id, ← names, (statusDecided_ok changed).publicationId]

/-- The first approval of a request opens the publication for thirty days. -/
theorem first_approval_opensUntil : ∃ row requests,
    updateIntegrationDistributionRequestStatus counterEnv 0
      (counterEnv.uuid.text (partnerRun askAndPublish).nextUuid) partnerRequestId approveForDefault
      (partnerRun askAndPublish).requests = .ok (row, requests) ∧
    OpensUntil counterEnv
      (step counterEnv (partnerRun askAndPublish)
        ⟨0, .updateRequestStatus partnerRequestId approveForDefault⟩) row 0 (0 + 30 * dayMs) := by
  obtain ⟨current, stored, keyed, none, row, requests, called, -, approved, -, -, publication,
    member, -, names, -, -, out⟩ := partnerRun_rows askAndPublish 0 (UuidSource.counter.text 2) none
      (by decide +kernel) (by decide +kernel) (by decide +kernel)
  rw [keyed] at called
  refine ⟨row, requests, called, ?_⟩
  rw [← keyed] at called ⊢
  refine (approval_opensUntil_iff counterEnv (oneConnector (.obj [])) askAndPublish stored called
    approved rfl rfl member names out).mpr fun date left => ?_
  rw [none] at left
  cases left

/-- A request approved anew after its grant ran out gets the old expiry: its token opens nothing. -/
theorem renewed_approval_not_opensUntil : ¬∀ (events : List Event) (now : Moment) (input : Json)
    (ttlDays : Int) (current row : IntegrationDistributionRequest)
    (requests : List IntegrationDistributionRequest) (publication : IntegrationPublication),
    current ∈ (partnerRun events).requests →
    updateIntegrationDistributionRequestStatus counterEnv now
      (counterEnv.uuid.text (partnerRun events).nextUuid) current.id input
      (partnerRun events).requests = .ok (row, requests) →
    row.status = "APPROVED" → input.get? "grantExpiresAt" = none →
    readTtlDays input = .ok ttlDays → publication ∈ (partnerRun events).publications →
    publication.id = current.publicationId → publication.isPublished = true →
    OpensUntil counterEnv
      (step counterEnv (partnerRun events) ⟨now, .updateRequestStatus current.id input⟩)
      row now (now + ttlDays * dayMs) := by
  intro claim
  obtain ⟨current, stored, keyed, -, row, requests, called, here, approved, token, consumer,
    publication, member, names', names, connectorKey, version, out⟩ := partnerRun_rows
      approveAndSweep (2 * dayMs) (UuidSource.counter.text 4) (some dayMs) (by decide +kernel)
      (by decide +kernel) (by decide +kernel)
  have opens := claim approveAndSweep (2 * dayMs) approveForDefault 30 current row requests
    publication stored called approved rfl rfl member names out
  obtain ⟨requestsAfter, publicationsAfter⟩ := step_updateRequestStatus called
  let fetch : FetchInput :=
    ⟨"freshlane", "1", none, some (UuidSource.counter.text 4), none⟩
  have presents : PresentsGrant publication row fetch :=
    ⟨connectorKey.symm, version.symm, rfl, token.symm, fun key granted => by
      rw [consumer] at granted
      cases granted⟩
  have fetched := opens [] (by rwa [Trace.run, requestsAfter]) publication
    (by rwa [Trace.run, publicationsAfter]) names' out (2 * dayMs) le_rfl (by decide) fetch presents
  have refused : (resolvePublication (2 * dayMs)
      (step counterEnv (partnerRun approveAndSweep)
        ⟨2 * dayMs, .updateRequestStatus partnerRequestId approveForDefault⟩).publications
      (step counterEnv (partnerRun approveAndSweep)
        ⟨2 * dayMs, .updateRequestStatus partnerRequestId approveForDefault⟩).requests
      fetch).toBool = false := by decide +kernel
  rw [Trace.run, keyed] at fetched
  rw [fetched] at refused
  exact Bool.noConfusion refused

end Exetron.Enterprise
