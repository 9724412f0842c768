import Exetron.Enterprise.Reached

/-!
# Attestations

The attestation of a publication is of what the endpoints serve, whatever is signed again or edited
in between, and its signature was made with the secret it names.
-/

namespace Exetron.Enterprise

open Lib

variable {env : EnterpriseEnv} {s : EnterpriseDb} {e : Event} {db : RegistryDb}
  {row publication : IntegrationPublication} {now : Moment}

/-- The digests and the payload are those of the artifact and the columns of the publication. -/
structure AttestsArtifact (env : EnterpriseEnv) (publication : IntegrationPublication) : Prop where
  packageDigest : publication.attestation.packageDigest =
    env.sha256 publication.artifact.package.content
  docsDigest : publication.attestation.docsDigest = env.sha256 publication.artifact.docs.markdown
  payload : ∃ attestedAt, publication.attestation.payload =
    Json.stringifyIndented (.obj [("registryEntryId", .str publication.registryEntryId),
      ("connectorKey", .str publication.connectorKey), ("version", .str publication.version),
      ("visibility", .str publication.visibility), ("channel", .str publication.channel),
      ("packageDigest", .str publication.attestation.packageDigest),
      ("docsDigest", .str publication.attestation.docsDigest),
      ("publishedAt", .str (env.toISOString publication.publishedAt)),
      ("attestedAt", .str (env.toISOString attestedAt))])
  artifactDigest : publication.attestation.artifactDigest =
    env.sha256 publication.attestation.payload

/-- What the endpoints return of a publication has the digests of its attestation. -/
structure ServesAttested (env : EnterpriseEnv) (s : EnterpriseDb)
    (publication : IntegrationPublication) : Prop where
  package (pack : DeveloperPackage) :
    getIntegrationPublicationPackage s.publications publication.id = .ok pack →
      publication.attestation.packageDigest = env.sha256 pack.content
  docs (docs : DeveloperDocs) :
    getIntegrationPublicationDocs s.publications publication.id = .ok docs →
      publication.attestation.docsDigest = env.sha256 docs.markdown
  publicPackage (now : Moment) (input : FetchInput) (pack : DeveloperPackage) :
    resolvePublication now s.publications s.requests input = .ok publication →
    getPublicIntegrationPublicationPackage now s.publications s.requests input = .ok pack →
      publication.attestation.packageDigest = env.sha256 pack.content
  publicDocs (now : Moment) (input : FetchInput) (docs : DeveloperDocs) :
    resolvePublication now s.publications s.requests input = .ok publication →
    getPublicIntegrationPublicationDocs now s.publications s.requests input = .ok docs →
      publication.attestation.docsDigest = env.sha256 docs.markdown

def SignedUnder (env : EnterpriseEnv) (registry : RegistryDb)
    (attestation : PublicationAttestation) : Prop :=
  ∃ secret ∈ registry.secrets, ∃ value, secret.signingValue = some value ∧
    attestation.keyRef = some (secret.key ++ ":" ++ secret.id) ∧
    attestation.signature = some (env.hmacSha256 value attestation.payload)

def WritesAttestation (env : EnterpriseEnv) (s : EnterpriseDb) (e : Event) (id : Uuid) : Prop :=
  (∃ input, e.operation = .reSign id input) ∨
    ∃ entryId input, e.operation = .publish entryId input ∧ id = env.uuid.text s.nextUuid

/-- The attestation was written at some event of the run, stood from then on, and was signed with
the secret it names, as that was at the event. -/
def SignedInRun (env : EnterpriseEnv) (registry : RegistryDb) (events : List Event)
    (publication : IntegrationPublication) : Prop :=
  ∃ before e after, events = before ++ e :: after ∧
    WritesAttestation env (runFrom env registry before) e publication.id ∧
    SignedUnder env (runFrom env registry before).registry publication.attestation ∧
    ∀ between, between <+: after →
      ∃ row ∈ (runFrom env registry (before ++ e :: between)).publications,
        row.id = publication.id ∧ row.attestation = publication.attestation

theorem resolveReleaseSigningSecret_some {tenantId organizationId signingKey : Option String}
    {secret : SigningSecret}
    (h : resolveReleaseSigningSecret db tenantId organizationId signingKey = some secret) :
    ∃ row ∈ db.secrets, row.signingValue = some secret.value ∧
      secret.keyRef = row.key ++ ":" ++ row.id := by
  simp only [resolveReleaseSigningSecret, Option.bind_eq_bind, Option.bind_eq_some_iff] at h
  obtain ⟨row, selected, value, readable, made⟩ := h
  obtain rfl := Option.some.inj made
  refine ⟨row, ?_, readable, rfl⟩
  have listed {p : SecretRegistryEntry → Bool} {rows : List SecretRegistryEntry}
      (found : (newestFirst SecretRegistryEntry.createdAt rows).find? p = some row) : row ∈ rows :=
    mem_newestFirst.mp (List.mem_of_find?_eq_some found)
  unfold selectSecret at selected
  simp only [Option.or_eq_some_iff] at selected
  rcases selected with (ofOrganization | ⟨-, ofTenant⟩) | ⟨-, ofNoOne⟩
  · exact (List.mem_filter.mp (listed ofOrganization)).1
  · exact (List.mem_filter.mp (listed ofTenant)).1
  · exact (List.mem_filter.mp (listed ofNoOne)).1

theorem signedUnder_of_built {input : AttestationInput}
    (resolved : ∀ secret, input.signingSecret = some secret → ∃ row ∈ db.secrets,
      row.signingValue = some secret.value ∧ secret.keyRef = row.key ++ ":" ++ row.id)
    (signed : (buildPublicationAttestation env input).signatureStatus = "SIGNED") :
    SignedUnder env db (buildPublicationAttestation env input) := by
  cases given : input.signingSecret with
  | none =>
    simp only [buildPublicationAttestation, given] at signed
    exact absurd signed (by decide)
  | some secret =>
    obtain ⟨row, stored, readable, named⟩ := resolved secret given
    refine ⟨row, stored, secret.value, readable, ?_, ?_⟩
    · simp only [buildPublicationAttestation, given, Option.map_some, named]
    · simp only [buildPublicationAttestation, given, Option.map_some]

/-- What is published, in terms of the entry it is of. -/
structure PublishedEntry (env : EnterpriseEnv) (now : Moment) (db : RegistryDb) (entryId : Uuid)
    (input : Json) (row : IntegrationPublication) : Prop where
  entry : ∃ entry, getIntegrationRegistryEntry db entryId = .ok entry ∧
    ∃ evaluation, getIntegrationPublicationReadiness env db entryId
        ⟨some (.str row.visibility), some (.str row.channel), input.get? "signingKey"⟩ =
      .ok evaluation ∧ evaluation.canPublish = true ∧
    row.attestation = buildPublicationAttestation env
      ⟨row.registryEntryId, row.connectorKey, row.version, row.visibility, row.channel,
        row.artifact.package.content, row.artifact.docs.markdown,
        resolveReleaseSigningSecret db entry.tenantId entry.organizationId
          (textIfTruthy (input.get? "signingKey")), row.publishedAt, now⟩

theorem publishIntegrationRegistryEntry_ok {new entryId : Uuid} {input : Json}
    (h : publishIntegrationRegistryEntry env now db new entryId input = .ok row) :
    PublishedEntry env now db entryId input row := by
  simp only [publishIntegrationRegistryEntry, except_bind_ok_iff, except_pure_ok_iff,
    rejectIf_ok_iff] at h
  obtain ⟨entry, found, _, -, pack, -, docs, -, evaluation, evaluated, _, admitted, rfl⟩ := h
  exact ⟨entry, found, evaluation, evaluated, by simpa using admitted, rfl⟩

theorem attestsArtifact_of_built {signingSecret : Option SigningSecret}
    (built : publication.attestation = buildPublicationAttestation env
      ⟨publication.registryEntryId, publication.connectorKey, publication.version,
        publication.visibility, publication.channel, publication.artifact.package.content,
        publication.artifact.docs.markdown, signingSecret, publication.publishedAt, now⟩) :
    AttestsArtifact env publication := by
  refine ⟨?_, ?_, ⟨now, ?_⟩, ?_⟩
  all_goals rw [built]; rfl

theorem runFrom_snoc (env : EnterpriseEnv) (registry : RegistryDb) (events : List Event)
    (e : Event) : runFrom env registry (events ++ [e]) = step env (runFrom env registry events) e :=
  Trace.run_append _ events [e]

theorem SignedInRun.extend {registry : RegistryDb} {events : List Event}
    (h : SignedInRun env registry events publication)
    (member : row ∈ (runFrom env registry (events ++ [e])).publications)
    (sameId : row.id = publication.id) (same : row.attestation = publication.attestation) :
    SignedInRun env registry (events ++ [e]) row := by
  obtain ⟨before, e', after, rfl, writes, signed, stands⟩ := h
  refine ⟨before, e', after ++ [e], by simp, sameId ▸ writes, same ▸ signed,
    fun between prior => ?_⟩
  rcases List.prefix_concat_iff.mp prior with rfl | earlier
  · exact ⟨row, by simpa using member, rfl, rfl⟩
  · obtain ⟨then_, stored, is, had⟩ := stands between earlier
    exact ⟨then_, stored, is.trans sameId.symm, had.trans same.symm⟩

theorem signedInRun_of_written {registry : RegistryDb} {events : List Event}
    (member : row ∈ (runFrom env registry (events ++ [e])).publications)
    (writes : WritesAttestation env (runFrom env registry events) e row.id)
    (signed : SignedUnder env (runFrom env registry events).registry row.attestation) :
    SignedInRun env registry (events ++ [e]) row := by
  refine ⟨events, e, [], rfl, writes, signed, fun between prior => ?_⟩
  rw [List.prefix_nil.mp prior]
  exact ⟨row, member, rfl, rfl⟩

theorem attested_run (env : EnterpriseEnv) (registry : RegistryDb) (events : List Event) :
    ∀ publication ∈ (runFrom env registry events).publications, AttestsArtifact env publication ∧
      (publication.attestation.signatureStatus = "SIGNED" →
        SignedInRun env registry events publication) := by
  induction events using List.reverseRecOn with
  | nil => exact fun publication stored => absurd stored (List.not_mem_nil)
  | append_singleton events e ih =>
    intro row member
    have here := member
    rw [runFrom_snoc] at here
    -- A row that only changed its status has the attestation it had.
    have carried : ∀ current ∈ (runFrom env registry events).publications,
        SamePublication current row → row.attestation = current.attestation →
        AttestsArtifact env row ∧ (row.attestation.signatureStatus = "SIGNED" →
          SignedInRun env registry (events ++ [e]) row) := by
      intro current stored same kept
      obtain ⟨attests, signed⟩ := ih current stored
      refine ⟨⟨?_, ?_, ?_, ?_⟩, fun status => (signed (kept ▸ status)).extend member same.id kept⟩
      · rw [kept, same.artifact]
        exact attests.packageDigest
      · rw [kept, same.artifact]
        exact attests.docsDigest
      · rw [kept, same.registryEntryId, same.connectorKey, same.version, same.visibility,
          same.channel, same.publishedAt]
        exact attests.payload
      · rw [kept]
        exact attests.artifactDigest
    cases step_publication here with
    | kept stored => exact carried row stored ⟨rfl, rfl, rfl, rfl, rfl, rfl, rfl, rfl⟩ rfl
    | published entryId input is made =>
      obtain ⟨entry, -, _, -, -, built⟩ := (publishIntegrationRegistryEntry_ok made).entry
      refine ⟨attestsArtifact_of_built built, fun signed => ?_⟩
      have writes := publishIntegrationRegistryEntry_id made
      refine signedInRun_of_written member (.inr ⟨entryId, input, is, writes⟩) ?_
      rw [built] at signed ⊢
      exact signedUnder_of_built (fun _ => resolveReleaseSigningSecret_some) signed
    | signed input current is stored made =>
      obtain ⟨secret, resolved, rfl⟩ := reSigned_ok made
      refine ⟨attestsArtifact_of_built rfl, fun signed => ?_⟩
      refine signedInRun_of_written member (.inl ⟨input, is⟩) (signedUnder_of_built ?_ signed)
      intro secret' is'
      obtain rfl := Option.some.inj is'
      exact resolveReleaseSigningSecret_some resolved
    | restated input status current is stored read made =>
      subst made
      exact carried current stored ⟨rfl, rfl, rfl, rfl, rfl, rfl, rfl, rfl⟩ rfl
    | ended input current is stored made =>
      obtain ⟨_, rfl⟩ := lifecycleApplied_ok made
      exact carried current stored ⟨rfl, rfl, rfl, rfl, rfl, rfl, rfl, rfl⟩ rfl
    | swept input current is stored made =>
      subst made
      exact carried current stored ⟨rfl, rfl, rfl, rfl, rfl, rfl, rfl, rfl⟩ rfl

theorem servesAttested (sound : Sound env s) (stored : publication ∈ s.publications)
    (attests : AttestsArtifact env publication) : ServesAttested env s publication := by
  have found : getIntegrationPublication s.publications publication.id = .ok publication :=
    required_ok_iff.mpr (Rows.find_of_mem sound.publicationIds.distinct stored)
  refine ⟨fun pack served => ?_, fun docs served => ?_, fun now input pack resolved served => ?_,
    fun now input docs resolved served => ?_⟩
  · obtain ⟨row, read, rfl⟩ := map_ok_iff.mp served
    rw [Except.ok.inj (read.symm.trans found)]
    exact attests.packageDigest
  · obtain ⟨row, read, rfl⟩ := map_ok_iff.mp served
    rw [Except.ok.inj (read.symm.trans found)]
    exact attests.docsDigest
  · obtain ⟨row, read, rfl⟩ := map_ok_iff.mp served
    rw [Except.ok.inj (read.symm.trans resolved)]
    exact attests.packageDigest
  · obtain ⟨row, read, rfl⟩ := map_ok_iff.mp served
    rw [Except.ok.inj (read.symm.trans resolved)]
    exact attests.docsDigest

def TurnsSigningOff (manifest : Json) : Prop :=
  ∃ value, Json.present (Record.get
    (asObject (Record.get (asObject (some manifest)) "distribution"))
    "requireSignedPublications") = some value ∧ Json.isTruthy (some value) = false

theorem signatureRequired_public {manifest : Json} (off : ¬TurnsSigningOff manifest) :
    signatureRequired (asObject (Record.get (asObject (some manifest)) "distribution")) "PUBLIC" =
      true := by
  by_contra required
  rw [Bool.not_eq_true, signatureRequired] at required
  refine off ?_
  unfold TurnsSigningOff
  cases given : Record.get (asObject (Record.get (asObject (some manifest)) "distribution"))
      "requireSignedPublications" with
  | none =>
    rw [given] at required
    cases required
  | some value =>
    rw [given] at required
    cases value with
    | null => cases required
    | _ => exact ⟨_, rfl, required⟩

theorem normalized_public (env : EnterpriseEnv) : env.normalized "PUBLIC" = "PUBLIC" := by
  have trimmed : Text.trim "PUBLIC" = "PUBLIC" := by decide +kernel
  rw [EnterpriseEnv.normalized, trimmed]
  exact env.casing.capitals _ (by simp)

theorem public_signed {new entryId : Uuid} {input : Json}
    (h : publishIntegrationRegistryEntry env now db new entryId input = .ok row)
    (isPublic : row.visibility = "PUBLIC") : row.attestation.signatureStatus = "SIGNED" ∨
      ∃ entry, getIntegrationRegistryEntry db entryId = .ok entry ∧
        TurnsSigningOff entry.manifest := by
  obtain ⟨entry, found, evaluation, evaluated, admitted, built⟩ :=
    (publishIntegrationRegistryEntry_ok h).entry
  by_cases off : TurnsSigningOff entry.manifest
  · exact .inr ⟨entry, found, off⟩
  · refine .inl ?_
    simp only [getIntegrationPublicationReadiness, found, bind, Except.bind, pure, Except.pure,
      Except.ok.injEq] at evaluated
    subst evaluated
    rw [isPublic] at admitted
    have visibility : env.normalized (textOr (some (.str "PUBLIC")) "PARTNER") = "PUBLIC" :=
      normalized_public env
    simp only [evaluateDistributionPolicy, DistributionEvaluation.canPublish, visibility,
      signatureRequired_public off, decide_eq_true_eq, List.append_eq_nil_iff] at admitted
    obtain ⟨-, signed⟩ := admitted
    rw [built, buildPublicationAttestation]
    cases available : resolveReleaseSigningSecret db entry.tenantId entry.organizationId
        (textIfTruthy (input.get? "signingKey")) with
    | none => simp [available] at signed
    | some secret => rfl

/-- What is served is what was attested, in every state and at every publishing. -/
theorem served_is_attested (env : EnterpriseEnv) (registry : RegistryDb) (events : List Event) :
    (∀ publication ∈ (runFrom env registry events).publications,
      AttestsArtifact env publication ∧
      ServesAttested env (runFrom env registry events) publication ∧
      (publication.attestation.signatureStatus = "SIGNED" →
        SignedInRun env registry events publication)) ∧
    ∀ now entryId input row,
      publishIntegrationRegistryEntry env now (runFrom env registry events).registry
        (env.uuid.text (runFrom env registry events).nextUuid) entryId input = .ok row →
      row.visibility = "PUBLIC" → row.attestation.signatureStatus = "SIGNED" ∨
        ∃ entry, getIntegrationRegistryEntry (runFrom env registry events).registry entryId =
          .ok entry ∧ TurnsSigningOff entry.manifest := by
  refine ⟨fun publication stored => ?_, fun now entryId input row => public_signed⟩
  obtain ⟨attests, signed⟩ := attested_run env registry events publication stored
  exact ⟨attests, servesAttested (sound_runFrom env registry events) stored attests, signed⟩

end Exetron.Enterprise
