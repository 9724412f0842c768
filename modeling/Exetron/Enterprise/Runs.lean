import Exetron.Enterprise.Distribution
import Exetron.Lib.Trace

/-!
# Runs of the distribution

The registry, the publications and the distribution requests under the operations of the service,
one after the other. The registry may be edited to anything in between.
-/

namespace Exetron.Enterprise

open Lib

structure EnterpriseDb where
  registry : RegistryDb
  publications : List IntegrationPublication
  requests : List IntegrationDistributionRequest
  /-- Identifiers from here on are new. -/
  nextUuid : ℕ

def EnterpriseDb.initial (registry : RegistryDb) : EnterpriseDb := ⟨registry, [], [], 0⟩

inductive Operation where
  /-- Registry entries, templates, contracts and secrets become others. -/
  | edit (registry : RegistryDb)
  | publish (entryId : Uuid) (input : Json)
  | reSign (id : Uuid) (input : Json)
  | updatePublicationStatus (id : Uuid) (input : Json)
  | applyPublicationLifecycle (id : Uuid) (input : Json)
  | sweepPublications (input : Json)
  | requestDistribution (connectorKey version : String) (input : Json)
  | updateRequestStatus (id : Uuid) (input : Json)
  | applyRequestGovernance (id : Uuid) (input : Json)
  | sweepRequests (input : Json)

structure Event where
  now : Moment
  operation : Operation

namespace EnterpriseDb

variable {α : Type}

def withPublications (s : EnterpriseDb)
    (answer : Except ApiException (α × List IntegrationPublication)) : EnterpriseDb :=
  match answer with
  | .ok (_, publications) => { s with publications }
  | .error _ => s

def withRequests (s : EnterpriseDb)
    (answer : Except ApiException (α × List IntegrationDistributionRequest)) : EnterpriseDb :=
  match answer with
  | .ok (_, requests) => { s with requests }
  | .error _ => s

def addPublication (s : EnterpriseDb) (answer : Except ApiException IntegrationPublication) :
    EnterpriseDb :=
  s.withPublications (answer.map fun row => (row, s.publications ++ [row]))

def addRequest (s : EnterpriseDb) (answer : Except ApiException IntegrationDistributionRequest) :
    EnterpriseDb :=
  s.withRequests (answer.map fun row => (row, s.requests ++ [row]))

end EnterpriseDb

variable (env : EnterpriseEnv)

/-- What an operation does to the tables; `new` is the identifier that `randomUUID` gives it. -/
def operate (now : Moment) (new : Uuid) (s : EnterpriseDb) : Operation → EnterpriseDb
  | .edit registry => { s with registry }
  | .publish entryId input =>
    s.addPublication (publishIntegrationRegistryEntry env now s.registry new entryId input)
  | .reSign id input =>
    s.withPublications (reSignIntegrationPublication env now s.registry id input s.publications)
  | .updatePublicationStatus id input =>
    s.withPublications (updateIntegrationPublicationStatus now id input s.publications)
  | .applyPublicationLifecycle id input =>
    s.withPublications (applyIntegrationPublicationLifecycle env now id input s.publications)
  | .sweepPublications input =>
    { s with
      publications := (runIntegrationPublicationLifecycleSweep env now input s.publications).2 }
  | .requestDistribution connectorKey version input =>
    s.addRequest (createPublicIntegrationDistributionRequest now s.publications new connectorKey
      version input)
  | .updateRequestStatus id input =>
    s.withRequests (updateIntegrationDistributionRequestStatus env now new id input s.requests)
  | .applyRequestGovernance id input =>
    s.withRequests (applyIntegrationDistributionRequestGovernance env now id input s.requests)
  | .sweepRequests input =>
    { s with
      requests := (runIntegrationDistributionRequestGovernanceSweep env now input s.requests).2 }

def step (s : EnterpriseDb) (e : Event) : EnterpriseDb :=
  { operate env e.now (env.uuid.text s.nextUuid) s e.operation with nextUuid := s.nextUuid + 1 }

def runFrom (registry : RegistryDb) (events : List Event) : EnterpriseDb :=
  Trace.run (step env) (EnterpriseDb.initial registry) events

variable {env} {s : EnterpriseDb} {e : Event}

/-- Where a publication comes from that is there after a step. -/
inductive PublicationMove (env : EnterpriseEnv) (s : EnterpriseDb) (e : Event)
    (row : IntegrationPublication) : Prop where
  | kept (stored : row ∈ s.publications)
  | published (entryId : Uuid) (input : Json) (is : e.operation = .publish entryId input)
      (made : publishIntegrationRegistryEntry env e.now s.registry (env.uuid.text s.nextUuid)
        entryId input = .ok row)
  | signed (input : Json) (current : IntegrationPublication)
      (is : e.operation = .reSign current.id input) (stored : current ∈ s.publications)
      (made : reSigned env e.now s.registry input current = .ok row)
  | restated (input : Json) (status : String) (current : IntegrationPublication)
      (is : e.operation = .updatePublicationStatus current.id input)
      (stored : current ∈ s.publications) (read : readPublicationStatus input = .ok status)
      (made : row = current.withStatus e.now status)
  | ended (input : Json) (current : IntegrationPublication)
      (is : e.operation = .applyPublicationLifecycle current.id input)
      (stored : current ∈ s.publications)
      (made : lifecycleApplied env e.now input current = .ok row)
  | swept (input : Json) (current : IntegrationPublication)
      (is : e.operation = .sweepPublications input) (stored : current ∈ s.publications)
      (made : row = current.revoke e.now)

theorem mem_withPublications {α : Type} {s : EnterpriseDb}
    {answer : Except ApiException (α × List IntegrationPublication)} {row : IntegrationPublication}
    (h : row ∈ (s.withPublications answer).publications) : row ∈ s.publications ∨
      ∃ a publications, answer = .ok (a, publications) ∧ row ∈ publications := by
  cases answer with
  | error e => exact .inl h
  | ok done => exact .inr ⟨done.1, done.2, rfl, h⟩

theorem mem_withRequests {α : Type} {s : EnterpriseDb}
    {answer : Except ApiException (α × List IntegrationDistributionRequest)}
    {row : IntegrationDistributionRequest} (h : row ∈ (s.withRequests answer).requests) :
    row ∈ s.requests ∨ ∃ a requests, answer = .ok (a, requests) ∧ row ∈ requests := by
  cases answer with
  | error e => exact .inl h
  | ok done => exact .inr ⟨done.1, done.2, rfl, h⟩

theorem withPublications_requests {α : Type} (s : EnterpriseDb)
    (answer : Except ApiException (α × List IntegrationPublication)) :
    (s.withPublications answer).requests = s.requests := by
  unfold EnterpriseDb.withPublications
  split <;> rfl

theorem withRequests_publications {α : Type} (s : EnterpriseDb)
    (answer : Except ApiException (α × List IntegrationDistributionRequest)) :
    (s.withRequests answer).publications = s.publications := by
  unfold EnterpriseDb.withRequests
  split <;> rfl

theorem mem_updateOne {α : Type} {key : α → Uuid} {missing : ApiException} {id : Uuid}
    {change : α → Except ApiException α} {rows rows' : List α} {a row : α}
    (h : updateOne key missing id change rows = .ok (a, rows')) (member : row ∈ rows') :
    row ∈ rows ∨ ∃ current ∈ rows, key current = id ∧ change current = .ok row := by
  obtain ⟨current, found, changed, rfl⟩ := updateOne_ok_iff.mp h
  obtain ⟨stored, keyed⟩ := Rows.find_some found
  rcases Rows.mem_of_modify member with old | ⟨_, -, -, rfl⟩
  · exact .inl old
  · exact .inr ⟨current, stored, keyed, changed⟩

theorem mem_of_updateOne {α : Type} {key : α → Uuid} (missing : ApiException)
    (change : α → Except ApiException α) {rows : List α} (distinct : (rows.map key).Nodup)
    {current row : α} (stored : current ∈ rows) (changed : change current = .ok row) :
    ∃ rows', updateOne key missing (key current) change rows = .ok (row, rows') ∧ row ∈ rows' :=
  ⟨_, updateOne_ok_iff.mpr ⟨current, Rows.find_of_mem distinct stored, changed, rfl⟩,
    Rows.mem_modify.mpr ⟨current, stored, if_pos rfl⟩⟩

theorem mem_addNew {α : Type} {answer : Except ApiException α} {a : α × List α}
    {rows rows' : List α}
    {row : α} (h : answer.map (fun row => (row, rows ++ [row])) = .ok (a.1, rows'))
    (member : row ∈ rows') : row ∈ rows ∨ answer = .ok row := by
  cases answer with
  | error e => cases h
  | ok new =>
    obtain ⟨-, rfl⟩ := Prod.mk.inj (Except.ok.inj h)
    rcases List.mem_append.mp member with old | is
    · exact .inl old
    · exact .inr (by rw [List.mem_singleton.mp is])

theorem step_publication {row : IntegrationPublication} (h : row ∈ (step env s e).publications) :
    PublicationMove env s e row := by
  obtain ⟨now, operation⟩ := e
  cases operation with
  | edit registry => exact .kept h
  | publish entryId input =>
    simp only [step, operate] at h
    rcases mem_withPublications h with old | ⟨a, rows, made, member⟩
    · exact .kept old
    · rcases mem_addNew (a := (a, [])) made member with old | new
      · exact .kept old
      · exact .published entryId input rfl new
  | reSign id input =>
    simp only [step, operate] at h
    rcases mem_withPublications h with old | ⟨a, rows, made, member⟩
    · exact .kept old
    · rcases mem_updateOne made member with old | ⟨current, stored, rfl, changed⟩
      · exact .kept old
      · exact .signed input current rfl stored changed
  | updatePublicationStatus id input =>
    simp only [step, operate] at h
    rcases mem_withPublications h with old | ⟨a, rows, made, member⟩
    · exact .kept old
    · unfold updateIntegrationPublicationStatus at made
      obtain ⟨status, read, made⟩ := except_bind_ok_iff.mp made
      rcases mem_updateOne made member with old | ⟨current, stored, rfl, changed⟩
      · exact .kept old
      · exact .restated input status current rfl stored read (Except.ok.inj changed).symm
  | applyPublicationLifecycle id input =>
    simp only [step, operate] at h
    rcases mem_withPublications h with old | ⟨a, rows, made, member⟩
    · exact .kept old
    · rcases mem_updateOne made member with old | ⟨current, stored, rfl, changed⟩
      · exact .kept old
      · exact .ended input current rfl stored changed
  | sweepPublications input =>
    replace h : row ∈ (runIntegrationPublicationLifecycleSweep env now input s.publications).2 := h
    unfold runIntegrationPublicationLifecycleSweep at h
    dsimp only at h
    split at h
    · exact .kept h
    · obtain ⟨current, stored, made⟩ := Rows.mem_updateWhere.mp h
      split at made
      · exact .swept input current rfl stored made.symm
      · exact .kept (made ▸ stored)
  | requestDistribution connectorKey version input =>
    simp only [step, operate, EnterpriseDb.addRequest, withRequests_publications] at h
    exact .kept h
  | updateRequestStatus id input | applyRequestGovernance id input =>
    simp only [step, operate, withRequests_publications] at h
    exact .kept h
  | sweepRequests input => exact .kept h

/-- Where a request comes from that is there after a step. -/
inductive RequestMove (env : EnterpriseEnv) (s : EnterpriseDb) (e : Event)
    (row : IntegrationDistributionRequest) : Prop where
  | kept (stored : row ∈ s.requests)
  | asked (connectorKey version : String) (input : Json)
      (is : e.operation = .requestDistribution connectorKey version input)
      (made : createPublicIntegrationDistributionRequest e.now s.publications
        (env.uuid.text s.nextUuid) connectorKey version input = .ok row)
  | decided (input : Json) (current : IntegrationDistributionRequest)
      (is : e.operation = .updateRequestStatus current.id input) (stored : current ∈ s.requests)
      (made : statusDecided env e.now (env.uuid.text s.nextUuid) input current = .ok row)
  | governed (input : Json) (current : IntegrationDistributionRequest)
      (is : e.operation = .applyRequestGovernance current.id input)
      (stored : current ∈ s.requests) (made : governanceApplied env e.now input current = .ok row)
  | swept (input : Json) (current : IntegrationDistributionRequest)
      (is : e.operation = .sweepRequests input) (stored : current ∈ s.requests)
      (made : row = current.revoke e.now)

theorem step_request {row : IntegrationDistributionRequest} (h : row ∈ (step env s e).requests) :
    RequestMove env s e row := by
  obtain ⟨now, operation⟩ := e
  cases operation with
  | edit registry => exact .kept h
  | publish entryId input =>
    simp only [step, operate, EnterpriseDb.addPublication, withPublications_requests] at h
    exact .kept h
  | reSign id input | updatePublicationStatus id input | applyPublicationLifecycle id input =>
    simp only [step, operate, withPublications_requests] at h
    exact .kept h
  | sweepPublications input => exact .kept h
  | requestDistribution connectorKey version input =>
    simp only [step, operate] at h
    rcases mem_withRequests h with old | ⟨a, rows, made, member⟩
    · exact .kept old
    · rcases mem_addNew (a := (a, [])) made member with old | new
      · exact .kept old
      · exact .asked connectorKey version input rfl new
  | updateRequestStatus id input =>
    simp only [step, operate] at h
    rcases mem_withRequests h with old | ⟨a, rows, made, member⟩
    · exact .kept old
    · rcases mem_updateOne made member with old | ⟨current, stored, rfl, changed⟩
      · exact .kept old
      · exact .decided input current rfl stored changed
  | applyRequestGovernance id input =>
    simp only [step, operate] at h
    rcases mem_withRequests h with old | ⟨a, rows, made, member⟩
    · exact .kept old
    · rcases mem_updateOne made member with old | ⟨current, stored, rfl, changed⟩
      · exact .kept old
      · exact .governed input current rfl stored changed
  | sweepRequests input =>
    replace h :
        row ∈ (runIntegrationDistributionRequestGovernanceSweep env now input s.requests).2 := h
    unfold runIntegrationDistributionRequestGovernanceSweep at h
    dsimp only at h
    split at h
    · exact .kept h
    · obtain ⟨current, stored, made⟩ := Rows.mem_updateWhere.mp h
      split at made
      · exact .swept input current rfl stored made.symm
      · exact .kept (made ▸ stored)

/-- The text of a counter in the form of a UUID. -/
def counterText (n : ℕ) : List Char :=
  ['0', '0', '0', '0', '0', '0', '0', '0', '-', '0', '0', '0', '0', '-', '4', '0', '0', '0', '-',
    '8', '0', '0', '0', '-'] ++ (Json.digitChars n).leftpad 12 '0'

theorem isDigit_counterDigits {n : ℕ} {c : Char} (h : c ∈ (Json.digitChars n).leftpad 12 '0') :
    c.isDigit = true := by
  rw [List.leftpad, List.mem_append] at h
  rcases h with padding | digit
  · rw [(List.mem_replicate.mp padding).2]
    rfl
  · exact Json.isDigit_of_mem_digitChars digit

def UuidSource.counter : UuidSource where
  text n := String.ofList (counterText n)
  distinct n m same := by
    have digits := List.append_cancel_left (String.ofList_injective same)
    rw [← Json.ofDigitChars_leftpad n 12, digits, Json.ofDigitChars_leftpad]
  trimmed n := by
    rw [Text.trim_eq_self_iff, String.toList_ofList]
    refine ⟨fun c first => ?_, fun c last => ?_⟩
    · obtain rfl : '0' = c := by simpa [counterText] using first
      rfl
    · have some_ : (Json.digitChars n).leftpad 12 '0' ≠ [] := by
        intro none
        have := congrArg List.length none
        rw [List.length_leftpad] at this
        simp at this
      rw [counterText, List.getLast?_append_of_ne_nil _ some_] at last
      exact Text.isSpace_of_isDigit (isDigit_counterDigits (List.mem_of_mem_getLast? last))
  filled n := by
    intro none
    have := congrArg String.toList none
    simp [counterText] at this

def counterEnv : EnterpriseEnv where
  casing := Localization.Casing.ascii
  parseDate text := text.toInt?
  toISOString moment := toString moment
  encodeURIComponent text := text
  sha256 text := text
  hmacSha256 key message := key ++ message
  uuid := .counter

def oneConnector (manifest : Json) : RegistryDb where
  entries := [⟨"entry", none, none, "freshlane", "1", "ACTIVE", manifest, 0, 0⟩]
  templates := [⟨"template", "freshlane", "1", .obj [], 0, 0⟩]
  contracts := []
  secrets := []

end Exetron.Enterprise
