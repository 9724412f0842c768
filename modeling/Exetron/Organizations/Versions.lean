import Exetron.Lib.Trace
import Exetron.Organizations.Frame

/-!
# The versions of a template

Any number of calls read a template and later write to it, each statement over the rows that are
stored then. A version names one content in a run whose writes find the version that they read.
-/

namespace Exetron.Organizations

open Lib List
open Enterprise (Uuid Moment asObject)

variable (env : OrganizationsEnv)

inductive TemplateCall where
  | create (organizationId : Uuid) (input : Json)
  | update (organizationId templateId : Uuid) (input : Json)
  | archive (organizationId templateId : Uuid)
  | setStatus (organizationId templateId : Uuid) (input : Json)
  | apply (templateId : Uuid) (input : Json)

/-- An update of a template that was read: a new version, or another status. -/
structure TemplateWrite where
  read : RolloutTemplate
  data : TemplateData
  sound : data.version = some (read.version + 1) ∨
    ∃ now status, data = managedData env now read status

/-- The statement that a call still has to make after its read. -/
inductive Pending where
  | insert (organizationId : Uuid) (code name : String) (artifact : Json)
  | write (update : TemplateWrite env)
  | record (template : RolloutTemplate) (input : Json)

def beginCall (now : Moment) (db : OrganizationsDb) :
    TemplateCall → Except ApiException (Pending env)
  | .create organizationId input => do
    let (code, name) ← readNamed input "Template code and name are required."
    let artifact := fieldOrBody input "artifact"
    match findTemplateByCode db organizationId code with
    | some current => pure (.write ⟨current, recreateData current name artifact, .inl rfl⟩)
    | none => pure (.insert organizationId code name artifact)
  | .update organizationId templateId input => do
    let template ← findTemplate db organizationId templateId
    pure (.write ⟨template, updateData template input, .inl rfl⟩)
  | .archive organizationId templateId => do
    let template ← findTemplate db organizationId templateId
    pure (.write ⟨template, managedData env now template "ARCHIVED", .inr ⟨_, _, rfl⟩⟩)
  | .setStatus organizationId templateId input => do
    let template ← findTemplate db organizationId templateId
    pure (.write
      ⟨template, managedData env now template (statusOf env input "ACTIVE"), .inr ⟨_, _, rfl⟩⟩)
  | .apply templateId input => do
    let template ← findAppliedTemplate db templateId
    pure (.record template input)

def finishCall (now : Moment) (db : OrganizationsDb) : Pending env →
    Except ApiException (OrganizationsDb × Option (TemplateApplication × RolloutTemplate))
  | .insert organizationId code name artifact => do
    let (_, db') ← insertTemplate env now db organizationId code name artifact
    pure (db', none)
  | .write update => do
    let (_, db') ← writeTemplate now db update.read.id update.data
    pure (db', none)
  | .record template input => do
    let (application, db') ← insertApplication env now db template input
    pure (db', some (application, template))

def callAlone (now : Moment) (db : OrganizationsDb) :
    TemplateCall → Except ApiException OrganizationsDb
  | .create organizationId input => Prod.snd <$> createTemplate env now db organizationId input
  | .update organizationId templateId input =>
    Prod.snd <$> updateTemplate now db organizationId templateId input
  | .archive organizationId templateId =>
    Prod.snd <$> archiveTemplate env now db organizationId templateId
  | .setStatus organizationId templateId input =>
    Prod.snd <$> setTemplateStatus env now db organizationId templateId input
  | .apply templateId input => Prod.snd <$> applyTemplate env now db templateId input

theorem callAlone_eq (now : Moment) (db : OrganizationsDb) (call : TemplateCall) :
    callAlone env now db call = (do
      let pending ← beginCall env now db call
      Prod.fst <$> finishCall env now db pending) := by
  have written (update : TemplateWrite env) :
      Prod.snd <$> writeTemplate now db update.read.id update.data =
        Prod.fst <$> finishCall env now db (.write update) := by
    rw [finishCall]
    cases writeTemplate now db update.read.id update.data <;> rfl
  cases call with
  | create organizationId input =>
    simp only [callAlone, createTemplate, beginCall]
    cases readNamed input "Template code and name are required." with
    | error e => rfl
    | ok named =>
      simp only [Functor.map, bind, Except.bind, Except.map]
      cases found : findTemplateByCode db organizationId named.1 with
      | some current => exact written ⟨current, _, .inl rfl⟩
      | none =>
        show Prod.snd <$> insertTemplate env now db organizationId named.1 named.2 _ =
          Prod.fst <$> finishCall env now db (.insert organizationId named.1 named.2 _)
        rw [finishCall]
        cases insertTemplate env now db organizationId named.1 named.2 _ <;> rfl
  | update organizationId templateId input =>
    simp only [callAlone, updateTemplate, beginCall]
    cases found : findTemplate db organizationId templateId with
    | error e => rfl
    | ok template => exact written ⟨template, _, .inl rfl⟩
  | archive organizationId templateId =>
    simp only [callAlone, archiveTemplate, beginCall]
    cases found : findTemplate db organizationId templateId with
    | error e => rfl
    | ok template =>
      obtain ⟨-, -, rfl⟩ := findTemplate_ok found
      exact written ⟨template, _, .inr ⟨_, _, rfl⟩⟩
  | setStatus organizationId templateId input =>
    simp only [callAlone, setTemplateStatus, beginCall]
    cases found : findTemplate db organizationId templateId with
    | error e => rfl
    | ok template =>
      obtain ⟨-, -, rfl⟩ := findTemplate_ok found
      exact written ⟨template, _, .inr ⟨_, _, rfl⟩⟩
  | apply templateId input =>
    simp only [callAlone, applyTemplate, beginCall]
    cases found : findAppliedTemplate db templateId with
    | error e => rfl
    | ok template =>
      show Prod.snd <$> insertApplication env now db template input =
        Prod.fst <$> finishCall env now db (.record template input)
      rw [finishCall]
      cases insertApplication env now db template input <;> rfl

structure VersionsState where
  db : OrganizationsDb
  /-- The calls that have made their read, the oldest first. -/
  pending : List (Pending env)
  /-- The applications recorded, with the templates that they were made of. -/
  applied : List (TemplateApplication × RolloutTemplate)

inductive VersionsOperation where
  | start (call : TemplateCall)
  /-- The pending call at the place makes its write. -/
  | finish (place : ℕ)

structure VersionsEvent where
  now : Moment
  operation : VersionsOperation

def OrganizationsDb.empty : OrganizationsDb := ⟨[], [], [], [], [], [], [], [], 0⟩

def VersionsState.empty : VersionsState env := ⟨.empty, [], []⟩

def versionsStep (s : VersionsState env) (e : VersionsEvent) : VersionsState env :=
  match e.operation with
  | .start call =>
    match beginCall env e.now s.db call with
    | .ok pending => { s with pending := s.pending ++ [pending] }
    | .error _ => s
  | .finish place =>
    match s.pending[place]? with
    | none => s
    | some pending =>
      match finishCall env e.now s.db pending with
      | .ok (db, application) =>
        ⟨db, s.pending.eraseIdx place, s.applied ++ application.toList⟩
      | .error _ => { s with pending := s.pending.eraseIdx place }

/-- The content of a template: what an application of it applies. -/
structure SameContent (template template' : RolloutTemplate) : Prop where
  code : template.code = template'.code
  name : template.name = template'.name
  artifact : Record.erase (asObject (some template.artifact)) "__meta" =
    Record.erase (asObject (some template'.artifact)) "__meta"

/-- The applications of a template under one version were made of one content. -/
structure VersionsNamed (s : VersionsState env) : Prop where
  recorded : s.db.applications = s.applied.map Prod.fst
  named : ∀ left ∈ s.applied, ∀ right ∈ s.applied, left.1.templateId = right.1.templateId →
    left.1.appliedVersion = right.1.appliedVersion → SameContent left.2 right.2

def CodeTaken (db : OrganizationsDb) (template : RolloutTemplate) : Prop :=
  ∃ other ∈ db.templates, other.id ≠ template.id ∧
    other.organizationId = template.organizationId ∧ other.code = template.code

instance (db : OrganizationsDb) (template : RolloutTemplate) : Decidable (CodeTaken db template) :=
  inferInstanceAs (Decidable (∃ _ ∈ _, _))

/-- The update finds the version that its call read, unless its code is refused. -/
def ReadCurrent (now : Moment) (db : OrganizationsDb) : Option (Pending env) → Prop
  | some (.write update) =>
    ∀ current ∈ Rows.find RolloutTemplate.id db.templates update.read.id,
      CodeTaken db (update.data.over now current) ∨ current.version = update.read.version
  | _ => True

instance (now : Moment) (db : OrganizationsDb) :
    (pending : Option (Pending env)) → Decidable (ReadCurrent env now db pending)
  | none | some (.insert ..) | some (.record ..) => isTrue trivial
  | some (.write update) => inferInstanceAs (Decidable (∀ current ∈ Rows.find RolloutTemplate.id
      db.templates update.read.id, CodeTaken db (update.data.over now current) ∨
        current.version = update.read.version))

def WritesVersionRead (s : VersionsState env) (e : VersionsEvent) : Prop :=
  match e.operation with
  | .start _ => True
  | .finish place => ReadCurrent env e.now s.db s.pending[place]?

instance (s : VersionsState env) : (e : VersionsEvent) → Decidable (WritesVersionRead env s e)
  | ⟨_, .start _⟩ => isTrue trivial
  | ⟨now, .finish place⟩ => inferInstanceAs (Decidable (ReadCurrent env now s.db s.pending[place]?))

variable {env} {s s' : VersionsState env} {e : VersionsEvent}

theorem SameContent.refl (template : RolloutTemplate) : SameContent template template :=
  ⟨rfl, rfl, rfl⟩

theorem SameContent.symm {left right : RolloutTemplate} (h : SameContent left right) :
    SameContent right left := ⟨h.code.symm, h.name.symm, h.artifact.symm⟩

theorem SameContent.trans {left middle right : RolloutTemplate} (h : SameContent left middle)
    (h' : SameContent middle right) : SameContent left right :=
  ⟨h.code.trans h'.code, h.name.trans h'.name, h.artifact.trans h'.artifact⟩

def Pending.template : Pending env → Option RolloutTemplate
  | .insert .. => none
  | .write update => some update.read
  | .record template _ => some template

/-- A template as it is stored, as it was read, or as it was applied. -/
inductive Known (s : VersionsState env) (row : RolloutTemplate) : Prop where
  | stored (listed : row ∈ s.db.templates)
  | read (pending : Pending env) (listed : pending ∈ s.pending) (is : pending.template = some row)
  | applied (application : TemplateApplication) (listed : (application, row) ∈ s.applied)

/-- Of the templates known under an id, the stored one is the newest, and those of one version have
one content. -/
structure Consistent (s : VersionsState env) : Prop where
  ids : (s.db.templates.map (·.id)).Nodup
  issued : ∀ row ∈ s.db.templates, ∃ k < s.db.nextUuid, env.uuid.text k = row.id
  newest : ∀ row, Known s row → ∃ current ∈ s.db.templates, current.id = row.id ∧
    row.version ≤ current.version
  named : ∀ row row', Known s row → Known s row' → row.id = row'.id →
    row.version = row'.version → SameContent row row'
  applied : ∀ pair ∈ s.applied, pair.1.templateId = pair.2.id ∧
    pair.1.appliedVersion = pair.2.version
  recorded : s.db.applications = s.applied.map Prod.fst

theorem consistent_empty (env : OrganizationsEnv) : Consistent (VersionsState.empty env) where
  ids := nodup_nil
  issued _ stored := absurd stored not_mem_nil
  newest row known := by
    cases known with
    | stored listed | read pending listed is | applied application listed =>
      exact absurd listed not_mem_nil
  named row row' known := by
    cases known with
    | stored listed | read pending listed is | applied application listed =>
      exact absurd listed not_mem_nil
  applied _ listed := absurd listed not_mem_nil
  recorded := rfl

theorem Consistent.named_ (consistent : Consistent s) : VersionsNamed env s where
  recorded := consistent.recorded
  named left listed right listed' sameTemplate sameVersion := by
    obtain ⟨template, version⟩ := consistent.applied left listed
    obtain ⟨template', version'⟩ := consistent.applied right listed'
    exact consistent.named left.2 right.2 (.applied left.1 listed) (.applied right.1 listed')
      (template.symm.trans (sameTemplate.trans template'))
      (version.symm.trans (sameVersion.trans version'))

theorem Consistent.shrink (consistent : Consistent s) (templates : s'.db.templates = s.db.templates)
    (later : s.db.nextUuid ≤ s'.db.nextUuid) (known : ∀ row, Known s' row → Known s row)
    (applied : ∀ pair ∈ s'.applied, pair.1.templateId = pair.2.id ∧
      pair.1.appliedVersion = pair.2.version)
    (recorded : s'.db.applications = s'.applied.map Prod.fst) : Consistent s' where
  ids := templates ▸ consistent.ids
  issued row stored := by
    obtain ⟨k, before, is⟩ := consistent.issued row (templates ▸ stored)
    exact ⟨k, before.trans_le later, is⟩
  newest row knows := templates ▸ consistent.newest row (known row knows)
  named row row' knows knows' := consistent.named row row' (known row knows) (known row' knows')
  applied := applied
  recorded := recorded

variable {now : Moment} {db db' : OrganizationsDb}

theorem beginCall_read {call : TemplateCall} {pending : Pending env} {template : RolloutTemplate}
    (h : beginCall env now db call = .ok pending) (is : pending.template = some template) :
    template ∈ db.templates := by
  cases call with
  | create organizationId input =>
    simp only [beginCall, except_bind_ok_iff] at h
    obtain ⟨⟨code, name⟩, -, h⟩ := h
    dsimp only at h
    split at h
    · next current found =>
      obtain rfl := except_pure_ok_iff.mp h
      obtain rfl := Option.some.inj is
      exact mem_of_find?_eq_some found
    · obtain rfl := except_pure_ok_iff.mp h
      exact nomatch is
  | update organizationId templateId input | archive organizationId templateId =>
    obtain ⟨row, found, h⟩ := except_bind_ok_iff.mp h
    obtain rfl := except_pure_ok_iff.mp h
    obtain rfl := Option.some.inj is
    exact (findTemplate_ok found).1
  | setStatus organizationId templateId input =>
    obtain ⟨row, found, h⟩ := except_bind_ok_iff.mp h
    obtain rfl := except_pure_ok_iff.mp h
    obtain rfl := Option.some.inj is
    exact (findTemplate_ok found).1
  | apply templateId input =>
    obtain ⟨row, found, h⟩ := except_bind_ok_iff.mp h
    obtain rfl := except_pure_ok_iff.mp h
    obtain rfl := Option.some.inj is
    exact (Rows.find_some (required_ok_iff.mp found)).1

variable {applied : Option (TemplateApplication × RolloutTemplate)}

theorem finishCall_insert {organizationId : Uuid} {code name : String} {artifact : Json}
    (h : finishCall env now db (.insert organizationId code name artifact) = .ok (db', applied)) :
    applied = none ∧ ∃ created : RolloutTemplate, created.id = env.new db ∧
      db' = { db with
        templates := db.templates ++ [created]
        nextUuid := db.nextUuid + 1 } := by
  simp only [finishCall, insertTemplate, except_bind_ok_iff, except_pure_ok_iff, Prod.mk.injEq] at h
  obtain ⟨written, ⟨_, -, rfl⟩, rfl, rfl⟩ := h
  exact ⟨rfl, _, rfl, rfl⟩

theorem finishCall_write {update : TemplateWrite env}
    (h : finishCall env now db (.write update) = .ok (db', applied)) : applied = none ∧ ∃ current,
      Rows.find RolloutTemplate.id db.templates update.read.id = some current ∧
      ¬CodeTaken db (update.data.over now current) ∧
      db' = { db with
        templates := Rows.modify RolloutTemplate.id current.id
          (fun _ => update.data.over now current) db.templates } := by
  simp only [finishCall, writeTemplate, except_bind_ok_iff, except_pure_ok_iff, required_ok_iff,
    rejectIf_ok_iff, Prod.mk.injEq] at h
  obtain ⟨written, ⟨current, found, _, free, rfl⟩, rfl, rfl⟩ := h
  exact ⟨rfl, current, found, free, rfl⟩

theorem finishCall_record {template : RolloutTemplate} {input : Json}
    (h : finishCall env now db (.record template input) = .ok (db', applied)) :
    ∃ application : TemplateApplication, applied = some (application, template) ∧
      application.templateId = template.id ∧ application.appliedVersion = template.version ∧
      db' = { db with
        applications := db.applications ++ [application]
        nextUuid := db.nextUuid + 1 } := by
  simp only [finishCall, insertApplication, except_bind_ok_iff, except_pure_ok_iff,
    Prod.mk.injEq] at h
  obtain ⟨recorded, ⟨tenantId, -, storeId, -, rfl⟩, rfl, rfl⟩ := h
  exact ⟨_, rfl, rfl, rfl, rfl⟩

theorem erase_managed (now : Moment) (status : String) (value : Json) :
    Record.erase (asObject (some (managed env now status value))) "__meta" =
      Record.erase (asObject (some value)) "__meta" :=
  Record.filter_set (p := fun key => key ≠ "__meta") (by simp) _ _

/-- A template that is written under an id and a version of its own, or with the content that the
version has. -/
theorem Consistent.written (consistent : Consistent s) (new : RolloutTemplate)
    (ids : (s'.db.templates.map (·.id)).Nodup)
    (issued : ∀ row ∈ s'.db.templates, ∃ k < s'.db.nextUuid, env.uuid.text k = row.id)
    (stored : new ∈ s'.db.templates)
    (later : ∀ row ∈ s.db.templates, ∃ current ∈ s'.db.templates, current.id = row.id ∧
      row.version ≤ current.version)
    (known : ∀ row, Known s' row → Known s row ∨ row = new)
    (content : ∀ row, Known s row → new.id = row.id → new.version = row.version →
      SameContent new row)
    (applied : s'.applied = s.applied) (applications : s'.db.applications = s.db.applications) :
    Consistent s' where
  ids := ids
  issued := issued
  newest row knows := by
    rcases known row knows with before | rfl
    · obtain ⟨current, listed, same, older⟩ := consistent.newest row before
      obtain ⟨current', listed', same', older'⟩ := later current listed
      exact ⟨current', listed', same'.trans same, older.trans older'⟩
    · exact ⟨row, stored, rfl, le_rfl⟩
  named row row' knows knows' sameId sameVersion := by
    rcases known row knows with before | rfl <;> rcases known row' knows' with before' | rfl
    · exact consistent.named row row' before before' sameId sameVersion
    · exact (content row before sameId.symm sameVersion.symm).symm
    · exact content row' before' sameId sameVersion
    · exact .refl _
  applied := applied ▸ consistent.applied
  recorded := by rw [applications, applied, consistent.recorded]

/-- After the write of a call, the templates known are those stored, those known before, and the one
that was applied. -/
theorem known_finished {place : ℕ} {row : RolloutTemplate}
    {more : List (TemplateApplication × RolloutTemplate)}
    (h : Known (⟨db', s.pending.eraseIdx place, s.applied ++ more⟩ : VersionsState env) row) :
    row ∈ db'.templates ∨ (∃ application, (application, row) ∈ more) ∨ Known s row := by
  cases h with
  | stored listed => exact .inl listed
  | read pending listed is =>
    exact .inr (.inr (.read pending (mem_of_mem_eraseIdx listed) is))
  | applied application listed =>
    rcases mem_append.mp listed with before | new
    · exact .inr (.inr (.applied application before))
    · exact .inr (.inl ⟨application, new⟩)

theorem Consistent.inserted (consistent : Consistent s) (place : ℕ) {created : RolloutTemplate}
    (new : created.id = env.new s.db) : Consistent
      (⟨{ s.db with
          templates := s.db.templates ++ [created]
          nextUuid := s.db.nextUuid + 1 }, s.pending.eraseIdx place, s.applied ++ []⟩ :
        VersionsState env) := by
  have fresh {row : RolloutTemplate} (stored : row ∈ s.db.templates) : created.id ≠ row.id := by
    intro same
    obtain ⟨k, before, is⟩ := consistent.issued row stored
    exact before.ne (env.uuid.distinct (is.trans (same.symm.trans new)))
  refine consistent.written created ?_ ?_ (mem_append_right _ mem_cons_self)
    (fun row stored => ⟨row, mem_append_left _ stored, rfl, le_rfl⟩) ?_ ?_
    (append_nil _) rfl
  · refine Rows.nodup_append_key consistent.ids fun listed => ?_
    obtain ⟨row, stored, same⟩ := mem_map.mp listed
    exact fresh stored same.symm
  · intro row stored
    rcases mem_append.mp stored with before | is
    · obtain ⟨k, earlier, same⟩ := consistent.issued row before
      exact ⟨k, earlier.trans (Nat.lt_succ_self _), same⟩
    · rw [mem_singleton.mp is]
      exact ⟨s.db.nextUuid, Nat.lt_succ_self _, new.symm⟩
  · intro row knows
    rcases known_finished knows with stored | ⟨application, listed⟩ | before
    · exact (mem_append.mp stored).imp .stored mem_singleton.mp
    · exact absurd listed not_mem_nil
    · exact .inl before
  · intro row before same
    obtain ⟨current, stored, is, -⟩ := consistent.newest row before
    exact absurd (same.trans is.symm) (fresh stored)

theorem Consistent.rewritten (consistent : Consistent s) (place : ℕ)
    {current written : RolloutTemplate} (stored : current ∈ s.db.templates)
    (sameId : written.id = current.id) (version : current.version < written.version ∨
      current.version = written.version ∧ SameContent written current) :
    Consistent
      (⟨{ s.db with
          templates := Rows.modify RolloutTemplate.id current.id (fun _ => written)
            s.db.templates }, s.pending.eraseIdx place, s.applied ++ []⟩ : VersionsState env) := by
  have later : current.version ≤ written.version :=
    version.elim le_of_lt fun same => same.1.le
  refine consistent.written written ?_ ?_
    (Rows.mem_modify.mpr ⟨current, stored, if_pos rfl⟩) ?_ ?_ ?_ (append_nil _) rfl
  · have kept := Rows.map_put sameId s.db.templates
    exact (congrArg List.Nodup kept).mpr consistent.ids
  · intro row listed
    rcases Rows.mem_of_modify listed with before | ⟨old, before, same, rfl⟩
    · exact consistent.issued row before
    · obtain ⟨k, earlier, is⟩ := consistent.issued current stored
      exact ⟨k, earlier, is.trans sameId.symm⟩
  · intro row before
    by_cases same : row.id = current.id
    · obtain rfl := Rows.eq_of_key consistent.ids before stored same
      exact ⟨written, Rows.mem_modify.mpr ⟨row, stored, if_pos rfl⟩, sameId, later⟩
    · exact ⟨row, Rows.mem_modify.mpr ⟨row, before, if_neg same⟩, rfl, le_rfl⟩
  · intro row knows
    rcases known_finished knows with listed | ⟨application, listed⟩ | before
    · rcases Rows.mem_of_modify listed with before | ⟨old, before, same, rfl⟩
      · exact .inl (.stored before)
      · exact .inr rfl
    · exact absurd listed not_mem_nil
    · exact .inl before
  · intro row before same sameVersion
    obtain ⟨newest, listed, is, older⟩ := consistent.newest row before
    obtain rfl := Rows.eq_of_key consistent.ids listed stored (is.trans (same.symm.trans sameId))
    rcases version with next | ⟨equal, content⟩
    · exact absurd (sameVersion ▸ next) older.not_gt
    · exact content.trans (consistent.named newest row (.stored stored) before is
        (equal.trans sameVersion))

theorem consistent_step (consistent : Consistent s) (writes : WritesVersionRead env s e) :
    Consistent (versionsStep env s e) := by
  obtain ⟨now, operation⟩ := e
  cases operation with
  | start call =>
    cases begun : beginCall env now s.db call with
    | error fault => simpa only [versionsStep, begun] using consistent
    | ok pending =>
      simp only [versionsStep, begun]
      refine consistent.shrink rfl le_rfl (fun row knows => ?_) consistent.applied
        consistent.recorded
      cases knows with
      | stored listed => exact .stored listed
      | read waiting listed is =>
        rcases mem_append.mp listed with before | new
        · exact .read waiting before is
        · rw [mem_singleton.mp new] at is
          exact .stored (beginCall_read begun is)
      | applied application listed => exact .applied application listed
  | finish place =>
    cases waiting : s.pending[place]? with
    | none => simpa only [versionsStep, waiting] using consistent
    | some pending =>
      have listed : pending ∈ s.pending := mem_of_getElem? waiting
      cases finished : finishCall env now s.db pending with
      | error fault =>
        simp only [versionsStep, waiting, finished]
        refine consistent.shrink rfl le_rfl (fun row knows => ?_) consistent.applied
          consistent.recorded
        cases knows with
        | stored stored => exact .stored stored
        | read other kept is => exact .read other (mem_of_mem_eraseIdx kept) is
        | applied application recorded => exact .applied application recorded
      | ok result =>
        obtain ⟨db', applied⟩ := result
        simp only [versionsStep, waiting, finished]
        cases pending with
        | insert organizationId code name artifact =>
          obtain ⟨rfl, created, new, rfl⟩ := finishCall_insert finished
          exact consistent.inserted place new
        | write update =>
          obtain ⟨rfl, current, found, free, rfl⟩ := finishCall_write finished
          obtain ⟨stored, same⟩ := Rows.find_some found
          have read : ReadCurrent env now s.db (some (.write update)) := waiting ▸ writes
          have unchanged : current.version = update.read.version :=
            (read current found).resolve_left free
          refine consistent.rewritten place stored rfl ?_
          rcases update.sound with next | ⟨time, status, is⟩
          · refine .inl ?_
            rw [TemplateData.over, next, unchanged]
            exact Nat.lt_succ_self _
          · have content := consistent.named current update.read (.stored stored)
              (.read _ listed rfl) same unchanged
            rw [is]
            exact .inr ⟨rfl, rfl, rfl, (erase_managed time status _).trans content.artifact.symm⟩
        | record template input =>
          obtain ⟨application, rfl, ofTemplate, ofVersion, rfl⟩ := finishCall_record finished
          have known : Known s template := .read _ listed rfl
          refine consistent.shrink rfl (Nat.le_succ _) (fun row knows => ?_) (fun pair made => ?_)
            ?_
          · rcases known_finished knows with stored | ⟨recorded, new⟩ | before
            · exact .stored stored
            · cases mem_singleton.mp new
              exact known
            · exact before
          · rcases mem_append.mp made with before | new
            · exact consistent.applied pair before
            · rw [mem_singleton.mp new]
              exact ⟨ofTemplate, ofVersion⟩
          · show s.db.applications ++ [application] =
              (s.applied ++ [(application, template)]).map Prod.fst
            rw [map_append, consistent.recorded]
            rfl

/-- A version names one content after a run whose updates find the version that they read. -/
theorem versions_named_of_read (env : OrganizationsEnv) (events : List VersionsEvent)
    (along : Trace.Along (versionsStep env) (WritesVersionRead env) (VersionsState.empty env)
      events) :
    VersionsNamed env (Trace.run (versionsStep env) (VersionsState.empty env) events) := by
  have keeps : ∀ (s : VersionsState env) (e : VersionsEvent), Consistent s →
      WritesVersionRead env s e → Consistent (versionsStep env s e) :=
    fun _ _ consistent writes => consistent_step consistent writes
  exact (Trace.run_invariant keeps (consistent_empty env) along).named_

/-- A template `menu` is created; the calls that follow name it. -/
def menuCreated : List VersionsEvent :=
  [⟨1, .start (.create "north" (.obj [("code", .str "menu"), ("name", .str "Menu")]))⟩,
   ⟨2, .finish 0⟩]

def renameMenu (name : String) : VersionsOperation :=
  .start (.update "north" (counterEnv.uuid.text 0) (.obj [("name", .str name)]))

def applyMenu : VersionsOperation := .start (.apply (counterEnv.uuid.text 0) (.obj []))

/-- Two names, one after the other. -/
theorem renamed_in_turn : VersionsNamed counterEnv (Trace.run (versionsStep counterEnv)
    (VersionsState.empty counterEnv) (menuCreated ++ [⟨3, renameMenu "Lunch"⟩, ⟨4, .finish 0⟩,
      ⟨5, applyMenu⟩, ⟨6, .finish 0⟩, ⟨7, renameMenu "Dinner"⟩, ⟨8, .finish 0⟩,
      ⟨9, applyMenu⟩, ⟨10, .finish 0⟩])) :=
  versions_named_of_read counterEnv _ (by decide +kernel)

def renamedTwice : VersionsState counterEnv :=
  Trace.run (versionsStep counterEnv) (VersionsState.empty counterEnv) (menuCreated ++
    [⟨3, renameMenu "Lunch"⟩, ⟨4, renameMenu "Dinner"⟩, ⟨5, .finish 0⟩, ⟨6, applyMenu⟩,
     ⟨7, .finish 1⟩, ⟨8, .finish 0⟩, ⟨9, applyMenu⟩, ⟨10, .finish 0⟩])

/-- The applications of version 2 have one name, then the other. -/
theorem renamed_at_once : ¬∀ (env : OrganizationsEnv) (events : List VersionsEvent),
    VersionsNamed env (Trace.run (versionsStep env) (VersionsState.empty env) events) := by
  intro claim
  have named : VersionsNamed counterEnv renamedTwice := claim counterEnv _
  have differ : ∃ left ∈ renamedTwice.applied, ∃ right ∈ renamedTwice.applied,
      left.1.templateId = right.1.templateId ∧ left.1.appliedVersion = right.1.appliedVersion ∧
        left.2.name ≠ right.2.name := by decide +kernel
  obtain ⟨left, listed, right, listed', template, version, names⟩ := differ
  exact names (named.named left listed right listed' template version).name

end Exetron.Organizations
