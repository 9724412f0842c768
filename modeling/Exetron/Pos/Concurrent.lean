import Exetron.Lib.Sessions
import Exetron.Pos.Service

/-!
# One till, several requests

The requests of a device check that it has no open shift, no active session, or an open shift, and
write afterwards in statements of their own; no index keeps a second row out.
-/

namespace Exetron.Pos.Concurrent

open Lib Sessions List

variable {now : Instant} {context : RequestContext} {dto : ClosePosShiftDto} {shiftId : Id}
  {change : SessionRow → SessionRow}

/-- The rows that a statement locks. -/
inductive Key where
  | shift (id : Id)
  | session (id : Id)
  deriving DecidableEq

inductive PosAnswer where
  | shift (row : ShiftRow)
  | session (row : SessionRow)

abbrev PosProgram := Program PosStore Key (Except ApiException PosAnswer)

abbrev PosRun := Session PosStore Key (Except ApiException PosAnswer)

abbrev PosWorld (ι : Type) := World ι PosStore Key (Except ApiException PosAnswer)

/-- A request draws the key of the row it will create. -/
inductive PosCall where
  | openShift (newId : Id) (dto : OpenPosShiftDto)
  | closeShift (shiftId : Id) (dto : ClosePosShiftDto)
  | startSession (newId : Id) (dto : StartPosSessionDto)
  | heartbeatSession (sessionId : Id)
  | endSession (sessionId : Id)

structure PosRequest where
  now : Instant
  context : RequestContext
  call : PosCall

def insertShift (shift : ShiftRow) (s : PosStore) : PosStore :=
  { s with nextId := max s.nextId (shift.id + 1), shifts := s.shifts ++ [shift] }

def insertSession (session : SessionRow) (s : PosStore) : PosStore :=
  { s with nextId := max s.nextId (session.id + 1), sessions := s.sessions ++ [session] }

def updateShift (shiftId : Id) (change : ShiftRow → ShiftRow) (s : PosStore) : PosStore :=
  { s with shifts := Rows.modify ShiftRow.id shiftId change s.shifts }

def updateSession (sessionId : Id) (change : SessionRow → SessionRow) (s : PosStore) : PosStore :=
  { s with sessions := Rows.modify SessionRow.id sessionId change s.sessions }

/-- Rewrites the rows that the statement has found at its start, as far as they still are what it
looks for when it has locked them. -/
def endSessions (now : Instant) (shiftId : Id) (ids : List Id) (s : PosStore) : PosStore :=
  let found (session : SessionRow) : Bool := session.id ∈ ids ∧ activeOf shiftId session
  { s with sessions := Rows.updateWhere found (endedWithShift now) s.sessions }

def activeIds (shiftId : Id) (s : PosStore) : List Id :=
  (s.sessions.filter (activeOf shiftId)).map SessionRow.id

def reading {β : Type} (check : PosStore → Except ApiException β) (next : β → PosProgram) :
    PosProgram :=
  .read fun s =>
    match check s with
    | .error e => .rollback (.stop (.error e))
    | .ok b => next b

def finish (answer : PosAnswer) : PosProgram := .commit (.stop (.ok answer))

def openShiftStatements (now : Instant) (context : RequestContext) (newId : Id)
    (dto : OpenPosShiftDto) : PosProgram :=
  reading (loadPosDevice context dto.deviceId dto.tenantId dto.storeId) fun device =>
    reading (admitOpening device) fun _ =>
      .write [] (insertShift (newShift now context dto device newId))
        (finish (.shift (newShift now context dto device newId)))

def closeStatements (now : Instant) (dto : ClosePosShiftDto) (current : ShiftRow) : PosProgram :=
  .read fun s =>
    .write ((activeIds current.id s).map .session)
      (endSessions now current.id (activeIds current.id s))
      (.write [.shift current.id] (updateShift current.id (closed now dto))
        (finish (.shift (closed now dto current))))

def closeShiftStatements (now : Instant) (context : RequestContext) (shiftId : Id)
    (dto : ClosePosShiftDto) : PosProgram :=
  reading (admitClosing context shiftId) (closeStatements now dto)

def startSessionStatements (now : Instant) (context : RequestContext) (newId : Id)
    (dto : StartPosSessionDto) : PosProgram :=
  reading (loadPosDevice context dto.deviceId dto.tenantId dto.storeId) fun device =>
    reading (admitShift device dto.shiftId) fun shift =>
      reading (admitStart device) fun _ =>
        .write [] (insertSession (newSession now context device shift newId))
          (finish (.session (newSession now context device shift newId)))

def rewriteStatements (context : RequestContext) (refusal : String)
    (change : SessionRow → SessionRow) (sessionId : Id) : PosProgram :=
  reading (admitActive context refusal sessionId) fun current =>
    .write [.session current.id] (updateSession current.id change)
      (finish (.session (change current)))

def statements (r : PosRequest) : PosProgram :=
  match r.call with
  | .openShift newId dto => openShiftStatements r.now r.context newId dto
  | .closeShift shiftId dto => closeShiftStatements r.now r.context shiftId dto
  | .startSession newId dto => startSessionStatements r.now r.context newId dto
  | .heartbeatSession sessionId =>
    rewriteStatements r.context "Only active POS sessions can send heartbeat." (beaten r.now)
      sessionId
  | .endSession sessionId =>
    rewriteStatements r.context "Only active POS sessions can be ended." (ended r.now) sessionId

/-- The service's transaction for a request whose new key is the store's next. -/
def perform (r : PosRequest) : PosTransaction PosAnswer :=
  match r.call with
  | .openShift _ dto => do
    let shift ← openShift r.now r.context dto
    pure (.shift shift)
  | .closeShift shiftId dto => do
    let shift ← closeShift r.now r.context shiftId dto
    pure (.shift shift)
  | .startSession _ dto => do
    let session ← startSession r.now r.context dto
    pure (.session session)
  | .heartbeatSession sessionId => do
    let session ← heartbeatSession r.now r.context sessionId
    pure (.session session)
  | .endSession sessionId => do
    let session ← endSession r.now r.context sessionId
    pure (.session session)

/-- The key that a request draws, if any. -/
def PosRequest.drawn (r : PosRequest) : Option Id :=
  match r.call with
  | .openShift newId _ | .startSession newId _ => some newId
  | _ => none

section
variable {s : PosStore}

def SameAlone (program : PosProgram) (transaction : PosTransaction PosAnswer) (s : PosStore) :
    Prop :=
  alone program s s = ((Call.exec (Call.transact transaction) s).2,
    (Call.exec (Call.transact transaction) s).1)

theorem sameAlone_reading {β : Type} {check : PosStore → Except ApiException β}
    {next : β → PosProgram} {body : β → PosTransaction PosAnswer}
    (same : ∀ b, check s = .ok b → SameAlone (next b) (body b) s) :
    SameAlone (reading check next) (Tx.read check >>= body) s := by
  unfold SameAlone
  rw [Call.exec_transact]
  cases checked : check s with
  | error e =>
    have failed : (Tx.read check >>= body) s = .error e := by
      refine Tx.bind_of_error ?_ _
      rw [Tx.read, checked]
      rfl
    rw [failed]
    simp only [reading, alone, checked]
  | ok b =>
    rw [Tx.bind_of_ok (Tx.read_ok_iff.mpr ⟨checked, rfl⟩)]
    simp only [reading, alone, checked]
    have rest := same b checked
    rw [SameAlone, Call.exec_transact] at rest
    exact rest

theorem sameAlone_ok {program : PosProgram} {transaction : PosTransaction PosAnswer}
    {t : PosStore} {answer : PosAnswer} (ends : alone program s s = (t, .ok answer))
    (done : transaction s = .ok (answer, t)) : SameAlone program transaction s := by
  rw [SameAlone, ends, Call.transact_ok done]

theorem openShift_alone {dto : OpenPosShiftDto} :
    SameAlone (openShiftStatements now context s.nextId dto)
      (do let shift ← openShift now context dto; pure (.shift shift)) s := by
  simp only [openShift, bind_assoc]
  refine sameAlone_reading fun device _ => sameAlone_reading fun _ _ => sameAlone_ok rfl ?_
  have later : max s.nextId ((newShift now context dto device s.nextId).id + 1) = s.nextId + 1 :=
    Nat.max_eq_right (Nat.le_succ _)
  rw [insertShift, later]
  rfl

theorem startSession_alone {dto : StartPosSessionDto} :
    SameAlone (startSessionStatements now context s.nextId dto)
      (do let session ← startSession now context dto; pure (.session session)) s := by
  simp only [startSession, bind_assoc]
  refine sameAlone_reading fun device _ => sameAlone_reading fun shift _ =>
    sameAlone_reading fun _ _ => sameAlone_ok rfl ?_
  have later : max s.nextId ((newSession now context device shift s.nextId).id + 1) =
      s.nextId + 1 := Nat.max_eq_right (Nat.le_succ _)
  rw [insertSession, later]
  rfl

theorem endSessions_active (now : Instant) (shiftId : Id) (s : PosStore) :
    endSessions now shiftId (activeIds shiftId s) s = posSessions.put
      (Rows.updateWhere (activeOf shiftId) (endedWithShift now) s.sessions) s := by
  show _ = { s with
    sessions := Rows.updateWhere (activeOf shiftId) (endedWithShift now) s.sessions }
  rw [endSessions, Rows.updateWhere, Rows.updateWhere]
  congr 1
  refine map_congr_left fun session listed => ?_
  by_cases active : activeOf shiftId session = true
  · have found : session.id ∈ activeIds shiftId s :=
      mem_map_of_mem (mem_filter.mpr ⟨listed, active⟩)
    simp only [found, active, and_self, decide_true, if_true]
  · simp only [active, and_false, decide_false, Bool.false_eq_true, if_false]

theorem closeShift_alone : SameAlone (closeShiftStatements now context shiftId dto)
      (do let shift ← closeShift now context shiftId dto; pure (.shift shift)) s := by
  simp only [closeShift, bind_assoc]
  refine sameAlone_reading fun current admitted => sameAlone_ok rfl ?_
  obtain ⟨found, same⟩ := admitClosing_ok admitted
  rw [← same] at found
  rw [endSessions_active]
  refine Tx.bind_ok_iff.mpr ⟨_, _, rfl, ?_⟩
  exact Tx.bind_ok_iff.mpr ⟨_, _, Table.update_ok_iff.mpr ⟨current, found, rfl, rfl⟩, rfl⟩

theorem rewriteSession_alone {refusal : String} {sessionId : Id} :
    SameAlone (rewriteStatements context refusal change sessionId)
      (do let session ← rewriteSession context refusal change sessionId
          pure (.session session)) s := by
  simp only [rewriteSession, bind_assoc]
  refine sameAlone_reading fun current admitted => sameAlone_ok rfl ?_
  obtain ⟨found, same⟩ := admitActive_ok admitted
  rw [← same] at found
  exact Tx.bind_ok_iff.mpr ⟨_, _, Table.update_found found _, rfl⟩

theorem posStatements_alone {r : PosRequest} (next : ∀ newId ∈ r.drawn, newId = s.nextId) :
    SameAlone (statements r) (perform r) s := by
  obtain ⟨now, context, call⟩ := r
  cases call with
  | openShift newId dto =>
    obtain rfl := next newId rfl
    exact openShift_alone
  | closeShift shiftId dto => exact closeShift_alone
  | startSession newId dto =>
    obtain rfl := next newId rfl
    exact startSession_alone
  | heartbeatSession sessionId | endSession sessionId => exact rewriteSession_alone

end

/-- A device has at most one open shift and one active session, and the shift of an active session
is open and of its device, store and tenant. -/
structure OneTill (s : PosStore) : Prop where
  shifts : ∀ deviceId,
    (s.shifts.countP fun shift => shift.deviceId = deviceId ∧ shift.status = .open) ≤ 1
  sessions : ∀ deviceId,
    (s.sessions.countP fun session => session.deviceId = deviceId ∧ session.status = .active) ≤ 1
  opened : ∀ session ∈ s.sessions, session.status = .active → ∃ shift ∈ s.shifts,
    shift.id = session.shiftId ∧ shift.status = .open ∧ shift.deviceId = session.deviceId ∧
      shift.storeId = session.storeId ∧ shift.tenantId = session.tenantId

def NoOpenShift (deviceId : Id) (s : PosStore) : Prop :=
  ∀ shift ∈ s.shifts, shift.deviceId = deviceId → shift.status ≠ .open

def NoActiveSession (deviceId : Id) (s : PosStore) : Prop :=
  ∀ session ∈ s.sessions, session.deviceId = deviceId → session.status ≠ .active

def ShiftOpen (shiftId : Id) (device : Device) (s : PosStore) : Prop :=
  ∃ shift ∈ s.shifts, shift.id = shiftId ∧ shift.status = .open ∧ shift.deviceId = device.id ∧
    shift.storeId = device.storeId ∧ shift.tenantId = device.tenantId

def Listed (shiftId : Id) (ids : List Id) (s : PosStore) : Prop :=
  ∀ session ∈ s.sessions, session.shiftId = shiftId → session.status = .active → session.id ∈ ids

def Settles (change : SessionRow → SessionRow) : Prop :=
  ∀ session, (change session).id = session.id ∧ (change session).deviceId = session.deviceId ∧
    (change session).storeId = session.storeId ∧ (change session).tenantId = session.tenantId ∧
    (change session).shiftId = session.shiftId ∧
    ((change session).status = .active → session.status = .active)

section
variable {s : PosStore}

theorem insertShift_oneTill {shift : ShiftRow} (till : OneTill s)
    (none : NoOpenShift shift.deviceId s) : OneTill (insertShift shift s) where
  shifts deviceId := by
    show (s.shifts ++ [shift]).countP _ ≤ 1
    rw [countP_append]
    by_cases own : shift.deviceId = deviceId
    · have before : (s.shifts.countP fun shift =>
          shift.deviceId = deviceId ∧ shift.status = .open) = 0 := by
        refine countP_eq_zero.mpr fun old listed found => ?_
        obtain ⟨mine, opened⟩ := of_decide_eq_true found
        exact none old listed (mine.trans own.symm) opened
      rw [before, Nat.zero_add]
      exact countP_le_length
    · have new : ([shift].countP fun shift =>
          shift.deviceId = deviceId ∧ shift.status = .open) = 0 := by
        simp [own]
      rw [new, Nat.add_zero]
      exact till.shifts deviceId
  sessions := till.sessions
  opened session listed active := by
    obtain ⟨shift', stored, is⟩ := till.opened session listed active
    exact ⟨shift', mem_append_left _ stored, is⟩

theorem insertSession_oneTill {session : SessionRow} {device : Device} (till : OneTill s)
    (none : NoActiveSession session.deviceId s) (opened : ShiftOpen session.shiftId device s)
    (own : session.deviceId = device.id ∧ session.storeId = device.storeId ∧
      session.tenantId = device.tenantId) : OneTill (insertSession session s) where
  shifts := till.shifts
  sessions deviceId := by
    show (s.sessions ++ [session]).countP _ ≤ 1
    rw [countP_append]
    by_cases mine : session.deviceId = deviceId
    · have before : (s.sessions.countP fun session =>
          session.deviceId = deviceId ∧ session.status = .active) = 0 := by
        refine countP_eq_zero.mpr fun old listed found => ?_
        obtain ⟨theirs, active⟩ := of_decide_eq_true found
        exact none old listed (theirs.trans mine.symm) active
      rw [before, Nat.zero_add]
      exact countP_le_length
    · have new : ([session].countP fun session =>
          session.deviceId = deviceId ∧ session.status = .active) = 0 := by
        simp [mine]
      rw [new, Nat.add_zero]
      exact till.sessions deviceId
  opened old listed active := by
    rcases mem_append.mp listed with before | new
    · exact till.opened old before active
    · obtain rfl := mem_singleton.mp new
      obtain ⟨shift, stored, same, isOpen, device', store, tenant⟩ := opened
      exact ⟨shift, stored, same, isOpen, device'.trans own.1.symm, store.trans own.2.1.symm,
        tenant.trans own.2.2.symm⟩

theorem settled_oneTill (settles : Settles change) (till : OneTill s) :
    OneTill { s with sessions := s.sessions.map change } where
  shifts := till.shifts
  sessions deviceId := by
    show (s.sessions.map change).countP _ ≤ 1
    rw [countP_map]
    refine le_trans (countP_mono_left fun session _ found => ?_) (till.sessions deviceId)
    obtain ⟨own, active⟩ := of_decide_eq_true found
    obtain ⟨_, device, _, _, _, status⟩ := settles session
    exact decide_eq_true ⟨device.symm.trans own, status active⟩
  opened session listed active := by
    obtain ⟨old, stored, rfl⟩ := mem_map.mp listed
    obtain ⟨_, device, store, tenant, shift, status⟩ := settles old
    rw [device, store, tenant, shift]
    exact till.opened old stored (status active)

theorem closed_oneTill (till : OneTill s)
    (ended : ∀ session ∈ s.sessions, session.shiftId = shiftId → session.status ≠ .active) :
    OneTill (updateShift shiftId (closed now dto) s) where
  shifts deviceId := by
    show (Rows.modify ShiftRow.id shiftId (closed now dto) s.shifts).countP _ ≤ 1
    rw [Rows.modify, Rows.updateWhere, countP_map]
    refine le_trans (countP_mono_left fun shift _ found => ?_) (till.shifts deviceId)
    obtain ⟨own, opened⟩ := of_decide_eq_true found
    beta_reduce at own opened
    by_cases here : shift.id = shiftId
    · rw [if_pos (decide_eq_true here)] at opened
      cases opened
    · have kept : ¬decide (shift.id = shiftId) = true := fun same => here (of_decide_eq_true same)
      rw [if_neg kept] at own opened
      exact decide_eq_true ⟨own, opened⟩
  sessions := till.sessions
  opened session listed active := by
    obtain ⟨shift, stored, same, opened, own⟩ := till.opened session listed active
    have other : shift.id ≠ shiftId := fun here =>
      ended session listed (same.symm.trans here) active
    exact ⟨shift, Rows.mem_modify.mpr ⟨shift, stored, if_neg other⟩, same, opened, own⟩

end

def writing (session : PosRun) : Bool :=
  match session.rest with
  | .write _ _ _ | .commit _ => true
  | _ => false

/-- The device for which a request is opening a shift, having found none open. -/
def opening (r : PosRequest) (session : PosRun) : Option Id :=
  match r.call with
  | .openShift _ dto => if writing session then some dto.deviceId else none
  | _ => none

/-- The device for which a request is starting a session, having found none active. -/
def starting (r : PosRequest) (session : PosRun) : Option Id :=
  match r.call with
  | .startSession _ dto => if writing session then some dto.deviceId else none
  | _ => none

/-- The shift for which a request is starting a session, having found it open. -/
def startingOn (r : PosRequest) (session : PosRun) : Option Id :=
  match r.call with
  | .startSession _ dto =>
    if writing session ∨ session.reads ∧ session.seen.length = 2 then some dto.shiftId else none
  | _ => none

/-- The shift that a request is closing, having found its active sessions. -/
def closing (r : PosRequest) (session : PosRun) : Option Id :=
  match r.call with
  | .closeShift shiftId _ => if writing session then some shiftId else none
  | _ => none

def Apart (r : PosRequest) (session : PosRun) (r' : PosRequest) (session' : PosRun) : Prop :=
  (∀ deviceId ∈ opening r session, deviceId ∉ opening r' session') ∧
    (∀ deviceId ∈ starting r session, deviceId ∉ starting r' session') ∧
    (∀ shiftId ∈ startingOn r session, shiftId ∉ closing r' session') ∧
    ∀ shiftId ∈ closing r session, shiftId ∉ startingOn r' session'

/-- What a request leaves to the others of what they rely on. -/
structure Leaves (r : PosRequest) (session : PosRun) (s t : PosStore) : Prop where
  noOpen : ∀ deviceId, deviceId ∉ opening r session → NoOpenShift deviceId s →
    NoOpenShift deviceId t
  noActive : ∀ deviceId, deviceId ∉ starting r session → NoActiveSession deviceId s →
    NoActiveSession deviceId t
  isOpen : ∀ shiftId device, shiftId ∉ closing r session → ShiftOpen shiftId device s →
    ShiftOpen shiftId device t
  listed : ∀ shiftId ids, shiftId ∉ startingOn r session → Listed shiftId ids s →
    Listed shiftId ids t

section
variable {r : PosRequest} {session : PosRun} {s t u : PosStore}

theorem leaves_refl (r : PosRequest) (session : PosRun) (s : PosStore) : Leaves r session s s :=
  ⟨fun _ _ none => none, fun _ _ none => none, fun _ _ _ opened => opened,
    fun _ _ _ listed => listed⟩

theorem leaves_trans (first : Leaves r session s t) (second : Leaves r session t u) :
    Leaves r session s u where
  noOpen d free none := second.noOpen d free (first.noOpen d free none)
  noActive d free none := second.noActive d free (first.noActive d free none)
  isOpen h device free opened := second.isOpen h device free (first.isOpen h device free opened)
  listed h ids free listed := second.listed h ids free (first.listed h ids free listed)

theorem insertShift_leaves {shift : ShiftRow} (own : opening r session = some shift.deviceId) :
    Leaves r session s (insertShift shift s) where
  noOpen deviceId free none row listed mine opened := by
    rcases mem_append.mp listed with before | new
    · exact none row before mine opened
    · obtain rfl := mem_singleton.mp new
      exact free (own.trans (congrArg some mine))
  noActive _ _ none := none
  isOpen _ _ _ opened := by
    obtain ⟨row, stored, is⟩ := opened
    exact ⟨row, mem_append_left _ stored, is⟩
  listed _ _ _ listed := listed

theorem insertSession_leaves {row : SessionRow} (own : starting r session = some row.deviceId)
    (on : startingOn r session = some row.shiftId) : Leaves r session s (insertSession row s) where
  noOpen _ _ none := none
  noActive deviceId free none old listed mine active := by
    rcases mem_append.mp listed with before | new
    · exact none old before mine active
    · obtain rfl := mem_singleton.mp new
      exact free (own.trans (congrArg some mine))
  isOpen _ _ _ opened := opened
  listed shiftId ids free listed old stored mine active := by
    rcases mem_append.mp stored with before | new
    · exact listed old before mine active
    · obtain rfl := mem_singleton.mp new
      exact absurd (on.trans (congrArg some mine)) free

theorem settled_leaves (settles : Settles change) :
    Leaves r session s { s with sessions := s.sessions.map change } where
  noOpen _ _ none := none
  noActive deviceId _ none row listed mine active := by
    obtain ⟨old, stored, rfl⟩ := mem_map.mp listed
    obtain ⟨_, device, _, _, _, status⟩ := settles old
    exact none old stored (device.symm.trans mine) (status active)
  isOpen _ _ _ opened := opened
  listed shiftId ids _ listed row stored mine active := by
    obtain ⟨old, before, rfl⟩ := mem_map.mp stored
    obtain ⟨id, _, _, _, shift, status⟩ := settles old
    rw [id]
    exact listed old before (shift.symm.trans mine) (status active)

theorem closed_leaves (own : closing r session = some shiftId) :
    Leaves r session s (updateShift shiftId (closed now dto) s) where
  noOpen deviceId _ none row listed mine opened := by
    obtain ⟨old, stored, rfl⟩ := Rows.mem_modify.mp listed
    by_cases here : old.id = shiftId
    · rw [if_pos here] at opened
      cases opened
    · rw [if_neg here] at mine opened
      exact none old stored mine opened
  noActive _ _ none := none
  isOpen other device free opened := by
    obtain ⟨row, stored, same, is⟩ := opened
    have elsewhere : row.id ≠ shiftId := fun here =>
      free (own.trans (congrArg some (here.symm.trans same)))
    exact ⟨row, Rows.mem_modify.mpr ⟨row, stored, if_neg elsewhere⟩, same, is⟩
  listed _ _ _ listed := listed

end

/-- Where a request is, by the statements that it still has to make, and what it relies on. -/
inductive At (r : PosRequest) (s : PosStore) (session : PosRun) : Prop where
  | fresh (rest : session.rest = statements r) (own : session.own = id) (seen : session.seen = [])
  | admitting (newId : Id) (dto : OpenPosShiftDto) (device : Device)
      (call : r.call = .openShift newId dto)
      (rest : session.rest = reading (admitOpening device) fun _ =>
        .write [] (insertShift (newShift r.now r.context dto device newId))
          (finish (.shift (newShift r.now r.context dto device newId))))
      (own : session.own = id) (is : device.id = dto.deviceId)
  | opens (newId : Id) (dto : OpenPosShiftDto) (device : Device)
      (call : r.call = .openShift newId dto)
      (rest : session.rest = .write [] (insertShift (newShift r.now r.context dto device newId))
        (finish (.shift (newShift r.now r.context dto device newId))))
      (own : session.own = id) (is : device.id = dto.deviceId) (none : NoOpenShift device.id s)
  | opened (newId : Id) (dto : OpenPosShiftDto) (device : Device)
      (call : r.call = .openShift newId dto)
      (rest : session.rest = finish (.shift (newShift r.now r.context dto device newId)))
      (own : session.own = insertShift (newShift r.now r.context dto device newId))
      (is : device.id = dto.deviceId) (none : NoOpenShift device.id s)
  | finding (dto : ClosePosShiftDto) (current : ShiftRow)
      (call : r.call = .closeShift current.id dto)
      (rest : session.rest = closeStatements r.now dto current) (own : session.own = id)
  | ends (dto : ClosePosShiftDto) (current : ShiftRow) (ids : List Id)
      (call : r.call = .closeShift current.id dto)
      (rest : session.rest = .write (ids.map .session) (endSessions r.now current.id ids)
        (.write [.shift current.id] (updateShift current.id (closed r.now dto))
          (finish (.shift (closed r.now dto current)))))
      (own : session.own = id) (listed : Listed current.id ids s)
  | closes (dto : ClosePosShiftDto) (current : ShiftRow) (ids : List Id)
      (call : r.call = .closeShift current.id dto)
      (rest : session.rest = .write [.shift current.id]
        (updateShift current.id (closed r.now dto)) (finish (.shift (closed r.now dto current))))
      (own : session.own = endSessions r.now current.id ids) (listed : Listed current.id ids s)
  | closed (dto : ClosePosShiftDto) (current : ShiftRow) (ids : List Id)
      (call : r.call = .closeShift current.id dto)
      (rest : session.rest = finish (.shift (Pos.closed r.now dto current)))
      (own : session.own = updateShift current.id (Pos.closed r.now dto) ∘
        endSessions r.now current.id ids) (listed : Listed current.id ids s)
  | choosing (newId : Id) (dto : StartPosSessionDto) (device : Device)
      (call : r.call = .startSession newId dto)
      (rest : session.rest = reading (admitShift device dto.shiftId) fun shift =>
        reading (admitStart device) fun _ =>
          .write [] (insertSession (newSession r.now r.context device shift newId))
            (finish (.session (newSession r.now r.context device shift newId))))
      (own : session.own = id) (seen : session.seen.length = 1) (is : device.id = dto.deviceId)
  | chosen (newId : Id) (dto : StartPosSessionDto) (device : Device) (shift : ShiftRow)
      (call : r.call = .startSession newId dto)
      (rest : session.rest = reading (admitStart device) fun _ =>
        .write [] (insertSession (newSession r.now r.context device shift newId))
          (finish (.session (newSession r.now r.context device shift newId))))
      (own : session.own = id) (seen : session.seen.length = 2) (is : device.id = dto.deviceId)
      (same : shift.id = dto.shiftId) (isOpen : ShiftOpen shift.id device s)
  | starts (newId : Id) (dto : StartPosSessionDto) (device : Device) (shift : ShiftRow)
      (call : r.call = .startSession newId dto)
      (rest : session.rest =
        .write [] (insertSession (newSession r.now r.context device shift newId))
          (finish (.session (newSession r.now r.context device shift newId))))
      (own : session.own = id) (is : device.id = dto.deviceId) (same : shift.id = dto.shiftId)
      (isOpen : ShiftOpen shift.id device s) (none : NoActiveSession device.id s)
  | started (newId : Id) (dto : StartPosSessionDto) (device : Device) (shift : ShiftRow)
      (call : r.call = .startSession newId dto)
      (rest : session.rest = finish (.session (newSession r.now r.context device shift newId)))
      (own : session.own = insertSession (newSession r.now r.context device shift newId))
      (is : device.id = dto.deviceId) (same : shift.id = dto.shiftId)
      (isOpen : ShiftOpen shift.id device s) (none : NoActiveSession device.id s)
  | rewrites (change : SessionRow → SessionRow) (current : SessionRow)
      (settles : Settles change)
      (rest : session.rest = .write [.session current.id] (updateSession current.id change)
        (finish (.session (change current))))
      (own : session.own = id)
  | rewritten (change : SessionRow → SessionRow) (current : SessionRow) (settles : Settles change)
      (rest : session.rest = finish (.session (change current)))
      (own : session.own = updateSession current.id change)
  | failing (e : ApiException) (rest : session.rest = .rollback (.stop (.error e)))
  | done (answer : Except ApiException PosAnswer) (rest : session.rest = .stop answer)

section
variable {r r' : PosRequest} {session session' : PosRun} {s t : PosStore}

/-- What the others commit does not disturb a request that they are apart from. -/
theorem At.kept (at_ : At r s session) (leaves : Leaves r' session' s t)
    (apart : Apart r session r' session') : At r t session := by
  obtain ⟨openings, starts, ons, closings⟩ := apart
  cases at_ with
  | fresh rest own seen => exact .fresh rest own seen
  | admitting newId dto device call rest own is =>
    exact .admitting newId dto device call rest own is
  | opens newId dto device call rest own is none =>
    have mine : opening r session = some device.id := by simp [opening, call, writing, rest, is]
    exact .opens newId dto device call rest own is (leaves.noOpen _ (openings _ mine) none)
  | opened newId dto device call rest own is none =>
    have mine : opening r session = some device.id := by
      simp [opening, call, writing, rest, is, finish]
    exact .opened newId dto device call rest own is (leaves.noOpen _ (openings _ mine) none)
  | finding dto current call rest own => exact .finding dto current call rest own
  | ends dto current ids call rest own listed =>
    have mine : closing r session = some current.id := by simp [closing, call, writing, rest]
    exact .ends dto current ids call rest own (leaves.listed _ _ (closings _ mine) listed)
  | closes dto current ids call rest own listed =>
    have mine : closing r session = some current.id := by simp [closing, call, writing, rest]
    exact .closes dto current ids call rest own (leaves.listed _ _ (closings _ mine) listed)
  | closed dto current ids call rest own listed =>
    have mine : closing r session = some current.id := by
      simp [closing, call, writing, rest, finish]
    exact .closed dto current ids call rest own (leaves.listed _ _ (closings _ mine) listed)
  | choosing newId dto device call rest own seen is =>
    exact .choosing newId dto device call rest own seen is
  | chosen newId dto device shift call rest own seen is same isOpen =>
    have on : startingOn r session = some shift.id := by
      simp [startingOn, call, Session.reads, reading, rest, seen, same]
    exact .chosen newId dto device shift call rest own seen is same
      (leaves.isOpen _ _ (ons _ on) isOpen)
  | starts newId dto device shift call rest own is same isOpen none =>
    have on : startingOn r session = some shift.id := by
      simp [startingOn, call, writing, rest, same]
    have mine : starting r session = some device.id := by simp [starting, call, writing, rest, is]
    exact .starts newId dto device shift call rest own is same (leaves.isOpen _ _ (ons _ on) isOpen)
      (leaves.noActive _ (starts _ mine) none)
  | started newId dto device shift call rest own is same isOpen none =>
    have on : startingOn r session = some shift.id := by
      simp [startingOn, call, writing, rest, same, finish]
    have mine : starting r session = some device.id := by
      simp [starting, call, writing, rest, is, finish]
    exact .started newId dto device shift call rest own is same
      (leaves.isOpen _ _ (ons _ on) isOpen) (leaves.noActive _ (starts _ mine) none)
  | rewrites change current settles rest own => exact .rewrites change current settles rest own
  | rewritten change current settles rest own => exact .rewritten change current settles rest own
  | failing e rest => exact .failing e rest
  | done answer rest => exact .done answer rest

end

variable {ι : Type} [DecidableEq ι] [Fintype ι]

section
variable {r : ι → PosRequest} {w : PosWorld ι} {i : ι}

theorem reading_step {β : Type} {check : PosStore → Except ApiException β} {next : β → PosProgram}
    (rest : (w.sessions i).rest = reading check next) (own : (w.sessions i).own = id) :
    (step w i).committed = w.committed ∧
      ((∃ e, ((step w i).sessions i).rest = .rollback (.stop (.error e))) ∨
        ∃ b, check w.committed = .ok b ∧ ((step w i).sessions i).rest = next b ∧
          ((step w i).sessions i).own = id ∧
          ((step w i).sessions i).seen.length = (w.sessions i).seen.length + 1) := by
  have view : w.view i = w.committed := by
    rw [World.view, own]
    rfl
  have after := step_read rest
  rw [view] at after
  rw [after, put_self]
  refine ⟨rfl, ?_⟩
  cases checked : check w.committed with
  | error e => exact .inl ⟨e, rfl⟩
  | ok b => exact .inr ⟨b, rfl, rfl, own, length_append⟩

theorem write_step {keys : List Key} {change : PosStore → PosStore} {next : PosProgram}
    (rest : (w.sessions i).rest = .write keys change next) : step w i = w ∨
      (step w i).committed = w.committed ∧ ((step w i).sessions i).rest = next ∧
        ((step w i).sessions i).own = change ∘ (w.sessions i).own := by
  by_cases blocked : Blocked w i keys
  · exact .inl (step_blocked rest blocked)
  · rw [step_write rest blocked, put_self]
    exact .inr ⟨rfl, rfl, rfl⟩

theorem finish_step {answer : PosAnswer} (rest : (w.sessions i).rest = finish answer) :
    (step w i).committed = (w.sessions i).own w.committed ∧
      ((step w i).sessions i).rest = .stop (.ok answer) := by
  rw [step_commit rest, put_self]
  exact ⟨rfl, rfl⟩

/-- What a statement does to its own request, leaves to the others and keeps of the tills. -/
structure Advances (r : ι → PosRequest) (w : PosWorld ι) (i : ι) : Prop where
  at_ : At (r i) (step w i).committed ((step w i).sessions i)
  leaves : Leaves (r i) (w.sessions i) w.committed (step w i).committed
  till : OneTill w.committed → OneTill (step w i).committed

theorem advances_same (same : (step w i).committed = w.committed)
    (at_ : At (r i) w.committed ((step w i).sessions i)) : Advances r w i := by
  refine ⟨?_, ?_, ?_⟩
  · rw [same]
    exact at_
  · rw [same]
    exact leaves_refl _ _ _
  · rw [same]
    exact fun till => till

theorem advances_waits (at_ : At (r i) w.committed (w.sessions i)) (waits : step w i = w) :
    Advances r w i :=
  advances_same (by rw [waits]) (by rw [waits]; exact at_)

theorem advances_commit {answer : PosAnswer} {t : PosStore}
    (rest : (w.sessions i).rest = finish answer) (own : (w.sessions i).own w.committed = t)
    (leaves : Leaves (r i) (w.sessions i) w.committed t)
    (till : OneTill w.committed → OneTill t) : Advances r w i := by
  obtain ⟨committed, stopped⟩ := finish_step rest
  rw [own] at committed
  refine ⟨.done _ stopped, ?_, ?_⟩
  · rw [committed]
    exact leaves
  · rw [committed]
    exact till

theorem advances_reading {β : Type} {check : PosStore → Except ApiException β}
    {next : β → PosProgram} (rest : (w.sessions i).rest = reading check next)
    (own : (w.sessions i).own = id)
    (met : ∀ b, check w.committed = .ok b → ∀ session : PosRun, session.rest = next b →
      session.own = id → session.seen.length = (w.sessions i).seen.length + 1 →
        At (r i) w.committed session) : Advances r w i := by
  obtain ⟨same, ⟨e, failed⟩ | ⟨b, checked, rest', own', seen⟩⟩ := reading_step rest own
  · exact advances_same same (.failing e failed)
  · exact advances_same same (met b checked _ rest' own' seen)

theorem advances_write {keys : List Key} {change : PosStore → PosStore} {next : PosProgram}
    (at_ : At (r i) w.committed (w.sessions i))
    (rest : (w.sessions i).rest = .write keys change next)
    (written : ∀ session : PosRun, session.rest = next →
      session.own = change ∘ (w.sessions i).own → At (r i) w.committed session) :
    Advances r w i := by
  obtain waits | ⟨same, rest', own⟩ := write_step rest
  · exact advances_waits at_ waits
  · exact advances_same same (written _ rest' own)

theorem settles_beaten (now : Instant) : Settles (beaten now) :=
  fun _ => ⟨rfl, rfl, rfl, rfl, rfl, fun active => active⟩

theorem settles_ended (now : Instant) : Settles (ended now) :=
  fun _ => ⟨rfl, rfl, rfl, rfl, rfl, fun active => by cases active⟩

theorem settles_where {p : SessionRow → Bool} (settles : Settles change) :
    Settles fun session => if p session then change session else session := by
  intro session
  beta_reduce
  split
  · exact settles session
  · exact ⟨rfl, rfl, rfl, rfl, rfl, fun active => active⟩

theorem rewriteStatements_advances {refusal : String} {sessionId : Id} (settles : Settles change)
    (rest : (w.sessions i).rest = rewriteStatements context refusal change sessionId)
    (own : (w.sessions i).own = id) : Advances r w i :=
  advances_reading rest own fun current _ _ rest' own' _ =>
    .rewrites change current settles rest' own'

theorem fresh_advances (rest : (w.sessions i).rest = statements (r i))
    (own : (w.sessions i).own = id) (seen : (w.sessions i).seen = []) : Advances r w i := by
  cases call : (r i).call with
  | openShift newId dto =>
    rw [statements, call] at rest
    exact advances_reading rest own fun device loaded _ rest' own' _ =>
      .admitting newId dto device call rest' own' (loadPosDevice_ok loaded)
  | closeShift shiftId dto =>
    rw [statements, call] at rest
    refine advances_reading rest own fun current admitted _ rest' own' _ => ?_
    obtain rfl := (admitClosing_ok admitted).2
    exact .finding dto current call rest' own'
  | startSession newId dto =>
    rw [statements, call] at rest
    refine advances_reading rest own fun device loaded _ rest' own' seen' => ?_
    rw [seen] at seen'
    exact .choosing newId dto device call rest' own' seen' (loadPosDevice_ok loaded)
  | heartbeatSession sessionId =>
    rw [statements, call] at rest
    exact rewriteStatements_advances (settles_beaten _) rest own
  | endSession sessionId =>
    rw [statements, call] at rest
    exact rewriteStatements_advances (settles_ended _) rest own

theorem endSessions_none {ids : List Id} {s : PosStore} (listed : Listed shiftId ids s) :
    ∀ session ∈ (endSessions now shiftId ids s).sessions, session.shiftId = shiftId →
      session.status ≠ .active := by
  intro session stored mine active
  obtain ⟨old, before, rfl⟩ := Rows.mem_updateWhere.mp stored
  by_cases found : decide (old.id ∈ ids ∧ activeOf shiftId old) = true
  · rw [if_pos found] at active
    cases active
  · rw [if_neg found] at mine active
    have activeHere : activeOf shiftId old = true := decide_eq_true ⟨mine, active⟩
    exact found (decide_eq_true ⟨listed old before mine active, activeHere⟩)

theorem closed_advances {current : ShiftRow} {ids : List Id} {answer : PosAnswer}
    (call : (r i).call = .closeShift current.id dto) (rest : (w.sessions i).rest = finish answer)
    (own : (w.sessions i).own = updateShift current.id (closed (r i).now dto) ∘
      endSessions (r i).now current.id ids) (listed : Listed current.id ids w.committed) :
    Advances r w i := by
  have mine : closing (r i) (w.sessions i) = some current.id := by
    simp [closing, call, writing, rest, finish]
  have ends : Settles (endedWithShift (r i).now) :=
    fun _ => ⟨rfl, rfl, rfl, rfl, rfl, fun active => by cases active⟩
  have settles := settles_where (p := fun session =>
    decide (session.id ∈ ids ∧ activeOf current.id session)) ends
  refine advances_commit rest (by rw [own]) ?_ fun till => ?_
  · exact leaves_trans (settled_leaves settles) (closed_leaves mine)
  · exact closed_oneTill (settled_oneTill settles till) (endSessions_none listed)

theorem rewritten_advances {current : SessionRow} {answer : PosAnswer} (settles : Settles change)
    (rest : (w.sessions i).rest = finish answer)
    (own : (w.sessions i).own = updateSession current.id change) : Advances r w i :=
  have settled := settles_where (p := fun session => decide (session.id = current.id)) settles
  advances_commit rest (congrFun own _) (settled_leaves settled) (settled_oneTill settled)

theorem at_step (at_ : At (r i) w.committed (w.sessions i)) : Advances r w i := by
  have here := at_
  cases at_ with
  | fresh rest own seen => exact fresh_advances rest own seen
  | admitting newId dto device call rest own is =>
    exact advances_reading rest own fun _ admitted _ rest' own' _ =>
      .opens newId dto device call rest' own' is (admitOpening_ok admitted)
  | opens newId dto device call rest own is none =>
    refine advances_write here rest fun _ rest' own' => ?_
    rw [own] at own'
    exact .opened newId dto device call rest' own' is none
  | opened newId dto device call rest own is none =>
    have mine : opening (r i) (w.sessions i) = some device.id := by
      simp [opening, call, writing, rest, is, finish]
    exact advances_commit rest (by rw [own]) (insertShift_leaves mine)
      fun till => insertShift_oneTill till none
  | finding dto current call rest own =>
    -- The update's rows are found in one statement with their locks.
    have view : w.view i = w.committed := by
      rw [World.view, own]
      rfl
    have after := step_read rest
    rw [view] at after
    refine advances_same (by rw [after]; rfl) ?_
    rw [after, put_self]
    refine .ends dto current (activeIds current.id w.committed) call rfl own ?_
    exact fun session stored mine active =>
      mem_map_of_mem (mem_filter.mpr ⟨stored, decide_eq_true ⟨mine, active⟩⟩)
  | ends dto current ids call rest own listed =>
    refine advances_write here rest fun _ rest' own' => ?_
    rw [own] at own'
    exact .closes dto current ids call rest' own' listed
  | closes dto current ids call rest own listed =>
    refine advances_write here rest fun _ rest' own' => ?_
    rw [own] at own'
    exact .closed dto current ids call rest' own' listed
  | closed dto current ids call rest own listed => exact closed_advances call rest own listed
  | choosing newId dto device call rest own seen is =>
    refine advances_reading rest own fun shift admitted _ rest' own' seen' => ?_
    obtain ⟨stored, same, opened, mine, store, tenant⟩ := admitShift_ok admitted
    rw [seen] at seen'
    exact .chosen newId dto device shift call rest' own' seen' is same
      ⟨shift, stored, rfl, opened, mine, store, tenant⟩
  | chosen newId dto device shift call rest own seen is same isOpen =>
    exact advances_reading rest own fun _ admitted _ rest' own' _ =>
      .starts newId dto device shift call rest' own' is same isOpen (admitStart_ok admitted)
  | starts newId dto device shift call rest own is same isOpen none =>
    refine advances_write here rest fun _ rest' own' => ?_
    rw [own] at own'
    exact .started newId dto device shift call rest' own' is same isOpen none
  | started newId dto device shift call rest own is same isOpen none =>
    have on : startingOn (r i) (w.sessions i) = some shift.id := by
      simp [startingOn, call, writing, rest, same, finish]
    have mine : starting (r i) (w.sessions i) = some device.id := by
      simp [starting, call, writing, rest, is, finish]
    exact advances_commit rest (by rw [own]) (insertSession_leaves mine on)
      fun till => insertSession_oneTill till none isOpen ⟨rfl, rfl, rfl⟩
  | rewrites change current settles rest own =>
    refine advances_write here rest fun _ rest' own' => ?_
    rw [own] at own'
    exact .rewritten change current settles rest' own'
  | rewritten change current settles rest own => exact rewritten_advances settles rest own
  | failing e rest =>
    have after := step_rollback rest
    refine advances_same (by rw [after]; rfl) ?_
    rw [after, put_self]
    exact .done _ rfl
  | done answer rest => exact advances_waits here (step_stop rest)

end

def requestsAfter (r : ι → PosRequest) (s : PosStore) (schedule : List ι) : PosWorld ι :=
  Trace.run step (start (fun i => statements (r i)) s) schedule

def Clear (r : ι → PosRequest) (w : PosWorld ι) : Prop :=
  ∀ i j, i ≠ j → Apart (r i) (w.sessions i) (r j) (w.sessions j)

/-- A till keeps to one open shift and one active session in every run in which no two requests
get in each other's way. -/
theorem one_till {r : ι → PosRequest} {s : PosStore} (till : OneTill s) {schedule : List ι}
    (clear : Trace.Along step (fun w _ => Clear r w) (start (fun i => statements (r i)) s)
      schedule) : OneTill (requestsAfter r s schedule).committed := by
  have keeps : ∀ (w : PosWorld ι) (i : ι),
      (OneTill w.committed ∧ ∀ j, At (r j) w.committed (w.sessions j)) → Clear r w →
      OneTill (step w i).committed ∧
        ∀ j, At (r j) (step w i).committed ((step w i).sessions j) := by
    rintro w i ⟨till, under⟩ clear
    have advances := at_step (under i)
    refine ⟨advances.till till, fun j => ?_⟩
    by_cases here : j = i
    · subst here
      exact advances.at_
    · rw [step_other w here]
      exact (under j).kept advances.leaves (clear j i here)
  have begun : ∀ j, At (r j) s ((start (fun i => statements (r i)) s).sessions j) :=
    fun j => .fresh rfl rfl rfl
  exact (Trace.run_invariant keeps ⟨till, begun⟩ clear).1

instance (r : PosRequest) (session : PosRun) (r' : PosRequest) (session' : PosRun) :
    Decidable (Apart r session r' session') := by
  unfold Apart
  infer_instance

instance (r : ι → PosRequest) (w : PosWorld ι) : Decidable (Clear r w) :=
  inferInstanceAs (Decidable (∀ _, _))

/-- A shop with a device that has never been used. -/
def newDevice : PosStore where
  nextId := 50
  devices := [⟨7, 1, 2, "till", .pos, .active⟩]
  shifts := []
  sessions := []

theorem newDevice_oneTill : OneTill newDevice where
  shifts _ := Nat.zero_le _
  sessions _ := Nat.zero_le _
  opened _ listed := absurd listed not_mem_nil

def cashier (call : PosCall) : PosRequest :=
  { now := 1
    context := ⟨"cashier", some 1, .tenantMember, [2], none⟩
    call }

def workDay : Fin 3 → PosRequest
  | 0 => cashier (.openShift 50 { deviceId := 7 })
  | 1 => cashier (.startSession 51 { deviceId := 7, shiftId := 50 })
  | 2 => cashier (.closeShift 50 {})

theorem workDay_alone : SameAlone (statements (workDay 0)) (perform (workDay 0)) newDevice :=
  posStatements_alone (by decide)

theorem workDay_one_till : OneTill (requestsAfter workDay newDevice
    [0, 0, 0, 1, 0, 1, 1, 1, 1, 2, 2, 2, 2, 2]).committed :=
  one_till newDevice_oneTill (by decide +kernel)

/-- Two requests look for an open shift before either has opened one. -/
theorem two_openings :
    ¬∀ (r : Fin 2 → PosRequest) (s : PosStore) (schedule : List (Fin 2)), OneTill s →
      OneTill (requestsAfter r s schedule).committed := by
  intro always
  let r : Fin 2 → PosRequest := fun i => cashier (.openShift (50 + i) { deviceId := 7 })
  have till := (always r newDevice [0, 1, 0, 1, 0, 0, 1, 1] newDevice_oneTill).shifts 7
  revert till
  decide +kernel

end Exetron.Pos.Concurrent
