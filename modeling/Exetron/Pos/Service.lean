import Exetron.Access
import Exetron.Database

/-!
# Tills

`PosService`: the shifts and sessions of POS devices. A request is one transaction of several
statements: what it checks it reads first, and writes afterwards.
-/

namespace Exetron.Pos

open Lib

inductive PosShiftStatus where
  | open
  | closed
  deriving DecidableEq

structure ShiftRow where
  (id tenantId storeId deviceId : Id)
  openedByUserId : String
  status : PosShiftStatus
  (openingCashAmount closingCashAmount : Option Money)
  openedAt : Instant
  closedAt : Option Instant

structure SessionRow where
  (id tenantId storeId deviceId shiftId : Id)
  userId : String
  status : PosSessionStatus
  startedAt : Instant
  (endedAt lastHeartbeatAt : Option Instant)

structure PosStore where
  nextId : Id
  devices : List Device
  shifts : List ShiftRow
  sessions : List SessionRow

abbrev PosTransaction := Tx PosStore ApiException

def posShifts : Table PosStore ApiException ShiftRow Id where
  rows s := s.shifts
  put rows s := { s with shifts := rows }
  key := ShiftRow.id
  missing := .recordNotFound "PosShift"

def posSessions : Table PosStore ApiException SessionRow Id where
  rows s := s.sessions
  put rows s := { s with sessions := rows }
  key := SessionRow.id
  missing := .recordNotFound "PosSession"

structure OpenPosShiftDto where
  deviceId : Id
  tenantId : Option Id := none
  storeId : Option Id := none
  openingCashAmount : Option Money := none

structure ClosePosShiftDto where
  closingCashAmount : Option Money := none

structure StartPosSessionDto where
  (deviceId shiftId : Id)
  tenantId : Option Id := none
  storeId : Option Id := none

def loadPosDevice (context : RequestContext) (deviceId : Id)
    (tenantIdInput storeIdInput : Option Id) (s : PosStore) : Except ApiException Device := do
  let device ← required (s.devices.find? fun device => device.id = deviceId)
    (.recordNotFound "Device")
  let tenantId ← resolveTenantId context (some (tenantIdInput.getD device.tenantId))
  rejectIf (device.tenantId ≠ tenantId) (.badRequest "Device tenant mismatch.")
  rejectIf (∃ storeId ∈ storeIdInput, storeId ≠ device.storeId)
    (.badRequest "Device store mismatch.")
  enforceStoreAccess context device.storeId
  rejectIf (device.type ≠ .pos) (.badRequest "The selected device is not a POS device.")
  pure device

def admitOpening (device : Device) (s : PosStore) : Except ApiException Unit :=
  rejectIf (∃ shift ∈ s.shifts, shift.deviceId = device.id ∧ shift.status = .open)
    (.badRequest "An open POS shift already exists for this device.")

def admitClosing (context : RequestContext) (shiftId : Id) (s : PosStore) :
    Except ApiException ShiftRow := do
  let current ← posShifts.findUniqueOrThrow shiftId s
  authorize context current.tenantId current.storeId
  rejectIf (current.status ≠ .open) (.badRequest "Only open POS shifts can be closed.")
  pure current

def admitShift (device : Device) (shiftId : Id) (s : PosStore) : Except ApiException ShiftRow := do
  let shift ← posShifts.findUniqueOrThrow shiftId s
  rejectIf (shift.tenantId ≠ device.tenantId ∨ shift.storeId ≠ device.storeId ∨
    shift.deviceId ≠ device.id) (.badRequest "Shift/device/store mismatch.")
  rejectIf (shift.status ≠ .open) (.badRequest "POS session requires an open shift.")
  pure shift

def admitStart (device : Device) (s : PosStore) : Except ApiException Unit :=
  rejectIf (∃ session ∈ s.sessions, session.deviceId = device.id ∧ session.status = .active)
    (.badRequest "An active POS session already exists for this device.")

/-- The session is active; `refusal` says what only active ones can do. -/
def admitActive (context : RequestContext) (refusal : String) (sessionId : Id) (s : PosStore) :
    Except ApiException SessionRow := do
  let current ← posSessions.findUniqueOrThrow sessionId s
  authorize context current.tenantId current.storeId
  rejectIf (current.status ≠ .active) (.badRequest refusal)
  pure current

def newShift (now : Instant) (context : RequestContext) (dto : OpenPosShiftDto) (device : Device)
    (id : Id) : ShiftRow :=
  { id
    tenantId := device.tenantId
    storeId := device.storeId
    deviceId := device.id
    openedByUserId := context.userId
    status := .open
    openingCashAmount := dto.openingCashAmount
    closingCashAmount := none
    openedAt := now
    closedAt := none }

def newSession (now : Instant) (context : RequestContext) (device : Device) (shift : ShiftRow)
    (id : Id) : SessionRow :=
  { id
    tenantId := device.tenantId
    storeId := device.storeId
    deviceId := device.id
    shiftId := shift.id
    userId := context.userId
    status := .active
    startedAt := now
    endedAt := none
    lastHeartbeatAt := some now }

def closed (now : Instant) (dto : ClosePosShiftDto) (shift : ShiftRow) : ShiftRow :=
  { shift with
    status := .closed
    closedAt := some now
    closingCashAmount := dto.closingCashAmount }

def endedWithShift (now : Instant) (session : SessionRow) : SessionRow :=
  { session with status := .ended, endedAt := some now }

def beaten (now : Instant) (session : SessionRow) : SessionRow :=
  { session with lastHeartbeatAt := some now }

def ended (now : Instant) (session : SessionRow) : SessionRow :=
  { session with status := .ended, endedAt := some now, lastHeartbeatAt := some now }

def activeOf (shiftId : Id) (session : SessionRow) : Bool :=
  session.shiftId = shiftId ∧ session.status = .active

def freshId : PosTransaction Id := do
  let id ← Tx.read fun s => .ok s.nextId
  Tx.write fun s => { s with nextId := s.nextId + 1 }
  pure id

def openShift (now : Instant) (context : RequestContext) (dto : OpenPosShiftDto) :
    PosTransaction ShiftRow := do
  let device ← Tx.read (loadPosDevice context dto.deviceId dto.tenantId dto.storeId)
  Tx.read (admitOpening device)
  let id ← freshId
  posShifts.create (newShift now context dto device id)

def closeShift (now : Instant) (context : RequestContext) (shiftId : Id) (dto : ClosePosShiftDto) :
    PosTransaction ShiftRow := do
  let current ← Tx.read (admitClosing context shiftId)
  let _ ← posSessions.updateMany (activeOf current.id) (endedWithShift now)
  posShifts.update current.id (closed now dto)

def startSession (now : Instant) (context : RequestContext) (dto : StartPosSessionDto) :
    PosTransaction SessionRow := do
  let device ← Tx.read (loadPosDevice context dto.deviceId dto.tenantId dto.storeId)
  let shift ← Tx.read (admitShift device dto.shiftId)
  Tx.read (admitStart device)
  let id ← freshId
  posSessions.create (newSession now context device shift id)

def rewriteSession (context : RequestContext) (refusal : String)
    (change : SessionRow → SessionRow) (sessionId : Id) : PosTransaction SessionRow := do
  let current ← Tx.read (admitActive context refusal sessionId)
  posSessions.update current.id change

def heartbeatSession (now : Instant) (context : RequestContext) (sessionId : Id) :
    PosTransaction SessionRow :=
  rewriteSession context "Only active POS sessions can send heartbeat." (beaten now) sessionId

def endSession (now : Instant) (context : RequestContext) (sessionId : Id) :
    PosTransaction SessionRow :=
  rewriteSession context "Only active POS sessions can be ended." (ended now) sessionId

section
variable {context : RequestContext} {device : Device} {s : PosStore}

theorem loadPosDevice_ok {deviceId : Id} {tenantId storeId : Option Id}
    (h : loadPosDevice context deviceId tenantId storeId s = .ok device) :
    device.id = deviceId := by
  simp only [loadPosDevice, except_bind_ok_iff, required_ok_iff, except_pure_ok_iff] at h
  obtain ⟨_, found, _, _, _, _, _, _, _, _, _, _, rfl⟩ := h
  simpa using List.find?_some found

theorem admitOpening_ok {u : Unit} (h : admitOpening device s = .ok u) :
    ∀ shift ∈ s.shifts, shift.deviceId = device.id → shift.status ≠ .open :=
  fun shift listed mine opened => rejectIf_ok_iff.mp h ⟨shift, listed, mine, opened⟩

theorem admitStart_ok {u : Unit} (h : admitStart device s = .ok u) :
    ∀ session ∈ s.sessions, session.deviceId = device.id → session.status ≠ .active :=
  fun session listed mine active => rejectIf_ok_iff.mp h ⟨session, listed, mine, active⟩

theorem admitClosing_ok {shiftId : Id} {current : ShiftRow}
    (h : admitClosing context shiftId s = .ok current) :
    posShifts.findUnique shiftId s = some current ∧ current.id = shiftId := by
  simp only [admitClosing, except_bind_ok_iff, except_pure_ok_iff,
    Table.findUniqueOrThrow_ok_iff] at h
  obtain ⟨_, found, _, _, _, _, rfl⟩ := h
  exact ⟨found, (Table.findUnique_mem found).2⟩

theorem admitShift_ok {shiftId : Id} {shift : ShiftRow}
    (h : admitShift device shiftId s = .ok shift) :
    shift ∈ s.shifts ∧ shift.id = shiftId ∧ shift.status = .open ∧
      shift.deviceId = device.id ∧ shift.storeId = device.storeId ∧
      shift.tenantId = device.tenantId := by
  simp only [admitShift, except_bind_ok_iff, except_pure_ok_iff, rejectIf_ok_iff,
    Table.findUniqueOrThrow_ok_iff, not_or, not_not] at h
  obtain ⟨_, found, _, ⟨tenant, store, own⟩, _, opened, rfl⟩ := h
  exact ⟨(Table.findUnique_mem found).1, (Table.findUnique_mem found).2, opened, own, store, tenant⟩

theorem admitActive_ok {refusal : String} {sessionId : Id} {current : SessionRow}
    (h : admitActive context refusal sessionId s = .ok current) :
    posSessions.findUnique sessionId s = some current ∧ current.id = sessionId := by
  simp only [admitActive, except_bind_ok_iff, except_pure_ok_iff,
    Table.findUniqueOrThrow_ok_iff] at h
  obtain ⟨_, found, _, _, _, _, rfl⟩ := h
  exact ⟨found, (Table.findUnique_mem found).2⟩

end

end Exetron.Pos
