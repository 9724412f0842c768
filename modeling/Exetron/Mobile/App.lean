import Exetron.Mobile.Api

/-!
# The mobile POS

The handlers of the app, its queue of unsubmitted orders and the copy of the queue on the device.
A handler runs to its end before the next one starts: the buttons are disabled while one is busy.
-/

namespace Exetron.Mobile

open Lib Lib.Call

/-- An order with the tap that made it. The ids are clock readings, so only the tap tells two
orders apart; no handler looks at it. -/
structure Draft where
  tap : Nat
  order : PendingPosOrder
  deriving DecidableEq

/-- One run of `submitPosOrder`: what the server has carried out of it and how it ended. -/
structure Submission where
  draft : Draft
  bySync : Bool
  requests : List Request
  result : Except Failure Submitted

def Submission.reachedCheckout (submission : Submission) : Bool := reached submission.requests

def Submission.ending (submission : Submission) : Ending := endingOf submission.result

def submission (draft : Draft) (bySync : Bool) (net : Network) (payload : PendingPosOrder) :
    Submission :=
  let (result, requests) := exec (submitPosOrder net payload) []
  { draft, bySync, requests, result }

structure PosBootstrap where
  (storeId deviceId : Id)
  (activeShift activeSession : Option Id)

structure CartLine where
  productId : Id
  variantId : Option Id
  quantity : Int
  modifierOptionIds : List Id

/-- What the operator picks and types. -/
structure Form where
  selectedStore : Option Id := none
  selectedDevice : Option Id := none
  cart : List CartLine := []
  paymentDrafts : List PaymentDraft := [{ method := .cash, amount := "0.00" }]
  customerName : String := "Walk-in Guest"
  note : String := ""

/-- The storage of the device, which outlives the app. -/
structure Storage where
  accessToken : Option String := none
  bootstrap : Option PosBootstrap := none
  queue : List Draft := []

/-- The state of the app; `taps` and `submissions` are its history. -/
structure App where
  storage : Storage := {}
  accessToken : Option String := none
  bootstrap : Option PosBootstrap := none
  activeSession : Option Id := none
  form : Form := {}
  pendingQueue : List Draft := []
  error : Option String := none
  info : Option String := none
  taps : Nat := 0
  submissions : List Submission := []

def launch (s : App) : App :=
  let { storage, taps, submissions, .. } := s
  { storage, taps, submissions
    accessToken := storage.accessToken
    bootstrap := storage.bootstrap
    activeSession := storage.bootstrap.bind PosBootstrap.activeSession
    form :=
      { selectedStore := storage.bootstrap.map PosBootstrap.storeId
        selectedDevice := storage.bootstrap.map PosBootstrap.deviceId }
    pendingQueue := storage.queue }

/-- The texts of what is thrown. -/
def Failure.text : Failure → String
  | .api error => error.message
  | .network message => message

def handleLogin (login : Reply String) (me : Reply Unit) (s : App) : App :=
  let s := { s with error := none, info := none }
  match (do let accessToken ← login.result; me.result; pure accessToken : Except Failure String) with
  | .ok accessToken =>
    { s with
      accessToken := some accessToken
      storage := { s.storage with accessToken := some accessToken }
      info := some "Operator session established." }
  | .error failure => { s with error := some failure.text }

/-- What a loop over the queue has submitted, what it keeps and the error that ended it early. -/
structure SyncPass where
  submissions : List Submission := []
  remaining : List Draft := []
  thrown : Option ApiError := none

def syncLoop (sessionId : Id) : List (Draft × Network) → SyncPass
  | [] => {}
  | (queuedOrder, net) :: rest =>
    let submitted := submission queuedOrder true net { queuedOrder.order with sessionId }
    match submitted.result with
    | .ok _ =>
      let pass := syncLoop sessionId rest
      { pass with submissions := submitted :: pass.submissions }
    | .error (.network _) =>
      let pass := syncLoop sessionId rest
      { pass with
        submissions := submitted :: pass.submissions
        remaining := queuedOrder :: pass.remaining }
    | .error (.api error) =>
      { submissions := [submitted], remaining := [queuedOrder], thrown := some error }

def App.pass (s : App) (nets : Nat → Network) : List (Draft × Network) :=
  s.pendingQueue.zipIdx.map fun (queuedOrder, turn) => (queuedOrder, nets turn)

/-- `session?.accessToken` is there. -/
def App.signedIn (s : App) : Bool := s.accessToken.any (· ≠ "")

def App.syncSession (s : App) (cachedBootstrap : Option PosBootstrap) (sessionId : Option Id) :
    Option Id :=
  if ¬s.signedIn ∨ cachedBootstrap.isNone then none else sessionId

def handleSyncPending (nets : Nat → Network) (cachedBootstrap : Option PosBootstrap)
    (sessionId : Option Id) (s : App) : App :=
  match s.syncSession cachedBootstrap sessionId with
  | none => s
  | some sessionId =>
    if s.pendingQueue = [] then { s with info := some "No queued POS orders." }
    else
      let pass := syncLoop sessionId (s.pass nets)
      let s := { s with error := none, submissions := s.submissions ++ pass.submissions }
      match pass.thrown with
      | some error => { s with error := some error.message }
      | none =>
        { s with
          pendingQueue := pass.remaining
          storage := { s.storage with queue := pass.remaining }
          info := some (if pass.remaining ≠ [] then "Some queued orders remain pending."
            else "Queued orders synced.") }

/-- The replies to the requests of `handleStartPos`. -/
structure StartReplies where
  bootstrapPos : Reply PosBootstrap
  (openShift startSession : Reply Id)
  bootstrapAgain : Reply PosBootstrap

def posStart (replies : StartReplies) : Except Failure (PosBootstrap × Id) := do
  let nextBootstrap ← replies.bootstrapPos.result
  let _nextShift ← match nextBootstrap.activeShift with
    | some shift => pure shift
    | none => replies.openShift.result
  let nextSession ← match nextBootstrap.activeSession with
    | some session => pure session
    | none => replies.startSession.result
  let nextBootstrap ← replies.bootstrapAgain.result
  pure (nextBootstrap, nextSession)

def handleStartPos (replies : StartReplies) (nets : Nat → Network) (s : App) : App :=
  if ¬s.signedIn ∨ s.form.selectedStore.isNone ∨ s.form.selectedDevice.isNone then
    { s with error := some "Select store and POS device first." }
  else
    let s := { s with error := none, info := none }
    match posStart replies with
    | .error failure =>
      { s with
        info := if s.bootstrap.isSome then
          some "Network unavailable. Falling back to cached POS bootstrap." else s.info
        error := some failure.text }
    | .ok (nextBootstrap, nextSession) =>
      let s := { s with
        bootstrap := some nextBootstrap
        activeSession := some (nextBootstrap.activeSession.getD nextSession)
        storage := { s.storage with bootstrap := some nextBootstrap }
        info := some "POS shift and session are ready." }
      if s.pendingQueue ≠ [] then handleSyncPending nets (some nextBootstrap) (some nextSession) s
      else s

def App.payload (s : App) (now : Instant) : Option PendingPosOrder :=
  match s.bootstrap, s.activeSession with
  | some bootstrap, some sessionId =>
    if ¬s.signedIn ∨ s.form.cart = [] then none
    else some
      { id := s!"offline-{now}"
        storeId := bootstrap.storeId
        deviceId := bootstrap.deviceId
        sessionId
        customerName := some s.form.customerName
        note := if s.form.note = "" then none else some s.form.note
        items := s.form.cart.map fun item =>
          { productId := item.productId, variantId := item.variantId
            quantity := item.quantity, priceListId := none
            modifierOptionIds := item.modifierOptionIds }
        allocations := s.form.paymentDrafts }
  | _, _ => none

def handleSubmitOrder (net : Network) (now : Instant) (s : App) : App :=
  match s.payload now with
  | none => { s with error := some "POS session and at least one cart line are required." }
  | some payload =>
    let draft : Draft := { tap := s.taps, order := payload }
    let submitted := submission draft false net payload
    let s := { s with
      error := none, info := none
      taps := s.taps + 1, submissions := s.submissions ++ [submitted] }
    match submitted.result with
    | .ok _ =>
      { s with
        form := { s.form with cart := [], note := "" }
        info := some "POS order submitted and payment completed." }
    | .error (.api error) => { s with error := some error.message }
    | .error (.network _) =>
      let nextQueue := s.pendingQueue ++ [draft]
      { s with
        pendingQueue := nextQueue
        storage := { s.storage with queue := nextQueue }
        form := { s.form with cart := [] }
        info := some "Network unavailable. Order queued for sync." }

inductive Event where
  | launch
  | login (tokens : Reply String) (me : Reply Unit)
  | edit (form : Form)
  | startPos (replies : StartReplies) (nets : Nat → Network)
  | syncPending (nets : Nat → Network)
  | submitOrder (net : Network) (now : Instant)

def step (s : App) : Event → App
  | .launch => launch s
  | .login tokens me => handleLogin tokens me s
  | .edit form => { s with form }
  | .startPos replies nets => handleStartPos replies nets s
  | .syncPending nets => handleSyncPending nets s.bootstrap s.activeSession s
  | .submitOrder net now => handleSubmitOrder net now s

end Exetron.Mobile
