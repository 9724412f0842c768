import Exetron.Lib.Transaction
import Exetron.Types

/-!
# The API client of the mobile POS

What the network and the server make of a request is an input of the model. A request that the
server has carried out is on the log of its submission, whether or not its answer arrived.
-/

namespace Exetron.Mobile

open Lib Lib.Call

structure ApiError where
  message : String
  statusCode : Nat
  deriving DecidableEq

/-- What a caller catches. Whatever is no `ApiError` is thrown by `fetch` or by the reading of
an answer. -/
inductive Failure where
  | api (error : ApiError)
  | network (message : String)
  deriving DecidableEq

/-- What comes of a request. The server may have carried it out even when no answer says so. -/
inductive Reply (α : Type) where
  | ok (body : α)
  | refused (status : Nat) (message : Option String) (carriedOut : Bool)
  | lost (message : String) (carriedOut : Bool)
  deriving Inhabited

def Reply.carriedOut {α : Type} : Reply α → Bool
  | .ok _ => true
  | .refused _ _ carriedOut => carriedOut
  | .lost _ carriedOut => carriedOut

/-- What `request` returns or throws. -/
def Reply.result {α : Type} : Reply α → Except Failure α
  | .ok body => .ok body
  | .refused status message _ =>
    .error (.api { message := message.getD s!"Request failed with {status}", statusCode := status })
  | .lost message _ => .error (.network message)

structure AddCartItemRequest where
  productId : Id
  variantId : Option Id
  quantity : Int
  priceListId : Option Id
  modifierOptionIds : List Id
  deriving DecidableEq

structure PaymentDraft where
  method : PaymentMethodKind
  amount : String
  deriving DecidableEq

/-- The items have the fields of the requests that add them. -/
structure PendingPosOrder where
  id : String
  (storeId deviceId sessionId : Id)
  (customerName note : Option String)
  items : List AddCartItemRequest
  allocations : List PaymentDraft
  deriving DecidableEq

inductive Request where
  | createCart (storeId deviceId : Id) (channel : OrderChannel) (customerName note : Option String)
  | addCartItem (cartId : Id) (payload : AddCartItemRequest)
  | checkoutCart (cartId : Id) (customerName note : Option String)
  | createPaymentIntent (storeId orderId posSessionId : Id) (allocations : List PaymentDraft)
  | processPaymentAllocation (intentId allocationId : Id)
  deriving DecidableEq

def Request.isCheckout : Request → Bool
  | .checkoutCart .. => true
  | _ => false

structure CartDto where
  id : Id

structure CheckoutDto where
  id : Id
  total : String

structure PaymentAllocationDto where
  id : Id
  status : PaymentAllocationStatus
  failureReason : Option String

structure PaymentIntentDto where
  id : Id
  status : PaymentIntentStatus
  totalAmount : String
  allocations : List PaymentAllocationDto

/-- The replies to the requests of one submission, those of a loop by their turn. -/
structure Network where
  createCart : Reply CartDto
  addCartItem : Nat → Reply CartDto
  checkoutCart : Reply CheckoutDto
  createPaymentIntent : Reply PaymentIntentDto
  processPaymentAllocation : Nat → Reply PaymentIntentDto

abbrev Api := Call (List Request) Failure

def request {α : Type} (r : Request) (reply : Reply α) : Api α := fun log =>
  (reply.result, if reply.carriedOut then log ++ [r] else log)

structure Submitted where
  (orderId paymentIntentId : Id)
  total : String

/-- The error of an intent that its allocations have not paid. -/
def unpaidError (intent : PaymentIntentDto) : ApiError :=
  let failedAllocation := intent.allocations.find? fun allocation => allocation.status = .failed
  { message := (failedAllocation.bind PaymentAllocationDto.failureReason).getD
      s!"Payment intent is {intent.status.text.toLower}."
    statusCode := 400 }

def addCartItems (net : Network) (payload : PendingPosOrder) (cartId : Id) : Api Id :=
  payload.items.zipIdx.foldlM (fun workingCartId (item, turn) => do
    let updatedCart ← request (.addCartItem workingCartId item) (net.addCartItem turn)
    pure updatedCart.id) cartId

def processAllocations (net : Network) (paymentIntent : PaymentIntentDto) : Api PaymentIntentDto :=
  paymentIntent.allocations.zipIdx.foldlM (fun _ (allocation, turn) =>
    request (.processPaymentAllocation paymentIntent.id allocation.id)
      (net.processPaymentAllocation turn)) paymentIntent

def payOrder (net : Network) (payload : PendingPosOrder) (order : CheckoutDto) : Api Submitted := do
  let paymentIntent ← request
    (.createPaymentIntent payload.storeId order.id payload.sessionId payload.allocations)
    net.createPaymentIntent
  let processedIntent ← processAllocations net paymentIntent
  if processedIntent.status ≠ .completed then
    throw (.api (unpaidError processedIntent))
  else
    pure { orderId := order.id, paymentIntentId := processedIntent.id
           total := processedIntent.totalAmount }

def submitPosOrder (net : Network) (payload : PendingPosOrder) : Api Submitted := do
  let cart ← request
    (.createCart payload.storeId payload.deviceId .pos payload.customerName payload.note)
    net.createCart
  let workingCartId ← addCartItems net payload cart.id
  let order ← request (.checkoutCart workingCartId payload.customerName payload.note)
    net.checkoutCart
  payOrder net payload order

/-- How a request ends, whatever its reply carries. -/
inductive Ending where
  | answered
  | refused
  | lost
  deriving DecidableEq

/-- Nothing is sent after the first request that is not answered. -/
def Ending.andThen : Ending → Ending → Ending
  | .answered, later => later
  | stopped, _ => stopped

theorem Ending.andThen_assoc (e f g : Ending) :
    (e.andThen f).andThen g = e.andThen (f.andThen g) := by
  cases e <;> rfl

def Ending.through (endings : List Ending) : Ending := endings.foldr Ending.andThen .answered

def Reply.ending {α : Type} : Reply α → Ending
  | .ok _ => .answered
  | .refused .. => .refused
  | .lost .. => .lost

def endingOf {α : Type} : Except Failure α → Ending
  | .ok _ => .answered
  | .error (.api _) => .refused
  | .error (.network _) => .lost

def Network.opening (net : Network) (items : Nat) : Ending :=
  net.createCart.ending.andThen
    (.through ((List.range items).map fun turn => (net.addCartItem turn).ending))

/-- The intent as the last answer about it has it. -/
def Network.lastIntent (net : Network) (intent : PaymentIntentDto) : PaymentIntentDto :=
  match intent.allocations.length with
  | 0 => intent
  | n + 1 =>
    match net.processPaymentAllocation n with
    | .ok processed => processed
    | _ => intent

/-- The requests after the checkout; an intent that is not paid in the end counts as refused. -/
def Network.payment (net : Network) : Ending :=
  match net.createPaymentIntent with
  | .ok intent =>
    (Ending.through ((List.range intent.allocations.length).map fun turn =>
      (net.processPaymentAllocation turn).ending)).andThen
      (if (net.lastIntent intent).status = .completed then .answered else .refused)
  | .refused .. => .refused
  | .lost .. => .lost

def Network.fate (net : Network) (items : Nat) : Ending :=
  (net.opening items).andThen (net.checkoutCart.ending.andThen net.payment)

def Network.takesCheckout (net : Network) (items : Nat) : Bool :=
  net.opening items = .answered && net.checkoutCart.carriedOut

def reached (log : List Request) : Bool := log.any Request.isCheckout

theorem exec_request {α : Type} (r : Request) (reply : Reply α) (log : List Request) :
    exec (request r reply) log =
      (reply.result, if reply.carriedOut then log ++ [r] else log) := rfl

@[simp] theorem endingOf_result {α : Type} (reply : Reply α) : endingOf reply.result = reply.ending := by
  cases reply <;> rfl

theorem result_ok_iff {α : Type} {reply : Reply α} {body : α} :
    reply.result = .ok body ↔ reply = .ok body := by
  cases reply <;> simp [Reply.result]

@[simp] theorem reached_append (log : List Request) (r : Request) :
    reached (log ++ [r]) = (reached log || r.isCheckout) := by
  simp [reached]

theorem request_reached {α : Type} (r : Request) (reply : Reply α) (log : List Request) :
    reached (exec (request r reply) log).2 =
      (reached log || (reply.carriedOut && r.isCheckout)) := by
  rw [exec_request]
  cases reply.carriedOut <;> simp

section Sequence

variable {α β : Type} {x : Api α} {f : α → Api β} {log : List Request}

theorem bind_ending (e : Ending) (rest : ∀ a t, exec x log = (.ok a, t) →
    endingOf (exec (f a) t).1 = e) :
    endingOf (exec (x >>= f) log).1 = (endingOf (exec x log).1).andThen e := by
  rw [exec_bind]
  rcases first : exec x log with ⟨(_ | _) | a, t⟩
  · rfl
  · rfl
  · exact rest a t first

theorem bind_reached (taken : Bool) (rest : ∀ a t, exec x log = (.ok a, t) →
    reached (exec (f a) t).2 = (reached t || taken)) :
    reached (exec (x >>= f) log).2 =
      (reached (exec x log).2 || (endingOf (exec x log).1 = .answered && taken)) := by
  rw [exec_bind]
  rcases first : exec x log with ⟨(_ | _) | a, t⟩
  · simp [endingOf]
  · simp [endingOf]
  · simpa [endingOf] using rest a t first

theorem bind_unreached (rest : ∀ a t, exec x log = (.ok a, t) →
    reached (exec (f a) t).2 = reached t) :
    reached (exec (x >>= f) log).2 = reached (exec x log).2 := by
  rw [bind_reached false, Bool.and_false, Bool.or_false]
  intro a t first
  rw [rest a t first, Bool.or_false]

variable {body : β → α × Nat → Api β} {ending : Nat → Ending}

theorem loop_ending
    (turns : ∀ b a i log, endingOf (exec (body b (a, i)) log).1 = ending i)
    (xs : List α) (i : Nat) (b : β) (log : List Request) :
    endingOf (exec ((xs.zipIdx i).foldlM body b) log).1 =
      .through ((List.range' i xs.length).map ending) := by
  induction xs generalizing i b log with
  | nil => rfl
  | cons a xs ih =>
    rw [List.zipIdx_cons, List.foldlM_cons, bind_ending _ fun c t _ => ih (i + 1) c t, turns]
    rfl

theorem loop_reached
    (turns : ∀ b a i log, reached (exec (body b (a, i)) log).2 = reached log)
    (xs : List α) (i : Nat) (b : β) (log : List Request) :
    reached (exec ((xs.zipIdx i).foldlM body b) log).2 = reached log := by
  induction xs generalizing i b log with
  | nil => rfl
  | cons a xs ih =>
    rw [List.zipIdx_cons, List.foldlM_cons, bind_unreached fun c t _ => ih (i + 1) c t, turns]

theorem loop_last {reply : Nat → Reply β}
    (turns : ∀ b a i log c t, exec (body b (a, i)) log = (.ok c, t) → reply i = .ok c)
    {xs : List α} {b c : β} {t : List Request}
    (h : exec (xs.zipIdx.foldlM body b) log = (.ok c, t)) :
    match xs.length with
    | 0 => c = b
    | n + 1 => reply n = .ok c := by
  rcases List.eq_nil_or_concat xs with rfl | ⟨front, a, rfl⟩
  · exact (exec_pure_ok_iff.mp h).1.symm
  · rw [List.concat_eq_append, List.zipIdx_append, List.foldlM_append, exec_bind_ok_iff] at h
    obtain ⟨m, u, _, last⟩ := h
    have single : exec (body m (a, front.length)) u = (.ok c, t) := by
      simpa [List.zipIdx_cons] using last
    simpa using turns _ _ _ _ _ _ single

end Sequence

theorem addCartItems_ending (net : Network) (payload : PendingPosOrder) (cartId : Id)
    (log : List Request) : endingOf (exec (addCartItems net payload cartId) log).1 =
      .through ((List.range payload.items.length).map fun turn => (net.addCartItem turn).ending) := by
  rw [List.range_eq_range']
  apply loop_ending
  intro b item turn log
  rw [bind_ending .answered fun _ _ _ => rfl, exec_request, endingOf_result]
  cases (net.addCartItem turn).ending <;> rfl

theorem addCartItems_reached (net : Network) (payload : PendingPosOrder) (cartId : Id)
    (log : List Request) : reached (exec (addCartItems net payload cartId) log).2 = reached log := by
  apply loop_reached
  intro b item turn log
  show reached (exec (request (.addCartItem b item) (net.addCartItem turn) >>= fun updatedCart =>
    pure updatedCart.id) log).2 = _
  rw [bind_unreached fun _ _ _ => rfl, request_reached]
  simp [Request.isCheckout]

theorem processAllocations_ending (net : Network) (intent : PaymentIntentDto) (log : List Request) :
    endingOf (exec (processAllocations net intent) log).1 =
      .through ((List.range intent.allocations.length).map fun turn =>
        (net.processPaymentAllocation turn).ending) := by
  rw [List.range_eq_range']
  apply loop_ending
  intro b allocation turn log
  rw [exec_request, endingOf_result]

theorem processAllocations_reached (net : Network) (intent : PaymentIntentDto)
    (log : List Request) :
    reached (exec (processAllocations net intent) log).2 = reached log := by
  apply loop_reached
  intro b allocation turn log
  rw [request_reached]
  simp [Request.isCheckout]

theorem processAllocations_last {net : Network} {intent processed : PaymentIntentDto}
    {log t : List Request} (h : exec (processAllocations net intent) log = (.ok processed, t)) :
    processed = net.lastIntent intent := by
  have last := loop_last (fun _ _ turn _ c _ sent =>
    (result_ok_iff.mp (Prod.mk.inj sent).1 : net.processPaymentAllocation turn = .ok c)) h
  unfold Network.lastIntent
  cases count : intent.allocations.length with
  | zero => simpa [count] using last
  | succ n =>
    rw [count] at last
    simp only [last]

theorem payOrder_ending (net : Network) (payload : PendingPosOrder) (order : CheckoutDto)
    (log : List Request) : endingOf (exec (payOrder net payload order) log).1 = net.payment := by
  unfold payOrder Network.payment
  cases made : net.createPaymentIntent with
  | ok intent =>
    show endingOf (exec (processAllocations net intent >>= _) _).1 = _
    rw [bind_ending, processAllocations_ending]
    intro processed t done
    rw [processAllocations_last done]
    by_cases paid : (net.lastIntent intent).status = .completed
    · simp only [paid, ne_eq, not_true_eq_false, ↓reduceIte]
      rfl
    · simp only [paid, ne_eq, not_false_eq_true, ↓reduceIte]
      rfl
  | refused => rfl
  | lost => rfl

theorem payOrder_reached (net : Network) (payload : PendingPosOrder) (order : CheckoutDto)
    (log : List Request) : reached (exec (payOrder net payload order) log).2 = reached log := by
  unfold payOrder
  rw [bind_unreached, request_reached]
  · simp [Request.isCheckout]
  · intro intent t _
    rw [bind_unreached, processAllocations_reached]
    intro processed u _
    split
    · rfl
    · rfl

theorem submitPosOrder_ending (net : Network) (payload : PendingPosOrder) (log : List Request) :
    endingOf (exec (submitPosOrder net payload) log).1 = net.fate payload.items.length := by
  have checkedOut : ∀ cartId t, endingOf (exec (do
      let order ← request (.checkoutCart cartId payload.customerName payload.note) net.checkoutCart
      payOrder net payload order : Api Submitted) t).1 =
      net.checkoutCart.ending.andThen net.payment := by
    intro cartId t
    rw [bind_ending _ fun order u _ => payOrder_ending net payload order u, exec_request,
      endingOf_result]
  unfold submitPosOrder Network.fate Network.opening
  rw [bind_ending, exec_request, endingOf_result, Ending.andThen_assoc]
  intro cart t _
  rw [bind_ending _ fun cartId u _ => checkedOut cartId u, addCartItems_ending]

theorem submitPosOrder_reached (net : Network) (payload : PendingPosOrder) (log : List Request) :
    reached (exec (submitPosOrder net payload) log).2 =
      (reached log || net.takesCheckout payload.items.length) := by
  have checkedOut : ∀ cartId t, reached (exec (do
      let order ← request (.checkoutCart cartId payload.customerName payload.note) net.checkoutCart
      payOrder net payload order : Api Submitted) t).2 =
      (reached t || net.checkoutCart.carriedOut) := by
    intro cartId t
    rw [bind_unreached fun order u _ => payOrder_reached net payload order u, request_reached]
    simp [Request.isCheckout]
  have filled : ∀ (cart : CartDto) t, reached (exec (do
      let workingCartId ← addCartItems net payload cart.id
      let order ← request (.checkoutCart workingCartId payload.customerName payload.note)
        net.checkoutCart
      payOrder net payload order : Api Submitted) t).2 =
      (reached t || (Ending.through ((List.range payload.items.length).map fun turn =>
        (net.addCartItem turn).ending) = .answered && net.checkoutCart.carriedOut)) := by
    intro cart t
    rw [bind_reached _ fun cartId u _ => checkedOut cartId u, addCartItems_reached,
      addCartItems_ending]
  unfold submitPosOrder Network.takesCheckout Network.opening
  rw [bind_reached _ fun cart t _ => filled cart t, request_reached, exec_request, endingOf_result]
  rw [show Request.isCheckout (.createCart _ _ _ _ _) = false from rfl, Bool.and_false,
    Bool.or_false]
  cases net.createCart.ending with
  | answered => rfl
  | refused => rfl
  | lost => rfl

end Exetron.Mobile
