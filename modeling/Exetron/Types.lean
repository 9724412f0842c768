import Exetron.Js
import Mathlib.Algebra.Ring.Int.Defs

/-!
# Vocabulary

The enumerations the services share, identifiers and amounts, the request context and the
exceptions a call may end with.
-/

namespace Exetron

/-- A primary key. New keys come from a supply, as `randomUUID` gives keys never used before. -/
abbrev Id := Nat

abbrev Instant := Nat

/-- An amount of money in cents: the columns are `Decimal(12, 2)` and the requests' amounts
have at most two decimals. -/
abbrev Money := Int

abbrev Quantity := Int

inductive AppScope where
  | platformAdmin
  | tenantMember
  | device
  deriving DecidableEq

inductive OrderChannel where
  | admin
  | pos
  | kiosk
  | delivery
  deriving DecidableEq

/-- The text of the column. -/
def OrderChannel.text : OrderChannel → String
  | .admin => "ADMIN"
  | .pos => "POS"
  | .kiosk => "KIOSK"
  | .delivery => "DELIVERY"

inductive CartStatus where
  | open
  | converted
  deriving DecidableEq

inductive OrderStatus where
  | placed
  | confirmed
  | inPreparation
  | ready
  | completed
  | cancelled
  deriving DecidableEq

def OrderStatus.text : OrderStatus → String
  | .placed => "PLACED"
  | .confirmed => "CONFIRMED"
  | .inPreparation => "IN_PREPARATION"
  | .ready => "READY"
  | .completed => "COMPLETED"
  | .cancelled => "CANCELLED"

inductive RefundStatus where
  | none
  | notRequired
  | pendingManual
  deriving DecidableEq

inductive KitchenTicketStatus where
  | new
  | inProgress
  | ready
  | completed
  | cancelled
  deriving DecidableEq

def KitchenTicketStatus.text : KitchenTicketStatus → String
  | .new => "NEW"
  | .inProgress => "IN_PROGRESS"
  | .ready => "READY"
  | .completed => "COMPLETED"
  | .cancelled => "CANCELLED"

inductive ReservationStatus where
  | active
  | released
  | consumed
  deriving DecidableEq

inductive PosSessionStatus where
  | active
  | ended
  deriving DecidableEq

inductive StoreStatus where
  | active
  | inactive
  | archived
  deriving DecidableEq

inductive DeviceType where
  | pos
  | kiosk
  | kitchen
  | board
  | backoffice
  deriving DecidableEq

inductive DeviceStatus where
  | pending
  | active
  | suspended
  | retired
  deriving DecidableEq

inductive CustomerProfileStatus where
  | active
  | merged
  | archived
  deriving DecidableEq

inductive LoyaltyLedgerEntryKind where
  | earn
  | redeem
  | adjust
  deriving DecidableEq

inductive PaymentMethodKind where
  | cash
  | card
  | qr
  deriving DecidableEq

def PaymentMethodKind.text : PaymentMethodKind → String
  | .cash => "CASH"
  | .card => "CARD"
  | .qr => "QR"

inductive PaymentProviderType where
  | cashManual
  | cardSimulated
  | qrSimulated
  deriving DecidableEq

inductive PaymentIntentStatus where
  | pending
  | partiallyPaid
  | completed
  | failed
  | cancelled
  deriving DecidableEq

def PaymentIntentStatus.text : PaymentIntentStatus → String
  | .pending => "PENDING"
  | .partiallyPaid => "PARTIALLY_PAID"
  | .completed => "COMPLETED"
  | .failed => "FAILED"
  | .cancelled => "CANCELLED"

inductive PaymentAllocationStatus where
  | pending
  | completed
  | failed
  | cancelled
  deriving DecidableEq

inductive PaymentAttemptStatus where
  | pending
  | succeeded
  | failed
  | cancelled
  deriving DecidableEq

inductive PaymentOperationKind where
  | refund
  | void
  deriving DecidableEq

def PaymentOperationKind.text : PaymentOperationKind → String
  | .refund => "REFUND"
  | .void => "VOID"

/-- The column is a plain text: creation writes `SUCCEEDED`, a webhook `COMPLETED`. -/
inductive PaymentOperationStatus where
  | pending
  | succeeded
  | completed
  | failed
  | cancelled
  deriving DecidableEq

inductive PaymentWebhookStatus where
  | received
  | processed
  | failed
  deriving DecidableEq

inductive CatalogTargetType where
  | product
  | variant
  | modifierOption
  deriving DecidableEq

inductive AvailabilityTargetType where
  | product
  | variant
  deriving DecidableEq

inductive ProductStatus where
  | active
  | inactive
  | archived
  deriving DecidableEq

/-- The status of a category, a modifier group or a modifier option. -/
inductive CatalogStatus where
  | active
  | archived
  deriving DecidableEq

inductive ModifierSelectionMode where
  | single
  | multiple
  deriving DecidableEq

/-- Where a base price comes from. -/
inductive PriceSource where
  | storeOverride
  | priceList
  | variantBase
  | productBase
  | none
  deriving DecidableEq

def PriceSource.text : PriceSource → String
  | .storeOverride => "store_override"
  | .priceList => "price_list"
  | .variantBase => "variant_base"
  | .productBase => "product_base"
  | .none => "none"

inductive PromotionStatus where
  | active
  | paused
  | archived
  deriving DecidableEq

inductive PromotionType where
  | percentage
  | fixedAmount
  | loyaltyRedeem
  deriving DecidableEq

def PromotionType.text : PromotionType → String
  | .percentage => "PERCENTAGE"
  | .fixedAmount => "FIXED_AMOUNT"
  | .loyaltyRedeem => "LOYALTY_REDEEM"

inductive FulfillmentMode where
  | delivery
  | pickup
  | dineIn
  deriving DecidableEq

def FulfillmentMode.text : FulfillmentMode → String
  | .delivery => "DELIVERY"
  | .pickup => "PICKUP"
  | .dineIn => "DINE_IN"

/-- Who makes a request, and what it may touch. -/
structure RequestContext where
  userId : String
  tenantId : Option Id
  scope : AppScope
  storeIds : List Id
  deviceId : Option Id
  deriving DecidableEq

inductive ApiException where
  | badRequest (message : String)
  | unauthorized (message : String)
  | forbidden (message : String)
  | notFound (message : String)
  | internalServerError (message : String)
  /-- `findUniqueOrThrow`, `findFirstOrThrow` and `update` without a row. -/
  | recordNotFound (model : String)
  | uniqueConstraint (model : String)
  /-- A value the language or the database client refuses. -/
  | typeError
  deriving DecidableEq

/-- `if (bad) throw e`. -/
def rejectIf (bad : Prop) [Decidable bad] (e : ApiException) : Except ApiException Unit :=
  if bad then .error e else .ok ()

@[simp] theorem rejectIf_ok_iff {bad : Prop} [Decidable bad] {e : ApiException} {u : Unit} :
    rejectIf bad e = .ok u ↔ ¬bad := by
  unfold rejectIf
  split <;> simp_all

/-- `const x = value; if (!x) throw e`. -/
def required {α : Type} (value : Option α) (e : ApiException) : Except ApiException α :=
  match value with
  | some a => .ok a
  | none => .error e

@[simp] theorem required_ok_iff {α : Type} {value : Option α} {e : ApiException} {a : α} :
    required value e = .ok a ↔ value = some a := by
  cases value <;> simp [required]

theorem eq_ok_get {ε α : Type} {x : Except ε α} (h : x.toOption.isSome = true) :
    x = .ok (x.toOption.get h) := by
  cases x with
  | ok a => rfl
  | error e => cases h

theorem except_bind_ok_iff {α β : Type} {x : Except ApiException α} {f : α → Except ApiException β}
    {b : β} : (x >>= f) = .ok b ↔ ∃ a, x = .ok a ∧ f a = .ok b := by
  cases x <;> simp [bind, Except.bind]

theorem except_pure_ok_iff {α : Type} {a b : α} :
    (pure a : Except ApiException α) = .ok b ↔ a = b := by
  simp [pure, Except.pure]

theorem except_forM_ok {α : Type} {f : α → Except ApiException PUnit} {xs : List α} {u : PUnit}
    (h : xs.forM f = .ok u) : ∀ x ∈ xs, f x = .ok () := by
  induction xs with
  | nil => exact fun x listed => absurd listed List.not_mem_nil
  | cons x xs ih =>
    obtain ⟨_, first, rest⟩ := except_bind_ok_iff.mp h
    intro y listed
    rcases List.mem_cons.mp listed with rfl | later
    · exact first
    · exact ih rest y later

theorem toOption_eq_some_iff {ε α : Type} {x : Except ε α} {a : α} :
    x.toOption = some a ↔ x = .ok a := by
  cases x with
  | error e => simp [Except.toOption]
  | ok b => simp [Except.toOption]

theorem toOption_map_eq_some {α β : Type} {x : Except ApiException α} {f : α → β} {b : β} :
    x.toOption.map f = some b ↔ ∃ a, x = .ok a ∧ f a = b := by
  cases x <;> simp [Except.toOption]

theorem exists_ok_of_toBool {α : Type} {x : Except ApiException α} (h : x.toBool = true) :
    ∃ a, x = .ok a := by
  cases x with
  | ok a => exact ⟨a, rfl⟩
  | error e => cases h

end Exetron
