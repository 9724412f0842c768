import Exetron.Types

/-!
# Order lifecycle

`order-lifecycle.util.ts`: the statuses an order may move between.
-/

namespace Exetron.Orders

def transitionMap : OrderStatus → List OrderStatus
  | .placed => [.confirmed, .cancelled]
  | .confirmed => [.inPreparation, .cancelled]
  | .inPreparation => [.ready, .cancelled]
  | .ready => [.completed]
  | .completed => []
  | .cancelled => []

def canTransitionOrder (fromStatus toStatus : OrderStatus) : Bool :=
  toStatus ∈ transitionMap fromStatus

def resolveRefundStatusOnCancel (hasExternalPayment : Option Bool) : RefundStatus :=
  if hasExternalPayment.getD false then .pendingManual else .notRequired

theorem canTransitionOrder_placed (status : OrderStatus) :
    canTransitionOrder status .placed = false := by
  cases status <;> rfl

theorem placed_of_canTransition_confirmed {status : OrderStatus}
    (h : canTransitionOrder status .confirmed = true) : status = .placed := by
  cases status <;> first | rfl | exact absurd h (by decide)

end Exetron.Orders
