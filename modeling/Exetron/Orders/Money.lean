import Exetron.Database

/-!
# Order money

`order-money.util.ts`: the totals of a line and of a cart. A line without a unit price counts
as free.
-/

namespace Exetron.Orders

structure CalculatedLineTotals where
  (modifierTotal lineTotal : Money)

structure CalculatedCartTotals where
  (subtotal modifierTotal discountTotal total : Money)

def calculateLineTotals (quantity : Int) (unitBasePrice : Option Money)
    (modifierPriceDeltas : List Money) : CalculatedLineTotals :=
  let modifierTotal := modifierPriceDeltas.sum * quantity
  { modifierTotal
    lineTotal := unitBasePrice.getD 0 * quantity + modifierTotal }

def calculateCartTotals (items : List CartItem) (fulfillmentFee discountTotal : Money) :
    CalculatedCartTotals :=
  let subtotal := (items.map fun item => item.unitBasePrice.getD 0 * item.quantity).sum
  let modifierTotal := (items.map fun item => item.modifierTotal).sum
  let discount := max 0 discountTotal
  let grossTotal := subtotal + modifierTotal + fulfillmentFee
  { subtotal
    modifierTotal
    discountTotal := min grossTotal discount
    total := max 0 (grossTotal - discount) }

end Exetron.Orders
