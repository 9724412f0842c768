import Exetron.Database

/-!
# Availability

`availability.util.ts`: whether an entry of the catalogue is on sale at a moment of the week.
-/

namespace Exetron.Pricing

/-- A moment of the week in a store's time zone. -/
structure Slot where
  weekday : Int
  minuteOfDay : Nat

def parseClockTime (value : String) : Except ApiException Nat :=
  match value.toList with
  | [h, h', ':', m, m'] =>
    if (h ∈ ['0', '1'] ∧ h'.isDigit ∨ h = '2' ∧ h' ∈ ['0', '1', '2', '3']) ∧
        m ∈ ['0', '1', '2', '3', '4', '5'] ∧ m'.isDigit then
      .ok (Nat.ofDigitChars 10 [h, h'] 0 * 60 + Nat.ofDigitChars 10 [m, m'] 0)
    else .error (.internalServerError ("Invalid clock value: " ++ value))
  | _ => .error (.internalServerError ("Invalid clock value: " ++ value))

def isWithinWindow (window : AvailabilityWindow) (current : Slot) : Except ApiException Bool := do
  let first ← parseClockTime window.startTime
  let last ← parseClockTime window.endTime
  if first = last then pure (window.weekday = current.weekday)
  else if first < last then
    pure (window.weekday = current.weekday ∧ first ≤ current.minuteOfDay ∧
      current.minuteOfDay < last)
  else
    pure (window.weekday = current.weekday ∧ first ≤ current.minuteOfDay ∨
      (window.weekday + 1).tmod 7 = current.weekday ∧ current.minuteOfDay < last)

/-- `windows.some(...)` -/
def isWithinSomeWindow (current : Slot) : List AvailabilityWindow → Except ApiException Bool
  | [] => .ok false
  | window :: windows => do
    let within ← isWithinWindow window current
    if within then pure true else isWithinSomeWindow current windows

def isWithinAvailabilityWindows (windows : List AvailabilityWindow) (current : Slot) :
    Except ApiException Bool :=
  if windows = [] then .ok true else isWithinSomeWindow current windows

def isCatalogEntryAvailable (status : ProductStatus) (isVisible isAvailable isOutOfStock : Bool)
    (windows : List AvailabilityWindow) (current : Slot) : Except ApiException Bool :=
  if status ≠ .active then .ok false
  else if !isVisible || !isAvailable || isOutOfStock then .ok false
  else isWithinAvailabilityWindows windows current

end Exetron.Pricing
