import Mathlib.Data.List.Sort
import Exetron.Database

/-!
# Customer runtime

`customer-runtime.util.ts`: phone numbers, the points an order earns, and the segments and the
retention state of a profile.
-/

namespace Exetron.Customers

def normalizeCustomerPhone (phone : String) : String :=
  let digits := String.ofList (phone.toList.filter fun c => '0' ≤ c ∧ c ≤ '9')
  if digits ≠ "" then "+" ++ digits else Text.trim phone

theorem digits_trim {phone : String}
    (none : String.ofList (phone.toList.filter fun c => '0' ≤ c ∧ c ≤ '9') = "") :
    String.ofList ((Text.trim phone).toList.filter fun c => '0' ≤ c ∧ c ≤ '9') = "" := by
  have absent := String.ofList_eq_empty_iff.mp none
  refine String.ofList_eq_empty_iff.mpr (List.sublist_nil.mp ?_)
  rw [← absent]
  exact (Text.trim_sublist phone).filter _

theorem normalizeCustomerPhone_idem (phone : String) :
    normalizeCustomerPhone (normalizeCustomerPhone phone) = normalizeCustomerPhone phone := by
  by_cases none : String.ofList (phone.toList.filter fun c => '0' ≤ c ∧ c ≤ '9') = ""
  · have blank : normalizeCustomerPhone phone = Text.trim phone := if_neg (not_not.mpr none)
    rw [blank, normalizeCustomerPhone]
    exact (if_neg (not_not.mpr (digits_trim none))).trans (Text.trim_trim phone)
  · have filled : normalizeCustomerPhone phone =
        "+" ++ String.ofList (phone.toList.filter fun c => '0' ≤ c ∧ c ≤ '9') := if_pos none
    have same : ("+" ++ String.ofList (phone.toList.filter fun c => '0' ≤ c ∧ c ≤ '9')).toList.filter
        (fun c => '0' ≤ c ∧ c ≤ '9') = phone.toList.filter fun c => '0' ≤ c ∧ c ≤ '9' := by
      simp only [String.toList_append, String.toList_ofList, List.filter_append, List.filter_filter,
        Bool.and_self]
      rfl
    rw [filled, normalizeCustomerPhone, same]
    exact if_pos none

/-- What the segments and the retention state are derived from. -/
structure CustomerActivity where
  (orderCount completedOrderCount : Nat)
  totalSpent : Money
  lastOrderAt : Option Instant
  pointsBalance : Int

def daysSinceLastOrder (now : Instant) (lastOrderAt : Option Instant) : Option Nat :=
  lastOrderAt.map fun lastOrderAt => (now - lastOrderAt) / (24 * 60 * 60 * 1000)

def isLapsed (now : Instant) (lastOrderAt : Option Instant) : Bool :=
  (daysSinceLastOrder now lastOrderAt).any (30 ≤ ·)

def deriveCustomerSegments (now : Instant) (input : CustomerActivity) : List String :=
  let add (segment : String) (member : Bool) : List String := if member then [segment] else []
  (add "NEW" (input.orderCount ≤ 1) ++ add "REPEAT" (2 ≤ input.orderCount) ++
    add "LOYAL" (3 ≤ input.completedOrderCount || 15000 ≤ input.totalSpent) ++
    add "VIP" (30000 ≤ input.totalSpent || 300 ≤ input.pointsBalance) ++
    add "AT_RISK" (isLapsed now input.lastOrderAt)).insertionSort (· ≤ ·)

def deriveRetentionState (now : Instant) (orderCount : Nat) (segments : List String)
    (lastOrderAt : Option Instant) : RetentionState :=
  if isLapsed now lastOrderAt then ⟨"WINBACK", "customer-winback-offer", now⟩
  else if orderCount ≤ 1 then ⟨"WELCOME", "customer-welcome-series", now⟩
  else
    { action := "NURTURE"
      templateKey :=
        if "VIP" ∈ segments then "customer-vip-reward" else "customer-repeat-nurture"
      recommendedAt := now }

def resolveEarnedLoyaltyPoints (orderTotal : Money) : Int := max 0 (orderTotal / 100)

end Exetron.Customers
