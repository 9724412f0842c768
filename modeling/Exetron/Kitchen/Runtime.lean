import Exetron.Types

/-!
# Kitchen runtime

`kitchen-runtime.util.ts`: station routing, the statuses a ticket may move between and the board's
view of an order.
-/

namespace Exetron.Kitchen

def ticketTransitionMap : KitchenTicketStatus → List KitchenTicketStatus
  | .new => [.inProgress, .cancelled]
  | .inProgress => [.ready, .cancelled]
  | .ready => [.completed]
  | .completed => []
  | .cancelled => []

def canTransitionKitchenTicket (fromStatus toStatus : KitchenTicketStatus) : Bool :=
  toStatus ∈ ticketTransitionMap fromStatus

structure KitchenRoutingConfig where
  defaultStationKey : String
  (productCodeMap categoryCodeMap : List (String × String))

/-- `replace(/[^A-Z0-9]+/g, "_")`: `inRun` says that the last character read was replaced. -/
def replaceRuns (inRun : Bool) : List Char → List Char
  | [] => []
  | c :: rest =>
    if ('A' ≤ c ∧ c ≤ 'Z') ∨ ('0' ≤ c ∧ c ≤ '9') then c :: replaceRuns false rest
    else if inRun then replaceRuns true rest
    else '_' :: replaceRuns true rest

def normalizeStationKey (value : Option String) : String :=
  let replaced := replaceRuns false (Text.toUpperCase (Text.trim (value.getD ""))).toList
  let stripped := ((replaced.dropWhile (· = '_')).reverse.dropWhile (· = '_')).reverse
  Text.orElse (String.ofList stripped) "KITCHEN"

def normalizeRecord (input : Option Json) : List (String × String) :=
  match input with
  | some (.obj entries) => entries.filterMap fun (key, value) =>
      match value with
      | .str s =>
        if Text.isFilled (some s) then
          some (Text.toLowerCase (Text.trim key), normalizeStationKey (some s))
        else none
      | _ => none
  | _ => []

def resolveKitchenRoutingConfig (value : Option Json) : KitchenRoutingConfig :=
  let field key := value.bind (Json.get? key)
  { defaultStationKey :=
      normalizeStationKey (some (((field "defaultStationKey").bind Json.asString?).getD "KITCHEN"))
    productCodeMap := normalizeRecord (field "productCodeMap")
    categoryCodeMap := normalizeRecord (field "categoryCodeMap") }

/-- What a lookup finds: a station that was configured, or what every object has under the name. -/
inductive StationKey where
  | text (key : String)
  | inherited (name : String)
  deriving DecidableEq

def inheritedNames : List String := ["constructor", "__proto__"]

/-- `map[code]` on an object built from entries: the last entry of a key counts. -/
def lookupCode (code : String) (entries : List (String × String)) : Option StationKey :=
  match entries.reverse.find? fun entry => entry.1 = code with
  | some entry => some (.text entry.2)
  | none => if code ∈ inheritedNames then some (.inherited code) else none

def resolveKitchenStationKey (config : KitchenRoutingConfig) (productCode : String)
    (categoryCode : Option String) : StationKey :=
  let productCode := Text.toLowerCase (Text.trim productCode)
  let categoryCode := categoryCode.map fun code => Text.toLowerCase (Text.trim code)
  ((lookupCode productCode config.productCodeMap).or
    (categoryCode.bind fun code =>
      if code = "" then none else lookupCode code config.categoryCodeMap)).getD
    (.text config.defaultStationKey)

inductive KitchenBoardStatus where
  | new
  | inProgress
  | ready
  | completed
  | cancelled
  deriving DecidableEq

def deriveBoardStatus (orderStatus : OrderStatus) (ticketStatuses : List KitchenTicketStatus) :
    KitchenBoardStatus :=
  if orderStatus = .cancelled then .cancelled
  else if ticketStatuses = [] then
    if orderStatus = .completed then .completed else .new
  else if ∀ s ∈ ticketStatuses, s = .completed then .completed
  else if ∀ s ∈ ticketStatuses, s = .cancelled then .cancelled
  else if ∀ s ∈ ticketStatuses, s = .ready ∨ s = .completed then .ready
  else if ∃ s ∈ ticketStatuses, s = .inProgress then .inProgress
  else .new

theorem inProgress_or_cancelled_of_new {status : KitchenTicketStatus}
    (h : canTransitionKitchenTicket .new status = true) :
    status = .inProgress ∨ status = .cancelled := by
  simpa [canTransitionKitchenTicket, ticketTransitionMap] using h

theorem not_canTransition_cancelled (status : KitchenTicketStatus) :
    canTransitionKitchenTicket .cancelled status = false := rfl

end Exetron.Kitchen
