import Exetron.Inventory.PlannedStock
import Exetron.Lib.Binary64
import Mathlib.Algebra.BigOperators.Ring.List
import Mathlib.Algebra.Order.BigOperators.Group.List

/-!
# Advertised availability

How many units of a product `getAvailability` says a warehouse can give, and the reservation plan of
an order for them, both with the double precision of their numbers. The one divides the stock by the
bill of materials, the other multiplies and compares.
-/

namespace Exetron.Inventory.Doubles

open Lib Binary64
open List

/-- `toNumber` of a decimal column: the double nearest to it. -/
def toNumber (q : Quantity) : ℚ := Binary64.round ((q : ℚ) / 10000)

/-- `map.set(id, (map.get(id) ?? 0) + quantity)`. -/
def addTo (map : Record Id ℚ) (id : Id) (quantity : ℚ) : Record Id ℚ :=
  map.set id (add ((map.get id).getD 0) quantity)

structure IngredientAvailability where
  ingredientId : Id
  ingredientCode : String
  (requiredQuantity onHand reserved available : ℚ)

structure InventoryAvailabilityDto where
  productId : Id
  variantId : Option Id
  warehouseId : Id
  ingredientBreakdown : List IngredientAvailability
  availableUnits : ℚ

def bomRows (setup : Setup) (tenantId : Option Id) (productId : Id) : List RecipeBom :=
  (setup.recipeBoms.filter fun row =>
    tenantId.all (row.tenantId = ·) ∧ row.productId = productId).reverse

def rowsInEffect (allRows : List RecipeBom) (variantId : Option Id) : List RecipeBom :=
  let fallbackRows := allRows.filter fun row => row.variantId = variantId
  if fallbackRows = [] then allRows.filter fun row => row.variantId = none else fallbackRows

def breakdown (db : Db) (codeOf : Id → Option String) (warehouseId : Id) (entry : Id × ℚ) :
    IngredientAvailability :=
  let item := findItem db warehouseId entry.1
  let onHand := (item.map fun item => toNumber item.onHand).getD 0
  let reserved := (item.map fun item => toNumber item.reserved).getD 0
  { ingredientId := entry.1
    ingredientCode := (codeOf entry.1).getD (toString entry.1)
    requiredQuantity := entry.2
    onHand
    reserved
    available := sub onHand reserved }

def getAvailability (db : Db) (codeOf : Id → Option String) (tenantId : Option Id)
    (productId : Id) (variantId : Option Id) (warehouseId : Id) : InventoryAvailabilityDto :=
  let effectiveRows := rowsInEffect (bomRows db.setup tenantId productId) variantId
  let grouped := effectiveRows.foldl
    (fun map row => addTo map row.ingredientId (toNumber row.quantity)) []
  let ingredientBreakdown := grouped.map (breakdown db codeOf warehouseId)
  let availableUnits : Extended := ingredientBreakdown.foldl
    (fun units entry => units.min (.floor (.quotient entry.available entry.requiredQuantity)))
    (if grouped = [] then .finite 0 else .posInfinity)
  { productId, variantId, warehouseId, ingredientBreakdown
    availableUnits := availableUnits.finiteOr0 }

structure PlanEntry where
  (warehouseId ingredientId : Id)
  quantity : ℚ

def ingredientTotals (setup : Setup) (tenantId : Id) (lines : List PlanLine) : Record Id ℚ :=
  lines.foldl (fun totals line =>
    (effectiveRows setup tenantId line).foldl (fun totals row =>
      let requiredQuantity := mul (toNumber row.quantity) line.quantity
      if requiredQuantity ≤ 0 then totals
      else addTo totals row.ingredientId requiredQuantity) totals) []

def stopThreshold (setup : Setup) (tenantId storeId warehouseId ingredientId : Id) : ℚ :=
  let stopRules := setup.stopListRules.filter fun rule =>
    rule.tenantId = tenantId ∧ rule.isActive ∧ rule.ruleType = "LOW_STOCK"
  stopRules.foldl (fun highest rule =>
    if rule.storeId.all (· = storeId) && rule.warehouseId.all (· = warehouseId) &&
        rule.ingredientId.all (· = ingredientId) then max highest (toNumber rule.threshold)
    else highest) 0

def available (db : Db) (warehouseId ingredientId : Id) : ℚ :=
  let item := findItem db warehouseId ingredientId
  sub ((item.map fun item => toNumber item.onHand).getD 0)
    ((item.map fun item => toNumber item.reserved).getD 0)

def buildReservationPlanTx (tenantId storeId : Id) (lines : List PlanLine) (db : Db) :
    Except ApiException (List PlanEntry) :=
  if lines = [] then .ok []
  else match selectWarehouse db.setup tenantId storeId with
    | none => .ok []
    | some warehouse =>
      (ingredientTotals db.setup tenantId lines).mapM fun (ingredientId, quantity) => do
        let available := available db warehouse.id ingredientId
        rejectIf
          (available < quantity ∨
            available ≤ stopThreshold db.setup tenantId storeId warehouse.id ingredientId)
          (.badRequest "Order cannot be placed because stock is unavailable.")
        pure ⟨warehouse.id, ingredientId, quantity⟩

def Advertises (db : Db) (codeOf : Id → Option String) (tenantId storeId productId : Id)
    (variantId : Option Id) (warehouseId : Id) (n : ℕ) : Prop :=
  (n : ℚ) ≤ (getAvailability db codeOf (some tenantId) productId variantId
      warehouseId).availableUnits ↔
    ∃ plan, buildReservationPlanTx tenantId storeId [⟨productId, variantId, n⟩] db = .ok plan

def sumOf (amounts : List (Id × ℚ)) (i : Id) : ℚ :=
  ((amounts.filter fun r => r.1 = i).map Prod.snd).foldl add 0

def tally (amounts : List (Id × ℚ)) : Record Id ℚ :=
  amounts.foldl (fun map r => addTo map r.1 r.2) []

theorem sumOf_append (amounts : List (Id × ℚ)) (r : Id × ℚ) (i : Id) : sumOf (amounts ++ [r]) i =
      if r.1 = i then add (sumOf amounts i) r.2 else sumOf amounts i := by
  by_cases same : r.1 = i <;> simp [sumOf, filter_append, same]

theorem sumOf_absent {amounts : List (Id × ℚ)} {i : Id} (absent : i ∉ amounts.map Prod.fst) :
    sumOf amounts i = 0 := by
  have none : amounts.filter (fun r => r.1 = i) = [] :=
    filter_eq_nil_iff.mpr fun r listed same =>
      absent (mem_map.mpr ⟨r, listed, of_decide_eq_true same⟩)
  rw [sumOf, none]
  rfl

theorem get_tally (amounts : List (Id × ℚ)) (i : Id) : (tally amounts).get i =
    if i ∈ amounts.map Prod.fst then some (sumOf amounts i) else none := by
  induction amounts using reverseRecOn generalizing i with
  | nil => simp [tally]
  | append_singleton amounts r ih =>
    have stored : ((tally amounts).get r.1).getD 0 = sumOf amounts r.1 := by
      rw [ih]
      split
      · rfl
      · rename_i absent
        exact (sumOf_absent absent).symm
    have put : tally (amounts ++ [r]) = addTo (tally amounts) r.1 r.2 := by
      rw [tally, foldl_append]
      rfl
    rw [put, addTo, Record.get_set, stored, sumOf_append]
    by_cases same : r.1 = i
    · subst same
      simp
    · have member : i ∈ (amounts ++ [r]).map Prod.fst ↔ i ∈ amounts.map Prod.fst := by
        simp [Ne.symm same]
      rw [if_neg same, ih, if_neg same]
      simp only [member]

theorem nodup_tally (amounts : List (Id × ℚ)) : ((tally amounts).map Prod.fst).Nodup := by
  refine foldlRecOn (motive := fun map : Record Id ℚ => (map.map Prod.fst).Nodup) amounts _
    nodup_nil fun map distinct r _ => ?_
  exact Record.nodup_keys_set distinct r.1 _

theorem forall_tally {P : Id × ℚ → Prop} (amounts : List (Id × ℚ)) :
    (∀ e ∈ tally amounts, P e) ↔ ∀ r ∈ amounts, P (r.1, sumOf amounts r.1) := by
  constructor
  · intro all r listed
    refine all _ ((Record.mem_iff_get (nodup_tally amounts)).mpr ?_)
    rw [get_tally, if_pos (mem_map_of_mem listed)]
  · rintro all ⟨i, q⟩ listed
    have read := (Record.mem_iff_get (nodup_tally amounts)).mp listed
    rw [get_tally] at read
    split at read
    · rename_i present
      obtain ⟨r, member, rfl⟩ := mem_map.mp present
      obtain rfl := Option.some.inj read
      exact all r member
    · cases read

def bomTotal (rows : List RecipeBom) (i : Id) : Quantity :=
  ((rows.filter fun row => row.ingredientId = i).map RecipeBom.quantity).sum

/-- What a unit takes of an ingredient, as `getAvailability` adds it up: the latest row first. -/
def takenOf (rows : List RecipeBom) (i : Id) : ℚ :=
  sumOf (rows.reverse.map fun row => (row.ingredientId, toNumber row.quantity)) i

/-- What `n` units require of each ingredient, as the plan takes it. -/
def products (rows : List RecipeBom) (n : ℕ) : List (Id × ℚ) :=
  (rows.map fun row => (row.ingredientId, mul (toNumber row.quantity) n)).filter fun r => 0 < r.2

section
variable {rows : List RecipeBom} {n : ℕ} {i : Id}

theorem bomTotal_cons (row : RecipeBom) (rows : List RecipeBom) (i : Id) :
    bomTotal (row :: rows) i = (if row.ingredientId = i then row.quantity else 0) +
      bomTotal rows i := by
  by_cases same : row.ingredientId = i <;> simp [bomTotal, same]

theorem bomTotal_nonneg (nonneg : ∀ row ∈ rows, 0 ≤ row.quantity) (i : Id) :
    0 ≤ bomTotal rows i := by
  refine sum_nonneg fun q listed => ?_
  obtain ⟨row, member, rfl⟩ := mem_map.mp listed
  exact nonneg row (mem_of_mem_filter member)

theorem quantity_le_bomTotal (nonneg : ∀ row ∈ rows, 0 ≤ row.quantity) {row : RecipeBom}
    (listed : row ∈ rows) : row.quantity ≤ bomTotal rows row.ingredientId := by
  have member : row.quantity ∈
      (rows.filter fun other => other.ingredientId = row.ingredientId).map RecipeBom.quantity :=
    mem_map_of_mem (mem_filter.mpr ⟨listed, decide_eq_true rfl⟩)
  refine single_le_sum (fun q listed => ?_) _ member
  obtain ⟨other, member, rfl⟩ := mem_map.mp listed
  exact nonneg other (mem_of_mem_filter member)

theorem bomTotal_pos_iff (nonneg : ∀ row ∈ rows, 0 ≤ row.quantity) :
    0 < bomTotal rows i ↔ ∃ row ∈ rows, row.ingredientId = i ∧ 0 < row.quantity := by
  constructor
  · intro taken
    by_contra none
    push Not at none
    have zero : bomTotal rows i = 0 := by
      refine sum_eq_zero fun q listed => ?_
      obtain ⟨row, member, rfl⟩ := mem_map.mp listed
      obtain ⟨listed, same⟩ := mem_filter.mp member
      exact le_antisymm (none row listed (of_decide_eq_true same)) (nonneg row listed)
    exact absurd taken (by rw [zero]; exact lt_irrefl 0)
  · rintro ⟨row, listed, rfl, positive⟩
    exact lt_of_lt_of_le positive (quantity_le_bomTotal nonneg listed)

theorem takenOf_eq : takenOf rows i =
    ((rows.filter fun row => row.ingredientId = i).reverse.map
      fun row => toNumber row.quantity).foldl add 0 := by
  rw [takenOf, sumOf, filter_map, map_map, ← filter_reverse]
  rfl

theorem mul_toNumber_pos (some_ : 0 < n) (q : Quantity) : 0 < mul (toNumber q) n ↔ 0 < q := by
  have count : (0 : ℚ) < n := by exact_mod_cast some_
  rw [mul, round_pos_iff, mul_pos_iff_of_pos_right count, toNumber, round_pos_iff,
    div_pos_iff_of_pos_right (by norm_num)]
  exact_mod_cast Iff.rfl

theorem sumOf_products (some_ : 0 < n) : sumOf (products rows n) i =
    ((rows.filter fun row => row.ingredientId = i ∧ 0 < row.quantity).map
      fun row => mul (toNumber row.quantity) n).foldl add 0 := by
  rw [sumOf, products, filter_filter, filter_map, map_map]
  congr 2
  refine filter_congr fun row _ => ?_
  simp [mul_toNumber_pos some_]

theorem sum_quantities (rows : List RecipeBom) :
    (rows.map fun row => (row.quantity : ℚ) / 10000).sum =
      (((rows.map RecipeBom.quantity).sum : Quantity) : ℚ) / 10000 := by
  induction rows with
  | nil => simp
  | cons row rows ih =>
    simp only [map_cons, sum_cons, ih]
    push_cast
    ring

theorem within_taken (nonneg : ∀ row ∈ rows, 0 ≤ row.quantity) :
    Within (rows.length + 1) (takenOf rows i) ((bomTotal rows i : ℚ) / 10000) := by
  have near : ∀ row ∈ (rows.filter fun row => row.ingredientId = i).reverse,
      0 ≤ (row.quantity : ℚ) / 10000 ∧
        Within 1 (toNumber row.quantity) ((row.quantity : ℚ) / 10000) := by
    intro row listed
    have least : (0 : ℚ) ≤ row.quantity := by
      exact_mod_cast nonneg row (mem_of_mem_filter (mem_reverse.mp listed))
    have some_ : 0 ≤ (row.quantity : ℚ) / 10000 := div_nonneg least (by norm_num)
    exact ⟨some_, (Within.exact_ _).round some_⟩
  obtain ⟨positive, total⟩ := Within.sum near
  have sum : ((rows.filter fun row => row.ingredientId = i).reverse.map
      RecipeBom.quantity).sum = bomTotal rows i := by
    rw [map_reverse, sum_reverse]
    rfl
  rw [sum_quantities, sum] at positive total
  rw [takenOf_eq]
  refine total.mono positive ?_
  have part := length_filter_le (fun row : RecipeBom => row.ingredientId = i) rows
  rw [length_reverse]
  omega

theorem bomTotal_positive (nonneg : ∀ row ∈ rows, 0 ≤ row.quantity) :
    ((rows.filter fun row => row.ingredientId = i ∧ 0 < row.quantity).map
      RecipeBom.quantity).sum = bomTotal rows i := by
  induction rows with
  | nil => rfl
  | cons row rows ih =>
    have rest := ih fun other listed => nonneg other (mem_cons_of_mem _ listed)
    have least := nonneg row mem_cons_self
    rw [bomTotal_cons, ← rest, filter_cons]
    by_cases same : row.ingredientId = i
    · by_cases positive : 0 < row.quantity
      · rw [if_pos (decide_eq_true ⟨same, positive⟩), if_pos same, map_cons, sum_cons]
      · have zero : row.quantity = 0 := le_antisymm (not_lt.mp positive) least
        rw [if_neg (by simp [positive]), if_pos same, zero, zero_add]
    · rw [if_neg (by simp [same]), if_neg same, zero_add]

theorem sum_products (rows : List RecipeBom) (n : ℕ) :
    (rows.map fun row => (row.quantity : ℚ) / 10000 * n).sum =
      n * ((((rows.map RecipeBom.quantity).sum : Quantity) : ℚ) / 10000) := by
  rw [sum_map_mul_right, sum_quantities, mul_comm]

theorem within_products (nonneg : ∀ row ∈ rows, 0 ≤ row.quantity) (some_ : 0 < n) :
    Within (rows.length + 2) (sumOf (products rows n) i) (n * ((bomTotal rows i : ℚ) / 10000)) := by
  have near : ∀ row ∈ rows.filter fun row => row.ingredientId = i ∧ 0 < row.quantity,
      0 ≤ (row.quantity : ℚ) / 10000 * n ∧
        Within 2 (mul (toNumber row.quantity) n) ((row.quantity : ℚ) / 10000 * n) := by
    intro row listed
    have least : (0 : ℚ) ≤ row.quantity := by
      exact_mod_cast nonneg row (mem_of_mem_filter listed)
    have some_ : 0 ≤ (row.quantity : ℚ) / 10000 := div_nonneg least (by norm_num)
    have count : (0 : ℚ) ≤ n := Nat.cast_nonneg n
    exact ⟨mul_nonneg some_ count,
      (((Within.exact_ _).round some_).mul_right count).round (mul_nonneg some_ count)⟩
  obtain ⟨positive, total⟩ := Within.sum near
  rw [sum_products, bomTotal_positive nonneg] at positive total
  rw [sumOf_products some_]
  refine total.mono positive ?_
  have part := length_filter_le
    (fun row : RecipeBom => row.ingredientId = i ∧ 0 < row.quantity) rows
  omega

end

/-- The stock covers an ingredient of `n` units. -/
def Covered (db : Db) (warehouseId : Id) (rows : List RecipeBom) (n : ℕ) (i : Id) : Prop :=
  (n : ℤ) * bomTotal rows i ≤ availableAt db (warehouseId, i)

/-- The stock is enough of an ingredient, as the quotients take it: an ingredient of which nothing
is taken must be there. -/
def Enough (db : Db) (warehouseId : Id) (rows : List RecipeBom) (n : ℕ) (i : Id) : Prop :=
  if 0 < bomTotal rows i then Covered db warehouseId rows n i
  else 0 < availableAt db (warehouseId, i)

/-- The quotient of an ingredient reaches `n`. -/
def Reaches (db : Db) (warehouseId : Id) (rows : List RecipeBom) (n : ℕ) (i : Id) : Prop :=
  Extended.AtLeast n (.quotient (available db warehouseId i) (takenOf rows i))

/-- The plan lets the ingredient of `n` units pass. -/
def Passes (db : Db) (warehouseId : Id) (rows : List RecipeBom) (n : ℕ) (i : Id) : Prop :=
  sumOf (products rows n) i ≤ available db warehouseId i ∧ 0 < available db warehouseId i

/-- No quantity, sum, product or difference of an ingredient is rounded: all are numbers of 53 bits
in units of `2 ^ k`. -/
structure Unrounded (k : ℤ) (db : Db) (warehouseId : Id) (rows : List RecipeBom) (n : ℕ)
    (i : Id) : Prop where
  units : ∀ row ∈ rows, row.ingredientId = i → ∃ m : ℤ, (row.quantity : ℚ) / 10000 = m * 2 ^ k
  total : (n : ℚ) * ((bomTotal rows i : ℚ) / 10000) < 2 ^ (53 + k)
  onHand : OnGrid k ((onHandAt db (warehouseId, i) : ℚ) / 10000)
  reserved : OnGrid k ((reservedAt db (warehouseId, i) : ℚ) / 10000)
  available : OnGrid k ((availableAt db (warehouseId, i) : ℚ) / 10000)
  count : n < 2 ^ 53

/-- The stock of an ingredient is not used up exactly, and its amounts are small enough for the
roundings to stay within a ten-thousandth. -/
structure Apart (db : Db) (warehouseId : Id) (rows : List RecipeBom) (n : ℕ) (i : Id) : Prop where
  apart : 0 < bomTotal rows i → (n : ℤ) * bomTotal rows i ≠ availableAt db (warehouseId, i)
  moderate : (rows.length + 3) * (n * bomTotal rows i + 1) +
    6 * (|onHandAt db (warehouseId, i)| + |reservedAt db (warehouseId, i)|) < 2 ^ 53

section
variable {k : ℤ} {db : Db} {warehouseId : Id} {rows : List RecipeBom} {n : ℕ} {i : Id}

theorem covered_iff :
    (n : ℚ) * ((bomTotal rows i : ℚ) / 10000) ≤ (availableAt db (warehouseId, i) : ℚ) / 10000 ↔
      Covered db warehouseId rows n i := by
  rw [← mul_div_assoc, div_le_div_iff_of_pos_right (by norm_num), Covered]
  exact_mod_cast Iff.rfl

theorem available_sub : available db warehouseId i =
    sub (toNumber (onHandAt db (warehouseId, i))) (toNumber (reservedAt db (warehouseId, i))) := by
  simp only [available, onHandAt, reservedAt]
  cases findItem db warehouseId i with
  | none => simp [toNumber, round_zero]
  | some item => rfl

theorem availableAt_div : (availableAt db (warehouseId, i) : ℚ) / 10000 =
    (onHandAt db (warehouseId, i) : ℚ) / 10000 - (reservedAt db (warehouseId, i) : ℚ) / 10000 := by
  rw [availableAt, ← sub_div]
  push_cast
  rfl

theorem taken_ne_zero (nonneg : ∀ row ∈ rows, 0 ≤ row.quantity) :
    takenOf rows i ≠ 0 ↔ 0 < bomTotal rows i := by
  have total := @within_taken rows i nonneg
  constructor
  · intro some_
    by_contra untaken
    have none : bomTotal rows i = 0 := le_antisymm (not_lt.mp untaken) (bomTotal_nonneg nonneg i)
    rw [none, Int.cast_zero, zero_div] at total
    exact some_ total.zero
  · intro taken
    exact (total.pos (div_pos (by exact_mod_cast taken) (by norm_num))).ne'

/-- Where nothing is taken of an ingredient, the quotient reaches any number when some of it is
there. -/
theorem reaches_untaken (nonneg : ∀ row ∈ rows, 0 ≤ row.quantity) (untaken : ¬0 < bomTotal rows i) :
    Reaches db warehouseId rows n i ↔ 0 < available db warehouseId i := by
  have zero : takenOf rows i = 0 := not_ne_iff.mp (mt (taken_ne_zero nonneg).mp untaken)
  rw [Reaches, Extended.quotient, zero, if_neg (not_not.mpr rfl)]
  by_cases some_ : 0 < available db warehouseId i
  · simp [some_, Extended.AtLeast]
  · rw [if_neg some_]
    split <;> simp [some_, Extended.AtLeast]

theorem reaches_taken (nonneg : ∀ row ∈ rows, 0 ≤ row.quantity) (taken : 0 < bomTotal rows i) :
    Reaches db warehouseId rows n i ↔
      (n : ℚ) ≤ div (available db warehouseId i) (takenOf rows i) := by
  rw [Reaches, Extended.quotient, if_pos ((taken_ne_zero nonneg).mpr taken)]
  rfl

/-- The doubles decide as the exact numbers. -/
structure Judged (db : Db) (warehouseId : Id) (rows : List RecipeBom) (n : ℕ) (i : Id) : Prop where
  reaches : Reaches db warehouseId rows n i ↔ Enough db warehouseId rows n i
  passes : 0 < bomTotal rows i → (Passes db warehouseId rows n i ↔ Covered db warehouseId rows n i)

theorem Judged.of_taken (nonneg : ∀ row ∈ rows, 0 ≤ row.quantity)
    (sign : 0 < available db warehouseId i ↔ 0 < availableAt db (warehouseId, i))
    (reaches : 0 < bomTotal rows i →
      ((n : ℚ) ≤ div (available db warehouseId i) (takenOf rows i) ↔
        Covered db warehouseId rows n i))
    (passes : 0 < bomTotal rows i → (sumOf (products rows n) i ≤ available db warehouseId i ↔
        Covered db warehouseId rows n i)) (some_ : 0 < n) : Judged db warehouseId rows n i where
  reaches := by
    by_cases taken : 0 < bomTotal rows i
    · rw [reaches_taken nonneg taken, reaches taken, Enough, if_pos taken]
    · rw [reaches_untaken nonneg taken, sign, Enough, if_neg taken]
  passes taken := by
    have total : 0 < (n : ℤ) * bomTotal rows i := mul_pos (by exact_mod_cast some_) taken
    rw [Passes, passes taken, sign]
    exact and_iff_left_of_imp fun covered => lt_of_lt_of_le total covered

namespace Unrounded

theorem row_units (unrounded : Unrounded k db warehouseId rows n i)
    (nonneg : ∀ row ∈ rows, 0 ≤ row.quantity) {row : RecipeBom} (listed : row ∈ rows)
    (same : row.ingredientId = i) :
    0 ≤ (row.quantity : ℚ) / 10000 ∧ ∃ m : ℤ, (row.quantity : ℚ) / 10000 = m * 2 ^ k := by
  have least : (0 : ℚ) ≤ row.quantity := by exact_mod_cast nonneg row listed
  exact ⟨div_nonneg least (by norm_num), unrounded.units row listed same⟩

theorem product_units (unrounded : Unrounded k db warehouseId rows n i)
    (nonneg : ∀ row ∈ rows, 0 ≤ row.quantity) {row : RecipeBom} (listed : row ∈ rows)
    (same : row.ingredientId = i) : 0 ≤ (row.quantity : ℚ) / 10000 * n ∧
      ∃ m : ℤ, (row.quantity : ℚ) / 10000 * n = m * 2 ^ k := by
  obtain ⟨least, m, is⟩ := unrounded.row_units nonneg listed same
  refine ⟨mul_nonneg least (Nat.cast_nonneg n), m * n, ?_⟩
  rw [is]
  push_cast
  ring

theorem toNumber_row (unrounded : Unrounded k db warehouseId rows n i)
    (nonneg : ∀ row ∈ rows, 0 ≤ row.quantity) (some_ : 0 < n) {row : RecipeBom}
    (listed : row ∈ rows) (same : row.ingredientId = i) :
    toNumber row.quantity = (row.quantity : ℚ) / 10000 ∧
      mul (toNumber row.quantity) n = (row.quantity : ℚ) / 10000 * n := by
  obtain ⟨least, m, is⟩ := unrounded.row_units nonneg listed same
  obtain ⟨least', m', is'⟩ := unrounded.product_units nonneg listed same
  have part : (row.quantity : ℚ) ≤ bomTotal rows i := by
    have part := quantity_le_bomTotal nonneg listed
    rw [same] at part
    exact_mod_cast part
  have small : (row.quantity : ℚ) / 10000 * n < 2 ^ (53 + k) := by
    refine lt_of_le_of_lt ?_ unrounded.total
    rw [mul_comm]
    exact mul_le_mul_of_nonneg_left (div_le_div_of_nonneg_right part (by norm_num))
      (Nat.cast_nonneg n)
  have once : (row.quantity : ℚ) / 10000 ≤ (row.quantity : ℚ) / 10000 * n :=
    le_mul_of_one_le_right least (by exact_mod_cast some_)
  have exact_ : toNumber row.quantity = (row.quantity : ℚ) / 10000 :=
    (onGrid_of_lt least is (lt_of_le_of_lt once small)).round
  rw [exact_, mul]
  exact ⟨rfl, (onGrid_of_lt least' is' small).round⟩

theorem onGrid_total (unrounded : Unrounded k db warehouseId rows n i)
    (nonneg : ∀ row ∈ rows, 0 ≤ row.quantity) :
    OnGrid k ((n : ℚ) * ((bomTotal rows i : ℚ) / 10000)) := by
  have sum := sum_products (rows.filter fun row => row.ingredientId = i) n
  have units : ∀ x ∈ (rows.filter fun row => row.ingredientId = i).map
      (fun row => (row.quantity : ℚ) / 10000 * n), 0 ≤ x ∧ ∃ m : ℤ, x = m * 2 ^ k := by
    intro x listed
    obtain ⟨row, member, rfl⟩ := mem_map.mp listed
    obtain ⟨listed, same⟩ := mem_filter.mp member
    exact unrounded.product_units nonneg listed (of_decide_eq_true same)
  obtain ⟨least, m, is⟩ := sum_of_units units
  rw [sum] at least is
  exact onGrid_of_lt least is unrounded.total

theorem taken_eq (unrounded : Unrounded k db warehouseId rows n i)
    (nonneg : ∀ row ∈ rows, 0 ≤ row.quantity) (some_ : 0 < n) :
    takenOf rows i = (bomTotal rows i : ℚ) / 10000 := by
  have least : (0 : ℚ) ≤ bomTotal rows i := by exact_mod_cast bomTotal_nonneg nonneg i
  have row_ {row : RecipeBom}
      (member : row ∈ (rows.filter fun row => row.ingredientId = i).reverse) :
      row ∈ rows ∧ row.ingredientId = i := by
    obtain ⟨listed, same⟩ := mem_filter.mp (mem_reverse.mp member)
    exact ⟨listed, of_decide_eq_true same⟩
  have sum : ((rows.filter fun row => row.ingredientId = i).reverse.map
      fun row => (row.quantity : ℚ) / 10000).sum = (bomTotal rows i : ℚ) / 10000 := by
    rw [map_reverse, sum_reverse, sum_quantities]
    rfl
  have once : (bomTotal rows i : ℚ) / 10000 ≤ n * ((bomTotal rows i : ℚ) / 10000) :=
    le_mul_of_one_le_left (div_nonneg least (by norm_num)) (by exact_mod_cast some_)
  rw [takenOf_eq, map_congr_left fun row member =>
    (unrounded.toNumber_row nonneg some_ (row_ member).1 (row_ member).2).1]
  rw [foldl_add_of_units (k := k) _ (by rw [sum]; exact lt_of_le_of_lt once unrounded.total), sum]
  intro x listed
  obtain ⟨row, member, rfl⟩ := mem_map.mp listed
  exact unrounded.row_units nonneg (row_ member).1 (row_ member).2

theorem planned_eq (unrounded : Unrounded k db warehouseId rows n i)
    (nonneg : ∀ row ∈ rows, 0 ≤ row.quantity) (some_ : 0 < n) :
    sumOf (products rows n) i = n * ((bomTotal rows i : ℚ) / 10000) := by
  have row_ {row : RecipeBom}
      (member : row ∈ rows.filter fun row => row.ingredientId = i ∧ 0 < row.quantity) :
      row ∈ rows ∧ row.ingredientId = i := by
    obtain ⟨listed, holds⟩ := mem_filter.mp member
    exact ⟨listed, (of_decide_eq_true holds).1⟩
  have sum := sum_products (rows.filter fun row => row.ingredientId = i ∧ 0 < row.quantity) n
  rw [bomTotal_positive nonneg] at sum
  rw [sumOf_products some_, map_congr_left fun row member =>
    (unrounded.toNumber_row nonneg some_ (row_ member).1 (row_ member).2).2]
  rw [foldl_add_of_units (k := k) _ (by rw [sum]; exact unrounded.total), sum]
  intro x listed
  obtain ⟨row, member, rfl⟩ := mem_map.mp listed
  exact unrounded.product_units nonneg (row_ member).1 (row_ member).2

theorem available_eq (unrounded : Unrounded k db warehouseId rows n i) :
    Doubles.available db warehouseId i = (availableAt db (warehouseId, i) : ℚ) / 10000 := by
  have difference := unrounded.available
  rw [availableAt_div] at difference ⊢
  rw [available_sub, toNumber, toNumber, unrounded.onHand.round, unrounded.reserved.round, sub,
    difference.round]

theorem judged (unrounded : Unrounded k db warehouseId rows n i)
    (nonneg : ∀ row ∈ rows, 0 ≤ row.quantity) (some_ : 0 < n) : Judged db warehouseId rows n i := by
  refine .of_taken nonneg ?_ (fun taken => ?_) (fun _ => ?_) some_
  · rw [unrounded.available_eq, div_pos_iff_of_pos_right (by norm_num)]
    exact_mod_cast Iff.rfl
  · rw [unrounded.available_eq, unrounded.taken_eq nonneg some_, ← covered_iff]
    exact le_div_iff_mul_le unrounded.available (unrounded.onGrid_total nonneg)
      (div_pos (by exact_mod_cast taken) (by norm_num)) some_ unrounded.count
  · rw [unrounded.available_eq, unrounded.planned_eq nonneg some_, covered_iff]

end Unrounded

namespace Apart

theorem available_near (db : Db) (warehouseId i : Id) :
    |available db warehouseId i - (availableAt db (warehouseId, i) : ℚ) / 10000| ≤
      3 * epsilon * ((|onHandAt db (warehouseId, i)| + |reservedAt db (warehouseId, i)| : ℤ) /
        10000) := by
  have near := abs_sub_round_le ((onHandAt db (warehouseId, i) : ℚ) / 10000)
    ((reservedAt db (warehouseId, i) : ℚ) / 10000)
  rw [availableAt_div, available_sub, toNumber, toNumber]
  refine le_trans near (le_of_eq ?_)
  push_cast
  rw [abs_div, abs_div, abs_of_pos (show (0 : ℚ) < 10000 by norm_num)]
  ring

theorem sign {W : ℤ} (near : |available db warehouseId i -
      (availableAt db (warehouseId, i) : ℚ) / 10000| ≤ 3 * epsilon * ((W : ℚ) / 10000))
    (small : 6 * epsilon * ((W : ℚ) / 10000) < 1 / 10000) :
    0 < available db warehouseId i ↔ 0 < availableAt db (warehouseId, i) := by
  have bounds := abs_le.mp near
  have nonneg := le_trans (abs_nonneg _) near
  rcases lt_trichotomy (availableAt db (warehouseId, i)) 0 with negative | zero | positive
  · have most : (availableAt db (warehouseId, i) : ℚ) ≤ -1 := by
      exact_mod_cast Int.le_sub_one_of_lt negative
    exact iff_of_false (by linarith) (not_lt.mpr negative.le)
  · have same : onHandAt db (warehouseId, i) = reservedAt db (warehouseId, i) := sub_eq_zero.mp zero
    rw [available_sub, same, sub, sub_self, round_zero, zero]
    exact iff_of_false (lt_irrefl _) (lt_irrefl _)
  · have least : (1 : ℚ) ≤ availableAt db (warehouseId, i) := by exact_mod_cast positive
    exact iff_of_true (by linarith) positive

theorem both {W : ℤ} (apart : Apart db warehouseId rows n i)
    (nonneg : ∀ row ∈ rows, 0 ≤ row.quantity) (some_ : 0 < n) (taken : 0 < bomTotal rows i)
    (slack : epsilon * ((((rows.length + 2 : ℕ) : ℚ) + 1) *
      (n * ((bomTotal rows i : ℚ) / 10000) + 1 / 10000) + 6 * ((W : ℚ) / 10000)) < 1 / 10000)
    (near : |available db warehouseId i -
      (availableAt db (warehouseId, i) : ℚ) / 10000| ≤ 3 * epsilon * ((W : ℚ) / 10000)) :
    ((n : ℚ) ≤ div (available db warehouseId i) (takenOf rows i) ↔
        Covered db warehouseId rows n i) ∧
      (sumOf (products rows n) i ≤ available db warehouseId i ↔
        Covered db warehouseId rows n i) := by
  have positive : 0 < (bomTotal rows i : ℚ) / 10000 :=
    div_pos (by exact_mod_cast taken) (by norm_num)
  have total : (n : ℤ) ≤ n * bomTotal rows i :=
    le_mul_of_one_le_right (Int.natCast_nonneg n) taken
  have count : n < 2 ^ 53 := by
    have moderate := apart.moderate
    have weight : 0 ≤ |onHandAt db (warehouseId, i)| + |reservedAt db (warehouseId, i)| :=
      add_nonneg (abs_nonneg _) (abs_nonneg _)
    have rest : 0 ≤ ((rows.length : ℤ) + 2) * (n * bomTotal rows i + 1) :=
      mul_nonneg (by positivity) (by linarith [Int.natCast_nonneg n])
    have bound : (n : ℤ) < 2 ^ 53 := by linarith
    exact_mod_cast bound
  have gap : n * ((bomTotal rows i : ℚ) / 10000) + 1 / 10000 ≤
        (availableAt db (warehouseId, i) : ℚ) / 10000 ∨
      (availableAt db (warehouseId, i) : ℚ) / 10000 + 1 / 10000 ≤
        n * ((bomTotal rows i : ℚ) / 10000) := by
    rcases lt_or_gt_of_ne (apart.apart taken) with less | more
    · left
      have whole : (n : ℚ) * bomTotal rows i + 1 ≤ availableAt db (warehouseId, i) := by
        exact_mod_cast less
      linarith
    · right
      have whole : (availableAt db (warehouseId, i) : ℚ) + 1 ≤ n * bomTotal rows i := by
        exact_mod_cast more
      linarith
  obtain ⟨reaches, passes⟩ := decides near
    ((within_taken nonneg).mono positive.le (Nat.le_succ _)) (within_products nonneg some_)
    positive some_ count (by norm_num) slack gap
  exact ⟨reaches.trans covered_iff, passes.trans covered_iff⟩

theorem judged (apart : Apart db warehouseId rows n i)
    (nonneg : ∀ row ∈ rows, 0 ≤ row.quantity) (some_ : 0 < n) : Judged db warehouseId rows n i := by
  obtain ⟨W, stock⟩ : ∃ W : ℤ,
    W = |onHandAt db (warehouseId, i)| + |reservedAt db (warehouseId, i)| := ⟨_, rfl⟩
  have near := available_near db warehouseId i
  have moderate := apart.moderate
  have total : (0 : ℤ) ≤ bomTotal rows i := bomTotal_nonneg nonneg i
  have scaled : 0 ≤ (n : ℤ) * bomTotal rows i := mul_nonneg (Int.natCast_nonneg n) total
  have weight : 0 ≤ W := by rw [stock]; exact add_nonneg (abs_nonneg _) (abs_nonneg _)
  rw [← stock] at near moderate
  have slack : epsilon * ((((rows.length + 2 : ℕ) : ℚ) + 1) *
      (n * ((bomTotal rows i : ℚ) / 10000) + 1 / 10000) + 6 * ((W : ℚ) / 10000)) < 1 / 10000 := by
    have bound : ((rows.length : ℚ) + 3) * (n * bomTotal rows i + 1) + 6 * W < 2 ^ 53 := by
      exact_mod_cast moderate
    have parts : epsilon * ((((rows.length + 2 : ℕ) : ℚ) + 1) *
        (n * ((bomTotal rows i : ℚ) / 10000) + 1 / 10000) + 6 * ((W : ℚ) / 10000)) =
        epsilon / 10000 * (((rows.length : ℚ) + 3) * (n * bomTotal rows i + 1) + 6 * W) := by
      push_cast
      ring
    rw [parts, epsilon]
    linarith
  have small : 6 * epsilon * ((W : ℚ) / 10000) < 1 / 10000 := by
    have rest : (0 : ℚ) ≤ n * bomTotal rows i := by exact_mod_cast scaled
    have part : 0 ≤ epsilon * ((((rows.length + 2 : ℕ) : ℚ) + 1) *
        (n * ((bomTotal rows i : ℚ) / 10000) + 1 / 10000)) := by
      rw [← mul_div_assoc]
      have some' := epsilon_pos
      positivity
    linarith
  refine .of_taken nonneg (sign near small) (fun taken => (apart.both nonneg some_ taken slack
    near).1) (fun taken => (apart.both nonneg some_ taken slack near).2) some_

end Apart

end

theorem rowsInEffect_bomRows (setup : Setup) (tenantId productId : Id) (variantId : Option Id)
    (n : ℤ) : rowsInEffect (bomRows setup (some tenantId) productId) variantId =
      (effectiveRows setup tenantId ⟨productId, variantId, n⟩).reverse := by
  simp only [rowsInEffect, bomRows, effectiveRows, Option.all_some, filter_reverse,
    reverse_eq_nil_iff, decide_eq_true_eq]
  cases variantId with
  | none => simp
  | some variantId => split <;> rfl

abbrev rowsOf (db : Db) (tenantId productId : Id) (variantId : Option Id) (n : ℕ) :
    List RecipeBom := effectiveRows db.setup tenantId ⟨productId, variantId, n⟩

theorem mapM_isOk {α β : Type} {f : α → Except ApiException β} {xs : List α} :
    (∃ ys, xs.mapM f = .ok ys) ↔ ∀ x ∈ xs, ∃ y, f x = .ok y := by
  induction xs with
  | nil => exact iff_of_true ⟨[], rfl⟩ fun x listed => absurd listed not_mem_nil
  | cons x xs ih =>
    rw [forall_mem_cons, ← ih]
    simp only [mapM_cons, except_bind_ok_iff, except_pure_ok_iff]
    constructor
    · rintro ⟨_, y, first, ys, rest, _⟩
      exact ⟨⟨y, first⟩, ys, rest⟩
    · rintro ⟨⟨y, first⟩, ys, rest⟩
      exact ⟨_, y, first, ys, rest, rfl⟩

section
variable {db : Db} {tenantId storeId warehouseId productId : Id} {variantId : Option Id} {n : ℕ}

theorem advertised_iff (some_ : 0 < n) (codeOf : Id → Option String) :
    let rows := rowsOf db tenantId productId variantId n
    ((n : ℚ) ≤ (getAvailability db codeOf (some tenantId) productId variantId
        warehouseId).availableUnits ↔
      (∀ row ∈ rows, Reaches db warehouseId rows n row.ingredientId) ∧
      ∃ row ∈ rows, takenOf rows row.ingredientId ≠ 0) := by
  intro rows
  let amounts := rows.reverse.map fun row => (row.ingredientId, toNumber row.quantity)
  let unitsOf (e : Id × ℚ) : Extended := .floor (.quotient (available db warehouseId e.1) e.2)
  have grouped : (rowsInEffect (bomRows db.setup (some tenantId) productId) variantId).foldl
      (fun map row => addTo map row.ingredientId (toNumber row.quantity)) [] = tally amounts := by
    rw [rowsInEffect_bomRows db.setup tenantId productId variantId n, tally, foldl_map]
  have answer : (getAvailability db codeOf (some tenantId) productId variantId
      warehouseId).availableUnits = (((tally amounts).map unitsOf).foldl Extended.min
        (if tally amounts = [] then .finite 0 else .posInfinity)).finiteOr0 := by
    simp only [getAvailability, grouped, foldl_map]
    rfl
  have entries (P : Extended → Prop) : (∀ e ∈ tally amounts, P (unitsOf e)) ↔
      ∀ row ∈ rows, P (Extended.quotient (available db warehouseId row.ingredientId)
        (takenOf rows row.ingredientId)).floor := by
    rw [@forall_tally (fun e => P (unitsOf e)), forall_mem_map]
    simp only [mem_reverse]
    rfl
  rw [answer, Extended.le_finiteOr0 (by exact_mod_cast some_)]
  by_cases empty : tally amounts = []
  · have none : ∀ row ∈ rows, False := (entries fun _ => False).mp (by simp [empty])
    refine iff_of_false (by simp [empty, Extended.AtLeast, some_.ne']) ?_
    rintro ⟨_, row, listed, _⟩
    exact none row listed
  · obtain ⟨reached, infinite⟩ :=
      Extended.foldl_min (n := (n : ℚ)) ((tally amounts).map unitsOf) .posInfinity
    rw [if_neg empty, reached, Ne, infinite, forall_mem_map, forall_mem_map, entries,
      entries fun units => units = .posInfinity]
    simp only [Extended.atLeast_floor, Extended.floor_eq_posInfinity, Extended.atLeast_posInfinity,
      true_and]
    refine and_congr_right fun all => ?_
    have unbounded : (∀ row ∈ rows, Extended.quotient (available db warehouseId row.ingredientId)
        (takenOf rows row.ingredientId) = .posInfinity) ↔
          ∀ row ∈ rows, takenOf rows row.ingredientId = 0 :=
      forall₂_congr fun row listed => Extended.quotient_eq_posInfinity (all row listed)
    rw [unbounded]
    push Not
    rfl

theorem stopThreshold_free {setup : Setup} (free : ∀ rule ∈ setup.stopListRules,
    ¬(rule.tenantId = tenantId ∧ rule.isActive ∧ rule.ruleType = "LOW_STOCK")) (i : Id) :
    stopThreshold setup tenantId storeId warehouseId i = 0 := by
  have none : (setup.stopListRules.filter fun rule =>
      rule.tenantId = tenantId ∧ rule.isActive ∧ rule.ruleType = "LOW_STOCK") = [] :=
    filter_eq_nil_iff.mpr fun rule listed => by simpa using free rule listed
  simp only [stopThreshold, none, foldl_nil]

theorem ingredientTotals_line (setup : Setup) (tenantId productId : Id) (variantId : Option Id)
    (n : ℕ) : ingredientTotals setup tenantId [⟨productId, variantId, n⟩] =
      tally (products (effectiveRows setup tenantId ⟨productId, variantId, n⟩) n) := by
  rw [tally, products, foldl_filter, foldl_map]
  simp only [ingredientTotals, foldl_cons, foldl_nil]
  refine foldl_ext _ _ _ fun map row _ => ?_
  have count : ((n : ℤ) : ℚ) = n := Int.cast_natCast n
  rw [count]
  by_cases none : mul (toNumber row.quantity) n ≤ 0
  · rw [if_pos none, if_neg (by simpa using none)]
  · rw [if_neg none, if_pos (by simpa using none)]

theorem forall_products {rows : List RecipeBom} {P : Id → Prop} (some_ : 0 < n) :
    (∀ r ∈ products rows n, P r.1) ↔ ∀ row ∈ rows, 0 < row.quantity → P row.ingredientId := by
  constructor
  · intro all row listed positive
    exact all (row.ingredientId, mul (toNumber row.quantity) n) (mem_filter.mpr
      ⟨mem_map_of_mem listed, decide_eq_true ((mul_toNumber_pos some_ _).mpr positive)⟩)
  · intro all r listed
    obtain ⟨member, positive⟩ := mem_filter.mp listed
    obtain ⟨row, present, rfl⟩ := mem_map.mp member
    exact all row present ((mul_toNumber_pos some_ _).mp (of_decide_eq_true positive))

theorem planned_iff (some_ : 0 < n) {warehouse : Warehouse}
    (selected : selectWarehouse db.setup tenantId storeId = some warehouse)
    (free : ∀ rule ∈ db.setup.stopListRules,
      ¬(rule.tenantId = tenantId ∧ rule.isActive ∧ rule.ruleType = "LOW_STOCK")) :
    let rows := rowsOf db tenantId productId variantId n
    ((∃ plan, buildReservationPlanTx tenantId storeId [⟨productId, variantId, n⟩] db = .ok plan) ↔
      ∀ row ∈ rows, 0 < row.quantity →
        Passes db warehouse.id rows n row.ingredientId) := by
  intro rows
  rw [buildReservationPlanTx, if_neg (cons_ne_nil _ _), selected, mapM_isOk,
    ingredientTotals_line, forall_tally]
  simp only [except_bind_ok_iff, except_pure_ok_iff, rejectIf_ok_iff, stopThreshold_free free]
  rw [← forall_products (P := Passes db warehouse.id rows n) some_]
  refine forall₂_congr fun r _ => ?_
  have passes : Passes db warehouse.id rows n r.1 ↔
      ¬(available db warehouse.id r.1 < sumOf (products rows n) r.1 ∨
        available db warehouse.id r.1 ≤ 0) := by
    rw [not_or, not_lt, not_le, Passes]
  exact ⟨fun ⟨_, _, holds, _⟩ => passes.mpr holds, fun holds => ⟨_, (), passes.mp holds, rfl⟩⟩

/-- The units of a product without negative rows are advertised just when a plan for them succeeds,
where the stock falls short of an ingredient that is taken, or where some ingredient is taken and
each one of which nothing is taken is there. -/
theorem advertises_iff (some_ : 0 < n) (codeOf : Id → Option String) {warehouse : Warehouse}
    (selected : selectWarehouse db.setup tenantId storeId = some warehouse)
    (free : ∀ rule ∈ db.setup.stopListRules,
      ¬(rule.tenantId = tenantId ∧ rule.isActive ∧ rule.ruleType = "LOW_STOCK"))
    (nonneg : ∀ row ∈ rowsOf db tenantId productId variantId n, 0 ≤ row.quantity)
    (clear : ∀ row ∈ rowsOf db tenantId productId variantId n,
      (∃ k, Unrounded k db warehouse.id (rowsOf db tenantId productId variantId n) n
        row.ingredientId) ∨
      Apart db warehouse.id (rowsOf db tenantId productId variantId n) n row.ingredientId) :
    let rows := rowsOf db tenantId productId variantId n
    (Advertises db codeOf tenantId storeId productId variantId warehouse.id n ↔
      (∃ row ∈ rows, 0 < row.quantity ∧ ¬Covered db warehouse.id rows n row.ingredientId) ∨
      (∃ row ∈ rows, 0 < row.quantity) ∧ ∀ row ∈ rows, bomTotal rows row.ingredientId = 0 →
        0 < availableAt db (warehouse.id, row.ingredientId)) := by
  intro rows
  have judged {row : RecipeBom} (listed : row ∈ rows) :
      Judged db warehouse.id rows n row.ingredientId := by
    obtain ⟨k, unrounded⟩ | apart := clear row listed
    · exact unrounded.judged nonneg some_
    · exact apart.judged nonneg some_
  have planned : (∃ plan, buildReservationPlanTx tenantId storeId
      [⟨productId, variantId, n⟩] db = .ok plan) ↔
      ∀ row ∈ rows, 0 < row.quantity → Covered db warehouse.id rows n row.ingredientId := by
    refine Iff.trans (planned_iff some_ selected free) ?_
    refine forall₂_congr fun row listed => forall_congr' fun positive => ?_
    exact (judged listed).passes ((bomTotal_pos_iff nonneg).mpr ⟨row, listed, rfl, positive⟩)
  have advertised : (n : ℚ) ≤ (getAvailability db codeOf (some tenantId) productId variantId
        warehouse.id).availableUnits ↔
      (∀ row ∈ rows, Enough db warehouse.id rows n row.ingredientId) ∧
        ∃ row ∈ rows, 0 < row.quantity := by
    refine Iff.trans (advertised_iff some_ codeOf) ?_
    refine and_congr (forall₂_congr fun row listed => (judged listed).reaches) ?_
    have positive {row : RecipeBom} (listed : row ∈ rows) :
        takenOf rows row.ingredientId ≠ 0 ↔ 0 < bomTotal rows row.ingredientId :=
      taken_ne_zero nonneg
    constructor
    · rintro ⟨row, listed, some'⟩
      obtain ⟨row', listed', _, positive'⟩ :=
        (bomTotal_pos_iff nonneg).mp ((positive listed).mp some')
      exact ⟨row', listed', positive'⟩
    · rintro ⟨row, listed, some'⟩
      exact ⟨row, listed, (positive listed).mpr
        ((bomTotal_pos_iff nonneg).mpr ⟨row, listed, rfl, some'⟩)⟩
  have enough (covered : ∀ row ∈ rows, 0 < row.quantity →
        Covered db warehouse.id rows n row.ingredientId) {row : RecipeBom} :
      Enough db warehouse.id rows n row.ingredientId ↔ (bomTotal rows row.ingredientId = 0 →
        0 < availableAt db (warehouse.id, row.ingredientId)) := by
    by_cases taken : 0 < bomTotal rows row.ingredientId
    · obtain ⟨row', listed, same, positive⟩ := (bomTotal_pos_iff nonneg).mp taken
      have holds := covered row' listed positive
      rw [same] at holds
      rw [Enough, if_pos taken]
      exact iff_of_true holds fun zero => absurd zero taken.ne'
    · have zero := le_antisymm (not_lt.mp taken) (bomTotal_nonneg nonneg row.ingredientId)
      rw [Enough, if_neg taken]
      exact ⟨fun holds _ => holds, fun holds => holds zero⟩
  rw [Advertises, advertised, planned]
  by_cases short : ∃ row ∈ rows, 0 < row.quantity ∧
      ¬Covered db warehouse.id rows n row.ingredientId
  · refine iff_of_true (iff_of_false (fun advertised => ?_) fun planned => ?_) (.inl short)
    · obtain ⟨row, listed, positive, missing⟩ := short
      have holds := advertised.1 row listed
      rw [Enough, if_pos ((bomTotal_pos_iff nonneg).mpr ⟨row, listed, rfl, positive⟩)] at holds
      exact missing holds
    · obtain ⟨row, listed, positive, missing⟩ := short
      exact missing (planned row listed positive)
  · have covered : ∀ row ∈ rows, 0 < row.quantity →
        Covered db warehouse.id rows n row.ingredientId := by
      intro row listed positive
      by_contra missing
      exact short ⟨row, listed, positive, missing⟩
    have all : (∀ row ∈ rows, Enough db warehouse.id rows n row.ingredientId) ↔
        ∀ row ∈ rows, bomTotal rows row.ingredientId = 0 →
          0 < availableAt db (warehouse.id, row.ingredientId) :=
      forall₂_congr fun _ _ => enough covered
    rw [iff_true_right covered, or_iff_right short, all, and_comm]

end

/-- An espresso of the shop. -/
theorem espresso_advertised : Advertises shop (fun _ => none) 1 2 10 none 30 1 := by
  have clear : ∀ row ∈ rowsOf shop 1 10 none 1,
      (∃ k, Unrounded k shop 30 (rowsOf shop 1 10 none 1) 1 row.ingredientId) ∨
      Apart shop 30 (rowsOf shop 1 10 none 1) 1 row.ingredientId := by
    intro row listed
    obtain rfl : row = ⟨1, 10, none, 40, 10000⟩ := List.mem_singleton.mp listed
    exact .inr ⟨by decide, by decide⟩
  have selected : selectWarehouse shop.setup 1 2 = some ⟨30, 1, some 2, true⟩ := rfl
  exact (advertises_iff (by decide) _ selected (by decide) (by decide) clear).mpr
    (.inr ⟨by decide, by decide⟩)

def spiced : Db := { shop with
  setup := { shop.setup with
    recipeBoms := [⟨1, 10, none, 40, 10000⟩, ⟨1, 10, none, 41, 0⟩] } }

/-- No unit is advertised of the espresso, and a plan for one succeeds. -/
theorem spiced_not_advertised :
    ¬∀ (db : Db) (codeOf : Id → Option String) (tenantId storeId productId : Id)
      (variantId : Option Id) (warehouse : Warehouse) (n : ℕ), 0 < n →
      selectWarehouse db.setup tenantId storeId = some warehouse →
      db.setup.stopListRules = [] → rowsOf db tenantId productId variantId n ≠ [] →
      Advertises db codeOf tenantId storeId productId variantId warehouse.id n := by
  intro claim
  have advertised := claim spiced (fun _ => none) 1 2 10 none ⟨30, 1, some 2, true⟩ 1 (by decide)
    rfl rfl (by decide)
  have planned : ∃ plan, buildReservationPlanTx 1 2 [⟨10, none, 1⟩] spiced = .ok plan := by
    have answered : (buildReservationPlanTx 1 2 [⟨10, none, 1⟩] spiced).toOption.isSome := by
      decide +kernel
    cases is : buildReservationPlanTx 1 2 [⟨10, none, 1⟩] spiced with
    | ok plan => exact ⟨plan, rfl⟩
    | error e => simp [is, Except.toOption] at answered
  have units : (getAvailability spiced (fun _ => none) (some 1) 10 none 30).availableUnits = 0 := by
    decide +kernel
  have reached := advertised.mpr planned
  rw [units] at reached
  norm_num at reached

def scarce : Db := { shop with
  setup := { shop.setup with recipeBoms := [⟨1, 10, none, 40, 10⟩] }
  stock := ⟨[⟨60, 1, 30, 40, 90, 0, 0⟩], [], []⟩ }

-- The stock is used up exactly: the quotient is nine, and nine times 0.001 is more than 0.009.
example : (getAvailability scarce (fun _ => none) (some 1) 10 none 30).availableUnits = 9 ∧
    (buildReservationPlanTx 1 2 [⟨10, none, 9⟩] scarce).toOption.isSome = false := by
  decide +kernel

end Exetron.Inventory.Doubles
