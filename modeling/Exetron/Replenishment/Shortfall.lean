import Exetron.Inventory.Availability
import Exetron.Replenishment.Receipts

/-!
# Closing a shortfall

The report, a job that is generated from it and its receipt with the double precision of their
numbers. A receipt closes the gap of an item where the rounded difference of what is on hand by then
and what is reserved reaches the target.
-/

namespace Exetron.Replenishment.Doubles

open Lib Binary64 Inventory Inventory.Service InventoryReplenishmentJob
open List Tx

variable {now : Instant} {id : Id} {context : RequestContext}

/-- `toNumber` of a decimal column. -/
abbrev double (q : Quantity) : ℚ := Inventory.Doubles.toNumber q

structure Recommendation where
  (warehouseId ingredientId : Id)
  ingredientCode : String
  (available reorderPoint lowStockThreshold : ℚ)

namespace Recommendation

def targetQuantity (r : Recommendation) : ℚ := max r.reorderPoint r.lowStockThreshold

def recommendedOrderQuantity (r : Recommendation) : ℚ := max (sub r.targetQuantity r.available) 0

def toRecord (r : Recommendation) : InventoryRecord :=
  [("warehouseId", idText r.warehouseId),
    ("ingredientId", idText r.ingredientId),
    ("ingredientCode", .str r.ingredientCode),
    ("available", .num r.available),
    ("reorderPoint", .num r.reorderPoint),
    ("lowStockThreshold", .num r.lowStockThreshold),
    ("targetQuantity", .num r.targetQuantity),
    ("recommendedOrderQuantity", .num r.recommendedOrderQuantity)]

end Recommendation

def recommendation (ingredient : Ingredient) (item : InventoryItem) : Recommendation where
  warehouseId := item.warehouseId
  ingredientId := ingredient.id
  ingredientCode := ingredient.code
  available := sub (double item.onHand) (double item.reserved)
  reorderPoint := double item.reorderPoint
  lowStockThreshold := double ingredient.lowStockThreshold

def recommend (s : Supply) (tenantId : Id) (item : InventoryItem) : Option Recommendation := do
  let ingredient ← s.ingredients.find? fun row =>
    row.id = item.ingredientId ∧ row.tenantId = tenantId
  let _ ← s.db.setup.warehouses.find? fun row =>
    row.id = item.warehouseId ∧ row.tenantId = tenantId
  if (recommendation ingredient item).recommendedOrderQuantity ≤ 0 then none
  else some (recommendation ingredient item)

def recommendations (s : Supply) (tenantId : Id) (warehouseId : Option Id) : List Recommendation :=
  ((s.db.stock.items.filter fun item =>
    item.tenantId = tenantId ∧ warehouseId.all (· = item.warehouseId) = true).filterMap
      (recommend s tenantId)).insertionSort fun left right =>
        right.recommendedOrderQuantity ≤ left.recommendedOrderQuantity

def summaryOf (rows : List Recommendation) : InventoryRecord :=
  [("recommendationCount", .num rows.length),
    ("totalRecommendedOrderQuantity",
      .num ((rows.map Recommendation.recommendedOrderQuantity).foldl add 0))]

def createReplenishmentJobTx (now : Instant) (context : RequestContext)
    (input : ReplenishmentReportQuery) : SupplyTransaction InventoryReplenishmentJob := do
  let tenantId ← Tx.lift (reportTenant context input.tenantId)
  let rows ← Tx.read fun s => .ok (recommendations s tenantId input.warehouseId)
  let id ← onDb freshId
  inventoryReplenishmentJobs.create
    { id, tenantId
      storeId := input.storeId
      warehouseId := input.warehouseId
      status := .generated
      summary := .obj (summaryOf rows)
      artifact := .obj
        [("tenantId", idText tenantId),
          ("storeId", ofId input.storeId),
          ("warehouseId", ofId input.warehouseId),
          ("generatedAt", isoText now),
          ("summary", .obj (summaryOf rows)),
          ("recommendations", .arr (rows.map fun row => .obj row.toRecord))]
      updatedAt := now }

/-- The turn of `completeReceivingRecordTx` for a line. -/
def applyStockDeltaTx (record : ReceivingRecord) (line : ReceivingLine) : Transaction Unit := do
  let item ← getOrCreateItemTx record.tenantId record.warehouseId line.ingredientId
  let delta := double line.quantity
  let nextOnHand := add (double item.onHand) delta
  let _ ← inventoryItems.update item.id fun row =>
    { row with onHand := toDecimal (nextOnHand * 10000) }
  let id ← freshId
  let _ ← stockLedgerEntries.create
    { id
      tenantId := record.tenantId
      warehouseId := record.warehouseId
      ingredientId := line.ingredientId
      entryType := "RECEIVING"
      quantity := toDecimal (delta * 10000)
      balanceAfter := toDecimal (nextOnHand * 10000)
      sourceType := "receiving"
      sourceId := record.id }
  pure ()

def completeReceivingRecordTx (now : Instant) (id : Id) (receivedByOverride : Option String) :
    Transaction (ReceivingRecord × List ReceivingLine) := do
  let (record, lines) ← Tx.read (getReceivingRecordTx id)
  if record.status = .completed then pure (record, lines)
  else
    lines.forM (applyStockDeltaTx record)
    let _ ← receivingRecords.update id fun row =>
      { row with
        status := .completed
        receivedBy := receivedByOverride.or record.receivedBy
        completedAt := some now }
    Tx.read (getReceivingRecordTx id)

/-- `completeReceivingRecord`, in its transaction. -/
def receiveTx (now : Instant) (context : RequestContext) (id : Id) (receivedBy : Option String) :
    Transaction (ReceivingRecord × List ReceivingLine) := do
  let (record, _) ← Tx.read (getReceivingRecordTx id)
  let _ ← Tx.lift (Inventory.Service.resolveTenantId context record.tenantId)
  completeReceivingRecordTx now id receivedBy

def receiveReplenishmentJobTx (now : Instant) (context : RequestContext) (id : Id)
    (input : ReceiveReplenishmentJobDto) :
    SupplyTransaction (ReceivingRecord × List ReceivingLine) := do
  let (current, warehouseId) ← Tx.read (admitReceipt context id)
  match existingReceiving current with
  | some recordId => Tx.read fun s => do
      let recordId ← required (idOf? recordId) (.notFound "Receiving record not found.")
      getReceivingRecordTx recordId s.db
  | none =>
    let record ← openReceiptTx current warehouseId input
    let finalized ←
      if input.autoComplete = some false then
        Tx.read fun s => getReceivingRecordTx record.id s.db
      else onDb (completeReceivingRecordTx now record.id input.receivedBy)
    let status : ReplenishmentJobStatus :=
      if input.autoComplete = some false then .receiving else .received
    let _ ← inventoryReplenishmentJobs.update id fun row => row.patchWorkflow now status
      [("receivingRecordId", idText finalized.1.id),
        ("receivingReference", .str finalized.1.reference),
        ("receivingStatus", .str (receiptText finalized.1.status)),
        ("receivedAt", isoText now),
        ("receivedByActorId", actorOf context)]
    pure finalized

/-- A job is received at once, or its receiving is opened and then completed. -/
inductive FullyReceived (id : Id) (s t : Supply) : Prop
  | atOnce (now : Instant) (context : RequestContext) (input : ReceiveReplenishmentJobDto)
      (received : ReceivingRecord × List ReceivingLine)
      (completes : input.autoComplete ≠ some false)
      (done : receiveReplenishmentJobTx now context id input s = .ok (received, t))
  | afterwards (now later : Instant) (context context' : RequestContext)
      (input : ReceiveReplenishmentJobDto) (receivedBy : Option String)
      (opened received : ReceivingRecord × List ReceivingLine) (m : Supply)
      (leaves : input.autoComplete = some false)
      (done : receiveReplenishmentJobTx now context id input s = .ok (opened, m))
      (completed : onDb (receiveTx later context' opened.1.id receivedBy) m = .ok (received, t))

theorem double_near (q : Quantity) :
    |double q - (q : ℚ) / 10000| ≤ |(q : ℚ)| / 10000 * epsilon := by
  have near := abs_round_sub_le ((q : ℚ) / 10000)
  rw [abs_div, abs_of_pos (show (0 : ℚ) < 10000 by norm_num)] at near
  exact near

theorem toDecimal_double {q : Quantity} (small : |q| < 2 ^ 50) :
    toDecimal (double q * 10000) = q := by
  have near := abs_le.mp (double_near q)
  have bound : |(q : ℚ)| < 2 ^ 50 := by exact_mod_cast small
  rw [epsilon] at near
  refine roundHalfAway_of_near (abs_lt.mpr ⟨?_, ?_⟩) <;> linarith

theorem toDecimal_add {a q : Quantity} (small : |a| + |q| < 2 ^ 50) :
    toDecimal (add (double a) (double q) * 10000) = a + q := by
  have left := abs_le.mp (double_near a)
  have right := abs_le.mp (double_near q)
  have bound : |(a : ℚ)| + |(q : ℚ)| < 2 ^ 50 := by exact_mod_cast small
  have rangeA := abs_le.mp (le_refl |(a : ℚ)|)
  have rangeQ := abs_le.mp (le_refl |(q : ℚ)|)
  have rounded := abs_round_sub_le (double a + double q)
  rw [epsilon] at left right
  have size : |double a + double q| ≤ 2 * (|(a : ℚ)| + |(q : ℚ)|) / 10000 := by
    rw [abs_le]
    constructor <;> linarith
  have last := abs_le.mp (le_trans rounded (mul_le_mul_of_nonneg_right size epsilon_pos.le))
  rw [epsilon] at last
  rw [add]
  refine roundHalfAway_of_near (abs_lt.mpr ⟨?_, ?_⟩) <;> push_cast <;> linarith

theorem target_near (reorder threshold : Quantity) :
    |max (double reorder) (double threshold) - ((max reorder threshold : Quantity) : ℚ) / 10000| ≤
      (|(reorder : ℚ)| + |(threshold : ℚ)|) / 10000 * epsilon := by
  have exact_ : ((max reorder threshold : Quantity) : ℚ) / 10000 =
      max ((reorder : ℚ) / 10000) ((threshold : ℚ) / 10000) := by
    rw [max_div_div_right (by norm_num)]
    push_cast
    rfl
  have nonneg (q : Quantity) : 0 ≤ |(q : ℚ)| / 10000 * epsilon :=
    mul_nonneg (div_nonneg (abs_nonneg _) (by norm_num)) epsilon_pos.le
  rw [exact_, add_div, add_mul]
  refine le_trans (abs_max_sub_max_le_max _ _ _ _) (max_le ?_ ?_)
  · exact le_trans (double_near reorder) (le_add_of_nonneg_right (nonneg threshold))
  · exact le_trans (double_near threshold) (le_add_of_nonneg_left (nonneg reorder))

theorem available_near (onHand reserved : Quantity) :
    |sub (double onHand) (double reserved) - ((onHand - reserved : Quantity) : ℚ) / 10000| ≤
      3 * epsilon * (|(onHand : ℚ)| + |(reserved : ℚ)|) / 10000 := by
  have near := abs_sub_round_le ((onHand : ℚ) / 10000) ((reserved : ℚ) / 10000)
  rw [abs_div, abs_div, abs_of_pos (show (0 : ℚ) < 10000 by norm_num), ← sub_div, ← add_div,
    ← mul_div_assoc] at near
  push_cast
  exact near

theorem gap_near {onHand reserved reorder threshold : Quantity}
    (small : |onHand| + |reserved| + |reorder| + |threshold| < 2 ^ 49) :
    |sub (max (double reorder) (double threshold)) (sub (double onHand) (double reserved)) * 10000 -
      ((max reorder threshold - (onHand - reserved) : Quantity) : ℚ)| < 1 / 2 := by
  have nearT := abs_le.mp (target_near reorder threshold)
  have nearA := abs_le.mp (available_near onHand reserved)
  have bound :
      |(onHand : ℚ)| + |(reserved : ℚ)| + |(reorder : ℚ)| + |(threshold : ℚ)| < 2 ^ 49 := by
    exact_mod_cast small
  have sizeT :
      |((max reorder threshold : Quantity) : ℚ)| ≤ |(reorder : ℚ)| + |(threshold : ℚ)| := by
    have most : |max reorder threshold| ≤ |reorder| + |threshold| :=
      le_trans abs_max_le_max_abs_abs
        (max_le (le_add_of_nonneg_right (abs_nonneg _)) (le_add_of_nonneg_left (abs_nonneg _)))
    exact_mod_cast most
  generalize max reorder threshold = T at *
  generalize max (double reorder) (double threshold) = m at *
  generalize sub (double onHand) (double reserved) = a at *
  have rounded := abs_round_sub_le (m - a)
  have rangeT := abs_le.mp sizeT
  have rangeH := abs_le.mp (le_refl |(onHand : ℚ)|)
  have rangeR := abs_le.mp (le_refl |(reserved : ℚ)|)
  push_cast at nearA ⊢
  rw [epsilon] at nearT nearA
  have size : |m - a| ≤
      2 * (|(onHand : ℚ)| + |(reserved : ℚ)| + |(reorder : ℚ)| + |(threshold : ℚ)|) / 10000 := by
    rw [abs_le]
    constructor <;> linarith
  have last := abs_le.mp (le_trans rounded (mul_le_mul_of_nonneg_right size epsilon_pos.le))
  rw [epsilon] at last
  rw [sub, abs_lt]
  constructor <;> linarith

/-- The amounts of lines for different ingredients are small enough for their sums to be kept. -/
structure Countable (db : Db) (record : ReceivingRecord) (lines : List ReceivingLine) : Prop where
  ingredients : (lines.map ReceivingLine.ingredientId).Nodup
  small : ∀ line ∈ lines,
    |onHandAt db (record.warehouseId, line.ingredientId)| + |line.quantity| < 2 ^ 50

section
variable {record : ReceivingRecord} {line : ReceivingLine} {lines : List ReceivingLine} {db : Db}

theorem applyStockDeltaTx_eq
    (small : |onHandAt db (record.warehouseId, line.ingredientId)| + |line.quantity| < 2 ^ 50) :
    applyStockDeltaTx record line db =
      Inventory.Service.applyStockDeltaTx (receivingDelta record line) db := by
  have alone : |line.quantity| < 2 ^ 50 :=
    lt_of_le_of_lt (le_add_of_nonneg_left (abs_nonneg _)) small
  unfold applyStockDeltaTx Inventory.Service.applyStockDeltaTx
  refine bind_congr fun item m got => ?_
  obtain ⟨_, _, onHand, _⟩ := getOrCreateItemTx_opens got
  rw [← onHand] at small
  have whole : (item.onHand : ℚ) + (receivingDelta record line).delta =
      ((item.onHand + line.quantity : Quantity) : ℚ) := by
    simp only [receivingDelta]
    push_cast
    rfl
  have quantity : toDecimal (receivingDelta record line).delta = line.quantity :=
    roundHalfAway_intCast line.quantity
  simp only [toDecimal_add small, toDecimal_double alone, whole, quantity]
  simp only [toDecimal, roundHalfAway_intCast]
  rfl

theorem receivingLoop_eq (keys : StockKeys (stockState db))
    (countable : Countable db record lines) : lines.forM (applyStockDeltaTx record) db = lines.forM
      (fun line => Inventory.Service.applyStockDeltaTx (receivingDelta record line)) db := by
  induction lines generalizing db with
  | nil => rfl
  | cons line lines ih =>
    obtain ⟨absent, distinct⟩ := nodup_cons.mp countable.ingredients
    refine (bind_congr_left (applyStockDeltaTx_eq (countable.small line mem_cons_self))
      fun _ => lines.forM (applyStockDeltaTx record)).trans ?_
    refine bind_congr fun _ m turn => ih ?_ ⟨distinct, fun later listed => ?_⟩
    · have shows_ : Concurrent.Shows db (0, 0) ⟨onHandAt db (0, 0), reservedAt db (0, 0), []⟩ :=
        ⟨rfl, rfl⟩
      exact (Concurrent.applyStockDeltaTx_shows keys shows_ turn).1
    · have other : (record.warehouseId, line.ingredientId) ≠
          (record.warehouseId, later.ingredientId) := by
        intro same
        exact absent (mem_map.mpr ⟨later, listed, (congrArg Prod.snd same).symm⟩)
      have shows_ : Concurrent.Shows db (record.warehouseId, later.ingredientId)
          ⟨onHandAt db (record.warehouseId, later.ingredientId),
            reservedAt db (record.warehouseId, later.ingredientId), []⟩ := ⟨rfl, rfl⟩
      obtain ⟨_, after⟩ := Concurrent.applyStockDeltaTx_shows keys shows_ turn
      rw [show (((receivingDelta record line).warehouseId,
        (receivingDelta record line).ingredientId) : Place) =
          (record.warehouseId, line.ingredientId) from rfl, if_neg other] at after
      rw [after.onHand]
      exact countable.small later (mem_cons_of_mem _ listed)

theorem completeReceivingRecordTx_eq {receivedBy : Option String} (keys : StockKeys (stockState db))
    (countable : ∀ record lines, getReceivingRecordTx id db = .ok (record, lines) →
      Countable db record lines) :
    completeReceivingRecordTx now id receivedBy db =
      Inventory.Service.completeReceivingRecordTx now id receivedBy db := by
  unfold completeReceivingRecordTx Inventory.Service.completeReceivingRecordTx
  refine bind_congr fun read m found => ?_
  obtain ⟨stored, rfl⟩ := read_ok_iff.mp found
  obtain ⟨record, lines⟩ := read
  dsimp only
  split
  · rfl
  · exact bind_congr_left (receivingLoop_eq keys (countable record lines stored)) _

end

/-- The items stay, but for what is on hand. -/
structure Restocks (db db' : Db) : Prop where
  items : ∀ item ∈ db.stock.items, ∃ onHand, { item with onHand } ∈ db'.stock.items
  setup : db'.setup = db.setup

theorem restocks_refl (db : Db) : Restocks db db := ⟨fun item stored => ⟨item.onHand, stored⟩, rfl⟩

theorem restocks_trans (a b c : Db) (first : Restocks a b) (later : Restocks b c) :
    Restocks a c where
  items item stored := by
    obtain ⟨_, kept⟩ := first.items item stored
    obtain ⟨onHand, last⟩ := later.items _ kept
    exact ⟨onHand, last⟩
  setup := later.setup.trans first.setup

section
variable {record : ReceivingRecord} {line : ReceivingLine} {lines : List ReceivingLine}
  {db db' : Db}

theorem getOrCreateItemTx_restocks {tenantId w i : Id} {item : InventoryItem}
    (h : getOrCreateItemTx tenantId w i db = .ok (item, db')) : Restocks db db' := by
  simp only [getOrCreateItemTx, bind_ok_iff, read_ok_iff] at h
  obtain ⟨found, _, ⟨_, rfl⟩, h⟩ := h
  cases found with
  | some existing =>
    obtain ⟨_, rfl⟩ := pure_ok_iff.mp h
    exact restocks_refl _
  | none =>
    simp only [bind_ok_iff, freshId_ok_iff, Table.create_ok_iff] at h
    obtain ⟨_, _, ⟨rfl, rfl⟩, rfl, rfl⟩ := h
    exact ⟨fun item stored => ⟨item.onHand, mem_append_left _ stored⟩, rfl⟩

theorem applyStockDeltaTx_restocks {input : StockDelta} {u : Unit}
    (h : Inventory.Service.applyStockDeltaTx input db = .ok (u, db')) : Restocks db db' := by
  simp only [Inventory.Service.applyStockDeltaTx, bind_ok_iff, freshId_ok_iff,
    Table.create_ok_iff, Table.update_ok_iff, pure_ok_iff] at h
  obtain ⟨item, m, got, _, _, ⟨_, _, _, rfl⟩, _, _, ⟨rfl, rfl⟩, _, _, ⟨rfl, rfl⟩, _, rfl⟩ := h
  have opened := getOrCreateItemTx_restocks got
  refine ⟨fun row stored => ?_, opened.setup⟩
  obtain ⟨onHand, there⟩ := opened.items row stored
  by_cases here : row.id = item.id
  · exact ⟨toDecimal (item.onHand + input.delta), Rows.mem_modify.mpr ⟨_, there, if_pos here⟩⟩
  · exact ⟨onHand, Rows.mem_modify.mpr ⟨_, there, if_neg here⟩⟩

theorem completeReceivingRecordTx_restocks {receivedBy : Option String}
    {received : ReceivingRecord × List ReceivingLine}
    (h : Inventory.Service.completeReceivingRecordTx now id receivedBy db = .ok (received, db')) :
    Restocks db db' := by
  rcases completeReceivingRecordTx_ok h with ⟨_, rfl⟩ | ⟨record, m, f, _, _, loop, _, rfl, _⟩
  · exact restocks_refl _
  · obtain ⟨items, setup⟩ := forM_related restocks_refl restocks_trans
      (fun _ _ _ _ _ => applyStockDeltaTx_restocks) loop
    exact ⟨items, setup⟩

end

/-- An item that is recommended, and its ingredient. -/
structure Short (s : Supply) (tenantId : Id) (item : InventoryItem) (ingredient : Ingredient) :
    Prop where
  stored : item ∈ s.db.stock.items
  tenant : item.tenantId = tenantId
  found : s.ingredients.find? (fun row =>
    row.id = item.ingredientId ∧ row.tenantId = tenantId) = some ingredient
  warehouse : (s.db.setup.warehouses.find? fun row =>
    row.id = item.warehouseId ∧ row.tenantId = tenantId).isSome
  short : 0 < (recommendation ingredient item).recommendedOrderQuantity

theorem recommend_eq_some_iff {s : Supply} {tenantId : Id} {item : InventoryItem}
    {row : Recommendation} : recommend s tenantId item = some row ↔ ∃ ingredient,
      s.ingredients.find? (fun row => row.id = item.ingredientId ∧ row.tenantId = tenantId) =
        some ingredient ∧
      (s.db.setup.warehouses.find? fun row =>
        row.id = item.warehouseId ∧ row.tenantId = tenantId).isSome ∧
      0 < (recommendation ingredient item).recommendedOrderQuantity ∧
      row = recommendation ingredient item := by
  simp only [recommend, Option.bind_eq_bind, Option.bind_eq_some_iff, Option.ite_none_left_eq_some,
    Option.some.injEq, not_le, Option.isSome_iff_exists]
  constructor
  · rintro ⟨ingredient, found, warehouse, placed, short, rfl⟩
    exact ⟨ingredient, found, ⟨warehouse, placed⟩, short, rfl⟩
  · rintro ⟨ingredient, found, ⟨warehouse, placed⟩, short, rfl⟩
    exact ⟨ingredient, found, warehouse, placed, short, rfl⟩

theorem mem_recommendations_iff {s : Supply} {tenantId : Id} {warehouseId : Option Id}
    {row : Recommendation} : row ∈ recommendations s tenantId warehouseId ↔ ∃ item ingredient,
      Short s tenantId item ingredient ∧ warehouseId.all (· = item.warehouseId) = true ∧
        row = recommendation ingredient item := by
  rw [recommendations, mem_insertionSort, mem_filterMap]
  simp only [mem_filter, decide_eq_true_eq, recommend_eq_some_iff]
  constructor
  · rintro ⟨item, ⟨stored, tenant, placed⟩, ingredient, found, warehouse, short, rfl⟩
    exact ⟨item, ingredient, ⟨stored, tenant, found, warehouse, short⟩, placed, rfl⟩
  · rintro ⟨item, ingredient, ⟨stored, tenant, found, warehouse, short⟩, placed, rfl⟩
    exact ⟨item, ⟨stored, tenant, placed⟩, ingredient, found, warehouse, short, rfl⟩

section
variable {s : Supply} {tenantId warehouseId : Id} {item item' : InventoryItem}
  {ingredient ingredient' : Ingredient}

theorem Short.about (short : Short s tenantId item ingredient) :
    ingredient ∈ s.ingredients ∧ ingredient.id = item.ingredientId ∧
      ingredient.tenantId = tenantId := by
  have matched : ingredient.id = item.ingredientId ∧ ingredient.tenantId = tenantId := by
    simpa using find?_some short.found
  exact ⟨mem_of_find?_eq_some short.found, matched⟩

theorem recommendations_ingredients (keys : StockKeys (stockState s.db))
    (tenantId warehouseId : Id) :
    ((recommendations s tenantId (some warehouseId)).map Recommendation.ingredientId).Nodup := by
  rw [recommendations, ((perm_insertionSort _ _).map _).nodup_iff, List.Nodup,
    pairwise_map, pairwise_filterMap, pairwise_filter]
  refine (pairwise_map.mp keys.places).imp ?_
  intro item item' apart here here' row recommended row' recommended' same
  have there : item.tenantId = tenantId ∧ warehouseId = item.warehouseId := by simpa using here
  have there' : item'.tenantId = tenantId ∧ warehouseId = item'.warehouseId := by simpa using here'
  obtain ⟨ingredient, found, _, _, rfl⟩ := recommend_eq_some_iff.mp recommended
  obtain ⟨ingredient', found', _, _, rfl⟩ := recommend_eq_some_iff.mp recommended'
  have about : ingredient.id = item.ingredientId := by
    have matched := find?_some found
    simp only [decide_eq_true_eq] at matched
    exact matched.1
  have about' : ingredient'.id = item'.ingredientId := by
    have matched := find?_some found'
    simp only [decide_eq_true_eq] at matched
    exact matched.1
  exact apart (Prod.ext (there.2.symm.trans there'.2) (about.symm.trans (same.trans about')))

end

@[simp] theorem ingredientOf_toRecord (r : Recommendation) :
    ingredientOf r.toRecord = some r.ingredientId := by
  simpa [ingredientOf, Recommendation.toRecord, Record.get_cons, idText, idOf?] using
    wholeOf?_toString r.ingredientId

@[simp] theorem exportRow_toRecord (r : Recommendation) :
    exportRow r.toRecord = ⟨r.ingredientCode, r.recommendedOrderQuantity⟩ := by
  simp [exportRow, Recommendation.toRecord, Record.get_cons, Json.orElse, Json.toText]

theorem createReplenishmentJobTx_ok {query : ReplenishmentReportQuery} {s t : Supply}
    {job : InventoryReplenishmentJob}
    (h : createReplenishmentJobTx now context query s = .ok (job, t)) :
    t = { s with db := { s.db with nextId := s.db.nextId + 1 }, jobs := s.jobs ++ [job] } ∧
      job.id = s.db.nextId ∧ job.warehouseId = query.warehouseId ∧ existingReceiving job = none ∧
      recommendedItems job = (recommendations s job.tenantId query.warehouseId).map
        Recommendation.toRecord := by
  simp only [createReplenishmentJobTx, bind_ok_iff, lift_ok_iff, read_ok_iff,
    Table.create_ok_iff, onDb_ok_iff, freshId_ok_iff] at h
  obtain ⟨tenantId, _, ⟨_, rfl⟩, _, _, ⟨rows, rfl⟩, _, _, ⟨_, ⟨rfl, rfl⟩, rfl⟩, rfl, rfl⟩ := h
  obtain rfl := Except.ok.inj rows
  refine ⟨rfl, rfl, rfl, ?_, ?_⟩
  · simp [existingReceiving, getReplenishmentWorkflow, asRecord, Record.get_cons, textOf]
  · simp [recommendedItems, Record.get_cons]

section
variable {s u : Supply} {tenantId warehouseId : Id} {record : ReceivingRecord}
  {rows : List Recommendation} {lines : List ReceivingLine}

theorem LineOf.own {row : Recommendation} {line : ReceivingLine} {item : InventoryItem}
    {ingredient : Ingredient} (catalogue : Catalogue s) (short : Short s tenantId item ingredient)
    (is : row = recommendation ingredient item) (same : u.ingredients = s.ingredients)
    (made : LineOf u tenantId record.id (exportRow row.toRecord) line) :
    line.ingredientId = row.ingredientId ∧
      line.quantity = toDecimal (row.recommendedOrderQuantity * 10000) := by
  obtain ⟨_, ⟨found, resolved, id⟩, quantity⟩ := made
  rw [exportRow_toRecord] at resolved quantity
  have matched : found.tenantId = tenantId ∧ found.code = row.ingredientCode := by
    simpa using find?_some (required_ok_iff.mp resolved)
  have stored : found ∈ s.ingredients := same ▸ (resolveIngredient_ok resolved).1
  obtain ⟨stored', about, tenant⟩ := short.about
  have own := catalogue.codes found stored ingredient stored' (matched.1.trans tenant.symm)
    (matched.2.trans (by rw [is]; rfl))
  refine ⟨?_, quantity⟩
  rw [id, own, is]
  rfl

theorem lines_pairs (catalogue : Catalogue s) (same : u.ingredients = s.ingredients)
    (short : ∀ row ∈ rows, ∃ item ingredient, Short s tenantId item ingredient ∧
      row = recommendation ingredient item)
    (made : List.Forall₂ (LineOf u tenantId record.id) (rows.map fun row => exportRow row.toRecord)
      lines) :
    lines.map (fun line => (line.ingredientId, line.quantity)) = rows.map fun row =>
      (row.ingredientId, toDecimal (row.recommendedOrderQuantity * 10000)) := by
  have each := (forall₂_and_left (p := (· ∈ rows)) rows lines).mpr
    ⟨fun _ h => h, forall₂_map_left_iff.mp made⟩
  have pairs : List.Forall₂ (· = ·)
      (rows.map fun row => (row.ingredientId, toDecimal (row.recommendedOrderQuantity * 10000)))
      (lines.map fun line => (line.ingredientId, line.quantity)) := by
    refine forall₂_map_left_iff.mpr (forall₂_map_right_iff.mpr (each.imp ?_))
    rintro row line ⟨listed, line_⟩
    obtain ⟨item, ingredient, about, is⟩ := short row listed
    obtain ⟨own, quantity⟩ := LineOf.own catalogue about is same line_
    rw [own, quantity]
  rw [forall₂_eq_eq_eq] at pairs
  exact pairs.symm

end

theorem createReplenishmentJobTx_stocked {query : ReplenishmentReportQuery} {s t : Supply}
    {job : InventoryReplenishmentJob} (stocked : Stocked s)
    (h : createReplenishmentJobTx now context query s = .ok (job, t)) :
    Stocked t ∧ jobOf t job.id = some job := by
  obtain ⟨rfl, id, _⟩ := createReplenishmentJobTx_ok h
  have others : ∀ old ∈ s.jobs, old.id ≠ job.id := fun old stored =>
    ne_of_lt (id ▸ stocked.jobs.given old stored)
  have kept : SupplyKept s { s with
      db := { s.db with nextId := s.db.nextId + 1 }, jobs := s.jobs ++ [job] } :=
    SupplyKept.jobs rfl rfl (Nat.le_succ _)
  refine ⟨⟨⟨?_, ?_⟩, kept.stock stocked.stock, kept.receivings.old stocked.receivings,
    kept.catalogue stocked.catalogue⟩, Rows.find_append_new others⟩
  · refine Rows.nodup_append_key stocked.jobs.unique fun listed => ?_
    obtain ⟨old, stored, same⟩ := mem_map.mp listed
    exact others old stored same
  · intro row stored
    rcases mem_append.mp stored with before | new
    · exact Nat.lt_succ_of_lt (stocked.jobs.given row before)
    · rw [mem_singleton.mp new, id]
      exact Nat.lt_succ_self _

/-- What a receipt reads of a job stays until then. -/
structure Carried (job job' : InventoryReplenishmentJob) : Prop where
  tenantId : job'.tenantId = job.tenantId
  warehouseId : job'.warehouseId = job.warehouseId
  items : recommendedItems job' = recommendedItems job
  existing : existingReceiving job' = existingReceiving job

theorem run_carried {s : Supply} {job : InventoryReplenishmentJob} (stocked : Stocked s) (id : Id)
    (found : jobOf s id = some job) (rs : List SupplyRequest)
    (others : ∀ r ∈ rs, ∀ dto, r.call ≠ .receive id dto) :
    Stocked (run s rs) ∧ ∃ job', jobOf (run s rs) id = some job' ∧ Carried job job' := by
  induction rs generalizing s job with
  | nil => exact ⟨stocked, job, found, rfl, rfl, rfl, rfl⟩
  | cons r rs ih =>
    have turn : JobTurn id s (step s r) := step_jobTurn stocked (others r mem_cons_self)
    cases turn with
    | unborn before | generated _ before =>
      rw [before] at found
      cases found
    | carried job₀ job₁ before after keeps moves =>
      obtain rfl := Option.some.inj (before.symm.trans found)
      obtain ⟨kept, job₂, last, carried⟩ := ih (step_stocked stocked r) after
        fun r listed => others r (mem_cons_of_mem _ listed)
      refine ⟨kept, job₂, last, carried.tenantId.trans ?_, carried.warehouseId.trans ?_,
        carried.items.trans keeps.items, carried.existing.trans keeps.existing⟩
      · rw [keeps.row]
      · rw [keeps.row]

/-- The receipt that a fully received job had. -/
structure Receipt (s t : Supply) (job : InventoryReplenishmentJob) (warehouseId : Id)
    (record : ReceivingRecord) (lines : List ReceivingLine) (m : Supply) : Prop where
  opened : ReceiptOpened s m job warehouseId record lines
  setup : m.db.setup = s.db.setup
  completed : ∃ now receivedBy received,
    completeReceivingRecordTx now record.id receivedBy m.db = .ok (received, t.db)
  ingredients : t.ingredients = s.ingredients

theorem frames_onDb {α : Type} {x : Transaction α} (frames : Tx.Frames Db.setup x) :
    Tx.Frames (fun s : Supply => s.db.setup) (onDb x) := by
  intro s a t h
  obtain ⟨db, done, rfl⟩ := onDb_ok_iff.mp h
  exact frames _ _ _ done

theorem freshId_setup : Tx.Frames Db.setup freshId := by
  intro db id db' h
  obtain ⟨_, rfl⟩ := freshId_ok_iff.mp h
  rfl

theorem openReceiptTx_setup (current : InventoryReplenishmentJob) (warehouseId : Id)
    (input : ReceiveReplenishmentJobDto) :
    Tx.Frames (fun s : Supply => s.db.setup) (openReceiptTx current warehouseId input) :=
  frames_bind (frames_lift _) fun _ =>
    frames_bind (frames_onDb freshId_setup) fun _ =>
      frames_bind (frames_onDb (Table.frames_create (fun _ _ => rfl) _)) fun _ =>
        frames_bind (frames_forM fun _ =>
          frames_bind (frames_read _) fun _ =>
            frames_bind (frames_onDb freshId_setup) fun _ =>
              frames_bind (frames_onDb (Table.frames_create (fun _ _ => rfl) _)) fun _ =>
                frames_pure _) fun _ => frames_pure _

theorem receiveReplenishmentJobTx_ok {input : ReceiveReplenishmentJobDto} {s t : Supply}
    {job : InventoryReplenishmentJob} {received : ReceivingRecord × List ReceivingLine}
    (found : jobOf s id = some job) (first : existingReceiving job = none)
    (h : receiveReplenishmentJobTx now context id input s = .ok (received, t)) :
    ∃ warehouseId record m n, job.warehouseId = some warehouseId ∧
      openReceiptTx job warehouseId input s = .ok (record, m) ∧
      (input.autoComplete = some false ∧ n = m ∧
          getReceivingRecordTx record.id m.db = .ok received ∨
        input.autoComplete ≠ some false ∧
          onDb (completeReceivingRecordTx now record.id input.receivedBy) m =
            .ok (received, n)) ∧ t.db = n.db ∧ t.ingredients = n.ingredients := by
  simp only [receiveReplenishmentJobTx, bind_ok_iff, read_ok_iff] at h
  obtain ⟨⟨current, warehouseId⟩, _, ⟨admitted, rfl⟩, h⟩ := h
  simp only [admitReceipt, except_bind_ok_iff, required_ok_iff, rejectIf_ok_iff,
    except_pure_ok_iff] at admitted
  obtain ⟨stored, found', place, placed, _, _, _, _, same⟩ := admitted
  obtain ⟨rfl, rfl⟩ := Prod.mk.inj same
  obtain rfl := Option.some.inj (found.symm.trans (admitJob_ok found'))
  rw [first] at h
  obtain ⟨record, m, opened, h⟩ := bind_ok h
  by_cases kept : input.autoComplete = some false
  · simp only [if_pos kept, bind_ok_iff, read_ok_iff, Table.update_ok_iff, pure_ok_iff] at h
    obtain ⟨finalized, _, ⟨read, rfl⟩, _, _, ⟨row, _, rfl, rfl⟩, rfl, rfl⟩ := h
    exact ⟨place, record, m, m, placed, opened, .inl ⟨kept, rfl, read⟩, rfl, rfl⟩
  · simp only [if_neg kept, bind_ok_iff, Table.update_ok_iff, pure_ok_iff] at h
    obtain ⟨finalized, n, done, _, _, ⟨row, _, rfl, rfl⟩, rfl, rfl⟩ := h
    exact ⟨place, record, m, n, placed, opened, .inr ⟨kept, done⟩, rfl, rfl⟩

theorem FullyReceived.receipt {s t : Supply} {job : InventoryReplenishmentJob}
    (found : jobOf s id = some job) (first : existingReceiving job = none)
    (full : FullyReceived id s t) :
    ∃ warehouseId record lines m, job.warehouseId = some warehouseId ∧
      Receipt s t job warehouseId record lines m := by
  cases full with
  | atOnce now context input received completes done =>
    obtain ⟨warehouseId, record, m, n, placed, opening, finished, db, ingredients⟩ :=
      receiveReplenishmentJobTx_ok found first done
    obtain ⟨lines, opened⟩ := openReceiptTx_ok opening
    obtain ⟨leaves, _⟩ | ⟨_, completed⟩ := finished
    · exact absurd leaves completes
    obtain ⟨db', counted, rfl⟩ := onDb_ok_iff.mp completed
    refine ⟨warehouseId, record, lines, m, placed, opened, openReceiptTx_setup _ _ _ _ _ _ opening,
      ⟨now, input.receivedBy, received, by rw [db]; exact counted⟩, ?_⟩
    rw [ingredients, opened.only.rest]
  | afterwards now later context context' input receivedBy result received u leaves done
      completed =>
    obtain ⟨warehouseId, record, m, n, placed, opening, finished, db, ingredients⟩ :=
      receiveReplenishmentJobTx_ok found first done
    obtain ⟨lines, opened⟩ := openReceiptTx_ok opening
    obtain ⟨_, rfl, read⟩ | ⟨completes, _⟩ := finished
    swap
    · exact absurd leaves completes
    obtain ⟨db', counted, rfl⟩ := onDb_ok_iff.mp completed
    have own : result.1.id = record.id :=
      (Table.findUnique_mem (getReceivingRecordTx_ok read).1).2
    simp only [receiveTx, bind_ok_iff, read_ok_iff, lift_ok_iff] at counted
    obtain ⟨_, _, ⟨_, rfl⟩, _, _, ⟨_, rfl⟩, counted⟩ := counted
    rw [own, db] at counted
    refine ⟨warehouseId, record, lines, n, placed, opened, openReceiptTx_setup _ _ _ _ _ _ opening,
      ⟨later, receivedBy, received, counted⟩, ?_⟩
    rw [show ({ u with db := db' } : Supply).ingredients = u.ingredients from rfl, ingredients,
      opened.only.rest]

def Moderate (ingredient : Ingredient) (item : InventoryItem) : Prop :=
  |item.onHand| + |item.reserved| + |item.reorderPoint| + |ingredient.lowStockThreshold| < 2 ^ 49

def filledTo (ingredient : Ingredient) (item : InventoryItem) : Quantity :=
  max item.reorderPoint ingredient.lowStockThreshold + item.reserved

/-- The rounded difference of the target with what is reserved, and what is reserved, reaches the
target. -/
def Closes (ingredient : Ingredient) (item : InventoryItem) : Prop :=
  max (double item.reorderPoint) (double ingredient.lowStockThreshold) ≤
    sub (double (filledTo ingredient item)) (double item.reserved)

instance (ingredient : Ingredient) (item : InventoryItem) : Decidable (Moderate ingredient item) :=
  inferInstanceAs (Decidable (_ < _))

instance (ingredient : Ingredient) (item : InventoryItem) : Decidable (Closes ingredient item) :=
  inferInstanceAs (Decidable (_ ≤ _))

section
variable {s u t m : Supply} {job : InventoryReplenishmentJob} {tenantId warehouseId : Id}
  {record : ReceivingRecord} {lines : List ReceivingLine} {item : InventoryItem}
  {ingredient : Ingredient}

theorem recommended_pos_iff : 0 < (recommendation ingredient item).recommendedOrderQuantity ↔
    sub (double item.onHand) (double item.reserved) <
      max (double item.reorderPoint) (double ingredient.lowStockThreshold) := by
  rw [Recommendation.recommendedOrderQuantity, lt_max_iff, or_iff_left (lt_irrefl _), sub,
    round_pos_iff, sub_pos]
  rfl

theorem not_closes_iff : ¬Closes ingredient item ↔
    0 < (recommendation ingredient
      { item with onHand := filledTo ingredient item }).recommendedOrderQuantity := by
  rw [recommended_pos_iff, Closes, not_le]

theorem Short.gap (short : Short s tenantId item ingredient) (moderate : Moderate ingredient item) :
    item.onHand + toDecimal ((recommendation ingredient item).recommendedOrderQuantity * 10000) =
      filledTo ingredient item ∧
    |item.onHand| +
      |toDecimal ((recommendation ingredient item).recommendedOrderQuantity * 10000)| < 2 ^ 50 := by
  have some_ := short.short
  have is : (recommendation ingredient item).recommendedOrderQuantity =
      sub (max (double item.reorderPoint) (double ingredient.lowStockThreshold))
        (sub (double item.onHand) (double item.reserved)) := by
    rw [Recommendation.recommendedOrderQuantity, lt_max_iff, or_iff_left (lt_irrefl _)] at some_
    exact max_eq_left some_.le
  have gap : toDecimal ((recommendation ingredient item).recommendedOrderQuantity * 10000) =
      max item.reorderPoint ingredient.lowStockThreshold - (item.onHand - item.reserved) := by
    rw [is]
    exact roundHalfAway_of_near (gap_near moderate)
  have target : |max item.reorderPoint ingredient.lowStockThreshold| ≤
      |item.reorderPoint| + |ingredient.lowStockThreshold| :=
    le_trans abs_max_le_max_abs_abs
      (max_le (le_add_of_nonneg_right (abs_nonneg _)) (le_add_of_nonneg_left (abs_nonneg _)))
  rw [gap, filledTo]
  unfold Moderate at moderate
  generalize max item.reorderPoint ingredient.lowStockThreshold = T at *
  refine ⟨by ring, ?_⟩
  have range : |T - (item.onHand - item.reserved)| ≤ |T| + (|item.onHand| + |item.reserved|) :=
    le_trans (abs_sub _ _) (add_le_add_right (abs_sub _ _) _)
  have doubled : (2 : ℤ) ^ 50 = 2 * 2 ^ 49 := by norm_num
  rw [doubled]
  linarith [abs_nonneg item.reserved, abs_nonneg item.reorderPoint,
    abs_nonneg ingredient.lowStockThreshold]

/-- Nothing that the job depends on is changed before its receipt. -/
structure Undisturbed (s u : Supply) : Prop where
  stock : u.db.stock = s.db.stock
  setup : u.db.setup = s.db.setup
  ingredients : u.ingredients = s.ingredients

theorem Receipt.filled (receipt : Receipt u t job warehouseId record lines m) (stocked : Stocked s)
    (keysU : StockKeys (stockState u.db)) (old : ReceivingsOld u.db) (undisturbed : Undisturbed s u)
    (items : recommendedItems job =
      (recommendations s tenantId (some warehouseId)).map Recommendation.toRecord)
    (tenant : job.tenantId = tenantId)
    (moderate : ∀ item ingredient, Short s tenantId item ingredient →
      item.warehouseId = warehouseId → Moderate ingredient item) :
    StockKeys (stockState t.db) ∧ t.db.setup = s.db.setup ∧
      ∀ item ingredient, Short s tenantId item ingredient → item.warehouseId = warehouseId →
        { item with onHand := filledTo ingredient item } ∈ t.db.stock.items := by
  obtain ⟨opened, setup, ⟨now, receivedBy, received, completed⟩, ingredients⟩ := receipt
  -- The lines are those of the recommended rows.
  have made := opened.made
  rw [mapReplenishmentExportRows_eq, items, map_map, tenant] at made
  have short : ∀ row ∈ recommendations s tenantId (some warehouseId), ∃ item ingredient,
      Short s tenantId item ingredient ∧ row = recommendation ingredient item := by
    intro row listed
    obtain ⟨item, ingredient, about, _, is⟩ := mem_recommendations_iff.mp listed
    exact ⟨item, ingredient, about, is⟩
  have pairs := lines_pairs stocked.catalogue undisturbed.ingredients short made
  have distinct : (lines.map ReceivingLine.ingredientId).Nodup := by
    have first := congrArg (map Prod.fst) pairs
    simp only [map_map] at first
    have same : lines.map ReceivingLine.ingredientId =
        (recommendations s tenantId (some warehouseId)).map Recommendation.ingredientId := first
    rw [same]
    exact recommendations_ingredients stocked.stock tenantId warehouseId
  have stockM : m.db.stock = s.db.stock := opened.stock.trans undisturbed.stock
  have keysM : StockKeys (stockState m.db) := by
    have state : stockState m.db = ⟨u.db.stock, m.db.nextId⟩ := by rw [stockState, opened.stock]
    rw [state]
    exact keysU.later opened.only.grows
  have line_of {item : InventoryItem} {ingredient : Ingredient}
      (about : Short s tenantId item ingredient) (there : item.warehouseId = warehouseId) :
      ∃ line ∈ lines, line.ingredientId = item.ingredientId ∧ line.quantity =
        toDecimal ((recommendation ingredient item).recommendedOrderQuantity * 10000) := by
    have listed : recommendation ingredient item ∈ recommendations s tenantId (some warehouseId) :=
      mem_recommendations_iff.mpr ⟨item, ingredient, about, by simp [there], rfl⟩
    have paired := mem_map_of_mem (f := fun row : Recommendation =>
      (row.ingredientId, toDecimal (row.recommendedOrderQuantity * 10000))) listed
    rw [← pairs] at paired
    obtain ⟨line, present, is⟩ := mem_map.mp paired
    obtain ⟨own, quantity⟩ := Prod.mk.inj is
    exact ⟨line, present, own.trans about.about.2.1, quantity⟩
  have countable : Countable m.db record lines := by
    refine ⟨distinct, fun line present => ?_⟩
    have paired := mem_map_of_mem (f := fun line : ReceivingLine =>
      (line.ingredientId, line.quantity)) present
    rw [pairs] at paired
    obtain ⟨row, listed, is⟩ := mem_map.mp paired
    obtain ⟨item, ingredient, about, placed, rfl⟩ := mem_recommendations_iff.mp listed
    obtain ⟨own, quantity⟩ := Prod.mk.inj is
    have there : item.warehouseId = warehouseId := by
      rw [Option.all_some, decide_eq_true_eq] at placed
      exact placed.symm
    have place : (record.warehouseId, line.ingredientId) = item.place :=
      Prod.ext (opened.place.trans there.symm) (own.symm.trans about.about.2.1)
    rw [place, ← quantity, onHandAt_place keysM (stockM ▸ about.stored)]
    exact (about.gap (moderate item ingredient about there)).2
  have counted : Inventory.Service.completeReceivingRecordTx now record.id receivedBy m.db =
      .ok (received, t.db) := by
    rw [← completeReceivingRecordTx_eq keysM ?_]
    · exact completed
    · intro record' lines' read
      obtain ⟨found, rfl⟩ := getReceivingRecordTx_ok read
      obtain rfl := Option.some.inj ((opened.found old).symm.trans found)
      rw [opened.linesOf old]
      exact countable
  have done : onDb (Inventory.Service.completeReceivingRecordTx now record.id receivedBy) m =
      .ok (received, { m with db := t.db }) := onDb_ok_iff.mpr ⟨t.db, counted, rfl⟩
  have restocked := completeReceivingRecordTx_restocks counted
  have keysT : StockKeys (stockState t.db) :=
    (completeReceivingRecordTx_supplyKept done).stock keysM
  obtain ⟨_, _, onHand⟩ := opened.completed old keysU done
  refine ⟨keysT, restocked.setup.trans (setup.trans undisturbed.setup), ?_⟩
  intro item ingredient about there
  obtain ⟨line, present, own, quantity⟩ := line_of about there
  obtain ⟨after, kept⟩ := restocked.items item (stockM ▸ about.stored)
  have place : (record.warehouseId, line.ingredientId) = item.place :=
    Prod.ext (opened.place.trans there.symm) own
  have brought : receivedAt record lines item.place = line.quantity := by
    have same : (fun other : ReceivingLine =>
        decide ((record.warehouseId, other.ingredientId) = item.place)) =
        fun other => decide (other.ingredientId = line.ingredientId) := by
      funext other
      rw [← place]
      simp
    rw [receivedAt, same]
    exact Rows.total_key distinct present
  have before : onHandAt u.db item.place = item.onHand :=
    onHandAt_place keysU (undisturbed.stock ▸ about.stored)
  have final : onHandAt t.db item.place = after := onHandAt_place keysT kept
  have total := onHand item.place
  rw [show ({ m with db := t.db } : Supply).db = t.db from rfl, final, before, brought, quantity,
    (about.gap (moderate item ingredient about there)).1] at total
  rw [← total]
  exact kept

end

def RecommendedAgain (job : InventoryReplenishmentJob) (t : Supply) : Prop :=
  ∃ warehouseId, ∃ row ∈ recommendations t job.tenantId warehouseId,
    job.warehouseId = some row.warehouseId ∧
      ∃ item ∈ recommendedItems job, ingredientOf item = some row.ingredientId

/-- A job is generated, and received in full after requests that leave the stock and the catalogue
as they are. Nothing is recommended for its items again just when the rounded difference of each
item reaches its target. -/
theorem not_recommended_again_iff {now : Instant} {context : RequestContext}
    {query : ReplenishmentReportQuery} {s generated t : Supply} {job : InventoryReplenishmentJob}
    (stocked : Stocked s)
    (created : createReplenishmentJobTx now context query s = .ok (job, generated))
    (rs : List SupplyRequest) (others : ∀ r ∈ rs, ∀ dto, r.call ≠ .receive job.id dto)
    (undisturbed : Undisturbed s (run generated rs))
    (received : FullyReceived job.id (run generated rs) t)
    (moderate : ∀ item ingredient, Short s job.tenantId item ingredient →
      job.warehouseId = some item.warehouseId → Moderate ingredient item) :
    ¬RecommendedAgain job t ↔ ∀ item ingredient, Short s job.tenantId item ingredient →
      job.warehouseId = some item.warehouseId → Closes ingredient item := by
  obtain ⟨stockedG, found⟩ := createReplenishmentJobTx_stocked stocked created
  obtain ⟨is, _, queried, first, items⟩ := createReplenishmentJobTx_ok created
  obtain ⟨stockedU, job', found', carried⟩ := run_carried stockedG job.id found rs others
  obtain ⟨warehouseId, record, lines, m, placed, receipt⟩ :=
    received.receipt found' (carried.existing.trans first)
  have home : job.warehouseId = some warehouseId := carried.warehouseId.symm.trans placed
  have ingredientsT : t.ingredients = s.ingredients :=
    receipt.ingredients.trans undisturbed.ingredients
  obtain ⟨keys, setup, filled⟩ := receipt.filled stocked stockedU.stock stockedU.receivings
    undisturbed (by rw [carried.items, items, ← queried, home]) carried.tenantId
    fun item ingredient about there => moderate item ingredient about (by rw [home, there])
  rw [← queried, home] at items
  constructor
  · intro none item ingredient about there
    by_contra open_
    have here : item.warehouseId = warehouseId := Option.some.inj (there.symm.trans home)
    have again : Short t job.tenantId { item with onHand := filledTo ingredient item } ingredient :=
      { stored := filled item ingredient about here
        tenant := about.tenant
        found := ingredientsT ▸ about.found
        warehouse := setup ▸ about.warehouse
        short := not_closes_iff.mp open_ }
    have row : recommendation ingredient { item with onHand := filledTo ingredient item } ∈
        recommendations t job.tenantId (some warehouseId) :=
      mem_recommendations_iff.mpr ⟨_, ingredient, again, by simp [here], rfl⟩
    have listed : recommendation ingredient item ∈
        recommendations s job.tenantId (some warehouseId) :=
      mem_recommendations_iff.mpr ⟨item, ingredient, about, by simp [here], rfl⟩
    refine none ⟨some warehouseId, _, row, there, (recommendation ingredient item).toRecord, ?_,
      ingredientOf_toRecord _⟩
    rw [items]
    exact List.mem_map_of_mem listed
  · rintro closes ⟨filter, row, listed, there, record', present, named⟩
    obtain ⟨item', ingredient', about', _, rfl⟩ := mem_recommendations_iff.mp listed
    rw [items] at present
    obtain ⟨row, listed, rfl⟩ := List.mem_map.mp present
    obtain ⟨item, ingredient, about, here, rfl⟩ := mem_recommendations_iff.mp listed
    have home' : item'.warehouseId = warehouseId := Option.some.inj (there.symm.trans home)
    rw [Option.all_some, decide_eq_true_eq] at here
    have same : ingredient.id = ingredient'.id := by
      rw [ingredientOf_toRecord] at named
      exact Option.some.inj named
    obtain ⟨stored, own, _⟩ := about.about
    obtain ⟨stored', own', _⟩ := about'.about
    obtain rfl : ingredient = ingredient' :=
      Rows.eq_of_key stocked.catalogue.unique stored (ingredientsT ▸ stored') same
    have place : ({ item with onHand := filledTo ingredient item } : InventoryItem).place =
        item'.place := Prod.ext (here.symm.trans home'.symm) (own.symm.trans own')
    obtain rfl := keys.place_eq (filled item ingredient about here.symm) about'.stored place
    exact not_closes_iff.mpr about'.short (closes item ingredient about (by rw [home, here]))

def manager : RequestContext := ⟨"manager", some 1, .tenantMember, [], none⟩

def milkQuery : ReplenishmentReportQuery := { tenantId := some 1, warehouseId := some 30 }

def milkSteps : List SupplyRequest := [.approve 100, .dispatch 100].map dairyCall

def milkJob (dairy : Supply) : Except ApiException (InventoryReplenishmentJob × Supply) :=
  createReplenishmentJobTx 1 manager milkQuery dairy

def milkReceipt (generated : Supply) :
    Except ApiException ((ReceivingRecord × List ReceivingLine) × Supply) :=
  receiveReplenishmentJobTx 1 manager 100 {} (run generated milkSteps)

def milkOrder : InventoryReplenishmentJob × Supply :=
  (milkJob dairy).toOption.get (by decide +kernel)

def milkDelivery : (ReceivingRecord × List ReceivingLine) × Supply :=
  (milkReceipt milkOrder.2).toOption.get (by decide +kernel)

theorem milk_not_recommended_again :
    milkJob dairy = .ok milkOrder ∧ ¬RecommendedAgain milkOrder.1 milkDelivery.2 := by
  have created : milkJob dairy = .ok milkOrder := eq_ok_get _
  have received : milkReceipt milkOrder.2 = .ok milkDelivery := eq_ok_get _
  have id : milkOrder.1.id = 100 := by decide +kernel
  have undisturbed : Undisturbed dairy (run milkOrder.2 milkSteps) := ⟨rfl, rfl, rfl⟩
  have others : ∀ r ∈ milkSteps, ∀ dto, r.call ≠ .receive milkOrder.1.id dto := by
    rw [id]
    simp [milkSteps, dairyCall, dairyAt]
  have full : FullyReceived milkOrder.1.id (run milkOrder.2 milkSteps) milkDelivery.2 := by
    rw [id]
    exact .atOnce 1 manager {} milkDelivery.1 (by decide) received
  have only {item : InventoryItem} {ingredient : Ingredient}
      (about : Short dairy milkOrder.1.tenantId item ingredient) :
      item = ⟨60, 1, 30, 40, 500000, 0, 0⟩ ∧ ingredient = ⟨40, 1, "MILK", 600000⟩ :=
    ⟨List.mem_singleton.mp about.stored, List.mem_singleton.mp about.about.1⟩
  have moderate : ∀ item ingredient, Short dairy milkOrder.1.tenantId item ingredient →
      milkOrder.1.warehouseId = some item.warehouseId → Moderate ingredient item := by
    intro item ingredient about _
    obtain ⟨rfl, rfl⟩ := only about
    decide
  refine ⟨created, (not_recommended_again_iff dairy_stocked created milkSteps others undisturbed
    full moderate).mpr fun item ingredient about _ => ?_⟩
  obtain ⟨rfl, rfl⟩ := only about
  decide +kernel

def tightDairy : Supply where
  db := { shop with stock := ⟨[⟨60, 1, 30, 40, 1000, 1000, 0⟩], [], []⟩ }
  ingredients := [⟨40, 1, "MILK", 2000⟩]
  jobs := []

def tightOrder : InventoryReplenishmentJob × Supply :=
  (milkJob tightDairy).toOption.get (by decide +kernel)

def tightDelivery : (ReceivingRecord × List ReceivingLine) × Supply :=
  (milkReceipt tightOrder.2).toOption.get (by decide +kernel)

/-- The delivery leaves 0.3 of the milk and 0.1 reserved, and the difference is a little less than
the 0.2 of the threshold. -/
theorem milk_recommended_again :
    ¬∀ (now : Instant) (context : RequestContext) (query : ReplenishmentReportQuery)
      (s generated t : Supply) (job : InventoryReplenishmentJob) (rs : List SupplyRequest),
      Stocked s → createReplenishmentJobTx now context query s = .ok (job, generated) →
      (∀ r ∈ rs, ∀ dto, r.call ≠ .receive job.id dto) → Undisturbed s (run generated rs) →
      FullyReceived job.id (run generated rs) t → ¬RecommendedAgain job t := by
  intro claim
  have stocked : Stocked tightDairy :=
    { jobs := ⟨by simp [tightDairy], by simp [tightDairy]⟩
      stock := by constructor <;> decide
      receivings := ⟨by decide, by decide⟩
      catalogue := ⟨by decide, by decide, by decide⟩ }
  have created : milkJob tightDairy = .ok tightOrder := eq_ok_get _
  have received : milkReceipt tightOrder.2 = .ok tightDelivery := eq_ok_get _
  have id : tightOrder.1.id = 100 := by decide +kernel
  have undisturbed : Undisturbed tightDairy (run tightOrder.2 milkSteps) := ⟨rfl, rfl, rfl⟩
  have others : ∀ r ∈ milkSteps, ∀ dto, r.call ≠ .receive tightOrder.1.id dto := by
    rw [id]
    simp [milkSteps, dairyCall, dairyAt]
  have full : FullyReceived tightOrder.1.id (run tightOrder.2 milkSteps) tightDelivery.2 := by
    rw [id]
    exact .atOnce 1 manager {} tightDelivery.1 (by decide) received
  refine claim 1 manager milkQuery tightDairy tightOrder.2 tightDelivery.2 tightOrder.1 milkSteps
    stocked created others undisturbed full ⟨none, ?_⟩
  decide +kernel

end Exetron.Replenishment.Doubles
