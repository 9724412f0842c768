import Exetron.Inventory.Receivings
import Exetron.Replenishment.Steps

/-!
# Recommended rows and received lines

The rows of a job name ingredients by their codes, and a receipt makes a line for the ingredient
that has the code by then.
-/

namespace Exetron.Replenishment

open Lib Inventory Inventory.Service InventoryReplenishmentJob List Rows

variable {tenantId recordId : Id} {row : Ingredient} {context : RequestContext}
  {rows : List ExportRow}

def recommendedItems (job : InventoryReplenishmentJob) : List InventoryRecord :=
  match (asRecord (some job.artifact)).get "recommendations" with
  | some (.arr items) => items.map fun item => asRecord (some item)
  | _ => []

def ingredientOf (item : InventoryRecord) : Option Id :=
  (textOf (item.get "ingredientId")).bind idOf?

def quantityOf (item : InventoryRecord) : Quantity :=
  toDecimal (toNumber (item.get "recommendedOrderQuantity") * 10000)

theorem mapReplenishmentExportRows_eq (job : InventoryReplenishmentJob) :
    mapReplenishmentExportRows job = (recommendedItems job).map exportRow := by
  unfold mapReplenishmentExportRows recommendedItems
  generalize (asRecord (some job.artifact)).get "recommendations" = found
  cases found with
  | none => rfl
  | some value => cases value <;> simp

section
variable (r : Recommendation)

@[simp] theorem ingredientOf_toRecord : ingredientOf r.toRecord = some r.ingredientId := by
  simpa [ingredientOf, Recommendation.toRecord, Record.get_cons, idText, idOf?] using
    wholeOf?_toString r.ingredientId

@[simp] theorem quantityOf_toRecord : quantityOf r.toRecord = r.recommendedOrderQuantity := by
  have cancel : (r.recommendedOrderQuantity / 10000 : ℚ) * 10000 =
      ((r.recommendedOrderQuantity : Int) : ℚ) := div_mul_cancel₀ _ (by norm_num)
  simp [quantityOf, Recommendation.toRecord, Record.get_cons, units, cancel, toDecimal]

@[simp] theorem exportRow_toRecord :
    exportRow r.toRecord = ⟨r.ingredientCode, r.recommendedOrderQuantity / 10000⟩ := by
  simp [exportRow, Recommendation.toRecord, Record.get_cons, units, Json.orElse, Json.toText]

end

/-- The rows that were recommended for a job. In one warehouse an ingredient has one row at most,
and so has a code. -/
structure Recommended (job : InventoryReplenishmentJob) (rows : List Recommendation) : Prop where
  items : recommendedItems job = rows.map Recommendation.toRecord
  ingredients : job.warehouseId.isSome → (rows.map Recommendation.ingredientId).Nodup
  codes : job.warehouseId.isSome → (rows.map Recommendation.ingredientCode).Nodup
  short : ∀ row ∈ rows, 0 < row.recommendedOrderQuantity

/-- The ids of the ingredients are their own, and so are a tenant's codes. -/
structure Catalogue (s : Supply) : Prop where
  unique : (s.ingredients.map Ingredient.id).Nodup
  given : ∀ row ∈ s.ingredients, row.id < s.db.nextId
  codes : ∀ a ∈ s.ingredients, ∀ b ∈ s.ingredients, a.tenantId = b.tenantId → a.code = b.code →
    a.id = b.id

section
variable {s t : Supply}

theorem Catalogue.mono (catalogue : Catalogue s) (ingredients : t.ingredients = s.ingredients)
    (grows : s.db.nextId ≤ t.db.nextId) : Catalogue t where
  unique := ingredients ▸ catalogue.unique
  given row stored := lt_of_lt_of_le (catalogue.given row (ingredients ▸ stored)) grows
  codes := by
    rw [ingredients]
    exact catalogue.codes

theorem codeTaken_eq_false {id : Id} {code : String} (free : ¬codeTaken s tenantId id code = true)
    (stored : row ∈ s.ingredients) (tenant : row.tenantId = tenantId) (same : row.code = code) :
    row.id = id := by
  by_contra other
  exact free (any_eq_true.mpr ⟨row, stored, by simp [tenant, same, other]⟩)

theorem createIngredientTx_catalogue {dto : CreateIngredientDto}
    (h : createIngredientTx context dto s = .ok (row, t)) (catalogue : Catalogue s) :
    Catalogue t := by
  simp only [createIngredientTx, Tx.bind_ok_iff, Tx.lift_ok_iff, Tx.read_ok_iff, onDb_ok_iff,
    freshId_ok_iff, rejectIf_ok_iff, Table.create_ok_iff] at h
  obtain ⟨tenantId, _, ⟨_, rfl⟩, _, _, ⟨_, ⟨rfl, rfl⟩, rfl⟩, _, _, ⟨free, rfl⟩, rfl, rfl⟩ := h
  have apart : ∀ old ∈ s.ingredients, old.id ≠ s.db.nextId := fun old stored =>
    ne_of_lt (catalogue.given old stored)
  have untaken : ∀ old ∈ s.ingredients, old.tenantId = tenantId → old.code ≠ Text.trim dto.code :=
    fun old stored tenant same => apart old stored (codeTaken_eq_false free stored tenant same)
  constructor
  · refine nodup_append_key catalogue.unique fun listed => ?_
    obtain ⟨old, stored, same⟩ := mem_map.mp listed
    exact apart old stored same
  · intro row' stored
    rcases mem_append.mp stored with before | new
    · exact Nat.lt_succ_of_lt (catalogue.given row' before)
    · rw [mem_singleton.mp new]
      exact Nat.lt_succ_self _
  · intro a ha b hb tenant code
    rcases mem_append.mp ha with ha | ha <;> rcases mem_append.mp hb with hb | hb
    · exact catalogue.codes a ha b hb tenant code
    · obtain rfl := mem_singleton.mp hb
      exact absurd code (untaken a ha tenant)
    · obtain rfl := mem_singleton.mp ha
      exact absurd code.symm (untaken b hb tenant.symm)
    · rw [mem_singleton.mp ha, mem_singleton.mp hb]

theorem updateIngredientTx_catalogue {id : Id} {dto : UpdateIngredientDto}
    (h : updateIngredientTx context id dto s = .ok (row, t)) (catalogue : Catalogue s) :
    Catalogue t := by
  simp only [updateIngredientTx, Tx.bind_ok_iff, Tx.lift_ok_iff, Tx.read_ok_iff, required_ok_iff,
    rejectIf_ok_iff, Table.update_ok_iff] at h
  obtain ⟨current, _, ⟨found, rfl⟩, _, _, ⟨_, rfl⟩, _, _, ⟨free, rfl⟩, _, _, _, rfl⟩ := h
  obtain ⟨stored, here⟩ := Table.findUnique_mem found
  have keeps : ∀ old : Ingredient, (dto.apply old).id = old.id := fun _ => rfl
  have rewritten {row : Ingredient}
      (listed : row ∈ modify Ingredient.id id dto.apply s.ingredients) :
      row = dto.apply current ∨ row ∈ s.ingredients ∧ row.id ≠ id := by
    obtain ⟨old, before, rfl⟩ := mem_modify.mp listed
    by_cases is : old.id = id
    · rw [if_pos is, eq_of_key catalogue.unique before stored (is.trans here.symm)]
      exact .inl rfl
    · rw [if_neg is]
      exact .inr ⟨before, is⟩
  have untaken {old : Ingredient} (before : old ∈ s.ingredients) (other : old.id ≠ id)
      (tenant : old.tenantId = current.tenantId) : old.code ≠ (dto.apply current).code :=
    fun same => other (codeTaken_eq_false free before tenant same)
  constructor
  · show ((modify Ingredient.id id dto.apply s.ingredients).map Ingredient.id).Nodup
    rw [map_modify keeps]
    exact catalogue.unique
  · intro row' listed
    rcases rewritten listed with rfl | ⟨before, _⟩
    · exact catalogue.given current stored
    · exact catalogue.given row' before
  · intro a ha b hb tenant code
    rcases rewritten ha with rfl | ⟨ha, otherA⟩ <;> rcases rewritten hb with rfl | ⟨hb, otherB⟩
    · rfl
    · exact absurd code.symm (untaken hb otherB tenant.symm)
    · exact absurd code (untaken ha otherA tenant)
    · exact catalogue.codes a ha b hb tenant code

end

/-- What is recommended for an item is about its ingredient, and is some quantity. -/
structure RecommendedFor (s : Supply) (tenantId : Id) (item : InventoryItem) (row : Recommendation) :
    Prop where
  ingredient : ∃ ingredient ∈ s.ingredients, ingredient.tenantId = tenantId ∧
    ingredient.id = item.ingredientId ∧ ingredient.code = row.ingredientCode
  ingredientId : row.ingredientId = item.ingredientId
  short : 0 < row.recommendedOrderQuantity

theorem recommend_some {s : Supply} {item : InventoryItem} {row : Recommendation}
    (h : recommend s tenantId item = some row) : RecommendedFor s tenantId item row := by
  simp only [recommend, Option.bind_eq_bind, Option.bind_eq_some_iff, Option.ite_none_left_eq_some,
    Option.some.injEq] at h
  obtain ⟨ingredient, found, warehouse, _, short, rfl⟩ := h
  have matched : ingredient.id = item.ingredientId ∧ ingredient.tenantId = tenantId := by
    simpa using find?_some found
  exact ⟨⟨ingredient, mem_of_find?_eq_some found, matched.2, matched.1, rfl⟩, matched.1,
    not_le.mp short⟩

theorem mem_recommendations {s : Supply} {warehouseId : Option Id} {row : Recommendation}
    (listed : row ∈ recommendations s tenantId warehouseId) :
    ∃ item ∈ s.db.stock.items, warehouseId.all (· = item.warehouseId) = true ∧
      RecommendedFor s tenantId item row := by
  rw [recommendations, mem_insertionSort, mem_filterMap] at listed
  obtain ⟨item, kept, recommended⟩ := listed
  obtain ⟨stored, matched⟩ := mem_filter.mp kept
  have matches' : item.tenantId = tenantId ∧ warehouseId.all (· = item.warehouseId) = true := by
    simpa using matched
  exact ⟨item, stored, matches'.2, recommend_some recommended⟩

theorem recommendations_ingredients {s : Supply} (keys : StockKeys (stockState s.db))
    (tenantId warehouseId : Id) :
    ((recommendations s tenantId (some warehouseId)).map Recommendation.ingredientId).Nodup := by
  rw [recommendations, ((perm_insertionSort _ _).map _).nodup_iff, List.Nodup,
    pairwise_map, pairwise_filterMap, pairwise_filter]
  refine (pairwise_map.mp keys.places).imp ?_
  intro item item' apart here here' row recommended row' recommended' same
  have there : item.warehouseId = warehouseId ∧ item'.warehouseId = warehouseId := by
    constructor
    · have matched : item.tenantId = tenantId ∧ warehouseId = item.warehouseId := by simpa using here
      exact matched.2.symm
    · have matched : item'.tenantId = tenantId ∧ warehouseId = item'.warehouseId := by
        simpa using here'
      exact matched.2.symm
  refine apart (Prod.ext (there.1.trans there.2.symm) ?_)
  exact (recommend_some recommended).ingredientId.symm.trans
    (same.trans (recommend_some recommended').ingredientId)

theorem recommendations_codes {s : Supply} (keys : StockKeys (stockState s.db))
    (catalogue : Catalogue s) (tenantId warehouseId : Id) :
    ((recommendations s tenantId (some warehouseId)).map Recommendation.ingredientCode).Nodup := by
  have distinct := recommendations_ingredients keys tenantId warehouseId
  refine List.Nodup.map_on ?_ (List.Nodup.of_map _ distinct)
  intro row listed row' listed' same
  obtain ⟨item, _, _, ⟨⟨ingredient, stored, tenant, id, code⟩, about, _⟩⟩ :=
    mem_recommendations listed
  obtain ⟨item', _, _, ⟨⟨ingredient', stored', tenant', id', code'⟩, about', _⟩⟩ :=
    mem_recommendations listed'
  have one := catalogue.codes ingredient stored ingredient' stored' (tenant.trans tenant'.symm)
    (code.trans (same.trans code'.symm))
  refine eq_of_key distinct listed listed' ?_
  rw [about, about', ← id, ← id', one]

theorem createReplenishmentJobTx_recommended {now : Instant} {query : ReplenishmentReportQuery}
    {s t : Supply} {job : InventoryReplenishmentJob} (keys : StockKeys (stockState s.db))
    (catalogue : Catalogue s) (h : createReplenishmentJobTx now context query s = .ok (job, t)) :
    ∃ rows, Recommended job rows := by
  obtain ⟨tenantId, _, rfl, _⟩ := createReplenishmentJobTx_ok h
  refine ⟨recommendations s tenantId query.warehouseId, ?_, ?_, ?_, fun row listed => ?_⟩
  · simp [recommendedItems, Record.get_cons]
  · intro placed
    obtain ⟨warehouseId, same⟩ := Option.isSome_iff_exists.mp placed
    rw [show query.warehouseId = some warehouseId from same]
    exact recommendations_ingredients keys tenantId warehouseId
  · intro placed
    obtain ⟨warehouseId, same⟩ := Option.isSome_iff_exists.mp placed
    rw [show query.warehouseId = some warehouseId from same]
    exact recommendations_codes keys catalogue tenantId warehouseId
  · obtain ⟨_, _, _, recommended⟩ := mem_recommendations listed
    exact recommended.short

/-- A line of a receipt is for the ingredient that its row's code finds. -/
structure LineOf (s : Supply) (tenantId recordId : Id) (row : ExportRow) (line : ReceivingLine) :
    Prop where
  record : line.recordId = recordId
  ingredient : ∃ ingredient, resolveIngredient tenantId row s = .ok ingredient ∧
    line.ingredientId = ingredient.id
  quantity : line.quantity = toDecimal (row.recommendedOrderQuantity * 10000)

theorem lines_record {s : Supply} {lines : List ReceivingLine}
    (made : List.Forall₂ (LineOf s tenantId recordId) rows lines) :
    ∀ line ∈ lines, line.recordId = recordId := by
  induction made with
  | nil => simp
  | cons first _ ih => simpa [first.record] using ih

/-- The lines are added to those of the receivings, and nothing else is. -/
structure LinesAdded (lines : List ReceivingLine) (s t : Supply) : Prop where
  only : DbOnly s t
  lines : t.db.inventory.receivingLines = s.db.inventory.receivingLines ++ lines
  records : t.db.inventory.receivingRecords = s.db.inventory.receivingRecords
  stock : t.db.stock = s.db.stock

theorem createLineTx_ok {row : ExportRow} {s t : Supply} {u : PUnit}
    (h : createLineTx tenantId recordId row s = .ok (u, t)) :
    ∃ line, LineOf s tenantId recordId row line ∧ LinesAdded [line] s t := by
  have only := createLineTx_dbOnly h
  simp only [createLineTx, Tx.bind_ok_iff, Tx.read_ok_iff, Tx.pure_ok_iff, onDb_ok_iff,
    freshId_ok_iff, Table.create_ok_iff] at h
  obtain ⟨ingredient, _, ⟨found, rfl⟩, _, _, ⟨_, ⟨rfl, rfl⟩, rfl⟩, _, _, ⟨_, ⟨rfl, rfl⟩, rfl⟩, _,
    rfl⟩ := h
  exact ⟨_, ⟨rfl, ⟨ingredient, found, rfl⟩, rfl⟩, only, rfl, rfl, rfl⟩

theorem createLines_ok {s t : Supply} {u : PUnit}
    (h : rows.forM (createLineTx tenantId recordId) s = .ok (u, t)) :
    ∃ lines, List.Forall₂ (LineOf s tenantId recordId) rows lines ∧ LinesAdded lines s t := by
  induction rows generalizing s with
  | nil =>
    obtain ⟨_, rfl⟩ := Tx.pure_ok_iff.mp h
    exact ⟨[], .nil, .refl _, (append_nil _).symm, rfl, rfl⟩
  | cons row rows ih =>
    obtain ⟨_, m, first, rest⟩ := Tx.bind_ok h
    obtain ⟨line, made, added⟩ := createLineTx_ok first
    obtain ⟨lines, others, later⟩ := ih rest
    have found : m.ingredients = s.ingredients := by rw [added.only.rest]
    have same : ∀ row line, LineOf m tenantId recordId row line →
        LineOf s tenantId recordId row line := by
      rintro row line ⟨record, ingredient, quantity⟩
      refine ⟨record, ?_, quantity⟩
      simp only [resolveIngredient, found] at ingredient
      exact ingredient
    refine ⟨line :: lines, .cons made (others.imp same), .trans _ _ _ added.only later.only, ?_, ?_,
      later.stock.trans added.stock⟩
    · rw [later.lines, added.lines, append_assoc]
      rfl
    · rw [later.records, added.records]

/-- The record of a receipt is open, and has the next id. -/
structure ReceiptOpened (s m : Supply) (current : InventoryReplenishmentJob) (warehouseId : Id)
    (record : ReceivingRecord) (lines : List ReceivingLine) : Prop where
  only : DbOnly s m
  id : record.id = s.db.nextId
  given : s.db.nextId < m.db.nextId
  place : record.warehouseId = warehouseId
  status : record.status = .open
  made : List.Forall₂ (LineOf s current.tenantId record.id) (mapReplenishmentExportRows current) lines
  records : m.db.inventory.receivingRecords = s.db.inventory.receivingRecords ++ [record]
  lines : m.db.inventory.receivingLines = s.db.inventory.receivingLines ++ lines
  stock : m.db.stock = s.db.stock

theorem openReceiptTx_ok {current : InventoryReplenishmentJob} {warehouseId : Id}
    {input : ReceiveReplenishmentJobDto} {s m : Supply} {record : ReceivingRecord}
    (h : openReceiptTx current warehouseId input s = .ok (record, m)) :
    ∃ lines, ReceiptOpened s m current warehouseId record lines := by
  have only := openReceiptTx_dbOnly h
  simp only [openReceiptTx, Tx.bind_ok_iff, Tx.lift_ok_iff, Tx.pure_ok_iff, onDb_ok_iff,
    freshId_ok_iff, Table.create_ok_iff] at h
  obtain ⟨_, _, ⟨_, rfl⟩, _, _, ⟨_, ⟨rfl, rfl⟩, rfl⟩, _, _, ⟨_, ⟨rfl, rfl⟩, rfl⟩, _, _, loop, rfl,
    rfl⟩ := h
  obtain ⟨lines, made, added⟩ := createLines_ok loop
  have given := lt_of_lt_of_le (Nat.lt_succ_self s.db.nextId) added.only.grows
  have found : List.Forall₂ (LineOf s current.tenantId s.db.nextId)
      (mapReplenishmentExportRows current) lines :=
    made.imp fun _ _ line => ⟨line.record, line.ingredient, line.quantity⟩
  exact ⟨lines, only, rfl, given, rfl, rfl, found, added.records, added.lines, added.stock⟩

section
variable {s m : Supply} {current : InventoryReplenishmentJob} {warehouseId : Id}
  {record : ReceivingRecord} {lines : List ReceivingLine}

theorem ReceiptOpened.found (opened : ReceiptOpened s m current warehouseId record lines)
    (old : ReceivingsOld s.db) : receivingRecords.findUnique record.id m.db = some record := by
  show find ReceivingRecord.id m.db.inventory.receivingRecords record.id = some record
  rw [opened.records]
  refine find_append_new fun row stored => ?_
  rw [opened.id]
  exact ne_of_lt (old.records row stored)

theorem ReceiptOpened.linesOf (opened : ReceiptOpened s m current warehouseId record lines)
    (old : ReceivingsOld s.db) : linesOf m.db record.id = lines := by
  have before : s.db.inventory.receivingLines.filter (fun line => line.recordId = record.id) = [] := by
    rw [filter_eq_nil_iff]
    intro line stored same
    have earlier := old.lines line stored
    rw [of_decide_eq_true same, opened.id] at earlier
    exact lt_irrefl _ earlier
  have all : lines.filter (fun line => line.recordId = record.id) = lines := by
    rw [filter_eq_self]
    intro line listed
    exact decide_eq_true (lines_record opened.made line listed)
  rw [Inventory.Service.linesOf, opened.lines, filter_append, before, all, nil_append]

theorem ReceiptOpened.kept (opened : ReceiptOpened s m current warehouseId record lines) :
    ReceivingsKept s.db m.db := by
  constructor
  · intro old
    constructor
    · rw [opened.records]
      intro row stored
      rcases mem_append.mp stored with before | new
      · exact lt_trans (old.records row before) opened.given
      · rw [mem_singleton.mp new, opened.id]
        exact opened.given
    · rw [opened.lines]
      intro line stored
      rcases mem_append.mp stored with before | new
      · exact lt_trans (old.lines line before) opened.given
      · rw [lines_record opened.made line new, opened.id]
        exact opened.given
  · rintro id ⟨row, found, completed⟩
    refine ⟨row, ?_, completed⟩
    have before : find ReceivingRecord.id s.db.inventory.receivingRecords id = some row := found
    show find ReceivingRecord.id m.db.inventory.receivingRecords id = _
    rw [opened.records, find, find?_append, ← find, before]
    rfl

theorem ReceiptOpened.completed {n : Supply} {now : Instant} {receivedBy : Option String}
    {received : ReceivingRecord × List ReceivingLine}
    (opened : ReceiptOpened s m current warehouseId record lines) (old : ReceivingsOld s.db)
    (keys : StockKeys (stockState s.db))
    (h : onDb (completeReceivingRecordTx now record.id receivedBy) m = .ok (received, n)) :
    received.1.id = record.id ∧ IsCompleted record.id n.db ∧ ∀ place,
      onHandAt n.db place = onHandAt s.db place + receivedAt record lines place := by
  obtain ⟨db, done, rfl⟩ := onDb_ok_iff.mp h
  have stored := opened.found old
  rcases completeReceivingRecordTx_ok done with
    ⟨⟨row, found, completed⟩, _⟩ | ⟨row, c, f, found, _, loop, keeps, rfl, same⟩
  · obtain rfl := Option.some.inj (stored.symm.trans found)
    rw [opened.status] at completed
    cases completed
  · obtain rfl := Option.some.inj (stored.symm.trans found)
    refine ⟨same, ⟨f record, ?_, (keeps record).2⟩, fun place => ?_⟩
    · have records : c.inventory.receivingRecords = m.db.inventory.receivingRecords :=
        (Prod.mk.inj (Tx.frames_forM (fun _ => applyStockDeltaTx_frames _) _ _ _ loop)).1
      show find ReceivingRecord.id (modify ReceivingRecord.id record.id f
        c.inventory.receivingRecords) record.id = _
      have before : find ReceivingRecord.id m.db.inventory.receivingRecords record.id =
          some record := stored
      rw [find_modify fun row => (keeps row).1, if_pos rfl, records, before]
      rfl
    · have stock : stockState m.db = ⟨s.db.stock, m.db.nextId⟩ := by rw [stockState, opened.stock]
      have keysM : StockKeys (stockState m.db) := stock ▸ keys.later opened.only.grows
      rw [opened.linesOf old] at loop
      have counted := receivingLoop_onHand keysM loop place
      have same : onHandAt m.db place = onHandAt s.db place := by
        simp only [onHandAt, findItem, opened.stock]
      rw [← same, ← counted]
      rfl

end

def FindsOwn (s : Supply) (tenantId : Id) (item : InventoryRecord) : Prop :=
  ∀ ingredient ∈ (resolveIngredient tenantId (exportRow item) s).toOption,
    ingredientOf item = some ingredient.id

instance (s : Supply) (tenantId : Id) (item : InventoryRecord) :
    Decidable (FindsOwn s tenantId item) :=
  inferInstanceAs (Decidable (∀ ingredient ∈ Except.toOption _, _))

theorem resolveIngredient_ok {s : Supply} {row : ExportRow} {ingredient : Ingredient}
    (h : resolveIngredient tenantId row s = .ok ingredient) :
    ingredient ∈ s.ingredients ∧ ingredient.code = row.ingredientCode := by
  have found := required_ok_iff.mp h
  have matched : ingredient.tenantId = tenantId ∧ ingredient.code = row.ingredientCode := by
    simpa using find?_some found
  exact ⟨mem_of_find?_eq_some found, matched.2⟩

theorem lines_resolved {s : Supply} {lines : List ReceivingLine}
    (made : List.Forall₂ (LineOf s tenantId recordId) rows lines) :
    ∀ row ∈ rows, ∃ ingredient, resolveIngredient tenantId row s = .ok ingredient := by
  induction made with
  | nil => simp
  | cons first _ ih =>
    obtain ⟨ingredient, found, _⟩ := first.ingredient
    intro row listed
    rcases mem_cons.mp listed with rfl | later
    · exact ⟨ingredient, found⟩
    · exact ih row later

theorem receivedAt_recommended {s : Supply} {record : ReceivingRecord} {rows : List Recommendation}
    {lines : List ReceivingLine} (catalogue : Catalogue s)
    (ingredients : (rows.map Recommendation.ingredientId).Nodup)
    (codes : (rows.map Recommendation.ingredientCode).Nodup)
    (made : List.Forall₂ (LineOf s tenantId record.id)
      (rows.map fun row => exportRow row.toRecord) lines) {row : Recommendation}
    (listed : row ∈ rows) (finds : FindsOwn s tenantId row.toRecord) :
    receivedAt record lines (record.warehouseId, row.ingredientId) = row.recommendedOrderQuantity := by
  have own : ∀ ingredient, resolveIngredient tenantId (exportRow row.toRecord) s = .ok ingredient →
      ingredient.id = row.ingredientId := by
    intro ingredient found
    have same := finds ingredient (by rw [found]; rfl)
    rw [ingredientOf_toRecord] at same
    exact (Option.some.inj same).symm
  have each := (forall₂_and_left (p := (· ∈ rows)) rows lines).mpr
    ⟨fun _ h => h, forall₂_map_left_iff.mp made⟩
  obtain ⟨first, foundFirst⟩ := lines_resolved made _ (mem_map_of_mem listed)
  obtain ⟨storedFirst, codeFirst⟩ := resolveIngredient_ok foundFirst
  rw [← total_key (g := Recommendation.recommendedOrderQuantity) ingredients listed, receivedAt]
  refine (total_forall₂ (each.imp ?_)).symm
  rintro row' line ⟨listed', _, ⟨ingredient, found, id⟩, quantity⟩
  have amount : line.quantity = row'.recommendedOrderQuantity := by
    rw [quantity]
    exact quantityOf_toRecord row'
  have about : row'.ingredientId = row.ingredientId ↔ line.ingredientId = row.ingredientId := by
    constructor
    · intro same
      obtain rfl := eq_of_key ingredients listed' listed same
      rw [id, own ingredient found]
    · intro same
      obtain ⟨stored, code⟩ := resolveIngredient_ok found
      have one : ingredient = first := eq_of_key catalogue.unique stored storedFirst
        (by rw [own first foundFirst, ← same, id])
      have codes' : row'.ingredientCode = row.ingredientCode := by
        rw [exportRow_toRecord] at code codeFirst
        rw [← show ingredient.code = row'.ingredientCode from code, one]
        exact codeFirst
      rw [eq_of_key codes listed' listed codes']
  simp [share, about, amount]

end Exetron.Replenishment
