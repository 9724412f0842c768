import Exetron.JsonText
import Exetron.Lib.Csv
import Exetron.Replenishment.Jobs

/-!
# The export of a job as CSV

The rows of a job's recommendations and the text they are written as. Its lines end with a line
feed, which RFC 4180 does not know; in other respects the text keeps to the grammar.
-/

namespace Exetron.Replenishment.ExportCsv

open Lib

structure InventoryReplenishmentJobExportRow where
  (warehouseCode warehouseName ingredientCode ingredientName : String)
  sku : Option String
  (available reorderPoint targetQuantity recommendedOrderQuantity : ℚ)
  lastUnitCost : Option String

/-- `item.key ? String(item.key) : null`. -/
def truthyText (item : InventoryRecord) (key : String) : Option String :=
  if Json.isTruthy (item.get key) then (item.get key).map Json.toText else none

/-- `String(item.key ?? "")`. -/
def textAt (item : InventoryRecord) (key : String) : String :=
  (Json.orElse (item.get key) (.str "")).toText

def exportRow (item : InventoryRecord) : InventoryReplenishmentJobExportRow where
  warehouseCode := textAt item "warehouseCode"
  warehouseName := textAt item "warehouseName"
  ingredientCode := textAt item "ingredientCode"
  ingredientName := textAt item "ingredientName"
  sku := truthyText item "sku"
  available := toNumber (item.get "available")
  reorderPoint := toNumber (item.get "reorderPoint")
  targetQuantity := toNumber (item.get "targetQuantity")
  recommendedOrderQuantity := toNumber (item.get "recommendedOrderQuantity")
  lastUnitCost := truthyText item "lastUnitCost"

def mapReplenishmentExportRows (job : InventoryReplenishmentJob) :
    List InventoryReplenishmentJobExportRow :=
  match (asRecord (some job.artifact)).get "recommendations" with
  | some (.arr items) => items.map fun item => exportRow (asRecord (some item))
  | _ => []

/-- `/[",\r\n]/.test(normalized)`. -/
def needsQuotes (normalized : String) : Bool :=
  normalized.toList.any fun c => c = '"' ∨ c = ',' ∨ c = '\r' ∨ c = '\n'

/-- `normalized.replaceAll('"', '""')`. -/
def doubleQuotes (normalized : String) : String :=
  String.ofList (normalized.toList.flatMap fun c => if c = '"' then ['"', '"'] else [c])

def escapeCsvCell (normalized : String) : String :=
  if needsQuotes normalized then "\"" ++ doubleQuotes normalized ++ "\"" else normalized

def header : List String :=
  ["warehouseCode", "warehouseName", "ingredientCode", "ingredientName", "sku", "available",
    "reorderPoint", "targetQuantity", "recommendedOrderQuantity", "lastUnitCost"]

/-- `String(value)`, and the empty text for `null`. -/
def InventoryReplenishmentJobExportRow.cells (row : InventoryReplenishmentJobExportRow) :
    List String :=
  let number (n : ℚ) : String := Json.stringify (.num n)
  [row.warehouseCode, row.warehouseName, row.ingredientCode, row.ingredientName,
    row.sku.getD "", number row.available, number row.reorderPoint, number row.targetQuantity,
    number row.recommendedOrderQuantity, row.lastUnitCost.getD ""]

def buildReplenishmentCsv (rows : List InventoryReplenishmentJobExportRow) : String :=
  String.intercalate "\n" (String.intercalate "," header ::
    rows.map fun row => String.intercalate "," (row.cells.map escapeCsvCell))

def exported (rows : List InventoryReplenishmentJobExportRow) : List (List (List Char)) :=
  (header :: rows.map (·.cells)).map fun values => values.map String.toList

theorem toList_escapeCsvCell (value : String) :
    (escapeCsvCell value).toList = Csv.escape value.toList := by
  unfold escapeCsvCell Csv.escape needsQuotes
  split
  · simp only [String.toList_append, doubleQuotes, String.toList_ofList]
    rfl
  · rfl

theorem header_plain : header.map escapeCsvCell = header := by
  simp [header, escapeCsvCell, needsQuotes]

theorem buildReplenishmentCsv_eq (rows : List InventoryReplenishmentJobExportRow) :
    buildReplenishmentCsv rows = String.intercalate "\n"
      ((header :: rows.map (·.cells)).map fun values =>
        String.intercalate "," (values.map escapeCsvCell)) := by
  rw [List.map_cons, header_plain, List.map_map]
  rfl

theorem toList_written (table : List (List String)) :
    (String.intercalate "\n" (table.map fun values =>
      String.intercalate "," (values.map escapeCsvCell))).toList =
      ['\n'].intercalate ((table.map fun values => values.map String.toList).map fun values =>
        [','].intercalate (values.map Csv.escape)) := by
  have line (values : List String) : (String.intercalate "," (values.map escapeCsvCell)).toList =
        [','].intercalate ((values.map String.toList).map Csv.escape) := by
    rw [String.toList_intercalate, List.map_map, List.map_map]
    congr 1
    exact List.map_congr_left fun value _ => toList_escapeCsvCell value
  rw [String.toList_intercalate, List.map_map, List.map_map]
  congr 1
  exact List.map_congr_left fun values _ => line values

theorem length_of_mem_exported {rows : List InventoryReplenishmentJobExportRow}
    {values : List (List Char)} (listed : values ∈ exported rows) : values.length = 10 := by
  obtain ⟨texts, stands, rfl⟩ := List.mem_map.mp listed
  rw [List.length_map]
  rcases List.mem_cons.mp stands with rfl | row
  · rfl
  · obtain ⟨row, _, rfl⟩ := List.mem_map.mp row
    rfl

/-- With the line feed as the line break, an export is read as its header and its cells, and in no
other way. -/
theorem export_reads_back (rows : List InventoryReplenishmentJobExportRow)
    (records : List (List (List Char))) :
    Csv.File Csv.lineFed (buildReplenishmentCsv rows).toList records ↔ records = exported rows := by
  have lines : Csv.Lines Csv.lineFed (buildReplenishmentCsv rows).toList (exported rows) := by
    rw [buildReplenishmentCsv_eq, toList_written]
    refine Csv.lines_written (by simp) fun values listed => ?_
    exact List.ne_nil_of_length_pos (length_of_mem_exported listed ▸ by decide)
  refine Csv.file_iff Csv.lineFed_separates lines fun last => ?_
  have ten := length_of_mem_exported (List.mem_of_getLast? last)
  exact absurd ten (by decide)

def milkRow : InventoryReplenishmentJobExportRow where
  warehouseCode := "main"
  warehouseName := "Main"
  ingredientCode := "milk"
  ingredientName := "Milk"
  sku := none
  available := 1
  reorderPoint := 2
  targetQuantity := 5
  recommendedOrderQuantity := 4
  lastUnitCost := none

/-- RFC 4180 ends a line with CR and LF, and reads nothing in the export. -/
theorem milkRow_not_rfc4180 :
    ¬Csv.File Csv.rfc4180 (buildReplenishmentCsv [milkRow]).toList (exported [milkRow]) := by
  intro file
  have noQuote : '"' ∉ (buildReplenishmentCsv [milkRow]).toList := by decide +kernel
  have noReturn : '\r' ∉ (buildReplenishmentCsv [milkRow]).toList := by decide +kernel
  exact Csv.file_clear file noQuote noReturn (by decide +kernel)

end Exetron.Replenishment.ExportCsv
