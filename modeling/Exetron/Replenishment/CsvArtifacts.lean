import Exetron.Lib.SplitOn
import Exetron.Localization.Locales
import Exetron.Replenishment.Duplicates
import Exetron.Replenishment.FileDrops

/-!
# The artifact of a file connector

A connector whose files are CSV writes the order as a header and one row, the columns joined by
commas as they are. The reader of dropped files cuts at every comma and every line feed.
-/

namespace Exetron.Replenishment

open Lib List Text

theorem splitOn_text (s : String) (separator : Char) :
    s.splitOn (String.ofList [separator]) = Text.split separator s := splitOn_single s separator

theorem split_clear {s : String} {separator : Char} (clear : separator ∉ s.toList) :
    Text.split separator s = [s] := by
  have parts : split separator (join separator [s]) = [s] :=
    split_join (by simp) (by simpa using clear)
  have same : join separator [s] = s := by
    rw [join, map_singleton, intercalate_singleton, String.ofList_toList]
  rwa [same] at parts

theorem join_pair (separator : Char) (first second : String) :
    Text.join separator [first, second] = first ++ String.ofList [separator] ++ second := by
  rw [← String.toList_inj]
  simp [join, intercalate]

def headerLine : String :=
  "externalReference,supplierName,channel,recommendationCount,totalRecommendedOrderQuantity"

def artifactHeader : List String :=
  ["externalReference", "supplierName", "channel", "recommendationCount",
    "totalRecommendedOrderQuantity"]

def artifactRow (externalReference supplierName : String) (input : TransportHandoffInput) :
    List String :=
  [externalReference, supplierName, input.channel,
    Json.stringify (.num input.recommendationCount),
    Json.stringify (.num input.totalRecommendedOrderQuantity)]

/-- The `content` of an artifact with the format `csv`. -/
def artifactContent (externalReference supplierName : String) (input : TransportHandoffInput) :
    String :=
  Text.join '\n' [headerLine, Text.join ',' (artifactRow externalReference supplierName input)]

def writtenFields (externalReference supplierName : String) (input : TransportHandoffInput) :
    InventoryRecord :=
  artifactHeader.zip ((artifactRow externalReference supplierName input).map .str)

/-- A text that a column keeps: no white space around it, no comma and no line feed in it. -/
structure IsColumn (text : String) : Prop where
  trimmed : Text.trim text = text
  noComma : ',' ∉ text.toList
  noBreak : '\n' ∉ text.toList

theorem trim_subset (s : String) : (Text.trim s).toList ⊆ s.toList := (trim_sublist s).subset

theorem isColumn_of_read {line text value : String} (listed : line ∈ Text.split '\n' text)
    (read : value ∈ (Text.split ',' (Text.trim line)).map Text.trim) : IsColumn value := by
  obtain ⟨part, parts, rfl⟩ := mem_map.mp read
  obtain ⟨noComma, within⟩ := mem_split parts
  obtain ⟨noBreak, _⟩ := mem_split listed
  refine ⟨trim_trim part, fun stands => noComma (trim_subset part stands), fun stands => ?_⟩
  exact noBreak (trim_subset line (within (trim_subset part stands)))

theorem split_headerLine : (Text.split ',' headerLine).map Text.trim = artifactHeader := by
  have joined : headerLine = join ',' artifactHeader := by decide +kernel
  rw [joined, split_join (by decide) (by decide +kernel)]
  decide +kernel

theorem csvRecord_headerLine (line : String) : csvRecord headerLine line = artifactHeader.zip
      ((List.range 5).map fun i => ofText ((Text.split ',' line).map Text.trim)[i]?) := by
  unfold csvRecord
  rw [show "," = String.ofList [','] from rfl, splitOn_text, splitOn_text, split_headerLine]
  generalize (split ',' line).map trim = values
  rfl

theorem trimmed_append {first second : List Char} (left : Text.Trimmed first)
    (right : Text.Trimmed second) : Text.Trimmed (first ++ ',' :: second) := by
  refine ⟨fun c head => ?_, fun c last => ?_⟩
  · cases first with
    | nil =>
      obtain rfl := Option.some.inj head
      decide
    | cons d first => exact left.1 c head
  · rw [Option.mem_def, getLast?_append_cons] at last
    cases second with
    | nil =>
      obtain rfl := Option.some.inj last
      decide
    | cons d second => exact right.2 c (by rwa [getLast?_cons_cons] at last)

theorem trim_join {values : List String} (trimmed : ∀ value ∈ values, Text.trim value = value) :
    Text.trim (Text.join ',' values) = Text.join ',' values := by
  rw [trim_eq_self_iff, join, String.toList_ofList]
  induction values with
  | nil => exact ⟨by simp [intercalate], by simp [intercalate]⟩
  | cons value values ih =>
    have first := trim_eq_self_iff.mp (trimmed value mem_cons_self)
    have rest := ih fun value listed => trimmed value (mem_cons_of_mem _ listed)
    cases values with
    | nil => simpa [intercalate] using first
    | cons value' values =>
      have joined : [','].intercalate ((value :: value' :: values).map String.toList) =
          value.toList ++ ',' :: [','].intercalate ((value' :: values).map String.toList) := by
        simp [intercalate]
      rw [joined]
      exact trimmed_append first rest

theorem isColumn_number (n : ℚ) : IsColumn (Json.stringify (.num n)) := by
  have digits {c : Char} (stands : c ∈ (Json.stringify (.num n)).toList) :
      Json.isNumberChar c = true := by
    rw [Json.stringify, String.toList_ofList] at stands
    exact Json.isNumberChar_numberChars stands
  have solid {c : Char} (stands : c ∈ (Json.stringify (.num n)).toList) :
      isSpace c = false := by
    have number := digits stands
    simp only [Json.isNumberChar, Bool.or_eq_true, decide_eq_true_eq] at number
    rcases number with ((digit | rfl) | rfl) | rfl
    · exact isSpace_of_isDigit digit
    all_goals decide
  refine ⟨trim_eq_self_iff.mpr ⟨fun c head => solid (mem_of_head? head),
    fun c last => solid (mem_of_getLast? last)⟩, fun stands => ?_, fun stands => ?_⟩
  · exact absurd (digits stands) (by decide)
  · exact absurd (digits stands) (by decide)

variable {env : SupplierEnv} {externalReference supplierName : String}
  {input : TransportHandoffInput}

theorem parse_artifactContent : parseSupplierFileDropPayload env
      (some (artifactContent externalReference supplierName input)) "text/csv" "csv" =
    match ((Text.split '\n' (Text.join ',' (artifactRow externalReference supplierName input))).map
        Text.trim).filter (· ≠ "") with
    | line :: _ => .ok (some (csvRecord headerLine line)) | [] => .ok (some [("rawContent",
        .str (artifactContent externalReference supplierName input))]) := by
  have cut : split '\n' (artifactContent externalReference supplierName input) =
      headerLine :: split '\n'
        (join ',' (artifactRow externalReference supplierName input)) := by
    rw [artifactContent, join_pair, split_append (by decide +kernel)]
  have kept : trim headerLine = headerLine := by decide +kernel
  have written : headerLine ≠ "" := by decide
  have noJson : contains (toLowerCase (trim "text/csv")) "json" = false := by
    decide +kernel
  have notJson : toLowerCase (trim "csv") ≠ "json" := by decide +kernel
  have isCsv : toLowerCase (trim "csv") = "csv" := by decide +kernel
  unfold parseSupplierFileDropPayload
  dsimp only
  rw [if_neg (by simp [noJson, notJson]), if_pos (.inr isCsv),
    show "\n" = String.ofList ['\n'] from rfl, splitOn_text, cut, map_cons, kept,
    filter_cons_of_pos (by simpa using written)]
  cases ((split '\n' (join ',' (artifactRow externalReference supplierName input))).map
    trim).filter (· ≠ "") <;> rfl

/-- The row is read back as it was written when its texts are such as a column keeps. -/
theorem read_row (reference : IsColumn externalReference) (supplier : IsColumn supplierName)
    (channel : IsColumn input.channel) : parseSupplierFileDropPayload env
      (some (artifactContent externalReference supplierName input)) "text/csv" "csv" =
    .ok (some (writtenFields externalReference supplierName input)) := by
  have columns : ∀ value ∈ artifactRow externalReference supplierName input, IsColumn value := by
    intro value listed
    simp only [artifactRow, mem_cons, not_mem_nil, or_false] at listed
    rcases listed with rfl | rfl | rfl | rfl | rfl
    · exact reference
    · exact supplier
    · exact channel
    · exact isColumn_number _
    · exact isColumn_number _
  have trimmed := trim_join fun value listed => (columns value listed).trimmed
  have cut : split ',' (join ',' (artifactRow externalReference supplierName input)) =
      artifactRow externalReference supplierName input :=
    split_join (by simp [artifactRow]) fun value listed => (columns value listed).noComma
  have whole :
      '\n' ∉ (join ',' (artifactRow externalReference supplierName input)).toList := by
    intro stands
    simp [artifactRow, join, intercalate] at stands
    rcases stands with inReference | inSupplier | inChannel | inCount | inTotal
    · exact reference.noBreak inReference
    · exact supplier.noBreak inSupplier
    · exact channel.noBreak inChannel
    · exact (isColumn_number _).noBreak inCount
    · exact (isColumn_number _).noBreak inTotal
  have written : join ',' (artifactRow externalReference supplierName input) ≠ "" := by
    intro empty
    have letters := congrArg String.toList empty
    simp [artifactRow, join, intercalate] at letters
  have kept : (artifactRow externalReference supplierName input).map trim =
      artifactRow externalReference supplierName input := by
    conv_rhs => rw [← map_id (artifactRow externalReference supplierName input)]
    exact map_congr_left fun value listed => (columns value listed).trimmed
  rw [parse_artifactContent, split_clear whole, map_singleton, trimmed,
    filter_cons_of_pos (by simpa using written)]
  dsimp only
  rw [csvRecord_headerLine, cut, kept]
  rfl

/-- What is read back are texts that a column keeps. -/
theorem isColumn_of_read_back (read : parseSupplierFileDropPayload env
      (some (artifactContent externalReference supplierName input)) "text/csv" "csv" =
        .ok (some (writtenFields externalReference supplierName input))) :
    IsColumn externalReference ∧ IsColumn supplierName ∧ IsColumn input.channel := by
  rw [parse_artifactContent] at read
  split at read
  · rename_i line rest lines
    have listed : line ∈ ((split '\n' (join ','
        (artifactRow externalReference supplierName input))).map trim).filter (· ≠ "") := by
      rw [lines]
      exact mem_cons_self
    obtain ⟨source, stands, rfl⟩ := mem_map.mp (mem_filter.mp listed).1
    have same := Option.some.inj (Except.ok.inj read)
    rw [csvRecord_headerLine] at same
    have values := congrArg (map Prod.snd) same
    generalize given : (split ',' (trim source)).map trim = texts at values
    have column {i : Nat} {text : String} (stood : ofText texts[i]? = .str text) :
        IsColumn text := by
      refine isColumn_of_read stands (given ▸ ?_)
      cases found : texts[i]? with
      | none => rw [found] at stood; cases stood
      | some value =>
        rw [found] at stood
        obtain rfl := Json.str.inj stood
        exact mem_of_getElem? found
    obtain ⟨reference, supplier, channel⟩ : ofText texts[0]? = .str externalReference ∧
        ofText texts[1]? = .str supplierName ∧ ofText texts[2]? = .str input.channel :=
      ⟨(cons.inj values).1, (cons.inj (cons.inj values).2).1,
        (cons.inj (cons.inj (cons.inj values).2).2).1⟩
    exact ⟨column reference, column supplier, column channel⟩
  · have names := congrArg (map Prod.fst) (Option.some.inj (Except.ok.inj read))
    have first : "rawContent" = "externalReference" := (cons.inj names).1
    exact absurd first (by decide)

/-- An artifact is read back just when its reference, its supplier and its channel are texts that a
column keeps. -/
theorem artifact_reads_back_iff : parseSupplierFileDropPayload env
      (some (artifactContent externalReference supplierName input)) "text/csv" "csv" =
        .ok (some (writtenFields externalReference supplierName input)) ↔
    IsColumn externalReference ∧ IsColumn supplierName ∧ IsColumn input.channel :=
  ⟨isColumn_of_read_back, fun ⟨reference, supplier, channel⟩ =>
    read_row reference supplier channel⟩

def milkOrder : TransportHandoffInput where
  replenishmentJobId := 1
  connectorKey := "dairy"
  supplierReference := some "po-1"
  channel := "EMAIL"
  recommendationCount := 1
  totalRecommendedOrderQuantity := 4

/-- The name of the supplier has a comma, and its second half is read as the channel. -/
theorem milkOrder_not_read_back : parseSupplierFileDropPayload callingEnv
      (some (artifactContent "po-1" "Milk, Ltd" milkOrder)) "text/csv" "csv" ≠
    .ok (some (writtenFields "po-1" "Milk, Ltd" milkOrder)) := by
  intro read
  obtain ⟨_, supplier, _⟩ := isColumn_of_read_back read
  exact supplier.noComma (by decide)

end Exetron.Replenishment
