import Mathlib.Data.List.Basic
import Mathlib.Tactic.Common

/-!
# Comma separated values

The grammar of RFC 4180 with its two choices as parameters: what breaks a line, and which
characters stand for themselves outside quotes. A text of the grammar is read in one way only.
-/

namespace Exetron.Lib.Csv

open List

structure Dialect where
  lineBreak : List Char
  textData : Char → Prop

/-- `CRLF`, and `TEXTDATA = %x20-21 / %x23-2B / %x2D-7E`. -/
def rfc4180 : Dialect where
  lineBreak := ['\r', '\n']
  textData c := (0x20 ≤ c.toNat ∧ c.toNat ≤ 0x7E) ∧ c ≠ '"' ∧ c ≠ ','

def lineFed : Dialect where
  lineBreak := ['\n']
  textData c := c ≠ '"' ∧ c ≠ ',' ∧ c ≠ '\r' ∧ c ≠ '\n'

variable (d : Dialect)

/-- `*(TEXTDATA / COMMA / CR / LF / 2DQUOTE)`, with the characters it spells. -/
inductive Quoted : List Char → List Char → Prop
  | nil : Quoted [] []
  | char (c : Char) {text value : List Char}
      (plain : d.textData c ∨ c = ',' ∨ c = '\r' ∨ c = '\n') (rest : Quoted text value) :
      Quoted (c :: text) (c :: value)
  | quote {text value : List Char} (rest : Quoted text value) :
      Quoted ('"' :: '"' :: text) ('"' :: value)

/-- `field = (escaped / non-escaped)`. -/
inductive Field : List Char → List Char → Prop
  | escaped {text value : List Char} (quoted : Quoted d text value) :
      Field ('"' :: text ++ ['"']) value
  | plain {value : List Char} (each : ∀ c ∈ value, d.textData c) : Field value value

/-- `record = field *(COMMA field)`. -/
inductive Line : List Char → List (List Char) → Prop
  | last {text value : List Char} (field : Field d text value) : Line text [value]
  | more {text value rest : List Char} {values : List (List Char)} (field : Field d text value)
      (line : Line rest values) : Line (text ++ ',' :: rest) (value :: values)

/-- `record *(CRLF record)`. -/
inductive Lines : List Char → List (List (List Char)) → Prop
  | last {text : List Char} {values : List (List Char)} (line : Line d text values) :
      Lines text [values]
  | more {text rest : List Char} {values : List (List Char)} {others : List (List (List Char))}
      (line : Line d text values) (lines : Lines rest others) :
      Lines (text ++ d.lineBreak ++ rest) (values :: others)

/-- `file = record *(CRLF record) [CRLF]`, the first record being the header. -/
def File (text : List Char) (records : List (List (List Char))) : Prop :=
  Lines d text records ∨ ∃ front, text = front ++ d.lineBreak ∧ Lines d front records

/-- What ends a field stands neither for itself nor for a quote. -/
structure Dialect.Separates : Prop where
  comma : ¬d.textData ','
  quote : ¬d.textData '"'
  lineBreak : ∃ c rest, d.lineBreak = c :: rest ∧ ¬d.textData c ∧ c ≠ '"' ∧ c ≠ ','

variable {d} {text text' value value' s s' : List Char}

/-- A field ends here: no character follows, or one that is neither text nor a quote. -/
def Ends (d : Dialect) (s : List Char) : Prop := ∀ c ∈ s.head?, ¬d.textData c ∧ c ≠ '"'

theorem plain_unique (each : ∀ c ∈ value, d.textData c) (each' : ∀ c ∈ value', d.textData c)
    (ends : Ends d s) (ends' : Ends d s') (same : value ++ s = value' ++ s') :
    value = value' ∧ s = s' := by
  induction value generalizing value' with
  | nil =>
    cases value' with
    | nil => exact ⟨rfl, same⟩
    | cons c value' =>
      have first : s = c :: (value' ++ s') := same
      exact absurd (each' c mem_cons_self) (ends c (by simp [first])).1
  | cons c value ih =>
    cases value' with
    | nil =>
      have first : c :: (value ++ s) = s' := same
      exact absurd (each c mem_cons_self) (ends' c (by simp [← first])).1
    | cons c' value' =>
      obtain ⟨rfl, rest⟩ := cons.inj same
      obtain ⟨rfl, left⟩ := ih (fun c listed => each c (mem_cons_of_mem _ listed))
        (fun c listed => each' c (mem_cons_of_mem _ listed)) rest
      exact ⟨rfl, left⟩

theorem quoted_unique (separates : d.Separates) (quoted : Quoted d text value)
    (quoted' : Quoted d text' value') (ends : Ends d s) (ends' : Ends d s')
    (same : text ++ '"' :: s = text' ++ '"' :: s') : value = value' ∧ s = s' := by
  have plain_ne {c : Char} (plain : d.textData c ∨ c = ',' ∨ c = '\r' ∨ c = '\n') : c ≠ '"' := by
    rintro rfl
    rcases plain with text | comma | cr | lf
    · exact separates.quote text
    · exact absurd comma (by decide)
    · exact absurd cr (by decide)
    · exact absurd lf (by decide)
  induction quoted generalizing text' value' with
  | nil =>
    cases quoted' with
    | nil => exact ⟨rfl, (cons.inj same).2⟩
    | char c plain rest => exact absurd (cons.inj same).1.symm (plain_ne plain)
    | quote rest => exact absurd rfl (ends '"' (by simp [(cons.inj same).2])).2
  | char c plain rest ih =>
    cases quoted' with
    | nil => exact absurd (cons.inj same).1 (plain_ne plain)
    | char c' plain' rest' =>
      obtain ⟨rfl, after⟩ := cons.inj same
      obtain ⟨rfl, left⟩ := ih rest' after
      exact ⟨rfl, left⟩
    | quote rest' => exact absurd (cons.inj same).1 (plain_ne plain)
  | quote rest ih =>
    cases quoted' with
    | nil =>
      have closed := ends' _ (by simp [← (cons.inj same).2] : '"' ∈ _)
      exact absurd rfl closed.2
    | char c plain rest' => exact absurd (cons.inj same).1.symm (plain_ne plain)
    | quote rest' =>
      obtain ⟨rfl, left⟩ := ih rest' (cons.inj (cons.inj same).2).2
      exact ⟨rfl, left⟩

theorem field_unique (separates : d.Separates) (field : Field d text value)
    (field' : Field d text' value') (ends : Ends d s) (ends' : Ends d s')
    (same : text ++ s = text' ++ s') : value = value' ∧ s = s' := by
  -- a plain field does not begin with a quote
  have not_quote {v rest : List Char} {t : List Char} (each : ∀ c ∈ v, d.textData c)
      (ends : Ends d t) : v ++ t ≠ '"' :: rest := by
    intro same
    cases v with
    | nil =>
      have first : t = '"' :: rest := same
      exact absurd rfl (ends '"' (by simp [first])).2
    | cons c v =>
      have text := each c mem_cons_self
      rw [(cons.inj same).1] at text
      exact separates.quote text
  cases field with
  | escaped quoted =>
    cases field' with
    | escaped quoted' =>
      simp only [cons_append, append_assoc, nil_append, cons.injEq, true_and] at same
      exact quoted_unique separates quoted quoted' ends ends' same
    | plain each => exact absurd same.symm (by simpa using not_quote each ends')
  | plain each =>
    cases field' with
    | escaped quoted => exact absurd same (by simpa using not_quote each ends)
    | plain each' => exact plain_unique each each' ends ends' same

def Breaks (d : Dialect) (s : List Char) : Prop := s = [] ∨ ∃ rest, s = d.lineBreak ++ rest

theorem Breaks.ends (separates : d.Separates) (breaks : Breaks d s) :
    Ends d s ∧ ∀ rest, s ≠ ',' :: rest := by
  rcases breaks with rfl | ⟨rest, rfl⟩
  · exact ⟨fun c first => by simp at first, fun rest => by simp⟩
  · obtain ⟨c, others, parts, notText, notQuote, notComma⟩ := separates.lineBreak
    rw [parts]
    refine ⟨fun c' first => ?_, fun rest' same => notComma (cons.inj same).1⟩
    obtain rfl : c = c' := by simpa using first
    exact ⟨notText, notQuote⟩

theorem ends_comma (separates : d.Separates) (rest : List Char) : Ends d (',' :: rest) := by
  intro c first
  obtain rfl : ',' = c := by simpa using first
  exact ⟨separates.comma, by decide⟩

theorem line_unique {values values' : List (List Char)} (separates : d.Separates)
    (line : Line d text values) (line' : Line d text' values') (breaks : Breaks d s)
    (breaks' : Breaks d s') (same : text ++ s = text' ++ s') : values = values' ∧ s = s' := by
  obtain ⟨ends, notComma⟩ := breaks.ends separates
  obtain ⟨ends', notComma'⟩ := breaks'.ends separates
  induction line generalizing text' values' with
  | last field =>
    cases line' with
    | last field' =>
      obtain ⟨rfl, left⟩ := field_unique separates field field' ends ends' same
      exact ⟨rfl, left⟩
    | more field' line' =>
      rw [append_assoc] at same
      exact absurd (field_unique separates field field' ends (ends_comma separates _) same).2
        (notComma _)
  | more field line ih =>
    rw [append_assoc] at same
    cases line' with
    | last field' =>
      exact absurd (field_unique separates field field' (ends_comma separates _) ends' same).2.symm
        (notComma' _)
    | more field' line' =>
      rw [append_assoc] at same
      obtain ⟨rfl, rest⟩ := field_unique separates field field' (ends_comma separates _)
        (ends_comma separates _) same
      obtain ⟨rfl, left⟩ := ih line' (cons.inj rest).2
      exact ⟨rfl, left⟩

theorem lines_unique {records records' : List (List (List Char))} (separates : d.Separates)
    (lines : Lines d text records) (lines' : Lines d text' records') (same : text = text') :
    records = records' := by
  obtain ⟨c, others, parts, _⟩ := separates.lineBreak
  have broken (rest : List Char) : Breaks d (d.lineBreak ++ rest) := .inr ⟨rest, rfl⟩
  have ended (rest : List Char) : [] ≠ d.lineBreak ++ rest := by simp [parts]
  induction lines generalizing text' records' with
  | last line =>
    cases lines' with
    | last line' =>
      rw [(line_unique separates line line' (.inl rfl) (.inl rfl) (by rw [same])).1]
    | @more _ rest _ _ line' lines' =>
      refine absurd (line_unique separates line line' (.inl rfl) (broken rest) ?_).2 (ended rest)
      rw [append_nil, same, append_assoc]
  | @more _ rest _ _ line lines ih =>
    cases lines' with
    | last line' =>
      refine absurd (line_unique separates line line' (broken rest) (.inl rfl) ?_).2.symm
        (ended rest)
      rw [append_nil, ← same, append_assoc]
    | @more _ rest' _ _ line' lines' =>
      rw [append_assoc, append_assoc] at same
      obtain ⟨rfl, left⟩ := line_unique separates line line' (broken rest) (broken rest') same
      rw [ih lines' (append_cancel_left left)]

theorem lines_break {records : List (List (List Char))} (lines : Lines d text records) :
    Lines d (text ++ d.lineBreak) (records ++ [[[]]]) := by
  have empty : Lines d [] [[[]]] := .last (.last (.plain (by simp)))
  induction lines with
  | last line => simpa using Lines.more line empty
  | @more text rest _ _ line lines ih =>
    rw [append_assoc (text ++ d.lineBreak)]
    exact .more line ih

theorem file_iff {records records' : List (List (List Char))} (separates : d.Separates)
    (lines : Lines d text records) (written : records.getLast? ≠ some [[]]) :
    File d text records' ↔ records' = records := by
  constructor
  · rintro (lines' | ⟨front, rfl, lines'⟩)
    · exact lines_unique separates lines' lines rfl
    · have same := lines_unique separates lines (lines_break lines') rfl
      rw [same] at written
      simp at written
  · rintro rfl
    exact .inl lines

theorem lineFed_separates : lineFed.Separates where
  comma text := text.2.1 rfl
  quote text := text.1 rfl
  lineBreak := ⟨'\n', [], rfl, fun text => text.2.2.2 rfl, by decide, by decide⟩

/-- `"` is doubled. -/
def doubled (value : List Char) : List Char :=
  value.flatMap fun c => if c = '"' then ['"', '"'] else [c]

def escape (value : List Char) : List Char :=
  if value.any fun c => c = '"' ∨ c = ',' ∨ c = '\r' ∨ c = '\n' then
    '"' :: doubled value ++ ['"']
  else value

theorem quoted_doubled (value : List Char) : Quoted lineFed (doubled value) value := by
  induction value with
  | nil => exact .nil
  | cons c value ih =>
    by_cases quote : c = '"'
    · rw [quote, doubled, flatMap_cons, if_pos rfl]
      exact .quote ih
    · rw [doubled, flatMap_cons, if_neg quote]
      refine .char c ?_ ih
      by_cases comma : c = ','
      · exact .inr (.inl comma)
      · by_cases cr : c = '\r'
        · exact .inr (.inr (.inl cr))
        · by_cases lf : c = '\n'
          · exact .inr (.inr (.inr lf))
          · exact .inl ⟨quote, comma, cr, lf⟩

theorem field_escape (value : List Char) : Field lineFed (escape value) value := by
  unfold escape
  split
  · exact .escaped (quoted_doubled value)
  · rename_i clear
    refine .plain fun c listed => ?_
    have each : ¬(c = '"' ∨ c = ',' ∨ c = '\r' ∨ c = '\n') := fun special =>
      clear (any_eq_true.mpr ⟨c, listed, by simpa using special⟩)
    simpa [lineFed, not_or] using each

theorem line_written {values : List (List Char)} (some : values ≠ []) :
    Line lineFed ([','].intercalate (values.map escape)) values := by
  induction values with
  | nil => exact absurd rfl some
  | cons value values ih =>
    cases values with
    | nil => simpa [intercalate] using Line.last (field_escape value)
    | cons next values =>
      have rest := ih (by simp)
      simpa [intercalate] using Line.more (field_escape value) rest

theorem lines_written {records : List (List (List Char))} (some : records ≠ [])
    (each : ∀ values ∈ records, values ≠ []) : Lines lineFed (['\n'].intercalate
      (records.map fun values => [','].intercalate (values.map escape))) records := by
  induction records with
  | nil => exact absurd rfl some
  | cons values records ih =>
    have line := line_written (each values mem_cons_self)
    cases records with
    | nil => simpa [intercalate] using Lines.last line
    | cons next records =>
      have rest := ih (by simp) fun values listed => each values (mem_cons_of_mem _ listed)
      simpa [intercalate, lineFed] using Lines.more line rest

theorem line_clear {values : List (List Char)} (line : Line rfc4180 text values)
    (noQuote : '"' ∉ text) : '\n' ∉ text := by
  have field_clear {text value : List Char} (field : Field rfc4180 text value)
      (noQuote : '"' ∉ text) : '\n' ∉ text := by
    cases field with
    | escaped quoted => exact absurd (by simp) noQuote
    | plain each => exact fun listed => absurd (each _ listed).1.1 (by decide)
  induction line with
  | last field => exact field_clear field noQuote
  | more field line ih =>
    simp only [mem_append, mem_cons, not_or] at noQuote ⊢
    exact ⟨field_clear field noQuote.1, by decide, ih noQuote.2.2⟩

theorem file_clear {records : List (List (List Char))} (file : File rfc4180 text records)
    (noQuote : '"' ∉ text) (noReturn : '\r' ∉ text) : '\n' ∉ text := by
  have returns {front rest : List Char} : '\r' ∈ front ++ rfc4180.lineBreak ++ rest := by
    simp [rfc4180]
  rcases file with lines | ⟨front, rfl, lines⟩
  · cases lines with
    | last line => exact line_clear line noQuote
    | more line lines => exact absurd returns noReturn
  · exact absurd (by simp [rfc4180]) noReturn

end Exetron.Lib.Csv
