import Exetron.Js
import Mathlib.Data.List.Forall2
import Mathlib.Data.List.Nodup
import Mathlib.Tactic.IntervalCases

/-!
# Locale tags

The normalisers of `localization.module`: the spelling of country codes and locale tags, and lists
of distinct texts. The upper and the lower case of a text are the environment's.
-/

namespace Exetron

open List

namespace Text

/-- `s.split(separator)`. -/
def split (separator : Char) (s : String) : List String :=
  (s.toList.splitOn separator).map String.ofList

/-- `parts.join(separator)`. -/
def join (separator : Char) (parts : List String) : String :=
  String.ofList ([separator].intercalate (parts.map String.toList))

/-- `s.length`, in UTF-16 code units. -/
def length (s : String) : Nat := (s.toList.map fun c => if c.val ≤ 0xFFFF then 1 else 2).sum

theorem join_split (separator : Char) (s : String) : join separator (split separator s) = s := by
  have parts : (split separator s).map String.toList = s.toList.splitOn separator := by
    rw [split, map_map]
    exact map_id'' (fun _ => String.toList_ofList) _
  rw [join, parts, intercalate_splitOn, String.ofList_toList]

theorem split_join {separator : Char} {parts : List String} (written : parts ≠ [])
    (clear : ∀ part ∈ parts, separator ∉ part.toList) :
    split separator (join separator parts) = parts := by
  rw [split, join, String.toList_ofList, splitOn_intercalate _ _ (by simpa using written), map_map]
  · exact map_id'' (fun _ => String.ofList_toList) _
  · intro part listed
    obtain ⟨text, written, rfl⟩ := mem_map.mp listed
    exact clear text written

theorem split_append {separator : Char} {first : String} (clear : separator ∉ first.toList)
    (rest : String) : split separator (first ++ String.ofList [separator] ++ rest) =
      first :: split separator rest := by
  have letters : (first ++ String.ofList [separator] ++ rest).toList =
      first.toList ++ separator :: rest.toList := by simp
  rw [split, split, letters, splitOn_append_cons_self_of_not_mem clear, map_cons,
    String.ofList_toList]

/-- A part has characters of the text, and not the separator. -/
theorem mem_split {separator : Char} {s part : String} (listed : part ∈ split separator s) :
    separator ∉ part.toList ∧ part.toList ⊆ s.toList := by
  obtain ⟨letters, parts, rfl⟩ := mem_map.mp listed
  clear listed
  rw [String.toList_ofList]
  generalize s.toList = cs at parts ⊢
  induction cs generalizing letters with
  | nil =>
    rw [splitOn_nil, mem_singleton] at parts
    subst parts
    simp
  | cons c cs ih =>
    rw [splitOn_cons_eq_if_modifyHead] at parts
    obtain ⟨first, others, known⟩ := exists_cons_of_ne_nil (splitOn_ne_nil separator cs)
    rw [known] at parts ih
    by_cases here : c = separator
    · rw [if_pos (beq_iff_eq.mpr here)] at parts
      rcases mem_cons.mp parts with rfl | parts
      · simp
      · exact ⟨(ih _ parts).1, List.Subset.trans (ih _ parts).2 (subset_cons_self _ _)⟩
    · rw [if_neg (by simpa using here), modifyHead_cons] at parts
      rcases mem_cons.mp parts with rfl | parts
      · obtain ⟨clear, within⟩ := ih first mem_cons_self
        refine ⟨fun stands => ?_, cons_subset_cons c within⟩
        exact (mem_cons.mp stands).elim (fun same => here same.symm) clear
      · obtain ⟨clear, within⟩ := ih letters (mem_cons_of_mem _ parts)
        exact ⟨clear, List.Subset.trans within (subset_cons_self _ _)⟩

def Trimmed (letters : List Char) : Prop :=
  (∀ c ∈ letters.head?, isSpace c = false) ∧ ∀ c ∈ letters.getLast?, isSpace c = false

theorem trim_eq_self_iff {s : String} : trim s = s ↔ Trimmed s.toList := by
  have cut : trim s = String.ofList ((s.toList.dropWhile isSpace).rdropWhile isSpace) := rfl
  rw [cut]
  constructor
  · intro same
    have letters : (s.toList.dropWhile isSpace).rdropWhile isSpace = s.toList := by
      rw [← String.toList_ofList (l := (s.toList.dropWhile isSpace).rdropWhile isSpace), same]
    have front : s.toList.dropWhile isSpace = s.toList := by
      refine (dropWhile_sublist _).eq_of_length_le ?_
      have shorter := ( rdropWhile_prefix isSpace (l := s.toList.dropWhile isSpace)).length_le
      rwa [letters] at shorter
    rw [front] at letters
    refine ⟨fun c first => ?_, fun c last => ?_⟩
    · have written : 0 < s.toList.length := length_pos_of_mem (mem_of_head? first)
      have kept := dropWhile_eq_self_iff.mp front written
      rw [Option.mem_def, head?_eq_getElem?, getElem?_eq_getElem written] at first
      rw [← Option.some.inj first]
      simpa using kept
    · have written : s.toList ≠ [] := ne_nil_of_mem (mem_of_getLast? last)
      have kept := rdropWhile_eq_self_iff.mp letters written
      rw [Option.mem_def, getLast?_eq_some_getLast written] at last
      rw [← Option.some.inj last]
      simpa using kept
  · rintro ⟨first, last⟩
    have front : s.toList.dropWhile isSpace = s.toList := by
      rw [dropWhile_eq_self_iff]
      intro written
      have kept := first s.toList[0] (by rw [head?_eq_getElem?]; exact getElem?_eq_getElem written)
      simp [kept]
    have back : s.toList.rdropWhile isSpace = s.toList := by
      rw [rdropWhile_eq_self_iff]
      intro written
      have kept := last _ (getLast?_eq_some_getLast written)
      simp [kept]
    rw [front, back, String.ofList_toList]

theorem trimmed_trim (s : String) : Trimmed (trim s).toList := trim_eq_self_iff.mp (trim_trim s)

end Text

namespace Localization

/-- The characters that texts are trimmed and locale tags are cut at. -/
def isMark (c : Char) : Bool := Text.isSpace c || c = '-' || c = '_'

/-- Each character becomes one or more characters, and marks only stand where they stood. -/
inductive Respelled : List Char → List Char → Prop where
  | nil : Respelled [] []
  | cons {c : Char} {block s t : List Char} (written : block ≠ [])
      (marks : ∀ d ∈ block, isMark d = true → d = c) (rest : Respelled s t) :
      Respelled (c :: s) (block ++ t)

/-- `toUpperCase` or `toLowerCase`. -/
structure CaseMapping where
  apply : String → String
  idempotent (s : String) : apply (apply s) = apply s
  respelled (s : String) : Respelled s.toList (apply s).toList

/-- Both mappings; they keep the letters of ASCII that have their case. -/
structure Casing where
  (toUpperCase toLowerCase : CaseMapping)
  capitals (s : String) (letters : ∀ c ∈ s.toList, 65 ≤ c.toNat ∧ c.toNat ≤ 90) :
    toUpperCase.apply s = s
  smalls (s : String) (letters : ∀ c ∈ s.toList, 97 ≤ c.toNat ∧ c.toNat ≤ 122) :
    toLowerCase.apply s = s

namespace Respelled

variable {s s' t t' : List Char}

theorem refl (s : List Char) : Respelled s s := by
  induction s with
  | nil => exact .nil
  | cons c s ih => exact .cons (cons_ne_nil c []) (by simp) ih

theorem append (first : Respelled s t) (last : Respelled s' t') :
    Respelled (s ++ s') (t ++ t') := by
  induction first with
  | nil => exact last
  | cons written marks _ ih =>
    rw [append_assoc]
    exact .cons written marks ih

theorem eq_nil_iff (h : Respelled s t) : t = [] ↔ s = [] := by
  cases h with
  | nil => simp
  | cons written _ _ => simp [written]

theorem mem (h : Respelled s t) {d : Char} (mark : isMark d = true) (stands : d ∈ t) : d ∈ s := by
  induction h with
  | nil => exact stands
  | cons written marks _ ih =>
    rcases mem_append.mp stands with here | later
    · exact marks d here mark ▸ mem_cons_self
    · exact mem_cons_of_mem _ (ih later)

theorem trimmed (h : Respelled s t) (ends : Text.Trimmed s) : Text.Trimmed t := by
  have kept (c d : Char) (plain : Text.isSpace c = false)
      (marks : isMark d = true → d = c) : Text.isSpace d = false := by
    by_contra space
    rw [Bool.not_eq_false] at space
    obtain rfl := marks (by simp [isMark, space])
    exact Bool.false_ne_true (plain.symm.trans space)
  constructor
  · cases h with
    | nil => exact ends.1
    | @cons c block _ _ written marks rest =>
      obtain ⟨d, block, rfl⟩ := exists_cons_of_ne_nil written
      rintro _ ⟨⟩
      exact kept c d (ends.1 c rfl) (marks d mem_cons_self)
  · have last := ends.2
    clear ends
    induction h with
    | nil => exact last
    | @cons c block s t written marks rest ih =>
      cases s with
      | nil =>
        obtain rfl := rest.eq_nil_iff.mpr rfl
        rw [append_nil]
        intro d ends
        exact kept c d (last c rfl) (marks d (mem_of_getLast? ends))
      | cons c' s =>
        have more : t ≠ [] := fun none_left => cons_ne_nil c' s (rest.eq_nil_iff.mp none_left)
        rw [getLast?_append_of_ne_nil block more]
        exact ih (by rwa [getLast?_cons_cons] at last)

theorem intercalate {separator : Char} {parts parts' : List (List Char)}
    (each : List.Forall₂ Respelled parts parts') :
    Respelled ([separator].intercalate parts) ([separator].intercalate parts') := by
  induction each with
  | nil => exact .nil
  | cons first rest ih =>
    cases rest with
    | nil => simpa using first
    | cons next rest =>
      rw [intercalate_cons_cons, intercalate_cons_cons]
      exact (first.append (refl _)).append ih

end Respelled

namespace CaseMapping

variable (mapping : CaseMapping)

@[simp] theorem apply_eq_empty_iff {s : String} : mapping.apply s = "" ↔ s = "" := by
  have letters := (mapping.respelled s).eq_nil_iff
  rwa [String.toList_eq_nil_iff, String.toList_eq_nil_iff] at letters

theorem not_mem_apply {s : String} {c : Char} (mark : isMark c = true) (clear : c ∉ s.toList) :
    c ∉ (mapping.apply s).toList := fun stands => clear ((mapping.respelled s).mem mark stands)

theorem trim_apply_trim (s : String) :
    Text.trim (mapping.apply (Text.trim s)) = mapping.apply (Text.trim s) :=
  Text.trim_eq_self_iff.mpr ((mapping.respelled _).trimmed (Text.trimmed_trim s))

end CaseMapping

def CaseMapping.ofChars (f : Char → List Char) (settled : ∀ c, ∀ d ∈ f c, f d = [d])
    (written : ∀ c, f c ≠ []) (marks : ∀ c, ∀ d ∈ f c, isMark d = true → d = c) : CaseMapping where
  apply s := String.ofList (s.toList.flatMap f)
  idempotent s := by
    rw [String.toList_ofList, List.flatMap_assoc]
    have same (c : Char) : (f c).flatMap f = f c := by
      rw [List.flatMap_congr (settled c), List.flatMap_singleton']
    simp only [same]
  respelled s := by
    rw [String.toList_ofList]
    induction s.toList with
    | nil => exact .nil
    | cons c s ih => exact .cons (written c) (marks c) ih

theorem CaseMapping.ofChars_of_kept {f : Char → List Char}
    {settled : ∀ c, ∀ d ∈ f c, f d = [d]} {written : ∀ c, f c ≠ []}
    {marks : ∀ c, ∀ d ∈ f c, isMark d = true → d = c} {s : String}
    (kept : ∀ c ∈ s.toList, f c = [c]) : (ofChars f settled written marks).apply s = s := by
  show String.ofList (s.toList.flatMap f) = s
  rw [flatMap_congr kept, flatMap_singleton', String.ofList_toList]

theorem toNat_ofNat {n : Nat} (small : n < 128) : (Char.ofNat n).toNat = n := by
  have valid : n.isValidChar := .inl (by omega)
  rw [Char.ofNat, dif_pos valid]
  rfl

theorem upperChar_cases (c : Char) : Text.upperChar c = [c] ∨
    Text.upperChar c ≠ [] ∧ ∀ d ∈ Text.upperChar c, 65 ≤ d.toNat ∧ d.toNat ≤ 90 := by
  rw [Text.upperChar]
  split
  · rename_i small
    have bounds : 97 ≤ c.toNat ∧ c.toNat ≤ 122 := small
    refine .inr ⟨cons_ne_nil _ _, ?_⟩
    rw [forall_mem_singleton, toNat_ofNat (by omega)]
    omega
  · split <;> first | exact .inl rfl | exact .inr (by simp)

theorem upperChar_of_capital {c : Char} (capital : 65 ≤ c.toNat ∧ c.toNat ≤ 90) :
    Text.upperChar c = [c] := by
  have large : ¬('a' ≤ c ∧ c ≤ 'z') := fun small => by
    have bound : 97 ≤ c.toNat := small.1
    omega
  rw [Text.upperChar, if_neg large]
  split <;> first | rfl | omega

theorem isMark_of_letter {c : Char} (first : 65 ≤ c.toNat) (last : c.toNat ≤ 122)
    (letter : c.toNat ≠ 95) : isMark c = false := by
  rw [← Char.ofNat_toNat c]
  generalize c.toNat = n at *
  interval_cases n <;> first | rfl | contradiction

theorem lowerChar_cases (c : Char) : Text.lowerChar c = c ∨
    97 ≤ (Text.lowerChar c).toNat ∧ (Text.lowerChar c).toNat ≤ 122 := by
  rw [Text.lowerChar]
  split
  · rename_i large
    have bounds : 65 ≤ c.toNat ∧ c.toNat ≤ 90 := large
    rw [toNat_ofNat (by omega)]
    omega
  · split
    · exact .inr (by decide)
    · exact .inl rfl

theorem lowerChar_of_small {c : Char} (small : 97 ≤ c.toNat ∧ c.toNat ≤ 122) :
    Text.lowerChar c = c := by
  have not_capital : ¬('A' ≤ c ∧ c ≤ 'Z') := fun capital => by
    have bound : c.toNat ≤ 90 := capital.2
    omega
  rw [Text.lowerChar, if_neg not_capital, if_neg (by omega)]

/-- The case of the letters of ASCII, and of the characters that have one of them as their other
case. -/
def Casing.ascii : Casing where
  toUpperCase := .ofChars Text.upperChar
    (fun c d listed => by
      rcases upperChar_cases c with kept | ⟨-, capitals⟩
      · rw [kept, List.mem_singleton] at listed
        rw [listed, kept]
      · exact upperChar_of_capital (capitals d listed))
    (fun c => by
      rcases upperChar_cases c with kept | ⟨written, -⟩
      · simp [kept]
      · exact written)
    (fun c d listed mark => by
      rcases upperChar_cases c with kept | ⟨-, capitals⟩
      · simpa [kept] using listed
      · have letter := capitals d listed
        rw [isMark_of_letter (by omega) (by omega) (by omega)] at mark
        cases mark)
  toLowerCase := .ofChars (fun c => [Text.lowerChar c])
    (fun c d listed => by
      obtain rfl := List.mem_singleton.mp listed
      rcases lowerChar_cases c with kept | small
      · rw [kept, kept]
      · rw [lowerChar_of_small small])
    (fun c => List.cons_ne_nil _ _)
    (fun c d listed mark => by
      obtain rfl := List.mem_singleton.mp listed
      rcases lowerChar_cases c with kept | small
      · exact kept
      · rw [isMark_of_letter (by omega) (by omega) (by omega)] at mark
        cases mark)
  capitals _ letters :=
    CaseMapping.ofChars_of_kept fun c listed => upperChar_of_capital (letters c listed)
  smalls _ letters := CaseMapping.ofChars_of_kept fun c listed =>
    congrArg (fun c => [c]) (lowerChar_of_small (letters c listed))

variable (casing : Casing)

def normalizeCountryCode (countryCode : Option String) : Option String :=
  match countryCode.map Text.trim with
  | none => none
  | some trimmed => if trimmed = "" then none else some (casing.toUpperCase.apply trimmed)

/-- `replace(/_/g, "-")`. -/
def hyphenated (s : String) : String :=
  String.ofList (s.toList.map fun c => if c = '_' then '-' else c)

def localeSegment (segment : String) : String :=
  if Text.length segment ≤ 3 then casing.toUpperCase.apply segment else segment

/-- The language in lower case, and its short subtags in upper case. -/
def spelledTag (language : String) (rest : List String) : List String :=
  casing.toLowerCase.apply language :: rest.map (localeSegment casing)

def normalizeLocaleTag (locale : Option String) : Option String :=
  match locale.map fun locale => hyphenated (Text.trim locale) with
  | none => none
  | some trimmed =>
    if trimmed = "" then none
    else
      match Text.split '-' trimmed with
      | [] => none
      | language :: rest =>
        if language = "" then none
        else some (Text.join '-' (spelledTag casing language rest))

variable {casing}

theorem normalizeCountryCode_normalized {countryCode : Option String} {code : String}
    (h : normalizeCountryCode casing countryCode = some code) :
    normalizeCountryCode casing (some code) = some code ∧ code ≠ "" := by
  obtain _ | countryCode := countryCode
  · cases h
  · simp only [normalizeCountryCode, Option.map_some] at h
    split at h
    · cases h
    · rename_i written
      obtain rfl := Option.some.inj h
      have shown : casing.toUpperCase.apply (Text.trim countryCode) ≠ "" := by simpa using written
      refine ⟨?_, shown⟩
      simp only [normalizeCountryCode, Option.map_some, CaseMapping.trim_apply_trim]
      rw [if_neg shown, CaseMapping.idempotent]

theorem hyphenated_eq_self {s : String} (clear : '_' ∉ s.toList) : hyphenated s = s := by
  have same : s.toList.map (fun c => if c = '_' then '-' else c) = s.toList :=
    (map_congr_left fun c written => if_neg fun same : c = '_' => clear (same ▸ written)).trans
      (map_id' _)
  rw [hyphenated, same, String.ofList_toList]

theorem not_mem_hyphenated (s : String) : '_' ∉ (hyphenated s).toList := by
  rw [hyphenated, String.toList_ofList]
  intro stands
  obtain ⟨c, -, written⟩ := mem_map.mp stands
  split at written
  · cases written
  · contradiction

theorem trimmed_hyphenated {s : String} (ends : Text.Trimmed s.toList) :
    Text.Trimmed (hyphenated s).toList := by
  have each (c : Char) (plain : Text.isSpace c = false) :
      Text.isSpace (if c = '_' then '-' else c) = false := by
    split
    · rfl
    · exact plain
  rw [hyphenated, String.toList_ofList]
  refine ⟨fun c first => ?_, fun c last => ?_⟩
  · rw [head?_map] at first
    obtain ⟨d, foremost, rfl⟩ := Option.map_eq_some_iff.mp first
    exact each d (ends.1 d foremost)
  · rw [getLast?_map] at last
    obtain ⟨d, hindmost, rfl⟩ := Option.map_eq_some_iff.mp last
    exact each d (ends.2 d hindmost)

theorem localeSegment_respelled (segment : String) :
    Respelled segment.toList (localeSegment casing segment).toList := by
  rw [localeSegment]
  split
  · exact casing.toUpperCase.respelled segment
  · exact .refl _

theorem localeSegment_localeSegment (segment : String) :
    localeSegment casing (localeSegment casing segment) = localeSegment casing segment := by
  by_cases short : Text.length segment ≤ 3
  · rw [localeSegment, localeSegment, if_pos short, CaseMapping.idempotent, ite_self]
  · rw [localeSegment, localeSegment, if_neg short, if_neg short]

theorem spelledTag_respelled (language : String) (rest : List String) :
    List.Forall₂ (fun part part' => Respelled part.toList part'.toList) (language :: rest)
      (spelledTag casing language rest) :=
  .cons (casing.toLowerCase.respelled language) (forall₂_map_right_iff.mpr
    (forall₂_same.mpr fun segment _ => localeSegment_respelled segment))

theorem not_mem_spelledTag {language : String} {rest : List String} {c : Char}
    (mark : isMark c = true) (clear : ∀ part ∈ language :: rest, c ∉ part.toList) :
    ∀ part ∈ spelledTag casing language rest, c ∉ part.toList := by
  rw [spelledTag, forall_mem_cons, forall_mem_map]
  rw [forall_mem_cons] at clear
  exact ⟨casing.toLowerCase.not_mem_apply mark clear.1, fun segment listed stands =>
    clear.2 segment listed ((localeSegment_respelled segment).mem mark stands)⟩

theorem spelledTag_spelledTag (language : String) (rest : List String) :
    spelledTag casing (casing.toLowerCase.apply language) (rest.map (localeSegment casing)) =
      spelledTag casing language rest := by
  rw [spelledTag, spelledTag, CaseMapping.idempotent, map_map]
  exact congrArg _ (map_congr_left fun segment _ => localeSegment_localeSegment segment)

theorem normalizeLocaleTag_some {locale : Option String} {tag : String}
    (h : normalizeLocaleTag casing locale = some tag) : ∃ text language rest,
      Text.Trimmed text.toList ∧ '_' ∉ text.toList ∧
      Text.split '-' text = language :: rest ∧ language ≠ "" ∧
      tag = Text.join '-' (spelledTag casing language rest) := by
  obtain _ | locale := locale
  · cases h
  · simp only [normalizeLocaleTag, Option.map_some] at h
    split at h
    · cases h
    · split at h
      · cases h
      · rename_i language rest parts
        split at h
        · cases h
        · rename_i named
          exact ⟨_, language, rest, trimmed_hyphenated (Text.trimmed_trim locale),
            not_mem_hyphenated _, parts, named, (Option.some.inj h).symm⟩

theorem normalizeLocaleTag_normalized {locale : Option String} {tag : String}
    (h : normalizeLocaleTag casing locale = some tag) :
    normalizeLocaleTag casing (some tag) = some tag ∧ tag ≠ "" := by
  obtain ⟨text, language, rest, ends, plain, parts, named, rfl⟩ := normalizeLocaleTag_some h
  have whole : Respelled text.toList (Text.join '-' (spelledTag casing language rest)).toList := by
    rw [← Text.join_split '-' text, parts, Text.join, Text.join, String.toList_ofList,
      String.toList_ofList]
    exact .intercalate (forall₂_map_left_iff.mpr (forall₂_map_right_iff.mpr
      (spelledTag_respelled language rest)))
  have cut : Text.split '-' (Text.join '-' (spelledTag casing language rest)) =
      spelledTag casing language rest := by
    refine Text.split_join (cons_ne_nil _ _) (not_mem_spelledTag (by decide) ?_)
    exact fun part listed => (Text.mem_split (parts ▸ listed)).1
  have same : hyphenated (Text.trim (Text.join '-' (spelledTag casing language rest))) =
      Text.join '-' (spelledTag casing language rest) := by
    rw [Text.trim_eq_self_iff.mpr (whole.trimmed ends),
      hyphenated_eq_self fun stands => plain (whole.mem (by decide) stands)]
  have spoken : casing.toLowerCase.apply language ≠ "" := by simpa using named
  have shown : Text.join '-' (spelledTag casing language rest) ≠ "" := by
    intro empty
    rw [empty] at cut
    exact spoken (cons.inj cut).1.symm
  refine ⟨?_, shown⟩
  rw [normalizeLocaleTag, Option.map_some, same]
  simp only [if_neg shown, cut]
  rw [spelledTag]
  simp only [if_neg spoken, spelledTag_spelledTag]
  rfl

theorem normalizeLocaleTag_default : normalizeLocaleTag casing (some "en-US") = some "en-US" := by
  have parts : Text.split '-' (hyphenated (Text.trim "en-US")) = ["en", "US"] := by decide +kernel
  have language : casing.toLowerCase.apply "en" = "en" := casing.smalls "en" (by simp)
  have region : localeSegment casing "US" = "US" := by
    rw [localeSegment, if_pos (by decide +kernel), casing.capitals "US" (by simp)]
  have shown : hyphenated (Text.trim "en-US") ≠ "" := by decide +kernel
  rw [normalizeLocaleTag, Option.map_some]
  simp only [if_neg shown, parts]
  rw [if_neg (by decide), spelledTag, language, map_singleton, region]
  decide +kernel

/-- One round of the loop: empty and repeated texts are passed over. -/
def pushDistinct (result : List String) (value : Option String) : List String :=
  match value with
  | none => result
  | some value => if value = "" ∨ value ∈ result then result else result ++ [value]

def dedupeStrings (values : List (Option String)) : List String := values.foldl pushDistinct []

variable (casing) in
def normalizeSupportedLocales (locales : List (Option String))
    (defaultLocale fallbackLocale : Option String) : List String :=
  dedupeStrings ((locales ++ [defaultLocale, fallbackLocale]).map (normalizeLocaleTag casing))

theorem mem_foldl_pushDistinct {values : List (Option String)} {result : List String}
    {value : String} : value ∈ values.foldl pushDistinct result ↔
      value ∈ result ∨ some value ∈ values ∧ value ≠ "" := by
  induction values generalizing result with
  | nil => simp
  | cons first values ih =>
    rw [foldl_cons, ih]
    cases first with
    | none => simp [pushDistinct]
    | some first =>
      rw [pushDistinct]
      split
      · grind
      · grind

theorem mem_dedupeStrings {values : List (Option String)} {value : String} :
    value ∈ dedupeStrings values ↔ some value ∈ values ∧ value ≠ "" := by
  rw [dedupeStrings, mem_foldl_pushDistinct]
  simp

theorem nodup_foldl_pushDistinct {values : List (Option String)} {result : List String}
    (distinct : result.Nodup) : (values.foldl pushDistinct result).Nodup := by
  induction values generalizing result with
  | nil => exact distinct
  | cons first values ih =>
    rw [foldl_cons]
    refine ih ?_
    cases first with
    | none => exact distinct
    | some first =>
      rw [pushDistinct]
      split
      · exact distinct
      · rename_i new
        exact nodup_append.mpr ⟨distinct, nodup_singleton _, by grind⟩

theorem foldl_pushDistinct_some {values result : List String} (distinct : (result ++ values).Nodup)
    (written : "" ∉ values) : (values.map some).foldl pushDistinct result = result ++ values := by
  induction values generalizing result with
  | nil => simp
  | cons first values ih =>
    have new : ¬(first = "" ∨ first ∈ result) := by
      rw [nodup_append] at distinct
      rintro (rfl | known)
      · exact written mem_cons_self
      · exact distinct.2.2 first known first mem_cons_self rfl
    rw [map_cons, foldl_cons, pushDistinct, if_neg new, ih (by simpa using distinct)
      fun listed => written (mem_cons_of_mem _ listed), append_assoc]
    rfl

theorem foldl_pushDistinct_of_mem {values : List (Option String)} {result : List String}
    (known : ∀ value, some value ∈ values → value ∈ result) :
    values.foldl pushDistinct result = result := by
  induction values with
  | nil => rfl
  | cons first values ih =>
    have same : pushDistinct result first = result := by
      cases first with
      | none => rfl
      | some first => rw [pushDistinct, if_pos (.inr (known first mem_cons_self))]
    rw [foldl_cons, same, ih fun value listed => known value (mem_cons_of_mem _ listed)]

theorem dedupeStrings_append_of_mem {values : List String} {others : List (Option String)}
    (distinct : values.Nodup) (written : "" ∉ values)
    (known : ∀ value, some value ∈ others → value ∈ values) :
    dedupeStrings (values.map some ++ others) = values := by
  rw [dedupeStrings, foldl_append, foldl_pushDistinct_some (by simpa using distinct) written,
    nil_append, foldl_pushDistinct_of_mem known]

theorem nodup_dedupeStrings (values : List (Option String)) : (dedupeStrings values).Nodup :=
  nodup_foldl_pushDistinct nodup_nil

theorem empty_not_mem_dedupeStrings (values : List (Option String)) :
    "" ∉ dedupeStrings values := fun listed => (mem_dedupeStrings.mp listed).2 rfl

theorem map_normalizeLocaleTag {locales : List (Option String)}
    {defaultLocale fallbackLocale : Option String} :
    ((normalizeSupportedLocales casing locales defaultLocale fallbackLocale).map some).map
        (normalizeLocaleTag casing) =
      (normalizeSupportedLocales casing locales defaultLocale fallbackLocale).map some := by
  rw [map_map]
  refine map_congr_left fun tag listed => ?_
  rw [normalizeSupportedLocales, mem_dedupeStrings, mem_map] at listed
  obtain ⟨⟨locale, -, normalized⟩, -⟩ := listed
  rw [Function.comp_apply, (normalizeLocaleTag_normalized normalized).1]

theorem normalizeSupportedLocales_normalized {locales : List (Option String)}
    {defaultLocale fallbackLocale defaultLocale' fallbackLocale' : Option String}
    (listed : ∀ locale ∈ [defaultLocale', fallbackLocale'], ∀ tag,
      normalizeLocaleTag casing locale = some tag →
        tag ∈ normalizeSupportedLocales casing locales defaultLocale fallbackLocale) :
    normalizeSupportedLocales casing
        ((normalizeSupportedLocales casing locales defaultLocale fallbackLocale).map some)
        defaultLocale' fallbackLocale' =
      normalizeSupportedLocales casing locales defaultLocale fallbackLocale := by
  conv_lhs => rw [normalizeSupportedLocales, map_append, map_normalizeLocaleTag]
  refine dedupeStrings_append_of_mem (nodup_dedupeStrings _) (empty_not_mem_dedupeStrings _) ?_
  intro tag added
  obtain ⟨locale, one, normalized⟩ := mem_map.mp added
  exact listed locale one tag normalized

theorem normalizeSupportedLocales_add {locales : List (Option String)}
    {defaultLocale fallbackLocale : Option String} {added : String}
    (settled : normalizeLocaleTag casing (some added) = some added) :
    normalizeSupportedLocales casing
        ((normalizeSupportedLocales casing locales defaultLocale fallbackLocale).map some)
        (some added) (some added) =
      pushDistinct (normalizeSupportedLocales casing locales defaultLocale fallbackLocale)
        (some added) := by
  let tags := normalizeSupportedLocales casing locales defaultLocale fallbackLocale
  have twice : pushDistinct (pushDistinct tags (some added)) (some added) =
      pushDistinct tags (some added) := by
    simp only [pushDistinct]
    split
    · rfl
    · rw [if_pos (.inr (mem_append_right _ mem_cons_self))]
  have pushed : (tags.map some).foldl pushDistinct [] = tags :=
    (foldl_pushDistinct_some (nodup_dedupeStrings _) (empty_not_mem_dedupeStrings _)).trans
      (nil_append _)
  conv_lhs => rw [normalizeSupportedLocales, map_append, map_normalizeLocaleTag]
  rw [dedupeStrings, foldl_append, pushed, map_cons, map_singleton, settled]
  exact twice

-- Locale tags are compared by what is proved of them, and are not to be computed in a unification.
attribute [irreducible] normalizeLocaleTag normalizeSupportedLocales

end Localization

end Exetron
