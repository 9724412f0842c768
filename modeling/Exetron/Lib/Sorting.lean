import Mathlib.Data.List.Sort

/-!
# Places in a stable sort

How many elements a stable sort puts in front of a given one: those that stood before it and may
stay there, and those after it that must come first.
-/

namespace Exetron.Lib.Sorting

open List

variable {α : Type} (r : α → α → Prop) [DecidableRel r]

/-- The place of the element between `earlier` and `later` once the list is sorted. -/
def rank (earlier : List α) (x : α) (later : List α) : Nat :=
  (earlier.filter fun y => r y x).length + (later.filter fun y => ¬r x y).length

variable {r} {x y : α} {front rest earlier later : List α}

theorem orderedInsert_front (before : r y x) :
    (front ++ x :: rest).orderedInsert r y = front.orderedInsert r y ++ x :: rest := by
  induction front with
  | nil => exact orderedInsert_cons_of_le _ _ before
  | cons z front ih =>
    by_cases here : r y z
    · rw [cons_append, orderedInsert_cons_of_le _ _ here, orderedInsert_cons_of_le _ _ here]
      rfl
    · rw [cons_append, orderedInsert_of_not_le _ _ here, orderedInsert_of_not_le _ _ here, ih]
      rfl

theorem orderedInsert_rest [IsTrans α r] (sorted : ∀ z ∈ front, r z x) (after : ¬r y x) :
    (front ++ x :: rest).orderedInsert r y = front ++ x :: rest.orderedInsert r y := by
  induction front with
  | nil => exact orderedInsert_of_not_le _ _ after
  | cons z front ih =>
    have passes : ¬r y z := fun stays =>
      after (IsTrans.trans _ _ _ stays (sorted z mem_cons_self))
    rw [cons_append, orderedInsert_of_not_le _ _ passes,
      ih fun z' listed => sorted z' (mem_cons_of_mem _ listed)]
    rfl

theorem takeWhile_sorted [IsTrans α r] {l : List α} (sorted : l.Pairwise r) :
    (l.takeWhile fun y => ¬r x y) = l.filter fun y => ¬r x y := by
  induction l with
  | nil => rfl
  | cons z l ih =>
    obtain ⟨least, sorted⟩ := pairwise_cons.mp sorted
    by_cases here : r x z
    · have beyond : ∀ y ∈ l, ¬(decide ¬r x y) = true := fun y listed => by
        simpa using IsTrans.trans _ _ _ here (least y listed)
      rw [takeWhile_cons_of_neg (by simpa using here),
        filter_cons_of_neg (by simpa using here), filter_eq_nil_iff.mpr beyond]
    · rw [takeWhile_cons_of_pos (by simpa using here),
        filter_cons_of_pos (by simpa using here), ih sorted]

theorem insertionSort_split [Std.Total r] [IsTrans α r] (earlier : List α) (x : α)
    (later : List α) : ∃ front rest, (earlier ++ x :: later).insertionSort r = front ++ x :: rest ∧
      front.length = rank r earlier x later ∧
      ∀ z ∈ front, (z ∈ earlier ∧ r z x) ∨ (z ∈ later ∧ ¬r x z) := by
  induction earlier with
  | nil =>
    refine ⟨_, _, insertionSort_cons_eq_take_drop r x later, ?_, fun z taken => .inr ?_⟩
    · rw [takeWhile_sorted (pairwise_insertionSort r later), rank, filter_nil,
        length_nil, Nat.zero_add]
      exact ((perm_insertionSort r later).filter _).length_eq
    · rw [takeWhile_sorted (pairwise_insertionSort r later), mem_filter,
        mem_insertionSort, decide_eq_true_iff] at taken
      exact taken
  | cons y earlier ih =>
    obtain ⟨front, rest, split, length, placed⟩ := ih
    rw [cons_append, insertionSort_cons, split]
    by_cases before : r y x
    · refine ⟨_, _, orderedInsert_front before, ?_, fun z listed => ?_⟩
      · rw [orderedInsert_length, length, rank, rank,
          filter_cons_of_pos (by simpa using before), length_cons]
        exact Nat.add_right_comm _ _ _
      · rcases (mem_orderedInsert r).mp listed with rfl | old
        · exact .inl ⟨mem_cons_self, before⟩
        · exact (placed z old).imp_left fun ⟨there, first⟩ =>
            ⟨mem_cons_of_mem _ there, first⟩
    · have sorted : ∀ z ∈ front, r z x := fun z listed =>
        (placed z listed).elim And.right fun late => (total_of r x z).resolve_left late.2
      refine ⟨_, _, orderedInsert_rest sorted before, ?_, fun z listed => ?_⟩
      · rw [length, rank, rank, filter_cons_of_neg (by simpa using before)]
      · exact (placed z listed).imp_left fun ⟨there, first⟩ =>
          ⟨mem_cons_of_mem _ there, first⟩

theorem mem_take_iff [Std.Total r] [IsTrans α r] (fresh : x ∉ earlier ++ later) (k : Nat) :
    x ∈ ((earlier ++ x :: later).insertionSort r).take k ↔ rank r earlier x later < k := by
  obtain ⟨front, rest, split, length, placed⟩ := insertionSort_split (r := r) earlier x later
  have absent : x ∉ front := fun listed => fresh <| mem_append.mpr <|
    (placed x listed).imp And.left And.left
  rw [split, ← length]
  constructor
  · intro shown
    by_contra full
    rw [take_append_of_le_length (not_lt.mp full)] at shown
    exact absent (mem_of_mem_take shown)
  · intro room
    rw [take_append, mem_append]
    right
    obtain ⟨n, left⟩ := Nat.exists_eq_succ_of_ne_zero (Nat.sub_ne_zero_of_lt room)
    rw [left]
    exact mem_cons_self

end Exetron.Lib.Sorting
