import Mathlib.Data.List.Basic
import Mathlib.Data.List.Nodup
import Mathlib.Algebra.BigOperators.Group.List.Basic

/-!
# Keyed rows

A table is a list of rows in insertion order, each with a key. `find` is a lookup by key,
`updateWhere` a statement that rewrites the rows satisfying a predicate, `modify` the same
for one key.
-/

namespace Exetron.Lib.Rows

open List

variable {α κ β : Type} [DecidableEq κ]
variable {key : α → κ} {rows : List α} {k : κ} {r : α} {p : α → Bool} {f : α → α}

abbrev Keyed (α : Type) {κ : Type} (key : α → κ) := { rows : List α // (rows.map key).Nodup }

/-- The table without rows. -/
abbrev noRows {key : α → κ} : Keyed α key := ⟨[], List.nodup_nil⟩

/-- The first row with key `k`. -/
def find (key : α → κ) (rows : List α) (k : κ) : Option α := rows.find? fun r => key r = k

/-- Rewrites every row that satisfies `p`. -/
def updateWhere (p : α → Bool) (f : α → α) (rows : List α) : List α :=
  rows.map fun r => if p r then f r else r

/-- Rewrites the rows with key `k`. -/
def modify (key : α → κ) (k : κ) (f : α → α) (rows : List α) : List α :=
  updateWhere (fun r => key r = k) f rows

theorem find_some (h : find key rows k = some r) : r ∈ rows ∧ key r = k :=
  ⟨mem_of_find?_eq_some h, by simpa using find?_some h⟩

theorem exists_find_iff : (∃ r, find key rows k = some r) ↔ k ∈ rows.map key := by
  rw [← Option.isSome_iff_exists, find, find?_isSome]
  simp [mem_map]

omit [DecidableEq κ] in
theorem eq_of_key (unique : (rows.map key).Nodup) {r' : α} (hr : r ∈ rows) (hr' : r' ∈ rows)
    (same : key r = key r') : r = r' :=
  inj_on_of_nodup_map unique hr hr' same

theorem find_of_mem (unique : (rows.map key).Nodup) (hr : r ∈ rows) :
    find key rows (key r) = some r := by
  cases found : find key rows (key r) with
  | none => simpa using find?_eq_none.mp found r hr
  | some r' =>
    obtain ⟨member, same⟩ := find_some found
    rw [eq_of_key unique member hr same]

theorem find_eq_some_iff (unique : (rows.map key).Nodup) :
    find key rows k = some r ↔ r ∈ rows ∧ key r = k := by
  constructor
  · exact find_some
  · rintro ⟨member, rfl⟩
    exact find_of_mem unique member

omit [DecidableEq κ] in
theorem length_filter_le_one (unique : (rows.map key).Nodup)
    (same : ∀ r ∈ rows, ∀ r' ∈ rows, p r = true → p r' = true → key r = key r') :
    (rows.filter p).length ≤ 1 := by
  have distinct : (rows.filter p).Nodup := (List.Nodup.of_map _ unique).filter _
  have alike : ∀ r ∈ rows.filter p, ∀ r' ∈ rows.filter p, r = r' := by
    intro r hr r' hr'
    obtain ⟨hr, selected⟩ := mem_filter.mp hr
    obtain ⟨hr', selected'⟩ := mem_filter.mp hr'
    exact eq_of_key unique hr hr' (same r hr r' hr' selected selected')
  cases listed : rows.filter p with
  | nil => exact Nat.zero_le 1
  | cons r rest =>
    cases rest with
    | nil => exact Nat.le_refl 1
    | cons r' rest =>
      rw [listed] at distinct alike
      have twice := alike r mem_cons_self r' (mem_cons_of_mem r mem_cons_self)
      exact absurd twice (ne_of_not_mem_cons (nodup_cons.mp distinct).1)

theorem all_found (unique : (rows.map key).Nodup) {ks : List κ}
    (same : (rows.filter fun r => key r ∈ ks).length = ks.length) :
    ∀ k ∈ ks, ∃ r ∈ rows, key r = k := by
  have distinct : ((rows.filter fun r => key r ∈ ks).map key).Nodup :=
    unique.sublist (filter_sublist.map key)
  have within : (rows.filter fun r => key r ∈ ks).map key ⊆ ks := by
    intro k listed
    obtain ⟨r, member, rfl⟩ := mem_map.mp listed
    exact of_decide_eq_true (mem_filter.mp member).2
  have all : ((rows.filter fun r => key r ∈ ks).map key).Perm ks := by
    refine (subperm_of_subset distinct within).perm_of_length_le (Nat.le_of_eq ?_)
    rw [length_map, same]
  intro k asked
  obtain ⟨r, member, rfl⟩ := mem_map.mp (all.mem_iff.mpr asked)
  exact ⟨r, (mem_filter.mp member).1, rfl⟩

omit [DecidableEq κ] in
theorem nodup_append_key (unique : (rows.map key).Nodup) (new : key r ∉ rows.map key) :
    ((rows ++ [r]).map key).Nodup := by
  rw [map_append, map_singleton, nodup_append']
  refine ⟨unique, nodup_singleton _, fun k listed is => ?_⟩
  rw [mem_singleton.mp is] at listed
  exact new listed

theorem nodup_append_new [Preorder α] {xs : List α} {n : α} (unique : xs.Nodup)
    (old : ∀ x ∈ xs, x < n) : (xs ++ [n]).Nodup := by
  refine nodup_append'.mpr ⟨unique, nodup_singleton n, ?_⟩
  intro x member new
  rw [mem_singleton.mp new] at member
  exact lt_irrefl n (old n member)

theorem old_append_new {xs : List Nat} {n : Nat} (old : ∀ x ∈ xs, x < n) :
    ∀ x ∈ xs ++ [n], x < n + 1 := by
  intro x member
  rcases mem_append.mp member with before | new
  · exact Nat.lt_succ_of_lt (old x before)
  · rw [mem_singleton.mp new]
    exact Nat.lt_succ_self n

theorem mem_updateWhere :
    r ∈ updateWhere p f rows ↔ ∃ r₀ ∈ rows, (if p r₀ then f r₀ else r₀) = r := by
  simp [updateWhere]

theorem mem_modify :
    r ∈ modify key k f rows ↔ ∃ r₀ ∈ rows, (if key r₀ = k then f r₀ else r₀) = r := by
  simp [modify, mem_updateWhere]

theorem mem_of_modify (h : r ∈ modify key k f rows) :
    r ∈ rows ∨ ∃ r₀ ∈ rows, key r₀ = k ∧ r = f r₀ := by
  obtain ⟨r₀, stored, rfl⟩ := mem_modify.mp h
  split
  · exact .inr ⟨r₀, stored, ‹_›, rfl⟩
  · exact .inl stored

theorem map_updateWhere {g : α → β} (keeps : ∀ r, g (f r) = g r) (rows : List α) :
    (updateWhere p f rows).map g = rows.map g := by
  rw [updateWhere, map_map]
  refine map_congr_left fun r _ => ?_
  simp only [Function.comp]
  split
  · exact keeps r
  · rfl

theorem map_modify {g : α → β} (keeps : ∀ r, g (f r) = g r) (rows : List α) :
    (modify key k f rows).map g = rows.map g :=
  map_updateWhere keeps rows

theorem filter_updateWhere {q : α → Bool} (keeps : ∀ r, q (f r) = q r) (rows : List α) :
    (updateWhere p f rows).filter q = updateWhere p f (rows.filter q) := by
  rw [updateWhere, updateWhere, filter_map]
  congr 1
  refine filter_congr fun r _ => ?_
  simp only [Function.comp]
  split
  · exact keeps r
  · rfl

theorem filter_modify {q : α → Bool} (keeps : ∀ r, q (f r) = q r) (rows : List α) :
    (modify key k f rows).filter q = modify key k f (rows.filter q) :=
  filter_updateWhere keeps rows

theorem filter_modify_other {q : α → Bool}
    (out : ∀ r ∈ rows, key r = k → q r = false ∧ q (f r) = false) :
    (modify key k f rows).filter q = rows.filter q := by
  induction rows with
  | nil => rfl
  | cons r rows ih =>
    have rest := ih fun r' hr' => out r' (mem_cons_of_mem r hr')
    simp only [modify, updateWhere, map_cons, decide_eq_true_eq] at rest ⊢
    by_cases hk : key r = k
    · obtain ⟨before, after⟩ := out r mem_cons_self hk
      rw [if_pos hk, filter_cons_of_neg (by simp [after]),
        filter_cons_of_neg (by simp [before]), rest]
    · rw [if_neg hk, filter_cons, filter_cons, rest]

theorem eq_of_modify_eq (same : modify key (key r) f rows = rows) (hr : r ∈ rows) : f r = r := by
  have pointwise : rows.map (fun r' => if decide (key r' = key r) then f r' else r') = rows.map id :=
    same.trans (map_id rows).symm
  simpa using map_inj_left.mp pointwise r hr

theorem forall₂_updateWhere {S : α → α → Prop} (refl : ∀ r, S r r)
    (rewritten : ∀ r, p r = true → S r (f r)) (rows : List α) :
    List.Forall₂ S rows (updateWhere p f rows) := by
  refine forall₂_map_right_iff.mpr (forall₂_same.mpr fun r _ => ?_)
  split
  · exact rewritten r ‹_›
  · exact refl r

theorem forall₂_modify {S : α → α → Prop} (refl : ∀ r, S r r)
    (rewritten : ∀ r, key r = k → S r (f r)) (rows : List α) :
    List.Forall₂ S rows (modify key k f rows) :=
  forall₂_updateWhere refl (fun r h => rewritten r (of_decide_eq_true h)) rows

theorem modify_congr {g : α → α} (same : ∀ r ∈ rows, key r = k → f r = g r) :
    modify key k f rows = modify key k g rows := by
  refine map_congr_left fun r hr => ?_
  by_cases hk : key r = k
  · simp [hk, same r hr hk]
  · simp [hk]

theorem modify_modify (f g : α → α) (keeps : ∀ r, key (f r) = key r) (rows : List α) :
    modify key k g (modify key k f rows) = modify key k (g ∘ f) rows := by
  rw [modify, modify, modify, updateWhere, updateWhere, updateWhere, map_map]
  refine map_congr_left fun r _ => ?_
  by_cases hk : key r = k
  · simp [hk, keeps]
  · simp [hk]

theorem modify_stored (unique : (rows.map key).Nodup) (hr : r ∈ rows) :
    modify key (key r) f rows = modify key (key r) (fun _ => f r) rows :=
  modify_congr fun _ hr' same => congrArg f (eq_of_key unique hr' hr same)

theorem modify_append_new (fresh : ∀ r' ∈ rows, key r' ≠ key r) :
    modify key (key r) f (rows ++ [r]) = rows ++ [f r] := by
  have kept : rows.map (fun r' => if decide (key r' = key r) = true then f r' else r') = rows := by
    conv_rhs => rw [← map_id rows]
    refine map_congr_left fun r' hr' => ?_
    simp [fresh r' hr']
  simp only [modify, updateWhere, map_append, kept]
  simp

theorem updateWhere_eq_self (none : ∀ r ∈ rows, p r = false) : updateWhere p f rows = rows := by
  rw [updateWhere]
  conv_rhs => rw [← map_id rows]
  refine map_congr_left fun r hr => ?_
  simp [none r hr]

theorem modify_eq_self (absent : ∀ r ∈ rows, key r ≠ k) : modify key k f rows = rows :=
  updateWhere_eq_self fun r hr => by simpa using absent r hr

theorem countP_mem_append {q : α → Prop} [DecidablePred q] (unique : (rows.map key).Nodup)
    (hr : r ∈ rows) {ks : List κ} (new : key r ∉ ks) :
    rows.countP (fun x => key x ∈ ks ++ [key r] ∧ q x) =
      rows.countP (fun x => key x ∈ ks ∧ q x) + if q r then 1 else 0 := by
  induction rows with
  | nil => cases hr
  | cons x rows ih =>
    rw [map_cons, nodup_cons] at unique
    rw [countP_cons, countP_cons]
    rcases mem_cons.mp hr with rfl | later
    · have rest : rows.countP (fun x => key x ∈ ks ++ [key r] ∧ q x) =
          rows.countP (fun x => key x ∈ ks ∧ q x) := by
        refine countP_congr fun y listed => ?_
        have other : key y ≠ key r := fun same => unique.1 (same ▸ mem_map_of_mem listed)
        simp [other]
      rw [rest]
      simp [new]
    · have other : key x ≠ key r := fun same => unique.1 (same ▸ mem_map_of_mem later)
      rw [ih unique.2 later]
      simp only [mem_append, mem_singleton, other, or_false]
      omega

theorem sum_map_modify {M : Type} [AddCommMonoid M] (g : α → M) (unique : (rows.map key).Nodup)
    (hr : r ∈ rows) :
    ((modify key (key r) f rows).map g).sum + g r = (rows.map g).sum + g (f r) := by
  induction rows with
  | nil => cases hr
  | cons r' rows ih =>
    obtain ⟨new, unique⟩ := nodup_cons.mp unique
    have head : modify key (key r) f (r' :: rows) =
        (if key r' = key r then f r' else r') :: modify key (key r) f rows := by
      simp [modify, updateWhere]
    rw [head, map_cons, sum_cons, map_cons, sum_cons]
    rcases mem_cons.mp hr with rfl | member
    · have rest : modify key (key r) f rows = rows :=
        modify_eq_self fun r' hr' same => new (mem_map.mpr ⟨r', hr', same⟩)
      rw [if_pos rfl, rest, add_right_comm, add_comm (g (f r)), add_right_comm]
    · have other : key r' ≠ key r := fun same => new (mem_map.mpr ⟨r, member, same.symm⟩)
      rw [if_neg other, add_assoc, ih unique member, add_assoc]

section
variable {M : Type}

/-- The column `g` summed over the rows that satisfy `p`. -/
def total [AddMonoid M] (p : α → Bool) (g : α → M) (rows : List α) : M :=
  ((rows.filter p).map g).sum

def share [Zero M] (p : α → Bool) (g : α → M) (r : α) : M := if p r then g r else 0

theorem total_eq_sum [AddMonoid M] {g : α → M} (rows : List α) :
    total p g rows = (rows.map (share p g)).sum := by
  induction rows with
  | nil => rfl
  | cons r rows ih =>
    rw [map_cons, sum_cons, ← ih, total, total, share, filter_cons]
    split
    · rw [map_cons, sum_cons]
    · rw [zero_add]

theorem total_append [AddMonoid M] {g : α → M} (rows : List α) (r : α) :
    total p g (rows ++ [r]) = total p g rows + share p g r := by
  rw [total_eq_sum, total_eq_sum, map_append, sum_append, map_singleton, sum_singleton]

theorem total_forall₂ [AddMonoid M] {g : α → M} {q : β → Bool} {h : β → M} {rows' : List β}
    (same : List.Forall₂ (fun r r' => share p g r = share q h r') rows rows') :
    total p g rows = total q h rows' := by
  rw [total_eq_sum, total_eq_sum]
  induction same with
  | nil => rfl
  | cons first _ ih => rw [map_cons, map_cons, sum_cons, sum_cons, first, ih]

theorem total_key [AddMonoid M] {g : α → M} (unique : (rows.map key).Nodup) (hr : r ∈ rows) :
    total (fun r' => key r' = key r) g rows = g r := by
  induction rows with
  | nil => cases hr
  | cons r' rows ih =>
    obtain ⟨new, unique⟩ := nodup_cons.mp unique
    rw [total_eq_sum, map_cons, sum_cons, ← total_eq_sum, share]
    rcases mem_cons.mp hr with rfl | later
    · have none : rows.filter (fun r' => decide (key r' = key r)) = [] := by
        rw [filter_eq_nil_iff]
        intro r' hr' same
        exact new (mem_map.mpr ⟨r', hr', of_decide_eq_true same⟩)
      rw [if_pos (decide_eq_true rfl), total, none]
      exact add_zero _
    · have other : key r' ≠ key r := fun same => new (mem_map.mpr ⟨r, later, same.symm⟩)
      rw [if_neg (by simpa using other), ih unique later, zero_add]

theorem total_modify [AddCommMonoid M] {g : α → M} (unique : (rows.map key).Nodup) (hr : r ∈ rows) :
    total p g (modify key (key r) f rows) + share p g r = total p g rows + share p g (f r) := by
  rw [total_eq_sum, total_eq_sum]
  exact sum_map_modify (share p g) unique hr

end

theorem find_modify (keeps : ∀ r, key (f r) = key r) (rows : List α) (k' : κ) :
    find key (modify key k f rows) k' =
      if k' = k then (find key rows k').map f else find key rows k' := by
  induction rows with
  | nil => simp [find, modify, updateWhere]
  | cons r rows ih =>
    simp only [find, modify, updateWhere, map_cons, find?_cons] at ih ⊢
    have same : key (if key r = k then f r else r) = key r := by
      split
      · exact keeps r
      · rfl
    simp only [decide_eq_true_eq] at ih ⊢
    rw [same, ih]
    by_cases hk' : key r = k'
    · subst hk'
      by_cases hk : key r = k <;> simp [hk]
    · simp [hk']

theorem modify_put (rows : List α) :
    modify key k (fun _ => r) rows = modify key k (fun r' => if key r' = k then r else r') rows :=
  modify_congr fun _ _ here => by rw [if_pos here]

theorem map_put (keyed : key r = k) (rows : List α) :
    (modify key k (fun _ => r) rows).map key = rows.map key := by
  rw [modify_put]
  refine map_modify (fun r' => ?_) rows
  split
  · rw [keyed, ‹key r' = k›]
  · rfl

theorem find_put (keyed : key r = k) (rows : List α) (k' : κ) :
    find key (modify key k (fun _ => r) rows) k' =
      if k' = k then (find key rows k').map fun _ => r else find key rows k' := by
  rw [modify_put, find_modify]
  · split
    · rename_i here
      cases found : find key rows k' with
      | none => rfl
      | some r' => simp [(find_some found).2, here]
    · rfl
  · intro r'
    split
    · rw [keyed, ‹key r' = k›]
    · rfl

theorem find_append_new (fresh : ∀ r' ∈ rows, key r' ≠ key r) :
    find key (rows ++ [r]) (key r) = some r := by
  have none : rows.find? (fun r' => decide (key r' = key r)) = none :=
    find?_eq_none.mpr fun r' hr' => by simpa using fresh r' hr'
  simp [find, find?_append, none]

theorem find_append_old (other : key r ≠ k) : find key (rows ++ [r]) k = find key rows k := by
  simp [find, find?_append, other]

end Exetron.Lib.Rows
