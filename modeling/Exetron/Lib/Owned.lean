import Exetron.Lib.Rows

/-!
# Rows of several owners

A statement made for one owner leaves a table as it was, adds a row under the next identifier, or
changes or removes a row of that owner. The rows of the others stand after it as they stood before
and are found where they were found.
-/

namespace Exetron.Lib.Rows

open List

variable {α κ ρ : Type} [DecidableEq κ]

/-- What a statement that may touch the rows with `mine` makes of a table, where the identifiers
from `n` on are new before it and those from `n'` on after it. -/
inductive OwnChange (text : ℕ → κ) (n n' : ℕ) (key : α → κ) (ref : α → ρ) (mine : α → Prop)
    (rows rows' : List α) : Prop where
  | kept (same : rows' = rows)
  | added (new : α) (named : key new = text n) (taken : n < n') (more : rows' = rows ++ [new])
  | changed (row : α) (stored : row ∈ rows) (own : mine row) (new : α)
      (is : rows' = modify key (key row) (fun _ => new) rows) (keyed : key new = key row)
      (same : ref new = ref row)
  | removed (row : α) (stored : row ∈ rows) (own : mine row)
      (is : rows' = rows.filter fun other => key other ≠ key row)

/-- No two rows have a key, and the keys are identifiers that are no longer new. -/
structure Numbered (text : ℕ → κ) (n : ℕ) (keys : List κ) : Prop where
  distinct : keys.Nodup
  named : ∀ k ∈ keys, ∃ m < n, k = text m

variable {text : ℕ → κ} {n n' : ℕ} {key : α → κ} {ref : α → ρ} {mine : α → Prop}
  {rows rows' : List α} {row : α}

theorem OwnChange.keeps (change : OwnChange text n n' key ref mine rows rows')
    (unique : (rows.map key).Nodup) (stored : row ∈ rows) (other : ¬mine row) : row ∈ rows' := by
  have apart {own : α} (stored' : own ∈ rows) (isMine : mine own) : key row ≠ key own :=
    fun same => other (eq_of_key unique stored stored' same ▸ isMine)
  cases change with
  | kept same => exact same ▸ stored
  | added new _ _ more => exact more ▸ mem_append_left _ stored
  | changed own stored' isMine new is _ _ =>
    exact is ▸ mem_modify.mpr ⟨row, stored, if_neg (apart stored' isMine)⟩
  | removed own stored' isMine is =>
    exact is ▸ mem_filter.mpr ⟨stored, by simpa using apart stored' isMine⟩

theorem map_modify_const {new : α} (keyed : key new = key row) (rows : List α) :
    (modify key (key row) (fun _ => new) rows).map key = rows.map key := by
  rw [modify, updateWhere, map_map]
  refine map_congr_left fun other _ => ?_
  by_cases here : key other = key row
  · simp [here, keyed]
  · simp [here]

theorem OwnChange.numbered (injective : Function.Injective text) (later : n ≤ n')
    (change : OwnChange text n n' key ref mine rows rows')
    (numbered : Numbered text n (rows.map key)) : Numbered text n' (rows'.map key) := by
  have named : ∀ k ∈ rows.map key, ∃ m < n', k = text m := fun k listed => by
    obtain ⟨m, before, is⟩ := numbered.named k listed
    exact ⟨m, Nat.lt_of_lt_of_le before later, is⟩
  cases change with
  | kept same => exact same ▸ ⟨numbered.distinct, named⟩
  | added new is taken more =>
    rw [more, map_append, map_singleton]
    refine ⟨?_, fun k listed => ?_⟩
    · refine nodup_append.mpr ⟨numbered.distinct, nodup_singleton _, ?_⟩
      rintro k listed k' last rfl
      obtain ⟨m, before, named⟩ := numbered.named k listed
      rw [mem_singleton.mp last, is] at named
      exact Nat.ne_of_lt before (injective named).symm
    · rcases mem_append.mp listed with listed | last
      · exact named k listed
      · exact ⟨n, taken, (mem_singleton.mp last).trans is⟩
  | changed row _ _ new is keyed _ =>
    rw [is, map_modify_const keyed]
    exact ⟨numbered.distinct, named⟩
  | removed row _ _ is =>
    have fewer := (filter_sublist (p := fun other => key other ≠ key row) (l := rows)).map key
    rw [is]
    exact ⟨numbered.distinct.sublist fewer, fun k listed => named k (fewer.subset listed)⟩

/-- A row that is not touched is still the first one that a condition on references finds. -/
theorem OwnChange.find (change : OwnChange text n n' key ref mine rows rows')
    (unique : (rows.map key).Nodup) {p : α → Bool}
    (sees : ∀ x y, ref x = ref y → p x = true → p y = true ∨ key y = key row)
    (found : rows.find? p = some row) (other : ¬mine row) : rows'.find? p = some row := by
  have stored := mem_of_find?_eq_some found
  have apart {own : α} (stored' : own ∈ rows) (isMine : mine own) : key row ≠ key own :=
    fun same => other (eq_of_key unique stored stored' same ▸ isMine)
  obtain ⟨holds, before, after, parts, first⟩ := find?_eq_some_iff_append.mp found
  cases change with
  | kept same => exact same ▸ found
  | added new _ _ more => rw [more, find?_append, found, Option.some_or]
  | changed own stored' isMine new is keyed same =>
    have away := apart stored' isMine
    let change : α → α := fun r => if key r = key own then new else r
    have still : change row = row := if_neg away
    have moved : rows' = rows.map change := by simp [is, modify, updateWhere, change]
    have seen : rows.find? (p ∘ change) = some row := by
      refine find?_eq_some_iff_append.mpr
        ⟨by simpa [still] using holds, before, after, parts, fun x listed => ?_⟩
      by_cases here : key x = key own
      · have there : x ∈ rows := parts ▸ mem_append_left _ listed
        obtain rfl := eq_of_key unique there stored' here
        have unseen := first x listed
        have hidden : p new ≠ true := fun shown =>
          (sees new x same shown).elim (fun shown => by simp [shown] at unseen) (away ·.symm)
        simpa [change] using hidden
      · simpa [change, here] using first x listed
    rw [moved, find?_map, seen, Option.map_some, still]
  | removed own stored' isMine is =>
    have away := apart stored' isMine
    rw [is, parts, filter_append, filter_cons_of_pos (by simpa using away)]
    refine find?_eq_some_iff_append.mpr ⟨holds, _, _, rfl, fun x listed => ?_⟩
    exact first x (mem_filter.mp listed).1

theorem find?_modify (key : α → κ) {p : α → Bool} {new : α} (found : rows.find? p = some row)
    (holds : p new = true) : (modify key (key row) (fun _ => new) rows).find? p = some new := by
  induction rows with
  | nil => cases found
  | cons x rows ih =>
    rw [modify, updateWhere, map_cons]
    by_cases here : key x = key row
    · rw [if_pos (decide_eq_true here), find?_cons_of_pos holds]
    · rw [if_neg (by simpa using here)]
      by_cases shown : p x = true
      · rw [find?_cons_of_pos shown] at found
        exact absurd (congrArg key (Option.some.inj found)) here
      · rw [find?_cons_of_neg shown] at found ⊢
        exact ih found

theorem not_mem_modify {row new : α} (other : new ≠ row) :
    row ∉ modify key (key row) (fun _ => new) rows := by
  intro still
  obtain ⟨old, -, is⟩ := mem_modify.mp still
  split at is
  · exact other is
  · next away => exact away (congrArg key is)

end Exetron.Lib.Rows
