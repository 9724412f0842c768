import Mathlib.Data.List.Basic
import Mathlib.Data.List.Nodup
import Mathlib.Data.List.Sort

/-!
# Records

A record is a list of fields. A key is read where it stands first; an assignment rewrites the field
of its key or adds it at the end, and `spread` assigns the fields of one record to another.
-/

namespace Exetron.Lib

open List

abbrev Record (κ α : Type) := List (κ × α)

namespace Record

variable {κ α : Type} [DecidableEq κ]

def get (r : Record κ α) (k : κ) : Option α := (r.find? fun field => field.1 = k).map (·.2)

def set : Record κ α → κ → α → Record κ α
  | [], k, v => [(k, v)]
  | field :: r, k, v => if field.1 = k then (k, v) :: r else field :: set r k v

/-- `{ ...r, ...patch }`. -/
def spread (r patch : Record κ α) : Record κ α :=
  patch.foldl (fun r field => set r field.1 field.2) r

/-- `delete r[k]`. -/
def erase (r : Record κ α) (k : κ) : Record κ α := r.filter fun field => field.1 ≠ k

@[simp] theorem get_nil (k : κ) : get ([] : Record κ α) k = none := rfl

theorem get_cons (field : κ × α) (r : Record κ α) (k : κ) :
    get (field :: r) k = if field.1 = k then some field.2 else get r k := by
  rw [get, find?_cons]
  by_cases here : field.1 = k
  · simp [here]
  · simp [here, get]

theorem get_set (r : Record κ α) (k k' : κ) (v : α) :
    get (set r k v) k' = if k = k' then some v else get r k' := by
  induction r with
  | nil => rw [set, get_cons]
  | cons field r ih =>
    rw [set]
    by_cases here : field.1 = k
    · rw [if_pos here, get_cons, get_cons, here]
      by_cases asked : k = k' <;> simp [asked]
    · rw [if_neg here, get_cons, get_cons, ih]
      by_cases asked : field.1 = k'
      · have other : k ≠ k' := fun same => here (asked.trans same.symm)
        simp [asked, other]
      · simp [asked]

@[simp] theorem spread_nil (r : Record κ α) : spread r [] = r := rfl

theorem spread_cons (r : Record κ α) (field : κ × α) (patch : Record κ α) :
    spread r (field :: patch) = spread (set r field.1 field.2) patch := rfl

theorem spread_append (r patch patch' : Record κ α) :
    spread r (patch ++ patch') = spread (spread r patch) patch' := foldl_append

theorem get_spread {patch : Record κ α} (distinct : (patch.map Prod.fst).Nodup) (r : Record κ α)
    (k : κ) : get (spread r patch) k = (get patch k).or (get r k) := by
  induction patch generalizing r with
  | nil => rfl
  | cons field patch ih =>
    obtain ⟨new, distinct⟩ := nodup_cons.mp distinct
    rw [spread_cons, ih distinct, get_set, get_cons]
    by_cases here : field.1 = k
    · have absent : get patch k = none := by
        rw [get, Option.map_eq_none_iff, find?_eq_none]
        rintro later listed
        have other : later.1 ≠ field.1 := fun same => new (same ▸ mem_map_of_mem listed)
        simpa [← here] using other
      simp [here, absent]
    · simp [here]

theorem get_erase (r : Record κ α) (k k' : κ) :
    get (erase r k) k' = if k = k' then none else get r k' := by
  induction r with
  | nil => simp [erase]
  | cons field r ih =>
    rw [erase, filter_cons]
    by_cases here : field.1 = k
    · rw [if_neg (by simpa using here), ← erase, ih, get_cons]
      by_cases asked : k = k' <;> simp [here, asked]
    · rw [if_pos (by simpa using here), get_cons, ← erase, ih, get_cons]
      by_cases asked : field.1 = k'
      · have other : k ≠ k' := fun same => here (asked.trans same.symm)
        simp [asked, other]
      · simp [asked]

theorem mem_set {r : Record κ α} {k : κ} {v : α} {field : κ × α} (h : field ∈ set r k v) :
    field ∈ r ∨ field = (k, v) := by
  induction r with
  | nil => exact .inr (mem_singleton.mp h)
  | cons first r ih =>
    rw [set] at h
    split at h
    · exact (mem_cons.mp h).elim .inr fun later => .inl (mem_cons_of_mem _ later)
    · rcases mem_cons.mp h with rfl | later
      · exact .inl mem_cons_self
      · exact (ih later).imp_left (mem_cons_of_mem _)

theorem mem_spread {r patch : Record κ α} {field : κ × α} (h : field ∈ spread r patch) :
    field ∈ r ∨ field ∈ patch := by
  induction patch generalizing r with
  | nil => exact .inl h
  | cons first patch ih =>
    rw [spread_cons] at h
    rcases ih h with stored | later
    · rcases mem_set stored with old | rfl
      · exact .inl old
      · exact .inr mem_cons_self
    · exact .inr (mem_cons_of_mem _ later)

theorem mem_iff_get {r : Record κ α} (distinct : (r.map Prod.fst).Nodup) {k : κ} {v : α} :
    (k, v) ∈ r ↔ get r k = some v := by
  induction r with
  | nil => simp
  | cons field r ih =>
    obtain ⟨new, distinct⟩ := nodup_cons.mp distinct
    rw [get_cons, mem_cons, ih distinct]
    by_cases here : field.1 = k
    · have absent : get r k ≠ some v := fun found => new
        (here ▸ mem_map_of_mem ((ih distinct).mpr found))
      rw [if_pos here, Option.some.injEq, or_iff_left absent, ← here]
      exact ⟨fun same => (congrArg Prod.snd same).symm, fun same => Prod.ext rfl same.symm⟩
    · have other : (k, v) ≠ field := fun same => here (congrArg Prod.fst same).symm
      rw [if_neg here, or_iff_right other]

theorem get_filter {r : Record κ α} (distinct : (r.map Prod.fst).Nodup) (p : κ × α → Bool)
    (k : κ) : get (r.filter p) k = (get r k).filter fun v => p (k, v) := by
  have distinct' : ((r.filter p).map Prod.fst).Nodup := (filter_sublist.map _).nodup distinct
  refine Option.ext fun v => ?_
  rw [← mem_iff_get distinct', Option.filter_eq_some_iff, ← mem_iff_get distinct, mem_filter]

theorem get_eq_none_iff {r : Record κ α} {k : κ} : get r k = none ↔ k ∉ r.map Prod.fst := by
  rw [get, Option.map_eq_none_iff, find?_eq_none, mem_map]
  grind

theorem keys_set (r : Record κ α) (k : κ) (v : α) : (set r k v).map Prod.fst =
    if k ∈ r.map Prod.fst then r.map Prod.fst else r.map Prod.fst ++ [k] := by
  induction r with
  | nil => rfl
  | cons field r ih =>
    rw [set]
    by_cases here : field.1 = k
    · simp [here]
    · rw [if_neg here, map_cons, ih, map_cons]
      by_cases stored : k ∈ r.map Prod.fst
      · rw [if_pos stored, if_pos (mem_cons_of_mem _ stored)]
      · have new : k ∉ field.1 :: r.map Prod.fst := fun listed =>
          (mem_cons.mp listed).elim (fun same => here same.symm) stored
        rw [if_neg stored, if_neg new, cons_append]

theorem set_new {r : Record κ α} {k : κ} (new : k ∉ r.map Prod.fst) (v : α) :
    set r k v = r ++ [(k, v)] := by
  induction r with
  | nil => rfl
  | cons field r ih =>
    rw [map_cons, mem_cons, not_or] at new
    rw [set, if_neg (fun same => new.1 same.symm), ih new.2, cons_append]

theorem nodup_keys_spread {r : Record κ α} (distinct : (r.map Prod.fst).Nodup)
    (patch : Record κ α) : ((spread r patch).map Prod.fst).Nodup := by
  induction patch generalizing r with
  | nil => exact distinct
  | cons field patch ih =>
    rw [spread_cons]
    refine ih ?_
    rw [keys_set]
    split
    · exact distinct
    · rename_i new
      exact nodup_append.mpr ⟨distinct, nodup_singleton _, fun k stored k' listed same =>
        new (by rw [← mem_singleton.mp listed, ← same]; exact stored)⟩

theorem keys_spread_congr {β : Type} {r patch : Record κ α} {r' patch' : Record κ β}
    (same : r.map Prod.fst = r'.map Prod.fst) (patched : patch.map Prod.fst = patch'.map Prod.fst) :
    (spread r patch).map Prod.fst = (spread r' patch').map Prod.fst := by
  induction patch generalizing r r' patch' with
  | nil =>
    obtain rfl := map_eq_nil_iff.mp patched.symm
    exact same
  | cons field patch ih =>
    obtain ⟨field', patch', rfl, first, rest⟩ := map_eq_cons_iff.mp patched.symm
    rw [spread_cons, spread_cons]
    exact ih (by rw [keys_set, keys_set, same, first]) rest.symm

theorem nodup_keys_set {r : Record κ α} (distinct : (r.map Prod.fst).Nodup) (k : κ) (v : α) :
    ((set r k v).map Prod.fst).Nodup :=
  nodup_keys_spread distinct [(k, v)]

theorem spread_new {r patch : Record κ α} (distinct : ((r ++ patch).map Prod.fst).Nodup) :
    spread r patch = r ++ patch := by
  induction patch generalizing r with
  | nil => rw [spread_nil, append_nil]
  | cons field patch ih =>
    have new : field.1 ∉ r.map Prod.fst := by
      rw [map_append, map_cons] at distinct
      exact fun stored =>
        (nodup_append.mp distinct).2.2 _ stored _ mem_cons_self rfl
    rw [spread_cons, set_new new, ih (by rwa [append_assoc]), append_assoc]
    rfl

theorem spread_empty {patch : Record κ α} (distinct : (patch.map Prod.fst).Nodup) :
    spread [] patch = patch :=
  spread_new distinct

theorem get_spread_of_forall {g : κ → Option α} {patch : Record κ α}
    (values : ∀ field ∈ patch, g field.1 = some field.2) (r : Record κ α) (k : κ) :
    get (spread r patch) k = if k ∈ patch.map Prod.fst then g k else get r k := by
  induction patch generalizing r with
  | nil => simp
  | cons field patch ih =>
    rw [spread_cons, ih fun later listed => values later (mem_cons_of_mem _ listed), get_set,
      map_cons]
    by_cases later : k ∈ patch.map Prod.fst
    · rw [if_pos later, if_pos (mem_cons_of_mem _ later)]
    · rw [if_neg later]
      by_cases here : field.1 = k
      · rw [if_pos here, if_pos (here ▸ mem_cons_self), ← here, values field mem_cons_self]
      · have absent : k ∉ field.1 :: patch.map Prod.fst := fun listed =>
          (mem_cons.mp listed).elim (fun same => here same.symm) later
        rw [if_neg here, if_neg absent]

/-- The record of what `f` makes of each value. -/
def mapValues {β : Type} (f : α → β) (r : Record κ α) : Record κ β :=
  r.map fun field => (field.1, f field.2)

omit [DecidableEq κ] in
@[simp] theorem keys_mapValues {β : Type} (f : α → β) (r : Record κ α) :
    (mapValues f r).map Prod.fst = r.map Prod.fst := by
  rw [mapValues, map_map]
  rfl

theorem get_mapValues {β : Type} (f : α → β) (r : Record κ α) (k : κ) :
    get (mapValues f r) k = (get r k).map f := by
  induction r with
  | nil => rfl
  | cons field r ih =>
    rw [mapValues] at ih
    rw [mapValues, map_cons, get_cons, get_cons, ih]
    split <;> rfl

theorem mapValues_set {β : Type} (f : α → β) (r : Record κ α) (k : κ) (v : α) :
    mapValues f (set r k v) = set (mapValues f r) k (f v) := by
  induction r with
  | nil => rfl
  | cons field r ih =>
    rw [mapValues] at ih
    rw [mapValues, mapValues, set, map_cons, set]
    split
    · rfl
    · rw [map_cons, ih]
      rfl

theorem map_set_kept {β : Type} {f : α → β} {r : Record κ α} {k : κ} {v old : α}
    (found : get r k = some old) (same : f v = f old) :
    (set r k v).map (fun field => (field.1, f field.2)) =
      r.map fun field => (field.1, f field.2) := by
  induction r with
  | nil => cases found
  | cons field r ih =>
    rw [get_cons] at found
    rw [set]
    by_cases here : field.1 = k
    · rw [if_pos here] at found ⊢
      rw [map_cons, map_cons, same, ← Option.some.inj found, here]
    · rw [if_neg here] at found ⊢
      rw [map_cons, map_cons, ih found]

theorem filter_set {p : κ → Bool} {k : κ} (hidden : p k = false) (r : Record κ α) (v : α) :
    (set r k v).filter (fun field => p field.1) = r.filter fun field => p field.1 := by
  induction r with
  | nil => simp [set, hidden]
  | cons field r ih =>
    rw [set]
    by_cases here : field.1 = k
    · simp [here, hidden]
    · rw [if_neg here, filter_cons, filter_cons, ih]

omit [DecidableEq κ] in
theorem eq_of_sorted [LinearOrder κ] {r r' : Record κ α}
    (sorted : r.Pairwise fun field later => field.1 ≤ later.1)
    (sorted' : r'.Pairwise fun field later => field.1 ≤ later.1)
    (distinct : (r.map Prod.fst).Nodup) (distinct' : (r'.map Prod.fst).Nodup)
    (same : ∀ field, field ∈ r ↔ field ∈ r') : r = r' := by
  have perm : r.Perm r' :=
    (perm_ext_iff_of_nodup distinct.of_map distinct'.of_map).mpr same
  refine perm.eq_of_pairwise (fun a b first last before after => ?_) sorted sorted'
  exact inj_on_of_nodup_map distinct first ((same b).mpr last) (le_antisymm before after)

omit [DecidableEq κ] in
theorem pairwise_sorted [LinearOrder κ] (r : Record κ α) :
    (r.insertionSort fun field later => field.1 ≤ later.1).Pairwise
      fun field later => field.1 ≤ later.1 := by
  have : Std.Total fun field later : κ × α => field.1 ≤ later.1 :=
    ⟨fun field later => le_total field.1 later.1⟩
  have : IsTrans (κ × α) fun field later => field.1 ≤ later.1 :=
    ⟨fun _ _ _ first last => le_trans first last⟩
  exact pairwise_insertionSort _ r

abbrev Unique (κ α : Type) := { r : Record κ α // (r.map Prod.fst).Nodup }

namespace Unique

def set (r : Unique κ α) (k : κ) (v : α) : Unique κ α :=
  ⟨Record.set r.val k v, nodup_keys_set r.property k v⟩

/-- The record without the fields that meet `p`. -/
def deleteMany (r : Unique κ α) (p : κ × α → Bool) : Unique κ α :=
  ⟨r.val.filter fun field => !p field,
    (List.filter_sublist.map _).nodup r.property⟩

end Unique

end Record

end Exetron.Lib
