import Exetron.Lib.Record
import Mathlib.Algebra.BigOperators.Group.List.Basic
import Mathlib.Data.List.Nodup

/-!
# Grouping

Values are collected under keys, in a map that keeps the order in which its keys came. Nothing is
lost or doubled on the way, and every key has one group.
-/

namespace Exetron.Lib.Grouping

open List

variable {κ α : Type} [DecidableEq κ]

/-- `groups.set(k, [...(groups.get(k) ?? []), a])`. -/
def add (k : κ) (a : α) : List (κ × List α) → List (κ × List α)
  | [] => [(k, [a])]
  | (key, values) :: rest =>
    if key = k then (key, values ++ [a]) :: rest else (key, values) :: add k a rest

def collect (pairs : List (κ × α)) : List (κ × List α) :=
  pairs.foldl (fun groups pair => add pair.1 pair.2 groups) []

def ungroup {κ α : Type} (groups : List (κ × List α)) : List (κ × α) :=
  groups.flatMap fun group => group.2.map fun a => (group.1, a)

theorem mem_ungroup {κ α : Type} {groups : List (κ × List α)} {k : κ} {a : α} :
    (k, a) ∈ ungroup groups ↔ ∃ group ∈ groups, group.1 = k ∧ a ∈ group.2 := by
  rw [ungroup, mem_flatMap]
  refine exists_congr fun group => and_congr_right fun _ => ?_
  rw [mem_map]
  constructor
  · rintro ⟨b, stands, same⟩
    obtain ⟨rfl, rfl⟩ := Prod.mk.inj same
    exact ⟨rfl, stands⟩
  · rintro ⟨rfl, stands⟩
    exact ⟨a, stands, rfl⟩

theorem map_snd_ungroup {κ α : Type} (groups : List (κ × List α)) :
    (ungroup groups).map Prod.snd = groups.flatMap Prod.snd := by
  rw [ungroup, map_flatMap]
  refine congrArg (groups.flatMap ·) (funext fun group => ?_)
  rw [map_map]
  exact map_id'' (fun _ => rfl) _

theorem ungroup_add (k : κ) (a : α) (groups : List (κ × List α)) :
    (ungroup (add k a groups)).Perm ((k, a) :: ungroup groups) := by
  induction groups with
  | nil => exact .refl _
  | cons group rest ih =>
    obtain ⟨key, values⟩ := group
    unfold add
    split
    · rename_i here
      subst here
      simp only [ungroup, flatMap_cons, map_append, append_assoc, map_singleton]
      exact perm_middle
    · simp only [ungroup, flatMap_cons] at ih ⊢
      exact (List.Perm.append_left _ ih).trans perm_middle

theorem keys_add (k : κ) (a : α) (groups : List (κ × List α)) : (add k a groups).map Prod.fst =
      if k ∈ groups.map Prod.fst then groups.map Prod.fst else groups.map Prod.fst ++ [k] := by
  induction groups with
  | nil => rfl
  | cons group rest ih =>
    obtain ⟨key, values⟩ := group
    unfold add
    split
    · rename_i here
      simp [here]
    · rename_i other
      rw [map_cons, ih]
      by_cases later : k ∈ rest.map Prod.fst
      · simp [later]
      · simp [later, Ne.symm other]

theorem nodup_add {k : κ} {a : α} {groups : List (κ × List α)}
    (distinct : (groups.map Prod.fst).Nodup) : ((add k a groups).map Prod.fst).Nodup := by
  rw [keys_add]
  split
  · exact distinct
  · rename_i new
    exact nodup_append'.mpr ⟨distinct, nodup_singleton k,
      fun key old here => new (mem_singleton.mp here ▸ old)⟩

theorem ungroup_collect (pairs : List (κ × α)) : (ungroup (collect pairs)).Perm pairs := by
  have from_any (groups : List (κ × List α)) :
      (ungroup (pairs.foldl (fun groups pair => add pair.1 pair.2 groups) groups)).Perm
        (ungroup groups ++ pairs) := by
    induction pairs generalizing groups with
    | nil => simp
    | cons pair pairs ih =>
      refine (ih (add pair.1 pair.2 groups)).trans ?_
      exact ((ungroup_add ..).append_right pairs).trans perm_middle.symm
  exact from_any []

theorem key_of_collect {pairs : List (κ × α)} :
    ∀ group ∈ collect pairs, ∃ pair ∈ pairs, pair.1 = group.1 := by
  refine foldlRecOn (motive := fun groups : List (κ × List α) =>
    ∀ group ∈ groups, ∃ pair ∈ pairs, pair.1 = group.1) pairs _ ?_ ?_
  · exact fun _ listed => absurd listed not_mem_nil
  · intro groups known pair listed group stands
    have key : group.1 ∈ (add pair.1 pair.2 groups).map Prod.fst := mem_map_of_mem stands
    have old (there : group.1 ∈ groups.map Prod.fst) : ∃ pair ∈ pairs, pair.1 = group.1 := by
      obtain ⟨group', earlier, same⟩ := mem_map.mp there
      exact same ▸ known group' earlier
    rw [keys_add] at key
    split at key
    · exact old key
    · rcases mem_append.mp key with there | new
      · exact old there
      · exact ⟨pair, listed, (mem_singleton.mp new).symm⟩

theorem nodup_collect (pairs : List (κ × α)) : ((collect pairs).map Prod.fst).Nodup :=
  foldlRecOn (motive := fun groups : List (κ × List α) => (groups.map Prod.fst).Nodup) pairs _
    nodup_nil fun _ distinct _ _ => nodup_add distinct

section
variable {μ : Type} (key : α → κ) (count : Option μ → α → μ)

/-- `for (const a of xs) map.set(key(a), count(map.get(key(a)), a))`. -/
def accumulate (r : Record κ μ) (xs : List α) : Record κ μ :=
  xs.foldl (fun r a => Record.set r (key a) (count (Record.get r (key a)) a)) r

variable {key count} {xs ys : List α} {k : κ}

theorem get_accumulate (r : Record κ μ) (xs : List α) (k : κ) :
    Record.get (accumulate key count r xs) k =
      (xs.filter fun a => key a = k).foldl (fun m a => some (count m a)) (Record.get r k) := by
  induction xs generalizing r with
  | nil => rfl
  | cons a xs ih =>
    rw [accumulate, foldl_cons]
    refine (ih _).trans ?_
    rw [Record.get_set]
    by_cases here : key a = k
    · rw [if_pos here, here, filter_cons_of_pos (by simpa using here), foldl_cons]
    · rw [if_neg here, filter_cons_of_neg (by simpa using here)]

theorem nodup_accumulate (xs : List α) : ((accumulate key count [] xs).map Prod.fst).Nodup :=
  foldlRecOn (motive := fun r : Record κ μ => (r.map Prod.fst).Nodup) xs _ nodup_nil
    fun _ distinct _ _ => Record.nodup_keys_set distinct _ _

theorem mem_accumulate_iff {v : μ} : (k, v) ∈ accumulate key count [] xs ↔
    (xs.filter fun a => key a = k).foldl (fun m a => some (count m a)) none = some v := by
  rw [Record.mem_iff_get (nodup_accumulate xs), get_accumulate, Record.get_nil]

theorem key_accumulate_iff :
    k ∈ (accumulate key count [] xs).map Prod.fst ↔ ∃ a ∈ xs, key a = k := by
  rw [← not_iff_not, ← Record.get_eq_none_iff, get_accumulate, Record.get_nil]
  have started (as : List α) (m : μ) : as.foldl (fun m a => some (count m a)) (some m) ≠ none := by
    induction as generalizing m with
    | nil => exact Option.some_ne_none m
    | cons a as ih => exact ih _
  constructor
  · rintro none ⟨a, listed, here⟩
    cases these : xs.filter fun a => key a = k with
    | nil => exact absurd here (by simpa using filter_eq_nil_iff.mp these a listed)
    | cons b as =>
      rw [these, foldl_cons] at none
      exact started _ _ none
  · intro absent
    have nothing : (xs.filter fun a => key a = k) = [] :=
      filter_eq_nil_iff.mpr fun a listed => by simpa using fun here => absent ⟨a, listed, here⟩
    rw [nothing]
    rfl

theorem perm_keys (perm : xs.Perm ys) : ((accumulate key count [] xs).map Prod.fst).Perm
      ((accumulate key count [] ys).map Prod.fst) := by
  refine (perm_ext_iff_of_nodup (nodup_accumulate xs) (nodup_accumulate ys)).mpr fun k => ?_
  rw [key_accumulate_iff, key_accumulate_iff]
  exact exists_congr fun a => and_congr_left fun _ => perm.mem_iff

theorem map_accumulate {β : Type} {f : κ × μ → β} {figure : κ → β}
    (is : ∀ k v, (xs.filter fun a => key a = k).foldl (fun m a => some (count m a)) none = some v →
      f (k, v) = figure k) :
    (accumulate key count [] xs).map f =
      ((accumulate key count [] xs).map Prod.fst).map figure := by
  rw [map_map]
  exact map_congr_left fun field listed => is _ _ (mem_accumulate_iff.mp listed)

end

theorem sum_by_key {M : Type} [AddCommMonoid M] {key : α → κ} {keys : List κ} {xs : List α}
    (distinct : keys.Nodup) (known : ∀ a ∈ xs, key a ∈ keys) (f : α → M) :
    (keys.map fun k => ((xs.filter fun a => key a = k).map f).sum).sum = (xs.map f).sum := by
  induction xs with
  | nil => simp
  | cons a xs ih =>
    have split (k : κ) : (((a :: xs).filter fun b => key b = k).map f).sum =
        (if key a = k then f a else 0) + ((xs.filter fun b => key b = k).map f).sum := by
      by_cases here : key a = k <;> simp [here]
    have once : (keys.map fun k => if key a = k then f a else 0).sum = f a := by
      rw [sum_map_eq_nsmul_single (key a) _ fun k other _ => if_neg (Ne.symm other),
        count_eq_one_of_mem distinct (known a mem_cons_self), one_nsmul, if_pos rfl]
    rw [map_congr_left fun k _ => split k, sum_map_add, once,
      ih fun b listed => known b (mem_cons_of_mem _ listed), map_cons, sum_cons]

end Exetron.Lib.Grouping
