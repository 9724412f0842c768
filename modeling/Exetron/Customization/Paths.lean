import Exetron.Customization.Runtime

/-!
# Paths of nested records

The value at a path, and what a deep merge leaves of it: a path that the patch does not touch keeps
its value.
-/

namespace Exetron.Customization

open Lib

def valueBelow : Json → List String → Option Json
  | value, [] => some value
  | .obj fields, key :: rest => (Record.get fields key).bind fun value => valueBelow value rest
  | _, _ :: _ => none

def valueAt (fields : Fields) (key : String) (rest : List String) : Option Json :=
  (Record.get fields key).bind fun value => valueBelow value rest

def TouchesBelow : Json → List String → Prop
  | _, [] => True
  | .obj patch, key :: rest => ∃ field ∈ patch, field.1 = key ∧ TouchesBelow field.2 rest
  | _, _ :: _ => True

def Touches (patch : Fields) (key : String) (rest : List String) : Prop :=
  ∃ field ∈ patch, field.1 = key ∧ TouchesBelow field.2 rest

variable {key : String} {rest : List String} {value : Json} {base patch : Fields}

theorem isObject_of_valueBelow {current : Json} {path : List String}
    (below : valueBelow current (key :: path) = some value) : ∃ fields, current = .obj fields := by
  cases current with
  | obj fields => exact ⟨fields, rfl⟩
  | _ => cases below

theorem isObject_of_not_touches {patch : Json} {path : List String}
    (clear : ¬TouchesBelow patch (key :: path)) : ∃ fields, patch = .obj fields := by
  cases patch with
  | obj fields => exact ⟨fields, rfl⟩
  | _ => exact absurd trivial clear

theorem valueAt_merge_of
    (keeps : ∀ current field, valueBelow current rest = some value → ¬TouchesBelow field rest →
      valueBelow (mergeField (some current) field) rest = some value)
    (stands : valueAt base key rest = some value) (clear : ¬Touches patch key rest) :
    valueAt (deepMergeRecord base patch) key rest = some value := by
  induction patch generalizing base with
  | nil => rwa [deepMergeRecord]
  | cons field patch ih =>
    obtain ⟨assigned, given⟩ := field
    have later : ¬Touches patch key rest := fun ⟨field, listed, touched⟩ =>
      clear ⟨field, List.mem_cons_of_mem _ listed, touched⟩
    rw [deepMergeRecord]
    refine ih ?_ later
    rw [valueAt, Record.get_set]
    by_cases here : assigned = key
    · obtain ⟨current, read, below⟩ := Option.bind_eq_some_iff.mp stands
      rw [if_pos here, here, read]
      exact keeps current given below fun touched =>
        clear ⟨(assigned, given), List.mem_cons_self, here, touched⟩
    · rw [if_neg here]
      exact stands

theorem valueBelow_mergeField {path : List String} {current patch : Json}
    (stands : valueBelow current path = some value) (clear : ¬TouchesBelow patch path) :
    valueBelow (mergeField (some current) patch) path = some value := by
  induction path generalizing current patch with
  | nil => exact absurd trivial clear
  | cons key path ih =>
    obtain ⟨fields, rfl⟩ := isObject_of_valueBelow stands
    obtain ⟨given, rfl⟩ := isObject_of_not_touches clear
    exact valueAt_merge_of (fun current field => ih) stands clear

theorem valueAt_merge (stands : valueAt base key rest = some value)
    (clear : ¬Touches patch key rest) :
    valueAt (deepMergeRecord base patch) key rest = some value :=
  valueAt_merge_of (fun _ _ => valueBelow_mergeField) stands clear

theorem nodup_keys_merge (distinct : (base.map Prod.fst).Nodup) :
    ((deepMergeRecord base patch).map Prod.fst).Nodup := by
  induction patch generalizing base with
  | nil => rwa [deepMergeRecord]
  | cons field patch ih =>
    rw [deepMergeRecord]
    exact ih (Record.nodup_keys_set distinct _ _)

theorem merge_new (distinct : ((base ++ patch).map Prod.fst).Nodup) :
    deepMergeRecord base patch = base ++ patch := by
  induction patch generalizing base with
  | nil => rw [deepMergeRecord, List.append_nil]
  | cons field patch ih =>
    obtain ⟨key, value⟩ := field
    have new : key ∉ base.map Prod.fst := by
      rw [List.map_append, List.map_cons] at distinct
      exact fun old => (List.nodup_append'.mp distinct).2.2 old List.mem_cons_self
    have kept : mergeField (Record.get base key) value = value := by
      rw [Record.get_eq_none_iff.mpr new]
      cases value <;> rfl
    rw [deepMergeRecord, kept, Record.set_new new, ih (by rwa [List.append_assoc]),
      List.append_assoc, List.singleton_append]

theorem merge_empty (distinct : (patch.map Prod.fst).Nodup) : deepMergeRecord [] patch = patch :=
  merge_new distinct

end Exetron.Customization
