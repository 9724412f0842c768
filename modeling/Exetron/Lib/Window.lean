import Mathlib.Data.List.Nodup

/-!
# Windows

A window holds the ids that were accepted last, the latest first. An id is accepted only while the
window does not hold it; one that has left the window may be accepted again.
-/

namespace Exetron.Lib.Window

open List

variable {α : Type} {size : Nat} {a : α} {accepted held : List α}

def push (size : Nat) (a : α) (held : List α) : List α := (a :: held).take size

/-- What the window holds is what was accepted last, and nothing twice. -/
structure Shows (size : Nat) (accepted held : List α) : Prop where
  latest : held = accepted.take size
  distinct : held.Nodup

theorem shows_nil : Shows size ([] : List α) [] := ⟨take_nil.symm, nodup_nil⟩

theorem push_take : push size a (accepted.take size) = (a :: accepted).take size := by
  cases size with
  | zero => rfl
  | succ n =>
    rw [push, take_succ_cons, take_succ_cons, take_take, Nat.min_eq_left (Nat.le_succ n)]

theorem Shows.push (shows : Shows size accepted held) (new : a ∉ held) :
    Shows size (a :: accepted) (push size a held) where
  latest := by rw [shows.latest, push_take]
  distinct := (nodup_cons.mpr ⟨new, shows.distinct⟩).sublist (take_sublist ..)

variable [DecidableEq α]

theorem nodup_eraseDups (ids : List α) : ids.eraseDups.Nodup := by
  match ids with
  | [] => exact nodup_nil
  | a :: ids =>
    have shorter := length_filter_le (fun b => !b == a) ids
    rw [eraseDups_cons, nodup_cons]
    exact ⟨by simp, nodup_eraseDups _⟩
termination_by ids.length
decreasing_by exact Nat.lt_succ_of_le shorter

theorem eraseDups_of_nodup {ids : List α} (distinct : ids.Nodup) : ids.eraseDups = ids := by
  induction ids with
  | nil => rfl
  | cons a ids ih =>
    obtain ⟨new, distinct⟩ := nodup_cons.mp distinct
    have kept : ids.filter (fun b => !b == a) = ids := by
      refine filter_eq_self.mpr fun b listed => ?_
      simpa using fun same : b = a => new (same ▸ listed)
    rw [eraseDups_cons, kept, ih distinct]

theorem Shows.eq_distinct (shows : Shows size accepted held) :
    held = accepted.eraseDups.take size := by
  have parted : accepted.eraseDups = held ++ ((accepted.drop size).removeAll held).eraseDups := by
    conv_lhs => rw [← take_append_drop size accepted, ← shows.latest]
    rw [eraseDups_append, eraseDups_of_nodup shows.distinct]
  rw [parted]
  rcases Nat.lt_or_ge accepted.length size with short | long
  · have whole := Nat.le_of_lt short
    rw [drop_eq_nil_of_le whole, shows.latest, take_of_length_le whole, removeAll,
      filter_nil, eraseDups_nil, append_nil, take_of_length_le whole]
  · have full : held.length = size := by rw [shows.latest, length_take_of_le long]
    rw [← full, take_left]

end Exetron.Lib.Window
