import Exetron.Lib.Table

/-!
# Two runs of transactions

`Related P x y Q`: from stores related by `P` the bodies `x` and `y` fail alike or both succeed,
with answers and stores related by `Q`. `Keeps R x`: the body `x` always succeeds and leaves a
store that `R` does not tell from the one it found.
-/

namespace Exetron.Lib

variable {σ ε α β γ δ κ : Type}

namespace Tx

def Keeps (R : σ → σ → Prop) (x : Tx σ ε α) : Prop := ∀ s, ∃ a s', x s = .ok (a, s') ∧ R s s'

section
variable {R : σ → σ → Prop} (equiv : Equivalence R)
include equiv

theorem keeps_pure (a : α) : Keeps R (pure a : Tx σ ε α) := fun s => ⟨a, s, rfl, equiv.refl s⟩

theorem keeps_bind {x : Tx σ ε α} {f : α → Tx σ ε β} (first : Keeps R x) (rest : ∀ a, Keeps R (f a)) :
    Keeps R (x >>= f) := by
  intro s
  obtain ⟨a, u, hx, su⟩ := first s
  obtain ⟨b, t, hf, ut⟩ := rest a u
  exact ⟨b, t, (bind_of_ok hx f).trans hf, equiv.trans su ut⟩

end

theorem keeps_write {R : σ → σ → Prop} {f : σ → σ} (keeps : ∀ s, R s (f s)) :
    Keeps R (write f : Tx σ ε Unit) := fun s => ⟨(), f s, rfl, keeps s⟩

def Related (P : σ → σ → Prop) (x : Tx σ ε α) (y : Tx σ ε β) (Q : α → β → σ → σ → Prop) : Prop :=
  ∀ s t, P s t → (∃ e, x s = .error e ∧ y t = .error e) ∨
    ∃ a b s' t', x s = .ok (a, s') ∧ y t = .ok (b, t') ∧ Q a b s' t'

theorem related_pure {P : σ → σ → Prop} {Q : α → β → σ → σ → Prop} {a : α} {b : β}
    (h : ∀ s t, P s t → Q a b s t) : Related P (pure a : Tx σ ε α) (pure b) Q := fun s t hP =>
  Or.inr ⟨a, b, s, t, rfl, rfl, h s t hP⟩

theorem related_bind {P : σ → σ → Prop} {Q : α → β → σ → σ → Prop} {W : γ → δ → σ → σ → Prop}
    {x : Tx σ ε α} {y : Tx σ ε β} {f : α → Tx σ ε γ} {g : β → Tx σ ε δ} (first : Related P x y Q)
    (rest : ∀ a b, Related (Q a b) (f a) (g b) W) : Related P (x >>= f) (y >>= g) W := by
  intro s t hP
  rcases first s t hP with ⟨e, hx, hy⟩ | ⟨a, b, s', t', hx, hy, hQ⟩
  · exact Or.inl ⟨e, bind_of_error hx f, bind_of_error hy g⟩
  · rw [bind_of_ok hx, bind_of_ok hy]
    exact rest a b s' t' hQ

theorem related_bind_eq {P Q : σ → σ → Prop} {W : γ → δ → σ → σ → Prop} {x y : Tx σ ε α}
    {f : α → Tx σ ε γ} {g : α → Tx σ ε δ} (first : Related P x y fun a b s t => a = b ∧ Q s t)
    (rest : ∀ a, Related Q (f a) (g a) W) : Related P (x >>= f) (y >>= g) W := by
  refine related_bind first fun a b s t h => ?_
  obtain ⟨rfl, hQ⟩ := h
  exact rest a s t hQ

theorem related_read {P : σ → σ → Prop} {f g : σ → Except ε α} (same : ∀ s t, P s t → f s = g t) :
    Related P (read f) (read g) fun a b s t => a = b ∧ P s t := by
  intro s t hP
  simp only [read, ← same s t hP]
  cases f s with
  | error e => exact Or.inl ⟨e, rfl, rfl⟩
  | ok a => exact Or.inr ⟨a, a, s, t, rfl, rfl, rfl, hP⟩

theorem related_forM {P : σ → σ → Prop} {f g : α → Tx σ ε PUnit}
    (body : ∀ a, Related P (f a) (g a) fun _ _ s t => P s t) (xs : List α) :
    Related P (xs.forM f) (xs.forM g) fun _ _ s t => P s t := by
  induction xs with
  | nil => exact related_pure fun _ _ h => h
  | cons x xs ih => exact related_bind (body x) fun _ _ => ih

theorem related_of_keeps {R : σ → σ → Prop} (equiv : Equivalence R) {x : Tx σ ε α} {y : Tx σ ε β}
    (hx : Keeps R x) (hy : Keeps R y) : Related R x y fun _ _ s t => R s t := by
  intro s t hR
  obtain ⟨a, s', ha, left⟩ := hx s
  obtain ⟨b, t', hb, right⟩ := hy t
  exact Or.inr ⟨a, b, s', t', ha, hb, equiv.trans (equiv.symm left) (equiv.trans hR right)⟩

end Tx

theorem Table.related_update [DecidableEq κ] {t : Table σ ε α κ} {P : σ → σ → Prop}
    (rows : ∀ s s', P s s' → t.rows s = t.rows s')
    (puts : ∀ s s' rs, P s s' → P (t.put rs s) (t.put rs s')) (k : κ) (f : α → α) :
    Tx.Related P (t.update k f) (t.update k f) fun a b s s' => a = b ∧ P s s' := by
  refine Tx.related_bind_eq (Q := P) (Tx.related_read fun s s' hP => ?_) fun r s s' hP => ?_
  · rw [findUniqueOrThrow, findUniqueOrThrow, findUnique, findUnique, rows s s' hP]
  · refine Or.inr ⟨f r, f r, _, _, rfl, rfl, rfl, ?_⟩
    show P (t.put (Rows.modify t.key k f (t.rows s)) s) (t.put (Rows.modify t.key k f (t.rows s')) s')
    rw [rows s s' hP]
    exact puts s s' _ hP

end Exetron.Lib
