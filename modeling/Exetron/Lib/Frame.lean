import Exetron.Lib.Table

/-!
# Frames

A transaction frames a part of the store when no success of it changes that part. One rule for each
way a transaction is put together, and one for each statement on a table.
-/

namespace Exetron.Lib

variable {σ ε α β γ κ : Type} {g : σ → γ}

namespace Tx

/-- No success of the transaction changes `g`. -/
def Frames (g : σ → γ) (x : Tx σ ε α) : Prop := ∀ s a t, x s = .ok (a, t) → g t = g s

theorem frames_pure (a : α) : Frames g (pure a : Tx σ ε α) := by
  intro s b t h
  rw [(pure_ok_iff.mp h).2]

theorem frames_read (f : σ → Except ε α) : Frames g (read f) := by
  intro s a t h
  rw [(read_ok_iff.mp h).2]

theorem frames_lift (x : Except ε α) : Frames g (lift x : Tx σ ε α) := by
  intro s a t h
  rw [(lift_ok_iff.mp h).2]

theorem frames_write {f : σ → σ} (same : ∀ s, g (f s) = g s) : Frames g (write f : Tx σ ε Unit) := by
  intro s u t h
  rw [write_ok_iff.mp h, same]

theorem frames_bind {x : Tx σ ε α} {f : α → Tx σ ε β} (first : Frames g x)
    (rest : ∀ a, Frames g (f a)) : Frames g (x >>= f) := by
  intro s b t h
  obtain ⟨a, m, hx, hf⟩ := bind_ok h
  rw [rest a m b t hf, first s a m hx]

theorem frames_ite {c : Prop} [Decidable c] {x y : Tx σ ε α} (yes : c → Frames g x)
    (no : ¬c → Frames g y) : Frames g (if c then x else y) := by
  split
  · exact yes ‹_›
  · exact no ‹_›

theorem frames_forM {f : α → Tx σ ε PUnit} {xs : List α} (body : ∀ x, Frames g (f x)) :
    Frames g (xs.forM f) := by
  intro s u t h
  refine forM_related (R := fun s t => g t = g s) (fun _ => rfl) (fun _ _ _ hst htu => htu.trans hst)
    (fun x _ s t u h => body x s u t h) h

end Tx

namespace Table

variable [DecidableEq κ] {t : Table σ ε α κ}

omit [DecidableEq κ] in
theorem frames_create (same : ∀ rs s, g (t.put rs s) = g s) (r : α) : Tx.Frames g (t.create r) :=
  Tx.frames_bind (Tx.frames_write fun _ => same _ _) fun _ => Tx.frames_pure _

theorem frames_update (same : ∀ rs s, g (t.put rs s) = g s) (k : κ) (f : α → α) :
    Tx.Frames g (t.update k f) :=
  Tx.frames_bind (Tx.frames_read _) fun _ =>
    Tx.frames_bind (Tx.frames_write fun _ => same _ _) fun _ => Tx.frames_pure _

omit [DecidableEq κ] in
theorem frames_updateMany (same : ∀ rs s, g (t.put rs s) = g s) (p : α → Bool) (f : α → α) :
    Tx.Frames g (t.updateMany p f) :=
  Tx.frames_bind (Tx.frames_read _) fun _ =>
    Tx.frames_bind (Tx.frames_write fun _ => same _ _) fun _ => Tx.frames_pure _

end Table

end Exetron.Lib
