import Mathlib.Tactic.Common

/-!
# Transactions over a store

`Tx σ ε` is the body of a transaction: it reads and rewrites the store `σ` and may fail with
`ε`. `Call σ ε` is a request made of committed transactions: `transact` runs a body, keeps its
writes when it succeeds and none of them when it fails, and a request that fails later keeps
what it has committed before.
-/

namespace Exetron.Lib

abbrev Tx (σ ε : Type) := StateT σ (Except ε)

/-- A request: a sequence of transactions, each committed on its own. -/
abbrev Call (σ ε : Type) := ExceptT ε (StateM σ)

variable {σ ε α β : Type}

namespace Tx

def read (f : σ → Except ε α) : Tx σ ε α := fun s => (f s).map (·, s)

def write (f : σ → σ) : Tx σ ε Unit := fun s => .ok ((), f s)

def lift (x : Except ε α) : Tx σ ε α := fun s => x.map (·, s)

theorem bind_ok {x : Tx σ ε α} {f : α → Tx σ ε β} {s t : σ} {b : β} (h : (x >>= f) s = .ok (b, t)) :
    ∃ a u, x s = .ok (a, u) ∧ f a u = .ok (b, t) := by
  simp only [bind, StateT.bind] at h
  cases hx : x s with
  | error e => rw [hx] at h; cases h
  | ok r => rw [hx] at h; exact ⟨r.1, r.2, rfl, h⟩

theorem bind_ok_iff {x : Tx σ ε α} {f : α → Tx σ ε β} {s t : σ} {b : β} :
    (x >>= f) s = .ok (b, t) ↔ ∃ a u, x s = .ok (a, u) ∧ f a u = .ok (b, t) := by
  refine ⟨bind_ok, ?_⟩
  rintro ⟨a, u, hx, hf⟩
  simp only [bind, StateT.bind, hx]
  exact hf

theorem bind_of_ok {x : Tx σ ε α} {s t : σ} {a : α} (h : x s = .ok (a, t)) (f : α → Tx σ ε β) :
    (x >>= f) s = f a t := by
  simp only [bind, StateT.bind, h]
  rfl

theorem bind_of_error {x : Tx σ ε α} {s : σ} {e : ε} (h : x s = .error e) (f : α → Tx σ ε β) :
    (x >>= f) s = .error e := by
  simp only [bind, StateT.bind, h]
  rfl

theorem bind_congr {x : Tx σ ε α} {f g : α → Tx σ ε β} {s : σ}
    (h : ∀ a u, x s = .ok (a, u) → f a u = g a u) : (x >>= f) s = (x >>= g) s := by
  cases hx : x s with
  | error e => rw [bind_of_error hx, bind_of_error hx]
  | ok r => rw [bind_of_ok hx, bind_of_ok hx, h r.1 r.2 hx]

theorem bind_congr_left {x y : Tx σ ε α} {s : σ} (h : x s = y s) (f : α → Tx σ ε β) :
    (x >>= f) s = (y >>= f) s := by
  simp only [bind, StateT.bind, h]

theorem bind_succeeds {x : Tx σ ε α} {f : α → Tx σ ε β} {s : σ} (first : ∃ a u, x s = .ok (a, u))
    (rest : ∀ a u, x s = .ok (a, u) → ∃ b t, f a u = .ok (b, t)) :
    ∃ b t, (x >>= f) s = .ok (b, t) := by
  obtain ⟨a, u, hx⟩ := first
  obtain ⟨b, t, hf⟩ := rest a u hx
  exact ⟨b, t, bind_ok_iff.mpr ⟨a, u, hx, hf⟩⟩

theorem pure_ok_iff {a b : α} {s t : σ} : (pure a : Tx σ ε α) s = .ok (b, t) ↔ a = b ∧ s = t := by
  show Except.ok (a, s) = .ok (b, t) ↔ _
  rw [Except.ok.injEq, Prod.mk.injEq]

theorem read_ok_iff {f : σ → Except ε α} {a : α} {s t : σ} :
    read f s = .ok (a, t) ↔ f s = .ok a ∧ s = t := by
  cases h : f s <;> simp [read, h, Except.map]

theorem write_ok_iff {f : σ → σ} {u : Unit} {s t : σ} :
    (write f : Tx σ ε Unit) s = .ok (u, t) ↔ t = f s := by
  simp [write, eq_comm]

theorem lift_ok_iff {x : Except ε α} {a : α} {s t : σ} :
    (lift x : Tx σ ε α) s = .ok (a, t) ↔ x = .ok a ∧ s = t := by
  cases x <;> simp [lift, Except.map]

theorem ite_ok_iff {c : Prop} [Decidable c] {x y : Tx σ ε α} {a : α} {s t : σ} :
    (if c then x else y) s = .ok (a, t) ↔ (c ∧ x s = .ok (a, t)) ∨ (¬c ∧ y s = .ok (a, t)) := by
  split <;> simp_all

theorem forM_related {R : σ → σ → Prop} (refl : ∀ s, R s s) (trans : ∀ s t u, R s t → R t u → R s u)
    {f : α → Tx σ ε PUnit} {xs : List α}
    (body : ∀ x ∈ xs, ∀ s t u, f x s = .ok (u, t) → R s t) {s t : σ} {u : PUnit}
    (h : xs.forM f s = .ok (u, t)) : R s t := by
  induction xs generalizing s with
  | nil =>
    obtain ⟨-, rfl⟩ := pure_ok_iff.mp h
    exact refl _
  | cons x xs ih =>
    obtain ⟨_, m, hx, hxs⟩ := bind_ok h
    exact trans _ _ _ (body x List.mem_cons_self _ _ _ hx)
      (ih (fun y hy => body y (List.mem_cons_of_mem _ hy)) hxs)

theorem forM_related_of {R : σ → σ → Prop} (refl : ∀ s, R s s)
    (trans : ∀ s t u, R s t → R t u → R s u) {I : List α → σ → Prop} {f : α → Tx σ ε PUnit}
    (body : ∀ x xs s t u, I (x :: xs) s → f x s = .ok (u, t) → R s t ∧ I xs t) {xs : List α}
    {s t : σ} {u : PUnit} (start : I xs s) (h : xs.forM f s = .ok (u, t)) : R s t ∧ I [] t := by
  induction xs generalizing s with
  | nil =>
    obtain ⟨-, rfl⟩ := pure_ok_iff.mp h
    exact ⟨refl _, start⟩
  | cons x xs ih =>
    obtain ⟨_, m, hx, hxs⟩ := bind_ok h
    obtain ⟨first, left⟩ := body x xs s m _ start hx
    obtain ⟨others, done⟩ := ih left hxs
    exact ⟨trans _ _ _ first others, done⟩

end Tx

namespace Call

def transact (x : Tx σ ε α) : Call σ ε α := fun s =>
  match x s with
  | .ok (a, t) => (.ok a, t)
  | .error e => (.error e, s)

/-- The answer of a request and the store after it. -/
def exec (c : Call σ ε α) (s : σ) : Except ε α × σ := c s

theorem exec_transact (x : Tx σ ε α) (s : σ) :
    exec (transact x) s = match x s with
      | .ok (a, t) => (.ok a, t)
      | .error e => (.error e, s) := rfl

theorem exec_bind (c : Call σ ε α) (f : α → Call σ ε β) (s : σ) :
    exec (c >>= f) s = match exec c s with
      | (.ok a, t) => exec (f a) t
      | (.error e, t) => (.error e, t) := by
  simp only [exec, bind, ExceptT.bind, ExceptT.mk, StateT.bind]
  rcases c s with ⟨_ | _, t⟩ <;> rfl

theorem exec_bind_of_ok {c : Call σ ε α} {s t : σ} {a : α} (h : exec c s = (.ok a, t))
    (f : α → Call σ ε β) : exec (c >>= f) s = exec (f a) t := by
  rw [exec_bind, h]

theorem exec_bind_ok_iff {c : Call σ ε α} {f : α → Call σ ε β} {s t : σ} {b : β} :
    exec (c >>= f) s = (.ok b, t) ↔
      ∃ a u, exec c s = (.ok a, u) ∧ exec (f a) u = (.ok b, t) := by
  constructor
  · intro h
    rcases first : exec c s with ⟨e | a, u⟩
    · rw [exec_bind, first] at h
      cases h
    · rw [exec_bind_of_ok first] at h
      exact ⟨a, u, rfl, h⟩
  · rintro ⟨a, u, first, h⟩
    rw [exec_bind_of_ok first, h]

theorem exec_pure (a : α) (s : σ) : exec (pure a : Call σ ε α) s = (.ok a, s) := rfl

theorem transact_ok {x : Tx σ ε α} {s t : σ} {a : α} (h : x s = .ok (a, t)) :
    exec (transact x) s = (.ok a, t) := by
  rw [exec_transact, h]

theorem transact_ok_iff {x : Tx σ ε α} {s t : σ} {a : α} :
    exec (transact x) s = (.ok a, t) ↔ x s = .ok (a, t) := by
  refine ⟨fun h => ?_, transact_ok⟩
  rw [exec_transact] at h
  cases body : x s with
  | ok r =>
    rw [body] at h
    obtain ⟨first, rfl⟩ := Prod.mk.inj h
    rw [← Except.ok.inj first]
  | error e =>
    rw [body] at h
    cases h

theorem exec_pure_ok_iff {a b : α} {s t : σ} :
    exec (pure a : Call σ ε α) s = (.ok b, t) ↔ a = b ∧ s = t := by
  rw [exec_pure, Prod.mk.injEq, Except.ok.injEq]

/-- The request succeeds with an answer and a store that satisfy `p`. -/
def answersWith (c : Call σ ε α) (s : σ) (p : α → σ → Bool) : Bool :=
  match exec c s with
  | (.ok a, t) => p a t
  | (.error _, _) => false

theorem answersWith_iff {c : Call σ ε α} {s : σ} {p : α → σ → Bool} :
    answersWith c s p = true ↔ ∃ a t, exec c s = (.ok a, t) ∧ p a t = true := by
  unfold answersWith
  rcases exec c s with ⟨e | a, t⟩
  · simp
  · simp

/-- The request fails, and the store is as it was. -/
def Refuses (c : Call σ ε α) (s : σ) : Prop := ∃ e, exec c s = (.error e, s)

theorem transact_error {x : Tx σ ε α} {s : σ} {e : ε} (h : x s = .error e) :
    exec (transact x) s = (.error e, s) := by
  rw [exec_transact, h]

theorem refuses_transact {x : Tx σ ε α} {s : σ} (fails : ∀ a t, x s ≠ .ok (a, t)) :
    Refuses (transact x) s := by
  cases body : x s with
  | ok r => exact absurd body (fails r.1 r.2)
  | error e => exact ⟨e, transact_error body⟩

theorem refuses_bind {c : Call σ ε α} {s : σ} (h : Refuses c s) (f : α → Call σ ε β) :
    Refuses (c >>= f) s := by
  obtain ⟨e, failed⟩ := h
  exact ⟨e, by rw [exec_bind, failed]⟩

theorem transact_refuses {x : Tx σ ε α} {s t : σ} {e : ε}
    (h : exec (transact x) s = (.error e, t)) : Refuses (transact x) s := by
  refine refuses_transact fun a u body => ?_
  rw [transact_ok body] at h
  cases h

theorem bind_related {R : σ → σ → Prop} (trans : ∀ s t u, R s t → R t u → R s u) {c : Call σ ε α}
    {f : α → Call σ ε β} {s : σ} (first : R s (exec c s).2)
    (rest : ∀ a t, exec c s = (.ok a, t) → R t (exec (f a) t).2) : R s (exec (c >>= f) s).2 := by
  rw [exec_bind]
  rcases begun : exec c s with ⟨e | a, t⟩
  · rw [begun] at first
    exact first
  · rw [begun] at first
    exact trans _ _ _ first (rest a t begun)

theorem transact_related {R : σ → σ → Prop} {x : Tx σ ε α} {s : σ} (refl : R s s)
    (body : ∀ a t, x s = .ok (a, t) → R s t) : R s (exec (transact x) s).2 := by
  rw [exec_transact]
  cases h : x s with
  | ok r => exact body r.1 r.2 h
  | error e => exact refl

end Call

end Exetron.Lib
