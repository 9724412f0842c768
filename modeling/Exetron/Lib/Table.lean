import Exetron.Lib.Rows
import Exetron.Lib.Transaction

/-!
# Tables of a store

A `Table` names one list of keyed rows inside a store. Its statements are transactions; each
has a lemma that says when it succeeds and what it does to the store.
-/

namespace Exetron.Lib

/-- A list of rows of the store, their key, and the failure of a statement that finds no row. -/
structure Table (σ ε α κ : Type) where
  rows : σ → List α
  put : List α → σ → σ
  key : α → κ
  missing : ε
  rows_put : ∀ rs s, rows (put rs s) = rs := by intros; rfl

namespace Table

variable {σ ε α κ : Type} [DecidableEq κ] (t : Table σ ε α κ)

def findUnique (k : κ) (s : σ) : Option α := Rows.find t.key (t.rows s) k

def findUniqueOrThrow (k : κ) (s : σ) : Except ε α :=
  match t.findUnique k s with
  | some r => .ok r
  | none => .error t.missing

omit [DecidableEq κ] in
def create (r : α) : Tx σ ε α := do
  Tx.write fun s => t.put (t.rows s ++ [r]) s
  pure r

omit [DecidableEq κ] in
def createMany (rs : List α) : Tx σ ε Unit := Tx.write fun s => t.put (t.rows s ++ rs) s

def update (k : κ) (f : α → α) : Tx σ ε α := do
  let r ← Tx.read (t.findUniqueOrThrow k)
  Tx.write fun s => t.put (Rows.modify t.key k f (t.rows s)) s
  pure (f r)

omit [DecidableEq κ] in
def updateMany (p : α → Bool) (f : α → α) : Tx σ ε Nat := do
  let n ← Tx.read fun s => .ok ((t.rows s).countP p)
  Tx.write fun s => t.put (Rows.updateWhere p f (t.rows s)) s
  pure n

variable {t}

theorem findUnique_mem {k : κ} {s : σ} {r : α} (h : t.findUnique k s = some r) :
    r ∈ t.rows s ∧ t.key r = k :=
  Rows.find_some h

theorem findUniqueOrThrow_ok_iff {k : κ} {s : σ} {r : α} :
    t.findUniqueOrThrow k s = .ok r ↔ t.findUnique k s = some r := by
  unfold findUniqueOrThrow
  split <;> simp_all

omit [DecidableEq κ] in
theorem create_ok_iff {r r' : α} {s s' : σ} :
    t.create r s = .ok (r', s') ↔ r' = r ∧ s' = t.put (t.rows s ++ [r]) s := by
  simp only [create, Tx.bind_ok_iff, Tx.write_ok_iff, Tx.pure_ok_iff]
  constructor
  · rintro ⟨_, _, rfl, rfl, rfl⟩
    exact ⟨rfl, rfl⟩
  · rintro ⟨rfl, rfl⟩
    exact ⟨(), _, rfl, rfl, rfl⟩

omit [DecidableEq κ] in
theorem createMany_ok_iff {rs : List α} {u : Unit} {s s' : σ} :
    t.createMany rs s = .ok (u, s') ↔ s' = t.put (t.rows s ++ rs) s :=
  Tx.write_ok_iff

theorem update_ok_iff {k : κ} {f : α → α} {r' : α} {s s' : σ} : t.update k f s = .ok (r', s') ↔
      ∃ r, t.findUnique k s = some r ∧ r' = f r ∧
        s' = t.put (Rows.modify t.key k f (t.rows s)) s := by
  simp only [update, Tx.bind_ok_iff, Tx.read_ok_iff, Tx.write_ok_iff, Tx.pure_ok_iff,
    findUniqueOrThrow_ok_iff]
  constructor
  · rintro ⟨r, _, ⟨found, rfl⟩, _, _, rfl, rfl, rfl⟩
    exact ⟨r, found, rfl, rfl⟩
  · rintro ⟨r, found, rfl, rfl⟩
    exact ⟨r, _, ⟨found, rfl⟩, (), _, rfl, rfl, rfl⟩

theorem update_found {k : κ} {r : α} {s : σ} (found : t.findUnique k s = some r) (f : α → α) :
    t.update k f s = .ok (f r, t.put (Rows.modify t.key k f (t.rows s)) s) :=
  update_ok_iff.mpr ⟨r, found, rfl, rfl⟩

theorem update_succeeds_iff {k : κ} {f : α → α} {s : σ} :
    (∃ r s', t.update k f s = .ok (r, s')) ↔ k ∈ (t.rows s).map t.key := by
  rw [← Rows.exists_find_iff]
  constructor
  · rintro ⟨_, _, h⟩
    obtain ⟨r, found, _⟩ := update_ok_iff.mp h
    exact ⟨r, found⟩
  · rintro ⟨r, found⟩
    exact ⟨_, _, update_found found f⟩

omit [DecidableEq κ] in
theorem updateMany_ok_iff {p : α → Bool} {f : α → α} {n : Nat} {s s' : σ} :
    t.updateMany p f s = .ok (n, s') ↔
      n = (t.rows s).countP p ∧ s' = t.put (Rows.updateWhere p f (t.rows s)) s := by
  simp only [updateMany, Tx.bind_ok_iff, Tx.read_ok_iff, Tx.write_ok_iff, Tx.pure_ok_iff]
  constructor
  · rintro ⟨_, _, ⟨counted, rfl⟩, _, _, rfl, rfl, rfl⟩
    exact ⟨(Except.ok.inj counted).symm, rfl⟩
  · rintro ⟨rfl, rfl⟩
    exact ⟨_, _, ⟨rfl, rfl⟩, (), _, rfl, rfl, rfl⟩

end Table

end Exetron.Lib
