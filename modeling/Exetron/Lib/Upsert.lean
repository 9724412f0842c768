import Exetron.Lib.Table

/-!
# Rows under a unique constraint

`insertAll` adds rows one after the other, each refused when it clashes with one that is there.
`upsertAll` merges each record into the row of its code and inserts it when no row has that code:
the row keeps its own id then, so a record under a code that is taken leaves its id unwritten.
-/

namespace Exetron.Lib

open List

namespace Rows

variable {α β ε : Type}

section Insert

variable {clash : α → α → Prop} [DecidableRel clash] {refused : ε}

variable (clash refused) in
def insertNew (rows : List α) (r : α) : Except ε (List α) :=
  if ∃ x ∈ rows, clash x r then .error refused else .ok (rows ++ [r])

variable (clash refused) in
def insertAll (rows rs : List α) : Except ε (List α) := rs.foldlM (insertNew clash refused) rows

theorem insertNew_ok_iff {rows rows' : List α} {r : α} :
    insertNew clash refused rows r = .ok rows' ↔
      (∀ x ∈ rows, ¬clash x r) ∧ rows' = rows ++ [r] := by
  unfold insertNew
  split
  next taken =>
    obtain ⟨x, there, same⟩ := taken
    simp only [reduceCtorEq, false_iff, not_and]
    exact fun free => absurd same (free x there)
  next free =>
    simp only [Except.ok.injEq]
    push Not at free
    exact ⟨fun same => ⟨free, same.symm⟩, fun same => same.2.symm⟩

theorem insertAll_ok_iff {rows rs rows' : List α} : insertAll clash refused rows rs = .ok rows' ↔
      (∀ x ∈ rows, ∀ r ∈ rs, ¬clash x r) ∧ rs.Pairwise (fun x r => ¬clash x r) ∧
        rows' = rows ++ rs := by
  unfold insertAll
  induction rs generalizing rows with
  | nil => simp [pure, Except.pure, eq_comm]
  | cons r rs ih =>
    rw [foldlM_cons]
    constructor
    · intro h
      obtain ⟨middle, first, rest⟩ : ∃ middle, insertNew clash refused rows r = .ok middle ∧
          rs.foldlM (insertNew clash refused) middle = .ok rows' := by
        cases first : insertNew clash refused rows r with
        | error e => rw [first] at h; cases h
        | ok middle => rw [first] at h; exact ⟨middle, rfl, h⟩
      obtain ⟨free, rfl⟩ := insertNew_ok_iff.mp first
      obtain ⟨apart, distinct, rfl⟩ := ih.mp rest
      refine ⟨?_, ?_, by simp⟩
      · intro x there y new
        rcases mem_cons.mp new with rfl | new
        · exact free x there
        · exact apart x (mem_append_left _ there) y new
      · exact pairwise_cons.mpr ⟨fun y new => apart r (by simp) y new, distinct⟩
    · rintro ⟨apart, distinct, rfl⟩
      obtain ⟨ahead, distinct⟩ := pairwise_cons.mp distinct
      have first : insertNew clash refused rows r = .ok (rows ++ [r]) :=
        insertNew_ok_iff.mpr ⟨fun x there => apart x there r mem_cons_self, rfl⟩
      rw [first]
      refine ih.mpr ⟨?_, distinct, by simp⟩
      intro x there y new
      rcases mem_append.mp there with there | there
      · exact apart x there y (mem_cons_of_mem _ new)
      · obtain rfl := mem_singleton.mp there
        exact ahead y new

end Insert

section Upsert

variable {κ ι : Type} [DecidableEq κ] [DecidableEq ι] {code : α → κ} {id : α → ι}
  {merge : α → α → α} {make : α → α} {refused : ε}

variable (code id merge make refused) in
def upsert (rows : List α) (r : α) : Except ε (List α) :=
  if code r ∈ rows.map code then .ok (modify code (code r) (fun row => merge row r) rows)
  else if id r ∈ rows.map id then .error refused
  else .ok (rows ++ [make r])

variable (code id merge make refused) in
def upsertAll (rows rs : List α) : Except ε (List α) :=
  rs.foldlM (upsert code id merge make refused) rows

/-- The columns that no upsert of a record changes: those of its key. -/
structure KeepsKeys (code : α → κ) (id : α → ι) (merge : α → α → α) (make : α → α) : Prop where
  code_merge : ∀ row r, code (merge row r) = code row
  id_merge : ∀ row r, id (merge row r) = id row
  code_make : ∀ r, code (make r) = code r
  id_make : ∀ r, id (make r) = id r

variable (keeps : KeepsKeys code id merge make)

include keeps in
theorem upsertAll_present {rows rs : List α} (present : ∀ r ∈ rs, code r ∈ rows.map code) :
    ∃ rows', upsertAll code id merge make refused rows rs = .ok rows' ∧
      rows'.map code = rows.map code ∧ rows'.map id = rows.map id := by
  unfold upsertAll
  induction rs generalizing rows with
  | nil => exact ⟨rows, rfl, rfl, rfl⟩
  | cons r rs ih =>
    have codes : (modify code (code r) (fun row => merge row r) rows).map code = rows.map code :=
      map_modify (fun row => keeps.code_merge row r) rows
    have ids : (modify code (code r) (fun row => merge row r) rows).map id = rows.map id :=
      map_modify (fun row => keeps.id_merge row r) rows
    have first : upsert code id merge make refused rows r =
        .ok (modify code (code r) (fun row => merge row r) rows) :=
      if_pos (present r mem_cons_self)
    have still : ∀ r' ∈ rs,
        code r' ∈ (modify code (code r) (fun row => merge row r) rows).map code :=
      fun r' later => codes ▸ present r' (mem_cons_of_mem _ later)
    obtain ⟨rows', done, codes', ids'⟩ := ih still
    refine ⟨rows', ?_, codes'.trans codes, ids'.trans ids⟩
    rw [foldlM_cons, first]
    exact done

include keeps in
/-- A record under a new code and a new id is added, ahead of records under codes that are
there. -/
theorem upsertAll_new {rows rs : List α} {r : α} (newCode : code r ∉ rows.map code)
    (newId : id r ∉ rows.map id) (present : ∀ r' ∈ rs, code r' ∈ rows.map code) :
    ∃ rows', upsertAll code id merge make refused rows (r :: rs) = .ok rows' ∧
      rows'.map code = rows.map code ++ [code r] ∧ rows'.map id = rows.map id ++ [id r] := by
  have first : upsert code id merge make refused rows r = .ok (rows ++ [make r]) := by
    rw [upsert, if_neg newCode, if_neg newId]
  have still : ∀ r' ∈ rs, code r' ∈ (rows ++ [make r]).map code := fun r' later => by
    rw [map_append]
    exact mem_append_left _ (present r' later)
  obtain ⟨rows', done, codes, ids⟩ :
      ∃ rows', upsertAll code id merge make refused (rows ++ [make r]) rs = .ok rows' ∧
        rows'.map code = (rows ++ [make r]).map code ∧ rows'.map id = (rows ++ [make r]).map id :=
    upsertAll_present keeps still
  refine ⟨rows', ?_, ?_, ?_⟩
  · unfold upsertAll at done ⊢
    rw [foldlM_cons, first]
    exact done
  · rw [codes, map_append, map_singleton, keeps.code_make]
  · rw [ids, map_append, map_singleton, keeps.id_make]

end Upsert

end Rows

namespace Table

variable {σ ε α κ : Type}

/-- Putting rows back changes nothing, and only the last rows put count. -/
structure Lawful (t : Table σ ε α κ) : Prop where
  put_rows : ∀ s, t.put (t.rows s) s = s
  put_put : ∀ rs rs' s, t.put rs (t.put rs' s) = t.put rs s

def onRows (t : Table σ ε α κ) (f : List α → Except ε (List α)) : Tx σ ε Unit := fun s =>
  (f (t.rows s)).map fun rows => ((), t.put rows s)

theorem onRows_ok_iff {t : Table σ ε α κ} {f : List α → Except ε (List α)} {s s' : σ} {u : Unit} :
    t.onRows f s = .ok (u, s') ↔ ∃ rows, f (t.rows s) = .ok rows ∧ s' = t.put rows s := by
  unfold onRows
  cases f (t.rows s) <;> simp [Except.map, eq_comm]

theorem forM_onRows {t : Table σ ε α κ} (lawful : t.Lawful) {f : List α → α → Except ε (List α)}
    (rs : List α) (s : σ) : (rs.forM fun r => t.onRows fun rows => f rows r) s =
      t.onRows (fun rows => rs.foldlM f rows) s := by
  induction rs generalizing s with
  | nil =>
    show Except.ok ((), s) = Except.ok ((), t.put (t.rows s) s)
    rw [lawful.put_rows]
  | cons r rs ih =>
    show ((t.onRows fun rows => f rows r) >>= fun _ =>
      rs.forM fun r => t.onRows fun rows => f rows r) s = _
    rw [onRows, foldlM_cons]
    cases first : f (t.rows s) r with
    | error e =>
      exact Tx.bind_of_error (by rw [onRows, first]; rfl) _
    | ok rows =>
      have begun : (t.onRows fun rows => f rows r) s = .ok ((), t.put rows s) := by
        rw [onRows, first]
        rfl
      rw [Tx.bind_of_ok begun, ih, onRows, t.rows_put]
      show Except.map _ (rs.foldlM f rows) = Except.map _ (rs.foldlM f rows)
      simp only [lawful.put_put]

end Table

end Exetron.Lib
