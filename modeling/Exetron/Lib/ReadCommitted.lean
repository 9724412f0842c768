import Exetron.Lib.Trace
import Mathlib.Logic.Function.Basic
import Mathlib.Data.List.Basic

/-!
# Two transactions on one row under READ COMMITTED

A read sees the transaction's own version of the row, or else the latest committed one. An update
computes its columns from what was read before, waits for the other transaction's lock, and is
laid over the row that is committed then.
-/

namespace Exetron.Lib.ReadCommitted

open List

variable {S : Type} {reads : List S} {Seen : List S → Prop}

/-- The statements of a transaction, each chosen by what was read before it. -/
inductive Statements (S : Type) where
  | read (next : S → Statements S)
  | update (f : S → S) (next : Statements S)
  | commit
  | rollback

/-- A transaction under way, with the rows it has read, oldest first, and the row it has written. -/
inductive Session (S : Type) where
  | running (rest : Statements S) (reads : List S) (own : Option S)
  | ended (committed : Bool)

def Session.locks : Session S → Bool
  | .running _ _ own => own.isSome
  | .ended _ => false

def Session.firstWrite : Session S → Option (List S)
  | .running (.update _ _) reads none => some reads
  | _ => none

def Session.answer : Session S → Option Bool
  | .running .. => none
  | .ended committed => some committed

inductive Side where
  | left
  | right
  deriving DecidableEq

def Side.other : Side → Side
  | .left => .right
  | .right => .left

theorem Side.other_ne (side : Side) : side.other ≠ side := by cases side <;> decide

@[simp] theorem Side.other_other (side : Side) : side.other.other = side := by cases side <;> rfl

theorem Side.eq_or_other (side side' : Side) : side' = side ∨ side' = side.other := by
  cases side <;> cases side' <;> decide

instance {P : Side → Prop} [DecidablePred P] : Decidable (∀ side, P side) :=
  decidable_of_iff (P .left ∧ P .right)
    ⟨fun both side => by
      cases side
      · exact both.1
      · exact both.2, fun all => ⟨all .left, all .right⟩⟩

/-- The committed row and the two transactions. -/
structure Pair (S : Type) where
  row : S
  sessions : Side → Session S

def Pair.put (c : Pair S) (side : Side) (session : Session S) : Pair S :=
  { c with sessions := Function.update c.sessions side session }

def step (c : Pair S) (side : Side) : Pair S :=
  match c.sessions side with
  | .running (.read next) reads own =>
    let row := own.getD c.row
    c.put side (.running (next row) (reads ++ [row]) own)
  | .running (.update f next) reads own =>
    if (c.sessions side.other).locks then c
    else c.put side (.running next reads (some (f (own.getD c.row))))
  | .running .commit _ own => { c.put side (.ended true) with row := own.getD c.row }
  | .running .rollback _ _ => c.put side (.ended false)
  | .ended _ => c

def start (p : Side → Statements S) (row : S) : Pair S := ⟨row, fun side => .running (p side) [] none⟩

def alone : Statements S → S → S → S × Bool
  | .read next, row, own => alone (next own) row own
  | .update f next, row, own => alone next row (f own)
  | .commit, _, own => (own, true)
  | .rollback, row, _ => (row, false)

def inTurn (p q : Statements S) (row : S) : S × Bool × Bool :=
  let first := alone p row row
  let second := alone q first.1 first.1
  (second.1, first.2, second.2)

def Serial (p : Side → Statements S) (row : S) (c : Pair S) : Prop :=
  ∃ side a b, (c.sessions side).answer = some a ∧ (c.sessions side.other).answer = some b ∧
    inTurn (p side) (p side.other) row = (c.row, a, b)

/-- When a side writes first, `C` holds of what it has read and of the committed row. -/
def FirstWrites (C : Side → List S → S → Prop) (c : Pair S) (side : Side) : Prop :=
  ∀ reads ∈ (c.sessions side).firstWrite, (c.sessions side.other).locks = false → C side reads c.row

instance {C : Side → List S → S → Prop} [∀ side reads row, Decidable (C side reads row)] (c : Pair S)
    (side : Side) : Decidable (FirstWrites C c side) :=
  inferInstanceAs (Decidable (∀ reads ∈ (c.sessions side).firstWrite, _ → _))

/-- The statements that are left after the reads. -/
inductive Follows : Statements S → List S → Statements S → Prop
  | refl (p : Statements S) : Follows p [] p
  | read {next : S → Statements S} {row : S} {rows : List S} {rest : Statements S} :
    Follows (next row) rows rest → Follows (.read next) (row :: rows) rest

theorem follows_append {p : Statements S} {next : S → Statements S}
    (h : Follows p reads (.read next)) (row : S) : Follows p (reads ++ [row]) (next row) := by
  generalize is : Statements.read next = rest at h
  induction h with
  | refl p =>
    subst is
    exact Follows.read (Follows.refl _)
  | read _ ih => exact Follows.read (ih is)

theorem alone_follows {p rest : Statements S} {row : S} (h : Follows p reads rest)
    (same : ∀ r ∈ reads, r = row) : alone p row row = alone rest row row := by
  induction h with
  | refl p => rfl
  | read _ ih =>
    obtain rfl := same _ mem_cons_self
    exact ih fun r listed => same r (mem_cons_of_mem _ listed)

/-- Rows read while the committed row turned from `before` to `after`. -/
def Straddles (before after : S) (reads : List S) : Prop :=
  ∃ k m, reads = List.replicate k before ++ List.replicate m after

theorem straddles_of_before {before : S} (h : ∀ r ∈ reads, r = before) (after : S) :
    Straddles before after reads :=
  ⟨reads.length, 0, by
    rw [replicate_zero, append_nil]
    exact eq_replicate_of_mem h⟩

theorem Straddles.append {before after : S} (h : Straddles before after reads) :
    Straddles before after (reads ++ [after]) := by
  obtain ⟨k, m, rfl⟩ := h
  exact ⟨k, m + 1, by rw [append_assoc, ← replicate_succ']⟩

theorem Straddles.cases {before after row : S} {rows : List S}
    (h : Straddles before after (row :: rows)) :
    (row = before ∧ Straddles before after rows) ∨ ∀ r ∈ row :: rows, r = after := by
  obtain ⟨k, m, same⟩ := h
  cases k with
  | zero =>
    right
    rw [same, replicate_zero, nil_append]
    exact fun r listed => eq_of_mem_replicate listed
  | succ k =>
    left
    rw [replicate_succ, cons_append] at same
    obtain ⟨rfl, rfl⟩ := cons.inj same
    exact ⟨rfl, k, m, rfl⟩

/-- A session of `p` beside the committed row, whose reads are `Seen`. -/
def Underway (C : List S → S → Prop) (Seen : List S → Prop) (p : Statements S) (row : S) :
    Session S → Prop
  | .running rest reads none => Follows p reads rest ∧ Seen reads
  | .running rest _ (some own) => ∃ reads f next, Follows p reads (.update f next) ∧ Seen reads ∧
      C reads row ∧ alone rest row own = alone next row (f row)
  | .ended _ => False

def Statements.Reading : Statements S → Prop
  | .read _ => True
  | _ => False

def Statements.Writing : Statements S → Prop
  | .update _ _ => True
  | _ => False

/-- What a transaction ends with whose reads are `Seen` and whose first update, made over `row`,
meets `C`. -/
def EndsWith (C : List S → S → Prop) (Seen : List S → Prop) (p : Statements S) (row : S)
    (result : S × Bool) : Prop :=
  ∃ reads rest, Follows p reads rest ∧ Seen reads ∧ ¬rest.Reading ∧
    (rest.Writing → C reads row) ∧ result = alone rest row row

theorem Underway.mono {C : List S → S → Prop} {Seen' : List S → Prop} {p : Statements S} {row : S}
    {session : Session S} (weaker : ∀ reads, Seen reads → Seen' reads)
    (h : Underway C Seen p row session) : Underway C Seen' p row session := by
  match session, h with
  | .running _ _ none, ⟨follows, seen⟩ => exact ⟨follows, weaker _ seen⟩
  | .running _ _ (some _), ⟨reads, f, next, follows, seen, rest⟩ =>
    exact ⟨reads, f, next, follows, weaker _ seen, rest⟩

theorem Underway.elsewhere {C : List S → S → Prop} {p : Statements S} {row row' : S}
    {session : Session S} (free : session.locks = false) (h : Underway C Seen p row session) :
    Underway C Seen p row' session := by
  match session, free, h with
  | .running _ _ none, _, h => exact h

@[simp] theorem put_row (c : Pair S) (side : Side) (session : Session S) :
    (c.put side session).row = c.row := rfl

@[simp] theorem put_own (c : Pair S) (side : Side) (session : Session S) :
    (c.put side session).sessions side = session := Function.update_self ..

@[simp] theorem put_other (c : Pair S) (side : Side) (session : Session S) :
    (c.put side session).sessions side.other = c.sessions side.other :=
  Function.update_of_ne side.other_ne ..

theorem step_other (c : Pair S) (side : Side) :
    (step c side).sessions side.other = c.sessions side.other := by
  unfold step
  split
  · exact put_other ..
  · split
    · rfl
    · exact put_other ..
  · exact put_other ..
  · exact put_other ..
  · rfl

/-- A session goes on: the committed row stays, and a lock is taken only when there is none. -/
structure GoesOn (C : List S → S → Prop) (Seen : List S → Prop) (p : Statements S) (c : Pair S)
    (side : Side) : Prop where
  row : (step c side).row = c.row
  underway : Underway C Seen p c.row ((step c side).sessions side)
  locks : ((step c side).sessions side).locks = true →
    (c.sessions side).locks = true ∨ (c.sessions side.other).locks = false

/-- A session ends: without a lock it leaves the committed row. -/
structure Ends (C : List S → S → Prop) (Seen : List S → Prop) (p : Statements S) (c : Pair S)
    (side : Side) (answer : Bool) : Prop where
  ended : (step c side).sessions side = .ended answer
  row : (c.sessions side).locks = false → (step c side).row = c.row
  result : EndsWith C Seen p c.row ((step c side).row, answer)

theorem goesOn_of_waiting {C : List S → S → Prop} {p : Statements S} {c : Pair S} {side : Side}
    (waits : step c side = c) (h : Underway C Seen p c.row (c.sessions side)) :
    GoesOn C Seen p c side :=
  ⟨by rw [waits], by rw [waits]; exact h, by rw [waits]; exact Or.inl⟩

theorem underway_step {C : Side → List S → S → Prop} {p : Statements S} {c : Pair S} {side : Side}
    (meets : FirstWrites C c side) (grows : ∀ reads, Seen reads → Seen (reads ++ [c.row]))
    (h : Underway (C side) Seen p c.row (c.sessions side)) :
    GoesOn (C side) Seen p c side ∨ ∃ answer, Ends (C side) Seen p c side answer := by
  match session : c.sessions side, h with
  | .running (.read next) reads none, ⟨follows, seen⟩ =>
    have after : step c side = c.put side (.running (next c.row) (reads ++ [c.row]) none) := by
      simp only [step, session, Option.getD_none]
    refine Or.inl ⟨by rw [after]; rfl, ?_, ?_⟩
    · rw [after, put_own]
      exact ⟨follows_append follows c.row, grows reads seen⟩
    · rw [after, put_own]
      exact fun locked => (Bool.false_ne_true locked).elim
  | .running (.read next) reads (some own), ⟨before, f, first, follows, seen, held, rest⟩ =>
    have after : step c side = c.put side (.running (next own) (reads ++ [own]) (some own)) := by
      simp only [step, session, Option.getD_some]
    refine Or.inl ⟨by rw [after]; rfl, ?_, fun _ => Or.inl (by rw [session]; rfl)⟩
    rw [after, put_own]
    exact ⟨before, f, first, follows, seen, held, rest⟩
  | .running (.update f next) reads own, h =>
    cases free : (c.sessions side.other).locks with
    | true =>
      have waits : step c side = c := by simp only [step, session, free, if_true]
      exact Or.inl (goesOn_of_waiting waits (by rw [session]; exact h))
    | false =>
      have after : step c side = c.put side (.running next reads (some (f (own.getD c.row)))) := by
        simp only [step, session, free, Bool.false_eq_true, if_false]
      refine Or.inl ⟨by rw [after]; rfl, ?_, fun _ => Or.inr free⟩
      rw [after, put_own]
      cases own with
      | none =>
        have writes : reads ∈ (c.sessions side).firstWrite := by
          rw [session]
          rfl
        have held : C side reads c.row := meets reads writes free
        exact ⟨reads, f, next, h.1, h.2, held, rfl⟩
      | some own => exact h
  | .running .commit reads none, ⟨follows, seen⟩ =>
    have after : step c side = { c.put side (.ended true) with row := c.row } := by
      simp only [step, session, Option.getD_none]
    refine Or.inr ⟨true, by rw [after]; exact put_own .., fun _ => by rw [after], ?_⟩
    rw [after]
    exact ⟨reads, .commit, follows, seen, id, False.elim, rfl⟩
  | .running .commit reads (some own), ⟨before, f, first, follows, seen, held, rest⟩ =>
    have after : step c side = { c.put side (.ended true) with row := own } := by
      simp only [step, session, Option.getD_some]
    refine Or.inr ⟨true, by rw [after]; exact put_own .., ?_, ?_⟩
    · rw [session]
      exact fun free => (Bool.false_ne_true free.symm).elim
    · rw [after]
      exact ⟨before, .update f first, follows, seen, id, fun _ => held, rest⟩
  | .running .rollback reads own, h =>
    have after : step c side = c.put side (.ended false) := by simp only [step, session]
    refine Or.inr ⟨false, by rw [after]; exact put_own .., fun _ => by rw [after]; rfl, ?_⟩
    rw [after]
    cases own with
    | none => exact ⟨reads, .rollback, h.1, h.2, id, False.elim, rfl⟩
    | some own =>
      obtain ⟨before, f, first, follows, seen, held, rest⟩ := h
      exact ⟨before, .update f first, follows, seen, id, fun _ => held, rest⟩

/-- Both transactions are under way on the row they found. -/
structure BothUnderway (C : Side → List S → S → Prop) (p : Side → Statements S) (row : S)
    (c : Pair S) : Prop where
  start : c.row = row
  sessions : ∀ side, Underway (C side) (fun reads => ∀ r ∈ reads, r = row) (p side) row
    (c.sessions side)
  locks : ∀ side, (c.sessions side).locks = true → (c.sessions side.other).locks = false

/-- One transaction has ended as it does alone, the other is under way. -/
structure OneEnded (C : Side → List S → S → Prop) (p : Side → Statements S) (row : S)
    (c : Pair S) (first : Side) (answer : Bool) : Prop where
  ended : c.sessions first = .ended answer
  result : alone (p first) row row = (c.row, answer)
  second : Underway (C first.other) (Straddles row c.row) (p first.other) c.row
    (c.sessions first.other)

/-- One transaction has ended as it does alone, the other across its end. -/
structure BothEnded (C : Side → List S → S → Prop) (p : Side → Statements S) (row : S)
    (c : Pair S) (first : Side) (between : S) (answer answer' : Bool) : Prop where
  ended : c.sessions first = .ended answer
  ended' : c.sessions first.other = .ended answer'
  result : alone (p first) row row = (between, answer)
  second : EndsWith (C first.other) (Straddles row between) (p first.other) between (c.row, answer')

/-- The stages of a run of two transactions. -/
inductive Stage (C : Side → List S → S → Prop) (p : Side → Statements S) (row : S) (c : Pair S) :
    Prop
  | both (h : BothUnderway C p row c)
  | one (first : Side) (answer : Bool) (h : OneEnded C p row c first answer)
  | neither (first : Side) (between : S) (answer answer' : Bool)
    (h : BothEnded C p row c first between answer answer')

theorem stage_start (C : Side → List S → S → Prop) (p : Side → Statements S) (row : S) :
    Stage C p row (start p row) := by
  refine Stage.both ⟨rfl, fun side => ⟨Follows.refl _, ?_⟩, fun side _ => rfl⟩
  exact fun r listed => absurd listed not_mem_nil

section
variable {C : Side → List S → S → Prop} {p : Side → Statements S} {row : S} {c : Pair S}

theorem both_step {side : Side} (meets : FirstWrites C c side) (h : BothUnderway C p row c) :
    Stage C p row (step c side) := by
  obtain rfl := h.start
  have grows : ∀ reads : List S, (∀ r ∈ reads, r = c.row) → ∀ r ∈ reads ++ [c.row], r = c.row := by
    intro reads same r listed
    rcases mem_append.mp listed with old | new
    · exact same r old
    · exact mem_singleton.mp new
  have untouched := step_other c side
  rcases underway_step meets grows (h.sessions side) with on | ⟨answer, ends⟩
  · refine Stage.both ⟨on.row, fun side' => ?_, fun side' locked => ?_⟩
    · rcases side.eq_or_other side' with rfl | rfl
      · exact on.underway
      · rw [untouched]
        exact h.sessions _
    · rcases side.eq_or_other side' with rfl | rfl
      · rw [untouched]
        exact (on.locks locked).elim (h.locks _) id
      · rw [untouched] at locked
        rw [Side.other_other]
        by_contra both
        have holds := (Bool.not_eq_false _).mp both
        have mine := h.locks _ locked
        rw [Side.other_other] at mine
        rcases on.locks holds with before | free
        · rw [before] at mine
          exact Bool.false_ne_true mine.symm
        · rw [free] at locked
          exact Bool.false_ne_true locked
  · obtain ⟨reads, rest, follows, seen, _, _, result⟩ := ends.result
    refine Stage.one side answer ⟨ends.ended, ?_, ?_⟩
    · rw [alone_follows follows seen]
      exact result.symm
    · rw [untouched]
      have other := (h.sessions side.other).mono
        (fun reads seen => straddles_of_before seen (step c side).row)
      cases locked : (c.sessions side.other).locks with
      | false => exact other.elsewhere locked
      | true =>
        have free := h.locks side.other locked
        rw [Side.other_other] at free
        have same := ends.row free
        rw [same] at other ⊢
        exact other

theorem one_step {side first : Side} {answer : Bool} (meets : FirstWrites C c side)
    (h : OneEnded C p row c first answer) : Stage C p row (step c side) := by
  rcases first.eq_or_other side with rfl | rfl
  · have idle : step c side = c := by simp only [step, h.ended]
    rw [idle]
    exact Stage.one _ _ h
  · have grows : ∀ reads, Straddles row c.row reads → Straddles row c.row (reads ++ [c.row]) :=
      fun _ seen => seen.append
    have untouched := step_other c first.other
    rw [Side.other_other] at untouched
    rcases underway_step meets grows h.second with on | ⟨answer', ends⟩
    · refine Stage.one first answer ⟨by rw [untouched]; exact h.ended, ?_, ?_⟩
      · rw [on.row]
        exact h.result
      · rw [on.row]
        exact on.underway
    · exact Stage.neither first c.row answer answer'
        ⟨by rw [untouched]; exact h.ended, ends.ended, h.result, ends.result⟩

theorem stage_step {side : Side} (h : Stage C p row c) (meets : FirstWrites C c side) :
    Stage C p row (step c side) := by
  cases h with
  | both h => exact both_step meets h
  | one first answer h => exact one_step meets h
  | neither first between answer answer' h =>
    have idle : step c side = c := by
      rcases first.eq_or_other side with rfl | rfl
      · simp only [step, h.ended]
      · simp only [step, h.ended']
    rw [idle]
    exact Stage.neither first between answer answer' h

theorem bothEnded_of_run {schedule : List Side}
    (along : Trace.Along step (FirstWrites C) (start p row) schedule)
    (ended : ∀ side, ((Trace.run step (start p row) schedule).sessions side).answer ≠ none) :
    ∃ first between answer answer', BothEnded C p row (Trace.run step (start p row) schedule) first
      between answer answer' := by
  have keeps : ∀ (c : Pair S) (side : Side), Stage C p row c → FirstWrites C c side →
      Stage C p row (step c side) := fun _ _ => stage_step
  cases Trace.run_invariant keeps (stage_start C p row) along with
  | both h =>
    have open_left := h.sessions .left
    match session : (Trace.run step (start p row) schedule).sessions .left, open_left with
    | .running _ _ _, _ => exact absurd (by rw [session]; rfl) (ended .left)
  | one first answer h =>
    have open_second := h.second
    match session : (Trace.run step (start p row) schedule).sessions first.other, open_second with
    | .running _ _ _, _ => exact absurd (by rw [session]; rfl) (ended first.other)
  | neither first between answer answer' h => exact ⟨first, between, answer, answer', h⟩

end

end Exetron.Lib.ReadCommitted
