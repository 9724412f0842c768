import Exetron.Lib.Trace
import Mathlib.Data.Fintype.Basic
import Mathlib.Logic.Function.Basic

/-!
# Sessions on a store under READ COMMITTED

Any number of sessions run their programs on one store, statement by statement in any order. A read
sees the store as it is committed at that moment, with the session's own writes laid over it. A
write waits for the locks of the others, and is seen by them once it is committed.
-/

namespace Exetron.Lib.Sessions

variable {ι σ κ α : Type}

/-- The statements of a call, each chosen by what was read before it. -/
inductive Program (σ κ α : Type) where
  | read (next : σ → Program σ κ α)
  | write (keys : List κ) (change : σ → σ) (next : Program σ κ α)
  | commit (next : Program σ κ α)
  | rollback (next : Program σ κ α)
  | stop (answer : α)

/-- A program under way: what its reads have shown, oldest first, the writes it has not committed,
and their locks. -/
structure Session (σ κ α : Type) where
  rest : Program σ κ α
  seen : List σ := []
  own : σ → σ := id
  locks : List κ := []

def Session.answer (session : Session σ κ α) : Option α :=
  match session.rest with
  | .stop answer => some answer
  | _ => none

def Session.reads (session : Session σ κ α) : Bool :=
  match session.rest with
  | .read _ => true
  | _ => false

def Session.writes (session : Session σ κ α) : Option (σ → σ) :=
  match session.rest with
  | .write _ change _ => some change
  | _ => none

structure World (ι σ κ α : Type) where
  committed : σ
  sessions : ι → Session σ κ α

def start (p : ι → Program σ κ α) (s : σ) : World ι σ κ α := ⟨s, fun i => { rest := p i }⟩

def World.view (w : World ι σ κ α) (i : ι) : σ := (w.sessions i).own w.committed

def Blocked (w : World ι σ κ α) (i : ι) (keys : List κ) : Prop :=
  ∃ j, j ≠ i ∧ ∃ k ∈ keys, k ∈ (w.sessions j).locks

instance [Fintype ι] [DecidableEq ι] [DecidableEq κ] (w : World ι σ κ α) (i : ι) (keys : List κ) :
    Decidable (Blocked w i keys) :=
  inferInstanceAs (Decidable (∃ j, j ≠ i ∧ ∃ k ∈ keys, k ∈ (w.sessions j).locks))

variable [DecidableEq ι]

def World.put (w : World ι σ κ α) (i : ι) (session : Session σ κ α) : World ι σ κ α :=
  { w with sessions := Function.update w.sessions i session }

@[simp] theorem put_committed (w : World ι σ κ α) (i : ι) (session : Session σ κ α) :
    (w.put i session).committed = w.committed := rfl

@[simp] theorem put_self (w : World ι σ κ α) (i : ι) (session : Session σ κ α) :
    (w.put i session).sessions i = session := Function.update_self ..

@[simp] theorem put_view (w : World ι σ κ α) (i : ι) (session : Session σ κ α) :
    (w.put i session).view i = session.own w.committed := by
  rw [World.view, put_self]
  rfl

theorem put_other (w : World ι σ κ α) {i j : ι} (session : Session σ κ α) (other : j ≠ i) :
    (w.put i session).sessions j = w.sessions j := Function.update_of_ne other ..

variable [Fintype ι] [DecidableEq κ]

def step (w : World ι σ κ α) (i : ι) : World ι σ κ α :=
  let session := w.sessions i
  match session.rest with
  | .read next =>
    w.put i { session with rest := next (w.view i), seen := session.seen ++ [w.view i] }
  | .write keys change next =>
    if Blocked w i keys then w
    else w.put i { session with
      rest := next
      own := change ∘ session.own
      locks := keys ++ session.locks }
  | .commit next =>
    { w with committed := w.view i }.put i { session with rest := next, own := id, locks := [] }
  | .rollback next => w.put i { session with rest := next, own := id, locks := [] }
  | .stop _ => w

section
variable {w : World ι σ κ α} {i j : ι}

theorem step_read {next : σ → Program σ κ α} (is : (w.sessions i).rest = .read next) :
    step w i = w.put i { w.sessions i with
      rest := next (w.view i), seen := (w.sessions i).seen ++ [w.view i] } := by
  simp only [step, is]

theorem step_write {keys : List κ} {change : σ → σ} {next : Program σ κ α}
    (is : (w.sessions i).rest = .write keys change next) (free : ¬Blocked w i keys) :
    step w i = w.put i { w.sessions i with
      rest := next
      own := change ∘ (w.sessions i).own
      locks := keys ++ (w.sessions i).locks } := by
  simp only [step, is, if_neg free]

theorem step_blocked {keys : List κ} {change : σ → σ} {next : Program σ κ α}
    (is : (w.sessions i).rest = .write keys change next) (blocked : Blocked w i keys) :
    step w i = w := by
  simp only [step, is, if_pos blocked]

theorem step_commit {next : Program σ κ α} (is : (w.sessions i).rest = .commit next) :
    step w i = { w with committed := w.view i }.put i
      { w.sessions i with rest := next, own := id, locks := [] } := by
  simp only [step, is]

theorem step_rollback {next : Program σ κ α} (is : (w.sessions i).rest = .rollback next) :
    step w i = w.put i { w.sessions i with rest := next, own := id, locks := [] } := by
  simp only [step, is]

theorem step_stop {answer : α} (is : (w.sessions i).rest = .stop answer) : step w i = w := by
  simp only [step, is]

theorem step_answered {answer : α} (is : (w.sessions i).answer = some answer) : step w i = w := by
  unfold Session.answer at is
  split at is
  · rename_i rest
    exact step_stop rest
  · cases is

theorem step_other (w : World ι σ κ α) (other : j ≠ i) : (step w i).sessions j = w.sessions j := by
  cases is : (w.sessions i).rest with
  | read next => rw [step_read is, put_other _ _ other]
  | write keys change next =>
    by_cases blocked : Blocked w i keys
    · rw [step_blocked is blocked]
    · rw [step_write is blocked, put_other _ _ other]
  | commit next => rw [step_commit is, put_other _ _ other]
  | rollback next => rw [step_rollback is, put_other _ _ other]
  | stop answer => rw [step_stop is]

theorem step_seen (w : World ι σ κ α) (i : ι) :
    ((step w i).sessions i).seen.length = (w.sessions i).seen.length ∨
      (w.sessions i).reads = true ∧
        ((step w i).sessions i).seen.length = (w.sessions i).seen.length + 1 := by
  cases is : (w.sessions i).rest with
  | read next =>
    right
    rw [step_read is, put_self]
    exact ⟨by rw [Session.reads, is], List.length_append⟩
  | write keys change next =>
    left
    by_cases blocked : Blocked w i keys
    · rw [step_blocked is blocked]
    · rw [step_write is blocked, put_self]
  | commit next =>
    left
    rw [step_commit is, put_self]
  | rollback next =>
    left
    rw [step_rollback is, put_self]
  | stop answer =>
    left
    rw [step_stop is]

end

def Exclusive (w : World ι σ κ α) : Prop :=
  ∀ i j, j ≠ i → ∀ k ∈ (w.sessions i).locks, k ∉ (w.sessions j).locks

omit [DecidableEq ι] [Fintype ι] [DecidableEq κ] in
theorem exclusive_start (p : ι → Program σ κ α) (s : σ) : Exclusive (start p s) := by
  intro i j _ k held
  cases held

omit [Fintype ι] [DecidableEq κ] in
theorem exclusive_put {w : World ι σ κ α} {i : ι} {session : Session σ κ α} (held : Exclusive w)
    (free : ∀ j, j ≠ i → ∀ k ∈ session.locks, k ∉ (w.sessions j).locks) :
    Exclusive (w.put i session) := by
  intro j l other k here there
  by_cases left : j = i
  · subst left
    rw [put_self] at here
    rw [put_other _ _ other] at there
    exact free l other k here there
  · rw [put_other _ _ left] at here
    by_cases right : l = i
    · subst right
      rw [put_self] at there
      exact free j left k there here
    · rw [put_other _ _ right] at there
      exact held j l other k here there

theorem exclusive_step {w : World ι σ κ α} (held : Exclusive w) (i : ι) : Exclusive (step w i) := by
  cases is : (w.sessions i).rest with
  | read next =>
    rw [step_read is]
    exact exclusive_put held fun j other => held i j other
  | write keys change next =>
    by_cases blocked : Blocked w i keys
    · rw [step_blocked is blocked]
      exact held
    · rw [step_write is blocked]
      refine exclusive_put held fun j other k mine theirs => ?_
      rcases List.mem_append.mp mine with new | old
      · exact blocked ⟨j, other, k, new, theirs⟩
      · exact held i j other k old theirs
  | commit next =>
    rw [step_commit is]
    refine exclusive_put held fun j other k mine => ?_
    cases mine
  | rollback next =>
    rw [step_rollback is]
    refine exclusive_put held fun j other k mine => ?_
    cases mine
  | stop answer =>
    rw [step_stop is]
    exact held

/-- What a program leaves committed that has the store to itself, and its answer. -/
def alone : Program σ κ α → σ → σ → σ × α
  | .read next, base, s => alone (next s) base s
  | .write _ change next, base, s => alone next base (change s)
  | .commit next, _, s => alone next s s
  | .rollback next, base, _ => alone next base base
  | .stop answer, base, _ => (base, answer)

theorem run_alone {i : ι} {rest : Program σ κ α} {w : World ι σ κ α}
    (free : ∀ j, j ≠ i → (w.sessions j).locks = []) (is : (w.sessions i).rest = rest) :
    ∃ n, (Trace.run step w (List.replicate n i)).committed =
        (alone rest w.committed (w.view i)).1 ∧
      ((Trace.run step w (List.replicate n i)).sessions i).answer =
        some (alone rest w.committed (w.view i)).2 := by
  have free' : ∀ w : World ι σ κ α, (∀ j, j ≠ i → (w.sessions j).locks = []) →
      ∀ j, j ≠ i → ((step w i).sessions j).locks = [] := by
    intro w free j other
    rw [step_other w other]
    exact free j other
  induction rest generalizing w with
  | read next ih =>
    have after := step_read is
    obtain ⟨n, ended⟩ := ih (w.view i) (free' w free) (by rw [after, put_self])
    refine ⟨n + 1, ?_⟩
    rw [after, put_view] at ended
    rw [List.replicate_succ, Trace.run, after]
    exact ended
  | write keys change next ih =>
    have unlocked : ¬Blocked w i keys := by
      rintro ⟨j, other, k, _, held⟩
      rw [free j other] at held
      cases held
    have after := step_write is unlocked
    obtain ⟨n, ended⟩ := ih (free' w free) (by rw [after, put_self])
    refine ⟨n + 1, ?_⟩
    rw [after, put_view] at ended
    rw [List.replicate_succ, Trace.run, after]
    exact ended
  | commit next ih =>
    have after := step_commit is
    obtain ⟨n, ended⟩ := ih (free' w free) (by rw [after, put_self])
    refine ⟨n + 1, ?_⟩
    rw [after, put_view] at ended
    rw [List.replicate_succ, Trace.run, after]
    exact ended
  | rollback next ih =>
    have after := step_rollback is
    obtain ⟨n, ended⟩ := ih (free' w free) (by rw [after, put_self])
    refine ⟨n + 1, ?_⟩
    rw [after, put_view] at ended
    rw [List.replicate_succ, Trace.run, after]
    exact ended
  | stop answer =>
    refine ⟨0, rfl, ?_⟩
    show (w.sessions i).answer = _
    rw [Session.answer, is]
    rfl

end Exetron.Lib.Sessions
