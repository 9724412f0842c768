import Exetron.Lib.Rows
import Exetron.Lib.Sessions
import Mathlib.Algebra.BigOperators.Group.Finset.Basic
import Mathlib.Data.List.Count

/-!
# Calls that write back what they read

A call reads a batch of rows, takes them up one after another, and writes to each what it made of
the row as it was read. To take a row up, it reads other tables and may send something outside,
which nothing takes back.
-/

namespace Exetron.Lib.WriteBack

open Sessions List

variable {α κ ν ι : Type} [DecidableEq κ] {key : α → κ}
variable {number : α → ν}

/-- A call on the rows of a table. A change is written to some columns of the row that is there, and
whatever sends something is written down. -/
structure Call (key : α → κ) where
  batch : List α → List α
  change : α → Option α
  assign : α → α → α
  sends : α → Bool
  distinct : ∀ rows, (rows.map key).Nodup → ((batch rows).map key).Nodup
  keyed : ∀ new row, key (assign new row) = key row
  changed : ∀ row, ∀ new ∈ change row, assign new row = new
  noted : ∀ row, sends row = true → (change row).isSome = true

abbrev Run (α κ : Type) := Session (List α) κ Unit

abbrev Desk (ι α κ : Type) := World ι (List α) κ Unit

namespace Call

def takeUp (c : Call key) : List α → Program (List α) κ Unit
  | [] => .commit (.stop ())
  | row :: rest => .read fun _ =>
    match c.change row with
    | none => c.takeUp rest
    | some new => .write [key row] (Rows.modify key (key row) (c.assign new)) (c.takeUp rest)

def statements (c : Call key) : Program (List α) κ Unit := .read fun rows => c.takeUp (c.batch rows)

def taken (c : Call key) (session : Run α κ) : List α :=
  match session.seen with
  | [] => []
  | rows :: later => ((c.batch rows).take later.length).reverse

def next (c : Call key) (session : Run α κ) : Option α :=
  match session.seen with
  | [] => none
  | rows :: later => if session.reads then (c.batch rows)[later.length]? else none

def writing (c : Call key) (session : Run α κ) : Option α :=
  if session.writes.isSome then (c.taken session).head? else none

def sent (c : Call key) (session : Run α κ) : List α := (c.taken session).filter c.sends

def pending (c : Call key) (session : Run α κ) : List κ :=
  if session.answer.isSome then [] else (c.sent session).map key

def overlay (c : Call key) : List α → List α → List α
  | [], rows => rows
  | row :: earlier, rows =>
    match c.change row with
    | none => c.overlay earlier rows
    | some new => Rows.modify key (key row) (c.assign new) (c.overlay earlier rows)

def locked (c : Call key) (done : List α) : List κ :=
  (done.filter fun row => (c.change row).isSome).map key

end Call

section
variable {c : Call key} {rows done : List α} {row new : α} {k : κ}

theorem keys_overlay (c : Call key) (done rows : List α) :
    (c.overlay done rows).map key = rows.map key := by
  induction done with
  | nil => rfl
  | cons row earlier ih =>
    cases is : c.change row with
    | none => simp only [Call.overlay, is, ih]
    | some new => simp only [Call.overlay, is, Rows.map_modify (c.keyed new), ih]

omit [DecidableEq κ] in
theorem mem_locked :
    k ∈ c.locked done ↔ ∃ row ∈ done, (c.change row).isSome = true ∧ key row = k := by
  simp only [Call.locked, mem_map, mem_filter, and_assoc]

omit [DecidableEq κ] in
theorem nodup_locked (distinct : (done.map key).Nodup) : (c.locked done).Nodup :=
  (filter_sublist.map key).nodup distinct

theorem find_overlay_other (free : k ∉ c.locked done) :
    Rows.find key (c.overlay done rows) k = Rows.find key rows k := by
  induction done with
  | nil => rfl
  | cons row earlier ih =>
    have rest : k ∉ c.locked earlier := fun held =>
      free (mem_locked.mpr (by
        obtain ⟨row', listed, is⟩ := mem_locked.mp held
        exact ⟨row', mem_cons_of_mem _ listed, is⟩))
    cases is : c.change row with
    | none => simp only [Call.overlay, is, ih rest]
    | some new =>
      have other : k ≠ key row := fun same =>
        free (mem_locked.mpr ⟨row, mem_cons_self, by rw [is]; rfl, same.symm⟩)
      simp only [Call.overlay, is, Rows.find_modify (c.keyed new), if_neg other, ih rest]

theorem find_overlay_locked (distinct : (done.map key).Nodup) (listed : row ∈ done)
    (is : c.change row = some new) (current : Rows.find key rows (key row) = some row) :
    Rows.find key (c.overlay done rows) (key row) = some new := by
  induction done with
  | nil => cases listed
  | cons first earlier ih =>
    obtain ⟨apart, distinct⟩ := nodup_cons.mp distinct
    rcases mem_cons.mp listed with rfl | before
    · have free : key row ∉ c.locked earlier := fun held => by
        obtain ⟨row', listed, _, same⟩ := mem_locked.mp held
        exact apart (same ▸ mem_map_of_mem listed)
      simp only [Call.overlay, is, Rows.find_modify (c.keyed new), if_true,
        find_overlay_other free, current, Option.map_some]
      rw [c.changed row new is]
    · have other : key row ≠ key first := fun same =>
        apart (same ▸ mem_map_of_mem before)
      cases made : c.change first with
      | none => simp only [Call.overlay, made, ih distinct before]
      | some new' =>
        simp only [Call.overlay, made, Rows.find_modify (c.keyed new'), if_neg other,
          ih distinct before]

end

theorem overlay_append (c : Call key) (later earlier rows : List α) :
    c.overlay (later ++ earlier) rows = c.overlay later (c.overlay earlier rows) := by
  induction later with
  | nil => rfl
  | cons row later ih =>
    cases is : c.change row with
    | none | some new => simp only [cons_append, Call.overlay, is, ih]

theorem alone_takeUp (c : Call key) (todo base rows : List α) :
    alone (c.takeUp todo) base rows = (c.overlay todo.reverse rows, ()) := by
  induction todo generalizing rows with
  | nil => rfl
  | cons row todo ih =>
    rw [reverse_cons, overlay_append]
    cases is : c.change row with
    | none | some new => simp only [Call.takeUp, alone, Call.overlay, is, ih]

theorem alone_statements (c : Call key) (rows : List α) :
    alone c.statements rows rows = (c.overlay (c.batch rows).reverse rows, ()) :=
  alone_takeUp c (c.batch rows) rows rows

variable [DecidableEq ι]

def committing (w : Desk ι α κ) (i : ι) : List (ι × κ) :=
  match (w.sessions i).rest with
  | .commit _ => (w.sessions i).locks.map fun k => (i, k)
  | _ => []

def replay (c : ι → Call key) : List (ι × κ) → κ → α → Option α
  | [], _, row => some row
  | (i, k') :: h, k, row =>
    if k' = k then (replay c h k row).bind (c i).change else replay c h k row

omit [DecidableEq ι] in
theorem replay_append {c : ι → Call key} {i : ι} {h : List (ι × κ)} {k : κ} {row : α} {ks : List κ}
    (distinct : ks.Nodup) : replay c (ks.map (fun k => (i, k)) ++ h) k row =
      if k ∈ ks then (replay c h k row).bind (c i).change else replay c h k row := by
  induction ks with
  | nil => rfl
  | cons k' ks ih =>
    obtain ⟨apart, distinct⟩ := nodup_cons.mp distinct
    rw [map_cons, cons_append, replay, ih distinct]
    by_cases here : k' = k
    · subst here
      rw [if_pos rfl, if_neg apart, if_pos mem_cons_self]
    · have same : (k ∈ k' :: ks) ↔ k ∈ ks :=
        ⟨fun listed => (mem_cons.mp listed).resolve_left (Ne.symm here), mem_cons_of_mem _⟩
      simp only [if_neg here, same]

/-- How far a call has come: the rows it has taken up and those it has written, the latest first,
and those still to come. What it has written is as it was read until it is committed. -/
structure Progress (c : Call key) (s : List α) (session : Run α κ) (taken done todo : List α) :
    Prop where
  read : ∃ rows later, session.seen = rows :: later ∧ c.batch rows = taken.reverse ++ todo ∧
    later.length = taken.length
  distinct : ((taken.reverse ++ todo).map key).Nodup
  own : session.own = c.overlay done
  locks : session.locks = c.locked done
  held : ∀ row ∈ done, (c.change row).isSome = true → Rows.find key s (key row) = some row

/-- Where a call is, by the statements it still has to make. -/
inductive At (c : Call key) (s : List α) (session : Run α κ) : Prop where
  | fresh (rest : session.rest = c.statements) (seen : session.seen = []) (own : session.own = id)
      (locks : session.locks = [])
  | between (done todo : List α) (progress : Progress c s session done done todo)
      (rest : session.rest = c.takeUp todo)
  | writes (done todo : List α) (row new : α)
      (progress : Progress c s session (row :: done) done todo)
      (is : c.change row = some new)
      (rest : session.rest = .write [key row] (Rows.modify key (key row) (c.assign new))
        (c.takeUp todo))
  | ended (rest : session.rest = .stop ()) (distinct : ((c.taken session).map key).Nodup)
      (own : session.own = id) (locks : session.locks = [])

section
variable {c : Call key} {s t : List α} {session : Run α κ} {taken done todo : List α} {row : α}

theorem Progress.taken_eq (progress : Progress c s session taken done todo) :
    c.taken session = taken := by
  obtain ⟨rows, later, seen, batch, count⟩ := progress.read
  rw [Call.taken, seen]
  dsimp only
  rw [batch, count, ← length_reverse, take_left, reverse_reverse]

theorem Progress.distinct_taken (progress : Progress c s session taken done todo) :
    (taken.map key).Nodup := by
  have all := progress.distinct
  rw [map_append, map_reverse] at all
  exact nodup_reverse.mp (List.Nodup.of_append_left all)

theorem Progress.next_eq (progress : Progress c s session taken done todo) :
    c.next session = if session.reads then todo.head? else none := by
  obtain ⟨rows, later, seen, batch, count⟩ := progress.read
  rw [Call.next, seen]
  dsimp only
  rw [batch, count, ← length_reverse, getElem?_append_right (Nat.le_refl _),
    Nat.sub_self, head?_eq_getElem?]

theorem At.kept (at_ : At c s session)
    (free : ∀ k ∈ session.locks, Rows.find key t k = Rows.find key s k) : At c t session := by
  have still {taken done todo : List α} (progress : Progress c s session taken done todo) :
      Progress c t session taken done todo :=
    { progress with
      held := fun row listed is => by
        have lock : key row ∈ session.locks := by
          rw [progress.locks]
          exact mem_locked.mpr ⟨row, listed, is, rfl⟩
        rw [free _ lock]
        exact progress.held row listed is }
  cases at_ with
  | fresh rest seen own locks => exact .fresh rest seen own locks
  | between done todo progress rest => exact .between done todo (still progress) rest
  | writes done todo row new progress is rest =>
    exact .writes done todo row new (still progress) is rest
  | ended rest distinct own locks => exact .ended rest distinct own locks

theorem At.distinct (at_ : At c s session) : ((c.taken session).map key).Nodup := by
  cases at_ with
  | fresh rest seen own locks =>
    rw [Call.taken, seen]
    exact nodup_nil
  | between done todo progress rest | writes done todo row new progress is rest =>
    rw [progress.taken_eq]
    exact progress.distinct_taken
  | ended rest distinct own locks => exact distinct

theorem Progress.take {session' : Run α κ} {view : List α}
    (progress : Progress c s session done done (row :: todo))
    (seen : session'.seen = session.seen ++ [view]) (own : session'.own = session.own)
    (locks : session'.locks = session.locks) : Progress c s session' (row :: done) done todo where
  read := by
    obtain ⟨rows, later, before, batch, count⟩ := progress.read
    refine ⟨rows, later ++ [view], by rw [seen, before]; rfl, ?_, ?_⟩
    · rw [batch, reverse_cons, append_assoc]
      rfl
    · rw [length_append, count]
      rfl
  distinct := by
    rw [reverse_cons, append_assoc]
    exact progress.distinct
  own := own.trans progress.own
  locks := locks.trans progress.locks
  held := progress.held

theorem Progress.leave (progress : Progress c s session (row :: done) done todo)
    (is : c.change row = none) : Progress c s session (row :: done) (row :: done) todo :=
  { progress with
    own := progress.own.trans (by funext rows; simp only [Call.overlay, is])
    locks := progress.locks.trans (by simp [Call.locked, is])
    held := fun row' listed changed => by
      rcases mem_cons.mp listed with rfl | before
      · rw [is] at changed
        cases changed
      · exact progress.held row' before changed }

theorem Progress.write {session' : Run α κ} {new : α}
    (progress : Progress c s session (row :: done) done todo) (is : c.change row = some new)
    (current : Rows.find key s (key row) = some row) (seen : session'.seen = session.seen)
    (own : session'.own = Rows.modify key (key row) (c.assign new) ∘ session.own)
    (locks : session'.locks = [key row] ++ session.locks) :
    Progress c s session' (row :: done) (row :: done) todo where
  read := by
    rw [seen]
    exact progress.read
  distinct := progress.distinct
  own := by
    rw [own, progress.own]
    funext rows
    simp only [Call.overlay, is, Function.comp]
  locks := by
    rw [locks, progress.locks]
    simp [Call.locked, is]
  held row' listed changed := by
    rcases mem_cons.mp listed with rfl | before
    · exact current
    · exact progress.held row' before changed

end

variable [Fintype ι]

/-- What a statement of a call does: it takes a row up, writes to it or waits, or it commits all
that the call has written. -/
inductive Stepped (c : Call key) (w : Desk ι α κ) (i : ι) : Prop where
  | goesOn (same : (step w i).committed = w.committed) (quiet : committing w i = [])
      (at_ : At c w.committed ((step w i).sessions i))
      (taken : c.taken ((step w i).sessions i) = c.taken (w.sessions i) ∨
        ∃ row ∈ c.next (w.sessions i),
          c.taken ((step w i).sessions i) = row :: c.taken (w.sessions i))
      (underway : ((step w i).sessions i).answer = none ∨ step w i = w)
  | commits (done : List α) (progress : Progress c w.committed (w.sessions i) done done [])
      (committed : (step w i).committed = c.overlay done w.committed)
      (written : committing w i = (c.locked done).map fun k => (i, k))
      (at_ : At c (step w i).committed ((step w i).sessions i))
      (taken : c.taken ((step w i).sessions i) = done)

section
variable {c : Call key} {w : Desk ι α κ} {i : ι}

theorem takeUp_answer {session : Run α κ} {todo : List α} (rest : session.rest = c.takeUp todo) :
    session.answer = none := by
  cases todo with
  | nil | cons row todo =>
    rw [Session.answer, rest]
    rfl

omit [DecidableEq κ] [DecidableEq ι] [Fintype ι] in
theorem quiet_of_read {next : List α → Program (List α) κ Unit}
    (rest : (w.sessions i).rest = .read next) : committing w i = [] := by
  rw [committing, rest]

theorem fresh_stepped (unique : (w.committed.map key).Nodup)
    (rest : (w.sessions i).rest = c.statements) (seen : (w.sessions i).seen = [])
    (own : (w.sessions i).own = id) (locks : (w.sessions i).locks = []) : Stepped c w i := by
  have view : w.view i = w.committed := by
    rw [World.view, own]
    rfl
  have after := step_read rest
  rw [view] at after
  have progress : Progress c w.committed ((step w i).sessions i) [] [] (c.batch w.committed) := by
    rw [after, put_self]
    exact
      { read := ⟨w.committed, [], by rw [seen]; rfl, rfl, rfl⟩
        distinct := c.distinct _ unique
        own := own
        locks := locks
        held := fun _ listed => absurd listed not_mem_nil }
  have rest' : ((step w i).sessions i).rest = c.takeUp (c.batch w.committed) := by
    rw [after, put_self]
  refine .goesOn (by rw [after]; rfl) (quiet_of_read rest) (.between [] _ progress rest')
    (.inl ?_) (.inl (takeUp_answer rest'))
  rw [progress.taken_eq, Call.taken, seen]

theorem between_stepped {done todo : List α}
    (progress : Progress c w.committed (w.sessions i) done done todo)
    (rest : (w.sessions i).rest = c.takeUp todo) : Stepped c w i := by
  cases todo with
  | nil =>
    have after := step_commit rest
    have taken : c.taken ((step w i).sessions i) = done := by
      rw [after, put_self]
      exact progress.taken_eq
    have committed : (step w i).committed = c.overlay done w.committed := by
      rw [after, put_committed, ← progress.own]
      rfl
    refine .commits done progress committed ?_ ?_ taken
    · rw [committing, rest, ← progress.locks]
      rfl
    · refine .ended (by rw [after, put_self]) ?_ (by rw [after, put_self]) (by rw [after, put_self])
      rw [taken]
      exact progress.distinct_taken
  | cons row todo =>
    have reads : c.next (w.sessions i) = some row := by
      rw [progress.next_eq, Session.reads, rest]
      rfl
    have after := step_read rest
    have taken : Progress c w.committed ((step w i).sessions i) (row :: done) done todo := by
      rw [after, put_self]
      exact progress.take rfl rfl rfl
    have same : (step w i).committed = w.committed := by rw [after]; rfl
    have rest' : ((step w i).sessions i).rest = match c.change row with
        | none => c.takeUp todo
        | some new =>
          .write [key row] (Rows.modify key (key row) (c.assign new)) (c.takeUp todo) := by
      rw [after, put_self]
    have more : c.taken ((step w i).sessions i) = row :: c.taken (w.sessions i) := by
      rw [taken.taken_eq, progress.taken_eq]
    cases is : c.change row with
    | none =>
      rw [is] at rest'
      exact .goesOn same (quiet_of_read rest) (.between _ _ (taken.leave is) rest')
        (.inr ⟨row, reads, more⟩) (.inl (takeUp_answer rest'))
    | some new =>
      rw [is] at rest'
      refine .goesOn same (quiet_of_read rest) (.writes _ _ row new taken is rest')
        (.inr ⟨row, reads, more⟩) (.inl ?_)
      rw [Session.answer, rest']

theorem writes_stepped {done todo : List α} {row new : α}
    (progress : Progress c w.committed (w.sessions i) (row :: done) done todo)
    (is : c.change row = some new)
    (rest : (w.sessions i).rest = .write [key row] (Rows.modify key (key row) (c.assign new))
      (c.takeUp todo))
    (current : Rows.find key w.committed (key row) = some row) : Stepped c w i := by
  have quiet : committing w i = [] := by rw [committing, rest]
  by_cases blocked : Blocked w i [key row]
  · have waits := step_blocked rest blocked
    refine .goesOn (by rw [waits]) quiet ?_ (.inl (by rw [waits])) (.inr waits)
    rw [waits]
    exact .writes done todo row new progress is rest
  · have after := step_write rest blocked
    have written : Progress c w.committed ((step w i).sessions i) (row :: done) (row :: done)
        todo := by
      rw [after, put_self]
      exact progress.write is current rfl rfl rfl
    have rest' : ((step w i).sessions i).rest = c.takeUp todo := by rw [after, put_self]
    refine .goesOn (by rw [after]; rfl) quiet (.between _ _ written rest') (.inl ?_)
      (.inl (takeUp_answer rest'))
    rw [written.taken_eq, progress.taken_eq]

theorem At.stepped (at_ : At c w.committed (w.sessions i)) (unique : (w.committed.map key).Nodup)
    (current : ∀ row ∈ c.writing (w.sessions i),
      Rows.find key w.committed (key row) = some row) : Stepped c w i := by
  cases at_ with
  | fresh rest seen own locks => exact fresh_stepped unique rest seen own locks
  | between done todo progress rest => exact between_stepped progress rest
  | writes done todo row new progress is rest =>
    have here : c.writing (w.sessions i) = some row := by
      rw [Call.writing, Session.writes, rest, progress.taken_eq]
      rfl
    exact writes_stepped progress is rest (current row here)
  | ended rest distinct own locks =>
    have stays := step_stop rest
    refine .goesOn (by rw [stays]) (by rw [committing, rest]) ?_ (.inl (by rw [stays])) (.inr stays)
    rw [stays]
    exact .ended rest distinct own locks

end

/-- What is sent and what is written is about a row that is still as it was read, and nothing is
sent while another call has sent something for the row that it has not written down. -/
def Undisturbed (c : ι → Call key) (w : Desk ι α κ) (i : ι) : Prop :=
  (∀ row ∈ (c i).writing (w.sessions i), Rows.find key w.committed (key row) = some row) ∧
    ∀ row ∈ (c i).next (w.sessions i), (c i).sends row = true →
      Rows.find key w.committed (key row) = some row ∧
        ∀ j, j ≠ i → key row ∉ (c j).pending (w.sessions j)

instance [DecidableEq α] (c : ι → Call key) (w : Desk ι α κ) (i : ι) :
    Decidable (Undisturbed c w i) := by
  unfold Undisturbed
  infer_instance

def committedWrites (w : Desk ι α κ) (schedule : List ι) : List (ι × κ) :=
  Trace.recorded step committing [] w schedule

/-- What holds of a desk and the writes that were committed at it. -/
structure Sound (c : ι → Call key) (rows : List α) (h : List (ι × κ)) (w : Desk ι α κ) : Prop where
  unique : (w.committed.map key).Nodup
  under : ∀ i, At (c i) w.committed (w.sessions i)
  exclusive : Exclusive w
  replayed : ∀ k, Rows.find key w.committed k = (Rows.find key rows k).bind (replay c h k)

section
variable {c : ι → Call key} {rows : List α} {h : List (ι × κ)} {w : Desk ι α κ} {i : ι}

omit [DecidableEq ι] [Fintype ι] in
theorem sound_start (c : ι → Call key) (unique : (rows.map key).Nodup) :
    Sound c rows [] (start (fun i => (c i).statements) rows) where
  unique := unique
  under _ := .fresh rfl rfl rfl rfl
  exclusive := exclusive_start _ _
  replayed k := by
    show Rows.find key rows k = _
    cases Rows.find key rows k <;> rfl

/-- A commit leaves the rows that its call has not written, and makes of the others what the call
made of them. -/
theorem find_commit {done : List α}
    (progress : Progress (c i) w.committed (w.sessions i) done done [])
    (committed : (step w i).committed = (c i).overlay done w.committed) (k : κ) :
    Rows.find key (step w i).committed k =
      if k ∈ (c i).locked done then (Rows.find key w.committed k).bind (c i).change
      else Rows.find key w.committed k := by
  rw [committed]
  split
  · rename_i held
    obtain ⟨row, listed, changed, rfl⟩ := mem_locked.mp held
    obtain ⟨new, is⟩ := Option.isSome_iff_exists.mp changed
    have current := progress.held row listed changed
    rw [find_overlay_locked progress.distinct_taken listed is current, current, Option.bind_some,
      is]
  · rename_i free
    exact find_overlay_other free

theorem sound_step (sound : Sound c rows h w) (undisturbed : Undisturbed c w i) :
    Sound c rows (committing w i ++ h) (step w i) := by
  have exclusive := exclusive_step sound.exclusive i
  cases (sound.under i).stepped sound.unique undisturbed.1 with
  | goesOn same quiet at_ taken underway =>
    refine ⟨by rw [same]; exact sound.unique, fun j => ?_, exclusive, fun k => ?_⟩
    · rw [same]
      by_cases here : j = i
      · subst here
        exact at_
      · rw [step_other w here]
        exact sound.under j
    · rw [same, quiet]
      exact sound.replayed k
  | commits done progress committed written at_ taken =>
    have found := find_commit progress committed
    refine ⟨?_, fun j => ?_, exclusive, fun k => ?_⟩
    · rw [committed, keys_overlay]
      exact sound.unique
    · by_cases here : j = i
      · subst here
        exact at_
      · rw [step_other w here]
        refine (sound.under j).kept fun k held => ?_
        have free : k ∉ (c i).locked done := by
          rw [← progress.locks]
          exact fun mine => sound.exclusive i j here k mine held
        rw [found, if_neg free]
    · rw [found, written, sound.replayed]
      cases Rows.find key rows k with
      | none => split <;> rfl
      | some row =>
        simp only [Option.bind_some, replay_append (nodup_locked progress.distinct_taken)]

end

/-- A number of the rows that no change lowers, and that is raised by the ones for which something
was sent. -/
structure Counts [Preorder ν] (number : α → ν) (c : Call key) : Prop where
  kept : ∀ row new, c.change row = some new → number row ≤ number new
  raised : ∀ row new, c.change row = some new → c.sends row = true → number row < number new

def sentAs (number : α → ν) (c : Call key) (session : Run α κ) : List (κ × ν) :=
  (c.sent session).map fun row => (key row, number row)

def timesSent [DecidableEq ν] (number : α → ν) (c : ι → Call key) (w : Desk ι α κ) (k : κ) (n : ν) :
    Nat :=
  ∑ i, (sentAs number (c i) (w.sessions i)).count (k, n)

/-- What a call has sent is written down when it has ended, and no other call has sent the same. -/
structure Apart [Preorder ν] (number : α → ν) (c : ι → Call key) (w : Desk ι α κ) : Prop where
  noted : ∀ i, (w.sessions i).answer.isSome = true → ∀ row ∈ (c i).sent (w.sessions i),
    ∃ now, Rows.find key w.committed (key row) = some now ∧ number row < number now
  once : ∀ i j, i ≠ j → ∀ row ∈ (c i).sent (w.sessions i), ∀ row' ∈ (c j).sent (w.sessions j),
    key row = key row' → number row ≠ number row'

section
variable {c : ι → Call key} {rows : List α} {h : List (ι × κ)} {w : Desk ι α κ} {i : ι}

omit [Fintype ι] [DecidableEq ι] in
theorem apart_start [Preorder ν] (number : α → ν) (c : ι → Call key) (rows : List α) :
    Apart number c (start (fun i => (c i).statements) rows) where
  noted _ ended := by cases ended
  once _ _ _ _ listed := by cases listed

omit [DecidableEq ι] [Fintype ι] in
theorem not_sent [Preorder ν] (apart : Apart number c w) (undisturbed : Undisturbed c w i)
    {row row' : α} (next : row ∈ (c i).next (w.sessions i)) (sends : (c i).sends row = true) {j : ι}
    (other : j ≠ i) (sent : row' ∈ (c j).sent (w.sessions j)) (same : key row' = key row) :
    number row' < number row := by
  obtain ⟨current, idle⟩ := undisturbed.2 row next sends
  by_cases ended : (w.sessions j).answer.isSome = true
  · obtain ⟨now, found, less⟩ := apart.noted j ended row' sent
    rw [same, current] at found
    exact Option.some.inj found ▸ less
  · refine absurd ?_ (idle j other)
    rw [Call.pending, if_neg ended, ← same]
    exact mem_map_of_mem sent

theorem apart_goesOn [Preorder ν] (apart : Apart number c w) (undisturbed : Undisturbed c w i)
    (same : (step w i).committed = w.committed)
    (taken : (c i).taken ((step w i).sessions i) = (c i).taken (w.sessions i) ∨
      ∃ row ∈ (c i).next (w.sessions i),
        (c i).taken ((step w i).sessions i) = row :: (c i).taken (w.sessions i))
    (underway : ((step w i).sessions i).answer = none ∨ step w i = w) :
    Apart number c (step w i) := by
  have grown : ∀ row ∈ (c i).sent ((step w i).sessions i), row ∈ (c i).sent (w.sessions i) ∨
      row ∈ (c i).next (w.sessions i) ∧ (c i).sends row = true := by
    intro row sent
    obtain ⟨listed, sends⟩ := mem_filter.mp sent
    rcases taken with taken | ⟨next, reads, taken⟩
    · rw [taken] at listed
      exact .inl (mem_filter.mpr ⟨listed, sends⟩)
    · rw [taken] at listed
      rcases mem_cons.mp listed with rfl | before
      · exact .inr ⟨reads, sends⟩
      · exact .inl (mem_filter.mpr ⟨before, sends⟩)
  constructor
  · intro j ended row sent
    rw [same]
    by_cases here : j = i
    · subst here
      rcases underway with open_ | stays
      · rw [open_] at ended
        cases ended
      · rw [stays] at ended sent
        exact apart.noted j ended row sent
    · rw [step_other w here] at ended sent
      exact apart.noted j ended row sent
  · intro j l distinct row sent row' sent' equal
    by_cases left : j = i
    · subst left
      rw [step_other w (Ne.symm distinct)] at sent'
      rcases grown row sent with before | ⟨next, sends⟩
      · exact apart.once j l distinct row before row' sent' equal
      · exact (not_sent apart undisturbed next sends (Ne.symm distinct) sent' equal.symm).ne'
    · rw [step_other w left] at sent
      by_cases right : l = i
      · subst right
        rcases grown row' sent' with before | ⟨next, sends⟩
        · exact apart.once j l distinct row sent row' before equal
        · exact (not_sent apart undisturbed next sends left sent equal).ne
      · rw [step_other w right] at sent'
        exact apart.once j l distinct row sent row' sent' equal

theorem noted_commits [Preorder ν] (counts : Counts number (c i)) (apart : Apart number c w)
    {done : List α} (progress : Progress (c i) w.committed (w.sessions i) done done [])
    (committed : (step w i).committed = (c i).overlay done w.committed) (j : ι)
    (ended : ((step w i).sessions j).answer.isSome = true) (row : α)
    (sent : row ∈ (c j).sent (w.sessions j)) :
    ∃ now, Rows.find key (step w i).committed (key row) = some now ∧ number row < number now := by
  have found := find_commit progress committed (key row)
  by_cases here : j = i
  · subst here
    rw [Call.sent, progress.taken_eq] at sent
    obtain ⟨listed, sends⟩ := mem_filter.mp sent
    have changed := (c j).noted row sends
    obtain ⟨new, is⟩ := Option.isSome_iff_exists.mp changed
    refine ⟨new, ?_, counts.raised row new is sends⟩
    rw [found, if_pos (mem_locked.mpr ⟨row, listed, changed, rfl⟩),
      progress.held row listed changed, Option.bind_some, is]
  · rw [step_other w here] at ended
    obtain ⟨now, stored, less⟩ := apart.noted j ended row sent
    rw [found]
    split
    · rename_i held
      obtain ⟨read, listed, changed, same⟩ := mem_locked.mp held
      have current := progress.held read listed changed
      rw [same, stored] at current
      obtain rfl := Option.some.inj current
      obtain ⟨new, is⟩ := Option.isSome_iff_exists.mp changed
      exact ⟨new, by rw [stored, Option.bind_some, is],
        lt_of_lt_of_le less (counts.kept now new is)⟩
    · exact ⟨now, stored, less⟩

theorem apart_step [Preorder ν] (counts : ∀ i, Counts number (c i)) (sound : Sound c rows h w)
    (apart : Apart number c w) (undisturbed : Undisturbed c w i) : Apart number c (step w i) := by
  cases (sound.under i).stepped sound.unique undisturbed.1 with
  | goesOn same quiet at_ taken underway => exact apart_goesOn apart undisturbed same taken underway
  | commits done progress committed written at_ taken =>
    have kept : ∀ j, (c j).sent ((step w i).sessions j) = (c j).sent (w.sessions j) := by
      intro j
      by_cases here : j = i
      · subst here
        rw [Call.sent, taken, Call.sent, progress.taken_eq]
      · rw [step_other w here]
    refine ⟨fun j ended row sent => ?_, fun j l distinct row sent row' sent' => ?_⟩
    · rw [kept j] at sent
      exact noted_commits (counts i) apart progress committed j ended row sent
    · rw [kept j] at sent
      rw [kept l] at sent'
      exact apart.once j l distinct row sent row' sent'

end

omit [DecidableEq ι] in
theorem sent_once [DecidableEq ν] [Preorder ν] {c : ι → Call key} {rows : List α} {h : List (ι × κ)}
    {w : Desk ι α κ} (sound : Sound c rows h w) (apart : Apart number c w) (k : κ) (n : ν) :
    timesSent number c w k n ≤ 1 := by
  have own : ∀ i, (sentAs number (c i) (w.sessions i)).count (k, n) ≤ 1 := by
    intro i
    refine nodup_iff_count_le_one.mp ?_ _
    have keys : (((c i).sent (w.sessions i)).map key).Nodup :=
      (filter_sublist.map key).nodup (sound.under i).distinct
    refine List.Nodup.of_map Prod.fst ?_
    rw [sentAs, map_map]
    exact keys
  by_cases some : ∃ i, (k, n) ∈ sentAs number (c i) (w.sessions i)
  · obtain ⟨i, sent⟩ := some
    have others : ∀ j ∈ Finset.univ, j ≠ i →
        (sentAs number (c j) (w.sessions j)).count (k, n) = 0 := by
      intro j _ other
      refine count_eq_zero.mpr fun sent' => ?_
      obtain ⟨row, listed, is⟩ := mem_map.mp sent
      obtain ⟨row', listed', is'⟩ := mem_map.mp sent'
      obtain ⟨same, number_eq⟩ := Prod.mk.inj (is'.trans is.symm)
      exact apart.once j i other row' listed' row listed same number_eq
    rw [timesSent, Finset.sum_eq_single i others fun none => absurd (Finset.mem_univ i) none]
    exact own i
  · have none : timesSent number c w k n = 0 :=
      Finset.sum_eq_zero fun i _ => count_eq_zero.mpr fun sent => some ⟨i, sent⟩
    rw [none]
    exact Nat.zero_le 1

/-- In a run that disturbs no call, nothing is sent twice under a number, and the rows are what the
committed writes make of the first ones, one after another. -/
theorem run_undisturbed [DecidableEq ν] [Preorder ν] {c : ι → Call key}
    (counts : ∀ i, Counts number (c i)) {rows : List α} (unique : (rows.map key).Nodup)
    {schedule : List ι}
    (along : Trace.Along step (Undisturbed c) (start (fun i => (c i).statements) rows) schedule) :
    let first := start (fun i => (c i).statements) rows
    (∀ k n, timesSent number c (Trace.run step first schedule) k n ≤ 1) ∧
      ∀ k, Rows.find key (Trace.run step first schedule).committed k =
        (Rows.find key rows k).bind (replay c (committedWrites first schedule) k) := by
  have keeps : ∀ (h : List (ι × κ)) (w : Desk ι α κ) (i : ι),
      (Sound c rows h w ∧ Apart number c w) → Undisturbed c w i →
        Sound c rows (committing w i ++ h) (step w i) ∧ Apart number c (step w i) :=
    fun h w i kept undisturbed =>
      ⟨sound_step kept.1 undisturbed, apart_step counts kept.1 kept.2 undisturbed⟩
  obtain ⟨sound, apart⟩ := Trace.run_recorded_along keeps
    ⟨sound_start c unique, apart_start number c rows⟩ along
  exact ⟨sent_once sound apart, sound.replayed⟩

end Exetron.Lib.WriteBack
