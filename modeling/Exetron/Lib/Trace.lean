import Mathlib.Data.List.Basic

/-!
# Runs of a step function

`run step s es` is the state after the events `es`. `Along C s es` says that every step of
the run meets `C` in the state it starts from; an invariant that such steps keep holds at
the end of every such run, and so in every state of it.
-/

namespace Exetron.Lib.Trace

variable {σ ε α : Type} {step : σ → ε → σ} {C D : σ → ε → Prop} {Inv P : σ → Prop}

def run (step : σ → ε → σ) : σ → List ε → σ
  | s, [] => s
  | s, e :: es => run step (step s e) es

/-- Every step of the run meets `C` in the state it starts from. -/
def Along (step : σ → ε → σ) (C : σ → ε → Prop) : σ → List ε → Prop
  | _, [] => True
  | s, e :: es => C s e ∧ Along step C (step s e) es

/-- The record `h` with what the steps of a run add to it, latest first. -/
def recorded (step : σ → ε → σ) (out : σ → ε → List α) : List α → σ → List ε → List α
  | h, _, [] => h
  | h, s, e :: es => recorded step out (out s e ++ h) (step s e) es

instance decidableAlong [∀ s e, Decidable (C s e)] : (s : σ) → (es : List ε) →
    Decidable (Along step C s es)
  | _, [] => isTrue trivial
  | s, e :: es => @instDecidableAnd _ _ _ (decidableAlong (step s e) es)

theorem run_append (s : σ) (es fs : List ε) :
    run step s (es ++ fs) = run step (run step s es) fs := by
  induction es generalizing s with
  | nil => rfl
  | cons e es ih => exact ih (step s e)

theorem along_append {s : σ} {es fs : List ε} :
    Along step C s (es ++ fs) ↔ Along step C s es ∧ Along step C (run step s es) fs := by
  induction es generalizing s with
  | nil => simp [Along, run]
  | cons e es ih => simp only [List.cons_append, Along, run, ih, and_assoc]

theorem along_mono (weaker : ∀ s e, C s e → D s e) {s : σ} {es : List ε} (h : Along step C s es) :
    Along step D s es := by
  induction es generalizing s with
  | nil => trivial
  | cons e es ih => exact ⟨weaker s e h.1, ih h.2⟩

theorem along_of_forall {p : ε → Prop} {es : List ε} (h : ∀ e ∈ es, p e) (s : σ) :
    Along step (fun _ e => p e) s es := by
  induction es generalizing s with
  | nil => trivial
  | cons e es ih =>
    exact ⟨h e List.mem_cons_self, ih (fun e' listed => h e' (List.mem_cons_of_mem e listed)) _⟩

theorem along_true (s : σ) (es : List ε) : Along step (fun _ _ => True) s es := by
  induction es generalizing s with
  | nil => trivial
  | cons e es ih => exact ⟨trivial, ih (step s e)⟩

theorem run_invariant (keeps : ∀ s e, Inv s → C s e → Inv (step s e)) {s : σ} {es : List ε}
    (init : Inv s) (along : Along step C s es) : Inv (run step s es) := by
  induction es generalizing s with
  | nil => exact init
  | cons e es ih => exact ih (keeps s e init along.1) along.2

theorem along_and {s : σ} {es : List ε} (first : Along step C s es) (second : Along step D s es) :
    Along step (fun s e => C s e ∧ D s e) s es := by
  induction es generalizing s with
  | nil => trivial
  | cons e es ih => exact ⟨⟨first.1, second.1⟩, ih first.2 second.2⟩

theorem along_congr (keeps : ∀ s e, Inv s → Inv (step s e)) (same : ∀ s e, Inv s → (C s e ↔ D s e))
    {s : σ} (init : Inv s) (es : List ε) : Along step C s es ↔ Along step D s es := by
  induction es generalizing s with
  | nil => exact Iff.rfl
  | cons e es ih => exact and_congr (same s e init) (ih (keeps s e init))

theorem run_always (keeps : ∀ s e, Inv s → Inv (step s e)) {s : σ} (init : Inv s) (es : List ε) :
    Inv (run step s es) := by
  induction es generalizing s with
  | nil => exact init
  | cons e es ih => exact ih (keeps s e init)

/-- A property of the states with the invariant that no step off `C` leaves behind holds all along
a run of events with `D` just when the run is along `C`. -/
theorem always_iff_along_of {D : ε → Prop} (holds : ∀ s, Inv s → P s)
    (keeps : ∀ s e, Inv s → D e → C s e → Inv (step s e))
    (needs : ∀ s e, Inv s → D e → P (step s e) → C s e) {s : σ} (init : Inv s) {es : List ε}
    (all : ∀ e ∈ es, D e) :
    (∀ before, before <+: es → P (run step s before)) ↔ Along step C s es := by
  induction es generalizing s with
  | nil => exact ⟨fun _ => trivial, fun _ before prior => by
      rw [List.prefix_nil.mp prior]
      exact holds s init⟩
  | cons e es ih =>
    have first := all e List.mem_cons_self
    have rest : ∀ e' ∈ es, D e' := fun e' listed => all e' (List.mem_cons_of_mem e listed)
    constructor
    · intro always
      have meets : C s e := needs s e init first (always [e] ⟨es, rfl⟩)
      refine ⟨meets, (ih (keeps s e init first meets) rest).mp fun before prior => ?_⟩
      exact always (e :: before) (List.cons_prefix_cons.mpr ⟨rfl, prior⟩)
    · intro along before prior
      cases before with
      | nil => exact holds s init
      | cons e' before =>
        obtain ⟨rfl, earlier⟩ := List.cons_prefix_cons.mp prior
        exact (ih (keeps s e' init first along.1) rest).mpr along.2 before earlier

theorem always_iff_along (holds : ∀ s, Inv s → P s) (keeps : ∀ s e, Inv s → C s e → Inv (step s e))
    (needs : ∀ s e, Inv s → P (step s e) → C s e) {s : σ} (init : Inv s) (es : List ε) :
    (∀ before, before <+: es → P (run step s before)) ↔ Along step C s es :=
  always_iff_along_of (D := fun _ => True) holds (fun s e inv _ => keeps s e inv)
    (fun s e inv _ => needs s e inv) init fun _ _ => trivial

theorem run_filter {p : ε → Bool} (keeps : ∀ s e, Inv s → Inv (step s e))
    (inert : ∀ s e, Inv s → p e = false → step s e = s) {s : σ} (init : Inv s) (es : List ε) :
    run step s (es.filter p) = run step s es := by
  induction es generalizing s with
  | nil => rfl
  | cons e es ih =>
    cases kept : p e with
    | true =>
      rw [List.filter_cons_of_pos kept]
      exact ih (keeps s e init)
    | false =>
      rw [List.filter_cons_of_neg (by simp [kept]), run, inert s e init kept]
      exact ih init

theorem run_filter_simulated {S : σ → σ → Prop} {p : ε → Bool}
    (dropped : ∀ s t e, S s t → C s e → p e = false → S (step s e) t)
    (kept : ∀ s t e, S s t → C s e → p e = true → S (step s e) (step t e)) {s t : σ} {es : List ε}
    (start : S s t) (along : Along step C s es) : S (run step s es) (run step t (es.filter p)) := by
  induction es generalizing s t with
  | nil => exact start
  | cons e es ih =>
    cases seen : p e with
    | true =>
      rw [List.filter_cons_of_pos seen]
      exact ih (kept s t e start along.1 seen) along.2
    | false =>
      rw [List.filter_cons_of_neg (by simp [seen])]
      exact ih (dropped s t e start along.1 seen) along.2

/-- What the steps that meet `C` keep of a record and its state holds of them after every run along
`C`. -/
theorem run_recorded_along {out : σ → ε → List α} {Q : List α → σ → Prop}
    (extend : ∀ h s e, Q h s → C s e → Q (out s e ++ h) (step s e)) {h : List α} {s : σ}
    (start : Q h s) {es : List ε} (along : Along step C s es) :
    Q (recorded step out h s es) (run step s es) := by
  induction es generalizing h s with
  | nil => exact start
  | cons e es ih => exact ih (extend h s e start along.1) along.2

theorem run_recorded {out : σ → ε → List α} {Q : List α → σ → Prop}
    (extend : ∀ h s e, Q h s → Q (out s e ++ h) (step s e)) {h : List α} {s : σ} (start : Q h s)
    (es : List ε) : Q (recorded step out h s es) (run step s es) :=
  run_recorded_along (C := fun _ _ => True) (fun h s e kept _ => extend h s e kept) start
    (along_true s es)

theorem along_prefix {s : σ} {es fs : List ε} (prior : es <+: fs) (along : Along step C s fs) :
    Along step C s es := by
  obtain ⟨rest, rfl⟩ := prior
  exact (along_append.mp along).1

theorem run_related {R : σ → σ → Prop} (refl : ∀ s, R s s) (trans : ∀ s t u, R s t → R t u → R s u)
    (keeps : ∀ s e, Inv s → Inv (step s e)) (moves : ∀ s e, Inv s → C s e → R s (step s e))
    {s : σ} {es : List ε} (init : Inv s) (along : Along step C s es) : R s (run step s es) := by
  induction es generalizing s with
  | nil => exact refl s
  | cons e es ih => exact trans _ _ _ (moves s e init along.1) (ih (keeps s e init) along.2)

/-- The state `t` is reached from `s` by events that meet `C`. -/
def Path (step : σ → ε → σ) (C : σ → ε → Prop) (s t : σ) : Prop :=
  ∃ es, Along step C s es ∧ run step s es = t

theorem path_refl (s : σ) : Path step C s s := ⟨[], trivial, rfl⟩

theorem path_single {s : σ} {e : ε} (h : C s e) : Path step C s (step s e) :=
  ⟨[e], ⟨h, trivial⟩, rfl⟩

theorem path_trans {s t u : σ} (hst : Path step C s t) (htu : Path step C t u) :
    Path step C s u := by
  obtain ⟨es, along, rfl⟩ := hst
  obtain ⟨fs, along', rfl⟩ := htu
  exact ⟨es ++ fs, along_append.mpr ⟨along, along'⟩, run_append s es fs⟩

theorem path_mono (weaker : ∀ s e, C s e → D s e) {s t : σ} (h : Path step C s t) :
    Path step D s t := by
  obtain ⟨es, along, rfl⟩ := h
  exact ⟨es, along_mono weaker along, rfl⟩

theorem path_invariant (keeps : ∀ s e, Inv s → C s e → Inv (step s e)) {s t : σ}
    (h : Path step C s t) (init : Inv s) : Inv t := by
  obtain ⟨es, along, rfl⟩ := h
  exact run_invariant keeps init along

end Exetron.Lib.Trace
