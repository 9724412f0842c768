import Exetron.Lib.Trace
import Exetron.Mobile.App
import Mathlib.Data.List.Nodup

/-!
# The queue of unsubmitted orders

An order leaves the queue only when it is submitted to the end. A sync that an API error ends
early keeps the whole queue, so it forgets what it has submitted; and a lost answer looks like a
lost request, so an order may be queued although the server has taken its checkout.
-/

namespace Exetron.Mobile

open Lib Lib.Trace List

variable {sessionId : Id} {nets : Nat → Network} {s t : App} {pass : List (Draft × Network)}

section Submission

variable (draft : Draft) (bySync : Bool) (net : Network) (payload : PendingPosOrder)

@[simp] theorem submission_draft : (submission draft bySync net payload).draft = draft := rfl

@[simp] theorem submission_bySync : (submission draft bySync net payload).bySync = bySync := rfl

@[simp] theorem submission_ending :
    (submission draft bySync net payload).ending = net.fate payload.items.length :=
  submitPosOrder_ending net payload []

@[simp] theorem submission_reachedCheckout : (submission draft bySync net payload).reachedCheckout =
      net.takesCheckout payload.items.length :=
  (submitPosOrder_reached net payload []).trans (Bool.false_or _)

end Submission

@[simp] theorem pass_drafts (s : App) (nets : Nat → Network) :
    (s.pass nets).map Prod.fst = s.pendingQueue := by
  unfold App.pass
  rw [map_map]
  exact zipIdx_map_fst 0 s.pendingQueue

def Submission.isLost (submission : Submission) : Bool := submission.ending = .lost

theorem ending_of_result {submission : Submission} {result : Except Failure Submitted}
    (h : submission.result = result) : submission.ending = endingOf result := by
  unfold Submission.ending
  rw [h]

theorem fate_of_result {queuedOrder : Draft} {net : Network} {result : Except Failure Submitted}
    (h : (submission queuedOrder true net { queuedOrder.order with sessionId }).result = result) :
    net.fate queuedOrder.order.items.length = endingOf result := by
  rw [← ending_of_result h, submission_ending]

theorem syncLoop_bySync (sessionId : Id) (pass : List (Draft × Network)) :
    ∀ submission ∈ (syncLoop sessionId pass).submissions, submission.bySync = true := by
  fun_induction syncLoop sessionId pass with
  | case1 => simp
  | case2 queuedOrder net rest submitted _ _ pass ih => simpa [submitted] using ih
  | case3 queuedOrder net rest submitted _ _ pass ih => simpa [submitted] using ih
  | case4 queuedOrder net rest submitted => simp [submitted]

theorem syncLoop_drafts (sessionId : Id) (pass : List (Draft × Network)) :
    (syncLoop sessionId pass).submissions.map Submission.draft <+: pass.map Prod.fst := by
  fun_induction syncLoop sessionId pass with
  | case1 => exact prefix_rfl
  | case2 queuedOrder net rest submitted _ _ pass ih => simpa [submitted] using ih
  | case3 queuedOrder net rest submitted _ _ pass ih => simpa [submitted] using ih
  | case4 queuedOrder net rest submitted => simp [submitted]

theorem syncLoop_whole (whole : (syncLoop sessionId pass).thrown = none) :
    (syncLoop sessionId pass).submissions.map Submission.draft = pass.map Prod.fst := by
  fun_induction syncLoop sessionId pass with
  | case1 => rfl
  | case2 queuedOrder net rest submitted _ _ pass ih => simpa [submitted] using ih whole
  | case3 queuedOrder net rest submitted _ _ pass ih => simpa [submitted] using ih whole
  | case4 => cases whole

theorem syncLoop_remaining (whole : (syncLoop sessionId pass).thrown = none) :
    (syncLoop sessionId pass).remaining =
      ((syncLoop sessionId pass).submissions.filter Submission.isLost).map Submission.draft := by
  fun_induction syncLoop sessionId pass with
  | case1 => rfl
  | case2 queuedOrder net rest submitted _ h pass ih =>
    have completed : submitted.isLost = false := by
      simp [Submission.isLost, ending_of_result h, endingOf]
    simpa [completed] using ih whole
  | case3 queuedOrder net rest submitted _ h pass ih =>
    have lost : submitted.isLost = true := by
      simp [Submission.isLost, ending_of_result h, endingOf]
    simpa [lost, submitted] using ih whole
  | case4 => cases whole

theorem syncLoop_completed (whole : (syncLoop sessionId pass).thrown = none) :
    ∀ submission ∈ (syncLoop sessionId pass).submissions,
      submission.isLost = true ∨ submission.ending = .answered := by
  fun_induction syncLoop sessionId pass with
  | case1 => simp
  | case2 queuedOrder net rest submitted _ h pass ih =>
    have completed := ending_of_result h
    exact forall_mem_cons.mpr ⟨.inr completed, ih whole⟩
  | case3 queuedOrder net rest submitted _ h pass ih =>
    have lost : submitted.isLost = true := by
      simp [Submission.isLost, ending_of_result h, endingOf]
    exact forall_mem_cons.mpr ⟨.inl lost, ih whole⟩
  | case4 => cases whole

/-- Every API error comes before an order of the pass has reached checkout, and every lost
request before the checkout of its own order. `taken`: an earlier order has reached checkout. -/
def passIsClean (taken : Bool) : List (Draft × Network) → Bool
  | [] => true
  | (queuedOrder, net) :: rest =>
    let takes := net.takesCheckout queuedOrder.order.items.length
    match net.fate queuedOrder.order.items.length with
    | .answered => passIsClean (taken || takes) rest
    | .lost => !takes && passIsClean taken rest
    | .refused => !takes && !taken

theorem passIsClean_iff (sessionId : Id) (pass : List (Draft × Network)) (taken : Bool) :
    passIsClean taken pass = true ↔
      match (syncLoop sessionId pass).thrown with
      | none => ∀ submission ∈ (syncLoop sessionId pass).submissions,
          submission.isLost = true → submission.reachedCheckout = false
      | some _ => taken = false ∧ ∀ submission ∈ (syncLoop sessionId pass).submissions,
          submission.reachedCheckout = false := by
  fun_induction syncLoop sessionId pass generalizing taken with
  | case1 => simp [passIsClean]
  | case2 queuedOrder net rest submitted _ h pass ih =>
    have fate : net.fate queuedOrder.order.items.length = .answered := fate_of_result h
    have completed : submitted.isLost = false := by
      simp [Submission.isLost, ending_of_result h, endingOf]
    have reaches : submitted.reachedCheckout =
      net.takesCheckout queuedOrder.order.items.length := submission_reachedCheckout ..
    simp only [passIsClean, fate, ih, forall_mem_cons, completed, reaches, pass]
    cases (syncLoop sessionId rest).thrown with
    | none => simp
    | some error => simp [and_assoc]
  | case3 queuedOrder net rest submitted _ h pass ih =>
    have fate : net.fate queuedOrder.order.items.length = .lost := fate_of_result h
    have lost : submitted.isLost = true := by
      simp [Submission.isLost, ending_of_result h, endingOf]
    have reaches : submitted.reachedCheckout =
      net.takesCheckout queuedOrder.order.items.length := submission_reachedCheckout ..
    simp only [passIsClean, fate, Bool.and_eq_true, ih, forall_mem_cons, lost, reaches, pass]
    cases (syncLoop sessionId rest).thrown with
    | none => simp
    | some error => simp [and_left_comm]
  | case4 queuedOrder net rest submitted error h =>
    have fate : net.fate queuedOrder.order.items.length = .refused := fate_of_result h
    have reaches : submitted.reachedCheckout =
      net.takesCheckout queuedOrder.order.items.length := submission_reachedCheckout ..
    simp [passIsClean, fate, reaches, and_comm]

def Event.sync (s : App) : Event → Option (Id × (Nat → Network))
  | .syncPending nets => (s.syncSession s.bootstrap s.activeSession).map (·, nets)
  | .startPos replies nets =>
    if ¬s.signedIn ∨ s.form.selectedStore.isNone ∨ s.form.selectedDevice.isNone then none
    else
      match posStart replies with
      | .ok (_, nextSession) => some (nextSession, nets)
      | .error _ => none
  | _ => none

def Event.order (s : App) : Event → Option (Network × PendingPosOrder)
  | .submitOrder net now => (s.payload now).map (net, ·)
  | _ => none

structure Quiet (s t : App) : Prop where
  taps : t.taps = s.taps
  submissions : t.submissions = s.submissions
  queue : t.pendingQueue = s.pendingQueue
  stored : t.storage.queue = t.pendingQueue

structure Synced (sessionId : Id) (nets : Nat → Network) (s t : App) : Prop where
  taps : t.taps = s.taps
  submissions : t.submissions = s.submissions ++ (syncLoop sessionId (s.pass nets)).submissions
  queue : t.pendingQueue =
    match (syncLoop sessionId (s.pass nets)).thrown with
    | none => (syncLoop sessionId (s.pass nets)).remaining
    | some _ => s.pendingQueue
  stored : t.storage.queue = t.pendingQueue

structure SubmittedBy (net : Network) (payload : PendingPosOrder) (s t : App) : Prop where
  taps : t.taps = s.taps + 1
  submissions : t.submissions = s.submissions ++ [submission ⟨s.taps, payload⟩ false net payload]
  queue : t.pendingQueue = s.pendingQueue ++
    if net.fate payload.items.length = .lost then [⟨s.taps, payload⟩] else []
  stored : t.storage.queue = t.pendingQueue

/-- Everything an event can do to the queue and to the history. -/
inductive Moves (s t : App) (e : Event) : Prop where
  | quiet (sync : e.sync s = none) (order : e.order s = none) (h : Quiet s t)
  | synced {sessionId : Id} {nets : Nat → Network} (sync : e.sync s = some (sessionId, nets))
    (order : e.order s = none) (h : Synced sessionId nets s t)
  | submitted {net : Network} {payload : PendingPosOrder} (sync : e.sync s = none)
    (order : e.order s = some (net, payload)) (h : SubmittedBy net payload s t)

theorem synced_empty (empty : s.pendingQueue = []) (quiet : Quiet s t) :
    Synced sessionId nets s t := by
  have nothing : s.pass nets = [] := by simp [App.pass, empty]
  refine ⟨quiet.taps, ?_, ?_, quiet.stored⟩
  · rw [quiet.submissions, nothing]
    exact (append_nil _).symm
  · rw [quiet.queue, nothing]
    exact empty

theorem Quiet.synced {u : App} (quiet : Quiet s u) (synced : Synced sessionId nets u t) :
    Synced sessionId nets s t := by
  have pass : u.pass nets = s.pass nets := by simp only [App.pass, quiet.queue]
  refine ⟨synced.taps.trans quiet.taps, ?_, ?_, synced.stored⟩
  · rw [synced.submissions, quiet.submissions, pass]
  · rw [synced.queue, quiet.queue, pass]

theorem handleSyncPending_synced {cachedBootstrap : Option PosBootstrap} {active : Option Id}
    (stored : s.storage.queue = s.pendingQueue)
    (admitted : s.syncSession cachedBootstrap active = some sessionId) :
    Synced sessionId nets s (handleSyncPending nets cachedBootstrap active s) := by
  unfold handleSyncPending
  simp only [admitted]
  split
  · exact synced_empty ‹_› ⟨rfl, rfl, rfl, stored⟩
  · cases thrown : (syncLoop sessionId (s.pass nets)).thrown with
    | none => exact ⟨rfl, rfl, by rw [thrown], rfl⟩
    | some error => exact ⟨rfl, rfl, by rw [thrown], stored⟩

theorem handleSubmitOrder_submitted {net : Network} {now : Instant} {payload : PendingPosOrder}
    (stored : s.storage.queue = s.pendingQueue) (form : s.payload now = some payload) :
    SubmittedBy net payload s (handleSubmitOrder net now s) := by
  have fate := submission_ending ⟨s.taps, payload⟩ false net payload
  unfold handleSubmitOrder
  simp only [form]
  split
  · rename_i result
    rw [ending_of_result result] at fate
    refine ⟨rfl, rfl, ?_, stored⟩
    simp [← fate, endingOf]
  · rename_i result
    rw [ending_of_result result] at fate
    refine ⟨rfl, rfl, ?_, stored⟩
    simp [← fate, endingOf]
  · rename_i result
    rw [ending_of_result result] at fate
    refine ⟨rfl, rfl, ?_, rfl⟩
    simp [← fate, endingOf]

theorem handleStartPos_moves (replies : StartReplies) (nets : Nat → Network)
    (stored : s.storage.queue = s.pendingQueue) :
    Moves s (handleStartPos replies nets s) (.startPos replies nets) := by
  unfold handleStartPos
  split
  · refine .quiet ?_ rfl ⟨rfl, rfl, rfl, stored⟩
    exact if_pos ‹_›
  · rename_i ready
    have begins : (Event.startPos replies nets).sync s = match posStart replies with
        | .ok (_, nextSession) => some (nextSession, nets)
        | .error _ => none := if_neg ready
    cases started : posStart replies with
    | error failure =>
      refine .quiet ?_ rfl ⟨rfl, rfl, rfl, stored⟩
      rw [begins, started]
    | ok start =>
      obtain ⟨nextBootstrap, nextSession⟩ := start
      have signedIn : s.signedIn = true := by
        by_contra absent
        exact ready (.inl absent)
      rw [started] at begins
      refine .synced begins rfl ?_
      simp only
      split
      · refine Quiet.synced ?_ (handleSyncPending_synced stored ?_)
        · exact ⟨rfl, rfl, rfl, stored⟩
        · simpa [App.syncSession, App.signedIn] using signedIn
      · exact synced_empty (not_not.mp ‹_›) ⟨rfl, rfl, rfl, stored⟩

theorem step_moves (stored : s.storage.queue = s.pendingQueue) (e : Event) :
    Moves s (step s e) e := by
  cases e with
  | launch => exact .quiet rfl rfl ⟨rfl, rfl, stored, rfl⟩
  | login tokens me =>
    refine .quiet rfl rfl ?_
    show Quiet s (handleLogin tokens me s)
    unfold handleLogin
    split
    · exact ⟨rfl, rfl, rfl, stored⟩
    · exact ⟨rfl, rfl, rfl, stored⟩
  | edit form => exact .quiet rfl rfl ⟨rfl, rfl, rfl, stored⟩
  | startPos replies nets => exact handleStartPos_moves replies nets stored
  | syncPending nets =>
    cases admitted : s.syncSession s.bootstrap s.activeSession with
    | none =>
      refine .quiet (by simp [Event.sync, admitted]) rfl ?_
      simp only [step, handleSyncPending, admitted]
      exact ⟨rfl, rfl, rfl, stored⟩
    | some sessionId =>
      refine .synced ?_ rfl (handleSyncPending_synced stored admitted)
      simp only [Event.sync, admitted, Option.map_some]
  | submitOrder net now =>
    cases form : s.payload now with
    | none =>
      refine .quiet rfl (by simp [Event.order, form]) ?_
      simp only [step, handleSubmitOrder, form]
      exact ⟨rfl, rfl, rfl, stored⟩
    | some payload =>
      refine .submitted rfl ?_ (handleSubmitOrder_submitted stored form)
      simp only [Event.order, form, Option.map_some]

theorem Synced.sublist (h : Synced sessionId nets s t) : t.pendingQueue.Sublist s.pendingQueue := by
  rw [h.queue]
  cases thrown : (syncLoop sessionId (s.pass nets)).thrown with
  | none =>
    have all := syncLoop_whole thrown
    rw [pass_drafts] at all
    simp only [syncLoop_remaining thrown, ← all]
    exact filter_sublist.map _
  | some error => exact .refl _

theorem syncLoop_queued (s : App) (sessionId : Id) (nets : Nat → Network) :
    ((syncLoop sessionId (s.pass nets)).submissions.map Submission.draft).Sublist s.pendingQueue := by
  have first := syncLoop_drafts sessionId (s.pass nets)
  rw [pass_drafts] at first
  exact first.sublist

theorem Synced.keeps (h : Synced sessionId nets s t) {draft : Draft}
    (queued : draft ∈ s.pendingQueue) : (∃ again ∈ (syncLoop sessionId (s.pass nets)).submissions,
      again.draft = draft ∧ again.ending = .answered) ∨ draft ∈ t.pendingQueue := by
  rw [h.queue]
  cases thrown : (syncLoop sessionId (s.pass nets)).thrown with
  | none =>
    have all := syncLoop_whole thrown
    rw [pass_drafts] at all
    rw [← all] at queued
    obtain ⟨again, member, same⟩ := mem_map.mp queued
    rcases syncLoop_completed thrown again member with lost | completed
    · right
      simp only [syncLoop_remaining thrown]
      exact mem_map.mpr ⟨again, mem_filter.mpr ⟨member, lost⟩, same⟩
    · exact .inl ⟨again, member, same, completed⟩
  | some error => exact .inr queued

/-- The device has the queue of the app, and an order that was queued stays in it until a
submission of it is answered to the end. -/
structure Sound (s : App) : Prop where
  stored : s.storage.queue = s.pendingQueue
  distinct : (s.pendingQueue.map Draft.tap).Nodup
  older : ∀ draft ∈ s.pendingQueue, draft.tap < s.taps
  recorded : ∀ submission ∈ s.submissions, submission.draft.tap < s.taps
  kept : ∀ submission ∈ s.submissions, submission.bySync = false → submission.isLost = true →
    (∃ again ∈ s.submissions, again.draft = submission.draft ∧ again.ending = .answered) ∨
      submission.draft ∈ s.pendingQueue

theorem Quiet.sound (sound : Sound s) (h : Quiet s t) : Sound t where
  stored := h.stored
  distinct := by rw [h.queue]; exact sound.distinct
  older := by rw [h.queue, h.taps]; exact sound.older
  recorded := by rw [h.submissions, h.taps]; exact sound.recorded
  kept := by rw [h.submissions, h.queue]; exact sound.kept

theorem Synced.sound (sound : Sound s) (h : Synced sessionId nets s t) : Sound t where
  stored := h.stored
  distinct := sound.distinct.sublist (h.sublist.map _)
  older := by
    intro draft member
    rw [h.taps]
    exact sound.older draft (h.sublist.subset member)
  recorded := by
    intro submission member
    rw [h.submissions] at member
    rw [h.taps]
    rcases mem_append.mp member with old | new
    · exact sound.recorded submission old
    · exact sound.older _ ((syncLoop_queued s sessionId nets).subset (mem_map_of_mem new))
  kept := by
    intro submission member typed lost
    rw [h.submissions] at member ⊢
    rcases mem_append.mp member with old | new
    · rcases sound.kept submission old typed lost with ⟨again, present, done⟩ | queued
      · exact .inl ⟨again, mem_append_left _ present, done⟩
      · rcases h.keeps queued with ⟨again, present, done⟩ | still
        · exact .inl ⟨again, mem_append_right _ present, done⟩
        · exact .inr still
    · rw [syncLoop_bySync sessionId (s.pass nets) submission new] at typed
      cases typed

theorem SubmittedBy.sound {net : Network} {payload : PendingPosOrder} (sound : Sound s)
    (h : SubmittedBy net payload s t) : Sound t where
  stored := h.stored
  distinct := by
    rw [h.queue]
    split
    · rw [map_append, nodup_append]
      refine ⟨sound.distinct, nodup_cons.mpr ⟨not_mem_nil, nodup_nil⟩, ?_⟩
      intro tap member fresh new
      obtain ⟨draft, queued, rfl⟩ := mem_map.mp member
      rw [mem_singleton.mp new]
      exact Nat.ne_of_lt (sound.older draft queued)
    · simpa using sound.distinct
  older := by
    intro draft member
    rw [h.queue] at member
    rw [h.taps]
    rcases mem_append.mp member with queued | new
    · exact Nat.lt_succ_of_lt (sound.older draft queued)
    · split at new
      · rw [mem_singleton.mp new]
        exact Nat.lt_succ_self _
      · cases new
  recorded := by
    intro submission member
    rw [h.submissions] at member
    rw [h.taps]
    rcases mem_append.mp member with old | new
    · exact Nat.lt_succ_of_lt (sound.recorded submission old)
    · rw [mem_singleton.mp new]
      exact Nat.lt_succ_self _
  kept := by
    intro submission member typed lost
    rw [h.submissions] at member ⊢
    rw [h.queue]
    rcases mem_append.mp member with old | new
    · rcases sound.kept submission old typed lost with ⟨again, present, done⟩ | queued
      · exact .inl ⟨again, mem_append_left _ present, done⟩
      · exact .inr (mem_append_left _ queued)
    · right
      rw [mem_singleton.mp new] at lost ⊢
      have fate : net.fate payload.items.length = .lost := by simpa [Submission.isLost] using lost
      rw [if_pos fate]
      exact mem_append_right _ mem_cons_self

theorem step_sound (sound : Sound s) (e : Event) : Sound (step s e) := by
  cases step_moves sound.stored e with
  | quiet _ _ h => exact h.sound sound
  | synced _ _ h => exact h.sound sound
  | submitted _ _ h => exact h.sound sound

def NeverAgain (submissions : List Submission) : Prop :=
  submissions.Pairwise fun earlier later => earlier.draft.tap = later.draft.tap →
    later.bySync = true → earlier.reachedCheckout = false

instance (submissions : List Submission) : Decidable (NeverAgain submissions) :=
  inferInstanceAs (Decidable (List.Pairwise _ _))

/-- Every API error of a sync comes before an order of the pass has reached checkout, and every
lost request before its own order's checkout is carried out. -/
def isClean (s : App) (e : Event) : Bool :=
  (e.sync s).all (fun (_, nets) => passIsClean false (s.pass nets)) &&
    (e.order s).all fun (net, payload) =>
      net.takesCheckout payload.items.length → net.fate payload.items.length ≠ .lost

/-- No order of the queue has reached checkout. -/
structure Clean (s : App) : Prop where
  sound : Sound s
  waiting : ∀ submission ∈ s.submissions, submission.reachedCheckout = true →
    submission.draft.tap ∉ s.pendingQueue.map Draft.tap
  once : NeverAgain s.submissions

theorem Quiet.clean (clean : Clean s) (h : Quiet s t) : Clean t where
  sound := h.sound clean.sound
  waiting := by rw [h.submissions, h.queue]; exact clean.waiting
  once := by rw [h.submissions]; exact clean.once

theorem Sound.passDistinct (sound : Sound s) (sessionId : Id) (nets : Nat → Network) :
    ((syncLoop sessionId (s.pass nets)).submissions.map fun submission =>
      submission.draft.tap).Nodup := by
  have taps := sound.distinct.sublist ((syncLoop_queued s sessionId nets).map Draft.tap)
  rwa [map_map] at taps

theorem Synced.clean (clean : Clean s) (h : Synced sessionId nets s t)
    (pass : passIsClean false (s.pass nets) = true) : Clean t where
  sound := h.sound clean.sound
  waiting := by
    intro submission member reaches still
    rw [h.submissions] at member
    rcases mem_append.mp member with old | new
    · exact clean.waiting submission old reaches ((h.sublist.map Draft.tap).subset still)
    · obtain ⟨draft, queued, sameTap⟩ := mem_map.mp still
      have careful := (passIsClean_iff sessionId (s.pass nets) false).mp pass
      rw [h.queue] at queued
      cases thrown : (syncLoop sessionId (s.pass nets)).thrown with
      | none =>
        rw [thrown] at careful queued
        simp only [syncLoop_remaining thrown] at queued
        obtain ⟨again, present, rfl⟩ := mem_map.mp queued
        obtain ⟨present, lost⟩ := mem_filter.mp present
        have same := inj_on_of_nodup_map (clean.sound.passDistinct sessionId nets)
          present new sameTap
        rw [← same, careful again present lost] at reaches
        cases reaches
      | some error =>
        rw [thrown] at careful
        rw [careful.2 submission new] at reaches
        cases reaches
  once := by
    rw [h.submissions]
    refine pairwise_append.mpr ⟨clean.once, ?_, ?_⟩
    · have distinct := pairwise_map.mp (clean.sound.passDistinct sessionId nets)
      exact distinct.imp fun differ same => absurd same differ
    · intro earlier old later new sameTap _
      have queued := (syncLoop_queued s sessionId nets).subset (mem_map_of_mem new)
      by_contra reaches
      apply clean.waiting earlier old (by simpa using reaches)
      rw [sameTap]
      exact mem_map_of_mem queued

theorem SubmittedBy.clean {net : Network} {payload : PendingPosOrder} (clean : Clean s)
    (h : SubmittedBy net payload s t) (unlost : net.takesCheckout payload.items.length = true →
      net.fate payload.items.length ≠ .lost) : Clean t where
  sound := h.sound clean.sound
  waiting := by
    intro submission member reaches still
    rw [h.submissions] at member
    obtain ⟨draft, queued, sameTap⟩ := mem_map.mp still
    rw [h.queue] at queued
    rcases mem_append.mp member with old | new
    · rcases mem_append.mp queued with before | added
      · apply clean.waiting submission old reaches
        rw [← sameTap]
        exact mem_map_of_mem before
      · have older := clean.sound.recorded submission old
        split at added
        · rw [← sameTap, mem_singleton.mp added] at older
          exact absurd older (Nat.lt_irrefl _)
        · cases added
    · rw [mem_singleton.mp new] at reaches sameTap
      rcases mem_append.mp queued with before | added
      · have older := clean.sound.older draft before
        rw [sameTap] at older
        exact absurd older (Nat.lt_irrefl _)
      · rw [submission_reachedCheckout] at reaches
        rw [if_neg (unlost reaches)] at added
        cases added
  once := by
    rw [h.submissions]
    refine pairwise_append.mpr ⟨clean.once, pairwise_singleton _ _, ?_⟩
    intro earlier _ later new _ bySync
    rw [mem_singleton.mp new] at bySync
    cases bySync

theorem step_clean (clean : Clean s) {e : Event} (careful : isClean s e = true) :
    Clean (step s e) := by
  unfold isClean at careful
  cases step_moves clean.sound.stored e with
  | quiet _ _ h => exact h.clean clean
  | synced sync order h =>
    rw [sync, order] at careful
    exact h.clean clean (by simpa using careful)
  | submitted sync order h =>
    rw [sync, order] at careful
    have unlost := of_decide_eq_true ((Bool.and_eq_true _ _).mp careful).2
    exact h.clean clean unlost

def QueuedStay (s : App) : Prop :=
  ∀ submission ∈ s.submissions, submission.bySync = false → submission.ending = .lost →
    (∃ again ∈ s.submissions, again.draft = submission.draft ∧ again.ending = .answered) ∨
      submission.draft ∈ s.storage.queue

theorem Sound.queuedStay (sound : Sound s) : QueuedStay s := by
  intro submission member typed lost
  rw [sound.stored]
  exact sound.kept submission member typed (by simpa [Submission.isLost] using lost)

def installed : App := {}

theorem installed_clean : Clean installed where
  sound := ⟨rfl, nodup_nil, nofun, nofun, nofun⟩
  waiting := nofun
  once := List.Pairwise.nil

theorem sound_run (sound : Sound s) (es : List Event) : Sound (run step s es) := by
  have keeps : ∀ s e, Sound s → Sound (step s e) := fun _ e before => step_sound before e
  exact run_always keeps sound es

theorem clean_run (clean : Clean s) {es : List Event}
    (careful : Along step (fun s e => isClean s e = true) s es) : Clean (run step s es) := by
  have keeps : ∀ s e, Clean s → isClean s e = true → Clean (step s e) :=
    fun _ _ before => step_clean before
  exact run_invariant keeps clean careful

theorem queued_orders_stay (es : List Event) : QueuedStay (run step installed es) :=
  (sound_run installed_clean.sound es).queuedStay

/-- Along clean steps no order is submitted by a sync after it has reached checkout. -/
theorem clean_runs_submit_once {es : List Event}
    (careful : Along step (fun s e => isClean s e = true) installed es) :
    NeverAgain (run step installed es).submissions ∧ QueuedStay (run step installed es) :=
  ⟨(clean_run installed_clean careful).once, queued_orders_stay es⟩

def burger : CartLine := { productId := 7, variantId := none, quantity := 1, modifierOptionIds := [] }

/-- Every request is answered and the intent is paid. -/
def online : Network where
  createCart := .ok { id := 1 }
  addCartItem _ := .ok { id := 1 }
  checkoutCart := .ok { id := 1, total := "5.00" }
  createPaymentIntent := .ok
    { id := 1, status := .pending, totalAmount := "5.00"
      allocations := [{ id := 1, status := .pending, failureReason := none }] }
  processPaymentAllocation _ := .ok
    { id := 1, status := .completed, totalAmount := "5.00"
      allocations := [{ id := 1, status := .completed, failureReason := none }] }

/-- No request leaves the device. -/
def offline : Network where
  createCart := .lost "Network request failed" false
  addCartItem _ := .lost "Network request failed" false
  checkoutCart := .lost "Network request failed" false
  createPaymentIntent := .lost "Network request failed" false
  processPaymentAllocation _ := .lost "Network request failed" false

/-- The server refuses the item. -/
def soldOut : Network :=
  { online with addCartItem := fun _ => .refused 400 (some "Product is not available.") false }

def twoQueued : List Event :=
  let bootstrap := fun session => Reply.ok ⟨1, 1, session, session⟩
  let form : Form := { selectedStore := some 1, selectedDevice := some 1, cart := [burger] }
  [.login (.ok "token") (.ok ()), .edit form,
    .startPos ⟨bootstrap none, .ok 1, .ok 1, bootstrap (some 1)⟩ (fun _ => offline),
    .submitOrder offline 0, .edit form, .submitOrder offline 1]

/-- The second order of the first sync is refused, so the second sync submits both again. -/
theorem refusedSync_resubmits : ¬ ∀ es : List Event,
    NeverAgain (run step installed es).submissions ∧ QueuedStay (run step installed es) := by
  intro always
  have again := always (twoQueued ++
    [.syncPending fun turn => if turn = 0 then online else soldOut, .syncPending fun _ => online])
  exact absurd again.1 (by decide +kernel)

/-- Both orders are submitted by a sync that meets no error. -/
theorem twoQueued_submitted :
    NeverAgain (run step installed (twoQueued ++ [.syncPending fun _ => online])).submissions ∧
      QueuedStay (run step installed (twoQueued ++ [.syncPending fun _ => online])) :=
  clean_runs_submit_once (by decide +kernel)

end Exetron.Mobile
