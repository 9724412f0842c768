import Exetron.Kitchen.Steps

/-!
# The status that tickets give an order

`syncStatus` is the status an order has after a synchronisation with its tickets. An order is in
step with its tickets when another synchronisation leaves it alone; what two synchronisations leave
depends on what each of them has seen.
-/

namespace Exetron.Kitchen

open Lib

def AllServed (statuses : List KitchenTicketStatus) : Prop :=
  ∀ s ∈ statuses, s = .ready ∨ s = .completed

def AllEnded (statuses : List KitchenTicketStatus) : Prop :=
  ∀ s ∈ statuses, s = .completed ∨ s = .cancelled

instance (statuses : List KitchenTicketStatus) : Decidable (AllServed statuses) :=
  inferInstanceAs (Decidable (∀ s ∈ statuses, _))

instance (statuses : List KitchenTicketStatus) : Decidable (AllEnded statuses) :=
  inferInstanceAs (Decidable (∀ s ∈ statuses, _))

def syncStatus (status : OrderStatus) (statuses : List KitchenTicketStatus) : OrderStatus :=
  if .inProgress ∈ statuses ∧ status = .confirmed then .inPreparation
  else if statuses ≠ [] ∧ AllServed statuses ∧ status ∉ [.ready, .completed, .cancelled] then .ready
  else if statuses ≠ [] ∧ AllEnded statuses ∧ status ∉ [.completed, .cancelled] then .completed
  else status

def InStep (status : OrderStatus) (statuses : List KitchenTicketStatus) : Prop :=
  syncStatus status statuses = status

instance (status : OrderStatus) (statuses : List KitchenTicketStatus) :
    Decidable (InStep status statuses) :=
  inferInstanceAs (Decidable (_ = _))

theorem syncUpdate_eq_none_iff {now : Instant} {order : Order}
    {statuses : List KitchenTicketStatus} :
    syncUpdate now order statuses = none ↔ InStep order.status statuses := by
  unfold syncUpdate InStep syncStatus AllServed AllEnded
  simp only [gt_iff_lt, List.length_pos_iff]
  split_ifs with started served ended
  · simp [started.2]
  · exact iff_of_false nofun fun same => served.2.2 (by simp [← same])
  · exact iff_of_false nofun fun same => ended.2.2 (by simp [← same])
  · exact iff_of_true rfl rfl

theorem syncUpdate_eq_some {now : Instant} {order : Order} {statuses : List KitchenTicketStatus}
    {change : Order → Order} (h : syncUpdate now order statuses = some change) (row : Order) :
    ((change row).id = row.id ∧ (change row).tenantId = row.tenantId ∧
      (change row).storeId = row.storeId) ∧
      (change row).status = syncStatus order.status statuses := by
  unfold syncUpdate at h
  simp only [gt_iff_lt, List.length_pos_iff] at h
  unfold syncStatus AllServed AllEnded
  split_ifs at h ⊢ with started ready finished
  all_goals
    obtain rfl := Option.some.inj h
    exact ⟨⟨rfl, rfl, rfl⟩, rfl⟩

theorem syncStatus_congr {status : OrderStatus} {S T : List KitchenTicketStatus}
    (same : ∀ s, s ∈ S ↔ s ∈ T) : syncStatus status S = syncStatus status T := by
  have empty : S = [] ↔ T = [] := by
    rw [List.eq_nil_iff_forall_not_mem, List.eq_nil_iff_forall_not_mem]
    exact forall_congr' fun s => not_congr (same s)
  have served : AllServed S ↔ AllServed T := by simp only [AllServed, same]
  have ended : AllEnded S ↔ AllEnded T := by simp only [AllEnded, same]
  unfold syncStatus
  rw [if_congr (and_congr_left fun _ => same _) rfl (if_congr
    (and_congr (not_congr empty) (and_congr_left fun _ => served)) rfl (if_congr
      (and_congr (not_congr empty) (and_congr_left fun _ => ended)) rfl rfl))]

section
variable {status : OrderStatus} {s : KitchenTicketStatus} {S : List KitchenTicketStatus}

theorem syncStatus_served (served : AllServed (s :: S))
    (early : status ∉ [.ready, .completed, .cancelled]) : syncStatus status (s :: S) = .ready := by
  have unstarted : .inProgress ∉ s :: S := fun listed => by simpa using served _ listed
  rw [syncStatus, if_neg (fun started => unstarted started.1), if_pos ⟨nofun, served, early⟩]

theorem syncStatus_late (late : status ∈ [.ready, .completed, .cancelled]) :
    syncStatus status S ∈ [OrderStatus.ready, .completed, .cancelled] := by
  unfold syncStatus
  split_ifs with started
  · simp [started.2] at late
  · decide
  · decide
  · exact late

theorem syncStatus_ended (ended : status ∈ [.completed, .cancelled]) :
    syncStatus status S = status := by
  have late : status ∈ [.ready, .completed, .cancelled] := List.mem_cons_of_mem _ ended
  have unconfirmed : status ≠ .confirmed := by
    rintro rfl
    simp at ended
  rw [syncStatus, if_neg (fun started => unconfirmed started.2),
    if_neg (fun served => served.2.2 late), if_neg (fun done => done.2.2 ended)]

theorem served_of_ended (ended : AllEnded (s :: S))
    (left : syncStatus status (s :: S) ∉ [OrderStatus.completed, .cancelled]) :
    AllServed (s :: S) ∧ status ∉ [.ready, .completed, .cancelled] := by
  have unstarted : .inProgress ∉ s :: S := fun listed => by simpa using ended _ listed
  have open_ : status ∉ [.completed, .cancelled] := by
    intro done
    rw [syncStatus_ended done] at left
    exact left done
  by_contra unserved
  rw [syncStatus, if_neg (fun started => unstarted started.1),
    if_neg (fun served => unserved served.2), if_pos ⟨nofun, ended, open_⟩] at left
  simp at left

theorem of_syncStatus_confirmed (h : syncStatus status S = .confirmed) :
    status = .confirmed ∧ .inProgress ∉ S := by
  unfold syncStatus at h
  split_ifs at h with started
  subst h
  exact ⟨rfl, fun listed => started ⟨listed, rfl⟩⟩

theorem syncStatus_early (h : syncStatus status S ∉ [OrderStatus.ready, .completed, .cancelled])
    (changed : syncStatus status S ≠ status) : syncStatus status S = .inPreparation := by
  unfold syncStatus at h changed ⊢
  split_ifs at h changed ⊢ with started served ended
  · rfl
  · simp at h
  · simp at h
  · exact absurd rfl changed

theorem not_inStep (h : ¬InStep status S) : (.inProgress ∈ S ∧ status = .confirmed) ∨
      (AllServed S ∧ status ∉ [.ready, .completed, .cancelled]) ∨
      (AllEnded S ∧ status ∉ [.completed, .cancelled]) := by
  unfold InStep syncStatus at h
  split_ifs at h with started served ended
  · exact .inl started
  · exact .inr (.inl served.2)
  · exact .inr (.inr ended.2)
  · exact absurd rfl h

end

def Missed (status : OrderStatus) (S : List KitchenTicketStatus) (s t : KitchenTicketStatus) : Prop :=
  (AllEnded S ∧ status ∉ [.completed, .cancelled]) ∨
    (AllServed S ∧ status ∉ [.ready, .completed, .cancelled] ∧ s = .ready ∧ t = .ready)

def SetsBack (status status' : OrderStatus) (S : List KitchenTicketStatus) : Prop :=
  status = .ready ∧ (status' = .inPreparation ∨ status' = .ready ∧ ∀ s ∈ S, s = .completed)

instance (status : OrderStatus) (S : List KitchenTicketStatus) (s t : KitchenTicketStatus) :
    Decidable (Missed status S s t) :=
  inferInstanceAs (Decidable (_ ∨ _))

instance (status status' : OrderStatus) (S : List KitchenTicketStatus) :
    Decidable (SetsBack status status' S) :=
  inferInstanceAs (Decidable (_ ∧ _))

theorem missed_congr {status : OrderStatus} {S T : List KitchenTicketStatus}
    {s t : KitchenTicketStatus} (same : ∀ s, s ∈ S ↔ s ∈ T) :
    Missed status S s t ↔ Missed status T s t := by
  simp only [Missed, AllServed, AllEnded, same]

theorem setsBack_congr {status status' : OrderStatus} {S T : List KitchenTicketStatus}
    (same : ∀ s, s ∈ S ↔ s ∈ T) : SetsBack status status' S ↔ SetsBack status status' T := by
  simp only [SetsBack, same]

section
variable {status : OrderStatus} {s s' t t' : KitchenTicketStatus} {S : List KitchenTicketStatus}

theorem forward_of_changed {T : List KitchenTicketStatus} (changed : syncStatus status S ≠ status) :
    ¬SetsBack status (syncStatus status S) T := by
  rintro ⟨rfl, back | ⟨same, _⟩⟩
  · have late : syncStatus .ready S ∈ _ := syncStatus_late (by decide)
    rw [back] at late
    simp at late
  · exact changed same

theorem ready_of_completed (moved : canTransitionKitchenTicket s .completed = true) : s = .ready := by
  cases s <;> simp_all [canTransitionKitchenTicket, ticketTransitionMap]

theorem served_before (moved : canTransitionKitchenTicket t t' = true) (done : t' = .completed)
    (served : AllServed (s :: t' :: S)) : AllServed (s :: t :: S) := by
  subst done
  obtain rfl := ready_of_completed moved
  simp_all [AllServed]

theorem completed_of_both (served : AllServed S) (ended : AllEnded S) : ∀ s ∈ S, s = .completed := by
  intro s listed
  rcases served s listed with rfl | done
  · simpa using ended _ listed
  · exact done

theorem inStep_after (moved : canTransitionKitchenTicket t t' = true) :
    InStep (syncStatus (syncStatus status (s' :: t :: S)) (s' :: t' :: S)) (s' :: t' :: S) := by
  by_contra out
  rcases not_inStep out with ⟨started, confirmed⟩ | ⟨served, early⟩ | ⟨ended, left⟩
  · exact (of_syncStatus_confirmed confirmed).2 started
  · by_cases late : syncStatus status (s' :: t :: S) ∈ [OrderStatus.ready, .completed, .cancelled]
    · exact early (syncStatus_late late)
    · rw [syncStatus_served served late] at early
      simp at early
  · -- it takes the order for served, as the first synchronisation did already
    obtain ⟨served, early⟩ := served_of_ended ended left
    have done := completed_of_both served ended t' (by simp)
    have before := served_before moved done served
    by_cases late : status ∈ [.ready, .completed, .cancelled]
    · exact early (syncStatus_late late)
    · rw [syncStatus_served before late] at early
      simp at early

def leftBy (status first second : OrderStatus) : OrderStatus :=
  if second = status then first else second

section
variable {A B : List KitchenTicketStatus} {first : OrderStatus}

theorem leftBy_inStep (h : InStep status B) : leftBy status first (syncStatus status B) = first :=
  if_pos h

theorem leftBy_changed (h : ¬InStep status B) :
    leftBy status first (syncStatus status B) = syncStatus status B :=
  if_neg h

theorem leftBy_confirmed
    (h : leftBy status (syncStatus status A) (syncStatus status B) = .confirmed) :
    .inProgress ∉ A ∧ .inProgress ∉ B := by
  unfold leftBy at h
  split_ifs at h with same
  · obtain ⟨confirmed, unseen⟩ := of_syncStatus_confirmed h
    exact ⟨unseen, (of_syncStatus_confirmed (same.trans confirmed)).2⟩
  · exact absurd (h.trans (of_syncStatus_confirmed h).1.symm) same

theorem early_of_leftBy (h : leftBy status (syncStatus status A) (syncStatus status B) ∉
    [OrderStatus.ready, .completed, .cancelled]) : status ∉ [.ready, .completed, .cancelled] := by
  intro late
  refine h ?_
  unfold leftBy
  split
  · exact syncStatus_late late
  · exact syncStatus_late late

theorem open_of_leftBy (h : leftBy status (syncStatus status A) (syncStatus status B) ∉
    [OrderStatus.completed, .cancelled]) : status ∉ [.completed, .cancelled] := by
  intro ended
  refine h ?_
  rwa [leftBy, syncStatus_ended ended, syncStatus_ended ended, if_pos rfl]

theorem leftBy_ready (early : status ∉ [.ready, .completed, .cancelled]) :
    leftBy status first .ready = .ready := by
  rw [leftBy, if_neg]
  rintro rfl
  simp at early

end

/-- The second sees the tickets as the other move left them, but not the order. -/
theorem inStep_behind (moved : canTransitionKitchenTicket t t' = true)
    (kept : syncStatus status (s' :: t' :: S) ≠ status →
      ¬SetsBack (syncStatus status (s' :: t :: S)) (syncStatus status (s' :: t' :: S))
        (s' :: t' :: S)) :
    InStep (leftBy status (syncStatus status (s' :: t :: S)) (syncStatus status (s' :: t' :: S)))
      (s' :: t' :: S) := by
  by_contra out
  rcases not_inStep out with ⟨started, confirmed⟩ | ⟨served, early⟩ | ⟨ended, left⟩
  · exact (leftBy_confirmed confirmed).2 started
  · have before := early_of_leftBy early
    rw [syncStatus_served served before, leftBy_ready before] at early
    simp at early
  · have before := open_of_leftBy left
    by_cases done : syncStatus status (s' :: t' :: S) ∈ [OrderStatus.completed, .cancelled]
    · have changed : syncStatus status (s' :: t' :: S) ≠ status := by
        intro same
        rw [same] at done
        exact before done
      rw [leftBy, if_neg changed] at left
      exact left done
    · obtain ⟨served, early⟩ := served_of_ended ended done
      have completed := completed_of_both served ended
      have first := syncStatus_served (served_before moved (completed t' (by simp)) served) early
      have second := syncStatus_served served early
      refine kept (fun same => early ?_) ⟨first, .inr ⟨second, completed⟩⟩
      rw [← same, second]
      decide

theorem inStep_apart (moved : canTransitionKitchenTicket s s' = true)
    (moved' : canTransitionKitchenTicket t t' = true)
    (sighted : ¬Missed status (s' :: t' :: S) s' t')
    (kept : syncStatus status (t' :: s :: S) ≠ status →
      ¬SetsBack (syncStatus status (s' :: t :: S)) (syncStatus status (t' :: s :: S))
        (s' :: t' :: S)) :
    InStep (leftBy status (syncStatus status (s' :: t :: S)) (syncStatus status (t' :: s :: S)))
      (s' :: t' :: S) := by
  by_contra out
  rcases not_inStep out with ⟨started, confirmed⟩ | ⟨served, early⟩ | ⟨ended, left⟩
  · obtain ⟨unseen, unseen'⟩ := leftBy_confirmed confirmed
    simp only [List.mem_cons, not_or] at started unseen unseen'
    rcases started with first | second | other
    · exact unseen.1 first
    · exact unseen'.1 second
    · exact unseen.2.2 other
  · have before := early_of_leftBy early
    rcases served t' (by simp) with second | second
    · rcases served s' (by simp) with first | first
      · exact sighted (.inr ⟨served, before, first, second⟩)
      · -- the second has seen every ticket served
        have swapped : AllServed (t' :: s' :: S) := by
          intro x listed
          exact served x (by simpa [or_left_comm] using listed)
        rw [syncStatus_served (served_before moved first swapped) before, leftBy_ready before] at early
        simp at early
    · -- the first has, and the second has not set the order back
      have ready := syncStatus_served (served_before moved' second served) before
      rw [leftBy] at early
      split_ifs at early with same
      · rw [ready] at early
        simp at early
      · exact kept same ⟨ready, .inl (syncStatus_early early same)⟩
  · exact sighted (.inl ⟨ended, open_of_leftBy left⟩)

end

end Exetron.Kitchen
