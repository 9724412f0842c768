import Exetron.Inventory.Alone
import Exetron.Lib.Frame

/-!
# Receivings

A receiving is completed once. Its lines are counted into the stock then, each as it is.
-/

namespace Exetron.Inventory

open Lib Service Tx Table

variable {db db' : Db} {id : Id} {now : Instant} {receivedBy : Option String}
  {result : ReceivingRecord × List ReceivingLine} {record : ReceivingRecord}
  {context : RequestContext}

/-- The keys of the receivings have been given out. -/
structure ReceivingsOld (db : Db) : Prop where
  records : ∀ record ∈ db.inventory.receivingRecords, record.id < db.nextId
  lines : ∀ line ∈ db.inventory.receivingLines, line.recordId < db.nextId

def IsCompleted (id : Id) (db : Db) : Prop :=
  ∃ record, receivingRecords.findUnique id db = some record ∧ record.status = .completed

/-- What is completed stays so. -/
structure ReceivingsKept (db db' : Db) : Prop where
  old : ReceivingsOld db → ReceivingsOld db'
  completed : ∀ id, IsCompleted id db → IsCompleted id db'

def receivingsOf (db : Db) : List ReceivingRecord × List ReceivingLine :=
  (db.inventory.receivingRecords, db.inventory.receivingLines)

theorem receivingsKept_refl (db : Db) : ReceivingsKept db db := ⟨id, fun _ => id⟩

theorem receivingsKept_trans (a b c : Db) (hab : ReceivingsKept a b) (hbc : ReceivingsKept b c) :
    ReceivingsKept a c :=
  ⟨hbc.old ∘ hab.old, fun id => hbc.completed id ∘ hab.completed id⟩

theorem receivingsKept_of_same (same : receivingsOf db' = receivingsOf db)
    (grows : db.nextId ≤ db'.nextId) : ReceivingsKept db db' := by
  obtain ⟨records, lines⟩ := Prod.mk.inj same
  constructor
  · intro old
    constructor
    · rw [records]
      exact fun record stored => lt_of_lt_of_le (old.records record stored) grows
    · rw [lines]
      exact fun line stored => lt_of_lt_of_le (old.lines line stored) grows
  · rintro id ⟨record, found, completed⟩
    refine ⟨record, ?_, completed⟩
    show Rows.find ReceivingRecord.id db'.inventory.receivingRecords id = _
    rw [records]
    exact found

theorem receivingsKept_append (fresh : record.id < db.nextId) :
    ReceivingsKept db (receivingRecords.put (receivingRecords.rows db ++ [record]) db) := by
  constructor
  · rintro ⟨records, lines⟩
    refine ⟨fun record' stored => ?_, lines⟩
    rcases List.mem_append.mp stored with before | new
    · exact records record' before
    · rw [List.mem_singleton.mp new]
      exact fresh
  · rintro id ⟨record', found, completed⟩
    refine ⟨record', ?_, completed⟩
    show List.find? _ (_ ++ _) = _
    rw [List.find?_append, show List.find? _ _ = _ from found]
    rfl

theorem receivingsKept_line {line : ReceivingLine} (fresh : line.recordId < db.nextId) :
    ReceivingsKept db (receivingLines.put (receivingLines.rows db ++ [line]) db) := by
  constructor
  · rintro ⟨records, lines⟩
    refine ⟨records, fun line' stored => ?_⟩
    rcases List.mem_append.mp stored with before | new
    · exact lines line' before
    · rw [List.mem_singleton.mp new]
      exact fresh
  · exact fun _ completed => completed

theorem receivingsKept_completed {f : ReceivingRecord → ReceivingRecord}
    (keeps : ∀ record, (f record).id = record.id)
    (completes : ∀ record, (f record).status = .completed) : ReceivingsKept db
      (receivingRecords.put (Rows.modify ReceivingRecord.id id f (receivingRecords.rows db)) db) := by
  constructor
  · rintro ⟨records, lines⟩
    refine ⟨fun record stored => ?_, lines⟩
    rcases Rows.mem_of_modify stored with before | ⟨record₀, before, _, rfl⟩
    · exact records record before
    · rw [keeps]
      exact records record₀ before
  · rintro id' ⟨record, found, completed⟩
    have after : receivingRecords.findUnique id' (receivingRecords.put
        (Rows.modify ReceivingRecord.id id f (receivingRecords.rows db)) db) =
          if id' = id then some (f record) else some record := by
      have before : Rows.find ReceivingRecord.id (receivingRecords.rows db) id' = some record := found
      show Rows.find ReceivingRecord.id (Rows.modify ReceivingRecord.id id f _) id' = _
      rw [Rows.find_modify keeps, before]
      rfl
    by_cases here : id' = id
    · exact ⟨f record, by rw [after, if_pos here], completes record⟩
    · exact ⟨record, by rw [after, if_neg here], completed⟩

theorem freshId_frames : Tx.Frames receivingsOf freshId := by
  intro db id db' h
  obtain ⟨_, rfl⟩ := freshId_ok_iff.mp h
  rfl

theorem getOrCreateItemTx_frames (tenantId w i : Id) :
    Tx.Frames receivingsOf (getOrCreateItemTx tenantId w i) := by
  refine frames_bind (frames_read _) fun found => ?_
  cases found with
  | some item => exact frames_pure _
  | none => exact frames_bind freshId_frames fun _ => frames_create (fun _ _ => rfl) _

theorem applyStockDeltaTx_frames (input : StockDelta) :
    Tx.Frames receivingsOf (applyStockDeltaTx input) :=
  frames_bind (getOrCreateItemTx_frames _ _ _) fun _ =>
    frames_bind (frames_update (fun _ _ => rfl) _ _) fun _ =>
      frames_bind freshId_frames fun _ =>
        frames_bind (frames_create (fun _ _ => rfl) _) fun _ => frames_pure _

theorem createAdjustmentTx_frames (context : RequestContext) (dto : CreateInventoryAdjustmentDto) :
    Tx.Frames receivingsOf (createAdjustmentTx context dto) :=
  frames_bind (frames_lift _) fun _ =>
    frames_bind (getOrCreateItemTx_frames _ _ _) fun _ =>
      frames_bind freshId_frames fun _ =>
        frames_bind (applyStockDeltaTx_frames _) fun _ =>
          frames_bind freshId_frames fun _ => frames_create (fun _ _ => rfl) _

theorem createReservationTx_frames (context : RequestContext) (dto : CreateStockReservationDto) :
    Tx.Frames receivingsOf (createReservationTx context dto) :=
  frames_bind (frames_read _) fun _ =>
    frames_bind freshId_frames fun _ =>
      frames_bind (frames_create (fun _ _ => rfl) _) fun _ =>
        frames_bind (frames_update (fun _ _ => rfl) _ _) fun _ => frames_pure _

theorem releaseReservationTx_frames (context : RequestContext) (reservationId : Id) :
    Tx.Frames receivingsOf (releaseReservationTx context reservationId) :=
  frames_bind (frames_read _) fun _ =>
    frames_ite (fun _ => frames_pure _) fun _ =>
      frames_bind (frames_read _) fun _ =>
        frames_bind (frames_update (fun _ _ => rfl) _ _) fun _ =>
          frames_bind (frames_update (fun _ _ => rfl) _ _) fun _ => frames_read _

theorem consumeReservationTx_frames (context : RequestContext) (reservationId : Id) :
    Tx.Frames receivingsOf (consumeReservationTx context reservationId) :=
  frames_bind (frames_read _) fun _ =>
    frames_ite (fun _ => frames_pure _) fun _ =>
      frames_bind (frames_read _) fun _ =>
        frames_bind (frames_update (fun _ _ => rfl) _ _) fun _ =>
          frames_bind (frames_update (fun _ _ => rfl) _ _) fun _ =>
            frames_bind freshId_frames fun _ =>
              frames_bind (frames_create (fun _ _ => rfl) _) fun _ => frames_read _

theorem getReceivingRecordTx_ok {lines : List ReceivingLine}
    (h : getReceivingRecordTx id db = .ok (record, lines)) :
    receivingRecords.findUnique id db = some record ∧ lines = linesOf db id := by
  simp only [getReceivingRecordTx, except_bind_ok_iff, required_ok_iff, except_pure_ok_iff] at h
  obtain ⟨_, found, same⟩ := h
  obtain ⟨rfl, rfl⟩ := Prod.mk.inj same
  exact ⟨found, rfl⟩

theorem completeReceivingRecordTx_ok
    (h : completeReceivingRecordTx now id receivedBy db = .ok (result, db')) :
    (IsCompleted id db ∧ db' = db) ∨
      ∃ record m f, receivingRecords.findUnique id db = some record ∧ record.status ≠ .completed ∧
        (linesOf db id).forM (fun line => applyStockDeltaTx (receivingDelta record line)) db =
          .ok ((), m) ∧
        (∀ row : ReceivingRecord, (f row).id = row.id ∧ (f row).status = .completed) ∧
        db' = receivingRecords.put
          (Rows.modify ReceivingRecord.id id f (receivingRecords.rows m)) m ∧
        result.1.id = id := by
  simp only [completeReceivingRecordTx, bind_ok_iff, read_ok_iff] at h
  obtain ⟨⟨record, lines⟩, _, ⟨read, rfl⟩, h⟩ := h
  obtain ⟨found, rfl⟩ := getReceivingRecordTx_ok read
  split at h
  · rename_i completed
    obtain ⟨_, rfl⟩ := pure_ok_iff.mp h
    exact .inl ⟨⟨record, found, completed⟩, rfl⟩
  · rename_i unfinished
    simp only [bind_ok_iff, read_ok_iff, update_ok_iff] at h
    obtain ⟨_, m, loop, _, _, ⟨row, stored, rfl, rfl⟩, again, rfl⟩ := h
    refine .inr ⟨record, m, _, found, unfinished, loop, fun row => ?_, rfl, ?_⟩
    · exact ⟨rfl, rfl⟩
    · exact (findUnique_mem (getReceivingRecordTx_ok again).1).2

theorem completeReceivingRecordTx_kept
    (h : completeReceivingRecordTx now id receivedBy db = .ok (result, db')) :
    ReceivingsKept db db' := by
  rcases completeReceivingRecordTx_ok h with ⟨_, rfl⟩ | ⟨record, m, f, _, _, loop, keeps, rfl, _⟩
  · exact receivingsKept_refl _
  · have counted : ReceivingsKept db m := by
      refine receivingsKept_of_same (frames_forM (fun _ => applyStockDeltaTx_frames _) _ _ _ loop)
        ?_
      exact (forM_related paymentsKept_refl (fun _ _ _ => paymentsKept_trans)
        (fun _ _ _ _ _ => applyStockDeltaTx_paymentsKept) loop).grows
    exact receivingsKept_trans _ _ _ counted
      (receivingsKept_completed (fun row => (keeps row).1) fun row => (keeps row).2)

theorem receiveTx_kept (h : receiveTx now context id receivedBy db = .ok (result, db')) :
    ReceivingsKept db db' := by
  simp only [receiveTx, bind_ok_iff, read_ok_iff, lift_ok_iff] at h
  obtain ⟨_, _, ⟨_, rfl⟩, _, _, ⟨_, rfl⟩, completed⟩ := h
  exact completeReceivingRecordTx_kept completed

theorem createReceivingRecordTx_kept {dto : CreateReceivingDto}
    (h : createReceivingRecordTx context dto db = .ok (result, db')) : ReceivingsKept db db' := by
  simp only [createReceivingRecordTx, bind_ok_iff, lift_ok_iff, read_ok_iff,
    freshId_ok_iff, create_ok_iff] at h
  obtain ⟨_, _, ⟨_, rfl⟩, _, _, ⟨rfl, rfl⟩, _, _, ⟨rfl, rfl⟩, _, m, lines, _, rfl⟩ := h
  have given : ReceivingsKept db { db with nextId := db.nextId + 1 } :=
    receivingsKept_of_same rfl (Nat.le_succ _)
  refine receivingsKept_trans _ _ _ given (receivingsKept_trans _ _ _
    (receivingsKept_append (Nat.lt_succ_self _)) (forM_related_of receivingsKept_refl
    receivingsKept_trans (I := fun _ (a : Db) => db.nextId < a.nextId) ?_
    (Nat.lt_succ_self _) lines).1)
  intro line _ a b u given step
  simp only [bind_ok_iff, freshId_ok_iff, create_ok_iff, pure_ok_iff] at step
  obtain ⟨_, _, ⟨rfl, rfl⟩, _, _, ⟨_, rfl⟩, _, rfl⟩ := step
  have next : ReceivingsKept a { a with nextId := a.nextId + 1 } :=
    receivingsKept_of_same rfl (Nat.le_succ _)
  have later : db.nextId < a.nextId + 1 := Nat.lt_succ_of_lt given
  exact ⟨receivingsKept_trans _ _ _ next (receivingsKept_line later), later⟩

theorem perform_receivingsKept (now : Instant) (context : RequestContext) (call : InventoryCall)
    (db : Db) : ReceivingsKept db (perform now context call db) := by
  have framed {α : Type} {x : Transaction α} (frames : Tx.Frames receivingsOf x)
      (grows : ∀ a db', x db = .ok (a, db') → PaymentsKept db db') :
      ReceivingsKept db (Call.exec (Call.transact x) db).2 :=
    Call.transact_related (receivingsKept_refl db) fun a db' done =>
      receivingsKept_of_same (frames db a db' done) (grows a db' done).grows
  cases call with
  | createAdjustment dto =>
    exact framed (createAdjustmentTx_frames _ _) fun _ _ => createAdjustmentTx_paymentsKept
  | createReceivingRecord dto =>
    exact Call.transact_related (receivingsKept_refl db) fun _ _ => createReceivingRecordTx_kept
  | completeReceivingRecord id receivedBy =>
    exact Call.transact_related (receivingsKept_refl db) fun _ _ => receiveTx_kept
  | createReservation dto =>
    exact framed (createReservationTx_frames _ _) fun _ _ => createReservationTx_paymentsKept
  | releaseReservation reservationId =>
    exact framed (releaseReservationTx_frames _ _) fun _ _ => releaseReservationTx_paymentsKept
  | consumeReservation reservationId =>
    exact framed (consumeReservationTx_frames _ _) fun _ _ => consumeReservationTx_paymentsKept

theorem perform_completed (completed : IsCompleted id db) :
    perform now context (.completeReceivingRecord id receivedBy) db = db := by
  refine Call.transact_related (R := fun a b => b = a) rfl fun result db' done => ?_
  simp only [receiveTx, bind_ok_iff, read_ok_iff, lift_ok_iff] at done
  obtain ⟨_, _, ⟨_, rfl⟩, _, _, ⟨_, rfl⟩, done⟩ := done
  obtain ⟨record, found, status⟩ := completed
  rcases completeReceivingRecordTx_ok done with
    ⟨_, same⟩ | ⟨record', m, f, found', unfinished, _⟩
  · exact same
  · obtain rfl := Option.some.inj (found.symm.trans found')
    exact absurd status unfinished

theorem receivingLoop_onHand {lines : List ReceivingLine} {u : PUnit}
    (keys : StockKeys (stockState db))
    (h : lines.forM (fun line => applyStockDeltaTx (receivingDelta record line)) db = .ok (u, db'))
    (place : Place) : onHandAt db' place = onHandAt db place + receivedAt record lines place := by
  induction lines generalizing db with
  | nil =>
    obtain ⟨_, rfl⟩ := pure_ok_iff.mp h
    exact (add_zero _).symm
  | cons line lines ih =>
    obtain ⟨_, m, first, rest⟩ := bind_ok h
    have before : Concurrent.Shows db place ⟨onHandAt db place, reservedAt db place, []⟩ := ⟨rfl, rfl⟩
    obtain ⟨keysM, shows_⟩ := Concurrent.applyStockDeltaTx_shows keys before first
    have counted : onHandAt m place = onHandAt db place +
        if (record.warehouseId, line.ingredientId) = place then line.quantity else 0 := by
      rw [shows_.onHand]
      simp only [receivingDelta]
      by_cases here : (record.warehouseId, line.ingredientId) = place
      · have whole : (onHandAt db place : ℚ) + line.quantity =
            ((onHandAt db place + line.quantity : Quantity) : ℚ) := by
          push_cast
          rfl
        simp only [if_pos here, whole, toDecimal, roundHalfAway_intCast]
      · simp [here]
    rw [ih keysM rest, counted, receivedAt_cons, add_assoc]

end Exetron.Inventory
