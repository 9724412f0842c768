import Exetron.Inventory.Service
import Exetron.Lib.ReadCommitted
import Mathlib.Tactic.Linarith

/-!
# Concurrent stock transactions

Every stock transaction reads an item, computes new columns from what it read, and writes them
back. No isolation level is passed, so two of them run under READ COMMITTED.
-/

namespace Exetron.Inventory.Concurrent

open Lib ReadCommitted

/-- What stock transactions share of an item: its counters, and its reservations and receivings
that are not settled yet. -/
structure ItemRow where
  (onHand reserved : Quantity)
  unsettled : List Id
  deriving DecidableEq

def ItemRow.available (row : ItemRow) : Quantity := row.onHand - row.reserved

def settle (id : Id) (row : ItemRow) : ItemRow :=
  { row with unsettled := row.unsettled.filter (· ≠ id) }

inductive StockTransaction where
  /-- The plan of a checkout and its reservation. -/
  | reserveOrder (quantity stopThreshold : Quantity)
  | createReservation (dto : Service.CreateStockReservationDto)
  | completeReceiving (recordId : Id) (lines : List Quantity)
  | createAdjustment (dto : Service.CreateInventoryAdjustmentDto)
  | consumeReservation (reservation : StockReservation)
  | consumeOrder (reservations : List StockReservation)

def countIn : List Quantity → Statements ItemRow → Statements ItemRow
  | [], rest => rest
  | line :: lines, rest =>
    .read fun item =>
      .update (fun row => { row with onHand := Service.toDecimal (item.onHand + line) })
        (countIn lines rest)

def useUp : List StockReservation → Statements ItemRow → Statements ItemRow
  | [], rest => rest
  | reservation :: reservations, rest =>
    .read fun item =>
      .update (fun row => { row with
        onHand := max (item.onHand - reservation.quantity) 0
        reserved := max (item.reserved - reservation.quantity) 0 })
        (.update (settle reservation.id) (useUp reservations rest))

def statements : StockTransaction → Statements ItemRow
  | .reserveOrder quantity stopThreshold =>
    .read fun planned =>
      if planned.available < quantity ∨ planned.available ≤ stopThreshold then .rollback
      else
        .read fun item =>
          .update (fun row => { row with reserved := item.reserved + quantity }) .commit
  | .createReservation dto =>
    .read fun item =>
      if ((item.available : Quantity) : ℚ) < dto.quantity then .rollback
      else
        .update (fun row => { row with
          reserved := Service.toDecimal (item.reserved + dto.quantity) }) .commit
  | .completeReceiving recordId lines =>
    .read fun _ =>
      .read fun record =>
        if recordId ∈ record.unsettled then
          countIn lines (.update (settle recordId) (.read fun _ => .commit))
        else .commit
  | .createAdjustment dto =>
    .read fun current =>
      .read fun item =>
        .update (fun row => { row with
          onHand := Service.toDecimal
            (item.onHand + Service.adjustmentDelta dto current.onHand) }) .commit
  | .consumeReservation reservation =>
    .read fun found =>
      if reservation.id ∈ found.unsettled then useUp [reservation] (.read fun _ => .commit)
      else .commit
  | .consumeOrder reservations =>
    .read fun found => useUp (reservations.filter (·.id ∈ found.unsettled)) .commit

def StockTransaction.Counts : StockTransaction → Prop
  | .completeReceiving _ _ | .createAdjustment _ => True
  | _ => False

def StockTransaction.Reserves : StockTransaction → Prop
  | .reserveOrder _ _ | .createReservation _ => True
  | _ => False

instance : DecidablePred StockTransaction.Counts
  | .completeReceiving _ _ | .createAdjustment _ => isTrue trivial
  | .reserveOrder _ _ | .createReservation _ | .consumeReservation _ | .consumeOrder _ => isFalse id

/-- What a transaction has read when it first writes the item still holds of the columns that it
writes from there, and of its check unless the other transaction is a receiving or an adjustment. -/
def Current (t other : StockTransaction) (reads : List ItemRow) (row : ItemRow) : Prop :=
  match t with
  | .reserveOrder quantity stopThreshold => ∀ item ∈ reads.getLast?, item.reserved = row.reserved ∧
    (¬(row.available < quantity ∨ row.available ≤ stopThreshold) ∨ other.Counts)
  | .createReservation dto => ∀ item ∈ reads.getLast?, item.reserved = row.reserved ∧
    (¬((row.available : Quantity) : ℚ) < dto.quantity ∨ other.Counts)
  | .completeReceiving recordId _ =>
    recordId ∈ row.unsettled ∧ ∀ item ∈ reads.drop 2, item.onHand = row.onHand
  | .createAdjustment dto => ∀ current ∈ reads.head?, ∀ item ∈ reads.getLast?,
    if dto.adjustmentType = .set then current.onHand = item.onHand
    else item.onHand = row.onHand
  | .consumeReservation reservation => reservation.id ∈ row.unsettled ∧
    ∀ item ∈ reads.getLast?, item.onHand = row.onHand ∧ item.reserved = row.reserved
  | .consumeOrder reservations => ∀ found ∈ reads.head?, ∀ item ∈ reads.getLast?,
    (∀ r ∈ reservations, r.id ∈ found.unsettled ↔ r.id ∈ row.unsettled) ∧
      item.onHand = row.onHand ∧ item.reserved = row.reserved

instance (t other : StockTransaction) (reads : List ItemRow) (row : ItemRow) :
    Decidable (Current t other reads row) :=
  match t with
  | .reserveOrder _ _ => inferInstanceAs (Decidable (∀ item ∈ reads.getLast?, _ ∧ (_ ∨ _)))
  | .createReservation _ => inferInstanceAs (Decidable (∀ item ∈ reads.getLast?, _ ∧ (_ ∨ _)))
  | .completeReceiving _ _ => inferInstanceAs (Decidable (_ ∧ ∀ item ∈ reads.drop 2, _))
  | .createAdjustment _ =>
    inferInstanceAs (Decidable (∀ current ∈ reads.head?, ∀ item ∈ reads.getLast?, ite _ _ _))
  | .consumeReservation _ => inferInstanceAs (Decidable (_ ∧ ∀ item ∈ reads.getLast?, _ ∧ _))
  | .consumeOrder _ =>
    inferInstanceAs (Decidable (∀ found ∈ reads.head?, ∀ item ∈ reads.getLast?, _ ∧ _ ∧ _))

def reserving (reserved : Quantity) (row : ItemRow) : ItemRow := { row with reserved := reserved }

theorem alone_countIn (reserved : Quantity) {rest : Statements ItemRow} {row row' : ItemRow}
    (h : ∀ own, alone rest row' (reserving reserved own) =
      (reserving reserved (alone rest row own).1, (alone rest row own).2))
    (lines : List Quantity) (own : ItemRow) :
    alone (countIn lines rest) row' (reserving reserved own) =
      (reserving reserved (alone (countIn lines rest) row own).1,
        (alone (countIn lines rest) row own).2) := by
  induction lines generalizing own with
  | nil => exact h own
  | cons line lines ih => exact ih { own with onHand := Service.toDecimal (own.onHand + line) }

theorem alone_counts {t : StockTransaction} (counts : t.Counts) (reserved : Quantity)
    (row : ItemRow) : alone (statements t) (reserving reserved row) (reserving reserved row) =
      (reserving reserved (alone (statements t) row row).1, (alone (statements t) row row).2) := by
  cases t with
  | completeReceiving recordId lines =>
    simp only [statements, alone]
    split
    · rename_i unsettled
      rw [if_pos (show recordId ∈ row.unsettled from unsettled)]
      exact alone_countIn reserved (fun own => rfl) lines row
    · rename_i settled
      rw [if_neg (show recordId ∉ row.unsettled from settled)]
      rfl
  | createAdjustment dto => rfl
  | reserveOrder _ _ => exact counts.elim
  | createReservation _ => exact counts.elim
  | consumeReservation _ => exact counts.elim
  | consumeOrder _ => exact counts.elim

theorem counts_reserved {t : StockTransaction} (counts : t.Counts) (row : ItemRow) :
    (alone (statements t) row row).1.reserved = row.reserved :=
  congrArg (fun result : ItemRow × Bool => result.1.reserved) (alone_counts counts row.reserved row)

def InSomeOrder (t other : StockTransaction) (before after : ItemRow) (answer : Bool)
    (result : ItemRow × Bool) : Prop :=
  alone (statements t) after after = result ∨
    ∃ row, alone (statements t) before before = (row, result.2) ∧
      alone (statements other) row row = (result.1, answer)

section
variable {t other : StockTransaction} {before after : ItemRow} {answer : Bool}

theorem inSomeOrder_unwritten (first : alone (statements other) before before = (after, answer))
    {answer' : Bool} (unwritten : alone (statements t) before before = (before, answer')) :
    InSomeOrder t other before after answer (after, answer') :=
  Or.inr ⟨before, unwritten, first⟩

theorem inSomeOrder_reserving (counts : other.Counts)
    (first : alone (statements other) before before = (after, answer)) {reserved : Quantity}
    {answer' : Bool}
    (reserves : alone (statements t) before before = (reserving reserved before, answer')) :
    InSomeOrder t other before after answer (reserving reserved after, answer') := by
  refine Or.inr ⟨_, reserves, ?_⟩
  rw [alone_counts counts, first]

theorem createReservation_inSomeOrder {dto : Service.CreateStockReservationDto}
    (first : alone (statements other) before before = (after, answer)) {result : ItemRow × Bool}
    (h : EndsWith (Current (.createReservation dto) other) (Straddles before after)
      (statements (.createReservation dto)) after result) :
    InSomeOrder (.createReservation dto) other before after answer result := by
  obtain ⟨reads, rest, follows, seen, settled, holds, rfl⟩ := h
  cases follows with
  | refl => exact absurd trivial settled
  | @read _ item items _ follows =>
    rcases seen.cases with ⟨rfl, -⟩ | fresh
    · dsimp only at follows
      split at follows
      · rename_i refused
        cases follows
        refine inSomeOrder_unwritten first ?_
        simp only [statements, alone, if_pos refused]
      · rename_i granted
        cases follows
        obtain ⟨same, checked⟩ := holds trivial item rfl
        rcases checked with still | counts
        · left
          simp only [statements, alone, if_neg still, same]
        · refine inSomeOrder_reserving counts first ?_
          simp only [statements, alone, if_neg granted]
          rfl
    · exact Or.inl (alone_follows (Follows.read follows) fresh)

theorem reserveOrder_inSomeOrder {quantity stopThreshold : Quantity}
    (first : alone (statements other) before before = (after, answer)) {result : ItemRow × Bool}
    (h : EndsWith (Current (.reserveOrder quantity stopThreshold) other) (Straddles before after)
      (statements (.reserveOrder quantity stopThreshold)) after result) :
    InSomeOrder (.reserveOrder quantity stopThreshold) other before after answer result := by
  obtain ⟨reads, rest, follows, seen, settled, holds, rfl⟩ := h
  cases follows with
  | refl => exact absurd trivial settled
  | @read _ planned items _ follows =>
    rcases seen.cases with ⟨rfl, -⟩ | fresh
    · dsimp only at follows
      split at follows
      · rename_i refused
        cases follows
        refine inSomeOrder_unwritten first ?_
        simp only [statements, alone, if_pos refused]
      · rename_i granted
        cases follows with
        | refl => exact absurd trivial settled
        | @read _ item _ _ follows =>
          cases follows
          obtain ⟨same, checked⟩ := holds trivial item rfl
          rcases checked with still | counts
          · left
            simp only [statements, alone, if_neg still, same]
          · have kept := counts_reserved counts planned
            rw [first] at kept
            show InSomeOrder _ other planned after answer
              (reserving (item.reserved + quantity) after, true)
            rw [same, kept]
            refine inSomeOrder_reserving counts first ?_
            simp only [statements, alone, if_neg granted]
            rfl
    · exact Or.inl (alone_follows (Follows.read follows) fresh)

theorem createAdjustment_inSomeOrder {dto : Service.CreateInventoryAdjustmentDto}
    {result : ItemRow × Bool}
    (h : EndsWith (Current (.createAdjustment dto) other) (Straddles before after)
      (statements (.createAdjustment dto)) after result) :
    InSomeOrder (.createAdjustment dto) other before after answer result := by
  obtain ⟨reads, rest, follows, _, settled, holds, rfl⟩ := h
  cases follows with
  | refl => exact absurd trivial settled
  | @read _ current _ _ follows =>
    cases follows with
    | refl => exact absurd trivial settled
    | @read _ item _ _ follows =>
      cases follows
      have held := holds trivial current rfl item rfl
      left
      simp only [statements, alone]
      split at held
      · rename_i fixed
        simp only [Service.adjustmentDelta, fixed, held, add_sub_cancel]
      · rename_i relative
        cases kind : dto.adjustmentType with
        | set => exact absurd kind relative
        | remove | add => simp only [Service.adjustmentDelta, kind, held]

theorem completeReceiving_inSomeOrder {recordId : Id} {lines : List Quantity}
    (first : alone (statements other) before before = (after, answer)) {result : ItemRow × Bool}
    (h : EndsWith (Current (.completeReceiving recordId lines) other) (Straddles before after)
      (statements (.completeReceiving recordId lines)) after result) :
    InSomeOrder (.completeReceiving recordId lines) other before after answer result := by
  obtain ⟨reads, rest, follows, seen, settled, holds, rfl⟩ := h
  cases follows with
  | refl => exact absurd trivial settled
  | @read _ found rows _ follows =>
    cases follows with
    | refl => exact absurd trivial settled
    | @read _ record items _ follows =>
      dsimp only at follows
      split at follows
      · rename_i unsettled
        left
        cases lines with
        | nil =>
          cases follows
          obtain ⟨still, _⟩ := holds trivial
          simp only [statements, alone, if_pos still]
        | cons line lines =>
          cases follows with
          | refl => exact absurd trivial settled
          | @read _ item _ _ follows =>
            cases follows
            obtain ⟨still, same⟩ := holds trivial
            simp only [statements, countIn, alone, if_pos still, same item List.mem_cons_self]
      · rename_i done
        cases follows
        rcases seen.cases with ⟨_, seen⟩ | fresh
        · rcases seen.cases with ⟨rfl, _⟩ | fresh
          · refine inSomeOrder_unwritten first ?_
            simp only [statements, alone, if_neg done]
          · rw [fresh record List.mem_cons_self] at done
            left
            simp only [statements, alone, if_neg done]
        · rw [fresh record (List.mem_cons_of_mem _ List.mem_cons_self)] at done
          left
          simp only [statements, alone, if_neg done]

theorem consumeReservation_inSomeOrder {reservation : StockReservation}
    (first : alone (statements other) before before = (after, answer)) {result : ItemRow × Bool}
    (h : EndsWith (Current (.consumeReservation reservation) other) (Straddles before after)
      (statements (.consumeReservation reservation)) after result) :
    InSomeOrder (.consumeReservation reservation) other before after answer result := by
  obtain ⟨reads, rest, follows, seen, settled, holds, rfl⟩ := h
  cases follows with
  | refl => exact absurd trivial settled
  | @read _ found items _ follows =>
    rcases seen.cases with ⟨rfl, -⟩ | fresh
    · dsimp only at follows
      split at follows
      · cases follows with
        | refl => exact absurd trivial settled
        | @read _ item _ _ follows =>
          cases follows
          obtain ⟨still, same⟩ := holds trivial
          obtain ⟨onHand, reserved⟩ := same item rfl
          left
          simp only [statements, useUp, alone, if_pos still, onHand, reserved]
      · rename_i done
        cases follows
        refine inSomeOrder_unwritten first ?_
        simp only [statements, alone, if_neg done]
    · exact Or.inl (alone_follows (Follows.read follows) fresh)

theorem consumeOrder_inSomeOrder {reservations : List StockReservation}
    (first : alone (statements other) before before = (after, answer)) {result : ItemRow × Bool}
    (h : EndsWith (Current (.consumeOrder reservations) other) (Straddles before after)
      (statements (.consumeOrder reservations)) after result) :
    InSomeOrder (.consumeOrder reservations) other before after answer result := by
  obtain ⟨reads, rest, follows, seen, settled, holds, rfl⟩ := h
  cases follows with
  | refl => exact absurd trivial settled
  | @read _ found items _ follows =>
    rcases seen.cases with ⟨rfl, -⟩ | fresh
    · cases active : reservations.filter (·.id ∈ found.unsettled) with
      | nil =>
        simp only [active, useUp] at follows
        cases follows
        refine inSomeOrder_unwritten first ?_
        simp only [statements, alone, active, useUp]
      | cons r rs =>
        simp only [active, useUp] at follows
        cases follows with
        | refl => exact absurd trivial settled
        | @read _ item _ _ follows =>
          cases follows
          obtain ⟨same, onHand, reserved⟩ := holds trivial found rfl item rfl
          left
          have now : reservations.filter (·.id ∈ after.unsettled) = r :: rs := by
            rw [← active]
            refine List.filter_congr fun r' listed => ?_
            simp only [same r' listed]
          simp only [statements, now, useUp, alone, onHand, reserved]
    · exact Or.inl (alone_follows (Follows.read follows) fresh)

theorem endsWith_inSomeOrder (first : alone (statements other) before before = (after, answer))
    {result : ItemRow × Bool}
    (h : EndsWith (Current t other) (Straddles before after) (statements t) after result) :
    InSomeOrder t other before after answer result := by
  cases t with
  | reserveOrder quantity stopThreshold => exact reserveOrder_inSomeOrder first h
  | createReservation dto => exact createReservation_inSomeOrder first h
  | completeReceiving recordId lines => exact completeReceiving_inSomeOrder first h
  | createAdjustment dto => exact createAdjustment_inSomeOrder h
  | consumeReservation reservation => exact consumeReservation_inSomeOrder first h
  | consumeOrder reservations => exact consumeOrder_inSomeOrder first h

end

def StockTransaction.quantity : StockTransaction → Quantity
  | .reserveOrder quantity _ => quantity
  | .createReservation dto => Service.toDecimal dto.quantity
  | _ => 0

theorem alone_reserves {t : StockTransaction} (reserves : t.Reserves) {row row' : ItemRow}
    (h : alone (statements t) row row = (row', true)) :
    row'.onHand = row.onHand ∧ t.quantity ≤ row.onHand - row.reserved ∧
      (0 ≤ row.reserved → row.reserved + t.quantity ≤ row'.reserved) := by
  cases t with
  | reserveOrder quantity stopThreshold =>
    simp only [statements, alone] at h
    split at h
    · exact absurd (congrArg Prod.snd h) Bool.false_ne_true
    · rename_i granted
      obtain rfl := congrArg Prod.fst h
      rw [not_or, not_lt] at granted
      exact ⟨rfl, granted.1, fun _ => le_refl _⟩
  | createReservation dto =>
    simp only [statements, alone] at h
    split at h
    · exact absurd (congrArg Prod.snd h) Bool.false_ne_true
    · rename_i granted
      obtain rfl := congrArg Prod.fst h
      exact ⟨rfl, roundHalfAway_le (not_lt.mp granted), fun nonneg => add_roundHalfAway_le nonneg⟩
  | completeReceiving _ _ => exact reserves.elim
  | createAdjustment _ => exact reserves.elim
  | consumeReservation _ => exact reserves.elim
  | consumeOrder _ => exact reserves.elim

def interleaved (t : Side → StockTransaction) (row : ItemRow) (schedule : List Side) :
    Pair ItemRow :=
  Trace.run step (start (fun side => statements (t side)) row) schedule

/-- The committed counters are those of the two transactions in some order, and two reservations
that are granted fit in what was available. -/
structure NothingLost (t : Side → StockTransaction) (row : ItemRow) (c : Pair ItemRow) : Prop where
  serial : Serial (fun side => statements (t side)) row c
  promised : 0 ≤ row.reserved →
    (∀ side, (t side).Reserves ∧ (c.sessions side).answer = some true) →
      row.reserved + (t .left).quantity + (t .right).quantity ≤ row.onHand

theorem serial_promised {t : Side → StockTransaction} {row : ItemRow} {c : Pair ItemRow}
    (serial : Serial (fun side => statements (t side)) row c) (nonneg : 0 ≤ row.reserved)
    (granted : ∀ side, (t side).Reserves ∧ (c.sessions side).answer = some true) :
    row.reserved + (t .left).quantity + (t .right).quantity ≤ row.onHand := by
  obtain ⟨side, a, b, answer, answer', same⟩ := serial
  obtain rfl : true = a := Option.some.inj ((granted side).2.symm.trans answer)
  obtain rfl : true = b := Option.some.inj ((granted side.other).2.symm.trans answer')
  let between := (alone (statements (t side)) row row).1
  have first : alone (statements (t side)) row row = (between, true) :=
    Prod.ext rfl (congrArg (fun result => result.2.1) same)
  have second : alone (statements (t side.other)) between between = (c.row, true) :=
    Prod.ext (congrArg (fun result => result.1) same) (congrArg (fun result => result.2.2) same)
  obtain ⟨onHand, _, counted⟩ := alone_reserves (granted side).1 first
  obtain ⟨_, fits, _⟩ := alone_reserves (granted side.other).1 second
  have reserved := counted nonneg
  rw [onHand] at fits
  cases side with
  | left =>
    show row.reserved + (t .left).quantity + (t .right).quantity ≤ row.onHand
    have fits' : (t .right).quantity ≤ row.onHand - between.reserved := fits
    lia
  | right =>
    have fits' : (t .left).quantity ≤ row.onHand - between.reserved := fits
    lia

def between (left right : StockTransaction) : Side → StockTransaction
  | .left => left
  | .right => right

def adds (quantity : ℚ) : StockTransaction := .createAdjustment ⟨1, 30, 40, .add, quantity, none⟩

def holds (sourceId : Id) (quantity : ℚ) : StockTransaction :=
  .createReservation ⟨1, 30, 40, "catering", sourceId, quantity⟩

def deliveries : Pair ItemRow :=
  interleaved (between (adds 50000) (adds 30000)) ⟨100000, 0, []⟩
    [.left, .left, .right, .right, .left, .left, .right, .right]

def reservations : Pair ItemRow :=
  interleaved (between (holds 7 30000) (holds 8 30000)) ⟨50000, 0, []⟩
    [.left, .right, .left, .left, .right, .right]

end Exetron.Inventory.Concurrent
