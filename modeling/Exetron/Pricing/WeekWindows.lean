import Exetron.Lib.Arc
import Exetron.Pricing.Availability
import Mathlib.Data.Set.Lattice

/-!
# Windows of the week

The windows of `availability.util.ts` as arcs on the circle of the 10080 minutes of a week. A
window that ends before it starts runs into the next day, that of Saturday into Sunday.
-/

namespace Exetron.Pricing

open Lib

variable {window : AvailabilityWindow} {weekday first last : ℕ}

def twoDigits (n : ℕ) : List Char := [Nat.digitChar (n / 10), Nat.digitChar (n % 10)]

/-- The text of a minute of the day, `HH:MM`. -/
def clockText (minute : ℕ) : String :=
  String.ofList (twoDigits (minute / 60) ++ ':' :: twoDigits (minute % 60))

theorem digitChar_of_isDigit {c : Char} (digit : c.isDigit = true) :
    Nat.digitChar (c.toNat - '0'.toNat) = c ∧ c.toNat - '0'.toNat < 10 := by
  obtain ⟨low, high⟩ := Char.isDigit_iff_toNat.mp digit
  have small : c.toNat - '0'.toNat < 10 := by
    have nine : '9'.toNat = '0'.toNat + 9 := rfl
    omega
  have named : ∀ d < 10, Nat.digitChar d = Char.ofNat (d + '0'.toNat) := by decide
  refine ⟨?_, small⟩
  rw [named _ small, Nat.sub_add_cancel low, Char.ofNat_toNat]

theorem twoDigits_ofDigitChars {c c' : Char} (first : c.isDigit = true)
    (last : c'.isDigit = true) : twoDigits (Nat.ofDigitChars 10 [c, c'] 0) = [c, c'] := by
  obtain ⟨first, _⟩ := digitChar_of_isDigit first
  obtain ⟨last, small⟩ := digitChar_of_isDigit last
  simp only [Nat.ofDigitChars_cons, Nat.ofDigitChars_nil, Nat.mul_zero, Nat.zero_add, twoDigits]
  rw [Nat.mul_add_div (by decide), Nat.div_eq_of_lt small, Nat.mul_add_mod,
    Nat.mod_eq_of_lt small, Nat.add_zero, first, last]

theorem parseClockTime_clockText {minute : ℕ} (inside : minute < 1440) :
    parseClockTime (clockText minute) = .ok minute := by
  have hours : ∀ h < 24, ∃ c c', twoDigits h = [c, c'] ∧
      (c ∈ ['0', '1'] ∧ c'.isDigit ∨ c = '2' ∧ c' ∈ ['0', '1', '2', '3']) ∧
        Nat.ofDigitChars 10 [c, c'] 0 = h :=
    fun h small => ⟨_, _, rfl, by revert h; decide⟩
  have minutes : ∀ m < 60, ∃ c c', twoDigits m = [c, c'] ∧
      (c ∈ ['0', '1', '2', '3', '4', '5'] ∧ c'.isDigit) ∧ Nat.ofDigitChars 10 [c, c'] 0 = m :=
    fun m small => ⟨_, _, rfl, by revert m; decide⟩
  obtain ⟨h, h', hour, hourShape, hourIs⟩ := hours (minute / 60) (by omega)
  obtain ⟨m, m', past, pastShape, pastIs⟩ := minutes (minute % 60) (by omega)
  rw [parseClockTime, clockText, String.toList_ofList, hour, past]
  show (if _ then _ else _) = _
  rw [if_pos ⟨hourShape, pastShape⟩, hourIs, pastIs]
  congr 1
  omega

/-- A text that is read as a clock time is the text of its minute. -/
theorem clockText_of_parseClockTime {text : String} {minute : ℕ}
    (parsed : parseClockTime text = .ok minute) : minute < 1440 ∧ text = clockText minute := by
  unfold parseClockTime at parsed
  split at parsed
  case h_2 => cases parsed
  case h_1 h h' m m' chars =>
  split at parsed
  case isFalse => cases parsed
  case isTrue shape =>
  obtain ⟨hourShape, early, late⟩ := shape
  have hourDigits : h.isDigit = true ∧ h'.isDigit = true ∧
      Nat.ofDigitChars 10 [h, h'] 0 < 24 := by
    rcases hourShape with ⟨ten, digit⟩ | ⟨rfl, three⟩
    · obtain ⟨_, small⟩ := digitChar_of_isDigit digit
      refine ⟨?_, digit, ?_⟩
      · rcases List.mem_pair.mp ten with rfl | rfl <;> rfl
      · simp only [Nat.ofDigitChars_cons, Nat.ofDigitChars_nil]
        rcases List.mem_pair.mp ten with rfl | rfl <;> simp at small ⊢ <;> omega
    · simp only [List.mem_cons, List.not_mem_nil, or_false] at three
      rcases three with rfl | rfl | rfl | rfl <;> decide
  have minuteDigits : m.isDigit = true ∧ Nat.ofDigitChars 10 [m, m'] 0 < 60 := by
    obtain ⟨_, small⟩ := digitChar_of_isDigit late
    simp only [List.mem_cons, List.not_mem_nil, or_false] at early
    simp only [Nat.ofDigitChars_cons, Nat.ofDigitChars_nil]
    rcases early with rfl | rfl | rfl | rfl | rfl | rfl <;> simp at small ⊢ <;> omega
  obtain ⟨hDigit, hDigit', hour⟩ := hourDigits
  obtain ⟨mDigit, past⟩ := minuteDigits
  cases parsed
  refine ⟨by omega, ?_⟩
  have split : (Nat.ofDigitChars 10 [h, h'] 0 * 60 + Nat.ofDigitChars 10 [m, m'] 0) / 60 =
      Nat.ofDigitChars 10 [h, h'] 0 := by omega
  have rest : (Nat.ofDigitChars 10 [h, h'] 0 * 60 + Nat.ofDigitChars 10 [m, m'] 0) % 60 =
      Nat.ofDigitChars 10 [m, m'] 0 := by omega
  rw [clockText, split, rest, twoDigits_ofDigitChars hDigit hDigit',
    twoDigits_ofDigitChars mDigit late]
  exact String.toList_injective (by rw [chars, String.toList_ofList]; rfl)

abbrev MinuteOfWeek := ZMod 10080

def slotAt (x : MinuteOfWeek) : Slot where
  weekday := (x.val / 1440 : ℕ)
  minuteOfDay := x.val % 1440

def openFrom (weekday first last : ℕ) : Set MinuteOfWeek :=
  if first = last then arc (weekday * 1440 : ℕ) 1440
  else arc (weekday * 1440 + first : ℕ) (if first < last then last - first else 1440 - first + last)

/-- What the window says. -/
structure Denotes (window : AvailabilityWindow) (weekday first last : ℕ) : Prop where
  day : weekday < 7 ∧ window.weekday = weekday
  start : first < 1440 ∧ window.startTime = clockText first
  stop : last < 1440 ∧ window.endTime = clockText last

def minutesOf (window : AvailabilityWindow) : Set MinuteOfWeek :=
  {x | ∃ weekday first last, Denotes window weekday first last ∧ x ∈ openFrom weekday first last}

def WellFormed (window : AvailabilityWindow) : Prop :=
  0 ≤ window.weekday ∧ window.weekday ≤ 6 ∧
    (parseClockTime window.startTime).toOption.isSome = true ∧
      (parseClockTime window.endTime).toOption.isSome = true

theorem denotes_of_wellFormed (formed : WellFormed window) :
    ∃ weekday first last, Denotes window weekday first last := by
  obtain ⟨above, below, start, stop⟩ := formed
  exact ⟨window.weekday.toNat, _, _, ⟨by omega, by omega⟩,
    clockText_of_parseClockTime (eq_ok_get start), clockText_of_parseClockTime (eq_ok_get stop)⟩

theorem Denotes.unique {weekday' first' last' : ℕ} (denotes : Denotes window weekday first last)
    (denotes' : Denotes window weekday' first' last') :
    weekday = weekday' ∧ first = first' ∧ last = last' := by
  have minute : ∀ {m m' : ℕ} {text : String}, m < 1440 ∧ text = clockText m →
      m' < 1440 ∧ text = clockText m' → m = m' := by
    rintro m m' text ⟨inside, rfl⟩ ⟨inside', same⟩
    have read := parseClockTime_clockText inside
    rw [same, parseClockTime_clockText inside'] at read
    exact (Except.ok.inj read).symm
  refine ⟨?_, minute denotes.start denotes'.start, minute denotes.stop denotes'.stop⟩
  exact Int.ofNat.inj (denotes.day.2.symm.trans denotes'.day.2)

theorem mem_minutesOf_iff (denotes : Denotes window weekday first last) {x : MinuteOfWeek} :
    x ∈ minutesOf window ↔ x ∈ openFrom weekday first last := by
  refine ⟨fun ⟨_, _, _, denotes', inside⟩ => ?_, fun inside => ⟨_, _, _, denotes, inside⟩⟩
  obtain ⟨rfl, rfl, rfl⟩ := denotes.unique denotes'
  exact inside

theorem isWithinWindow_ok (denotes : Denotes window weekday first last) (x : MinuteOfWeek) :
    ∃ within,
      isWithinWindow window (slotAt x) = .ok within ∧
        (within = true ↔ x ∈ openFrom weekday first last) := by
  obtain ⟨⟨inWeek, day⟩, ⟨startInside, start⟩, stopInside, stop⟩ := denotes
  have inside := x.val_lt
  have next : ((weekday : ℤ) + 1).tmod 7 = ((weekday + 1) % 7 : ℕ) := rfl
  simp only [isWithinWindow, start, stop, day, parseClockTime_clockText startInside,
    parseClockTime_clockText stopInside, next, slotAt, Nat.cast_inj, pure, Except.pure, bind,
    Except.bind, openFrom]
  split
  case isTrue same =>
    refine ⟨_, rfl, ?_⟩
    rw [mem_arc_iff (by omega), decide_eq_true_iff]
    omega
  case isFalse different =>
    rw [mem_arc_iff (by omega)]
    split
    case isTrue before =>
      refine ⟨_, rfl, ?_⟩
      rw [decide_eq_true_iff]
      omega
    case isFalse after =>
      refine ⟨_, rfl, ?_⟩
      rw [decide_eq_true_iff]
      omega

theorem isWithinSomeWindow_ok {windows : List AvailabilityWindow}
    (formed : ∀ window ∈ windows, WellFormed window) (x : MinuteOfWeek) : ∃ within,
      isWithinSomeWindow (slotAt x) windows = .ok within ∧
        (within = true ↔ x ∈ ⋃ window ∈ windows, minutesOf window) := by
  induction windows with
  | nil => exact ⟨false, rfl, by simp⟩
  | cons window windows ih =>
    obtain ⟨first, others⟩ := List.forall_mem_cons.mp formed
    obtain ⟨_, _, _, denotes⟩ := denotes_of_wellFormed first
    obtain ⟨within, tested, here⟩ := isWithinWindow_ok denotes x
    obtain ⟨later, rest, there⟩ := ih others
    rw [← mem_minutesOf_iff denotes] at here
    refine ⟨within || later, ?_, ?_⟩
    · simp only [isWithinSomeWindow, tested, rest, bind, Except.bind]
      cases within <;> rfl
    · simp only [List.mem_cons, Set.iUnion_iUnion_eq_or_left, Set.mem_union, Bool.or_eq_true,
        here, there]

/-- The windows are open at exactly the minutes of their arcs; without windows there is no
restriction. -/
theorem isWithinAvailabilityWindows_exact {windows : List AvailabilityWindow}
    (formed : ∀ window ∈ windows, WellFormed window) (x : MinuteOfWeek) : ∃ within,
      isWithinAvailabilityWindows windows (slotAt x) = .ok within ∧
        (within = true ↔ windows = [] ∨ x ∈ ⋃ window ∈ windows, minutesOf window) := by
  by_cases none : windows = []
  · exact ⟨true, if_pos none, iff_of_true rfl (.inl none)⟩
  · obtain ⟨within, tested, exact_⟩ := isWithinSomeWindow_ok formed x
    exact ⟨within, (if_neg none).trans tested, exact_.trans (or_iff_right none).symm⟩

def saturdayNight : AvailabilityWindow where
  storeId := none
  targetType := .product
  targetId := 1
  weekday := 6
  startTime := "22:00"
  endTime := "02:00"

theorem saturdayNight_exact : ∃ within,
    isWithinAvailabilityWindows [saturdayNight] (slotAt 119) = .ok within ∧
      (within = true ↔ [saturdayNight] = [] ∨
        119 ∈ ⋃ window ∈ [saturdayNight], minutesOf window) := by
  refine isWithinAvailabilityWindows_exact ?_ 119
  rintro window (listed : window ∈ [saturdayNight])
  rw [List.mem_singleton.mp listed]
  exact ⟨by decide, by decide, by decide +kernel, by decide +kernel⟩

/-- Without windows the test holds although no window denotes a minute. -/
theorem noWindows_open : ¬∀ (windows : List AvailabilityWindow),
    (∀ window ∈ windows, WellFormed window) → ∀ x : MinuteOfWeek,
      isWithinAvailabilityWindows windows (slotAt x) = .ok true ↔
        x ∈ ⋃ window ∈ windows, minutesOf window := by
  intro claim
  have none := (claim [] (fun _ absent => absurd absent List.not_mem_nil) 0).mp rfl
  simp at none

end Exetron.Pricing
