import Mathlib.Algebra.BigOperators.Group.List.Basic
import Mathlib.Algebra.Ring.Nat
import Mathlib.Order.Monotone.Basic
import Mathlib.Tactic.SplitIfs

/-! The proleptic Gregorian calendar. Days are numbered from the first of
January of the year 1, which is day 1; each number belongs to one date, which
is found by the cycles of 400, 100 and 4 years. -/
namespace Gregorian

/-! ## Years and months -/

def IsLeap (year : Nat) : Prop := year % 4 = 0 ∧ (year % 100 ≠ 0 ∨ year % 400 = 0)

instance (year : Nat) : Decidable (IsLeap year) := inferInstanceAs (Decidable (_ ∧ _))

def yearLength (year : Nat) : Nat := if IsLeap year then 366 else 365

theorem yearLength_of_leap (leap : IsLeap year) : yearLength year = 366 := if_pos leap

theorem le_yearLength (year : Nat) : 365 ≤ yearLength year := by
  unfold yearLength
  split <;> omega

/-- The days of the twelve months. -/
def monthLengths (year : Nat) : List Nat :=
  [31, if IsLeap year then 29 else 28, 31, 30, 31, 30, 31, 31, 30, 31, 30, 31]

theorem sum_monthLengths (year : Nat) : (monthLengths year).sum = yearLength year := by
  unfold monthLengths yearLength
  split <;> rfl

/-- The days of the years from 1 up to this one. -/
def daysBeforeYear (year : Nat) : Nat :=
  365 * (year - 1) + (year - 1) / 4 - (year - 1) / 100 + (year - 1) / 400

/-- A year more passes one of four leap days, unless the century takes it. -/
theorem daysBeforeYear_succ (positive : 1 ≤ year) :
    daysBeforeYear (year + 1) = daysBeforeYear year + yearLength year := by
  obtain ⟨passed, rfl⟩ := Nat.exists_eq_add_of_le' positive
  have centuries : passed / 100 ≤ passed / 4 := Nat.div_le_div_left (by omega) (by omega)
  by_cases leap : IsLeap (passed + 1)
  · rw [yearLength, if_pos leap]
    unfold IsLeap at leap
    simp only [daysBeforeYear, Nat.add_sub_cancel, Nat.succ_div, Nat.dvd_iff_mod_eq_zero]
    split_ifs <;> omega
  · rw [yearLength, if_neg leap]
    unfold IsLeap at leap
    simp only [daysBeforeYear, Nat.add_sub_cancel, Nat.succ_div, Nat.dvd_iff_mod_eq_zero]
    split_ifs <;> omega

theorem daysBeforeYear_mono : Monotone daysBeforeYear := by
  apply monotone_nat_of_le_succ
  intro year
  cases year with
  | zero => exact Nat.zero_le _
  | succ year =>
    rw [daysBeforeYear_succ (Nat.le_add_left 1 year)]
    exact Nat.le_add_right ..

/-- The days of whole cycles of 400, 100, 4 and 1 years. -/
theorem daysBeforeYear_cycles (n400 : Nat) (few100 : n100 ≤ 3) (few4 : n4 ≤ 24) (few1 : n1 ≤ 3) :
    daysBeforeYear (400 * n400 + 100 * n100 + 4 * n4 + n1 + 1) =
      146097 * n400 + 36524 * n100 + 1461 * n4 + 365 * n1 := by
  have fourth : (400 * n400 + 100 * n100 + 4 * n4 + n1) / 4 = 100 * n400 + 25 * n100 + n4 := by omega
  have hundredth : (400 * n400 + 100 * n100 + 4 * n4 + n1) / 100 = 4 * n400 + n100 := by omega
  have fourHundredth : (400 * n400 + 100 * n100 + 4 * n4 + n1) / 400 = n400 := by omega
  rw [daysBeforeYear, Nat.add_sub_cancel, fourth, hundredth, fourHundredth]
  omega

/-- The days of the months of a year up to this one, numbered from 1. -/
def daysBeforeMonth (year month : Nat) : Nat := ((monthLengths year).take (month - 1)).sum

/-! ## Dates -/

/-- A date that exists. -/
structure Date where
  year : Nat
  month : Nat
  day : Nat
  era : 1 ≤ year
  counted : 1 ≤ month ∧ 1 ≤ day
  exists_ : ∃ length, (monthLengths year)[month - 1]? = some length ∧ day ≤ length

/-- The number of a date. -/
def Date.ordinal (date : Date) : Nat :=
  daysBeforeYear date.year + daysBeforeMonth date.year date.month + date.day

theorem sum_take_le (lengths : List Nat) (count : Nat) : (lengths.take count).sum ≤ lengths.sum := by
  rw [← List.sum_take_add_sum_drop lengths count]
  exact Nat.le_add_right ..

/-- A date lies in its year. -/
theorem Date.ordinal_bounds (date : Date) :
    daysBeforeYear date.year < date.ordinal ∧ date.ordinal ≤ daysBeforeYear (date.year + 1) := by
  obtain ⟨length, found, fits⟩ := date.exists_
  obtain ⟨inside, value⟩ := List.getElem?_eq_some_iff.mp found
  have upTo := sum_take_le (monthLengths date.year) (date.month - 1 + 1)
  rw [List.sum_take_succ _ _ inside, value, sum_monthLengths] at upTo
  have counted := date.counted.2
  rw [daysBeforeYear_succ date.era]
  unfold ordinal daysBeforeMonth
  omega

/-! ## The date of a number -/

/-- The piece that a position falls into, and the position in this piece. -/
def locate : List Nat → Nat → Nat × Nat
  | [], position => (0, position)
  | length :: lengths, position =>
    if position < length then (0, position)
    else ((locate lengths (position - length)).1 + 1, (locate lengths (position - length)).2)

theorem locate_spec {lengths : List Nat} (inside : position < lengths.sum) :
    (∃ length, lengths[(locate lengths position).1]? = some length ∧ (locate lengths position).2 < length) ∧
      (lengths.take (locate lengths position).1).sum + (locate lengths position).2 = position := by
  induction lengths generalizing position with
  | nil => simp at inside
  | cons length lengths ih =>
    unfold locate
    split
    · rename_i first
      exact ⟨⟨length, rfl, first⟩, by simp⟩
    · rename_i later
      rw [List.sum_cons] at inside
      have behind : position - length < lengths.sum := by omega
      obtain ⟨within, total⟩ := ih behind
      refine ⟨within, ?_⟩
      rw [List.take_succ_cons, List.sum_cons]
      omega

/-- The year that a day lies in, counted from 0 for the first day. The last day
of a cycle would begin a further part of it. -/
def yearOf (day : Nat) : Nat :=
  let n400 := day / 146097
  let n100 := day % 146097 / 36524
  let n4 := day % 146097 % 36524 / 1461
  let n1 := day % 146097 % 36524 % 1461 / 365
  if n1 = 4 ∨ n100 = 4 then 400 * n400 + 100 * n100 + 4 * n4 + n1
  else 400 * n400 + 100 * n100 + 4 * n4 + n1 + 1

theorem yearOf_spec (day : Nat) : 1 ≤ yearOf day ∧ daysBeforeYear (yearOf day) ≤ day ∧
    day < daysBeforeYear (yearOf day) + yearLength (yearOf day) := by
  have whole : day = 146097 * (day / 146097) + 36524 * (day % 146097 / 36524) +
      1461 * (day % 146097 % 36524 / 1461) + 365 * (day % 146097 % 36524 % 1461 / 365) +
      day % 146097 % 36524 % 1461 % 365 := by omega
  have last : day % 146097 % 36524 % 1461 % 365 ≤ 364 := by omega
  have few4 : day % 146097 % 36524 / 1461 ≤ 24 := by omega
  have most100 : day % 146097 / 36524 ≤ 4 := by omega
  have most1 : day % 146097 % 36524 % 1461 / 365 ≤ 4 := by omega
  have lastCentury : day % 146097 / 36524 = 4 → day % 146097 % 36524 / 1461 = 0 ∧
      day % 146097 % 36524 % 1461 / 365 = 0 ∧ day % 146097 % 36524 % 1461 % 365 = 0 := by omega
  have lastYear : day % 146097 % 36524 % 1461 / 365 = 4 →
      day % 146097 / 36524 ≤ 3 ∧ day % 146097 % 36524 / 1461 ≤ 23 ∧
        day % 146097 % 36524 % 1461 % 365 = 0 := by omega
  unfold yearOf
  generalize day / 146097 = n400 at *
  generalize day % 146097 / 36524 = n100 at *
  generalize day % 146097 % 36524 / 1461 = n4 at *
  generalize day % 146097 % 36524 % 1461 / 365 = n1 at *
  generalize day % 146097 % 36524 % 1461 % 365 = rest at *
  dsimp only
  -- The last day of a leap year is the one that a further part of the cycle would begin with.
  by_cases leapYear : n1 = 4
  · obtain ⟨few100, early, rfl⟩ := lastYear leapYear
    subst leapYear
    have leap : IsLeap (400 * n400 + 100 * n100 + 4 * n4 + 3 + 1) := by
      unfold IsLeap
      omega
    have begun := daysBeforeYear_cycles n400 few100 few4 (Nat.le_refl 3)
    have length := yearLength_of_leap leap
    have year : 400 * n400 + 100 * n100 + 4 * n4 + 4 = 400 * n400 + 100 * n100 + 4 * n4 + 3 + 1 := rfl
    rw [if_pos (.inl rfl), year]
    omega
  · by_cases century : n100 = 4
    · obtain ⟨rfl, rfl, rfl⟩ := lastCentury century
      subst century
      have leap : IsLeap (400 * n400 + 100 * 3 + 4 * 24 + 3 + 1) := by
        unfold IsLeap
        omega
      have begun := daysBeforeYear_cycles n400 (Nat.le_refl 3) (Nat.le_refl 24) (Nat.le_refl 3)
      have length := yearLength_of_leap leap
      have year : 400 * n400 + 100 * 4 + 4 * 0 + 0 = 400 * n400 + 100 * 3 + 4 * 24 + 3 + 1 := rfl
      rw [if_pos (.inr rfl), year]
      omega
    · have few100 : n100 ≤ 3 := by omega
      have few1 : n1 ≤ 3 := by omega
      have begun := daysBeforeYear_cycles n400 few100 few4 few1
      have longer := le_yearLength (400 * n400 + 100 * n100 + 4 * n4 + n1 + 1)
      rw [if_neg (by omega)]
      omega

theorem dayOfYear_lt (day : Nat) : day - daysBeforeYear (yearOf day) < (monthLengths (yearOf day)).sum := by
  obtain ⟨positive, begun, ends⟩ := yearOf_spec day
  rw [sum_monthLengths]
  omega

/-- The date with this number. -/
def ofOrdinal (ordinal : Nat) : Date :=
  let year := yearOf (ordinal - 1)
  let place := locate (monthLengths year) (ordinal - 1 - daysBeforeYear year)
  { year
    month := place.1 + 1
    day := place.2 + 1
    era := (yearOf_spec _).1
    counted := by omega
    exists_ := (locate_spec (dayOfYear_lt _)).1 }

/-- Each number from 1 on belongs to a date. -/
theorem ordinal_ofOrdinal (positive : 1 ≤ ordinal) : (ofOrdinal ordinal).ordinal = ordinal := by
  have begun := (yearOf_spec (ordinal - 1)).2.1
  have total := (locate_spec (dayOfYear_lt (ordinal - 1))).2
  unfold ofOrdinal Date.ordinal daysBeforeMonth
  dsimp only
  rw [Nat.add_sub_cancel]
  omega

example : ((ofOrdinal 719163).year, (ofOrdinal 719163).month, (ofOrdinal 719163).day) = (1970, 1, 1) := by rfl

end Gregorian
