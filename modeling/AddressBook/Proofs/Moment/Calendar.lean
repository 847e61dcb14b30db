import AddressBook.Moment.Calendar
import Mathlib.Algebra.BigOperators.Group.List.Basic
import Mathlib.Tactic.IntervalCases

namespace AddressBook
namespace Calendar

def daysInYear (year : Nat) : Nat := if isLeap year then 366 else 365

section Cycles
variable {era century cycle part : Nat}

/-- An era has four centuries, each of 25 cycles of four years. -/
theorem daysBeforeYear_cycles (c : century < 4) (q : cycle < 25) (k : part < 4) :
    daysBeforeYear (400 * era + 100 * century + 4 * cycle + part + 1) =
      146097 * era + 36524 * century + 1461 * cycle + 365 * part := by
  have fours : (400 * era + 100 * century + 4 * cycle + part) / 4 =
      100 * era + 25 * century + cycle := by omega
  have hundreds : (400 * era + 100 * century + 4 * cycle + part) / 100 = 4 * era + century := by omega
  have eras : (400 * era + 100 * century + 4 * cycle + part) / 400 = era := by omega
  rw [daysBeforeYear, Nat.add_sub_cancel, fours, hundreds, eras]
  omega

/-- The last year of a cycle is a leap year unless it ends a century and not an era. -/
theorem isLeap_cycles (c : century < 4) (q : cycle < 25) (k : part < 4) :
    isLeap (400 * era + 100 * century + 4 * cycle + part + 1) = true ↔
      part = 3 ∧ (cycle < 24 ∨ century = 3) := by
  have fours : (400 * era + 100 * century + 4 * cycle + part + 1) % 4 = (part + 1) % 4 := by omega
  have hundreds : (400 * era + 100 * century + 4 * cycle + part + 1) % 100 =
      (4 * cycle + part + 1) % 100 := by omega
  have eras : (400 * era + 100 * century + 4 * cycle + part + 1) % 400 =
      (100 * century + 4 * cycle + part + 1) % 400 := by omega
  simp only [isLeap, fours, hundreds, eras, Bool.and_eq_true, Bool.or_eq_true, beq_iff_eq, bne_iff_ne]
  omega

theorem daysInYear_cycles (c : century < 4) (q : cycle < 25) (k : part < 4) :
    daysInYear (400 * era + 100 * century + 4 * cycle + part + 1) =
      if part = 3 ∧ (cycle < 24 ∨ century = 3) then 366 else 365 := by
  unfold daysInYear
  simp only [isLeap_cycles c q k]

end Cycles

theorem daysBeforeYear_succ {year : Nat} (positive : 1 ≤ year) :
    daysBeforeYear (year + 1) = daysBeforeYear year + daysInYear year := by
  have fours : year / 4 = (year - 1) / 4 + if year % 4 = 0 then 1 else 0 := by split <;> omega
  have hundreds : year / 100 = (year - 1) / 100 + if year % 100 = 0 then 1 else 0 := by
    split <;> omega
  have eras : year / 400 = (year - 1) / 400 + if year % 400 = 0 then 1 else 0 := by
    split <;> omega
  have enough : (year - 1) / 100 ≤ (year - 1) * 365 := by omega
  rw [daysBeforeYear, daysBeforeYear, Nat.add_sub_cancel, fours, hundreds, eras, daysInYear, isLeap]
  simp only [Bool.and_eq_true, Bool.or_eq_true, beq_iff_eq, bne_iff_ne, ne_eq]
  clear fours hundreds eras
  generalize (year - 1) / 4 = a, (year - 1) / 100 = b, (year - 1) / 400 = c at *
  split_ifs <;> omega

theorem daysBeforeYear_add_daysInYear_le {year later : Nat} (positive : 1 ≤ year) (h : year < later) :
    daysBeforeYear year + daysInYear year ≤ daysBeforeYear later := by
  induction later, h using Nat.le_induction with
  | base => rw [daysBeforeYear_succ positive]
  | succ later above ih =>
    rw [daysBeforeYear_succ (by omega)]
    omega

/-- The year of a day began before it and does not end before it. -/
theorem splitYear_spec (number : Nat) :
    1 ≤ (splitYear number).1 ∧
      daysBeforeYear (splitYear number).1 + (splitYear number).2 = number ∧
      (splitYear number).2 < daysInYear (splitYear number).1 := by
  obtain ⟨era, hera⟩ : ∃ era, era = number / 146097 := ⟨_, rfl⟩
  obtain ⟨inEra, hinEra⟩ : ∃ n, n = number % 146097 := ⟨_, rfl⟩
  obtain ⟨century, hcentury⟩ : ∃ n, n = min (inEra / 36524) 3 := ⟨_, rfl⟩
  obtain ⟨inCentury, hinCentury⟩ : ∃ n, n = inEra - century * 36524 := ⟨_, rfl⟩
  obtain ⟨cycle, hcycle⟩ : ∃ n, n = inCentury / 1461 := ⟨_, rfl⟩
  obtain ⟨inCycle, hinCycle⟩ : ∃ n, n = inCentury % 1461 := ⟨_, rfl⟩
  obtain ⟨part, hpart⟩ : ∃ n, n = min (inCycle / 365) 3 := ⟨_, rfl⟩
  have split : splitYear number = (400 * era + 100 * century + 4 * cycle + part + 1,
      inCycle - 365 * part) := by
    simp only [splitYear, ← hera, ← hinEra, ← hcentury, ← hinCentury, ← hcycle, ← hinCycle, ← hpart,
      Prod.mk.injEq]
    omega
  have c : century < 4 := by omega
  have q : cycle < 25 := by omega
  have k : part < 4 := by omega
  rw [split]
  simp only [daysBeforeYear_cycles c q k, daysInYear_cycles c q k]
  refine ⟨by omega, by omega, ?_⟩
  split <;> omega

theorem daysBeforeMonth_eq_sum (year month : Nat) :
    daysBeforeMonth year month = ((monthLengths (isLeap year)).take (month - 1)).sum := by
  rw [daysBeforeMonth, List.sum_eq_foldl]

theorem daysBeforeMonth_succ (year : Nat) {month : Nat} (positive : 1 ≤ month) (within : month ≤ 12) :
    daysBeforeMonth year (month + 1) = daysBeforeMonth year month + daysInMonth year month := by
  unfold daysBeforeMonth daysInMonth
  generalize isLeap year = leap
  interval_cases month <;> cases leap <;> rfl

theorem daysBeforeMonth_last (year : Nat) : daysBeforeMonth year 13 = daysInYear year := by
  unfold daysBeforeMonth daysInYear
  cases isLeap year <;> rfl

theorem daysBeforeMonth_add_daysInMonth_le (year : Nat) {month later : Nat} (positive : 1 ≤ month)
    (h : month < later) (within : later ≤ 13) :
    daysBeforeMonth year month + daysInMonth year month ≤ daysBeforeMonth year later := by
  induction later, h using Nat.le_induction with
  | base => rw [daysBeforeMonth_succ year positive (by omega)]
  | succ later above ih =>
    rw [daysBeforeMonth_succ year (by omega) (by omega)]
    have before := ih (by omega)
    omega

/-- Walking through months ends in the month that contains the day. -/
theorem walkMonths_spec {lengths : List Nat} {first day : Nat} (within : day < lengths.sum) :
    ∃ i, i < lengths.length ∧ (walkMonths first day lengths).1 = first + i ∧
      (lengths.take i).sum + ((walkMonths first day lengths).2 - 1) = day ∧
      1 ≤ (walkMonths first day lengths).2 ∧
      (walkMonths first day lengths).2 ≤ lengths.getD i 0 := by
  induction lengths generalizing first day with
  | nil => simp at within
  | cons length rest ih =>
    rw [walkMonths]
    by_cases inside : day < length
    · rw [if_pos inside]
      exact ⟨0, by simp, rfl, by simp, by simp, by simpa using Nat.succ_le_of_lt inside⟩
    · rw [if_neg inside]
      rw [List.sum_cons] at within
      obtain ⟨i, bound, month, total, low, high⟩ := @ih (first + 1) (day - length) (by omega)
      refine ⟨i + 1, by simpa using bound, by omega, ?_, low, by simpa using high⟩
      rw [List.take_succ_cons, List.sum_cons]
      omega

end Calendar

/-- Whether the calendar has a date. -/
structure Date.IsValid (date : Date) : Prop where
  year : 1 ≤ date.year
  month : 1 ≤ date.month
  month_le : date.month ≤ 12
  day : 1 ≤ date.day
  day_le : date.day ≤ Calendar.daysInMonth date.year date.month

namespace Calendar

/-- The date of a day is one that the calendar has, and its number is that of the day. -/
theorem dateOf_spec (number : Nat) : (dateOf number).IsValid ∧ dayNumber (dateOf number) = number := by
  obtain ⟨positive, total, within⟩ := splitYear_spec number
  rcases split : splitYear number with ⟨year, rest⟩
  rw [split] at positive total within
  have months : (monthLengths (isLeap year)).sum = daysInYear year := by
    unfold daysInYear
    cases isLeap year <;> rfl
  obtain ⟨i, bound, month, days, low, high⟩ :=
    @walkMonths_spec (monthLengths (isLeap year)) 1 rest (months ▸ within)
  rcases walk : walkMonths 1 rest (monthLengths (isLeap year)) with ⟨m, day⟩
  rw [walk] at month days low high
  have date : dateOf number = ⟨year, m, day⟩ := by
    rw [dateOf, split]
    simp only
    rw [walk]
  rw [monthLengths, List.length_cons] at bound
  simp only [List.length_cons, List.length_nil] at bound
  simp only at month days low high positive total
  have shift : m - 1 = i := by omega
  rw [date]
  refine ⟨⟨positive, by simp only; omega, by simp only; omega, low, ?_⟩, ?_⟩
  · simp only [daysInMonth, shift]
    exact high
  · simp only [dayNumber, daysBeforeMonth_eq_sum, shift]
    omega

end Calendar

namespace Date.IsValid
open Calendar
variable {date other : Date}

/-- A date lies in its year and its month. -/
theorem dayNumber_lt (valid : date.IsValid) :
    dayNumber date < daysBeforeYear date.year +
      (daysBeforeMonth date.year date.month + daysInMonth date.year date.month) := by
  have low := valid.day
  have high := valid.day_le
  unfold dayNumber
  omega

/-- Later dates have greater numbers. -/
theorem dayNumber_lt_dayNumber (valid : date.IsValid) (valid' : other.IsValid)
    (later : date.year < other.year ∨ date.year = other.year ∧
      (date.month < other.month ∨ date.month = other.month ∧ date.day < other.day)) :
    dayNumber date < dayNumber other := by
  have inMonth := valid.dayNumber_lt
  rcases later with year | ⟨year, month | ⟨month, day⟩⟩
  · have inYear := daysBeforeMonth_add_daysInMonth_le date.year valid.month
      (Nat.lt_succ_of_le valid.month_le) (Nat.le_refl 13)
    have between := daysBeforeYear_add_daysInYear_le valid.year year
    rw [daysBeforeMonth_last] at inYear
    have from_year : daysBeforeYear other.year ≤ dayNumber other := by
      unfold dayNumber
      omega
    omega
  · have between := daysBeforeMonth_add_daysInMonth_le date.year valid.month month
      (Nat.le_succ_of_le valid'.month_le)
    have from_month : daysBeforeYear date.year + daysBeforeMonth date.year other.month ≤
        dayNumber other := by
      unfold dayNumber
      rw [year]
      omega
    omega
  · have low := valid.day
    unfold dayNumber
    rw [year, month]
    omega

/-- Dates are in the order of their numbers. -/
theorem dayNumber_lt_iff (valid : date.IsValid) (valid' : other.IsValid) :
    dayNumber date < dayNumber other ↔ date.year < other.year ∨ date.year = other.year ∧
      (date.month < other.month ∨ date.month = other.month ∧ date.day < other.day) := by
  constructor
  · intro less
    by_contra notLater
    have back := valid'.dayNumber_lt_dayNumber valid
    by_cases same : other.year = date.year ∧ other.month = date.month ∧ other.day = date.day
    · obtain ⟨year, month, day⟩ := same
      simp only [dayNumber, year, month, day] at less
      omega
    · have earlier := back (by omega)
      omega
  · exact valid.dayNumber_lt_dayNumber valid'

end Date.IsValid
end AddressBook
