namespace AddressBook

structure Date where
  year : Nat
  month : Nat
  day : Nat
  deriving DecidableEq, Repr

namespace Calendar

def isLeap (year : Nat) : Bool := year % 4 == 0 && (year % 100 != 0 || year % 400 == 0)

def monthLengths (leap : Bool) : List Nat :=
  [31, if leap then 29 else 28, 31, 30, 31, 30, 31, 31, 30, 31, 30, 31]

/-- How many days a month has; months count from 1. -/
def daysInMonth (year month : Nat) : Nat := (monthLengths (isLeap year)).getD (month - 1) 0

def daysBeforeYear (year : Nat) : Nat :=
  (year - 1) * 365 + (year - 1) / 4 - (year - 1) / 100 + (year - 1) / 400

def daysBeforeMonth (year month : Nat) : Nat :=
  ((monthLengths (isLeap year)).take (month - 1)).foldl (· + ·) 0

def dayNumber (date : Date) : Nat :=
  daysBeforeYear date.year + daysBeforeMonth date.year date.month + (date.day - 1)

/-- The month and the day in it, `day` days after the first of `month`. -/
def walkMonths (month day : Nat) : List Nat → Nat × Nat
  | [] => (month, day + 1)
  | length :: rest =>
    if day < length then (month, day + 1) else walkMonths (month + 1) (day - length) rest

/-- The year that contains a day and how many days of it went before. Four centuries, a century,
four years and a year are split off in turn; the last day of a leap year would begin a fifth
part. -/
def splitYear (number : Nat) : Nat × Nat :=
  let inEra := number % 146097
  let century := min (inEra / 36524) 3
  let inCentury := inEra - century * 36524
  let inLeapCycle := inCentury % 1461
  let cycleYear := min (inLeapCycle / 365) 3
  (number / 146097 * 400 + century * 100 + inCentury / 1461 * 4 + cycleYear + 1,
    inLeapCycle - cycleYear * 365)

def dateOf (number : Nat) : Date :=
  let (year, rest) := splitYear number
  let (month, day) := walkMonths 1 rest (monthLengths (isLeap year))
  ⟨year, month, day⟩

/-- The days of the week count from Monday, which is 0; the year 1 began with one. -/
def weekday (number : Nat) : Nat := number % 7

/-- The day on which the first week of a year begins: it is the week that has the first Thursday. -/
def firstMonday (year : Nat) : Int :=
  let newYear := dayNumber ⟨year, 1, 1⟩
  (newYear : Int) - weekday newYear + if 3 < weekday newYear then 7 else 0

/-- Whether a year has 53 weeks and not 52: it has as many Thursdays. -/
def hasLongWeekYear (year : Nat) : Bool :=
  let first := weekday (dayNumber ⟨year, 1, 1⟩)
  first == 3 || (first == 2 && isLeap year)

def ofWeek? (year week day : Nat) : Option Date :=
  if year = 0 ∨ week = 0 ∨ (if hasLongWeekYear year then 53 else 52) < week ∨ day = 0 ∨ 7 < day then
    none
  else some (dateOf (firstMonday year + (week - 1) * 7 + (day - 1)).toNat)

end Calendar
end AddressBook
