import AddressBook.Moment.Calendar

namespace AddressBook

structure DateTime where
  year : Nat
  month : Nat
  day : Nat
  hour : Nat
  minute : Nat
  second : Nat
  microsecond : Nat
  deriving DecidableEq, Repr

inductive DateTimeError where
  /-- A part of more than 32 bits. -/
  | tooGreat
  | tooSmall
  /-- A part of more than 64 bits. -/
  | tooLong
  | year (got : Int)
  | month
  | day
  | hour
  | minute
  | second
  | microsecond
  | offset (microseconds : Int)
  | offsetDays (days : Int)
  /-- An offset whose days have more than 32 bits. -/
  | offsetTooLong
  deriving DecidableEq, Repr

/-- A span of time as its days, seconds and microseconds, those left out that are zero. -/
def spanText (microseconds : Int) : String :=
  let parts := [("days", microseconds / 86400000000),
    ("seconds", microseconds / 1000000 % 86400), ("microseconds", microseconds % 1000000)]
  let shown := (parts.filter fun part => part.2 ≠ 0).map fun part =>
    part.1 ++ "=" ++ toString part.2
  if shown.isEmpty then "0" else ", ".intercalate shown

def DateTimeError.message : DateTimeError → String
  | .tooGreat => "signed integer is greater than maximum"
  | .tooSmall => "signed integer is less than minimum"
  | .tooLong => "Python int too large to convert to C long"
  | .year got => "year " ++ toString got ++ " is out of range"
  | .month => "month must be in 1..12"
  | .day => "day is out of range for month"
  | .hour => "hour must be in 0..23"
  | .minute => "minute must be in 0..59"
  | .second => "second must be in 0..59"
  | .microsecond => "microsecond must be in 0..999999"
  | .offset microseconds =>
    "offset must be a timedelta strictly between -timedelta(hours=24) and timedelta(hours=24), " ++
      "not datetime.timedelta(" ++ spanText microseconds ++ ")."
  | .offsetDays days =>
    "days=" ++ toString days ++ "; must have magnitude <= 999999999"
  | .offsetTooLong => "Python int too large to convert to C int"

namespace DateTime

def minYear : Nat := 1

def maxYear : Nat := 9999

def checkPart (n : Int) : Except DateTimeError Unit :=
  if n < -9223372036854775808 ∨ 9223372036854775807 < n then .error .tooLong
  else if n < -2147483648 then .error .tooSmall
  else if 2147483647 < n then .error .tooGreat
  else .ok ()

/-- The reading that the numbers make up; the first number out of its range is refused. -/
def create (year month day hour minute second microsecond : Int) :
    Except DateTimeError DateTime := do
  [year, month, day, hour, minute, second, microsecond].forM checkPart
  if year < minYear ∨ (maxYear : Int) < year then .error (.year year)
  else if month < 1 ∨ 12 < month then .error .month
  else if day < 1 ∨ (Calendar.daysInMonth year.toNat month.toNat : Int) < day then .error .day
  else if hour < 0 ∨ 23 < hour then .error .hour
  else if minute < 0 ∨ 59 < minute then .error .minute
  else if second < 0 ∨ 59 < second then .error .second
  else if microsecond < 0 ∨ 999999 < microsecond then .error .microsecond
  else .ok ⟨year.toNat, month.toNat, day.toNat, hour.toNat, minute.toNat, second.toNat,
    microsecond.toNat⟩

/-- Whether every part is in its range. -/
def IsValid (t : DateTime) : Prop :=
  minYear ≤ t.year ∧ t.year ≤ maxYear ∧ 1 ≤ t.month ∧ t.month ≤ 12 ∧ 1 ≤ t.day ∧
    t.day ≤ Calendar.daysInMonth t.year t.month ∧ t.hour < 24 ∧ t.minute < 60 ∧ t.second < 60 ∧
    t.microsecond < 1000000

instance (t : DateTime) : Decidable t.IsValid := by unfold IsValid; infer_instance

def date (t : DateTime) : Date := ⟨t.year, t.month, t.day⟩

/-- Microseconds since the year 1 began. -/
def micros (t : DateTime) : Nat :=
  (((Calendar.dayNumber t.date * 24 + t.hour) * 60 + t.minute) * 60 + t.second) * 1000000 +
    t.microsecond

def ofMicros (n : Nat) : DateTime :=
  let seconds := n / 1000000
  let date := Calendar.dateOf (seconds / 86400)
  ⟨date.year, date.month, date.day, seconds / 3600 % 24, seconds / 60 % 60, seconds % 60,
    n % 1000000⟩

/-- Microseconds from the beginning of the year 1 to that of 1970. -/
def epochMicros : Nat := 62135596800000000

/-- Microseconds from the beginning of the year 1 to that of 10000. -/
def endMicros : Nat := 315537897600000000

end DateTime

/-- A wall clock reading and how many microseconds its clock is ahead of universal time; without an
offset it is one of universal time. -/
structure Moment where
  clock : DateTime
  offset : Option Int
  deriving DecidableEq, Repr

namespace Moment

def checkOffset (microseconds : Int) : Except DateTimeError Unit :=
  let days := microseconds / 86400000000
  if days < -2147483648 ∨ 2147483647 < days then .error .offsetTooLong
  else if 999999999 < days.natAbs then .error (.offsetDays days)
  else if 86400000000 ≤ microseconds.natAbs then .error (.offset microseconds)
  else .ok ()

def create (clock : DateTime) (offset : Option Int) : Except DateTimeError Moment :=
  match offset with
  | none => .ok ⟨clock, none⟩
  | some microseconds => (checkOffset microseconds).map fun _ => ⟨clock, some microseconds⟩

/-- Microseconds since the beginning of 1970 in universal time. -/
def instant (m : Moment) : Int :=
  (m.clock.micros : Int) - (DateTime.epochMicros : Int) - m.offset.getD 0

/-- The reading of universal time at this moment, unless it lies outside the years 1 to 9999. -/
def universal? (m : Moment) : Option DateTime :=
  let n := m.instant + (DateTime.epochMicros : Int)
  if 0 ≤ n ∧ n < (DateTime.endMicros : Int) then some (DateTime.ofMicros n.toNat) else none

end Moment
end AddressBook
