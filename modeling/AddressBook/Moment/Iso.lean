import AddressBook.Moment.DateTime

namespace AddressBook

def paddedDigits (width n : Nat) : List Char :=
  let digits := Nat.toDigits 10 n
  List.replicate (width - digits.length) '0' ++ digits

namespace DateTime

def dateChars (t : DateTime) : List Char :=
  paddedDigits 4 t.year ++ '-' :: paddedDigits 2 t.month ++ '-' :: paddedDigits 2 t.day

def clockChars (t : DateTime) : List Char :=
  paddedDigits 2 t.hour ++ ':' :: paddedDigits 2 t.minute ++ ':' :: paddedDigits 2 t.second

def fractionChars (t : DateTime) : List Char :=
  if t.microsecond = 0 then [] else '.' :: paddedDigits 6 t.microsecond

/-- The whole reading, with a character of choice between date and time. -/
def isoChars (separator : Char) (t : DateTime) : List Char :=
  t.dateChars ++ separator :: t.clockChars ++ t.fractionChars

/-- The reading to the second, its year not padded. -/
def display (t : DateTime) : String :=
  String.ofList (Nat.toDigits 10 t.year ++ t.dateChars.drop (paddedDigits 4 t.year).length ++
    ' ' :: t.clockChars)

end DateTime

namespace Moment

/-- An offset as hours and minutes, and as much of the seconds as is not zero. -/
def offsetChars (microseconds : Int) : List Char :=
  let n := microseconds.natAbs
  let seconds := n / 1000000
  (if microseconds < 0 then '-' else '+') :: paddedDigits 2 (seconds / 3600) ++
    ':' :: paddedDigits 2 (seconds / 60 % 60) ++
    (if n % 60000000 = 0 then [] else ':' :: paddedDigits 2 (seconds % 60)) ++
    (if n % 1000000 = 0 then [] else '.' :: paddedDigits 6 (n % 1000000))

def iso (m : Moment) : String :=
  String.ofList (m.clock.isoChars 'T' ++ (m.offset.map offsetChars).getD [])

end Moment
end AddressBook
