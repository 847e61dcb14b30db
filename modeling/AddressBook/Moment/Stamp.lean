import AddressBook.Moment.Iso
import AddressBook.Moment.Iso.Reader
import AddressBook.Moment.Loose
import AddressBook.Number.Decimal
import AddressBook.Store.Numeral
import AddressBook.Store.Table

namespace AddressBook

/-- A moment as a table keeps it: a text of universal time. A text that is a decimal number is kept
as that number. -/
inductive Stamp where
  | integer (value : Int)
  | real (value : Double)
  | infinite (negative : Bool)
  | text (value : String)
  deriving DecidableEq, Repr

namespace Stamp

/-- A floating point number, as an integer if it is one of at most 64 bits. -/
def ofDouble (value : Double) : Stamp :=
  if value.isInteger && Table.fits value.truncate then .integer value.truncate else .real value

def ofText (text : String) : Stamp :=
  match Table.Numeral.ofChars? text.toList with
  | none => .text text
  | some n =>
    if n.isPlain && Table.fits n.integer then .integer n.integer
    else
      match n.double? with
      | some value => ofDouble value
      | none => .infinite n.negative

/-- The stamp of a reading of universal time. -/
def ofDateTime (t : DateTime) : Stamp := .text (String.ofList (t.isoChars ' '))

/-- The stamp of a moment, unless its universal time lies outside the years 1 to 9999. -/
def ofMoment? (m : Moment) : Option Stamp := m.universal?.map ofDateTime

/-- A floating point number with fifteen digits and always a point. -/
def realChars (value : Double) : List Char :=
  let shown := value.generalChars 15 false
  let shown := if shown.contains '.' then shown else
    shown.takeWhile (· != 'e') ++ '.' :: '0' :: shown.dropWhile (· != 'e')
  if value.negative then '-' :: shown else shown

def shownChars : Stamp → List Char
  | .integer value => (toString value).toList
  | .real value => realChars value
  | .infinite negative => (if negative then "-Inf" else "Inf").toList
  | .text value => value.toList

def fraction (value : Double) : Rat :=
  let (numerator, denominator) := value.magnitude
  if value.negative then -mkRat numerator denominator else mkRat numerator denominator

/-- Whether a stamp is below another one. -/
def isBelow : Stamp → Stamp → Bool
  | .text a, .text b => a < b
  | .text _, _ => false
  | _, .text _ => true
  | .infinite a, .infinite b => a && !b
  | .infinite a, _ => a
  | _, .infinite b => !b
  | .integer a, .integer b => a < b
  | .integer a, .real b => (a : Rat) < fraction b
  | .real a, .integer b => fraction a < (b : Rat)
  | .real a, .real b => fraction a < fraction b

/-- The moment that a stamp tells, always with an offset; nothing if it cannot be read. -/
def read (s : Stamp) : Except DateTimeError (Option Moment) :=
  let aware (m : Moment) : Moment := { m with offset := some (m.offset.getD 0) }
  match Moment.Iso.read? s.shownChars with
  | some moment => .ok (some (aware moment))
  | none => (Moment.Loose.read s.shownChars).map (·.map aware)

end Stamp
end AddressBook
