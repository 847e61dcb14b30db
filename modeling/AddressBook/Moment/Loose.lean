import AddressBook.Moment.DateTime
import AddressBook.Text.Blank
import AddressBook.Text.Digit

namespace AddressBook.Moment.Loose

def isDigit (c : Char) : Bool := (Text.decimalDigit? c).isSome

def takeDigits? (least most : Nat) (text : List Char) : Option (List Char × List Char) :=
  let digits := (text.take most).takeWhile isDigit
  if digits.length < least then none else some (digits, text.drop digits.length)

def takeNumber? (least most : Nat) (text : List Char) : Option (Nat × List Char) :=
  (takeDigits? least most text).map fun (digits, rest) => (Text.decimalValue digits, rest)

def takeMark? (marks : List Char) (text : List Char) : Option (List Char) :=
  match text with
  | c :: rest => if marks.contains c then some rest else none
  | [] => none

/-- Splits off a fraction of a second in microseconds, of at most twelve digits of which the first
six count. -/
def takeFraction? (text : List Char) : Option (Nat × List Char) :=
  match takeMark? ['.', ','] text with
  | none => some (0, text)
  | some rest => do
    let (digits, rest) ← takeDigits? 1 12 rest
    let six := digits.take 6
    return (Text.decimalValue six * Nat.pow 10 (6 - six.length), rest)

def takeSecond? (text : List Char) : Option (Nat × Nat × List Char) :=
  match takeMark? [':'] text with
  | none => some (0, 0, text)
  | some rest => do
    let (second, rest) ← takeNumber? 1 2 rest
    let (microsecond, rest) ← takeFraction? rest
    return (second, microsecond, rest)

/-- The minutes of an offset behind its hours, which a colon may precede. -/
def offsetMinutes? (text : List Char) : Option Nat :=
  if text.isEmpty then some 0
  else
    match takeNumber? 2 2 ((takeMark? [':'] text).getD text) with
    | some (minutes, []) => some minutes
    | _ => none

def offset? (text : List Char) : Option (Option Int) :=
  match text with
  | [] => some none
  | ['Z'] => some (some 0)
  | sign :: rest =>
    if sign == '+' || sign == '-' then do
      let (hours, rest) ← takeNumber? 2 2 rest
      let total : Int := (hours * 60 + (← offsetMinutes? rest)) * 60000000
      return some (if sign == '-' then -total else total)
    else none

def withoutLineEnd (text : List Char) : List Char :=
  if text.getLast? == some '\n' then text.dropLast else text

/-- The numbers that a text spells, which may be out of their ranges. -/
def parts? (text : List Char) : Option (DateTime × Option Int) := do
  let (year, rest) ← takeNumber? 4 4 text
  let (month, rest) ← takeNumber? 1 2 (← takeMark? ['-'] rest)
  let (day, rest) ← takeNumber? 1 2 (← takeMark? ['-'] rest)
  let (hour, rest) ← takeNumber? 1 2 (← takeMark? ['T', ' '] rest)
  let (minute, rest) ← takeNumber? 1 2 (← takeMark? [':'] rest)
  let (second, microsecond, rest) ← takeSecond? rest
  let offset ← offset? (withoutLineEnd (rest.dropWhile Text.isBlank))
  return (⟨year, month, day, hour, minute, second, microsecond⟩, offset)

/-- The moment that a text spells; nothing for a text of another form. -/
def read (text : List Char) : Except DateTimeError (Option Moment) :=
  match parts? text with
  | none => .ok none
  | some (t, offset) => do
    offset.forM Moment.checkOffset
    let clock ← DateTime.create t.year t.month t.day t.hour t.minute t.second t.microsecond
    return some ⟨clock, offset⟩

end AddressBook.Moment.Loose
