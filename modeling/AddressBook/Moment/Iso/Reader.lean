import AddressBook.Moment.DateTime
import AddressBook.Text.Digit

namespace AddressBook.Moment.Iso

def takeNumber? (count : Nat) (text : List Char) : Option (Nat × List Char) :=
  let digits := text.take count
  if digits.length = count ∧ digits.all Char.isDigit then
    some (Text.asciiValue digits, text.drop count)
  else none

/-- How many characters the date takes. Behind a week any character may begin the time, so digits
decide whether the week is followed by a day. -/
def dateLength (text : List Char) : Nat :=
  let char (i : Nat) : Char := text.getD i ' '
  if text.length = 7 then 7
  else if char 4 == '-' && char 5 == 'W' then
    if char 8 == '-' && !(char 10).isDigit then 10 else 8
  else if char 4 == '-' then 10
  else if char 4 == 'W' then
    let digits := ((text.drop 7).takeWhile Char.isDigit).length
    if digits < 2 then 7 + digits else if digits % 2 = 1 then 7 else 8
  else 8

/-- A mark that is there if and only if the parts of the date are marked off. -/
def takeMark? (marked : Bool) (text : List Char) : Option (List Char) :=
  if !marked then some text
  else
    match text with
    | '-' :: rest => some rest
    | _ => none

def date? (text : List Char) : Option Date := do
  let (year, rest) ← takeNumber? 4 text
  let marked := rest.head? == some '-'
  let rest ← takeMark? marked rest
  match rest with
  | 'W' :: rest =>
    let (week, rest) ← takeNumber? 2 rest
    if rest.isEmpty then Calendar.ofWeek? year week 1
    else
      let (day, _) ← takeNumber? 1 (← takeMark? marked rest)
      Calendar.ofWeek? year week day
  | _ =>
    let (month, rest) ← takeNumber? 2 rest
    let (day, rest) ← takeNumber? 2 (← takeMark? marked rest)
    if rest.isEmpty then some ⟨year, month, day⟩ else none

structure Time where
  hour : Nat
  minute : Nat
  second : Nat
  microsecond : Nat

/-- Splits off a fraction of a second in microseconds; digits after the sixth do not count. -/
def takeFraction? (text : List Char) : Option (Nat × List Char) :=
  let six := text.take 6
  if six.all Char.isDigit then
    some (Text.asciiValue six * Nat.pow 10 (6 - six.length),
      (text.drop 6).dropWhile Char.isDigit)
  else none

inductive Continuation where
  /-- No further part; at most one character, an ASCII one, is left. -/
  | finish (rest : List Char)
  | part (rest : List Char)
  | fraction (rest : List Char)

/-- What comes behind an hour, a minute or, if `last`, a second. Without colons the parts follow one
another, and so do the second and its fraction. -/
def continuation? (colons last : Bool) (text : List Char) : Option Continuation :=
  let next (rest : List Char) : Continuation := if last then .fraction rest else .part rest
  match text with
  | [] => some (.finish [])
  | [c] => if c.toNat < 0x80 then some (.finish [c]) else none
  | c :: rest =>
    if colons && c == ':' then some (next rest)
    else if c == '.' || c == ',' then some (.fraction rest)
    else if colons then none
    else some (next text)

def takeTime? (text : List Char) : Option (Time × List Char) := do
  let (hour, rest) ← takeNumber? 2 text
  let colons := rest.head? == some ':'
  match ← continuation? colons false rest with
  | .finish rest => return (⟨hour, 0, 0, 0⟩, rest)
  | .fraction rest =>
    let (microsecond, rest) ← takeFraction? rest
    return (⟨hour, 0, 0, microsecond⟩, rest)
  | .part rest =>
    let (minute, rest) ← takeNumber? 2 rest
    match ← continuation? colons false rest with
    | .finish rest => return (⟨hour, minute, 0, 0⟩, rest)
    | .fraction rest =>
      let (microsecond, rest) ← takeFraction? rest
      return (⟨hour, minute, 0, microsecond⟩, rest)
    | .part rest =>
      let (second, rest) ← takeNumber? 2 rest
      match ← continuation? colons true rest with
      | .finish rest => return (⟨hour, minute, second, 0⟩, rest)
      | .fraction rest | .part rest =>
        let (microsecond, rest) ← takeFraction? rest
        return (⟨hour, minute, second, microsecond⟩, rest)

def Time.seconds (t : Time) : Nat := (t.hour * 60 + t.minute) * 60 + t.second

/-- The offset in microseconds that a sign and a time, or the letter Z, spell. One of less than a
second is none. -/
def offset? (text : List Char) : Option Int :=
  match text with
  | ['Z'] => some 0
  | 'Z' :: _ => none
  | sign :: rest => do
    let (time, rest) ← takeTime? rest
    if !rest.isEmpty then none
    else
      let total : Int := if time.seconds = 0 then 0 else time.seconds * 1000000 + time.microsecond
      return if sign == '-' then -total else total
  | [] => none

def beginsOffset (c : Char) : Bool := c == '+' || c == '-' || c == 'Z'

/-- A time and the offset behind it. What is left of the time in front of an offset does not
matter. -/
def timeAndOffset? (text : List Char) : Option (Time × Option Int) := do
  let offsetText := text.dropWhile fun c => !beginsOffset c
  let (time, rest) ← takeTime? (text.takeWhile fun c => !beginsOffset c)
  if offsetText.isEmpty then
    if rest.isEmpty then return (time, none) else none
  else return (time, some (← offset? offsetText))

/-- The moment that a text spells; a date alone is its midnight. -/
def read? (text : List Char) : Option Moment := do
  if text.length < 7 then none
  else
    let date ← date? (text.take (dateLength text))
    let (time, offset) ← match text.drop (dateLength text) with
      | [] => some (⟨0, 0, 0, 0⟩, none)
      | _ :: rest => timeAndOffset? rest
    let clock ← (DateTime.create date.year date.month date.day time.hour time.minute time.second
      time.microsecond).toOption
    (Moment.create clock offset).toOption

end AddressBook.Moment.Iso
