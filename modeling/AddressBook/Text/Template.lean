import AddressBook.Text.Template.Directive

namespace AddressBook.Text

/-- What is left to fill: the text, at which character of the template it starts, and the values. -/
structure Filling where
  mapping : Option Fields
  values : List Json
  index : Nat
  rest : List Char

namespace Filling

def skip (count : Nat) (f : Filling) : Filling :=
  { f with index := f.index + count, rest := f.rest.drop count }

def value (f : Filling) : Except TemplateError (Json × Filling) :=
  match f.values with
  | value :: values => .ok (value, { f with values })
  | [] => .error .tooFewValues

/-- How many characters a key takes with the bracket that closes it, `depth` brackets being open. -/
def keyLength? (depth : Nat) : List Char → Option Nat
  | [] => none
  | c :: rest =>
    if c == ')' then if depth = 1 then some 1 else (keyLength? (depth - 1) rest).map (· + 1)
    else (keyLength? (if c == '(' then depth + 1 else depth) rest).map (· + 1)

/-- Takes a key, if there is one; its value becomes the only one that is left. -/
def takeKey (f : Filling) : Except TemplateError Filling :=
  match f.rest, f.mapping with
  | '(' :: _, none => .error .noMapping
  | '(' :: rest, some fields =>
    match keyLength? 1 rest with
    | none => .error .incompleteKey
    | some length =>
      let key := String.ofList (rest.take (length - 1))
      match fields.get? key with
      | some value => .ok { f.skip (length + 1) with values := [value] }
      | none => .error (.missingKey key)
  | _, _ => .ok f

def isFlag (c : Char) : Bool := c == '-' || c == '+' || c == ' ' || c == '#' || c == '0'

def starValue (f : Filling) : Except TemplateError (Int × Filling) := do
  let (value, f) ← f.value
  match value with
  | .int n => return (n, f.skip 1)
  | .bool b => return (if b then 1 else 0, f.skip 1)
  | _ => .error .widthNotInteger

/-- Takes a width, a negative one being that of a text to the left. -/
def takeWidth (f : Filling) : Except TemplateError (Int × Filling) :=
  if f.rest.head? == some '*' then
    match f.starValue with
    | .error e => .error e
    | .ok (n, f) =>
      if n < -9223372036854775808 ∨ 9223372036854775807 < n then .error .widthTooLong
      else .ok (n, f)
  else
    let digits := f.rest.takeWhile Char.isDigit
    if 9223372036854775807 < asciiValue digits then .error .widthTooGreat
    else .ok (asciiValue digits, f.skip digits.length)

def takePrecision (f : Filling) : Except TemplateError (Option Nat × Filling) :=
  match f.rest with
  | '.' :: '*' :: _ =>
    match (f.skip 1).starValue with
    | .error e => .error e
    | .ok (n, f) =>
      if n < -2147483648 ∨ 2147483647 < n then .error .precisionTooLong
      else .ok (some n.toNat, f)
  | '.' :: rest =>
    let digits := rest.takeWhile Char.isDigit
    if 2147483647 < asciiValue digits then .error .precisionTooGreat
    else .ok (some (asciiValue digits), f.skip (digits.length + 1))
  | _ => .ok (none, f)

def skipSize (f : Filling) : Filling :=
  if f.rest.head?.any fun c => c == 'h' || c == 'l' || c == 'L' then f.skip 1 else f

/-- Behind its percent sign a directive has a key in round brackets if its value is asked for by
name, flags, a width, a precision, a size that does not matter, and a letter. -/
def directive (f : Filling) : Except TemplateError (List Char × Filling) := do
  let f ← f.takeKey
  let flags := f.rest.takeWhile isFlag
  let (width, f) ← (f.skip flags.length).takeWidth
  let (precision, f) ← f.takePrecision
  let f := f.skipSize
  match f.rest with
  | [] => .error .incomplete
  | letter :: _ =>
    let (value, f) ← f.value
    let d : Directive := ⟨flags.contains '-' || width < 0, flags.contains '+', flags.contains ' ',
      flags.contains '#', flags.contains '0', width.natAbs, precision, letter⟩
    return (← d.write f.index value, f.skip 1)

/-- Fills the text that is left. Every step takes a character, so that as many steps as there are
characters are enough. -/
def fill (f : Filling) : Nat → Except TemplateError (List Char)
  | 0 => .ok []
  | steps + 1 =>
    match f.rest with
    | [] => if f.values.isEmpty || f.mapping.isSome then .ok [] else .error .tooManyValues
    | '%' :: '%' :: _ => ((f.skip 2).fill steps).map ('%' :: ·)
    | '%' :: _ =>
      match (f.skip 1).directive with
      | .error e => .error e
      | .ok (text, f) => (f.fill steps).map (text ++ ·)
    | c :: _ => ((f.skip 1).fill steps).map (c :: ·)

end Filling

/-- A template with values; without values its percent signs mean nothing. A single object, unless
it is empty, gives its fields by their names. -/
def fill (template : String) (values : List Json) : Except TemplateError String :=
  let text := template.toList
  let mapping := match values with
    | [.object (field :: fields)] => some (field :: fields)
    | _ => none
  if values.isEmpty then .ok template
  else (Filling.fill ⟨mapping, values, 0, text⟩ (text.length + 1)).map String.ofList

end AddressBook.Text
