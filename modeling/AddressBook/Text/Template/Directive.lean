import AddressBook.Json.Display

namespace AddressBook.Text

inductive TemplateError where
  | tooFewValues
  | tooManyValues
  | incomplete
  | incompleteKey
  | noMapping
  | missingKey (key : String)
  | widthNotInteger
  | widthTooLong
  | precisionTooLong
  | widthTooGreat
  | precisionTooGreat
  | unknownDirective (letter : Char) (index : Nat)
  | notInteger (letter : Char) (kind : String)
  | notNumber (letter : Char) (kind : String)
  | notFloat (kind : String)
  | notCharacter
  | noCodePoint
  | notANumber
  | infinite
  | tooGreatForFloat
  | outOfMemory
  deriving DecidableEq, Repr

def TemplateError.message : TemplateError → String
  | .tooFewValues => "not enough arguments for format string"
  | .tooManyValues => "not all arguments converted during string formatting"
  | .incomplete => "incomplete format"
  | .incompleteKey => "incomplete format key"
  | .noMapping => "format requires a mapping"
  | .missingKey key => key
  | .widthNotInteger => "* wants int"
  | .widthTooLong => "Python int too large to convert to C ssize_t"
  | .precisionTooLong => "Python int too large to convert to C int"
  | .widthTooGreat => "width too big"
  | .precisionTooGreat => "precision too big"
  | .unknownDirective letter index =>
    let shown := if 31 ≤ letter.toNat ∧ letter.toNat < 127 then letter else '?'
    "unsupported format character '" ++ String.singleton shown ++
      "' (0x" ++ String.ofList (Nat.toDigits 16 letter.toNat) ++ ") at index " ++ toString index
  | .notInteger letter kind =>
    "%" ++ String.singleton letter ++ " format: an integer is required, not " ++ kind
  | .notNumber letter kind =>
    "%" ++ String.singleton letter ++ " format: a real number is required, not " ++ kind
  | .notFloat kind => "must be real number, not " ++ kind
  | .notCharacter => "%c requires int or char"
  | .noCodePoint => "%c arg not in range(0x110000)"
  | .notANumber => "cannot convert float NaN to integer"
  | .infinite => "cannot convert float infinity to integer"
  | .tooGreatForFloat => "int too large to convert to float"
  | .outOfMemory => ""

structure Directive where
  /-- Whether blanks go behind a short text instead of in front of it. -/
  left : Bool
  plus : Bool
  blank : Bool
  /-- Whether integers get the mark of their base, and floating point numbers always a point. -/
  alternate : Bool
  zeros : Bool
  width : Nat
  precision : Option Nat
  letter : Char

namespace Directive

/-- A number that is to be written: its sign, the mark of its base, and its digits. -/
structure Numeral where
  negative : Bool
  mark : List Char
  digits : List Char

def maxWidth : Nat := 10000000000

def padded (d : Directive) (text : List Char) : List Char :=
  let fill := List.replicate (d.width - text.length) ' '
  if d.left then text ++ fill else fill ++ text

def paddedNumeral (d : Directive) (n : Numeral) : List Char :=
  let sign := if n.negative then ['-'] else if d.plus then ['+'] else if d.blank then [' '] else []
  let start := sign ++ n.mark
  if d.zeros && !d.left then
    start ++ List.replicate (d.width - start.length - n.digits.length) '0' ++ n.digits
  else d.padded (start ++ n.digits)

def cut (d : Directive) (text : List Char) : List Char :=
  match d.precision with
  | some length => text.take length
  | none => text

def wholeNumber (d : Directive) (value : Json) : Except TemplateError Int :=
  match value with
  | .int n => .ok n
  | .bool b => .ok (if b then 1 else 0)
  | .float x => .ok x.truncate
  | .nonFinite name => .error (if name == "NaN" then .notANumber else .infinite)
  | _ => .error (.notNumber d.letter value.kindName)

def exactInteger (d : Directive) (value : Json) : Except TemplateError Int :=
  match value with
  | .int n => .ok n
  | .bool b => .ok (if b then 1 else 0)
  | _ => .error (.notInteger d.letter value.kindName)

/-- An integer in a base, with at least as many digits as the precision says. -/
def integerNumeral (d : Directive) (base : Nat) (mark : List Char) (n : Int) : Numeral :=
  let digits := Nat.toDigits base n.natAbs
  ⟨n < 0, if d.alternate then mark else [],
    List.replicate (d.precision.getD 1 - digits.length) '0' ++ digits⟩

/-- The floating point number that a value is; an infinity or what is no number stays as it is. -/
def floatOf (value : Json) : Except TemplateError Json :=
  match value with
  | .float _ | .nonFinite _ => .ok value
  | .int n =>
    match Double.nearest? (n < 0) (n.natAbs, 1) with
    | some x => .ok (.float x)
    | none => .error .tooGreatForFloat
  | .bool b => .ok (.float (Double.round false (if b then 1 else 0, 1)))
  | _ => .error (.notFloat value.kindName)

def floatDigits (d : Directive) (letter : Char) (x : Double) : List Char :=
  let precision := d.precision.getD 6
  if letter == 'f' then x.fixedChars precision d.alternate
  else if letter == 'e' then x.scientificChars precision d.alternate
  else x.generalChars precision d.alternate

def floatNumeral (d : Directive) (letter : Char) (value : Json) : Numeral :=
  match value with
  | .float x => ⟨x.negative, [], floatDigits d letter x⟩
  | .nonFinite "NaN" => ⟨false, [], "nan".toList⟩
  | .nonFinite name => ⟨name == "-Infinity", [], "inf".toList⟩
  | _ => ⟨false, [], []⟩

def characterOf (value : Json) : Except TemplateError Char :=
  let ofInteger (n : Int) : Except TemplateError Char :=
    if n < 0 ∨ 0x10FFFF < n then .error .noCodePoint else .ok (Char.ofNat n.toNat)
  match value with
  | .string text =>
    match text.toList with
    | [c] => .ok c
    | _ => .error .notCharacter
  | .int n => ofInteger n
  | .bool b => ofInteger (if b then 1 else 0)
  | _ => .error .notCharacter

def asciiChars (text : List Char) : List Char :=
  text.flatMap fun c => if c.toNat < 0x80 then [c] else escapedCode c

def write (d : Directive) (index : Nat) (value : Json) : Except TemplateError (List Char) :=
  let lower := d.letter.toLower
  let shown (n : Numeral) : List Char :=
    d.paddedNumeral (if d.letter == lower then n else
      { n with mark := n.mark.map Char.toUpper, digits := n.digits.map Char.toUpper })
  if maxWidth ≤ d.width then .error .outOfMemory
  else if d.letter == 's' then .ok (d.padded (d.cut value.display.toList))
  else if d.letter == 'r' then .ok (d.padded (d.cut value.displayQuoted.toList))
  else if d.letter == 'a' then .ok (d.padded (d.cut (asciiChars value.displayQuoted.toList)))
  else if d.letter == 'c' then (characterOf value).map fun c => d.padded [c]
  else if d.letter == 'd' || d.letter == 'i' || d.letter == 'u' then
    (d.wholeNumber value).map fun n => shown (d.integerNumeral 10 [] n)
  else if d.letter == 'o' then
    (d.exactInteger value).map fun n => shown (d.integerNumeral 8 ['0', 'o'] n)
  else if lower == 'x' then
    (d.exactInteger value).map fun n => shown (d.integerNumeral 16 ['0', 'x'] n)
  else if lower == 'e' || lower == 'f' || lower == 'g' then
    (floatOf value).map fun x => shown (d.floatNumeral lower x)
  else .error (.unknownDirective d.letter index)

end Directive
end AddressBook.Text
