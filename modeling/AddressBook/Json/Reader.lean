import AddressBook.Bytes.Hex
import AddressBook.Json
import AddressBook.Text.Digit
import AddressBook.Text.Encoding

namespace AddressBook.Json

inductive ReadCause where
  | value
  | propertyName
  | colon
  | comma
  | endOfText
  | stringEnd
  | escape
  | unicodeEscape
  | plainCharacter
  /-- An integer of more digits than are converted. -/
  | shorterInteger (digits : Nat)
  /-- An array or an object inside of too many others. -/
  | shallower (isArray : Bool)
  deriving DecidableEq, Repr

def ReadCause.message : ReadCause → String
  | .value => "Expecting value"
  | .propertyName => "Expecting property name enclosed in double quotes"
  | .colon => "Expecting ':' delimiter"
  | .comma => "Expecting ',' delimiter"
  | .endOfText => "Extra data"
  | .stringEnd => "Unterminated string starting at"
  | .escape => "Invalid \\escape"
  | .unicodeEscape => "Invalid \\uXXXX escape"
  | .plainCharacter => "Invalid control character at"
  | .shorterInteger digits => Text.tooManyDigits digits
  | .shallower isArray => "maximum recursion depth exceeded while decoding a JSON " ++
      (if isArray then "array" else "object") ++ " from a unicode string"

structure ReadError where
  cause : ReadCause
  offset : Nat
  deriving DecidableEq, Repr

/-- The cause and where it lies in the text, as line, column and character. -/
def ReadError.message (text : List Char) (e : ReadError) : String :=
  match e.cause with
  | .shorterInteger _ | .shallower _ => e.cause.message
  | _ =>
    let before := text.take e.offset
    let line := before.count '\n' + 1
    let column := (before.reverse.takeWhile (· != '\n')).length + 1
    e.cause.message ++ ": line " ++ toString line ++ " column " ++ toString column ++
      " (char " ++ toString e.offset ++ ")"

/-- The rest of a text and how many characters stand before it. -/
structure Cursor where
  offset : Nat
  rest : List Char

def Cursor.skip (count : Nat) (c : Cursor) : Cursor := ⟨c.offset + count, c.rest.drop count⟩

def isGap (c : Char) : Bool := c == ' ' || c == '\t' || c == '\n' || c == '\r'

def Cursor.skipGap (c : Cursor) : Cursor := c.skip (c.rest.takeWhile isGap).length

abbrev Read (α : Type) := Except ReadError (α × Cursor)

/-- Splits off the exponent of a number: its sign and digits. An `e` without digits is none. -/
def exponentPart (text : List Char) : Option (Bool × List Char) :=
  match text with
  | e :: rest =>
    if e == 'e' || e == 'E' then
      let (negative, digits) := match rest with
        | '-' :: more => (true, more.takeWhile Char.isDigit)
        | '+' :: more => (false, more.takeWhile Char.isDigit)
        | _ => (false, rest.takeWhile Char.isDigit)
      if digits.isEmpty then none else some (negative, digits)
    else none
  | [] => none

def exponentLength (text : List Char) (digits : List Char) : Nat :=
  match text with
  | _ :: sign :: _ => digits.length + (if sign == '-' || sign == '+' then 2 else 1)
  | _ => 0

/-- The floating point number nearest to `digits * 10 ^ power`, or the infinity beyond all
numbers. -/
def floatOf (negative : Bool) (digits : Nat) (power : Int) : Json :=
  match Double.ofDecimal? negative digits power with
  | some value => .float value
  | none => .nonFinite (if negative then "-Infinity" else "Infinity")

def wholeDigits (text : List Char) : List Char :=
  match text.head? with
  | some '0' => ['0']
  | _ => text.takeWhile Char.isDigit

def fractionDigits (text : List Char) : List Char :=
  match text with
  | '.' :: more => more.takeWhile Char.isDigit
  | _ => []

/-- Reads a number: an optional minus, digits without a leading zero, and if digits follow them a
fraction and an exponent. -/
def readNumber (c : Cursor) : Read Json :=
  let negative := c.rest.head? == some '-'
  let signLength := if negative then 1 else 0
  let unsigned := c.rest.drop signLength
  let whole := wholeDigits unsigned
  if whole.isEmpty then .error ⟨.value, c.offset⟩
  else
    let afterWhole := unsigned.drop whole.length
    let fraction := fractionDigits afterWhole
    let fractionLength := if fraction.isEmpty then 0 else fraction.length + 1
    let afterFraction := afterWhole.drop fractionLength
    let length := signLength + whole.length + fractionLength
    match fraction, exponentPart afterFraction with
    | [], none =>
      if Text.maxIntegerDigits < whole.length then .error ⟨.shorterInteger whole.length, c.offset⟩
      else .ok (.int (Text.signed negative (Text.asciiValue whole)), c.skip length)
    | _, exponent =>
      let (power, more) := match exponent with
        | none => ((0 : Int), 0)
        | some (minus, digits) =>
          (Text.signed minus (Text.asciiValue digits), exponentLength afterFraction digits)
      let digits := Text.asciiValue (whole ++ fraction)
      .ok (floatOf negative digits (power - fraction.length), c.skip (length + more))

/-- The number that the first four characters spell in base 16, at least one more following. -/
def hexUnit? (text : List Char) : Option Nat :=
  match text with
  | a :: b :: c :: d :: _ :: _ => ([a, b, c, d].mapM Bytes.hexValue?).map (Radix.value 16)
  | _ => none

def simpleEscape? : Char → Option Char
  | '"' => some '"'
  | '\\' => some '\\'
  | '/' => some '/'
  | 'b' => some '\x08'
  | 'f' => some '\x0c'
  | 'n' => some '\n'
  | 'r' => some '\r'
  | 't' => some '\t'
  | _ => none

/-- The character that the text after a backslash spells, and how many characters it takes. Two
escaped surrogates make one character. -/
def readEscape (start offset : Nat) (text : List Char) : Except ReadError (Char × Nat) :=
  match text with
  | [] => .error ⟨.stringEnd, start⟩
  | 'u' :: digits =>
    match hexUnit? digits with
    | none => .error ⟨.unicodeEscape, offset + 1⟩
    | some high =>
      let next := digits.drop 4
      if Text.isHighSurrogate high ∧ 7 ≤ next.length ∧ next.take 2 = ['\\', 'u'] then
        match hexUnit? (next.drop 2) with
        | none => .error ⟨.unicodeEscape, offset + 7⟩
        | some low =>
          if Text.isLowSurrogate low then .ok (Text.charOf (Text.joinSurrogates high low), 11)
          else .ok (Text.replacement, 5)
      else .ok (Text.charOf high, 5)
  | c :: _ =>
    match simpleEscape? c with
    | none => .error ⟨.escape, offset⟩
    | some plain => .ok (plain, 1)

/-- Reads a string up to its closing quote; `start` is where its opening quote stands. -/
def readString (start : Nat) (offset : Nat) (text : List Char) (before : List Char) : Read String :=
  match text with
  | [] => .error ⟨.stringEnd, start⟩
  | '"' :: rest => .ok (String.ofList before.reverse, ⟨offset + 1, rest⟩)
  | '\\' :: rest =>
    match readEscape start offset rest with
    | .error e => .error e
    | .ok (c, length) => readString start (offset + 1 + length) (rest.drop length) (c :: before)
  | c :: rest =>
    if c.toNat < 0x20 then .error ⟨.plainCharacter, offset⟩
    else readString start (offset + 1) rest (c :: before)
termination_by text.length
decreasing_by all_goals simp only [List.length_drop, List.length_cons]; omega

def words : List (String × Json) :=
  [("null", .null), ("true", .bool true), ("false", .bool false), ("NaN", .nonFinite "NaN"),
   ("Infinity", .nonFinite "Infinity"), ("-Infinity", .nonFinite "-Infinity")]

def readWord? (c : Cursor) : Option (Json × Cursor) :=
  words.findSome? fun (word, value) =>
    if word.toList.isPrefixOf c.rest then some (value, c.skip word.length) else none

/-- So many arrays and objects may stand inside of each other: as many as the stack has room for
while a request is served. -/
def maxNesting : Nat := 966

mutual

/-- Reads a value that starts at the cursor, inside of `nesting` others. Between two readings of a
value a character is taken, and there is one call between them, so a measure above twice the number
of characters left is never used up. -/
def readValue (measure nesting : Nat) (c : Cursor) : Read Json :=
  match measure with
  | 0 => .error ⟨.value, c.offset⟩
  | measure + 1 =>
    match c.rest with
    | '"' :: rest =>
      (readString c.offset (c.offset + 1) rest []).map fun (text, next) => (.string text, next)
    | '{' :: _ =>
      let inner := (c.skip 1).skipGap
      if maxNesting ≤ nesting then .error ⟨.shallower false, c.offset⟩
      else
        match inner.rest with
        | '}' :: _ => .ok (.object [], inner.skip 1)
        | _ => readFields measure (nesting + 1) [] inner
    | '[' :: _ =>
      let inner := (c.skip 1).skipGap
      if maxNesting ≤ nesting then .error ⟨.shallower true, c.offset⟩
      else
        match inner.rest with
        | ']' :: _ => .ok (.array [], inner.skip 1)
        | _ => readItems measure (nesting + 1) [] inner
    | _ =>
      match readWord? c with
      | some found => .ok found
      | none => readNumber c

def readItems (measure nesting : Nat) (before : List Json) (c : Cursor) : Read Json :=
  match measure with
  | 0 => .error ⟨.value, c.offset⟩
  | measure + 1 =>
    match readValue measure nesting c with
    | .error e => .error e
    | .ok (item, next) =>
      let next := next.skipGap
      match next.rest with
      | ']' :: _ => .ok (.array (item :: before).reverse, next.skip 1)
      | ',' :: _ => readItems measure nesting (item :: before) (next.skip 1).skipGap
      | _ => .error ⟨.comma, next.offset⟩

def readFields (measure nesting : Nat) (before : Fields) (c : Cursor) : Read Json :=
  match measure with
  | 0 => .error ⟨.value, c.offset⟩
  | measure + 1 =>
    match c.rest with
    | '"' :: rest =>
      match readString c.offset (c.offset + 1) rest [] with
      | .error e => .error e
      | .ok (name, next) =>
        let next := next.skipGap
        match next.rest with
        | ':' :: _ =>
          match readValue measure nesting (next.skip 1).skipGap with
          | .error e => .error e
          | .ok (value, next) =>
            let next := next.skipGap
            let fields := Fields.put before name value
            match next.rest with
            | '}' :: _ => .ok (.object fields, next.skip 1)
            | ',' :: _ => readFields measure nesting fields (next.skip 1).skipGap
            | _ => .error ⟨.comma, next.offset⟩
        | _ => .error ⟨.colon, next.offset⟩
    | _ => .error ⟨.propertyName, c.offset⟩

end

/-- The value that a text spells. Beyond the standard, `NaN` and the infinities are values, a
surrogate without its partner may be escaped, and of two fields with one name the last counts. -/
def ofChars (text : List Char) : Except ReadError Json :=
  match readValue (2 * text.length + 2) 0 (Cursor.skipGap ⟨0, text⟩) with
  | .error e => .error e
  | .ok (value, next) =>
    let next := next.skipGap
    if next.rest.isEmpty then .ok value else .error ⟨.endOfText, next.offset⟩

inductive BytesError where
  | encoding (e : Text.DecodeError)
  | grammar (text : List Char) (e : ReadError)

def BytesError.message : BytesError → String
  | .encoding e => e.message
  | .grammar text e => e.message text

/-- Decodes bytes in the encoding that they show: by a byte order mark, or else by which of the
first four bytes are zero. -/
def decodeBytes (bytes : Bytes) : Except Text.DecodeError (List Char) :=
  match bytes with
  | 0x00 :: 0x00 :: 0xFE :: 0xFF :: rest => Text.decodeUtf32 true 4 rest
  | 0xFF :: 0xFE :: 0x00 :: 0x00 :: rest => Text.decodeUtf32 false 4 rest
  | 0xFE :: 0xFF :: rest => Text.decodeUtf16 true 2 rest
  | 0xFF :: 0xFE :: rest => Text.decodeUtf16 false 2 rest
  | 0xEF :: 0xBB :: 0xBF :: rest => Text.decodeUtf8 true 0 rest
  | a :: b :: c :: d :: _ =>
    if a = 0 then
      if b = 0 then Text.decodeUtf32 true 0 bytes else Text.decodeUtf16 true 0 bytes
    else if b = 0 then
      if c = 0 ∧ d = 0 then Text.decodeUtf32 false 0 bytes else Text.decodeUtf16 false 0 bytes
    else Text.decodeUtf8 true 0 bytes
  | [a, b] =>
    if a = 0 then Text.decodeUtf16 true 0 bytes
    else if b = 0 then Text.decodeUtf16 false 0 bytes
    else Text.decodeUtf8 true 0 bytes
  | _ => Text.decodeUtf8 true 0 bytes

def ofBytes (bytes : Bytes) : Except BytesError Json :=
  match decodeBytes bytes with
  | .error e => .error (.encoding e)
  | .ok text =>
    match ofChars text with
    | .error e => .error (.grammar text e)
    | .ok value => .ok value

end AddressBook.Json
