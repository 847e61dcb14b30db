import AddressBook.Address
import AddressBook.Json
import AddressBook.Text.Digit

namespace AddressBook

inductive FieldProblem where
  | missing
  | notText
  | notInteger
  | notIntegerText
  | tooLarge
  | fraction
  | notFinite
  /-- The value was understood and refused for the reason given. -/
  | refused (reason : String)
  deriving DecidableEq, Repr

namespace FieldProblem

def kind : FieldProblem → String
  | .missing => "missing"
  | .notText => "string_type"
  | .notInteger => "int_type"
  | .notIntegerText => "int_parsing"
  | .tooLarge => "int_parsing_size"
  | .fraction => "int_from_float"
  | .notFinite => "finite_number"
  | .refused _ => "value_error"

def message : FieldProblem → String
  | .missing => "Field required"
  | .notText => "Input should be a valid string"
  | .notInteger => "Input should be a valid integer"
  | .notIntegerText => "Input should be a valid integer, unable to parse string as an integer"
  | .tooLarge => "Unable to parse input string as an integer, exceeded maximum size"
  | .fraction => "Input should be a valid integer, got a number with a fractional part"
  | .notFinite => "Input should be a finite number"
  | .refused reason => "Value error, " ++ reason

end FieldProblem

/-- A problem and the way to the field that has it. -/
structure FieldError where
  location : List String
  problem : FieldProblem
  deriving DecidableEq, Repr

namespace FieldError

def toJson (e : FieldError) : Json :=
  let fields := [("type", .string e.problem.kind), ("loc", .array (e.location.map .string)),
    ("msg", .string e.problem.message)]
  match e.problem with
  | .refused reason => .object (fields ++ [("ctx", .object [("error", .string reason)])])
  | _ => .object fields

def listToJson (errors : List FieldError) : Json := .array (errors.map toJson)

/-- The same error seen from further outside. -/
def within (outer : List String) (e : FieldError) : FieldError :=
  { e with location := outer ++ e.location }

end FieldError

namespace Schema

/-- The field of an object as it is; other values have no fields. -/
def field (name : String) (read : Json → Except FieldProblem α) (value : Json) :
    Except FieldError α :=
  match value.field? name with
  | none => .error ⟨[name], .missing⟩
  | some v => (read v).mapError fun problem => ⟨[name], problem⟩

def text : Json → Except FieldProblem String
  | .string value => .ok value
  | _ => .error .notText

def isZeroFraction : List Char → Bool
  | [] => true
  | point :: zeros => point == '.' && !zeros.isEmpty && zeros.all (· == '0')

/-- What follows zeros at the start of a number, and underscores among them. The last of them stays
if nothing or a fraction follows. -/
def afterZeros? (last : Char) : List Char → Option (List Char)
  | [] => some [last]
  | c :: rest =>
    if c == '0' || c == '_' then afterZeros? c rest
    else if c == '.' then some (last :: c :: rest)
    else if c == '-' || c.isDigit then some (c :: rest)
    else none

/-- A number without a plus sign and without zeros in front; a minus sign may follow the zeros. -/
def withoutZeros? (text : List Char) : Option (List Char) :=
  let unsigned := match text with
    | '+' :: '-' :: _ => text
    | '+' :: rest => rest
    | _ => text
  match unsigned with
  | '0' :: rest => afterZeros? '0' rest
  | c :: rest => if c == '-' || c.isDigit then some (c :: rest) else none
  | [] => none

/-- A number without its underscores, which stand alone between other characters, and without a
fraction of zeros. -/
def withoutFraction? (text : List Char) : Option (List Char) :=
  let whole := text.takeWhile (· != '.')
  if Text.underscoresSeparate whole && isZeroFraction (text.dropWhile (· != '.'))
  then some (whole.filter (· != '_')) else none

/-- The integer that digits spell, of which only a zero may be the first one if it is the last one
as well. They may have a minus sign, which counts for their length. -/
def plainInteger? (text : List Char) : Option Int :=
  let (negative, digits) := match text with
    | '-' :: rest => (true, rest)
    | _ => (false, text)
  let isNumber := digits.all Char.isDigit && match digits with
    | [] => false
    | '0' :: rest => rest.isEmpty
    | _ => true
  if isNumber && text.length ≤ Text.maxIntegerDigits then
    some (Text.signed negative (Text.asciiValue digits))
  else none

def startsTooLong (text : List Char) : Bool :=
  let unsigned := match text with
    | '-' :: rest => rest
    | _ => text
  let number := text.length - (unsigned.dropWhile Char.isDigit).length
  unsigned.head? != some '0' && Text.maxIntegerDigits < number

def integerOfText (value : String) : Except FieldProblem Int :=
  if startsTooLong value.toList then .error .tooLarge
  else
    let trimmed := Text.dropEndWhile Text.isSpace (value.toList.dropWhile Text.isSpace)
    match (withoutZeros? trimmed).bind fun text => (withoutFraction? text).bind plainInteger? with
    | some n => .ok n
    | none => .error .notIntegerText

/-- The integer that a floating point number is. It has less than 64 bits. -/
def integerOfFloat (value : Double) : Except FieldProblem Int :=
  if !value.isInteger then .error .fraction
  else if 9223372036854775808 ≤ value.truncate.natAbs then .error .tooLarge
  else .ok value.truncate

/-- An integer, or what stands for one: a truth value, a number without a fraction, or text. -/
def integer : Json → Except FieldProblem Int
  | .int value => .ok value
  | .bool value => .ok (if value then 1 else 0)
  | .float value => integerOfFloat value
  | .nonFinite _ => .error .notFinite
  | .string value => integerOfText value
  | _ => .error .notInteger

/-- Two fields of which both are checked. -/
def both (a : Except FieldError α) (b : Except FieldError β) : Except (List FieldError) (α × β) :=
  match a, b with
  | .ok x, .ok y => .ok (x, y)
  | .ok _, .error f => .error [f]
  | .error e, .ok _ => .error [e]
  | .error e, .error f => .error [e, f]

end Schema
end AddressBook
