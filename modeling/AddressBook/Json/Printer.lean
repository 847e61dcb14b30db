import AddressBook.Json
import AddressBook.Number.Decimal
import AddressBook.Text.Digit

namespace AddressBook.Json

def unicodeEscape (unit : Nat) : List Char := '\\' :: 'u' :: Text.hexDigits 4 unit

def escapeChar (c : Char) : List Char :=
  if c == '"' then ['\\', '"']
  else if c == '\\' then ['\\', '\\']
  else if c == '\n' then ['\\', 'n']
  else if c == '\r' then ['\\', 'r']
  else if c == '\t' then ['\\', 't']
  else if c == '\x08' then ['\\', 'b']
  else if c == '\x0c' then ['\\', 'f']
  else if ' ' ≤ c ∧ c ≤ '~' then [c]
  else if c.toNat < 0x10000 then unicodeEscape c.toNat
  else
    unicodeEscape (0xD800 + (c.toNat - 0x10000) / 0x400) ++
      unicodeEscape (0xDC00 + (c.toNat - 0x10000) % 0x400)

def quote (text : String) : String :=
  String.ofList ('"' :: text.toList.flatMap escapeChar ++ ['"'])

/-- A floating point number by the fewest digits that read back as it: with a point, or with a power
of ten when it is below 0.0001 or has more than sixteen digits in front of the point. -/
def floatText (value : Double) : String :=
  let (digits, unit) := value.shortest
  let shown := Nat.toDigits 10 digits
  let power := unit + shown.length - 1
  let body :=
    if power < -4 ∨ 16 ≤ power then Double.exponentialChars shown power false
    else if 0 ≤ unit then shown ++ List.replicate unit.toNat '0' ++ ['.', '0']
    else Double.withPoint shown unit.natAbs false
  String.ofList (if value.negative then '-' :: body else body)

mutual

def render : Json → String
  | .null => "null"
  | .bool true => "true"
  | .bool false => "false"
  | .int value => toString value
  | .float value => floatText value
  | .nonFinite name => name
  | .string value => quote value
  | .array items => "[" ++ ", ".intercalate (renderItems items) ++ "]"
  | .object fields => "\x7b" ++ ", ".intercalate (renderFields fields) ++ "\x7d"

def renderItems : List Json → List String
  | [] => []
  | item :: rest => render item :: renderItems rest

def renderFields : List (String × Json) → List String
  | [] => []
  | (name, value) :: rest => (quote name ++ ": " ++ render value) :: renderFields rest

end

end AddressBook.Json
