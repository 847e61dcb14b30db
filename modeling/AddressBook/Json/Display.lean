import AddressBook.Json.Printer
import AddressBook.Text.Quoted

namespace AddressBook.Json

def nonFiniteText (name : String) : String :=
  if name == "NaN" then "nan" else if name == "Infinity" then "inf" else "-inf"

mutual

def displayQuoted : Json → String
  | .null => "None"
  | .bool true => "True"
  | .bool false => "False"
  | .int value => toString value
  | .float value => floatText value
  | .nonFinite name => nonFiniteText name
  | .string value => Text.quoted value
  | .array items => "[" ++ ", ".intercalate (displayItems items) ++ "]"
  | .object fields => "\x7b" ++ ", ".intercalate (displayFields fields) ++ "\x7d"

def displayItems : List Json → List String
  | [] => []
  | item :: rest => displayQuoted item :: displayItems rest

def displayFields : List (String × Json) → List String
  | [] => []
  | (name, value) :: rest =>
    (Text.quoted name ++ ": " ++ displayQuoted value) :: displayFields rest

end

/-- A value as text; a string stands for itself. -/
def display : Json → String
  | .string value => value
  | value => displayQuoted value

end AddressBook.Json
