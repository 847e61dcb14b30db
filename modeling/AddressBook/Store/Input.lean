import AddressBook.Failure
import AddressBook.Text.Integer

namespace AddressBook.Store

def notANumber (column : String) (value : Json) : Failure :=
  .fault (match value with
    | .array _ | .object _ => .type
    | _ => .value)
    ("Field '" ++ column ++ "' expected a number but got " ++ value.displayQuoted ++ ".")

/-- The integer that a value gives for a column: a number without its fraction, a truth value, or
the integer that a text spells. -/
def integerOf (column : String) (value : Json) : Except Failure (Option Int) :=
  match value with
  | .null => .ok none
  | .bool truth => .ok (some (if truth then 1 else 0))
  | .int n => .ok (some n)
  | .float number => .ok (some number.truncate)
  | .string text =>
    match Text.integer text with
    | .ok n => .ok (some n)
    | .error _ => .error (notANumber column value)
  | .nonFinite name =>
    .error (if name == "NaN" then notANumber column value
      else .fault .overflow "cannot convert float infinity to integer")
  | .array _ | .object _ => .error (notANumber column value)

def textOf : Json → Option String
  | .null => none
  | value => some value.display

end AddressBook.Store
