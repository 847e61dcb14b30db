import AddressBook.Config.Environment
import AddressBook.Json.Order

namespace AddressBook.Config.Environment

/-- What an environment has under a name, when a default stands in for what it lacks. A default may
be a reference as well. -/
def findOr (env : Environment) (name : String) (default : Json) : Lookup :=
  match env.find name with
  | .unset =>
    match default.text?.bind referred? with
    | none => .unset
    | some next =>
      match env.find next with
      | .unset => .endless
      | found => found
  | found => found

/-- The value of a name as an integer, or a default. A text that is the default stays a text, and an
empty one counts as none if there is no default. -/
def intOr (env : Environment) (name : String) (default : Json) : Except Failure Json :=
  match env.findOr name default with
  | .unset => .ok default
  | .endless => .error endlessFailure
  | .found value _ =>
    match default with
    | .null => if value.isEmpty then .ok .null else (integerOf value).map .int
    | .string text => if value == text then .ok default else (integerOf value).map .int
    | _ => (integerOf value).map .int

/-- Whether a value lies outside its bounds. There need not be a greatest value. -/
def isOutside (minimum maximum value : Json) : Except Failure Bool := do
  if ← value.liesTo .below minimum then return true
  match maximum with
  | .null => return false
  | _ => value.liesTo .above maximum

def bounded (env : Environment) (name : String) (default minimum maximum : Json) :
    Except Failure Json := do
  let value ← env.intOr name default
  if ← isOutside minimum maximum value then
    throw (outOfRange name value.displayQuoted minimum.display maximum.display)
  return value

end AddressBook.Config.Environment
