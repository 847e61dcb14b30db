import AddressBook.Failure
import AddressBook.Text.Integer
import AddressBook.Text.Lower

namespace AddressBook.Config

abbrev Environment := List (String × String)

inductive Lookup where
  | unset
  /-- A value, and how many references led to it. -/
  | found (value : String) (references : Nat)
  | endless
  deriving DecidableEq, Repr

namespace Environment

/-- A value that starts with a dollar sign stands for the variable that the rest of it names. -/
def referred? (value : String) : Option String :=
  match value.toList with
  | '$' :: rest => some (String.ofList (rest.dropWhile (· == '$')))
  | _ => none

/-- So many references are followed, and no more. The program sets no such number: it is what the stack
has room for where the settings are read by a process that has just been started. -/
def maxReferences : Nat := 988

/-- Follows references from a name. References that lead back to themselves have no end. -/
def follow (env : Environment) (references : Nat) (name : String) : Nat → Lookup
  | 0 => .endless
  | steps + 1 =>
    match env.lookup name with
    | none => .unset
    | some value =>
      match referred? value with
      | none => .found value references
      | some next => follow env (references + 1) next steps

def find (env : Environment) (name : String) : Lookup := follow env 0 name (maxReferences + 1)

def set (name value : String) (env : Environment) : Environment :=
  (name, value) :: env.filter fun entry => entry.1 != name

def endlessFailure : Failure := .fault .recursion "maximum recursion depth exceeded"

def text (env : Environment) (name default : String) : Except Failure String :=
  match env.find name with
  | .unset => .ok default
  | .found value _ => .ok value
  | .endless => .error endlessFailure

/-- The value of a name; an empty value counts as none. -/
def nonEmpty? (env : Environment) (name : String) : Except Failure (Option String) :=
  match env.find name with
  | .unset => .ok none
  | .found value _ => .ok (if value.isEmpty then none else some value)
  | .endless => .error endlessFailure

def integerOf (value : String) : Except Failure Int :=
  (Text.integer value).mapError fun e => .fault .value e.message

def int (env : Environment) (name : String) (default : Int) : Except Failure Int :=
  match env.find name with
  | .unset => .ok default
  | .found value _ => integerOf value
  | .endless => .error endlessFailure

def outOfRange (name value minimum maximum : String) : Failure :=
  .fault .improperlyConfigured
    ("Env value " ++ name ++ "=" ++ value ++ " is out of range [" ++ minimum ++ ", " ++ maximum ++
      "]")

def boundedInt (env : Environment) (name : String) (default minimum maximum : Int) :
    Except Failure Int :=
  match env.int name default with
  | .error failure => .error failure
  | .ok value =>
    if value < minimum ∨ maximum < value then
      .error (outOfRange name (toString value) (toString minimum) (toString maximum))
    else .ok value

def trueWords : List String := ["true", "on", "ok", "y", "yes", "1"]

/-- The truth value that a text spells: an integer is true unless zero, other text is true if it is
one of the words for it. -/
def truthOf (value : String) : Bool :=
  match Text.integer value with
  | .ok n => n != 0
  | .error _ => trueWords.contains (Text.trimString (Text.lower value))

def bool (env : Environment) (name : String) (default : Bool) : Except Failure Bool :=
  match env.find name with
  | .unset => .ok default
  | .found value _ => .ok (truthOf value)
  | .endless => .error endlessFailure

/-- The parts of a text between commas that are not empty. -/
def itemsOf (value : String) : List String :=
  (value.splitOn ",").filter fun item => !item.isEmpty

/-- The value of a name as a list, or a default. A list that is found by a reference is not read a
second time, and so refused, unless it is the default. -/
def list (env : Environment) (name : String) (default : List String) :
    Except Failure (List String) :=
  match env.find name with
  | .unset => .ok default
  | .found value references =>
    let items := itemsOf value
    if references = 0 ∨ items = default then .ok items
    else .error (.fault .attribute "'list' object has no attribute 'split'")
  | .endless => .error endlessFailure

end Environment
end AddressBook.Config
