import AddressBook.Number.Double

namespace AddressBook

/-- Numbers without fraction and exponent are integers of any size, and the others binary floating
point numbers. The fields of an object keep their order. -/
inductive Json where
  | null
  | bool (value : Bool)
  | int (value : Int)
  | float (value : Double)
  /-- One of the names for what is no number: `NaN`, `Infinity`, `-Infinity`. -/
  | nonFinite (name : String)
  | string (value : String)
  | array (items : List Json)
  | object (fields : List (String × Json))
  deriving Inhabited, Repr

/-- Named values in order, each name once. -/
abbrev Fields := List (String × Json)

namespace Fields

def get? (fields : Fields) (name : String) : Option Json := fields.lookup name

/-- Sets a name: in its place if it is there, at the end otherwise. -/
def put (fields : Fields) (name : String) (value : Json) : Fields :=
  match fields with
  | [] => [(name, value)]
  | (n, v) :: rest => if n == name then (n, value) :: rest else (n, v) :: put rest name value

/-- Sets a name unless it is there. -/
def putNew (fields : Fields) (name : String) (value : Json) : Fields :=
  if (fields.get? name).isSome then fields else fields ++ [(name, value)]

def putAll (fields more : Fields) : Fields :=
  more.foldl (fun fields (name, value) => fields.put name value) fields

def putAllNew (fields more : Fields) : Fields :=
  more.foldl (fun fields (name, value) => fields.putNew name value) fields

theorem get?_put_self (fields : Fields) (name : String) (value : Json) :
    (fields.put name value).get? name = some value := by
  induction fields with
  | nil => simp [put, get?]
  | cons field rest ih =>
    obtain ⟨other, old⟩ := field
    by_cases same : other = name
    · simp [put, get?, same]
    · have missed : (name == other) = false := by simpa using Ne.symm same
      simpa [put, get?, same, List.lookup_cons, missed] using ih

theorem get?_put_of_ne {name other : String} (different : other ≠ name) (fields : Fields)
    (value : Json) : (fields.put name value).get? other = fields.get? other := by
  have missed : (other == name) = false := by simpa using different
  induction fields with
  | nil => simp [put, get?, List.lookup_cons, missed]
  | cons field rest ih =>
    obtain ⟨first, old⟩ := field
    by_cases same : first = name
    · simp [put, get?, same, List.lookup_cons, missed]
    · simp only [get?] at ih
      simp [put, get?, same, List.lookup_cons, ih]

/-- Names keep their places, and a new one comes last. -/
theorem map_fst_put (fields : Fields) (name : String) (value : Json) :
    (fields.put name value).map Prod.fst =
      if name ∈ fields.map Prod.fst then fields.map Prod.fst
      else fields.map Prod.fst ++ [name] := by
  induction fields with
  | nil => simp [put]
  | cons field rest ih =>
    obtain ⟨first, old⟩ := field
    by_cases same : first = name
    · simp [put, same]
    · have ih := ih
      simp only [put, beq_iff_eq, same, if_false, List.map_cons, ih, List.mem_cons, Ne.symm same,
        false_or]
      split <;> rfl

end Fields

namespace Json

/-- Whether a value counts as none: null, false, zero, and whatever is empty. -/
def isFalsy : Json → Bool
  | .null => true
  | .bool value => !value
  | .int value => value == 0
  | .float value => value.isZero
  | .nonFinite _ => false
  | .string value => value.isEmpty
  | .array items => items.isEmpty
  | .object fields => fields.isEmpty

def kindName : Json → String
  | .null => "NoneType"
  | .bool _ => "bool"
  | .int _ => "int"
  | .float _ => "float"
  | .nonFinite _ => "float"
  | .string _ => "str"
  | .array _ => "list"
  | .object _ => "dict"

def text? : Json → Option String
  | .string text => some text
  | _ => none

/-- The integer that a value is, the truth values being 0 and 1. -/
def int? : Json → Option Int
  | .int value => some value
  | .bool value => some (if value then 1 else 0)
  | _ => none

/-- Whether a value counts as an integer: with a fraction of zero, too. -/
def isNumber (n : Int) : Json → Bool
  | .float value => value.isInteger && value.truncate == n
  | value => value.int? == some n

/-- The field of an object; other values have none. -/
def field? (name : String) : Json → Option Json
  | .object fields => Fields.get? fields name
  | _ => none

end Json
end AddressBook
