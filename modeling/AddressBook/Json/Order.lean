import AddressBook.Failure

namespace AddressBook.Json

def fraction? : Json → Option (Int × Nat)
  | .bool value => some (if value then 1 else 0, 1)
  | .int value => some (value, 1)
  | .float value =>
    let (numerator, denominator) := value.magnitude
    some (if value.negative then -(numerator : Int) else numerator, denominator)
  | _ => none

/-- Whether one number is below another one, if both are numbers. -/
def isNumberBelow? (a b : Json) : Option Bool :=
  match a, b with
  | .nonFinite x, .nonFinite y => some (x == "-Infinity" && y == "Infinity")
  | .nonFinite x, _ => b.fraction?.map fun _ => x == "-Infinity"
  | _, .nonFinite y => a.fraction?.map fun _ => y == "Infinity"
  | _, _ => do
    let (numerator, denominator) ← a.fraction?
    let (numerator', denominator') ← b.fraction?
    return numerator * denominator' < numerator' * denominator

def isSameNumber (a b : Json) : Bool :=
  match a, b with
  | .nonFinite x, .nonFinite y => x == y && x != "NaN"
  | _, _ => (a.fraction?.isSome && isNumberBelow? a b == some false &&
      isNumberBelow? b a == some false)

mutual

/-- Whether two values are equal. Numbers are compared by their size, and the order of fields does
not matter. -/
def isSame : Json → Json → Bool
  | .null, .null => true
  | .string a, .string b => a == b
  | .array a, .array b => areSame a b
  | .object a, .object b => a.length == b.length && haveSame a b
  | a, b => isSameNumber a b

def areSame : List Json → List Json → Bool
  | [], [] => true
  | a :: rest, b :: rest' => isSame a b && areSame rest rest'
  | _, _ => false

def haveSame : List (String × Json) → Fields → Bool
  | [], _ => true
  | (name, value) :: rest, others =>
    (match others.get? name with
      | some other => isSame value other
      | none => false) && haveSame rest others

end

/-- Numbers are ordered by their size, texts by their characters, and lists by the first items in
which they differ. Other values, and values of two kinds, have no order. -/
inductive Side where
  | below
  | above
  deriving DecidableEq, Repr

def Side.sign : Side → String
  | .below => "<"
  | .above => ">"

mutual

def liesTo (side : Side) : Json → Json → Except Failure Bool
  | .string a, .string b => .ok (match side with
      | .below => decide (a < b)
      | .above => decide (b < a))
  | .array a, .array b => lieTo side a b
  | a, b =>
    match (match side with
      | .below => isNumberBelow? a b
      | .above => isNumberBelow? b a) with
    | some answer => .ok answer
    | none => .error (Failure.notOrdered side.sign a.kindName b.kindName)

def lieTo (side : Side) : List Json → List Json → Except Failure Bool
  | [], b => .ok (side == .below && !b.isEmpty)
  | _ :: _, [] => .ok (side == .above)
  | a :: rest, b :: rest' => if isSame a b then lieTo side rest rest' else liesTo side a b

end

end AddressBook.Json
