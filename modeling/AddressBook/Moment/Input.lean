import AddressBook.Failure

namespace AddressBook.Moment

def part (value : Json) : Except Failure Int :=
  match value.int? with
  | some n => .ok n
  | none =>
    .error (.fault .type ("'" ++ value.kindName ++ "' object cannot be interpreted as an integer"))

def neededParts : List String := ["year", "month", "day"]

def checkParts (count : Nat) : Except Failure Unit :=
  match neededParts[count]? with
  | some name =>
    .error (.fault .type ("function missing required argument '" ++ name ++ "' (pos " ++
      toString (count + 1) ++ ")"))
  | none => .ok ()

def offsetOf (value : Json) : Except Failure (Option Int) :=
  match value with
  | .null => .ok none
  | .float seconds =>
    let (numerator, denominator) := seconds.magnitude
    let size : Int := Double.nearestEven (numerator * 1000000) denominator
    .ok (some (if seconds.negative then -size else size))
  | _ =>
    match value.int? with
    | some n => .ok (some (n * 1000000))
    | none => .error (.fault .type
        ("unsupported type for timedelta seconds component: " ++ value.kindName))

/-- The moment that the parts of a reading and its offset make up. The offset is checked before the
reading. -/
def ofValues (parts : List Json) (offset : Json) : Except Failure Moment := do
  let offset ← offsetOf offset
  (offset.forM checkOffset).mapError Failure.ofDateTimeError
  checkParts parts.length
  let parts ← parts.mapM part
  let number (i : Nat) : Int := parts.getD i 0
  let clock := DateTime.create (number 0) (number 1) (number 2) (number 3) (number 4) (number 5)
    (number 6)
  (clock >>= fun clock => create clock offset).mapError Failure.ofDateTimeError

end AddressBook.Moment
