import AddressBook.Json.Order

namespace AddressBook.Address

/-- The account that an address names; what is no text is no address. -/
def read (value : Json) : Except Failure Bytes :=
  match value with
  | .string text => (decode text).mapError Failure.ofAddressError
  | _ => .error (Failure.ofAddressError .notText)

def isUnsupported (format : Json) : Except Failure Bool := do
  if ← format.liesTo .below (.int 0) then return true
  if ← format.liesTo .above (.int maxFormat) then return true
  return format.isSame (.int 46) || format.isSame (.int 47)

def formatFailure (format : Json) : Failure :=
  match isUnsupported format, format.liesTo .below (.int 64) with
  | .error failure, _ | _, .error failure => failure
  | .ok true, _ => .fault .invalidAddress ("Unsupported SS58 format: " ++ format.display)
  | _, .ok true =>
    .fault .type ("'" ++ format.kindName ++ "' object cannot be interpreted as an integer")
  | _, .ok false =>
    .fault .type ("unsupported operand type(s) for &: '" ++ format.kindName ++ "' and 'int'")

def formatOf (value : Json) : Except Failure Int :=
  match value.int? with
  | some n => .ok n
  | none => .error (formatFailure value)

/-- The address of an account. Its length is checked before the format. -/
def write (account : Bytes) (format : Json) : Except Failure String :=
  if account.length ≠ accountLength then
    .error (Failure.ofAddressError (.accountLength account.length))
  else do (encode account (← formatOf format)).mapError Failure.ofAddressError

def writeTag (format : Json) : Except Failure Bytes := do
  (tag (← formatOf format)).mapError Failure.ofAddressError

def readTagLength (first : Json) : Except Failure Nat := do
  if ← first.liesTo .below (.int 64) then return 1
  if ← first.liesTo .below (.int 128) then return 2
  throw (Failure.ofAddressError .unknownTag)

end AddressBook.Address
