import AddressBook.Address
import AddressBook.Schema
import AddressBook.Session

namespace AddressBook.Keys

/-- The keys of a user, oldest first. -/
def list (user : Int) : Session (List PublicKey) := Session.query fun store => store.keysOf user

def shown (id : Json) (address : String) : Json :=
  .object [("id", id), ("address", .string address)]

/-- A key as it is shown, its address in the given format. -/
def item (format : Int) (id : Int) (address : Bytes) : Except AddressError Json :=
  (Address.encode address format).map (shown (.int id))

/-- The record of an unlinking: whose key, and how many rows went. -/
def deleteRecord (user : Int) (deleted : Nat) : LogRecord :=
  ⟨"src.keys.services", .info, "public_key_delete",
    [("user_id", .int user), ("deleted", .int deleted)], none⟩

/-- Removes the rows that link an address to a user, and those of no one else, and logs how many
went. -/
def remove (user : Int) (address : Bytes) : Session Nat := do
  let deleted ← Session.execute fun store => .ok (store.unlink user address)
  Session.passes .afterKeyRemoval
  Session.passes .keyDeleteLog
  Session.log (deleteRecord user deleted)
  return deleted

/-- Unlinks an address from a user in one transaction; gives the number of rows that went. -/
def delete (user : Int) (address : Bytes) : Session Nat := Session.atomically (remove user address)

/-- Fails for what no row can have for an id. -/
def checkId (id : Int) : Session Unit := do
  Session.passes .statement
  if Table.fits id then return else Session.fail .integerTooLong

def unsaved : Failure := .fault .value "Model instances passed to related filters must be saved."

def listFor (user : Int) : Session (List PublicKey) := do
  checkId user
  list user

def deleteFor (user : Int) (address : Bytes) : Session Nat := do
  checkId user
  delete user address

/-- A request to unlink an account: the text of its address, trimmed, and the account it names. -/
structure DeletePayload where
  account : String
  address : Bytes
  deriving DecidableEq, Repr

def refusal (e : AddressError) : FieldProblem := .refused ("account: " ++ e.message)

def readDeletePayload (value : Json) : Except FieldError DeletePayload :=
  Schema.field "account" (fun v =>
    match Schema.text v with
    | .error problem => .error problem
    | .ok text =>
      let account := Text.trimString text
      match Address.decode account with
      | .error e => .error (refusal e)
      | .ok address => .ok ⟨account, address⟩) value

def readItem (value : Json) : Except (List FieldError) (Int × String) :=
  Schema.both (Schema.field "id" Schema.integer value) (Schema.field "address" Schema.text value)

end AddressBook.Keys
