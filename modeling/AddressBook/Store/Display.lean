import AddressBook.Json.Display
import AddressBook.Moment.Iso
import AddressBook.Store
import AddressBook.Store.Remove

namespace AddressBook.RowKind

def userText (id : String) : String := "user:" ++ id

def ownedText (what id user : String) : String := what ++ ":" ++ id ++ " (user:" ++ user ++ ")"

def tokenText (id user : String) : String := ownedText "token" id user

def publicKeyText (id user : String) : String := ownedText "public_key" id user

def nodeText (name url : String) : String := name ++ " (" ++ url ++ ")"

def plainText (kind : RowKind) (id : String) : String := kind.name ++ " object (" ++ id ++ ")"

def eventText (type id : String) (clock : DateTime) : String :=
  "[" ++ type ++ "] event:" ++ id ++ " at " ++ clock.display

def noMoment : Failure := .fault .type "unsupported format string passed to NoneType.__format__"

def noClock : Json → Failure
  | .null => noMoment
  | .array _ => .fault .type "unsupported format string passed to list.__format__"
  | .object _ => .fault .type "unsupported format string passed to dict.__format__"
  | value => .fault .value ("Invalid format specifier '%Y-%m-%d %H:%M:%S' for object of type '" ++
      value.kindName ++ "'")

/-- What a row belongs to: the name and the kind of the other row. -/
def owner? : RowKind → Option (String × RowKind)
  | .token | .publicKey => some ("user", .user)
  | .contract | .event => some ("node", .node)
  | _ => none

def ownNames : RowKind → List String
  | .user => ["created_at", "updated_at"]
  | .token => ["created_at", "updated_at", "token_hash"]
  | .publicKey => ["created_at", "updated_at", "address"]
  | .node => ["name", "url", "confirmed_block"]
  | .code => ["hash", "code"]
  | .contract => ["code_hash", "address", "owner"]
  | .event => ["account", "event_type", "body", "block_timestamp"]

/-- All names under which a row takes values: an id may also be called `pk`, and the other row may
be named by itself or by its id. -/
def names (kind : RowKind) : List String :=
  ["id", "pk"] ++ ((kind.owner?.map fun (name, _) => [name, name ++ "_id"]).getD []) ++
    kind.ownNames

/-- Fails if a value is given for another row: rows that are not in their table refer by ids
only. -/
def checkOwner (kind : RowKind) (fields : Fields) : Except Failure Unit :=
  match kind.owner? with
  | none => .ok ()
  | some (name, other) =>
    match fields.get? name with
    | none | some .null => .ok ()
    | some value => .error (.fault .value ("Cannot assign \"" ++ value.displayQuoted ++ "\": \"" ++
        kind.name ++ "." ++ name ++ "\" must be a \"" ++ other.name ++ "\" instance."))

def partNames : RowKind → List String
  | .user => ["tokens", "public_keys"]
  | .node => ["contracts", "events"]
  | _ => []

/-- Fails if a value is given for the rows that belong to a row: they are not set with it. -/
def checkParts (kind : RowKind) (fields : Fields) : Except Failure Unit :=
  match (fields.map Prod.fst).find? kind.partNames.contains with
  | none => .ok ()
  | some name =>
    .error (.fault .type ("Direct assignment to the reverse side of a related set is prohibited." ++
      " Use " ++ name ++ ".set() instead."))

def checkNames (kind : RowKind) (fields : Fields) : Except Failure Unit :=
  match (fields.map Prod.fst).filter fun name => !kind.names.contains name with
  | [] => .ok ()
  | unknown => .error (.fault .type (kind.name ++ "() got unexpected keyword arguments: " ++
      ", ".intercalate (unknown.map Text.quoted)))

/-- The text of a row that is not in its table yet. A text that is missing is empty, and everything
else that is missing is nothing. -/
def newText (kind : RowKind) (fields : Fields) : Except Failure String := do
  checkOwner kind fields
  checkParts kind fields
  checkNames kind fields
  let shown (name : String) (default : Json) : String := ((fields.get? name).getD default).display
  let id := shown (if (fields.get? "pk").isSome then "pk" else "id") .null
  match kind with
  | .user => return userText id
  | .token => return tokenText id (shown "user_id" .null)
  | .publicKey => return publicKeyText id (shown "user_id" .null)
  | .node => return nodeText (shown "name" (.string "")) (shown "url" (.string ""))
  | .event => .error (noClock ((fields.get? "block_timestamp").getD .null))
  | _ => return kind.plainText id

end AddressBook.RowKind
