import AddressBook.Events
import AddressBook.Store.Display
import AddressBook.Store.Input
import AddressBook.Store.Insert
import AddressBook.Store.Remove
import AddressBook.Tokens

namespace AddressBook.Book

def insert (insertion : Store → Store.Insertion) : Session Nat :=
  Session.execute fun store => (insertion store).mapError Store.InsertError.failure

def addUser : Session Nat := Session.execute fun store => .ok store.insertUser

def addToken (user : Option Int) (token : String) : Session Nat :=
  insert (Store.insertToken user (some (Tokens.hash token)))

def addKey (user : Option Int) (address : Option Bytes) : Session Nat :=
  insert (Store.insertKey user address)

def addNode (name url : Option String) (confirmedBlock : Option Int) : Session Nat :=
  insert (Store.insertNode name url confirmedBlock)

def addCode (hash code : Option Bytes) : Session Nat := insert (Store.insertCode hash code)

def addContract (node : Option Int) (codeHash address owner : Option Bytes) : Session Nat :=
  insert (Store.insertContract node codeHash address owner)

/-- Adds an event that was stamped elsewhere. -/
def addStampedEvent (node : Option Int) (account : Option Bytes) (kind body : Option String)
    (stamp : Option Stamp) : Session Nat :=
  insert (Store.insertEvent node account kind body stamp)

def addEvent (node : Option Int) (account : Option Bytes) (kind body : Option String)
    (moment : Moment) : Session Nat :=
  match Stamp.ofMoment? moment with
  | some stamp => addStampedEvent node account kind body (some stamp)
  | none => Session.fail (.fault .overflow "date value out of range")

/-- The id that a value gives for a row; without one there is no such row. -/
def idOf (kind : RowKind) (value : Json) : Except Failure Int :=
  match Store.integerOf "id" value with
  | .error failure => .error failure
  | .ok none => .error kind.notThere
  | .ok (some id) => .ok id

def find (kind : RowKind) (id : Int) : Session Nat := do
  match ← Session.query fun store => (store.ids kind).find? fun (n : Nat) => (n : Int) == id with
  | some n => return n
  | none => Session.fail kind.notThere

structure NewToken where
  user : Nat
  hash : String
  plain : String

def newToken (user : Nat) (random : Bytes) : NewToken :=
  let plain := Tokens.ofRandom random
  ⟨user, Tokens.hash plain, plain⟩

def keepToken (token : NewToken) : Session Nat :=
  insert (Store.insertToken (some token.user) (some token.hash))

/-- Removes a row and the rows that refer to it; tells of each table that lost any how many went. -/
def remove (kind : RowKind) (id : Int) : Session (List (RowKind × Nat)) := do
  let id ← find kind id
  let counts ← Session.execute fun store => .ok (store.removeRow kind id)
  return counts.filter fun entry => entry.2 ≠ 0

def eventRowText (event : Event) : Except Failure String :=
  match event.stamp.read with
  | .error e => .error (Failure.ofDateTimeError e)
  | .ok none => .error RowKind.noMoment
  | .ok (some moment) => .ok (RowKind.eventText event.kind (toString event.id) moment.clock)

def rowText? (kind : RowKind) (id : Nat) (store : Store) : Option (Except Failure String) :=
  let shown := toString id
  match kind with
  | .user => (store.users.rows.find? (·.id == id)).map fun _ => .ok (RowKind.userText shown)
  | .token => (store.tokens.rows.find? (·.id == id)).map fun row =>
      .ok (RowKind.tokenText shown (toString row.user))
  | .publicKey => (store.keys.rows.find? (·.id == id)).map fun row =>
      .ok (RowKind.publicKeyText shown (toString row.user))
  | .node => (store.nodes.rows.find? (·.id == id)).map fun row =>
      .ok (RowKind.nodeText row.name row.url)
  | .event => (store.events.rows.find? (·.id == id)).map eventRowText
  | .code => (store.codes.rows.find? (·.id == id)).map fun _ => .ok (kind.plainText shown)
  | .contract =>
    (store.contracts.rows.find? (·.id == id)).map fun _ => .ok (kind.plainText shown)

def describe (kind : RowKind) (id : Int) : Session String := do
  match ← Session.query fun store => if id < 0 then none else rowText? kind id.toNat store with
  | some text => Session.ofExcept text
  | none => Session.fail kind.notThere

end AddressBook.Book
