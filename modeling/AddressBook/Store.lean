import AddressBook.Store.Rows
import AddressBook.Store.Table

namespace AddressBook

structure Store where
  users : Table User
  tokens : Table Token
  keys : Table PublicKey
  nodes : Table Node
  codes : Table Code
  contracts : Table Contract
  events : Table Event

namespace Store

def empty : Store :=
  ⟨Table.empty, Table.empty, Table.empty, Table.empty, Table.empty, Table.empty, Table.empty⟩

/-- The keys of a user, oldest first. -/
def keysOf (user : Int) (s : Store) : List PublicKey :=
  s.keys.rows.filter fun key => (key.user : Int) == user

def userOfHash? (hash : String) (s : Store) : Option User := do
  let token ← s.tokens.rows.find? fun token => token.hash == hash
  s.users.rows.find? fun user => user.id == token.user

def unlink (user : Int) (address : Bytes) (s : Store) : Nat × Store :=
  let (count, keys) := s.keys.remove fun key => (key.user : Int) == user && key.address == address
  (count, { s with keys })

/-- The events of an account, oldest entry first. -/
def eventsOf (account : Bytes) (s : Store) : List Event :=
  s.events.rows.filter fun event => event.account == account

end Store
end AddressBook
