import AddressBook.Failure
import AddressBook.Store

namespace AddressBook

/-- The seven tables, by what a row of each is. -/
inductive RowKind where
  | user
  | token
  | publicKey
  | node
  | code
  | contract
  | event
  deriving DecidableEq, Repr

namespace RowKind

def all : List RowKind := [.user, .token, .publicKey, .node, .code, .contract, .event]

def name : RowKind → String
  | .user => "User"
  | .token => "Token"
  | .publicKey => "PublicKey"
  | .node => "Node"
  | .code => "Code"
  | .contract => "Contract"
  | .event => "Event"

def label (kind : RowKind) : String :=
  match kind with
  | .user | .token => "users." ++ kind.name
  | .publicKey => "keys." ++ kind.name
  | _ => "chain." ++ kind.name

def notThere (kind : RowKind) : Failure :=
  .fault .doesNotExist (kind.name ++ " matching query does not exist.")

end RowKind

namespace Store

def ids (kind : RowKind) (s : Store) : List Nat :=
  match kind with
  | .user => s.users.rows.map User.id
  | .token => s.tokens.rows.map Token.id
  | .publicKey => s.keys.rows.map PublicKey.id
  | .node => s.nodes.rows.map Node.id
  | .code => s.codes.rows.map Code.id
  | .contract => s.contracts.rows.map Contract.id
  | .event => s.events.rows.map Event.id

/-- Removes the row with this id and all rows that refer to it; tells how many rows of which tables
went. -/
def removeRow (kind : RowKind) (id : Nat) (s : Store) : List (RowKind × Nat) × Store :=
  match kind with
  | .user =>
    let (tokenCount, tokens) := s.tokens.remove fun row => row.user == id
    let (keyCount, keys) := s.keys.remove fun row => row.user == id
    let (count, users) := s.users.remove fun row => row.id == id
    ([(.token, tokenCount), (.publicKey, keyCount), (.user, count)],
      { s with tokens, keys, users })
  | .node =>
    let (contractCount, contracts) := s.contracts.remove fun row => row.node == id
    let (eventCount, events) := s.events.remove fun row => row.node == id
    let (count, nodes) := s.nodes.remove fun row => row.id == id
    ([(.contract, contractCount), (.event, eventCount), (.node, count)],
      { s with contracts, events, nodes })
  | .token =>
    let (count, tokens) := s.tokens.remove fun row => row.id == id
    ([(.token, count)], { s with tokens })
  | .publicKey =>
    let (count, keys) := s.keys.remove fun row => row.id == id
    ([(.publicKey, count)], { s with keys })
  | .code =>
    let (count, codes) := s.codes.remove fun row => row.id == id
    ([(.code, count)], { s with codes })
  | .contract =>
    let (count, contracts) := s.contracts.remove fun row => row.id == id
    ([(.contract, count)], { s with contracts })
  | .event =>
    let (count, events) := s.events.remove fun row => row.id == id
    ([(.event, count)], { s with events })

end Store
end AddressBook
