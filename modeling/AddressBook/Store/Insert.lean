import AddressBook.Failure
import AddressBook.Store

namespace AddressBook.Store

inductive InsertError where
  | overflow
  | missing (column : String)
  | duplicate (columns : String)
  | noReferent
  deriving DecidableEq, Repr

def InsertError.failure : InsertError → Failure
  | .overflow => .integerTooLong
  | .missing column => .storage .integrity (.string ("NOT NULL constraint failed: " ++ column))
  | .duplicate columns => .storage .integrity (.string ("UNIQUE constraint failed: " ++ columns))
  | .noReferent => .storage .integrity (.string "FOREIGN KEY constraint failed")

/-- A refused row leaves no trace. The rules are applied in this order: no required value is
missing, integers have 64 bits, what must be unique is new, and what is referred to exists. -/
abbrev Insertion := Except InsertError (Nat × Store)

def checkFits (n : Int) : Except InsertError Unit :=
  if Table.fits n then .ok () else .error .overflow

def require (column : String) : Option α → Except InsertError α
  | some value => .ok value
  | none => .error (.missing column)

def checkNew (columns : String) (rows : List α) (same : α → Bool) : Except InsertError Unit :=
  if rows.any same then .error (.duplicate columns) else .ok ()

/-- The id that a reference names, if a row has it. -/
def referent (rows : List α) (id : α → Nat) (n : Int) : Except InsertError Nat :=
  match rows.find? fun row => (id row : Int) == n with
  | some row => .ok (id row)
  | none => .error .noReferent

def insertUser (s : Store) : Nat × Store :=
  let (id, users) := s.users.add User.mk
  (id, { s with users })

def insertToken (user : Option Int) (hash : Option String) (s : Store) : Insertion := do
  let hash ← require "tokens.token_hash" hash
  let user ← require "tokens.user_id" user
  checkFits user
  checkNew "tokens.token_hash" s.tokens.rows fun row => row.hash == hash
  let user ← referent s.users.rows User.id user
  let (id, tokens) := s.tokens.add fun id => ⟨id, user, hash⟩
  return (id, { s with tokens })

def insertKey (user : Option Int) (address : Option Bytes) (s : Store) : Insertion := do
  let address ← require "public_keys.address" address
  let user ← require "public_keys.user_id" user
  checkFits user
  checkNew "public_keys.user_id, public_keys.address" s.keys.rows fun row =>
    (row.user : Int) == user && row.address == address
  let user ← referent s.users.rows User.id user
  let (id, keys) := s.keys.add fun id => ⟨id, user, address⟩
  return (id, { s with keys })

def insertNode (name url : Option String) (confirmedBlock : Option Int) (s : Store) :
    Insertion := do
  let name ← require "nodes.name" name
  let url ← require "nodes.url" url
  let confirmedBlock ← require "nodes.confirmed_block" confirmedBlock
  checkFits confirmedBlock
  checkNew "nodes.name" s.nodes.rows fun row => row.name == name
  let (id, nodes) := s.nodes.add fun id => ⟨id, name, url, confirmedBlock⟩
  return (id, { s with nodes })

def insertCode (hash code : Option Bytes) (s : Store) : Insertion := do
  let hash ← require "codes.hash" hash
  let code ← require "codes.code" code
  checkNew "codes.hash" s.codes.rows fun row => row.hash == hash
  let (id, codes) := s.codes.add fun id => ⟨id, hash, code⟩
  return (id, { s with codes })

def insertContract (node : Option Int) (codeHash address owner : Option Bytes) (s : Store) :
    Insertion := do
  let codeHash ← require "contracts.code_hash" codeHash
  let address ← require "contracts.address" address
  let node ← require "contracts.node_id" node
  checkFits node
  checkNew "contracts.node_id, contracts.address" s.contracts.rows fun row =>
    (row.node : Int) == node && row.address == address
  let node ← referent s.nodes.rows Node.id node
  let (id, contracts) := s.contracts.add fun id => ⟨id, node, codeHash, address, owner⟩
  return (id, { s with contracts })

def insertEvent (node : Option Int) (account : Option Bytes) (kind body : Option String)
    (stamp : Option Stamp) (s : Store) : Insertion := do
  let account ← require "events.account" account
  let kind ← require "events.event_type" kind
  let body ← require "events.body" body
  let stamp ← require "events.block_timestamp" stamp
  let node ← require "events.node_id" node
  checkFits node
  let node ← referent s.nodes.rows Node.id node
  let (id, events) := s.events.add fun id => ⟨id, node, account, kind, body, stamp⟩
  return (id, { s with events })

end AddressBook.Store
