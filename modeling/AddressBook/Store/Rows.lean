import AddressBook.Bytes
import AddressBook.Moment.Stamp

namespace AddressBook

structure User where
  id : Nat
  deriving DecidableEq, Repr

/-- A credential of a user; only the hash of the token is kept. -/
structure Token where
  id : Nat
  user : Nat
  hash : String
  deriving DecidableEq, Repr

/-- An account that a user has linked. -/
structure PublicKey where
  id : Nat
  user : Nat
  address : Bytes
  deriving DecidableEq, Repr

structure Node where
  id : Nat
  name : String
  url : String
  confirmedBlock : Int
  deriving DecidableEq, Repr

structure Code where
  id : Nat
  hash : Bytes
  code : Bytes
  deriving DecidableEq, Repr

structure Contract where
  id : Nat
  node : Nat
  codeHash : Bytes
  address : Bytes
  owner : Option Bytes
  deriving DecidableEq, Repr

/-- Contract activity that was seen on the chain of a node. The body is kept as it came. -/
structure Event where
  id : Nat
  node : Nat
  account : Bytes
  kind : String
  body : String
  stamp : Stamp
  deriving DecidableEq, Repr

end AddressBook
