import AddressBook.Bytes
import AddressBook.Radix

namespace AddressBook.Base58

def alphabet : List Char :=
  "123456789ABCDEFGHJKLMNPQRSTUVWXYZabcdefghijkmnopqrstuvwxyz".toList

def digitChar (digit : Nat) : Char := alphabet.getD digit '1'

def digitValue? (c : Char) : Option Nat := alphabet.idxOf? c

/-- The bytes are one big-endian number. A number shows no leading zeros, so each leading zero byte
is written as one leading `1`. -/
def encode (bytes : Bytes) : List Char :=
  let significant := bytes.dropWhile (· == 0)
  let zeros := List.replicate (bytes.length - significant.length) '1'
  zeros ++ (Radix.digits 58 (Bytes.bigEndian significant)).map digitChar

/-- Refuses any character outside the alphabet. -/
def decode? (text : List Char) : Option Bytes :=
  let significant := text.dropWhile (· == '1')
  match significant.mapM digitValue? with
  | none => none
  | some digits =>
    let number := Radix.digits 256 (Radix.value 58 digits)
    some (List.replicate (text.length - significant.length) 0 ++ number.map UInt8.ofNat)

end AddressBook.Base58
