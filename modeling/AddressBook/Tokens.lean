import AddressBook.Bytes.Base64
import AddressBook.Bytes.Hex
import AddressBook.Digest.Sha256
import AddressBook.Session

namespace AddressBook.Tokens

/-- The SHA-256 digest of the token, in hexadecimal digits. -/
def hash (token : String) : String := Bytes.toHex (Sha256.digest (Bytes.ofText token))

def textOf (value : Json) : Except Failure String :=
  match value with
  | .string token => .ok token
  | _ => .error (.fault .attribute ("'" ++ value.kindName ++ "' object has no attribute 'encode'"))

def ofRandom (bytes : Bytes) : String := Bytes.toBase64 bytes

/-- The user to whom a token belongs. The empty text is nobody's token. -/
def owner? (token : String) : Session (Option User) :=
  if token.isEmpty then pure none
  else Session.query fun store => store.userOfHash? (hash token)

end AddressBook.Tokens
