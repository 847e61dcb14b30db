import AddressBook.Bytes

namespace AddressBook.Bytes

def base64Alphabet : List Char :=
  "ABCDEFGHIJKLMNOPQRSTUVWXYZabcdefghijklmnopqrstuvwxyz0123456789-_".toList

def base64Chars (groups : List Nat) : List Char :=
  groups.map fun group => base64Alphabet.getD (group % 64) 'A'

def base64List : Bytes → List Char
  | [] => []
  | [a] =>
    let n := a.toNat * 16
    base64Chars [n / 64, n]
  | [a, b] =>
    let n := (a.toNat * 256 + b.toNat) * 4
    base64Chars [n / 4096, n / 64, n]
  | a :: b :: c :: rest =>
    let n := (a.toNat * 256 + b.toNat) * 256 + c.toNat
    base64Chars [n / 262144, n / 4096, n / 64, n] ++ base64List rest

def toBase64 (bytes : Bytes) : String := String.ofList (base64List bytes)

end AddressBook.Bytes
