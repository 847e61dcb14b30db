import AddressBook.Base58
import AddressBook.Digest.Blake2b
import AddressBook.Text.Blank

namespace AddressBook

inductive AddressError where
  | notText
  | notBase58
  | empty
  | unknownTag
  | wrongLength
  | wrongChecksum
  | reservedFormat
  | accountLength (got : Nat)
  | unsupportedFormat (format : Int)
  deriving DecidableEq, Repr

def AddressError.message : AddressError → String
  | .notText => "Address must be a non-empty string"
  | .notBase58 => "Address is not valid base58"
  | .empty => "Address is empty"
  | .unknownTag => "Invalid SS58 prefix"
  | .wrongLength => "Invalid address length"
  | .wrongChecksum => "Invalid address checksum"
  | .reservedFormat => "Reserved SS58 format"
  | .accountLength got => "Account must be 32 bytes, got " ++ toString got
  | .unsupportedFormat format => "Unsupported SS58 format: " ++ toString format

namespace Address

def accountLength : Nat := 32

def checksumLength : Nat := 2

/-- The format that addresses are written in unless the settings choose another. -/
def defaultFormat : Int := 42

/-- The greatest format that a two-byte tag can carry. -/
def maxFormat : Nat := 16383

/-- The formats that no address may have. -/
def isReserved (format : Nat) : Bool := format == 46 || format == 47

/-- What is hashed in front of tag and account. -/
def checksumSalt : Bytes := Bytes.ofText "SS58PRE"

/-- The first two bytes of the salted BLAKE2b digest. -/
def checksum (payload : Bytes) : Bytes :=
  (Blake2b.digest (checksumSalt ++ payload)).take checksumLength

theorem length_checksum (payload : Bytes) : (checksum payload).length = 2 := by
  simp [checksum, checksumLength, Blake2b.length_digest]

/-- The tag of a supported format. In two bytes the low eight bits of the format come first, after
the mark 01, with its high six bits at the end. -/
def tagOf (format : Nat) : Bytes :=
  if format < 64 then [UInt8.ofNat format]
  else [UInt8.ofNat (64 + format % 256 / 4), UInt8.ofNat (format / 256 + format % 4 * 64)]

def tag (format : Int) : Except AddressError Bytes :=
  if format < 0 ∨ (maxFormat : Int) < format ∨ isReserved format.toNat then
    .error (.unsupportedFormat format)
  else .ok (tagOf format.toNat)

def tagLength (first : Int) : Except AddressError Nat :=
  if first < 64 then .ok 1
  else if first < 128 then .ok 2
  else .error .unknownTag

/-- The format that a tag carries: a single byte is the format itself, otherwise the first two
bytes count. An empty tag carries none. -/
def tagFormat? : Bytes → Option Nat
  | [] => none
  | [only] => some only.toNat
  | first :: second :: _ =>
    some (4 * first.toNat % 256 + second.toNat / 64 + 256 * (second.toNat % 64))

/-- The account bytes in the decoded data of an address. Data with a tag are checked in this order:
tag, length, checksum, reserved format. -/
def accountOf (data : Bytes) : Except AddressError Bytes :=
  match data with
  | [] => .error .empty
  | first :: _ =>
    match tagLength first.toNat with
    | .error e => .error e
    | .ok length =>
      if data.length ≠ length + accountLength + checksumLength then .error .wrongLength
      else
        let payload := data.take (length + accountLength)
        if checksum payload ≠ data.drop (length + accountLength) then .error .wrongChecksum
        else if (tagFormat? (payload.take length)).any isReserved then .error .reservedFormat
        else .ok (payload.drop length)

/-- The account that an address names, whatever its network format. Blank characters after the
address are ignored. -/
def decode (text : String) : Except AddressError Bytes :=
  if text.isEmpty then .error .notText
  else
    match Base58.decode? (Text.trimEnd text.toList) with
    | none => .error .notBase58
    | some data => accountOf data

/-- The address of an account in a network format. The length of the account is checked before the
format. -/
def encode (account : Bytes) (format : Int) : Except AddressError String :=
  if account.length ≠ accountLength then .error (.accountLength account.length)
  else
    match tag format with
    | .error e => .error e
    | .ok t =>
      let payload := t ++ account
      .ok (String.ofList (Base58.encode (payload ++ checksum payload)))

end Address
end AddressBook
