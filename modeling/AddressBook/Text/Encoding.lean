import AddressBook.Bytes
import AddressBook.Text.Digit

namespace AddressBook.Text

inductive Encoding where
  | utf8
  | utf16 (bigEndian : Bool)
  | utf32 (bigEndian : Bool)
  deriving DecidableEq, Repr

def Encoding.name : Encoding → String
  | .utf8 => "utf-8"
  | .utf16 true => "utf-16-be"
  | .utf16 false => "utf-16-le"
  | .utf32 true => "utf-32-be"
  | .utf32 false => "utf-32-le"

inductive DecodeReason where
  | invalidStart
  | invalidContinuation
  | unexpectedEnd
  | truncated
  | outOfRange
  deriving DecidableEq, Repr

def DecodeReason.message : DecodeReason → String
  | .invalidStart => "invalid start byte"
  | .invalidContinuation => "invalid continuation byte"
  | .unexpectedEnd => "unexpected end of data"
  | .truncated => "truncated data"
  | .outOfRange => "code point not in range(0x110000)"

structure DecodeError where
  encoding : Encoding
  offset : Nat
  bytes : Bytes
  reason : DecodeReason
  deriving Repr

def DecodeError.message (e : DecodeError) : String :=
  let what := match e.bytes with
    | [byte] => "byte 0x" ++ String.ofList (hexDigits 2 byte.toNat) ++
        " in position " ++ toString e.offset
    | bytes => "bytes in position " ++ toString e.offset ++ "-" ++
        toString (e.offset + bytes.length - 1)
  "'" ++ e.encoding.name ++ "' codec can't decode " ++ what ++ ": " ++ e.reason.message

/-- What stands in the text for a surrogate without its partner. -/
def replacement : Char := '\uFFFD'

/-- The character of a code point, surrogates being replaced. -/
def charOf (codePoint : Nat) : Char :=
  if 0xD800 ≤ codePoint ∧ codePoint < 0xE000 then replacement else Char.ofNat codePoint

def isHighSurrogate (n : Nat) : Bool := 0xD800 ≤ n && n < 0xDC00

def isLowSurrogate (n : Nat) : Bool := 0xDC00 ≤ n && n < 0xE000

def joinSurrogates (high low : Nat) : Nat := 0x10000 + (high - 0xD800) * 0x400 + (low - 0xDC00)

/-- What the bytes start with: a character of so many bytes, or so many bytes that are none. -/
inductive Lead where
  | character (codePoint : Nat) (length : Nat)
  | bad (length : Nat) (reason : DecodeReason)

def isContinuation (byte : UInt8) : Bool := 0x80 ≤ byte.toNat && byte.toNat < 0xC0

/-- Whether a byte may follow the first byte of a character of three or four bytes. The ranges
leave out the longer forms of shorter characters, the surrogates and what lies beyond U+10FFFF. -/
def mayFollow (first second : UInt8) : Bool :=
  isContinuation second &&
    (first != 0xE0 || 0xA0 ≤ second.toNat) && (first != 0xED || second.toNat < 0xA0) &&
    (first != 0xF0 || 0x90 ≤ second.toNat) && (first != 0xF4 || second.toNat < 0x90)

/-- How many of the bytes after the first belong to the character, at most `wanted`. -/
def followers (first : UInt8) (wanted : Nat) : Bytes → Nat
  | [] => 0
  | second :: rest =>
    if wanted = 0 ∨ !mayFollow first second then 0
    else 1 + ((rest.take (wanted - 1)).takeWhile isContinuation).length

def utf8Lead (first : UInt8) (rest : Bytes) : Lead :=
  let n := first.toNat
  let wanted := if n < 0x80 then 0 else if n < 0xE0 then 1 else if n < 0xF0 then 2 else 3
  if (0x80 ≤ n ∧ n < 0xC2) ∨ 0xF5 ≤ n then .bad 1 .invalidStart
  else
    let got := followers first wanted rest
    if got = wanted then
      let start := if wanted = 0 then n else if wanted = 1 then n % 32 else
        if wanted = 2 then n % 16 else n % 8
      .character ((rest.take wanted).foldl (fun high byte => 64 * high + byte.toNat % 64) start)
        (wanted + 1)
    else if rest.length ≤ got then .bad (got + 1) .unexpectedEnd
    else .bad (got + 1) .invalidContinuation

/-- The surrogate that three bytes spell as UTF-8 would if it had any. -/
def spelledSurrogate? : Bytes → Option Nat
  | 0xED :: second :: third :: _ =>
    if 0xA0 ≤ second.toNat ∧ isContinuation second ∧ isContinuation third then
      some (0xD000 + second.toNat % 64 * 64 + third.toNat % 64)
    else none
  | _ => none

/-- Reads UTF-8 from byte `offset` on, admitting lone surrogates if `lenient`. -/
def decodeUtf8 (lenient : Bool) (offset : Nat) (bytes : Bytes) :
    Except DecodeError (List Char) :=
  match bytes with
  | [] => .ok []
  | first :: rest =>
    let lead : Lead := match lenient, spelledSurrogate? (first :: rest) with
      | true, some n => .character n 3
      | _, _ => utf8Lead first rest
    match lead with
    | .character n length =>
      (decodeUtf8 lenient (offset + length) (rest.drop (length - 1))).map (charOf n :: ·)
    | .bad length reason => .error ⟨.utf8, offset, (first :: rest).take length, reason⟩
termination_by bytes.length
decreasing_by simp only [List.length_drop, List.length_cons]; omega

def unitOf (bigEndian : Bool) (bytes : Bytes) : Nat :=
  if bigEndian then Bytes.bigEndian bytes else Bytes.littleEndian bytes

def decodeUtf16 (bigEndian : Bool) (offset : Nat) (bytes : Bytes) :
    Except DecodeError (List Char) :=
  match bytes with
  | [] => .ok []
  | [only] => .error ⟨.utf16 bigEndian, offset, [only], .truncated⟩
  | [a, b] => .ok [charOf (unitOf bigEndian [a, b])]
  | [a, b, c] =>
    (decodeUtf16 bigEndian (offset + 2) [c]).map (charOf (unitOf bigEndian [a, b]) :: ·)
  | a :: b :: c :: d :: rest =>
    let high := unitOf bigEndian [a, b]
    let low := unitOf bigEndian [c, d]
    if isHighSurrogate high ∧ isLowSurrogate low then
      (decodeUtf16 bigEndian (offset + 4) rest).map (charOf (joinSurrogates high low) :: ·)
    else
      (decodeUtf16 bigEndian (offset + 2) (c :: d :: rest)).map (charOf high :: ·)
termination_by bytes.length

def decodeUtf32 (bigEndian : Bool) (offset : Nat) (bytes : Bytes) :
    Except DecodeError (List Char) :=
  match bytes with
  | [] => .ok []
  | a :: b :: c :: d :: rest =>
    let n := unitOf bigEndian [a, b, c, d]
    if n < 0x110000 then (decodeUtf32 bigEndian (offset + 4) rest).map (charOf n :: ·)
    else .error ⟨.utf32 bigEndian, offset, [a, b, c, d], .outOfRange⟩
  | few => .error ⟨.utf32 bigEndian, offset, few, .truncated⟩

end AddressBook.Text
