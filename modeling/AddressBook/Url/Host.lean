import AddressBook.Bytes.Hex
import AddressBook.Text.Quoted

namespace AddressBook.Url

def cutAt (mark : Char) (text : List Char) : List Char × Option (List Char) :=
  match text.dropWhile (· != mark) with
  | [] => (text, none)
  | _ :: rest => (text.takeWhile (· != mark), some rest)

def cutAtLast (mark : Char) (text : List Char) : Option (List Char) × List Char :=
  match cutAt mark text.reverse with
  | (_, none) => (none, text)
  | (after, some before) => (some before.reverse, after.reverse)

def isOctet (text : List Char) : Bool :=
  text.all Char.isDigit &&
    match text with
    | [] => false
    | ['0'] => true
    | '0' :: _ => false
    | _ => text.length ≤ 3 && Text.asciiValue text ≤ 255

/-- Whether a text is an address of version 4: four octets between points. -/
def isVersion4 (text : List Char) : Bool :=
  let octets := text.splitOn '.'
  octets.length == 4 && octets.all isOctet

def isHextet (text : List Char) : Bool :=
  !text.isEmpty && text.length ≤ 4 && text.all fun c => (Bytes.hexValue? c).isSome

/-- The parts of an address of version 6, an address of version 4 at its end being two of them. -/
def version6Parts? (text : List Char) : Option (List (List Char)) :=
  let parts := text.splitOn ':'
  let last := parts.getLast?.getD []
  if !last.contains '.' then some parts
  else if isVersion4 last then some (parts.dropLast ++ [['0'], ['0']])
  else none

/-- Whether parts are those of an address of version 6: eight numbers, or fewer around one gap. At
either end of the address a gap takes an empty part more. -/
def areVersion6Parts (parts : List (List Char)) : Bool :=
  let isSide (side : List (List Char)) : Bool := side == [[]] || side.all isHextet
  match ((parts.drop 1).dropLast).idxOf? [] with
  | some gap =>
    isSide (parts.take (gap + 1)) && isSide (parts.drop (gap + 2)) &&
      (parts.countP fun part => !part.isEmpty) ≤ 7
  | none => parts.length == 8 && parts.all isHextet

/-- Whether a text is an address of version 6, whose zone may follow a percent sign. -/
def isVersion6 (text : List Char) : Bool :=
  let (address, zone) := cutAt '%' text
  zone.all (fun z => !z.isEmpty && !z.contains '%') && 3 ≤ (address.splitOn ':').length &&
    (version6Parts? address).any areVersion6Parts

/-- Whether a text is an address of a version that does not exist yet: `v`, hexadecimal digits, a
point, and something. -/
def isFutureVersion (text : List Char) : Bool :=
  let digits := (text.drop 1).takeWhile fun c => (Bytes.hexValue? c).isSome
  text.head? == some 'v' && !digits.isEmpty &&
    match (text.drop 1).drop digits.length with
    | '.' :: _ :: _ => true
    | _ => false

/-- The characters that are compatible with a text that has a separator. -/
def separatorLookalikes : List Nat :=
  [0x2047, 0x2048, 0x2049, 0x2100, 0x2101, 0x2105, 0x2106, 0x2A74, 0xFE13, 0xFE16, 0xFE55, 0xFE56,
   0xFE5F, 0xFE6B, 0xFF03, 0xFF0F, 0xFF1A, 0xFF1F, 0xFF20]

end AddressBook.Url
