import AddressBook.Bytes.Hex
import AddressBook.Text.Digit

namespace AddressBook.Text.Name

def piecesFrom (before : Char) (piece : List Char) : List Char → List (List Char)
  | [] => [piece.reverse]
  | c :: rest =>
    if c == ' ' || (c == '-' && before != ' ') then piece.reverse :: piecesFrom c [c] rest
    else piecesFrom c (c :: piece) rest

/-- A name cut in front of every blank, and of every hyphen that does not follow one. -/
def pieces (name : List Char) : List (List Char) :=
  (piecesFrom ' ' [] name).filter fun piece => !piece.isEmpty

def shownNumber (number : Nat) : List Char :=
  (hexDigits (if number < 0x10000 then 4 else 5) number).map Char.toUpper

def written (number : Nat) (name : List (List Char)) : List Char :=
  name.flatten.flatMap fun c => if c == '*' then shownNumber number else [c]

/-- The pieces of the name that an entry without a number is short for. A blank in front of the new
pieces is not written. -/
def expanded (before : List (List Char)) : List Char → List (List Char)
  | [] => []
  | count :: text =>
    let kept := count.toNat - 48
    let new := text.takeWhile (· != '+')
    let isWhole := kept == 0 || new.isEmpty || new.head? == some ' ' || new.head? == some '-'
    let new := pieces (if isWhole then new else ' ' :: new)
    let left := if text.getLast? == some '+' then before.drop (kept + new.length) else []
    before.take kept ++ new ++ left

def splitNumber (number : Nat) (entry : List Char) : Nat × List Char :=
  let label := entry.takeWhile (· != ':')
  if label.length = entry.length then (number, entry)
  else (Radix.value 16 (label.filterMap Bytes.hexValue?), entry.drop (label.length + 1))

/-- The character with a name among entries, of which the first one is for a number unless it shows
another one. -/
def find? (name : List Char) (number : Nat) (before : List (List Char)) :
    List (List Char) → Option Nat
  | [] => none
  | entry :: rest =>
    let (number, text) := splitNumber number entry
    let now := expanded before text
    if written number now == name then some number else find? name (number + 1) now rest

/-- Entries stand between commas or line ends. Each is short for the name of the character after
that of the entry before it, or of the one whose number stands in front of a colon: its first digit
tells how many pieces of the name before are kept, and then come the new ones. A plus sign at the
end stands for the pieces of the name before that are left, and an asterisk for the number of the
character. -/
def entries (table : String) : List (List Char) :=
  ((table.toList.map fun c => if c == '\n' then ',' else c).splitOn ',').map fun entry =>
    entry.dropWhile (· == ' ')

end AddressBook.Text.Name
