import AddressBook.Text.Name.Aliases
import AddressBook.Text.Name.FurtherLetters
import AddressBook.Text.Name.FurtherSigns
import AddressBook.Text.Name.Letters
import AddressBook.Text.Name.Marks
import AddressBook.Text.Name.OldLetters
import AddressBook.Text.Name.OldSigns
import AddressBook.Text.Name.Pictures
import AddressBook.Text.Name.Signs
import AddressBook.Text.Name.Syllables
import AddressBook.Text.Name.Table

namespace AddressBook.Text

/-- The names of all characters of Unicode 14, but for the Chinese characters, which are named by
their numbers, and the Korean syllables, which are named by their sounds. -/
def nameTables : List String :=
  [Name.letters, Name.furtherLetters, Name.signs, Name.furtherSigns, Name.syllables,
   Name.oldLetters, Name.oldSigns, Name.marks, Name.pictures, Name.aliases]

def ideographStart : List Char := "CJK UNIFIED IDEOGRAPH-".toList

def syllableStart : List Char := "HANGUL SYLLABLE ".toList

def ideographRuns : List (Nat × Nat) :=
  [(0x3400, 0x4DBF), (0x4E00, 0x9FFF), (0x20000, 0x2A6DF), (0x2A700, 0x2B738),
   (0x2B740, 0x2B81D), (0x2B820, 0x2CEA1), (0x2CEB0, 0x2EBE0), (0x30000, 0x3134A)]

/-- The Chinese character whose number is spelt by four or five hexadecimal digits, with capital
letters. -/
def ideograph? (digits : List Char) : Option Nat :=
  let number := Radix.value 16 (digits.filterMap Bytes.hexValue?)
  let isSpelt := (digits.length == 4 || digits.length == 5) &&
    digits.all fun c => c.isDigit || ('A' ≤ c && c ≤ 'F')
  if isSpelt && ideographRuns.any fun (first, last) => first ≤ number && number ≤ last
  then some number else none

def leadingSounds : List String :=
  ["G", "GG", "N", "D", "DD", "R", "M", "B", "BB", "S", "SS", "", "J", "JJ", "C", "K", "T", "P",
   "H"]

def vowelSounds : List String :=
  ["A", "AE", "YA", "YAE", "EO", "E", "YEO", "YE", "O", "WA", "WAE", "OE", "YO", "U", "WEO", "WE",
   "WI", "YU", "EU", "YI", "I"]

def closingSounds : List String :=
  ["", "G", "GG", "GS", "N", "NJ", "NH", "D", "L", "LG", "LM", "LB", "LS", "LT", "LP", "LH", "M",
   "B", "BS", "S", "SS", "NG", "J", "C", "K", "T", "P", "H"]

/-- The place of the longest sound with which a text starts, and what follows it. -/
def takeSound? (sounds : List String) (text : List Char) : Option (Nat × List Char) :=
  let fitting := sounds.zipIdx.filter fun (sound, _) => sound.toList.isPrefixOf text
  let longest := (fitting.map fun (sound, _) => sound.length).foldl max 0
  (fitting.find? fun (sound, _) => sound.length == longest).map fun (_, place) =>
    (place, text.drop longest)

def syllable? (sounds : List Char) : Option Nat := do
  let (leading, rest) ← takeSound? leadingSounds sounds
  let (vowel, rest) ← takeSound? vowelSounds rest
  let (closing, rest) ← takeSound? closingSounds rest
  if rest.isEmpty then some (0xAC00 + (leading * 21 + vowel) * 28 + closing) else none

def named? (name : List Char) : Option Nat :=
  if syllableStart.isPrefixOf name then syllable? (name.drop syllableStart.length)
  else if ideographStart.isPrefixOf name then ideograph? (name.drop ideographStart.length)
  else
    let capital := name.map Char.toUpper
    nameTables.findSome? fun table => Name.find? capital 0 [] (Name.entries table)

end AddressBook.Text
