import AddressBook.Config.Literal
import AddressBook.Json.Reader
import AddressBook.Text.Name

namespace AddressBook.Config.Literal

def isGap (c : Char) : Bool := c == ' ' || c == '\t' || c == '\x0c'

/-- What follows gaps: blanks, comments, joined lines, and inside of brackets line ends. A backslash
joins only a line that is there. -/
def skipGap (nested : Bool) : List Char → List Char
  | '\\' :: '\n' :: c :: rest => skipGap nested (c :: rest)
  | '#' :: rest => skipGap nested (rest.dropWhile (· != '\n'))
  | c :: rest => if isGap c || (nested && c == '\n') then skipGap nested rest else c :: rest
  | [] => []
termination_by text => text.length
decreasing_by
  all_goals simp only [List.length_cons]
  · omega
  · exact Nat.lt_succ_of_le (List.dropWhile_suffix _).length_le
  · omega

/-- What follows the lines without anything, and whether blanks stand in front of it. A last line of
blanks is not one of these lines, and what stands before a form feed does not count. -/
def skipEmptyLines (indented inComment : Bool) : List Char → Bool × List Char
  | '\n' :: rest => skipEmptyLines false false rest
  | '\\' :: '\n' :: c :: rest => skipEmptyLines (indented && !inComment) false (c :: rest)
  | c :: rest =>
    if inComment || c == '#' then skipEmptyLines indented true rest
    else if c == ' ' || c == '\t' then skipEmptyLines true false rest
    else if c == '\x0c' then skipEmptyLines false false rest
    else (indented, c :: rest)
  | [] => (indented && !inComment, [])

def digitsOf? (isDigit : Char → Bool) (run : List Char) : Option (List Char) :=
  let digits := run.filter (· != '_')
  if !digits.isEmpty && digits.all isDigit && Text.underscoresSeparate run then some digits
  else none

def takeRun (isDigit : Char → Bool) (text : List Char) : List Char × List Char :=
  let isPart (c : Char) : Bool := isDigit c || c == '_'
  (text.takeWhile isPart, text.dropWhile isPart)

def baseOf? (c : Char) : Option Nat :=
  if c == 'x' || c == 'X' then some 16
  else if c == 'o' || c == 'O' then some 8
  else if c == 'b' || c == 'B' then some 2
  else none

def readInBase (base : Nat) (text : List Char) : Option (Json × List Char) :=
  let isDigit (c : Char) : Bool := (Bytes.hexValue? c).any (· < base)
  let (run, rest) := takeRun isDigit text
  let run := if run.head? == some '_' then run.drop 1 else run
  (digitsOf? isDigit run).map fun digits =>
    (.int (Radix.value base (digits.filterMap Bytes.hexValue?)), rest)

def readFraction (text : List Char) : Option (List Char × List Char) :=
  let (run, rest) := takeRun Char.isDigit text
  if run.isEmpty then some ([], rest)
  else (digitsOf? Char.isDigit run).map fun digits => (digits, rest)

def readPower (text : List Char) : Option (Int × List Char) :=
  match text with
  | e :: rest =>
    if e == 'e' || e == 'E' then
      let (negative, rest) := Text.splitSign rest
      let (run, rest) := takeRun Char.isDigit rest
      (digitsOf? Char.isDigit run).map fun digits =>
        (Text.signed negative (Text.asciiValue digits), rest)
    else some (0, text)
  | [] => some (0, [])

def startsPower (text : List Char) : Bool := text.head?.any fun c => c == 'e' || c == 'E'

/-- Reads a decimal number. An integer has no zeros in front unless it is zero, and not more digits
than are converted. -/
def readDecimal (text : List Char) : Option (Json × List Char) := do
  let (run, afterWhole) := takeRun Char.isDigit text
  let whole ← if run.isEmpty then some [] else digitsOf? Char.isDigit run
  match afterWhole with
  | '.' :: more =>
    let (fraction, rest) ← readFraction more
    if whole.isEmpty ∧ fraction.isEmpty then none
    else
      let (power, rest) ← readPower rest
      return (Json.floatOf false (Text.asciiValue (whole ++ fraction)) (power - fraction.length),
        rest)
  | _ =>
    if whole.isEmpty then none
    else if startsPower afterWhole then
      let (power, rest) ← readPower afterWhole
      return (Json.floatOf false (Text.asciiValue whole) power, rest)
    else if (whole.head? == some '0' && !whole.all (· == '0')) ||
        Text.maxIntegerDigits < whole.length then none
    else return (.int (Text.asciiValue whole), afterWhole)

def readNumber (text : List Char) : Option (Json × List Char) :=
  match text with
  | '0' :: letter :: rest =>
    match baseOf? letter with
    | some base => readInBase base rest
    | none => readDecimal text
  | _ => readDecimal text

structure TextForm where
  raw : Bool
  bytes : Bool

def forms : List (String × TextForm) :=
  [("", ⟨false, false⟩), ("u", ⟨false, false⟩), ("r", ⟨true, false⟩), ("b", ⟨false, true⟩),
   ("br", ⟨true, true⟩), ("rb", ⟨true, true⟩)]

/-- Splits a text behind its opening quotes at its closing ones. Only between three quotes may lines
end; a quote behind a backslash closes nothing. -/
def splitClosing (mark : Char) (triple : Bool) : List Char → Option (List Char × List Char)
  | [] => none
  | '\\' :: c :: rest =>
    (splitClosing mark triple rest).map fun (inner, rest) => ('\\' :: c :: inner, rest)
  | c :: rest =>
    if c == mark && !triple then some ([], rest)
    else if c == mark && rest.take 2 == [mark, mark] then some ([], rest.drop 2)
    else if c == '\n' && !triple then none
    else (splitClosing mark triple rest).map fun (inner, rest) => (c :: inner, rest)

def simpleEscapes : List (Char × Char) :=
  [('\\', '\\'), ('\'', '\''), ('"', '"'), ('a', '\x07'), ('b', '\x08'), ('f', '\x0c'),
   ('n', '\n'), ('r', '\r'), ('t', '\t'), ('v', '\x0b')]

def isOctal (c : Char) : Bool := '0' ≤ c && c ≤ '7'

def hexLength? (bytes : Bool) (c : Char) : Option Nat :=
  if c == 'x' then some 2
  else if bytes then none
  else if c == 'u' then some 4
  else if c == 'U' then some 8
  else none

def nameOf? (text : List Char) : Option (List Char) :=
  match text with
  | '{' :: rest =>
    if rest.contains '}' then some (rest.takeWhile (· != '}')) else none
  | _ => none

/-- The code points that a text between quotes stands for, where backslashes have a meaning. -/
def unescape (bytes : Bool) (text : List Char) : Option (List Nat) :=
  match text with
  | '\\' :: c :: rest =>
    if c == '\n' then unescape bytes rest
    else if isOctal c then
      let digits := ((c :: rest).take 3).takeWhile isOctal
      let value := Radix.value 8 (digits.map fun d => d.toNat - 48)
      (unescape bytes (rest.drop (digits.length - 1))).map
        ((if bytes then value % 256 else value) :: ·)
    else
      match simpleEscapes.lookup c, hexLength? bytes c with
      | some meant, _ => (unescape bytes rest).map (meant.toNat :: ·)
      | none, some length => do
        let digits ← (rest.take length).mapM Bytes.hexValue?
        let value := Radix.value 16 digits
        if digits.length < length ∨ 0x10FFFF < value then none
        else (unescape bytes (rest.drop length)).map (value :: ·)
      | none, none =>
        if c == 'N' && !bytes then do
          let name ← nameOf? rest
          let value ← Text.named? name
          (unescape bytes (rest.drop (name.length + 2))).map (value :: ·)
        else (unescape bytes rest).map ('\\'.toNat :: c.toNat :: ·)
  | c :: rest => (unescape bytes rest).map (c.toNat :: ·)
  | [] => some []
termination_by text.length
decreasing_by all_goals simp only [List.length_drop, List.length_cons]; omega

def readQuoted (form : TextForm) (text : List Char) : Option (List Nat × List Char) :=
  match text with
  | mark :: rest => do
    if mark != '\'' && mark != '"' then none
    else
      let triple := rest.take 2 == [mark, mark]
      let (inner, rest) ← splitClosing mark triple (if triple then rest.drop 2 else rest)
      if form.bytes && inner.any fun c => 0x80 ≤ c.toNat then none
      else
        let points ← if form.raw then some (inner.map Char.toNat) else unescape form.bytes inner
        return (points, rest)
  | [] => none

def splitForm? (text : List Char) : Option (TextForm × List Char) :=
  let letters := text.takeWhile Char.isAlpha
  let rest := text.drop letters.length
  if rest.head?.any fun c => c == '\'' || c == '"' then
    (forms.lookup (String.ofList (letters.map Char.toLower))).map fun form => (form, rest)
  else none

/-- Reads texts, or rows of bytes, one after the other; together they are one. `count` bounds how
many there are. -/
def readTexts (nested : Bool) (bytes? : Option Bool) (before : List Nat) (count : Nat)
    (text : List Char) : Option (Literal × List Char) :=
  match count, splitForm? text with
  | count + 1, some (form, rest) =>
    match readQuoted form rest with
    | some (points, rest) =>
      if bytes?.any (· != form.bytes) then none
      else readTexts nested (some form.bytes) (before ++ points) count (skipGap nested rest)
    | none => none
  | _, _ =>
    match bytes? with
    | some true => some (.bytes (before.map UInt8.ofNat), text)
    | some false => some (.plain (.string (String.ofList (before.map Text.charOf))), text)
    | none => none

def words : List (String × Literal) :=
  [("None", .plain .null), ("True", .plain (Json.bool true)), ("False", .plain (Json.bool false))]

def isWordPart (c : Char) : Bool := c.isAlphanum || c == '_'

/-- Letters of other styles that stand for a letter of `set`: raised, lowered, long, wide, and those
of formulas that stand apart. -/
def styledLetters : List (Nat × Char) :=
  [(0x17F, 's'), (0x2E2, 's'), (0x209B, 's'), (0xFF53, 's'),
   (0x1D49, 'e'), (0x2091, 'e'), (0x212F, 'e'), (0x2147, 'e'), (0xFF45, 'e'),
   (0x1D57, 't'), (0x209C, 't'), (0xFF54, 't')]

/-- The small letter that a letter of another style stands for. The alphabets of formulas follow
each other, 26 capital and 26 small letters in each; the script small e stands apart. -/
def plainLetter (c : Char) : Char :=
  let place := (c.toNat - 0x1D400) % 52
  match styledLetters.lookup c.toNat with
  | some letter => letter
  | none =>
    if 0x1D400 ≤ c.toNat ∧ c.toNat < 0x1D6A4 ∧ c.toNat ≠ 0x1D4BA ∧ 26 ≤ place then
      Char.ofNat (71 + place)
    else c

/-- Reads the empty set, which has no brackets of its own: the word for it may be written in letters
of any style. -/
def readEmptySet (nested : Bool) (text : List Char) : Option (Literal × List Char) :=
  if (text.take 3).map plainLetter != "set".toList then none
  else
    match skipGap nested (text.drop 3) with
    | '(' :: inner =>
      match skipGap true inner with
      | ')' :: rest => some (.set [], rest)
      | _ => none
    | _ => none

def readWord (nested : Bool) (text : List Char) : Option (Literal × List Char) :=
  let word := text.takeWhile isWordPart
  match words.lookup (String.ofList word) with
  | some value => some (value, text.drop word.length)
  | none => readEmptySet nested text

def readAtom (nested : Bool) (text : List Char) : Option (Literal × List Char) :=
  if (splitForm? text).isSome then readTexts nested none [] text.length text
  else if text.head?.any fun c => c.isDigit || c == '.' then
    (readNumber text).map fun (value, rest) => (.plain value, rest)
  else readWord nested text

def negated? : Json → Option Json
  | .int value => some (.int (-value))
  | .float value => some (.float { value with negative := !value.negative })
  | .nonFinite "Infinity" => some (.nonFinite "-Infinity")
  | _ => none

def withSign? (sign : Char) : Literal → Option Literal
  | .plain value =>
    (negated? value).map fun other => .plain (if sign == '-' then other else value)
  | _ => none

/-- So many brackets may stand inside of each other. -/
def maxNesting : Nat := 200

structure Operand where
  literal : Literal
  /-- Whether a sign stands in front of it, so that no other one may. -/
  hasSign : Bool
  rest : List Char

def isAtEnd (closing : Option Char) (text : List Char) : Bool :=
  match closing with
  | some c => text.head? == some c
  | none => text.isEmpty || text.head? == some '\n'

/-- Values between commas, and whether a comma stands behind the last one. -/
structure Row where
  items : List Operand
  hasEndComma : Bool
  rest : List Char

/-- What a row between round brackets, or none, stands for: one value without a comma is itself. -/
def Row.operand? (row : Row) : Operand :=
  match row.items, row.hasEndComma with
  | [item], false => { item with rest := row.rest }
  | items, _ => ⟨.tuple (items.map (·.literal)), true, row.rest⟩

mutual

/-- Reads a value inside of `nesting` brackets. Every call but the one from a row to its next value
takes a character, so a measure above twice the number of characters is never used up. -/
def readOperand (measure nesting : Nat) (text : List Char) : Option Operand :=
  match measure with
  | 0 => none
  | measure + 1 =>
    let inner (rest : List Char) : List Char := skipGap true rest
    match text with
    | [] => none
    | c :: rest =>
      if c == '+' || c == '-' then do
        let operand ← readOperand measure nesting (skipGap (0 < nesting) rest)
        if operand.hasSign then none
        else return ⟨← withSign? c operand.literal, true, operand.rest⟩
      else if c == '(' || c == '[' || c == '{' then
        if maxNesting ≤ nesting then none
        else if c == '(' then do
          let row ← readRow measure (nesting + 1) (some ')') [] (inner rest)
          return { row.operand? with rest := row.rest.drop 1 }
        else if c == '[' then do
          let row ← readRow measure (nesting + 1) (some ']') [] (inner rest)
          return ⟨.list (row.items.map (·.literal)), true, row.rest.drop 1⟩
        else readBraces measure (nesting + 1) (inner rest)
      else (readAtom (0 < nesting) text).map fun (literal, rest) => ⟨literal, false, rest⟩

def readRow (measure nesting : Nat) (closing : Option Char) (before : List Operand)
    (text : List Char) : Option Row :=
  match measure with
  | 0 => none
  | measure + 1 =>
    if isAtEnd closing text then some ⟨before.reverse, true, text⟩
    else
      match readOperand measure nesting text with
      | none => none
      | some operand =>
        let rest := skipGap closing.isSome operand.rest
        if isAtEnd closing rest then some ⟨(operand :: before).reverse, false, rest⟩
        else
          match rest with
          | ',' :: more =>
            readRow measure nesting closing (operand :: before) (skipGap closing.isSome more)
          | _ => none

/-- Reads a set or a dictionary behind its opening brace: what follows the first value tells
which. -/
def readBraces (measure nesting : Nat) (text : List Char) : Option Operand :=
  match measure with
  | 0 => none
  | measure + 1 =>
    if isAtEnd (some '}') text then some ⟨.dict [], true, text.drop 1⟩
    else do
      let first ← readOperand measure nesting text
      match skipGap true first.rest with
      | ':' :: more => readPair measure nesting [] first.literal (skipGap true more)
      | '}' :: rest => return ⟨.set [first.literal], true, rest⟩
      | ',' :: more =>
        let row ← readRow measure nesting (some '}') [first] (skipGap true more)
        return ⟨.set (row.items.map (·.literal)), true, row.rest.drop 1⟩
      | _ => none

def readPair (measure nesting : Nat) (before : List (Literal × Literal)) (key : Literal)
    (text : List Char) : Option Operand :=
  match measure with
  | 0 => none
  | measure + 1 => do
    let value ← readOperand measure nesting text
    let pairs := (key, value.literal) :: before
    match skipGap true value.rest with
    | '}' :: rest => return ⟨.dict pairs.reverse, true, rest⟩
    | ',' :: more =>
      let next := skipGap true more
      if isAtEnd (some '}') next then return ⟨.dict pairs.reverse, true, next.drop 1⟩
      else
        let key ← readOperand measure nesting next
        match skipGap true key.rest with
        | ':' :: more => readPair measure nesting pairs key.literal (skipGap true more)
        | _ => none
    | _ => none

end

def unifyLineEnds : List Char → List Char
  | '\r' :: '\n' :: rest => '\n' :: unifyLineEnds rest
  | '\r' :: rest => '\n' :: unifyLineEnds rest
  | c :: rest => c :: unifyLineEnds rest
  | [] => []

def ofChars? (text : List Char) : Option Literal :=
  let text := unifyLineEnds (text.dropWhile fun c => c == ' ' || c == '\t')
  if text.contains '\x00' then none
  else
    match skipEmptyLines false false text with
    | (true, _) => none
    | (false, start) => do
      let row ← readRow (2 * start.length + 4) 0 none [] start
      let after := if row.rest.isEmpty then (false, []) else skipEmptyLines false false row.rest
      if row.items.isEmpty || after.1 || !after.2.isEmpty then none
      else return row.operand?.literal

end AddressBook.Config.Literal
