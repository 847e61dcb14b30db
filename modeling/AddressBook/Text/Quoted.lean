import AddressBook.Text.Digit
import AddressBook.Text.PrintableTable

namespace AddressBook.Text

def escapedCode (c : Char) : List Char :=
  let n := c.toNat
  if n < 0x100 then '\\' :: 'x' :: hexDigits 2 n
  else if n < 0x10000 then '\\' :: 'u' :: hexDigits 4 n
  else '\\' :: 'U' :: hexDigits 8 n

def escaped (mark c : Char) : List Char :=
  if c == mark || c == '\\' then ['\\', c]
  else if c == '\n' then ['\\', 'n']
  else if c == '\r' then ['\\', 'r']
  else if c == '\t' then ['\\', 't']
  else if isPrintable c then [c]
  else escapedCode c

/-- Between single quotes, or double quotes if the text has single quotes and no double ones; what
cannot be seen is escaped by its code point. -/
def quotedChars (text : List Char) : List Char :=
  let mark := if text.contains '\'' && !text.contains '"' then '"' else '\''
  mark :: text.flatMap (escaped mark) ++ [mark]

def quoted (text : String) : String := String.ofList (quotedChars text.toList)

end AddressBook.Text
