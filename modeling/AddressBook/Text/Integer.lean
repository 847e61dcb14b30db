import AddressBook.Text.Blank
import AddressBook.Text.Digit
import AddressBook.Text.Quoted

namespace AddressBook.Text

def stripSpace (text : List Char) : List Char := dropEndWhile isSpace (text.dropWhile isSpace)

inductive IntegerError where
  | notInteger (text : String)
  | tooLong (digits : Nat)
  deriving DecidableEq, Repr

/-- A quoted text is cut after two hundred characters. -/
def IntegerError.message : IntegerError → String
  | .notInteger text => "invalid literal for int() with base 10: " ++
      String.ofList ((quotedChars text.toList).take 200)
  | .tooLong digits => tooManyDigits digits

/-- The integer that a text spells: white space around it, a sign, and digits of any script, with at
most one underscore between two of them. -/
def integer (text : String) : Except IntegerError Int :=
  let (negative, body) := splitSign (stripSpace text.toList)
  let run := body.takeWhile fun c => c == '_' || (decimalDigit? c).isSome
  let count := (run.filter (· != '_')).length
  if run.isEmpty || !underscoresSeparate run then .error (.notInteger text)
  else if maxIntegerDigits < count then .error (.tooLong count)
  else if run.length ≠ body.length then .error (.notInteger text)
  else .ok (signed negative (decimalValue run))

end AddressBook.Text
