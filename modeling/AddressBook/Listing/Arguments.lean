import AddressBook.Failure
import AddressBook.Text.Integer

namespace AddressBook.Listing

structure Options where
  account : String
  json : Bool
  deriving DecidableEq, Repr

inductive Flag where
  | help
  | version
  | verbosity
  | settings
  | searchPath
  | traceback
  | noColor
  | forceColor
  | skipChecks
  | json
  deriving DecidableEq, Repr

namespace Flag

def all : List Flag :=
  [.help, .version, .verbosity, .settings, .searchPath, .traceback, .noColor, .forceColor,
   .skipChecks, .json]

def spellings : Flag → List String
  | .help => ["-h", "--help"]
  | .version => ["--version"]
  | .verbosity => ["-v", "--verbosity"]
  | .settings => ["--settings"]
  | .searchPath => ["--pythonpath"]
  | .traceback => ["--traceback"]
  | .noColor => ["--no-color"]
  | .forceColor => ["--force-color"]
  | .skipChecks => ["--skip-checks"]
  | .json => ["--json"]

def takesValue : Flag → Bool
  | .verbosity | .settings | .searchPath => true
  | _ => false

def ofText? (text : List Char) : Option Flag :=
  all.find? fun flag => flag.spellings.contains (String.ofList text)

def startingWith (text : List Char) : List (String × Flag) :=
  all.flatMap fun flag =>
    (flag.spellings.filter fun spelling => text.isPrefixOf spelling.toList).map (·, flag)

end Flag

inductive ArgumentError where
  | ambiguous (text : String) (spellings : List String)
  | ignoredValue (flag : Flag) (value : String)
  | missingValue (flag : Flag)
  | notInteger (value : String)
  | noVerbosity (value : Int)
  | missingAccount
  | unrecognized (arguments : List String)
  | colors
  /-- Only the help or the version was asked for. -/
  | finished
  deriving DecidableEq, Repr

def flagMessage (flag : Flag) (message : String) : String :=
  "Error: argument " ++ "/".intercalate flag.spellings ++ ": " ++ message

def ArgumentError.message : ArgumentError → String
  | .ambiguous text spellings =>
    "Error: ambiguous option: " ++ text ++ " could match " ++ ", ".intercalate spellings
  | .ignoredValue flag value =>
    flagMessage flag ("ignored explicit argument " ++ Text.quoted value)
  | .missingValue flag => flagMessage flag "expected one argument"
  | .notInteger value => flagMessage .verbosity ("invalid int value: " ++ Text.quoted value)
  | .noVerbosity value =>
    flagMessage .verbosity
      ("invalid choice: " ++ toString value ++ " (choose from 0, 1, 2, 3)")
  | .missingAccount => "Error: the following arguments are required: account"
  | .unrecognized arguments =>
    "Error: unrecognized arguments: " ++ " ".intercalate arguments
  | .colors => "The --no-color and --force-color options can't be used together."
  | .finished => "0"

inductive Argument where
  | positional (text : String)
  | flag (flag : Flag) (value : Option String)
  /-- The letter for help with more behind it. -/
  | helpAnd (letters : List Char)
  | unknownFlag (text : String)
  /-- The mark after which all arguments are positional. -/
  | mark
  deriving DecidableEq, Repr

def isDigit (c : Char) : Bool := (Text.decimalDigit? c).isSome

/-- Whether a text is a negative number, with or without a fraction. A line end behind it does not
count. -/
def isNegativeNumber (text : List Char) : Bool :=
  match (if text.getLast? == some '\n' then text.dropLast else text) with
  | '-' :: digits =>
    match digits.dropWhile isDigit with
    | [] => !digits.isEmpty
    | '.' :: fraction => !fraction.isEmpty && fraction.all isDigit
    | _ => false
  | _ => false

def classifyOther (text : String) : Argument :=
  if isNegativeNumber text.toList || text.toList.contains ' ' then .positional text
  else .unknownFlag text

/-- A long flag may be shortened as long as it is clear which one is meant. -/
def classifyShortened (text : String) (name : List Char) (value : Option String) :
    Except ArgumentError Argument :=
  match Flag.startingWith name with
  | [] => .ok (classifyOther text)
  | [(_, flag)] => .ok (.flag flag value)
  | several => .error (.ambiguous text (several.map (·.1)))

def classify (text : String) : Except ArgumentError Argument :=
  let chars := text.toList
  let name := chars.takeWhile (· != '=')
  let value := match chars.dropWhile (· != '=') with
    | [] => none
    | _ :: rest => some (String.ofList rest)
  match chars with
  | ['-', '-'] => .ok .mark
  | '-' :: second :: rest =>
    match Flag.ofText? chars, Flag.ofText? name with
    | some flag, _ => .ok (.flag flag none)
    | none, some flag =>
      match value with
      | some more =>
        if name == ['-', 'h'] && !more.isEmpty then .ok (.helpAnd more.toList)
        else .ok (.flag flag value)
      | none => .ok (.flag flag none)
    | none, none =>
      if second == '-' then classifyShortened text name value
      else
        match Flag.ofText? ['-', second] with
        | some .help => .ok (.helpAnd rest)
        | some flag => .ok (.flag flag (some (String.ofList rest)))
        | none => .ok (classifyOther text)
  | _ => .ok (.positional text)

/-- The arguments in order, those after a mark being positional. -/
def classifyAll : List String → Except ArgumentError (List Argument)
  | [] => .ok []
  | text :: rest =>
    match classify text with
    | .error e => .error e
    | .ok .mark => .ok (.mark :: rest.map .positional)
    | .ok argument => (classifyAll rest).map (argument :: ·)

structure Progress where
  account : Option String
  json : Bool
  forceColor : Bool
  extra : List String

namespace Progress

/-- Reads a positional argument, which may come with a mark. -/
def position (p : Progress) (text : String) (shown : List String) : Progress :=
  match p.account with
  | none => { p with account := some text }
  | some _ => { p with extra := p.extra ++ shown }

def switch (p : Progress) : Flag → Except ArgumentError Progress
  | .help | .version => .error .finished
  | .json => .ok { p with json := true }
  | .forceColor => .ok { p with forceColor := true }
  | _ => .ok p

/-- Reads a flag with a value. The mark in place of a value stands for none at all. -/
def assign (p : Progress) (flag : Flag) (value : String) : Except ArgumentError Progress :=
  if !flag.takesValue then .error (.ignoredValue flag value)
  else if flag ≠ .verbosity ∨ value = "--" then .ok p
  else
    match Text.integer value with
    | .error _ => .error (.notInteger value)
    | .ok n => if n < 0 ∨ 3 < n then .error (.noVerbosity n) else .ok p

end Progress

/-- How it ends when more stands behind the letter for help: with help, unless there is a letter
that is no flag, or a flag without its value. -/
def helpEnd (isFollowed : Bool) : List Char → ArgumentError
  | [] => .finished
  | ['v'] => if isFollowed then .finished else .missingValue .verbosity
  | 'v' :: _ => .finished
  | 'h' :: rest => helpEnd isFollowed rest
  | text => .ignoredValue .help (String.ofList text)

def startsWithValue : List Argument → Bool
  | .positional _ :: _ => true
  | _ => false

/-- Reads arguments from left to right. A mark next to the account goes with it. -/
def consume (p : Progress) : List Argument → Except ArgumentError Progress
  | [] => .ok p
  | .positional text :: .mark :: rest => consume (p.position text [text, "--"]) rest
  | .mark :: .positional text :: rest => consume (p.position text ["--", text]) rest
  | .positional text :: rest => consume (p.position text [text]) rest
  | .mark :: rest => consume { p with extra := p.extra ++ ["--"] } rest
  | .flag flag (some value) :: rest =>
    match p.assign flag value with
    | .error e => .error e
    | .ok p => consume p rest
  | .flag flag none :: .positional text :: rest =>
    if flag.takesValue then
      match p.assign flag text with
      | .error e => .error e
      | .ok p => consume p rest
    else
      match p.switch flag with
      | .error e => .error e
      | .ok p => consume p (.positional text :: rest)
  | .flag flag none :: rest =>
    if flag.takesValue then .error (.missingValue flag)
    else
      match p.switch flag with
      | .error e => .error e
      | .ok p => consume p rest
  | .helpAnd letters :: rest => .error (helpEnd (startsWithValue rest) letters)
  | .unknownFlag text :: rest => consume { p with extra := p.extra ++ [text] } rest

/-- The options that arguments spell. A missing account is reported before arguments too many, and
these before colors: the command does without them. -/
def parse (arguments : List String) : Except ArgumentError Options := do
  let p ← consume ⟨none, false, false, []⟩ (← classifyAll arguments)
  match p.account with
  | none => .error .missingAccount
  | some account =>
    if !p.extra.isEmpty then .error (.unrecognized p.extra)
    else if p.forceColor then .error .colors
    else return ⟨account, p.json⟩

end AddressBook.Listing
