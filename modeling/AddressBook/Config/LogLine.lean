import AddressBook.Config.Environment
import AddressBook.Json.Display
import AddressBook.Log
import AddressBook.Text.Blank
import AddressBook.Text.Template

namespace AddressBook.Config

/-- The names that all records have, so that a record can have no further field of such a name. -/
def recordNames : List String :=
  ["name", "msg", "args", "levelname", "levelno", "pathname", "filename", "module", "exc_info",
   "exc_text", "stack_info", "lineno", "funcName", "created", "msecs", "relativeCreated", "thread",
   "threadName", "processName", "process", "message", "asctime"]

structure LogInput where
  logger : String
  level : String
  message : String
  values : List Json
  extra : Fields

def templateFailure (e : Text.TemplateError) : Failure :=
  .fault (match e with
    | .incomplete | .incompleteKey | .widthTooGreat | .precisionTooGreat | .unknownDirective _ _
    | .notANumber => .value
    | .missingKey _ => .key
    | .widthTooLong | .precisionTooLong | .noCodePoint | .infinite | .tooGreatForFloat => .overflow
    | .outOfMemory => .memory
    | _ => .type) e.message

namespace LogInput

/-- Fails for a field whose name all records have, and for fields that are marks of another kind of
record, one without a text. -/
def checkExtra (input : LogInput) : Except Failure Unit :=
  match input.extra.find? fun field => recordNames.contains field.1 with
  | some field =>
    .error (.fault .key ("Attempt to overwrite " ++ Text.quoted field.1 ++ " in LogRecord"))
  | none =>
    if ["_logger", "_name"].all fun mark => (input.extra.get? mark).isSome then
      .error (.fault .attribute "'str' object has no attribute 'copy'")
    else .ok ()

def text (input : LogInput) : Except Failure String := do
  input.checkExtra
  (Text.fill input.message input.values).mapError templateFailure

/-- The name of the level in lower case; two levels have a second name. -/
def levelName (input : LogInput) : String :=
  let name := Text.lower input.level
  if name = "warn" then "warning"
  else if name = "fatal" then "critical"
  else name

end LogInput

/-- What stands in a line for the time. -/
def timeMark : Json := .string "<ts>"

/-- The names that are used while an event is made, and so are not there in the end. -/
def passingNames : List String := ["_record", "_from_structlog"]

/-- The event of a record. What is bound in the context comes in only under names that are free; the
level, the logger, the further fields of the record and the time are set one after the other. -/
def logEvent (context : Fields) (level logger message : String) (extra : Fields) : Fields :=
  let bound := Fields.putAllNew [("event", .string message)] context
  let named := (bound.put "level" (.string level)).put "logger" (.string logger)
  ((Fields.putAll named extra).put "timestamp" timeMark).filter fun field =>
    !(passingNames.contains field.1)

inductive Renderer where
  | logfmt
  | console
  | json
  deriving DecidableEq, Repr

namespace Renderer

/-- The form with a name; every other name means `logfmt`. -/
def ofName (name : String) : Renderer :=
  if name = "console" then .console
  else if name = "json" then .json
  else .logfmt

def className : Renderer → String
  | .logfmt => "LogfmtRenderer"
  | .console => "ConsoleRenderer"
  | .json => "JSONRenderer"

/-- A value between quotes, or without them if nothing in it could be mistaken. -/
def logfmtText (value : List Char) : List Char :=
  let needsQuotes := value.any fun c => c == ' ' || c == '=' || c == '"'
  let body := value.flatMap fun c =>
    if c == '\\' && needsQuotes then ['\\', '\\']
    else if c == '"' then ['\\', '"']
    else if c == '\n' then ['\\', 'n']
    else [c]
  if needsQuotes then '"' :: body ++ ['"'] else body

/-- A name with its value; a value that is true is left out. -/
def logfmtField (name : String) (value : Json) : String :=
  match value with
  | .null => name ++ "="
  | .bool true => name
  | .bool false => name ++ "=false"
  | _ => name ++ "=" ++ String.ofList (logfmtText value.display.toList)

def isBadName (name : String) : Bool := name.toList.any fun c => c ≤ ' '

def logfmtLine (event : Fields) : Except Failure String :=
  match event.find? fun field => isBadName field.1 with
  | some field => .error (.fault .value ("Invalid key: \"" ++ field.1 ++ "\""))
  | none => .ok (" ".intercalate (event.map fun (name, value) => logfmtField name value))

def alignLeft (width : Nat) (text : String) : String :=
  text ++ String.ofList (List.replicate (width - text.length) ' ')

/-- The level in a line for a terminal. What has no length cannot be aligned. -/
def levelColumn (value : Json) : Except Failure String :=
  match value with
  | .string level => .ok ("[" ++ alignLeft 9 level ++ "]")
  | .array _ | .object _ =>
    .error (.fault .type ("unhashable type: '" ++ value.kindName ++ "'"))
  | _ => .error (.fault .type ("object of type '" ++ value.kindName ++ "' has no len()"))

/-- A value in a line for a terminal: a text that could be mistaken for several is quoted. -/
def consoleValue (value : Json) : String :=
  match value with
  | .string text =>
    if text.any fun c => " \t=\r\n\"'".toList.contains c then Text.quoted text else text
  | _ => value.displayQuoted

def consoleField (name : String) (value : Json) : String := name ++ "=" ++ consoleValue value

/-- The fields that stand first in a line for a terminal, in this order, and how they look. -/
def columns : List (String × (Json → Except Failure String)) :=
  [("", fun value => .ok (consoleField "" value)), ("timestamp", fun value => .ok value.display),
   ("level", levelColumn), ("event", fun value => .ok (alignLeft 30 value.display)),
   ("logger", fun value => .ok ("[" ++ value.display ++ "]")),
   ("logger_name", fun value => .ok ("[" ++ value.display ++ "]"))]

/-- The names of what stands on lines of its own, below the line for a terminal. -/
def blockNames : List String := ["stack", "exception", "exc_info"]

def block (value : Json) : Except Failure String :=
  match value with
  | .string text => .ok ("\n" ++ text)
  | _ => .error (.fault .type
      ("can only concatenate str (not \"" ++ value.kindName ++ "\") to str"))

def given? (event : Fields) (name : String) : Option Json :=
  (event.get? name).filter fun value => !(value matches .null)

def blocks (event : Fields) : Except Failure String := do
  let failure := given? event "exception"
  let isFailing := ((event.get? "exc_info").any fun value => !value.isFalsy)
  let calls ← match given? event "stack" with
    | some stack =>
      let rule := if isFailing || failure.isSome then
        "\n\n" ++ String.ofList (List.replicate 79 '=') ++ "\n" else ""
      (block stack).map (· ++ rule)
    | none => pure ""
  let failed ← match failure with
    | some text => block text
    | none => pure ""
  return calls ++ failed

/-- The line for a terminal: time, level, message and logger, then the other fields by name. -/
def consoleLine (event : Fields) : Except Failure String := do
  let first ← columns.filterMapM fun (name, column) =>
    match event.get? name with
    | some value => (column value).map some
    | none => pure none
  let others := event.filter fun field =>
    !(columns.any fun column => column.1 == field.1) && !(blockNames.contains field.1)
  let sorted := others.mergeSort fun a b => decide (a.1 ≤ b.1)
  let line := " ".intercalate (first ++ sorted.map fun (name, value) => consoleField name value)
  let shown := String.ofList (Text.dropEndWhile (· == ' ') line.toList)
  return shown ++ (← blocks event)

def line (renderer : Renderer) (event : Fields) : Except Failure String :=
  match renderer with
  | .logfmt => logfmtLine event
  | .console => consoleLine event
  | .json => .ok (Json.object event).render

end Renderer

structure LogSettings where
  level : String
  renderer : Renderer
  deriving DecidableEq, Repr

namespace LogSettings

def load (env : Environment) : Except Failure LogSettings := do
  let level ← env.text "LOG_LEVEL" "INFO"
  let renderer ← env.text "LOG_RENDERER" "logfmt"
  return ⟨level, .ofName renderer⟩

def line (settings : LogSettings) (context : Fields) (input : LogInput) : Except Failure String :=
  match input.text with
  | .error failure => .error failure
  | .ok message =>
    settings.renderer.line
      (logEvent context input.levelName input.logger message input.extra)

end LogSettings
end AddressBook.Config
