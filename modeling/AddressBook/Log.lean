import AddressBook.Json

namespace AddressBook

inductive LogLevel where
  | debug
  | info
  | warning
  | error
  | critical
  deriving DecidableEq, Repr

def LogLevel.name : LogLevel → String
  | .debug => "DEBUG"
  | .info => "INFO"
  | .warning => "WARNING"
  | .error => "ERROR"
  | .critical => "CRITICAL"

/-- One record: who writes it, what happened, further fields, and the name of the failure that it
reports if it reports one. -/
structure LogRecord where
  logger : String
  level : LogLevel
  message : String
  extra : Fields
  failure : Option String

end AddressBook
