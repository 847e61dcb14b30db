import AddressBook.Address
import AddressBook.Json.Display
import AddressBook.Moment.DateTime

namespace AddressBook

/-- The kinds of failure that carry their own answer. -/
inductive ApiErrorKind where
  | general
  | domainValidation
  | serviceUnavailable
  deriving DecidableEq, Repr

/-- A failure together with the answer that reports it. -/
structure ApiError where
  kind : ApiErrorKind
  message : Json
  code : Json
  status : Json
  errors : Json
  extra : Json

namespace ApiError

/-- Extra data that count as none are an empty object. -/
def orEmpty (value : Json) : Json := if value.isFalsy then .object [] else value

def general (message code status errors extra : Json) : ApiError :=
  ⟨.general, message, code, status, errors, orEmpty extra⟩

def domainValidation (message : Json) (code : Json := .string "VALIDATION_ERROR")
    (errors extra : Json := .null) : ApiError :=
  ⟨.domainValidation, message, code, .int 422, errors, orEmpty extra⟩

def serviceUnavailable (message : Json := .string "Service unavailable")
    (code : Json := .string "SERVICE_UNAVAILABLE") : ApiError :=
  ⟨.serviceUnavailable, message, code, .int 503, .null, .object []⟩

end ApiError

/-- The failures that are answered with a status and a text. -/
inductive HttpErrorKind where
  | plain
  | authentication
  | authorization
  | throttled
  deriving DecidableEq, Repr

/-- The failures of the storage whose details stay inside. -/
inductive StorageErrorKind where
  | database
  | integrity
  | operational
  | programming
  | data
  | internal
  | notSupported
  /-- A kind under a name of its own, derived from another one. -/
  | derived (parent : StorageErrorKind) (name : String)
  deriving DecidableEq, Repr

/-- All other failures that a name and a text describe. -/
inductive FaultKind where
  | error
  | interface
  | invalidAddress
  | improperlyConfigured
  | runtime
  | value
  | key
  | exception
  | os
  | zeroDivision
  | overflow
  | doesNotExist
  | command
  | index
  | type
  | attribute
  | recursion
  | connection
  | assertion
  | requestTooBig
  | systemExit
  | memory
  | derived (parent : FaultKind) (name : String)
  deriving DecidableEq, Repr

/-- What stops a step of work. What it says is a text as a rule, but may be any value. -/
inductive Failure where
  | api (error : ApiError)
  | validation (errors : Json)
  | http (kind : HttpErrorKind) (status message : Json)
  | notFound (message : Json)
  | storage (kind : StorageErrorKind) (message : Json)
  | other (kind : FaultKind) (message : Json)

def ApiErrorKind.name : ApiErrorKind → String
  | .general => "APIError"
  | .domainValidation => "DomainValidationError"
  | .serviceUnavailable => "ServiceUnavailableError"

def HttpErrorKind.name : HttpErrorKind → String
  | .plain => "HttpError"
  | .authentication => "AuthenticationError"
  | .authorization => "AuthorizationError"
  | .throttled => "Throttled"

def StorageErrorKind.name : StorageErrorKind → String
  | .database => "DatabaseError"
  | .integrity => "IntegrityError"
  | .operational => "OperationalError"
  | .programming => "ProgrammingError"
  | .data => "DataError"
  | .internal => "InternalError"
  | .notSupported => "NotSupportedError"
  | .derived _ name => name

def FaultKind.name : FaultKind → String
  | .error => "Error"
  | .interface => "InterfaceError"
  | .invalidAddress => "InvalidAddressError"
  | .improperlyConfigured => "ImproperlyConfigured"
  | .runtime => "RuntimeError"
  | .value => "ValueError"
  | .key => "KeyError"
  | .exception => "Exception"
  | .os => "OSError"
  | .zeroDivision => "ZeroDivisionError"
  | .overflow => "OverflowError"
  | .doesNotExist => "DoesNotExist"
  | .command => "CommandError"
  | .index => "IndexError"
  | .type => "TypeError"
  | .attribute => "AttributeError"
  | .recursion => "RecursionError"
  | .connection => "ConnectionError"
  | .assertion => "AssertionError"
  | .requestTooBig => "RequestDataTooBig"
  | .systemExit => "SystemExit"
  | .memory => "MemoryError"
  | .derived _ name => name

/-- Whether what a failure of the kind says is shown in quotes, as that of a missing key is. -/
def FaultKind.isQuoted : FaultKind → Bool
  | .key => true
  | .derived parent _ => parent.isQuoted
  | _ => false

namespace Failure

def fault (kind : FaultKind) (message : String) : Failure := .other kind (.string message)

def name : Failure → String
  | .api error => error.kind.name
  | .validation _ => "ValidationError"
  | .http kind _ _ => kind.name
  | .notFound _ => "Http404"
  | .storage kind _ => kind.name
  | .other kind _ => kind.name

def text : Failure → String
  | .api error => error.message.display
  | .validation _ => ""
  | .http _ _ message => message.display
  | .notFound message => message.display
  | .storage _ message => message.display
  | .other kind message => if kind.isQuoted then message.displayQuoted else message.display

def ofAddressError (e : AddressError) : Failure := .fault .invalidAddress e.message

def ofDateTimeError (e : DateTimeError) : Failure :=
  .fault (match e with
    | .tooGreat | .tooSmall | .tooLong | .offsetDays _ | .offsetTooLong => .overflow
    | _ => .value) e.message

/-- The failure of handing an integer of more than 64 bits to the tables. -/
def integerTooLong : Failure :=
  .fault .overflow "Python int too large to convert to SQLite INTEGER"

def notOrdered (comparison left right : String) : Failure :=
  .fault .type ("'" ++ comparison ++ "' not supported between instances of '" ++ left ++
    "' and '" ++ right ++ "'")

def unauthenticated : Failure := .http .authentication (.int 401) (.string "Unauthorized")

end Failure
end AddressBook
