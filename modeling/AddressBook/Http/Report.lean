import AddressBook.Http.Request
import AddressBook.Http.Response
import AddressBook.Log

namespace AddressBook.Http

/-- What a report needs to know about the request. -/
structure Origin where
  method : String
  path : String
  requestId : String

def Request.origin (r : Request) : Origin := ⟨r.method, r.shownPath, Http.requestId r.headers⟩

def reportLogger : String := "src.api.exception_handler"

def reportRecord (what : String) (origin : Origin) (failure : Failure) : LogRecord :=
  ⟨reportLogger, .error, what ++ " while handling " ++ origin.method ++ " " ++ origin.path, [],
    some failure.name⟩

def envelopeResponse (origin : Origin) (status : Int) (message code errors extra : Json) :
    Except Failure Response :=
  Response.json status
    (Envelope.failure status message code errors extra origin.requestId).toJson

/-- The envelope that reports a failure which brings its own status. It must not be zero. -/
def chosenResponse (origin : Origin) (status message code errors extra : Json) :
    Except Failure Response := do
  let number ← Response.statusOf status
  if status.isFalsy then .error (.fault .assertion "")
  else envelopeResponse origin number message code errors extra

def invalid (origin : Origin) (errors : Json) : Except Failure Response :=
  envelopeResponse origin 422 (.string "Validation error") (.string "VALIDATION_ERROR") errors .null

/-- The envelope for whatever is answered without details. -/
def internalError (origin : Origin) (errors extra : Json) : Except Failure Response :=
  envelopeResponse origin 500 (.string "Unexpected error") (.string "INTERNAL_ERROR") errors extra

/-- The text that a failure says; values of other kinds do not stand for one. -/
def saidText : Json → Except Failure String
  | .string text => .ok text
  | value => .error (.fault .type ("__str__ returned non-string (type " ++ value.kindName ++ ")"))

def httpResponse (origin : Origin) (status message : Json) : Except Failure Response := do
  let text ← saidText message
  if status.isNumber 400 then invalid origin (.string text)
  else chosenResponse origin status (.string text) (.string "HTTP_ERROR") .null .null

/-- A failure of the storage or of an unexpected kind is answered without its details, which go to
the log; only while debugging does the answer to an unexpected failure name them. -/
def report (debug : Bool) (origin : Origin) (failure : Failure) :
    Except Failure Response × List LogRecord :=
  match failure with
  | .api e => (chosenResponse origin e.status e.message e.code e.errors e.extra, [])
  | .http .authentication _ _ =>
    (envelopeResponse origin 401 (.string "Unauthorized") (.string "UNAUTHORIZED") .null .null, [])
  | .validation errors => (invalid origin errors, [])
  | .http _ status message => (httpResponse origin status message, [])
  | .notFound _ =>
    let detail := if debug then "Not Found: " ++ failure.text else "Not Found"
    (Response.json 404 (.object [("detail", .string detail)]), [])
  | .storage _ _ =>
    (internalError origin .null .null, [reportRecord "Database error" origin failure])
  | .other _ _ =>
    let (errors, extra) :=
      if debug then (.string failure.text, .object [("trace", .bool true)]) else (.null, .null)
    (internalError origin errors extra, [reportRecord "Unhandled error" origin failure])

end AddressBook.Http
