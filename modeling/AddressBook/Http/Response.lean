import AddressBook.Envelope
import AddressBook.Signature

namespace AddressBook.Http

inductive Body where
  | json (value : Json)
  | text (text : String)

structure Response where
  status : Int
  contentType : String
  body : Body
  /-- The methods a resource has, in alphabetical order; only told when another one was tried. -/
  allow : List String

namespace Response

def jsonType : String := "application/json; charset=utf-8"

def htmlType : String := "text/html; charset=utf-8"

def statusFailure : Failure :=
  .fault .value "HTTP status code must be an integer from 100 to 599."

/-- A JSON response. Only the statuses from 100 to 599 exist. -/
def json (status : Int) (value : Json) : Except Failure Response :=
  if 100 ≤ status ∧ status ≤ 599 then .ok ⟨status, jsonType, .json value, []⟩
  else .error statusFailure

/-- The status that a value is: a number without its fraction, or a truth value. -/
def statusOf : Json → Except Failure Int
  | .int value => .ok value
  | .bool value => .ok (if value then 1 else 0)
  | .float value => .ok value.truncate
  | .nonFinite _ => .error (.fault .type "HTTP status code must be an integer.")
  | value => .error (Failure.notOrdered "<=" "int" value.kindName)

def signature : Signature :=
  ⟨"BaseAPIController.create_response", false, [],
    ["message", "data", "extra", "errors", "status_code", "code"]⟩

/-- The response to a finished request that values make: an envelope with its status. -/
def make (given : Fields) (requestId : String) : Except Failure Response := do
  signature.check given
  let value (name : String) : Json := (given.get? name).getD .null
  let status ← statusOf ((given.get? "status_code").getD (.int 200))
  json status (Envelope.answer status ((given.get? "message").getD (.string "")) (value "data")
    (value "extra") (value "errors") (value "code") requestId).toJson

def html (status : Int) (text : String) : Response := ⟨status, htmlType, .text text, []⟩

def page (heading text : String) : String :=
  "\n<!doctype html>\n<html lang=\"en\">\n<head>\n  <title>" ++ heading ++
    "</title>\n</head>\n<body>\n  <h1>" ++ heading ++ "</h1><p>" ++ text ++
    "</p>\n</body>\n</html>\n"

def notFound : Response :=
  html 404 (page "Not Found" "The requested resource was not found on this server.")

def badRequest : Response := html 400 (page "Bad Request (400)" "")

def serverError : Response := html 500 (page "Server Error (500)" "")

def methodNotAllowed (allow : List String) : Response :=
  { html 405 "Method not allowed" with allow }

def withoutBody (r : Response) : Response := { r with body := .text "" }

def isBodiless (status : Int) : Bool := status < 200 || status == 204 || status == 304

end Response
end AddressBook.Http
