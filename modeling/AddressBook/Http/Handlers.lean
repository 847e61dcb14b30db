import AddressBook.Events
import AddressBook.Http.Authentication
import AddressBook.Http.Report
import AddressBook.Http.Routes
import AddressBook.Json.Reader
import AddressBook.Keys

namespace AddressBook.Http

def parseAccount (text : String) : Except Failure Bytes :=
  match Address.decode text with
  | .ok account => .ok account
  | .error e => .error (.api (ApiError.domainValidation (.string "Invalid account address")
      (.string "INVALID_ACCOUNT") (.object [("account", .array [.string e.message])])))

/-- The user who sends a request. A failure for which there is no response is replaced by the
failure to respond. -/
def caller (request : Request) : Session User :=
  (authenticate request.headers).orElse fun failure => do
    match (report (← read).debug request.origin failure).1 with
    | .ok _ => Session.fail failure
    | .error other => Session.fail other

def listKeys (request : Request) : Session Response := do
  let user ← caller request
  Session.passes .keyList
  let keys ← Keys.list user.id
  let format := (← read).format
  let items ← keys.mapM fun key => do
    Session.passes .keyItem
    Session.ofExcept ((Keys.item format key.id key.address).mapError Failure.ofAddressError)
  Session.ofExcept (Response.json 200 (.array items))

def readBody (debug : Bool) (body : Bytes) : Except Failure (Option Json) :=
  if body.isEmpty then .ok none
  else
    match Json.ofBytes body with
    | .ok value => .ok (some value)
    | .error e =>
      let detail := if debug then " (" ++ e.message ++ ")" else ""
      .error (.http .plain (.int 400) (.string ("Cannot parse request body" ++ detail)))

def readDelete (debug : Bool) (body : Bytes) : Except Failure Keys.DeletePayload :=
  let refused (e : FieldError) : Failure := .validation (FieldError.listToJson [e])
  match readBody debug body with
  | .error failure => .error failure
  | .ok none => .error (refused ⟨["body", "payload"], .missing⟩)
  | .ok (some value) =>
    (Keys.readDeletePayload value).mapError fun e => refused (e.within ["body", "payload"])

/-- Unlinks an account from the caller. The answer does not tell whether it was linked. -/
def deleteKey (request : Request) : Session Response := do
  let user ← caller request
  let body ← Session.ofExcept request.content
  let payload ← Session.ofExcept (readDelete (← read).debug body)
  Session.passes .keyDelete
  let _ ← Keys.delete user.id payload.address
  return Response.html 200 ""

def listEvents (account : String) : Session Response := do
  let address ← Session.ofExcept (parseAccount account)
  Session.passes .eventList
  let entries ← Events.list address
  let items ← entries.mapM fun entry => do
    Session.passes .eventItem
    Session.ofExcept entry.item
  Session.ofExcept (Response.json 200 (.array (items.map (·.toJson))))

def pingDatabase : Session Unit := do
  Session.passes .databasePing
  Session.query fun _ => ()

/-- A failure of the storage becomes the answer that the database is not there. -/
def databaseUnavailable (failure : Failure) : Session Unit :=
  match failure with
  | .storage _ _ => do
    Session.log ⟨"src.diagnostics.controllers.health_controller", .warning,
      "health: database ping failed", [], some failure.name⟩
    Session.fail (.api (ApiError.serviceUnavailable (.string "Database unavailable")
      (.string "DATABASE_UNAVAILABLE")))
  | _ => Session.fail failure

def tellHealth (requestId : String) : Session Response := do
  pingDatabase.orElse databaseUnavailable
  let data := Json.object [("database", .string "ok")]
  Session.ofExcept
    (Response.json 200 (Envelope.answer 200 (.string "OK") data .null .null .null requestId).toJson)

def Route.run (route : Route) (request : Request) : Session Response :=
  match route with
  | .keys =>
    if request.method = "GET" then listKeys request else deleteKey request
  | .contractEvents account => listEvents account
  | .health => tellHealth (requestId request.headers)

/-- Runs a session; a failure is reported as a response and in the log. When the report itself
fails, no details are answered. -/
def reporting (origin : Origin) (session : Session Response) : Session Response :=
  session.orElse fun failure => do
    let (response, records) := report (← read).debug origin failure
    records.forM Session.log
    match response with
    | .ok response => return response
    | .error _ => return Response.serverError

/-- The response to a request before it is cut to what its method and status allow. No request is
sent on to TLS, as it is in production. -/
def respond (request : Request) : Session Response :=
  if !request.namesHost then return Response.badRequest
  else
    match route? request.path with
    | none => return Response.notFound
    | some route =>
      if route.methods.contains request.method then
        reporting request.origin (route.run request)
      else return Response.methodNotAllowed route.methods

def handle (request : Request) : Session Response := do
  let response ← respond request
  if request.method = "HEAD" || Response.isBodiless response.status then
    return response.withoutBody
  else return response

end AddressBook.Http
