import AddressBook.Failure
import AddressBook.Text.Integer
import AddressBook.Text.Lower
import AddressBook.Url

namespace AddressBook.Http

/-- A request as the application is given it, in the environment that a test client makes for one: of
several headers with one name only the last is left, hyphens and underscores in names are the same, and
the body is all that there is to read, whatever length is told. -/
structure Request where
  method : String
  /-- The decoded path of the target, not empty. -/
  path : List Char
  headers : List (String × String)
  body : Bytes

/-- The text that the bytes of a path spell; bytes that are not UTF-8 stay percent-encoded. -/
def pathText (bytes : Bytes) : List Char :=
  match bytes with
  | [] => []
  | first :: rest =>
    match Text.utf8Lead first rest with
    | .character n length => Text.charOf n :: pathText (rest.drop (length - 1))
    | .bad length _ =>
      ((first :: rest).take length).flatMap Url.percentEncoded ++ pathText (rest.drop (length - 1))
termination_by bytes.length
decreasing_by all_goals simp only [List.length_drop, List.length_cons]; omega

def pathOfTarget (target : String) : Except Failure (List Char) :=
  match Url.parse target.toList with
  | .error e => .error (.fault .value e.message)
  | .ok url =>
    let decoded := pathText (Url.percentDecode (Bytes.ofText (String.ofList url.path)))
    .ok (if decoded.isEmpty then ['/'] else decoded)

namespace Request

/-- The request for a target; its method is read in capitals. -/
def create (method target : String) (headers : List (String × String)) (body : Bytes) :
    Except Failure Request :=
  (pathOfTarget target).map fun path => ⟨Text.upper method, path, headers, body⟩

/-- The path as messages show it: without its first slash, after one slash. -/
def shownPath (r : Request) : String := String.ofList ('/' :: r.path.erase '/')

end Request

def headerKey (name : String) : String :=
  Text.upper (String.ofList (name.toList.map fun c => if c == '-' then '_' else c))

/-- The value of a header; of several with the same name the last one counts. -/
def header? (name : String) (headers : List (String × String)) : Option String :=
  (headers.reverse.find? fun h => headerKey h.1 == headerKey name).map (·.2)

/-- The identifier that the caller gave a request, or the empty text. -/
def requestId (headers : List (String × String)) : String :=
  (header? "X-Request-Id" headers).getD ""

def isHostName (text : List Char) : Bool :=
  !text.isEmpty && text != ['.'] &&
    text.all fun c => c.isLower || c.isDigit || c == '.' || c == '-'

def isHostAddress (text : List Char) : Bool :=
  let isHex (c : Char) : Bool := (Bytes.hexValue? c).isSome
  match Url.cutAt ':' text with
  | (before, some rest) =>
    before.all isHex && !rest.isEmpty && rest.all fun c => isHex c || c == '.' || c == ':'
  | _ => false

def isPortPart (text : List Char) : Bool :=
  match text with
  | [] => true
  | mark :: digits => mark == ':' && !digits.isEmpty && digits.all Char.isDigit

/-- Whether a text is a host, an address being in square brackets, that a port may follow. -/
def isHost (text : String) : Bool :=
  match (Text.lower text).toList with
  | '[' :: rest =>
    match Url.cutAt ']' rest with
    | (inside, some after) => isHostAddress inside && isPortPart after
    | _ => false
  | host => isHostName (host.takeWhile (· != ':')) && isPortPart (host.dropWhile (· != ':'))

namespace Request

/-- Whether a request, if it says for which host it is, names a host. Every host is allowed, as by the
settings for development; hosts that a proxy passes on are not looked at. -/
def namesHost (r : Request) : Bool := (header? "Host" r.headers).all isHost

/-- A longer body is not read. -/
def maxLength : Nat := 2621440

/-- The length of the body: what the request says, otherwise what it is. -/
def length (r : Request) : Except Failure Int :=
  match header? "Content-Length" r.headers with
  | none => .ok r.body.length
  | some text =>
    if text.isEmpty then .ok 0
    else (Text.integer text).mapError fun e => .fault .value e.message

def content (r : Request) : Except Failure Bytes :=
  match r.length with
  | .error failure => .error failure
  | .ok length =>
    if (maxLength : Int) < length then
      .error (.fault .requestTooBig
        "Request body exceeded settings.DATA_UPLOAD_MAX_MEMORY_SIZE.")
    else if (r.body.length : Int) < length then
      .error (.fault .assertion
        "Cannot read more than the available bytes from the HTTP incoming data.")
    else .ok (r.body.take length.toNat)

end Request
end AddressBook.Http
