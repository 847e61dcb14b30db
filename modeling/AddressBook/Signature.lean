import AddressBook.Failure

namespace AddressBook

/-- The names of the values that are handed over in a call: those that it cannot do without, and the
others that it knows. -/
structure Signature where
  callee : String
  /-- Whether values may also be handed over in their order. -/
  isOrdered : Bool
  needed : List String
  optional : List String

namespace Signature

def enumerate : List String → String
  | [] => ""
  | [only] => only
  | [first, last] => first ++ " and " ++ last
  | several => ", ".intercalate several.dropLast ++ ", and " ++ several.getLast?.getD ""

def knows (s : Signature) (name : String) : Bool :=
  s.needed.contains name || s.optional.contains name

def unknown (s : Signature) (name : String) : Failure :=
  .fault .type (s.callee ++ "() got an unexpected keyword argument '" ++ name ++ "'")

def lacking (s : Signature) (names : List String) : Failure :=
  .fault .type (s.callee ++ "() missing " ++ toString names.length ++
    " required " ++ (if s.isOrdered then "positional" else "keyword-only") ++ " argument" ++
    (if names.length = 1 then "" else "s") ++ ": " ++ enumerate (names.map Text.quoted))

/-- Fails for the first name that is not known, then for the needed names that are not there. -/
def check (s : Signature) (given : Fields) : Except Failure Unit :=
  match given.find? fun field => !s.knows field.1 with
  | some field => .error (s.unknown field.1)
  | none =>
    match s.needed.filter fun name => (given.get? name).isNone with
    | [] => .ok ()
    | names => .error (s.lacking names)

end Signature

namespace ApiErrorKind

def signature (kind : ApiErrorKind) : Signature :=
  let callee := kind.name ++ ".__init__"
  match kind with
  | .general => ⟨callee, false, ["message", "code", "status"], ["errors", "extra"]⟩
  | .domainValidation => ⟨callee, false, ["message"], ["code", "errors", "extra"]⟩
  | .serviceUnavailable => ⟨callee, false, [], ["message", "code"]⟩

def make (kind : ApiErrorKind) (given : Fields) : Except Failure ApiError :=
  let value (name : String) (default : Json := .null) : Json := (given.get? name).getD default
  (kind.signature.check given).map fun _ =>
    match kind with
    | .general =>
      ApiError.general (value "message") (value "code") (value "status") (value "errors")
        (value "extra")
    | .domainValidation =>
      let e := ApiError.domainValidation (value "message") .null (value "errors") (value "extra")
      { e with code := value "code" (ApiError.domainValidation .null).code }
    | .serviceUnavailable =>
      let e := ApiError.serviceUnavailable
      { e with message := value "message" e.message, code := value "code" e.code }

end ApiErrorKind

namespace HttpErrorKind

def signature (kind : HttpErrorKind) : Signature :=
  let callee := kind.name ++ ".__init__"
  match kind with
  | .plain => ⟨callee, true, ["status_code", "message"], []⟩
  | .authentication | .authorization => ⟨callee, true, [], ["status_code", "message"]⟩
  | .throttled => ⟨callee, true, ["wait"], []⟩

/-- The status and the text of a failure of a kind that come without others. -/
def defaults : HttpErrorKind → Json × Json
  | .plain => (.null, .null)
  | .authentication => (.int 401, .string "Unauthorized")
  | .authorization => (.int 403, .string "Forbidden")
  | .throttled => (.int 429, .string "Too many requests.")

def make (kind : HttpErrorKind) (given : Fields) : Except Failure Failure :=
  let (status, message) := kind.defaults
  (kind.signature.check given).map fun _ =>
    .http kind ((given.get? "status_code").getD status) ((given.get? "message").getD message)

end HttpErrorKind

namespace Failure

def makeValidation (given : Fields) : Except Failure Failure :=
  let signature : Signature := ⟨"ValidationError.__init__", true, ["errors"], []⟩
  (signature.check given).map fun _ => .validation ((given.get? "errors").getD .null)

end Failure
end AddressBook
