import AddressBook.Http.Request
import AddressBook.Tokens

namespace AddressBook.Http

/-- The token in the authorization header: what follows the first blank, if the text before it is
the name of the scheme in letters of either case. -/
def bearerToken? (headers : List (String × String)) : Option String :=
  match header? "Authorization" headers with
  | none => none
  | some value =>
    let (scheme, token) := Url.cutAt ' ' value.toList
    if scheme.map Char.toLower = "bearer".toList then some (String.ofList (token.getD []))
    else none

/-- The user who sends a request; without a token that is known the request fails. -/
def authenticate (headers : List (String × String)) : Session User :=
  match bearerToken? headers with
  | none => Session.fail Failure.unauthenticated
  | some token => do
    Session.passes .authentication
    match ← Tokens.owner? token with
    | some user => return user
    | none => Session.fail Failure.unauthenticated

end AddressBook.Http
