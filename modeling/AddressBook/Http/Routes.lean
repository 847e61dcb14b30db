namespace AddressBook.Http

inductive Route where
  | keys
  | contractEvents (account : String)
  | health
  deriving DecidableEq, Repr

def afterPart? (part : String) (text : List Char) : Option (List Char) :=
  if part.toList.isPrefixOf text then some (text.drop part.length) else none

/-- The resource at a decoded path. The text of an account is not empty and has no slash. The
description of the resources that the framework makes, at `/openapi.json`, is left out. -/
def route? (path : List Char) : Option Route :=
  if path = "/keys".toList then some .keys
  else if path = "/diagnostics/health".toList then some .health
  else
    match afterPart? "/contracts/events/" path with
    | some account =>
      if account.isEmpty || account.contains '/' then none
      else some (.contractEvents (String.ofList account))
    | none => none

def Route.methods : Route → List String
  | .keys => ["DELETE", "GET"]
  | .contractEvents _ => ["GET"]
  | .health => ["GET"]

end AddressBook.Http
