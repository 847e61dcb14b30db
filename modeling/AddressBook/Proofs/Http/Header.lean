import AddressBook.Http.Authentication

namespace AddressBook.Http

@[simp] theorem header?_nil (name : String) : header? name [] = none := rfl

@[simp] theorem header?_cons (name : String) (header : String × String)
    (rest : List (String × String)) :
    header? name (header :: rest) =
      (header? name rest).or (if headerKey header.1 = headerKey name then some header.2 else none) := by
  rw [header?, header?, List.reverse_cons, List.find?_append]
  cases rest.reverse.find? fun h => headerKey h.1 == headerKey name with
  | some found => rfl
  | none => by_cases same : headerKey header.1 = headerKey name <;> simp [same]

/-- The names that are asked for, and those by which a caller may give them. -/
@[simp] theorem headerKey_known :
    (headerKey "Authorization" = "AUTHORIZATION" ∧ headerKey "authorization" = "AUTHORIZATION") ∧
      headerKey "Host" = "HOST" ∧ headerKey "Content-Length" = "CONTENT_LENGTH" ∧
      headerKey "X-Request-Id" = "X_REQUEST_ID" ∧ headerKey "x-request-id" = "X_REQUEST_ID" := by
  decide +kernel

theorem Request.namesHost_of_header? {request : Request}
    (unnamed : header? "Host" request.headers = none) : request.namesHost = true := by
  rw [namesHost, unnamed]
  rfl

theorem Request.not_namesHost_of_header? {request : Request}
    (named : header? "Host" request.headers = some "a b") : request.namesHost = false := by
  rw [namesHost, named]
  decide +kernel

theorem bearerToken?_of_header? {headers : List (String × String)}
    (given : header? "Authorization" headers = some "Bearer t") : bearerToken? headers = some "t" := by
  rw [bearerToken?, given]
  decide +kernel

theorem bearerToken?_of_header?_eq_none {headers : List (String × String)}
    (missing : header? "Authorization" headers = none) : bearerToken? headers = none := by
  rw [bearerToken?, missing]

theorem requestId_of_header? {headers : List (String × String)}
    (unnamed : header? "X-Request-Id" headers = none) : requestId headers = "" := by
  rw [requestId, unnamed]
  rfl

end AddressBook.Http
