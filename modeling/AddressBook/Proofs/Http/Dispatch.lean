import AddressBook.Proofs.Http.Gate

namespace AddressBook

/-- The classes of failures. -/
inductive FailureClass where
  | api (kind : ApiErrorKind)
  | validation
  | http (kind : HttpErrorKind)
  | notFound
  | storage (kind : StorageErrorKind)
  | other (kind : FaultKind)
  deriving DecidableEq, Repr

/-- A kind and those from which it is derived, the most special one first. Classes in between for
which there is no kind have no handler, and are left out. -/
def ApiErrorKind.lineage : ApiErrorKind → List ApiErrorKind
  | .general => [.general]
  | kind => [kind, .general]

@[inherit_doc ApiErrorKind.lineage]
def HttpErrorKind.lineage : HttpErrorKind → List HttpErrorKind
  | .plain => [.plain]
  | kind => [kind, .plain]

@[inherit_doc ApiErrorKind.lineage]
def StorageErrorKind.lineage : StorageErrorKind → List StorageErrorKind
  | .database => [.database]
  | .derived parent name => .derived parent name :: parent.lineage
  | kind => [kind, .database]

/-- A kind and those from which it is derived, the most special one first, as far as there are kinds
for them. The wish to end the program is no exception. -/
def FaultKind.lineage : FaultKind → List FaultKind
  | .exception => [.exception]
  | .systemExit => [.systemExit]
  | .interface => [.interface, .error, .exception]
  | .invalidAddress => [.invalidAddress, .value, .exception]
  | .recursion => [.recursion, .runtime, .exception]
  | .connection => [.connection, .os, .exception]
  | .derived parent name => .derived parent name :: parent.lineage
  | kind => [kind, .exception]

namespace Failure

/-- The classes that a failure is of, the most special one first. -/
def lineage : Failure → List FailureClass
  | .api e => e.kind.lineage.map .api ++ [.other .exception]
  | .validation _ => [.validation, .other .exception]
  | .http kind _ _ => kind.lineage.map .http ++ [.other .exception]
  | .notFound _ => [.notFound, .other .exception]
  | .storage kind _ => kind.lineage.map .storage ++ [.other .error, .other .exception]
  | .other kind _ => kind.lineage.map .other

def IsOf (failure : Failure) (c : FailureClass) : Prop := c ∈ failure.lineage

instance (failure : Failure) (c : FailureClass) : Decidable (failure.IsOf c) :=
  inferInstanceAs (Decidable (c ∈ failure.lineage))

end Failure

namespace Http

/-- What handles failures. -/
inductive Handler where
  | api
  | authentication
  | validation
  | http
  | notFound
  | storage
  | unexpected
  deriving DecidableEq, Repr

/-- The handler that is registered for a class. -/
def handlerOf? : FailureClass → Option Handler
  | .api .general => some .api
  | .http .authentication => some .authentication
  | .validation => some .validation
  | .http .plain => some .http
  | .notFound => some .notFound
  | .storage .database => some .storage
  | .other .exception => some .unexpected
  | _ => none

/-- The handler to which a failure goes. -/
def handlerFor? (failure : Failure) : Option Handler := failure.lineage.findSome? handlerOf?

/-- What a handler makes of a failure: a response, and what is logged. -/
inductive Handler.Answers (debug : Bool) (origin : Origin) :
    Handler → Failure → Except Failure Response × List LogRecord → Prop
  | api (e : ApiError) : Answers debug origin .api (.api e)
      (chosenResponse origin e.status e.message e.code e.errors e.extra, [])
  | authentication (failure : Failure) : Answers debug origin .authentication failure
      (.ok (.unauthorized origin.requestId), [])
  | validation (errors : Json) : Answers debug origin .validation (.validation errors)
      (invalid origin errors, [])
  | http (kind : HttpErrorKind) (status message : Json) :
      Answers debug origin .http (.http kind status message) (httpResponse origin status message, [])
  | notFound (failure : Failure) : Answers debug origin .notFound failure
      (Response.json 404 (.object [("detail",
        .string (if debug then "Not Found: " ++ failure.text else "Not Found"))]), [])
  | storage (failure : Failure) : Answers debug origin .storage failure
      (internalError origin .null .null, [reportRecord "Database error" origin failure])
  | unexpected (failure : Failure) : Answers debug origin .unexpected failure
      (internalError origin (if debug then .string failure.text else .null)
        (if debug then .object [("trace", .bool true)] else .null),
        [reportRecord "Unhandled error" origin failure])

/-- The answer in which nothing of the failure is told. -/
def Response.withoutDetails (requestId : String) : Response :=
  ⟨500, jsonType, .json (.object [("success", .bool false), ("message", .string "Unexpected error"),
    ("data", .object []), ("extra", .object []), ("errors", .null),
    ("code", .string "INTERNAL_ERROR"), ("request_id", .string requestId)]), []⟩

/-- Whether a failure goes to the handler for the storage, or to the one for all that nobody expected
while there is no debugging. -/
def IsHidden (debug : Bool) (failure : Failure) : Prop :=
  handlerFor? failure = some .storage ∨ debug = false ∧ handlerFor? failure = some .unexpected

theorem handlerFor?_storage (kind : StorageErrorKind) (message : Json) :
    handlerFor? (.storage kind message) = some .storage := by
  have found : (kind.lineage.map FailureClass.storage).findSome? handlerOf? = some .storage := by
    induction kind with
    | derived parent name ih => exact ih
    | _ => rfl
  rw [handlerFor?, Failure.lineage, List.findSome?_append, found, Option.some_or]

/-- The faults have no handler but the one for all that nobody expected. -/
theorem eq_unexpected_of_handlerFor?_other {kind : FaultKind} {message : Json} {handler : Handler}
    (found : handlerFor? (.other kind message) = some handler) : handler = .unexpected := by
  obtain ⟨c, member, registered⟩ := List.exists_of_findSome?_eq_some found
  obtain ⟨ancestor, _, rfl⟩ := List.mem_map.mp member
  unfold handlerOf? at registered
  split at registered <;> simp_all

/-- Every exception has a handler. -/
theorem exists_handlerFor? {failure : Failure} (exception : failure.IsOf (.other .exception)) :
    ∃ handler, handlerFor? failure = some handler := by
  refine Option.isSome_iff_exists.mp (List.findSome?_isSome_iff.mpr ⟨_, exception, rfl⟩)

theorem handlerFor?_eq_storage_iff {failure : Failure} :
    handlerFor? failure = some .storage ↔ failure.IsOf (.storage .database) := by
  constructor
  · intro found
    obtain ⟨c, member, registered⟩ := List.exists_of_findSome?_eq_some found
    unfold handlerOf? at registered
    split at registered <;> simp_all [Failure.IsOf]
  · intro database
    cases failure with
    | storage kind message => exact handlerFor?_storage kind message
    | _ => simp [Failure.IsOf, Failure.lineage] at database

/-- A failure is answered by the handler to which it goes. -/
theorem report_answers {failure : Failure} {handler : Handler}
    (found : handlerFor? failure = some handler) (debug : Bool) (origin : Origin) :
    handler.Answers debug origin failure (report debug origin failure) := by
  cases failure with
  | api e =>
    have own : handlerFor? (.api e) = some .api := by
      obtain ⟨kind, _, _, _, _, _⟩ := e
      cases kind <;> rfl
    cases own.symm.trans found
    exact .api e
  | validation errors =>
    cases found
    exact .validation errors
  | http kind status message =>
    cases kind with
    | authentication =>
      cases found
      exact .authentication _
    | _ =>
      cases found
      exact .http _ status message
  | notFound message =>
    cases found
    exact .notFound _
  | storage kind message =>
    cases (handlerFor?_storage kind message).symm.trans found
    exact .storage _
  | other kind message =>
    cases eq_unexpected_of_handlerFor?_other found
    have answers (debug : Bool) : Handler.Answers debug origin .unexpected (.other kind message) _ :=
      .unexpected _
    cases debug with
    | false => exact answers false
    | true => exact answers true

/-- Nothing of a hidden failure is told. -/
theorem report_of_isHidden {debug : Bool} {failure : Failure} (hidden : IsHidden debug failure)
    (origin : Origin) :
    ∃ record, report debug origin failure =
      (.ok (Response.withoutDetails origin.requestId), [record]) := by
  rcases hidden with storage | ⟨rfl, unexpected⟩
  · have answers := report_answers storage debug origin
    generalize report debug origin failure = reported at answers ⊢
    cases answers
    exact ⟨_, rfl⟩
  · have answers := report_answers unexpected false origin
    generalize report false origin failure = reported at answers ⊢
    cases answers
    exact ⟨_, rfl⟩

theorem Route.ne_head {route : Route} {method : String} (known : method ∈ route.methods) :
    method ≠ "HEAD" := by
  rintro rfl
  cases route <;> simp [Route.methods] at known

/-- What the answer to a request is when its resource fails and nothing of the failure is told. -/
theorem run_handle_of_isHidden {scene : Scene} {world after : World} {request : Request}
    {route : Route} {failure : Failure} (host : request.namesHost = true)
    (reached : route? request.path = some route) (method : request.method ∈ route.methods)
    (fails : Session.run scene world (route.run request) = (.error failure, after))
    (hidden : IsHidden scene.debug failure) :
    (Session.run scene world (handle request)).1 =
      .ok (Response.withoutDetails (requestId request.headers)) := by
  obtain ⟨record, reported⟩ := report_of_isHidden hidden request.origin
  rw [handle_eq_answering host reached method,
    run_answering_of_error fails reported (Route.ne_head method) rfl]
  rfl

/-- A failure is answered by the handler of the most special class that it is of and that has one,
and every exception is of such a class. Failures of the storage are all answered alike. So are,
without debugging, those that nobody expected, and what is answered tells of the request nothing but
the identifier that the caller gave it. -/
theorem internal_failures_are_answered_alike :
    (∀ failure : Failure, failure.IsOf (.other .exception) →
      ∃ handler, handlerFor? failure = some handler) ∧
    (∀ (failure : Failure) (before after : List FailureClass) (c : FailureClass) (handler : Handler),
      failure.lineage = before ++ c :: after → (∀ d ∈ before, handlerOf? d = none) →
      handlerOf? c = some handler → ∀ debug origin,
        handler.Answers debug origin failure (report debug origin failure)) ∧
    (∀ (debug : Bool) (request : Request) (failure other : Failure),
      failure.IsOf (.storage .database) → other.IsOf (.storage .database) →
      (report debug request.origin failure).1 = (report debug request.origin other).1) ∧
    (∀ (debug : Bool) (request : Request) (failure : Failure), IsHidden debug failure →
      (report debug request.origin failure).1 =
        .ok (Response.withoutDetails (requestId request.headers))) ∧
    ∀ (scene : Scene) (world after : World) (request : Request) (route : Route) (failure : Failure),
      request.namesHost = true → route? request.path = some route →
      request.method ∈ route.methods →
      Session.run scene world (route.run request) = (.error failure, after) →
      IsHidden scene.debug failure →
      (Session.run scene world (handle request)).1 =
        .ok (Response.withoutDetails (requestId request.headers)) := by
  have told {debug : Bool} {failure : Failure} (hidden : IsHidden debug failure)
      (request : Request) : (report debug request.origin failure).1 =
        .ok (Response.withoutDetails (requestId request.headers)) := by
    obtain ⟨record, reported⟩ := report_of_isHidden hidden request.origin
    rw [reported]
    rfl
  refine ⟨fun _ => exists_handlerFor?, ?_, ?_, fun _ request _ hidden => told hidden request,
    fun _ _ _ _ _ _ => run_handle_of_isHidden⟩
  · intro failure before after c handler lineage unregistered registered debug origin
    exact report_answers (List.findSome?_eq_some_iff.mpr
      ⟨before, c, after, lineage, registered, unregistered⟩) debug origin
  · intro debug request failure other database database'
    rw [told (.inl (handlerFor?_eq_storage_iff.mpr database)),
      told (.inl (handlerFor?_eq_storage_iff.mpr database'))]

section BrokenConnection

def uniqueViolation : Failure :=
  .storage (.derived .integrity "UniqueViolation") (.string "Key (user_id)=(1) already exists.")

def connectionClosed : Failure := .fault .interface "connection already closed"

def askHealth : Request :=
  ⟨"GET", "/diagnostics/health".toList, [("x-request-id", "7")], []⟩

theorem internal_failures_are_answered_alike_connectionClosed :
    (uniqueViolation.IsOf (.storage .database) ∧ connectionClosed.IsOf (.other .exception)) ∧
      (report true askHealth.origin uniqueViolation).1 =
        (report true askHealth.origin (.storage .operational (.string "disk I/O error"))).1 ∧
      handlerFor? connectionClosed = some .unexpected ∧
      (report false askHealth.origin connectionClosed).1 = .ok (Response.withoutDetails "7") ∧
      (Session.run ⟨false, 42, some ⟨.databasePing, connectionClosed⟩⟩ ⟨Store.empty, []⟩
        (handle askHealth)).1 = .ok (Response.withoutDetails "7") := by
  obtain ⟨_, _, alike, told, answered⟩ := internal_failures_are_answered_alike
  have named : requestId askHealth.headers = "7" := by simp [requestId, askHealth]
  have host : askHealth.namesHost = true := Request.namesHost_of_header? (by simp [askHealth])
  have database : uniqueViolation.IsOf (.storage .database) := by decide
  have exception : connectionClosed.IsOf (.other .exception) := by decide
  have unexpected : handlerFor? connectionClosed = some .unexpected := rfl
  refine ⟨⟨database, exception⟩, alike _ _ _ _ database (by decide), unexpected, ?_, ?_⟩
  · rw [← named]
    exact told false askHealth connectionClosed (.inr ⟨rfl, unexpected⟩)
  · rw [← named]
    exact answered _ _ _ askHealth .health connectionClosed host rfl (by decide) rfl
      (.inr ⟨rfl, unexpected⟩)

end BrokenConnection

end Http
end AddressBook
