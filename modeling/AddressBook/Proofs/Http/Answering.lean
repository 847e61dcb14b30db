import AddressBook.Proofs.Http.Unlinking
import AddressBook.Proofs.Outcome

namespace AddressBook.Http

/-- What a session answers to a request: its failure is reported, and the body is cut off where the
method or the status has none. -/
def answering (request : Request) (session : Session Response) : Session Response := do
  let response ← reporting request.origin session
  if request.method = "HEAD" || Response.isBodiless response.status then
    return response.withoutBody
  else return response

/-- The answer with a JSON array. -/
def Response.list (items : List Json) : Response := ⟨200, jsonType, .json (.array items), []⟩

/-- A request for a host that reaches a resource with a method of it is answered there. -/
theorem handle_eq_answering {request : Request} {route : Route} (host : request.namesHost = true)
    (reached : route? request.path = some route) (method : request.method ∈ route.methods) :
    handle request = answering request (route.run request) := by
  have known : route.methods.contains request.method = true := List.contains_iff_mem.mpr method
  unfold handle respond answering
  rw [host, if_neg (by decide), reached]
  simp only [known, if_true]

/-- A request for what is no host reaches nothing. -/
theorem run_handle_of_not_namesHost {request : Request} (host : request.namesHost = false)
    (method : request.method ≠ "HEAD") (scene : Scene) (world : World) :
    Session.run scene world (handle request) = (.ok Response.badRequest, world) := by
  unfold handle respond
  have whole : Response.isBodiless Response.badRequest.status = false := rfl
  rw [host, if_pos (by decide), Session.run_bind_ok rfl, whole, if_neg (by simpa using method)]
  rfl

theorem run_answering_congr {scene : Scene} {world other : World} {request : Request}
    {session session' : Session Response}
    (same : Session.run scene world session = Session.run scene other session') :
    Session.run scene world (answering request session) =
      Session.run scene other (answering request session') := by
  unfold answering reporting
  rw [Session.run_bind, Session.run_bind, Session.run_orElse, Session.run_orElse, same]

theorem route?_keys : route? "/keys".toList = some .keys := rfl

theorem run_forM_log (scene : Scene) (world : World) (records : List LogRecord) :
    Session.run scene world (records.forM Session.log) =
      (.ok PUnit.unit, { world with log := world.log ++ records }) := by
  induction records generalizing world with
  | nil =>
    rw [List.append_nil]
    rfl
  | cons record records ih =>
    have rest := ih { world with log := world.log ++ [record] }
    rw [List.append_assoc] at rest
    exact (Session.run_bind_ok (Session.run_log scene world record) _).trans rest

theorem run_reporting (origin : Origin) (session : Session Response) (scene : Scene)
    (world : World) : Session.run scene world (reporting origin session) =
      match Session.run scene world session with
      | (.ok response, after) => (.ok response, after)
      | (.error failure, after) =>
        (.ok ((report scene.debug origin failure).1.toOption.getD Response.serverError),
          { after with log := after.log ++ (report scene.debug origin failure).2 }) := by
  rw [reporting, Session.run_orElse]
  rcases Session.run scene world session with ⟨outcome, after⟩
  cases outcome with
  | ok response => rfl
  | error failure =>
    simp only
    rw [Session.run_bind_ok (Session.run_read scene after)]
    rcases report scene.debug origin failure with ⟨reported, records⟩
    simp only
    rw [Session.run_bind_ok (run_forM_log scene after records)]
    cases reported with
    | ok response => rfl
    | error other => rfl

theorem run_answering_of_ok {scene : Scene} {world after : World} {request : Request}
    {session : Session Response} {response : Response}
    (h : Session.run scene world session = (.ok response, after)) (method : request.method ≠ "HEAD")
    (status : Response.isBodiless response.status = false) :
    Session.run scene world (answering request session) = (.ok response, after) := by
  unfold answering
  have reported := run_reporting request.origin session scene world
  rw [h] at reported
  rw [Session.run_bind_ok reported, status, if_neg (by simpa using method)]
  rfl

theorem exists_run_answering_of_error {scene : Scene} {world after : World} {request : Request}
    {session : Session Response} {failure : Failure}
    (h : Session.run scene world session = (.error failure, after)) :
    ∃ response, Session.run scene world (answering request session) =
      (.ok response,
        { after with log := after.log ++ (report scene.debug request.origin failure).2 }) := by
  have told := run_reporting request.origin session scene world
  rw [h] at told
  unfold answering
  rw [Session.run_bind_ok told]
  split
  · exact ⟨_, rfl⟩
  · exact ⟨_, rfl⟩

/-- What is answered when the session fails in a way for which there is a response. -/
theorem run_answering_of_error {scene : Scene} {world after : World} {request : Request}
    {session : Session Response} {failure : Failure} {response : Response} {records : List LogRecord}
    (h : Session.run scene world session = (.error failure, after))
    (reported : report scene.debug request.origin failure = (.ok response, records))
    (method : request.method ≠ "HEAD") (status : Response.isBodiless response.status = false) :
    Session.run scene world (answering request session) =
      (.ok response, { after with log := after.log ++ records }) := by
  have told := run_reporting request.origin session scene world
  simp only [h, reported, Except.toOption, Option.getD_some] at told
  unfold answering
  rw [Session.run_bind_ok told, status, if_neg (by simpa using method)]
  rfl

/-- Whatever a session does, there is a response. -/
theorem exists_run_reporting (origin : Origin) (session : Session Response) (scene : Scene)
    (world : World) :
    ∃ response after, Session.run scene world (reporting origin session) = (.ok response, after) := by
  rw [run_reporting]
  split
  · exact ⟨_, _, rfl⟩
  · exact ⟨_, _, rfl⟩

theorem exists_run_handle (request : Request) (scene : Scene) (world : World) :
    ∃ response after, Session.run scene world (handle request) = (.ok response, after) := by
  have responded : ∃ response after,
      Session.run scene world (respond request) = (.ok response, after) := by
    unfold respond
    split
    · exact ⟨_, _, rfl⟩
    · split
      · exact ⟨_, _, rfl⟩
      · split
        · exact exists_run_reporting _ _ scene world
        · exact ⟨_, _, rfl⟩
  obtain ⟨response, after, responded⟩ := responded
  unfold handle
  rw [Session.run_bind_ok responded]
  split
  · exact ⟨_, after, rfl⟩
  · exact ⟨response, after, rfl⟩

theorem body_of_json {status : Int} {value : Json} {response : Response}
    (made : Response.json status value = .ok response) : response.body = .json value := by
  unfold Response.json at made
  split at made
  · cases made
    rfl
  · cases made

theorem body_of_envelopeResponse {origin : Origin} {status : Int} {message code errors extra : Json}
    {response : Response}
    (made : envelopeResponse origin status message code errors extra = .ok response) :
    ∃ fields, response.body = .json (.object fields) := ⟨_, body_of_json made⟩

/-- What reports a failure is an object. -/
theorem exists_object_of_report {debug : Bool} {origin : Origin} {failure : Failure}
    {response : Response} (reported : (report debug origin failure).1 = .ok response) :
    ∃ fields, response.body = .json (.object fields) := by
  have chosen {status message code errors extra : Json}
      (made : chosenResponse origin status message code errors extra = .ok response) :
      ∃ fields, response.body = .json (.object fields) := by
    obtain ⟨number, _, made⟩ := exists_of_bind_eq_ok made
    split at made
    · cases made
    · exact body_of_envelopeResponse made
  have told {status message : Json} (made : httpResponse origin status message = .ok response) :
      ∃ fields, response.body = .json (.object fields) := by
    obtain ⟨text, _, made⟩ := exists_of_bind_eq_ok made
    split at made
    · exact body_of_envelopeResponse made
    · exact chosen made
  cases failure with
  | http kind status message =>
    cases kind with
    | authentication =>
      simp only [report] at reported
      exact body_of_envelopeResponse reported
    | _ =>
      simp only [report] at reported
      exact told reported
  | api e =>
    simp only [report] at reported
    exact chosen reported
  | notFound message =>
    simp only [report] at reported
    exact ⟨_, body_of_json reported⟩
  | _ =>
    simp only [report] at reported
    exact body_of_envelopeResponse reported

/-- A list is the answer of a resource that came out well. -/
theorem exists_run_of_listed {scene : Scene} {world : World} {request : Request} {route : Route}
    {response : Response} {values : List Json} (reached : route? request.path = some route)
    (answered : (Session.run scene world (handle request)).1 = .ok response)
    (listed : response.body = .json (.array values)) :
    ∃ after, Session.run scene world (route.run request) = (.ok response, after) := by
  have responded : (Session.run scene world (respond request)).1 = .ok response := by
    unfold handle at answered
    rw [Session.run_bind] at answered
    rcases ran : Session.run scene world (respond request) with ⟨outcome, after⟩
    rw [ran] at answered
    cases outcome with
    | error failure => cases answered
    | ok whole =>
      simp only at answered
      split at answered
      · cases answered
        cases listed
      · cases answered
        rfl
  unfold respond at responded
  rw [reached] at responded
  simp only at responded
  split at responded
  · cases responded
    cases listed
  · split at responded
    · rw [run_reporting] at responded
      rcases ran : Session.run scene world (route.run request) with ⟨outcome, after⟩
      rw [ran] at responded
      cases outcome with
      | ok own =>
        cases responded
        exact ⟨after, rfl⟩
      | error failure =>
        simp only at responded
        cases told : (report scene.debug request.origin failure).1 with
        | ok own =>
          obtain ⟨fields, object⟩ := exists_object_of_report told
          rw [told] at responded
          cases responded
          cases object.symm.trans listed
        | error other =>
          rw [told] at responded
          cases responded
          cases listed
    · cases responded
      cases listed

/-- A request that unlinks is answered without a body. -/
theorem Unlinks.run_handle {scene : Scene} {world : World} {request : Request} {user : User}
    {address : Bytes} (unlinks : Unlinks scene world.store request user address) :
    Session.run scene world (handle request) =
      (.ok (Response.html 200 ""),
        ⟨(world.store.unlink user.id address).2,
          world.log ++ [Keys.deleteRecord user.id (world.store.unlink user.id address).1]⟩) := by
  have known : request.method ∈ Route.keys.methods := by simp [unlinks.method, Route.methods]
  rw [handle_eq_answering unlinks.host (unlinks.path ▸ route?_keys) known, Route.run,
    if_neg (by rw [unlinks.method]; decide)]
  exact run_answering_of_ok (run_deleteKey unlinks.toDeletes) (by rw [unlinks.method]; decide) rfl

/-- A failure of no kind that has an answer of its own is answered with the status 500. -/
theorem report_other (debug : Bool) (origin : Origin) (kind : FaultKind) (message : Json) :
    ∃ response records, report debug origin (.other kind message) = (.ok response, records) ∧
      response.status = 500 := by
  cases debug with
  | false => exact ⟨_, _, rfl, rfl⟩
  | true => exact ⟨_, _, rfl, rfl⟩

end AddressBook.Http
