import AddressBook.Http.Handlers
import AddressBook.Proofs.Keys

namespace AddressBook.Http

/-- Whether a request brings a token of a user, and nothing is planned to fail while it is looked
up. -/
structure Sends (scene : Scene) (s : Store) (request : Request) (user : User) : Prop where
  token : ∃ token, bearerToken? request.headers = some token ∧ token ≠ "" ∧
    s.userOfHash? (Tokens.hash token) = some user
  lookup : scene.IsCalmAt .authentication
  statement : scene.IsCalmAt .statement

theorem run_owner? {scene : Scene} (calm : scene.IsCalmAt .statement) (world : World)
    {token : String} (nonempty : token ≠ "") :
    Session.run scene world (Tokens.owner? token) =
      (.ok (world.store.userOfHash? (Tokens.hash token)), world) := by
  rw [Tokens.owner?, if_neg (by simpa using nonempty), Session.run_query_of_isCalmAt calm]

theorem run_authenticate {scene : Scene} {world : World} {request : Request} {user : User}
    (sends : Sends scene world.store request user) :
    Session.run scene world (authenticate request.headers) = (.ok user, world) := by
  obtain ⟨token, brought, nonempty, known⟩ := sends.token
  unfold authenticate
  rw [brought]
  simp only
  rw [Session.run_bind_ok (Session.run_passes_of_isCalmAt sends.lookup world),
    Session.run_bind_ok (run_owner? sends.statement world nonempty), known]
  rfl

theorem run_authenticate_of_nobody {scene : Scene} {world : World} {request : Request}
    (nobody : ∀ user, ¬Sends scene world.store request user) :
    ∃ failure, Session.run scene world (authenticate request.headers) = (.error failure, world) := by
  unfold authenticate
  cases brought : bearerToken? request.headers with
  | none => exact ⟨_, rfl⟩
  | some token =>
    by_cases lookup : scene.IsCalmAt .authentication
    · simp only
      rw [Session.run_bind_ok (Session.run_passes_of_isCalmAt lookup world)]
      by_cases empty : token = ""
      · subst empty
        exact ⟨_, rfl⟩
      by_cases statement : scene.IsCalmAt .statement
      · rw [Session.run_bind_ok (run_owner? statement world empty)]
        cases known : world.store.userOfHash? (Tokens.hash token) with
        | none => exact ⟨_, rfl⟩
        | some user =>
          exact absurd ⟨⟨token, brought, empty, known⟩, lookup, statement⟩ (nobody user)
      · obtain ⟨failure, fails⟩ := Session.run_passes_of_not_isCalmAt statement world
        refine ⟨failure, Session.run_bind_error ?_ _⟩
        rw [Tokens.owner?, if_neg (by simpa using empty)]
        exact Session.run_bind_error fails _
    · obtain ⟨failure, fails⟩ := Session.run_passes_of_not_isCalmAt lookup world
      exact ⟨failure, Session.run_bind_error fails _⟩

theorem run_caller {scene : Scene} {world : World} {request : Request} {user : User}
    (sends : Sends scene world.store request user) :
    Session.run scene world (caller request) = (.ok user, world) := by
  rw [caller, Session.run_orElse, run_authenticate sends]

theorem run_caller_of_nobody {scene : Scene} {world : World} {request : Request}
    (nobody : ∀ user, ¬Sends scene world.store request user) :
    ∃ failure, Session.run scene world (caller request) = (.error failure, world) := by
  obtain ⟨failure, fails⟩ := run_authenticate_of_nobody nobody
  rw [caller, Session.run_orElse, fails]
  simp only
  rw [Session.run_bind_ok (Session.run_read scene world)]
  split
  · exact ⟨_, rfl⟩
  · exact ⟨_, rfl⟩

/-- The text that a body gives for an account. -/
def namedAccount? (body : Bytes) : Option String :=
  match Json.ofBytes body with
  | .error _ => none
  | .ok value =>
    match value.field? "account" with
    | some (.string text) => some text
    | _ => none

/-- Reading a request to unlink succeeds if its body gives a text for the account that, without the
blanks around it, is an address. -/
theorem readDelete_eq_ok_iff {debug : Bool} {body : Bytes} {payload : Keys.DeletePayload} :
    readDelete debug body = .ok payload ↔
      body ≠ [] ∧ ∃ text, namedAccount? body = some text ∧
        payload.account = Text.trimString text ∧
        Address.decode payload.account = .ok payload.address := by
  unfold readDelete readBody namedAccount?
  by_cases empty : body = []
  · simp [empty]
  rw [if_neg (by simpa using empty)]
  cases read : Json.ofBytes body with
  | error e => simp
  | ok value =>
    simp only [Keys.readDeletePayload, Schema.field]
    cases given : value.field? "account" with
    | none => exact ⟨nofun, fun ⟨_, _, named, _⟩ => nomatch named⟩
    | some field =>
      cases field with
      | string text =>
        simp only [Schema.text]
        constructor
        · intro accepted
          split at accepted
          next => cases accepted
          next address decoded =>
            cases accepted
            exact ⟨empty, text, rfl, rfl, decoded⟩
        · rintro ⟨_, same, named, account, decoded⟩
          cases named
          rw [account] at decoded
          rw [decoded]
          cases payload
          subst account
          rfl
      | _ => exact ⟨nofun, fun ⟨_, _, named, _⟩ => nomatch named⟩

/-- Whether a request asks for an address to be unlinked. -/
def Asks (debug : Bool) (request : Request) (address : Bytes) : Prop :=
  ∃ body payload, request.content = .ok body ∧ readDelete debug body = .ok payload ∧
    payload.address = address

theorem Request.content_of_unmeasured {request : Request}
    (unmeasured : header? "Content-Length" request.headers = none)
    (short : request.body.length ≤ maxLength) : request.content = .ok request.body := by
  have within : ¬(maxLength : Int) < request.body.length := by omega
  rw [content, length, unmeasured]
  simp only
  rw [if_neg within, if_neg (Int.lt_irrefl _), Int.toNat_natCast, List.take_length]

/-- Whether a request to unlink is sent by a user, asks for an address to be unlinked, and nothing
is planned to fail on the way. -/
structure Deletes (scene : Scene) (s : Store) (request : Request) (user : User) (address : Bytes) :
    Prop where
  sends : Sends scene s request user
  asks : Asks scene.debug request address
  start : scene.IsCalmAt .keyDelete
  undisturbed : Keys.Undisturbed scene

theorem run_deleteKey {scene : Scene} {world : World} {request : Request} {user : User}
    {address : Bytes} (deletes : Deletes scene world.store request user address) :
    Session.run scene world (deleteKey request) =
      (.ok (Response.html 200 ""),
        ⟨(world.store.unlink user.id address).2,
          world.log ++ [Keys.deleteRecord user.id (world.store.unlink user.id address).1]⟩) := by
  obtain ⟨body, payload, content, read, rfl⟩ := deletes.asks
  unfold deleteKey
  rw [Session.run_bind_ok (run_caller deletes.sends), content, Session.run_bind_ok rfl,
    Session.run_bind_ok (Session.run_read scene world), read, Session.run_bind_ok rfl,
    Session.run_bind_ok (Session.run_passes_of_isCalmAt deletes.start world),
    Session.run_bind_ok (Keys.run_delete deletes.undisturbed world user.id payload.address)]
  rfl

/-- A request to unlink that is refused or disturbed leaves the tables as they were. -/
theorem isStopped_deleteKey {scene : Scene} {world : World} {request : Request}
    (refused : ∀ user address, ¬Deletes scene world.store request user address) :
    Session.IsStopped scene world (deleteKey request) := by
  unfold deleteKey
  by_cases sent : ∃ user, Sends scene world.store request user
  · obtain ⟨user, sends⟩ := sent
    refine .of_ok (run_caller sends) ?_
    cases content : request.content with
    | error failure => exact Session.isStopped_of_error rfl
    | ok body =>
      refine .of_ok rfl (.of_ok (Session.run_read scene world) ?_)
      cases read : readDelete scene.debug body with
      | error failure => exact Session.isStopped_of_error rfl
      | ok payload =>
        refine .of_ok rfl ?_
        by_cases start : scene.IsCalmAt .keyDelete
        · refine .of_ok (Session.run_passes_of_isCalmAt start world) ?_
          have disturbed : ¬Keys.Undisturbed scene := fun undisturbed =>
            refused user payload.address
              ⟨sends, ⟨body, payload, content, read, rfl⟩, start, undisturbed⟩
          exact (Keys.isStopped_delete disturbed world user.id payload.address).bind _
        · obtain ⟨failure, fails⟩ := Session.run_passes_of_not_isCalmAt start world
          exact Session.isStopped_of_error (Session.run_bind_error fails _)
  · obtain ⟨failure, fails⟩ := run_caller_of_nobody (not_exists.mp sent)
    exact Session.isStopped_of_error (Session.run_bind_error fails _)

section Reading
open Session

theorem readsOnly_authenticate (headers : List (String × String)) : ReadsOnly (authenticate headers) := by
  unfold authenticate
  cases bearerToken? headers with
  | none => exact readsOnly_fail _
  | some token =>
    refine (readsOnly_passes _).bind fun _ => ReadsOnly.bind ?_ fun owner => ?_
    · unfold Tokens.owner?
      split
      · exact readsOnly_pure none
      · exact readsOnly_query _
    · cases owner with
      | none => exact readsOnly_fail _
      | some user => exact readsOnly_pure user

theorem readsOnly_caller (request : Request) : ReadsOnly (caller request) := by
  refine (readsOnly_authenticate _).orElse fun failure => readsOnly_read.bind fun scene => ?_
  split
  · exact readsOnly_fail _
  · exact readsOnly_fail _

theorem readsOnly_listKeys (request : Request) : ReadsOnly (listKeys request) := by
  refine (readsOnly_caller request).bind fun user => (readsOnly_passes _).bind fun _ => ?_
  refine (readsOnly_query _).bind fun keys => readsOnly_read.bind fun scene => ?_
  refine ReadsOnly.bind (readsOnly_mapM (fun key => ?_) keys) fun items => readsOnly_ofExcept _
  exact (readsOnly_passes _).bind fun _ => readsOnly_ofExcept _

theorem readsOnly_eventList (account : Bytes) : ReadsOnly (Events.list account) :=
  (readsOnly_query _).bind fun _ => readsOnly_ofExcept _

theorem readsOnly_listEvents (account : String) : ReadsOnly (listEvents account) := by
  refine (readsOnly_ofExcept _).bind fun address => (readsOnly_passes _).bind fun _ => ?_
  refine (readsOnly_eventList address).bind fun entries => ?_
  refine ReadsOnly.bind (readsOnly_mapM (fun entry => ?_) entries) fun items => readsOnly_ofExcept _
  exact (readsOnly_passes _).bind fun _ => readsOnly_ofExcept _

theorem readsOnly_tellHealth (requestId : String) : ReadsOnly (tellHealth requestId) := by
  refine ReadsOnly.bind (ReadsOnly.orElse ?_ fun failure => ?_) fun _ => readsOnly_ofExcept _
  · exact (readsOnly_passes _).bind fun _ => readsOnly_query _
  · unfold databaseUnavailable
    split
    · exact (readsOnly_log _).bind fun _ => readsOnly_fail _
    · exact readsOnly_fail _

theorem store_run_reporting (origin : Origin) (session : Session Response) (scene : Scene)
    (world : World) :
    (run scene world (reporting origin session)).2.store = (run scene world session).2.store := by
  refine store_run_orElse (fun failure => ?_) session scene world
  refine readsOnly_read.bind fun scene => ?_
  refine ReadsOnly.bind (readsOnly_forM readsOnly_log _) fun _ => ?_
  split
  · exact readsOnly_pure _
  · exact readsOnly_pure _

end Reading

/-- Whether a request reaches the keys in order to unlink an address, and does. -/
structure Unlinks (scene : Scene) (s : Store) (request : Request) (user : User) (address : Bytes) :
    Prop extends Deletes scene s request user address where
  host : request.namesHost = true
  method : request.method = "DELETE"
  path : request.path = "/keys".toList

theorem store_run_handle_eq (request : Request) (scene : Scene) (world : World) :
    (Session.run scene world (handle request)).2.store =
      (Session.run scene world (respond request)).2.store := by
  unfold handle
  rw [Session.run_bind]
  rcases Session.run scene world (respond request) with ⟨outcome, after⟩
  cases outcome with
  | error failure => rfl
  | ok response =>
    simp only
    split
    · rfl
    · rfl

/-- The tables after a request that unlinks. -/
theorem Unlinks.store_run_handle {scene : Scene} {world : World} {request : Request} {user : User}
    {address : Bytes} (unlinks : Unlinks scene world.store request user address) :
    (Session.run scene world (handle request)).2.store =
      (world.store.unlink user.id address).2 := by
  have route : route? request.path = some .keys := by rw [unlinks.path, route?, if_pos rfl]
  rw [store_run_handle_eq, respond, unlinks.host, if_neg (by decide), route]
  simp only
  rw [if_pos (by rw [unlinks.method]; decide), store_run_reporting, Route.run,
    if_neg (by rw [unlinks.method]; decide), run_deleteKey unlinks.toDeletes]

theorem path_of_route? {path : List Char} (h : route? path = some .keys) : path = "/keys".toList := by
  unfold route? at h
  split at h
  next same => exact same
  next =>
    split at h
    next => cases h
    next =>
      split at h
      next =>
        split at h
        next => cases h
        next => cases h
      next => cases h

/-- Every other request leaves the tables alone. -/
theorem store_run_handle_of_not_unlinks {scene : Scene} {world : World} {request : Request}
    (other : ∀ user address, ¬Unlinks scene world.store request user address) :
    (Session.run scene world (handle request)).2.store = world.store := by
  rw [store_run_handle_eq, respond]
  cases host : request.namesHost with
  | false => rfl
  | true =>
    rw [if_neg (by decide)]
    cases reached : route? request.path with
    | none => rfl
    | some route =>
      simp only
      split
      next known =>
        rw [store_run_reporting]
        cases route with
        | contractEvents account => exact readsOnly_listEvents account scene world
        | health => exact readsOnly_tellHealth _ scene world
        | keys =>
          unfold Route.run
          simp only
          split
          next => exact readsOnly_listKeys request scene world
          next notGet =>
            have method : request.method = "DELETE" := by
              simpa [Route.methods, notGet] using known
            refine (isStopped_deleteKey fun user address deletes => ?_).store
            exact other user address ⟨deletes, host, method, path_of_route? reached⟩
      next => rfl

/-- A request unlinks an address, or it leaves the tables alone. -/
theorem store_run_handle_cases (request : Request) (scene : Scene) (world : World) :
    (∃ user address, Unlinks scene world.store request user address ∧
      (Session.run scene world (handle request)).2.store =
        (world.store.unlink user.id address).2) ∨
      (Session.run scene world (handle request)).2.store = world.store := by
  by_cases unlinks : ∃ user address, Unlinks scene world.store request user address
  · obtain ⟨user, address, unlinks⟩ := unlinks
    exact Or.inl ⟨user, address, unlinks, unlinks.store_run_handle⟩
  · refine Or.inr (store_run_handle_of_not_unlinks fun user address unlinked => ?_)
    exact unlinks ⟨user, address, unlinked⟩

end AddressBook.Http
