import AddressBook.Proofs.Book.Writes
import AddressBook.Proofs.Http.Answering
import AddressBook.Proofs.Tokens

namespace AddressBook

theorem Url.cutAt_append_cons {mark : Char} {before : List Char} (free : mark ∉ before)
    (after : List Char) : Url.cutAt mark (before ++ mark :: after) = (before, some after) := by
  have passed : ∀ c ∈ before, (c != mark) = true := by
    intro c member
    exact bne_iff_ne.mpr fun same => free (same ▸ member)
  have stop : ¬(mark != mark) = true := by simp
  unfold Url.cutAt
  rw [List.dropWhile_append_of_pos passed, List.takeWhile_append_of_pos passed,
    List.dropWhile_cons_of_neg (p := (· != mark)) stop,
    List.takeWhile_cons_of_neg (p := (· != mark)) stop, List.append_nil]

theorem Url.eq_append_of_cutAt {mark : Char} {text before after : List Char}
    (h : Url.cutAt mark text = (before, some after)) : text = before ++ mark :: after := by
  unfold Url.cutAt at h
  split at h
  next => cases h
  next first rest found =>
    have stopped := List.head?_dropWhile_not (· != mark) text
    rw [found] at stopped
    have same : first = mark := by simpa using stopped
    cases h
    rw [← same] at found
    subst same
    rw [← found, List.takeWhile_append_dropWhile]

namespace Http

/-- Whether the authorization header is the name of the scheme in letters of either case, a blank
and the token, which is not empty. -/
structure Presents (request : Request) (token : String) : Prop where
  nonempty : token ≠ ""
  header : ∃ scheme : List Char, scheme.map Char.toLower = "bearer".toList ∧
    header? "Authorization" request.headers =
      some (String.ofList (scheme ++ ' ' :: token.toList))

theorem presents_iff {request : Request} {token : String} :
    Presents request token ↔ bearerToken? request.headers = some token ∧ token ≠ "" := by
  unfold bearerToken?
  constructor
  · rintro ⟨nonempty, scheme, named, header⟩
    have free : ' ' ∉ scheme := by
      intro member
      have lowered := List.mem_map_of_mem (f := Char.toLower) member
      rw [named] at lowered
      exact absurd lowered (by decide)
    rw [header]
    simp only [String.toList_ofList, Url.cutAt_append_cons free, if_pos named]
    exact ⟨congrArg some String.ofList_toList, nonempty⟩
  · rintro ⟨brought, nonempty⟩
    cases header : header? "Authorization" request.headers with
    | none => simp [header] at brought
    | some value =>
      rw [header] at brought
      simp only at brought
      rcases cut : Url.cutAt ' ' value.toList with ⟨scheme, rest⟩
      rw [cut] at brought
      simp only at brought
      split at brought
      next named =>
        cases Option.some.inj brought
        cases rest with
        | none => exact absurd rfl nonempty
        | some rest =>
          refine ⟨nonempty, scheme, named, ?_⟩
          rw [Option.getD_some, String.toList_ofList, ← Url.eq_append_of_cutAt cut,
            String.ofList_toList]
          exact header
      next => cases brought

/-- A request is sent by the user for whom the tables keep the token that it presents. -/
theorem sends_iff {scene : Scene} {s : Store} (sound : s.Sound) {request : Request} {user : User}
    (lookup : scene.IsCalmAt .authentication) (statement : scene.IsCalmAt .statement) :
    Sends scene s request user ↔ ∃ token, Presents request token ∧ s.Keeps token user := by
  constructor
  · intro sends
    obtain ⟨token, brought, nonempty, known⟩ := sends.token
    exact ⟨token, presents_iff.mpr ⟨brought, nonempty⟩,
      sound.userOfHash?_hash_eq_some_iff.mp known⟩
  · rintro ⟨token, presents, keeps⟩
    obtain ⟨brought, nonempty⟩ := presents_iff.mp presents
    exact ⟨⟨token, brought, nonempty, sound.userOfHash?_hash_eq_some_iff.mpr keeps⟩, lookup,
      statement⟩

/-- Nothing but the missing credentials stops a request that no user sends, if nothing is planned to
fail while its token is looked up. -/
theorem run_authenticate_of_unknown {scene : Scene} {world : World} {request : Request}
    (lookup : scene.IsCalmAt .authentication) (statement : scene.IsCalmAt .statement)
    (nobody : ∀ user, ¬Sends scene world.store request user) :
    Session.run scene world (authenticate request.headers) =
      (.error Failure.unauthenticated, world) := by
  unfold authenticate
  cases brought : bearerToken? request.headers with
  | none => rfl
  | some token =>
    simp only
    rw [Session.run_bind_ok (Session.run_passes_of_isCalmAt lookup world)]
    by_cases empty : token = ""
    · subst empty
      rfl
    rw [Session.run_bind_ok (run_owner? statement world empty)]
    cases known : world.store.userOfHash? (Tokens.hash token) with
    | none => rfl
    | some user =>
      exact absurd ⟨⟨token, brought, empty, known⟩, lookup, statement⟩ (nobody user)

/-- The answer to a request that no user sends. -/
def Response.unauthorized (requestId : String) : Response :=
  ⟨401, jsonType, .json (.object [("success", .bool false), ("message", .string "Unauthorized"),
    ("data", .object []), ("extra", .object []), ("errors", .null),
    ("code", .string "UNAUTHORIZED"), ("request_id", .string requestId)]), []⟩

theorem report_unauthenticated (debug : Bool) (origin : Origin) :
    report debug origin Failure.unauthenticated =
      (.ok (Response.unauthorized origin.requestId), []) := rfl

theorem run_caller_of_unknown {scene : Scene} {world : World} {request : Request}
    (lookup : scene.IsCalmAt .authentication) (statement : scene.IsCalmAt .statement)
    (nobody : ∀ user, ¬Sends scene world.store request user) :
    Session.run scene world (caller request) = (.error Failure.unauthenticated, world) := by
  rw [caller, Session.run_orElse, run_authenticate_of_unknown lookup statement nobody]
  rfl

/-- The user who is told is the one for whom the tables keep the token that is presented. -/
theorem run_caller_eq_ok_iff {scene : Scene} {world : World} {request : Request} {user : User}
    (sound : world.store.Sound) (lookup : scene.IsCalmAt .authentication)
    (statement : scene.IsCalmAt .statement) :
    Session.run scene world (caller request) = (.ok user, world) ↔
      ∃ token, Presents request token ∧ world.store.Keeps token user := by
  rw [← sends_iff sound lookup statement]
  constructor
  · intro told
    by_contra stranger
    have nobody : ∀ other, ¬Sends scene world.store request other := by
      intro other sends
      cases (run_caller sends).symm.trans told
      exact stranger sends
    cases (run_caller_of_unknown lookup statement nobody).symm.trans told
  · exact run_caller

/-- What is done with the keys for the user who sends a request. -/
def serveKeys (request : Request) (user : User) : Session Response :=
  if request.method = "GET" then do
    Session.passes .keyList
    let keys ← Keys.list user.id
    let format := (← read).format
    let items ← keys.mapM fun key => do
      Session.passes .keyItem
      Session.ofExcept ((Keys.item format key.id key.address).mapError Failure.ofAddressError)
    Session.ofExcept (Response.json 200 (.array items))
  else do
    let body ← Session.ofExcept request.content
    let payload ← Session.ofExcept (readDelete (← read).debug body)
    Session.passes .keyDelete
    let _ ← Keys.delete user.id payload.address
    return Response.html 200 ""

/-- The user is told first, and nothing else is done before. -/
theorem run_keys_eq (request : Request) :
    Route.keys.run request = caller request >>= serveKeys request := by
  unfold Route.run serveKeys
  by_cases method : request.method = "GET"
  · simp only [if_pos method]
    rfl
  · simp only [if_neg method]
    rfl

theorem handle_keys_eq {request : Request} (host : request.namesHost = true)
    (path : request.path = "/keys".toList) (method : request.method ∈ Route.keys.methods) :
    handle request = answering request (caller request >>= serveKeys request) := by
  rw [handle_eq_answering host (path ▸ route?_keys) method, run_keys_eq]

/-- A request to the keys is handled for the one user for whom the tables keep the token that it
presents. If there is none, the answer is that it is unauthorized, and nothing happens. -/
theorem keys_open_to_holders_of_tokens {scene : Scene} {world : World} {request : Request}
    (reachable : world.store.Reachable) (lookup : scene.IsCalmAt .authentication)
    (statement : scene.IsCalmAt .statement) (host : request.namesHost = true)
    (path : request.path = "/keys".toList)
    (method : request.method = "GET" ∨ request.method = "DELETE") :
    (∀ user, Session.run scene world (caller request) = (.ok user, world) ↔
      ∃ token, Presents request token ∧ world.store.Keeps token user) ∧
    (∀ token, (world.store.tokens.rows.filter (·.hash == Tokens.hash token)).length ≤ 1 ∧
      (∀ row ∈ world.store.tokens.rows, row.hash = Tokens.hash token →
        ∃ user, world.store.Keeps token user ∧ user.id = row.user) ∧
      ∀ user other, world.store.Keeps token user → world.store.Keeps token other → user = other) ∧
    (∀ token user, Presents request token → world.store.Keeps token user →
      Session.run scene world (handle request) =
        Session.run scene world (answering request (serveKeys request user))) ∧
    ((∀ token user, Presents request token → ¬world.store.Keeps token user) →
      Session.run scene world (handle request) =
        (.ok (Response.unauthorized (requestId request.headers)), world)) := by
  have sound := reachable.sound
  have known : request.method ∈ Route.keys.methods := by
    rcases method with get | delete
    · simp [get, Route.methods]
    · simp [delete, Route.methods]
  have notHead : request.method ≠ "HEAD" := by
    rcases method with get | delete
    · simp [get]
    · simp [delete]
  have answered := handle_keys_eq host path known
  have told (user : User) : Session.run scene world (caller request) = (.ok user, world) ↔
      ∃ token, Presents request token ∧ world.store.Keeps token user :=
    run_caller_eq_ok_iff sound lookup statement
  refine ⟨told, fun token => ⟨sound.length_hashes_le token, ?_, ?_⟩, ?_, ?_⟩
  · intro row member same
    exact sound.exists_user_of_hash member same
  · intro user other keeps keeps'
    exact sound.eq_of_keeps keeps keeps'
  · intro token user presents keeps
    rw [answered]
    have caller := (told user).mpr ⟨token, presents, keeps⟩
    exact run_answering_congr (Session.run_bind_ok caller _)
  · intro refused
    have nobody : ∀ user, ¬Sends scene world.store request user := by
      intro user sends
      obtain ⟨token, presents, keeps⟩ := (sends_iff sound lookup statement).mp sends
      exact refused token user presents keeps
    rw [answered]
    have stopped := Session.run_bind_error (run_caller_of_unknown lookup statement nobody)
      (serveKeys request)
    have answer := run_answering_of_error stopped (report_unauthenticated _ _) notHead rfl
    rwa [List.append_nil] at answer

section TwoRequests

theorem keeps_linkedOnce : Store.linkedOnce.Keeps "t" ⟨1⟩ :=
  ⟨List.mem_singleton.mpr rfl, _, List.mem_singleton.mpr rfl, rfl, rfl⟩

def listWithToken : Request := ⟨"GET", "/keys".toList, [("authorization", "bEARER t")], []⟩

/-- A request to unlink that presents nothing and whose body is no JSON. -/
def unlinkWithoutToken : Request :=
  ⟨"DELETE", "/keys".toList, [("X-Request-Id", "7")], Bytes.ofText "\x7bnot json"⟩

theorem presents_of_header? {request : Request}
    (given : header? "Authorization" request.headers = some "Bearer t") : Presents request "t" :=
  presents_iff.mpr ⟨bearerToken?_of_header? given, by decide⟩

/-- The name of the scheme may be in letters of either case. -/
theorem presents_listWithToken : Presents listWithToken "t" := by
  have given : header? "Authorization" listWithToken.headers = some "bEARER t" := by
    simp [listWithToken]
  refine presents_iff.mpr ⟨?_, by decide⟩
  rw [bearerToken?, given]
  decide +kernel

theorem namesHost_listWithToken : listWithToken.namesHost = true :=
  Request.namesHost_of_header? (by simp [listWithToken])

theorem keys_open_to_holders_of_tokens_linkedOnce :
    Store.linkedOnce.Reachable ∧ (∀ point, Scene.calm.IsCalmAt point) ∧
      (listWithToken.namesHost = true ∧ listWithToken.path = "/keys".toList ∧
        listWithToken.method = "GET") ∧
      Session.run Scene.calm ⟨Store.linkedOnce, []⟩ (caller listWithToken) =
        (.ok ⟨1⟩, ⟨Store.linkedOnce, []⟩) ∧
      (unlinkWithoutToken.namesHost = true ∧ unlinkWithoutToken.path = "/keys".toList ∧
        unlinkWithoutToken.method = "DELETE") ∧
      Session.run Scene.calm ⟨Store.linkedOnce, []⟩ (handle unlinkWithoutToken) =
        (.ok (Response.unauthorized "7"), ⟨Store.linkedOnce, []⟩) := by
  have calm := @Scene.isCalmAt_of_fault_eq_none Scene.calm rfl
  have unlinkHost : unlinkWithoutToken.namesHost = true :=
    Request.namesHost_of_header? (by simp [unlinkWithoutToken])
  have missing : bearerToken? unlinkWithoutToken.headers = none :=
    bearerToken?_of_header?_eq_none (by simp [unlinkWithoutToken])
  have named : requestId unlinkWithoutToken.headers = "7" := by simp [requestId, unlinkWithoutToken]
  have listed := @keys_open_to_holders_of_tokens _ ⟨_, []⟩ _ Store.reachable_linkedOnce (calm _)
    (calm _) namesHost_listWithToken rfl (Or.inl rfl)
  have refused := @keys_open_to_holders_of_tokens _ ⟨_, []⟩ _ Store.reachable_linkedOnce (calm _)
    (calm _) unlinkHost rfl (Or.inr rfl)
  refine ⟨Store.reachable_linkedOnce, calm,
    ⟨namesHost_listWithToken, rfl, rfl⟩, ?_, ⟨unlinkHost, rfl, rfl⟩, ?_⟩
  · exact (listed.1 ⟨1⟩).mpr ⟨"t", presents_listWithToken, keeps_linkedOnce⟩
  · rw [← named]
    refine refused.2.2.2 fun token user presented => ?_
    have brought := (presents_iff.mp presented).1
    rw [missing] at brought
    cases brought

/-- A request for what is no host is not answered that it is unauthorized, although it presents
nothing. -/
theorem request_for_no_host_is_not_unauthorized :
    Store.empty.Reachable ∧
      (∀ token, ¬Presents ⟨"GET", "/keys".toList, [("Host", "a b")], []⟩ token) ∧
      (Session.run Scene.calm ⟨Store.empty, []⟩
          (handle ⟨"GET", "/keys".toList, [("Host", "a b")], []⟩)).1 = .ok Response.badRequest ∧
      Response.badRequest.status ≠ (Response.unauthorized "").status := by
  have missing : bearerToken? [("Host", "a b")] = none :=
    bearerToken?_of_header?_eq_none (by simp)
  have host : Request.namesHost ⟨"GET", "/keys".toList, [("Host", "a b")], []⟩ = false :=
    Request.not_namesHost_of_header? (by simp)
  refine ⟨.empty, ?_, ?_, by decide⟩
  · intro token presents
    have brought := (presents_iff.mp presents).1
    rw [missing] at brought
    cases brought
  · rw [run_handle_of_not_namesHost host (by decide)]

end TwoRequests

end Http
end AddressBook
