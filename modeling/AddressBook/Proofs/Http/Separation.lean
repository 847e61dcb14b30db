import AddressBook.Proofs.Http.Gate
import AddressBook.Proofs.View

namespace AddressBook

theorem User.eq_of_id_eq {user other : User} (same : user.id = other.id) : user = other := by
  cases user
  cases other
  exact congrArg User.mk same

namespace Store

/-- The tables without the keys of a user. -/
def without (hidden : User) (s : Store) : Store :=
  { s with keys := { s.keys with rows := s.keys.rows.filter fun row => row.user ≠ hidden.id } }

variable {hidden user : User}

theorem keysOf_without (different : user.id ≠ hidden.id) (s : Store) :
    (s.without hidden).keysOf user.id = s.keysOf user.id := by
  unfold keysOf without
  rw [List.filter_filter]
  refine List.filter_congr fun row _ => ?_
  rw [Bool.and_eq_left_iff_imp]
  intro own
  have same : row.user = user.id := Int.ofNat_inj.mp (eq_of_beq own)
  exact decide_eq_true (same ▸ different)

/-- Unlinking an address of the hidden user does not show. -/
theorem without_unlink_self (hidden : User) (address : Bytes) (s : Store) :
    (s.unlink hidden.id address).2.without hidden = s.without hidden := by
  have rows : (s.keys.rows.filter fun row => ¬(row.user = hidden.id ∧ row.address = address)).filter
      (fun row => row.user ≠ hidden.id) = s.keys.rows.filter fun row => row.user ≠ hidden.id := by
    rw [List.filter_filter]
    refine List.filter_congr fun row _ => ?_
    by_cases own : row.user = hidden.id
    · simp [own]
    · simp [own]
  rw [unlink_eq]
  unfold without
  simp only [rows]

theorem without_unlink (hidden user : User) (address : Bytes) (s : Store) :
    (s.unlink user.id address).2.without hidden =
      ((s.without hidden).unlink user.id address).2 := by
  rw [unlink_eq, unlink_eq]
  unfold without
  simp only [List.filter_filter, Bool.and_comm]

/-- As many rows go as there are in the view. -/
theorem unlink_without_fst (different : user.id ≠ hidden.id) (address : Bytes) (s : Store) :
    ((s.without hidden).unlink user.id address).1 = (s.unlink user.id address).1 := by
  unfold unlink Table.remove without
  simp only [List.countP_filter]
  refine List.countP_congr fun row _ => ?_
  rw [Bool.and_eq_true, Bool.and_eq_true, beq_iff_eq, beq_iff_eq, decide_eq_true_iff, Int.ofNat_inj]
  constructor
  · exact fun linked => linked.1
  · exact fun linked => ⟨linked, linked.1 ▸ different⟩

end Store

namespace Http

/-- The user whose token a request presents. -/
def sender? (s : Store) (request : Request) : Option User :=
  match bearerToken? request.headers with
  | none => none
  | some token => if token.isEmpty then none else s.userOfHash? (Tokens.hash token)

theorem sender?_eq_some_iff {s : Store} {request : Request} {user : User} :
    sender? s request = some user ↔
      ∃ token, Presents request token ∧ s.userOfHash? (Tokens.hash token) = some user := by
  unfold sender?
  cases brought : bearerToken? request.headers with
  | none =>
    refine ⟨nofun, fun ⟨token, presents, _⟩ => ?_⟩
    cases brought.symm.trans (presents_iff.mp presents).1
  | some token =>
    simp only
    constructor
    · intro known
      split at known
      next => cases known
      next nonempty =>
        exact ⟨token, presents_iff.mpr ⟨brought, by simpa using nonempty⟩, known⟩
    · rintro ⟨other, presents, known⟩
      obtain ⟨brought', nonempty⟩ := presents_iff.mp presents
      cases brought.symm.trans brought'
      rw [if_neg (by simpa using nonempty), known]

theorem Sends.sender? {scene : Scene} {s : Store} {request : Request} {user : User}
    (sends : Sends scene s request user) : sender? s request = some user := by
  obtain ⟨token, brought, nonempty, known⟩ := sends.token
  exact sender?_eq_some_iff.mpr ⟨token, presents_iff.mpr ⟨brought, nonempty⟩, known⟩

/-- The user that is told is the one whose token the request presents. -/
theorem sender?_of_run_caller {scene : Scene} {world after : World} {request : Request} {user : User}
    (told : Session.run scene world (caller request) = (.ok user, after)) :
    sender? world.store request = some user := by
  by_cases sent : ∃ other, Sends scene world.store request other
  · obtain ⟨other, sends⟩ := sent
    cases (run_caller sends).symm.trans told
    exact sends.sender?
  · obtain ⟨failure, fails⟩ := run_caller_of_nobody (not_exists.mp sent)
    cases fails.symm.trans told

theorem sender?_run_handle (scene : Scene) (world : World) (request other : Request) :
    sender? (Session.run scene world (handle request)).2.store other =
      sender? world.store other := by
  rcases store_run_handle_cases request scene world with ⟨user, address, _, left⟩ | same
  · rw [left, Store.unlink_eq]
    rfl
  · rw [same]

section View
open Session

variable {hidden : User}

/-- A function of the tables that does not look at the keys shows in the view. -/
theorem seesOnly_query_of_keyless {f : Store → α} (keyless : ∀ s, f (s.without hidden) = f s) :
    SeesOnly (Store.without hidden) (query f) := by
  refine seesOnly_query fun s s' alike => ?_
  rw [← keyless s, alike, keyless s']

/-- Whether a view shows to whom the token with a hash belongs. -/
def ShowsOwners (view : Store → γ) : Prop :=
  ∀ s s', view s = view s' → ∀ hash, s.userOfHash? hash = s'.userOfHash? hash

theorem showsOwners_without : ShowsOwners (Store.without hidden) := by
  intro s s' alike hash
  have keyless (s : Store) : (s.without hidden).userOfHash? hash = s.userOfHash? hash := rfl
  rw [← keyless s, alike, keyless s']

section Caller
variable {view : Store → γ} (owners : ShowsOwners view)
include owners

theorem seesOnly_authenticate (headers : List (String × String)) :
    SeesOnly view (authenticate headers) := by
  unfold authenticate
  cases bearerToken? headers with
  | none => exact seesOnly_fail _
  | some token =>
    refine (seesOnly_passes _).bind fun _ => SeesOnly.bind ?_ fun owner => ?_
    · unfold Tokens.owner?
      split
      · exact seesOnly_pure none
      · exact seesOnly_query fun s s' alike => owners s s' alike _
    · cases owner with
      | none => exact seesOnly_fail _
      | some user => exact seesOnly_pure user

theorem seesOnly_caller (request : Request) : SeesOnly view (caller request) := by
  refine (seesOnly_authenticate owners _).orElse fun failure => seesOnly_read.bind fun scene => ?_
  split
  · exact seesOnly_fail _
  · exact seesOnly_fail _

end Caller

theorem seesOnly_delete {user : User} (different : user.id ≠ hidden.id) (address : Bytes) :
    SeesOnly (Store.without hidden) (Keys.delete user.id address) := by
  refine SeesOnly.atomically (SeesOnly.bind ?_ fun _ => ?_)
  refine seesOnly_execute fun s s' alike => ⟨?_, ?_⟩
  · rw [← Store.unlink_without_fst different, alike, Store.unlink_without_fst different]
  · rw [Store.without_unlink, alike, Store.without_unlink]
  · refine (seesOnly_passes _).bind fun _ => (seesOnly_passes _).bind fun _ => ?_
    exact (seesOnly_log _).bind fun _ => seesOnly_pure _

/-- What is done with the keys of one user does not depend on those of another. -/
theorem seesOnly_serveKeys {user : User} (different : user.id ≠ hidden.id) (request : Request) :
    SeesOnly (Store.without hidden) (serveKeys request user) := by
  unfold serveKeys
  split
  · refine (seesOnly_passes _).bind fun _ => SeesOnly.bind ?_ fun keys => ?_
    · exact seesOnly_query_of_keyless (Store.keysOf_without different)
    · refine seesOnly_read.bind fun scene => SeesOnly.bind (seesOnly_mapM (fun key => ?_) keys) ?_
      · exact (seesOnly_passes _).bind fun _ => seesOnly_ofExcept _
      · exact fun items => seesOnly_ofExcept _
  · refine (seesOnly_ofExcept _).bind fun body => seesOnly_read.bind fun scene => ?_
    refine (seesOnly_ofExcept _).bind fun payload => (seesOnly_passes _).bind fun _ => ?_
    exact (seesOnly_delete different _).bind fun _ => seesOnly_pure _

theorem seesOnly_listEvents (account : String) :
    SeesOnly (Store.without hidden) (listEvents account) := by
  refine (seesOnly_ofExcept _).bind fun address => (seesOnly_passes _).bind fun _ => ?_
  refine SeesOnly.bind ?_ fun entries => SeesOnly.bind (seesOnly_mapM (fun entry => ?_) entries) ?_
  · exact (seesOnly_query_of_keyless fun _ => rfl).bind fun _ => seesOnly_ofExcept _
  · exact (seesOnly_passes _).bind fun _ => seesOnly_ofExcept _
  · exact fun items => seesOnly_ofExcept _

theorem seesOnly_tellHealth (requestId : String) :
    SeesOnly (Store.without hidden) (tellHealth requestId) := by
  refine SeesOnly.bind (SeesOnly.orElse ?_ fun failure => ?_) fun _ => seesOnly_ofExcept _
  · exact (seesOnly_passes _).bind fun _ => seesOnly_query_of_keyless fun _ => rfl
  · unfold databaseUnavailable
    split
    · exact (seesOnly_log _).bind fun _ => seesOnly_fail _
    · exact seesOnly_fail _

/-- What a request of somebody else is answered, and what it does, can be seen without the keys of
the hidden user. -/
theorem agrees_run_route {scene : Scene} {world other : World} {request : Request} (route : Route)
    (stranger : sender? world.store request ≠ some hidden)
    (alike : world.store.without hidden = other.store.without hidden) :
    Agrees (Store.without hidden) scene world other (route.run request) := by
  cases route with
  | contractEvents account => exact seesOnly_listEvents account scene world other alike
  | health => exact seesOnly_tellHealth _ scene world other alike
  | keys =>
    rw [run_keys_eq]
    have agrees := seesOnly_caller showsOwners_without request scene world other alike
    refine agrees.bind fun user after after' told _ left => ?_
    have different : user.id ≠ hidden.id := by
      intro same
      exact stranger ((sender?_of_run_caller told).trans (congrArg some (User.eq_of_id_eq same)))
    exact seesOnly_serveKeys different request scene after after' left

/-- What a request is answered, and what it does, can be seen in a view if this is so of what its
resource does. -/
theorem agrees_handle_of_route {view : Store → γ} {scene : Scene} {world other : World}
    {request : Request} (alike : view world.store = view other.store)
    (routed : ∀ route, route? request.path = some route → request.method ∈ route.methods →
      Agrees view scene world other (route.run request)) :
    Agrees view scene world other (handle request) := by
  have cut (response : Response) : SeesOnly view
      (if request.method = "HEAD" || Response.isBodiless response.status then
        (return response.withoutBody : Session Response) else return response) := by
    split
    · exact seesOnly_pure _
    · exact seesOnly_pure _
  refine Agrees.bind ?_ fun response after after' _ _ left => cut response scene after after' left
  unfold respond
  split
  · exact seesOnly_pure _ scene world other alike
  split
  · exact seesOnly_pure _ scene world other alike
  next route reached =>
    split
    next known =>
      refine (routed route reached (List.contains_iff_mem.mp known)).orElse fun failure => ?_
      refine seesOnly_read.bind fun scene => (seesOnly_forM seesOnly_log _).bind fun _ => ?_
      split
      · exact seesOnly_pure _
      · exact seesOnly_pure _
    next => exact seesOnly_pure _ scene world other alike

theorem agrees_handle {scene : Scene} {world other : World} {request : Request}
    (stranger : sender? world.store request ≠ some hidden)
    (alike : world.store.without hidden = other.store.without hidden) :
    Agrees (Store.without hidden) scene world other (handle request) :=
  agrees_handle_of_route alike fun route _ _ => agrees_run_route route stranger alike

/-- A request of the hidden user does not show. -/
theorem without_run_handle_of_sender {scene : Scene} {world : World} {request : Request}
    (own : sender? world.store request = some hidden) :
    (run scene world (handle request)).2.store.without hidden = world.store.without hidden := by
  rcases store_run_handle_cases request scene world with ⟨user, address, unlinks, left⟩ | same
  · cases unlinks.sends.sender?.symm.trans own
    rw [left, Store.without_unlink_self]
  · rw [same]

end View

/-- A request and what it is served under. -/
structure Visit where
  scene : Scene
  request : Request

/-- Serves requests one after the other; gives what each of them was answered. -/
def serve (world : World) : List Visit → List (Visit × Except Failure Response) × World
  | [] => ([], world)
  | visit :: rest =>
    let (answer, after) := Session.run visit.scene world (handle visit.request)
    let (answers, last) := serve after rest
    ((visit, answer) :: answers, last)

theorem serve_singleton (world : World) (visit : Visit) :
    serve world [visit] =
      ([(visit, (Session.run visit.scene world (handle visit.request)).1)],
        (Session.run visit.scene world (handle visit.request)).2) := rfl

/-- The visits that are not those of a user. -/
def isOthers (s : Store) (hidden : User) (visit : Visit) : Bool :=
  sender? s visit.request ≠ some hidden

/-- Without the visits of the hidden user all others are answered as before, and what is left looks
the same without the keys of that user. -/
theorem serve_filter_isOthers {s : Store} {hidden : User} (visits : List Visit) {world other : World}
    (known : ∀ request, sender? world.store request = sender? s request)
    (alike : world.store.without hidden = other.store.without hidden) :
    (serve world visits).1.filter (isOthers s hidden ·.1) =
        (serve other (visits.filter (isOthers s hidden))).1 ∧
      (serve world visits).2.store.without hidden =
        (serve other (visits.filter (isOthers s hidden))).2.store.without hidden := by
  induction visits generalizing world other with
  | nil => exact ⟨rfl, alike⟩
  | cons visit rest ih =>
    rcases here : Session.run visit.scene world (handle visit.request) with ⟨answer, after⟩
    have still : ∀ request, sender? after.store request = sender? s request := by
      intro request
      have kept := sender?_run_handle visit.scene world visit.request request
      rw [here] at kept
      exact kept.trans (known request)
    by_cases own : sender? s visit.request = some hidden
    · have dropped : isOthers s hidden visit = false := decide_eq_false (not_not_intro own)
      have unseen := @without_run_handle_of_sender _ visit.scene _ _ ((known _).trans own)
      rw [here] at unseen
      have tail := ih still (unseen.trans alike)
      simp only [serve, here, List.filter_cons, dropped]
      exact tail
    · have kept : isOthers s hidden visit = true := decide_eq_true own
      have stranger : sender? world.store visit.request ≠ some hidden := by rwa [known]
      have agrees := @agrees_handle _ visit.scene _ _ _ stranger alike
      rcases there : Session.run visit.scene other (handle visit.request) with ⟨answer', after'⟩
      have outcome := agrees.outcome
      have left := agrees.left
      rw [here, there] at outcome left
      have tail := ih still left
      simp only [serve, here, there, List.filter_cons, kept, if_true]
      exact ⟨congrArg₂ List.cons (congrArg _ outcome) tail.1, tail.2⟩

/-- The requests of one user can be left out of any sequence of requests: all others are answered as
before, and the other users have the same keys after it. -/
theorem users_do_not_notice_each_other {world : World} (reachable : world.store.Reachable)
    {a b : User} (different : a ≠ b) (visits : List Visit) :
    (∀ request user, sender? world.store request = some user ↔
      ∃ token, Presents request token ∧ world.store.Keeps token user) ∧
    (serve world visits).1.filter (isOthers world.store b ·.1) =
      (serve world (visits.filter (isOthers world.store b))).1 ∧
    (serve world visits).2.store.keysOf a.id =
      (serve world (visits.filter (isOthers world.store b))).2.store.keysOf a.id := by
  have ids : a.id ≠ b.id := fun same => different (User.eq_of_id_eq same)
  have alike : world.store.without b = world.store.without b := rfl
  obtain ⟨answers, left⟩ := serve_filter_isOthers visits (fun _ => rfl) alike
  refine ⟨fun request user => ?_, answers, ?_⟩
  · rw [sender?_eq_some_iff]
    exact exists_congr fun token =>
      and_congr_right fun _ => reachable.sound.userOfHash?_hash_eq_some_iff
  · rw [← Store.keysOf_without ids, left, Store.keysOf_without ids]

end Http

section SharedAccount

/-- Two users, who have the tokens `t` and `u` and have both linked the account of zeros. -/
def Store.linkedTwice : Store :=
  { Store.empty with
    users := ⟨[⟨1⟩, ⟨2⟩], 3⟩
    tokens := ⟨[⟨1, 1, Tokens.hash "t"⟩, ⟨2, 2, Tokens.hash "u"⟩], 3⟩
    keys := ⟨[⟨1, 1, List.replicate 32 0⟩, ⟨2, 2, List.replicate 32 0⟩], 3⟩ }

theorem Store.reachable_linkedTwice : Store.linkedTwice.Reachable := by
  have different : (Tokens.hash "t" == Tokens.hash "u") = false := by decide +kernel
  have user : Reachable { linkedOnce with users := linkedTwice.users } :=
    @Reachable.after _ _ ⟨linkedOnce, []⟩ reachable_linkedOnce .addUser Scene.calm
  have token : Reachable { linkedTwice with keys := linkedOnce.keys } := by
    refine @Reachable.insert _ _ _ 2 user (.addToken (some 2) "u") ?_
    have new : checkNew "tokens.token_hash" linkedOnce.tokens.rows
        (fun row => row.hash == Tokens.hash "u") = .ok () := by
      simp [checkNew, linkedOnce, different]
    simp only [insertToken, require, bind, Except.bind, checkFits]
    rw [new]
    rfl
  exact @Reachable.insert _ _ _ 2 token (.addKey (some 2) (some (List.replicate 32 0))) rfl

namespace Http

/-- The request of the second user to unlink the account. -/
def unlinkAsSecond : Request :=
  ⟨"DELETE", "/keys".toList, [("Authorization", "Bearer u")], zerosBody⟩

theorem presents_unlinkAsSecond : Presents unlinkAsSecond "u" := by
  have given : header? "Authorization" unlinkAsSecond.headers = some "Bearer u" := by
    simp [unlinkAsSecond]
  refine presents_iff.mpr ⟨?_, by decide⟩
  rw [bearerToken?, given]
  decide +kernel

theorem users_do_not_notice_each_other_linkedTwice :
    Store.linkedTwice.Reachable ∧ (⟨1⟩ : User) ≠ ⟨2⟩ ∧
      (serve ⟨Store.linkedTwice, []⟩
          [⟨Scene.calm, unlinkAsSecond⟩, ⟨Scene.calm, listWithToken⟩]).1.filter
          (isOthers Store.linkedTwice ⟨2⟩ ·.1) =
        [(⟨Scene.calm, listWithToken⟩,
          (Session.run Scene.calm ⟨Store.linkedTwice, []⟩ (handle listWithToken)).1)] ∧
      (serve ⟨Store.linkedTwice, []⟩
          [⟨Scene.calm, unlinkAsSecond⟩, ⟨Scene.calm, listWithToken⟩]).2.store.keysOf 1 =
        (Session.run Scene.calm ⟨Store.linkedTwice, []⟩ (handle listWithToken)).2.store.keysOf 1 := by
  have sound := Store.reachable_linkedTwice.sound
  have own : sender? Store.linkedTwice unlinkAsSecond = some ⟨2⟩ := by
    have keeps : Store.linkedTwice.Keeps "u" ⟨2⟩ :=
      ⟨by decide, ⟨2, 2, Tokens.hash "u"⟩, by simp [Store.linkedTwice], rfl, rfl⟩
    exact sender?_eq_some_iff.mpr ⟨"u", presents_unlinkAsSecond,
      sound.userOfHash?_hash_eq_some_iff.mpr keeps⟩
  have other : sender? Store.linkedTwice listWithToken = some ⟨1⟩ := by
    have keeps : Store.linkedTwice.Keeps "t" ⟨1⟩ :=
      ⟨by decide, ⟨1, 1, Tokens.hash "t"⟩, by simp [Store.linkedTwice], rfl, rfl⟩
    exact sender?_eq_some_iff.mpr ⟨"t", presents_listWithToken,
      sound.userOfHash?_hash_eq_some_iff.mpr keeps⟩
  have remaining : [⟨Scene.calm, unlinkAsSecond⟩, ⟨Scene.calm, listWithToken⟩].filter
      (isOthers Store.linkedTwice ⟨2⟩) = [⟨Scene.calm, listWithToken⟩] := by
    simp [isOthers, own, other]
  have different : (⟨1⟩ : User) ≠ ⟨2⟩ := by decide
  obtain ⟨_, answers, left⟩ := @users_do_not_notice_each_other ⟨Store.linkedTwice, []⟩
    Store.reachable_linkedTwice _ _ different
    [⟨Scene.calm, unlinkAsSecond⟩, ⟨Scene.calm, listWithToken⟩]
  simp only [remaining, serve_singleton] at answers left
  exact ⟨Store.reachable_linkedTwice, different, answers, left⟩

end Http
end SharedAccount
end AddressBook
