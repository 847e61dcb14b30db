import AddressBook.Proofs.Http.Audit

namespace AddressBook

namespace Http

/-- The places at which a failure can stop a request to unlink. -/
def unlinkingPoints : List FaultPoint := .authentication :: .keyDelete :: Keys.deletionPoints

/-- Whether a request asks to unlink an account, in whatever spelling of its address, from a user to
whom the token belongs that it presents. -/
def Targets (s : Store) (request : Request) (user : User) (account : Bytes) : Prop :=
  ∃ token text, Drops request token text ∧ s.Keeps token user ∧
    Address.decode (Text.trimString text) = .ok account

end Http

/-- Whether nothing is planned to fail while a request to unlink is served. -/
def Scene.LetsUnlink (scene : Scene) : Prop :=
  ∀ fault ∈ scene.fault, fault.point ∉ Http.unlinkingPoints

namespace Http

theorem letsUnlink_iff {scene : Scene} :
    scene.LetsUnlink ↔ scene.IsCalmAt .authentication ∧ scene.IsCalmAt .keyDelete ∧
      Keys.Undisturbed scene := by
  rw [Keys.undisturbed_iff, Scene.LetsUnlink, Scene.IsCalmAt, Scene.IsCalmAt, ← forall₂_and,
    ← forall₂_and]
  simp only [unlinkingPoints, List.mem_cons, not_or]

/-- A request unlinks an account if and only if it asks for it and nothing fails. -/
theorem unlinks_iff {scene : Scene} {s : Store} (sound : s.Sound) {request : Request} {user : User}
    {account : Bytes} :
    Unlinks scene s request user account ↔ scene.LetsUnlink ∧ Targets s request user account := by
  constructor
  · intro unlinks
    have lookup := unlinks.sends.lookup
    have statement := unlinks.sends.statement
    obtain ⟨token, presents, keeps⟩ := (sends_iff sound lookup statement).mp unlinks.sends
    obtain ⟨body, payload, content, read, rfl⟩ := unlinks.asks
    obtain ⟨_, text, given, trimmed, named⟩ := readDelete_eq_ok_iff.mp read
    rw [trimmed] at named
    exact ⟨letsUnlink_iff.mpr ⟨lookup, unlinks.start, unlinks.undisturbed⟩, token, text,
      ⟨unlinks.host, unlinks.path, unlinks.method, presents, body, content, given⟩, keeps, named⟩
  · rintro ⟨lets, token, text, drops, keeps, named⟩
    obtain ⟨lookup, start, undisturbed⟩ := letsUnlink_iff.mp lets
    have sends := (sends_iff sound lookup undisturbed.statement).mpr ⟨token, drops.presents, keeps⟩
    exact ⟨⟨sends, drops.asks named scene.debug, start, undisturbed⟩, drops.host, drops.method,
      drops.path⟩

theorem Unlinks.unique {scene : Scene} {s : Store} {request : Request} {user user' : User}
    {account account' : Bytes} (unlinks : Unlinks scene s request user account)
    (unlinks' : Unlinks scene s request user' account') : user = user' ∧ account = account' := by
  refine ⟨Option.some.inj (unlinks.sends.sender?.symm.trans unlinks'.sends.sender?), ?_⟩
  obtain ⟨body, payload, content, read, rfl⟩ := unlinks.asks
  obtain ⟨body', payload', content', read', rfl⟩ := unlinks'.asks
  cases content.symm.trans content'
  cases read.symm.trans read'
  rfl

/-- What a request unlinks depends on the tables only as far as they say who holds which token. -/
theorem Unlinks.of_owners {scene : Scene} {s t : Store} {request : Request} {user : User}
    {account : Bytes} (unlinks : Unlinks scene s request user account)
    (owners : ∀ hash, t.userOfHash? hash = s.userOfHash? hash) :
    Unlinks scene t request user account := by
  obtain ⟨token, brought, nonempty, known⟩ := unlinks.sends.token
  exact { unlinks with
    sends := { unlinks.sends with
      token := ⟨token, brought, nonempty, (owners _).trans known⟩ } }

theorem unlinks_congr {scene : Scene} {s t : Store} {request : Request} {user : User}
    {account : Bytes} (owners : ∀ hash, t.userOfHash? hash = s.userOfHash? hash) :
    Unlinks scene t request user account ↔ Unlinks scene s request user account :=
  ⟨fun unlinks => unlinks.of_owners fun hash => (owners hash).symm,
    fun unlinks => unlinks.of_owners owners⟩

/-- Tokens do not change hands by requests. -/
theorem userOfHash?_run_handle (scene : Scene) (world : World) (request : Request) (hash : String) :
    (Session.run scene world (handle request)).2.store.userOfHash? hash =
      world.store.userOfHash? hash := by
  rcases store_run_handle_cases request scene world with ⟨user, address, _, left⟩ | same
  · rw [left, Store.unlink_eq]
    rfl
  · rw [same]

/-- Whether one of some visits unlinks the address of a row from its user. -/
def IsUnlinked (s : Store) (visits : List Visit) (row : PublicKey) : Prop :=
  ∃ visit ∈ visits, Unlinks visit.scene s visit.request ⟨row.user⟩ row.address

theorem isUnlinked_cons {s : Store} {visit : Visit} {visits : List Visit} {row : PublicKey} :
    IsUnlinked s (visit :: visits) row ↔
      Unlinks visit.scene s visit.request ⟨row.user⟩ row.address ∨ IsUnlinked s visits row := by
  simp only [IsUnlinked, List.mem_cons, exists_eq_or_imp]

section Run
variable {s : Store} {world : World}

open Classical in
/-- A visit takes away the rows that it unlinks. -/
theorem store_run_visit (visit : Visit)
    (owners : ∀ hash, world.store.userOfHash? hash = s.userOfHash? hash) :
    (Session.run visit.scene world (handle visit.request)).2.store =
      { world.store with keys := { world.store.keys with
        rows := world.store.keys.rows.filter fun row =>
          ¬Unlinks visit.scene s visit.request ⟨row.user⟩ row.address } } := by
  by_cases unlinked : ∃ user account, Unlinks visit.scene s visit.request user account
  · obtain ⟨user, account, unlinks⟩ := unlinked
    have rows (row : PublicKey) : Unlinks visit.scene s visit.request ⟨row.user⟩ row.address ↔
        row.user = user.id ∧ row.address = account := by
      constructor
      · intro unlinks'
        obtain ⟨rfl, rfl⟩ := unlinks.unique unlinks'
        exact ⟨rfl, rfl⟩
      · rintro ⟨same, rfl⟩
        rw [same]
        exact unlinks
    rw [(unlinks.of_owners owners).store_run_handle, Store.unlink_eq]
    simp only [rows]
  · have nothing (row : PublicKey) :
        ¬Unlinks visit.scene s visit.request ⟨row.user⟩ row.address :=
      fun unlinks => unlinked ⟨_, _, unlinks⟩
    have other (user : User) (account : Bytes) :
        ¬Unlinks visit.scene world.store visit.request user account :=
      fun unlinks => unlinked ⟨user, account, (unlinks_congr owners).mp unlinks⟩
    rw [store_run_handle_of_not_unlinks other]
    simp only [nothing, not_false_eq_true, decide_true, List.filter_true]

open Classical in
/-- Visits take away the rows that one of them unlinks, and nothing else. -/
theorem store_serve (visits : List Visit)
    (owners : ∀ hash, world.store.userOfHash? hash = s.userOfHash? hash) :
    (serve world visits).2.store =
      { world.store with keys := { world.store.keys with
        rows := world.store.keys.rows.filter fun row => ¬IsUnlinked s visits row } } := by
  induction visits generalizing world with
  | nil => simp [serve, IsUnlinked]
  | cons visit rest ih =>
    have step := store_run_visit visit owners
    have still (hash : String) := (userOfHash?_run_handle visit.scene world visit.request hash).trans
      (owners hash)
    rcases run : Session.run visit.scene world (handle visit.request) with ⟨answer, after⟩
    rw [run] at step still
    simp only [serve, run]
    rw [ih still, step]
    simp only [List.filter_filter, isUnlinked_cons, not_or, Bool.decide_and, Bool.and_comm]

/-- Every visit is answered, in the order in which they come. -/
theorem map_fst_serve (visits : List Visit) (world : World) :
    (serve world visits).1.map Prod.fst = visits := by
  induction visits generalizing world with
  | nil => rfl
  | cons visit rest ih => exact congrArg (visit :: ·) (ih _)

/-- A visit that unlinks is answered without a body, whatever came before it. -/
theorem answer_of_mem_serve {visits : List Visit}
    (owners : ∀ hash, world.store.userOfHash? hash = s.userOfHash? hash)
    {entry : Visit × Except Failure Response} (member : entry ∈ (serve world visits).1) {user : User}
    {account : Bytes} (unlinks : Unlinks entry.1.scene s entry.1.request user account) :
    entry.2 = .ok (Response.html 200 "") := by
  induction visits generalizing world with
  | nil => cases member
  | cons visit rest ih =>
    rcases List.mem_cons.mp member with rfl | later
    · exact congrArg Prod.fst (unlinks.of_owners owners).run_handle
    · refine ih (fun hash => ?_) later
      exact (userOfHash?_run_handle visit.scene world visit.request hash).trans (owners hash)

end Run

/-- Whether one of some visits asks to unlink an account from a user, and nothing fails during it. -/
def IsNamed (s : Store) (visits : List Visit) (user : User) (account : Bytes) : Prop :=
  ∃ visit ∈ visits, visit.scene.LetsUnlink ∧ Targets s visit.request user account

theorem isUnlinked_iff {s : Store} (sound : s.Sound) {visits : List Visit} {row : PublicKey} :
    IsUnlinked s visits row ↔ IsNamed s visits ⟨row.user⟩ row.address :=
  exists_congr fun _ => and_congr_right fun _ => unlinks_iff sound

theorem Targets.unique {s : Store} (sound : s.Sound) {request : Request} {user user' : User}
    {account account' : Bytes} (targets : Targets s request user account)
    (targets' : Targets s request user' account') : user = user' ∧ account = account' := by
  have lets : Scene.calm.LetsUnlink := nofun
  exact ((unlinks_iff sound).mpr ⟨lets, targets⟩).unique ((unlinks_iff sound).mpr ⟨lets, targets'⟩)

/-- A request with an address of the account, in any format and with blanks around it. -/
theorem Drops.targets {s : Store} {request : Request} {user : User} {account : Bytes} {format : Int}
    {token before text after : String} (drops : Drops request token (before ++ text ++ after))
    (keeps : s.Keeps token user) (encoded : Address.encode account format = .ok text)
    (blank : ∀ c ∈ before.toList, Text.isBlank c = true)
    (blank' : ∀ c ∈ after.toList, Text.isBlank c = true) : Targets s request user account :=
  ⟨token, _, drops, keeps, Address.decode_trim_of_encode encoded blank blank'⟩

open Classical in
/-- What is left by visits depends on what they name only. -/
theorem store_serve_eq {world : World} (sound : world.store.Sound) (visits : List Visit) :
    (serve world visits).2.store =
      { world.store with keys := { world.store.keys with
        rows := world.store.keys.rows.filter fun row =>
          ¬IsNamed world.store visits ⟨row.user⟩ row.address } } := by
  rw [@store_serve world.store world visits fun _ => rfl]
  simp only [isUnlinked_iff sound]

open Classical in
/-- Two runs of requests that name the same accounts of the same users, however often, in whatever
order and in whatever spelling of the addresses, leave the same tables: the keys that are named are
gone, and nothing else is. Every request that asks for an account and during which nothing fails is
answered with success and without a body; the others count for nothing. -/
theorem unlinkings_may_be_repeated_and_reordered {world : World} (reachable : world.store.Reachable)
    {visits visits' : List Visit}
    (same : ∀ user account,
      IsNamed world.store visits user account ↔ IsNamed world.store visits' user account) :
    (serve world visits).2.store = (serve world visits').2.store ∧
    (serve world visits).2.store =
      { world.store with keys := { world.store.keys with
        rows := world.store.keys.rows.filter fun row =>
          ¬IsNamed world.store visits ⟨row.user⟩ row.address } } ∧
    (∀ run ∈ [visits, visits'], (serve world run).1.map Prod.fst = run ∧
      ∀ entry ∈ (serve world run).1, entry.1.scene.LetsUnlink →
        ∀ user account, Targets world.store entry.1.request user account →
          entry.2 = .ok (Response.html 200 "")) ∧
    ∀ (request : Request) (token : String) (user : User) (account : Bytes) (format : Int)
      (before text after : String), Address.encode account format = .ok text →
      (∀ c ∈ before.toList, Text.isBlank c = true) → (∀ c ∈ after.toList, Text.isBlank c = true) →
      Drops request token (before ++ text ++ after) → world.store.Keeps token user →
      Targets world.store request user account := by
  have sound := reachable.sound
  refine ⟨?_, store_serve_eq sound visits, fun run _ => ⟨map_fst_serve run world, ?_⟩, ?_⟩
  · rw [store_serve_eq sound visits, store_serve_eq sound visits']
    simp only [same]
  · intro entry member lets user account targets
    exact answer_of_mem_serve (fun _ => rfl) member ((unlinks_iff sound).mpr ⟨lets, targets⟩)
  · intro request token user account format before text after encoded blank blank' drops keeps
    exact drops.targets keeps encoded blank blank'

section ZerosAgain

/-- What visits name that all ask for the same account. -/
theorem isNamed_iff_of_forall {s : Store} (sound : s.Sound) {visits : List Visit} {user : User}
    {account : Bytes} (targets : ∀ visit ∈ visits, Targets s visit.request user account)
    (lets : ∃ visit ∈ visits, visit.scene.LetsUnlink) {user' : User} {account' : Bytes} :
    IsNamed s visits user' account' ↔ user = user' ∧ account = account' := by
  constructor
  · rintro ⟨visit, member, _, targets'⟩
    exact (targets visit member).unique sound targets'
  · rintro ⟨rfl, rfl⟩
    obtain ⟨visit, member, lets⟩ := lets
    exact ⟨visit, member, lets, targets visit member⟩

/-- The account of zeros is unlinked by one request, or by three, of which one has a blank in front
of the address, and one is stopped. -/
theorem unlinkings_may_be_repeated_and_reordered_zeros :
    Store.linkedOnce.Reachable ∧
      (serve ⟨Store.linkedOnce, []⟩ [⟨Scene.calm, unlinkZeros []⟩]).2.store =
        (serve ⟨Store.linkedOnce, []⟩ [⟨Scene.calm, unlinkZerosBehind 1⟩,
          ⟨Scene.unrecorded, unlinkZeros []⟩, ⟨Scene.calm, unlinkZeros []⟩]).2.store ∧
      (serve ⟨Store.linkedOnce, []⟩ [⟨Scene.calm, unlinkZeros []⟩]).2.store.keys.rows = [] ∧
      ∀ entry ∈ (serve ⟨Store.linkedOnce, []⟩ [⟨Scene.calm, unlinkZerosBehind 1⟩,
          ⟨Scene.unrecorded, unlinkZeros []⟩, ⟨Scene.calm, unlinkZeros []⟩]).1,
        entry.1.scene.LetsUnlink → entry.2 = .ok (Response.html 200 "") := by
  have sound := Store.reachable_linkedOnce.sound
  have plain : Targets Store.linkedOnce (unlinkZeros []) ⟨1⟩ (List.replicate 32 0) :=
    ⟨"t", zerosText, drops_unlinkZeros_nil, keeps_linkedOnce, trimString_zerosText ▸ decode_zeros⟩
  have behind : Targets Store.linkedOnce (unlinkZerosBehind 1) ⟨1⟩ (List.replicate 32 0) := by
    have drops := @drops_unlinkZerosBehind 1 (by decide +kernel)
    rw [← String.append_empty (s := String.ofList (List.replicate 1 ' ') ++ zerosText)] at drops
    exact drops.targets keeps_linkedOnce encode_zeros (List.all_eq_true.mp (by decide)) nofun
  have named {user : User} {account : Bytes} :=
    @isNamed_iff_of_forall _ sound [⟨Scene.calm, unlinkZeros []⟩] _ _ (by simpa using plain)
      ⟨_, List.mem_cons_self, nofun⟩ user account
  have targets : ∀ visit ∈ [(⟨Scene.calm, unlinkZerosBehind 1⟩ : Visit),
      ⟨Scene.unrecorded, unlinkZeros []⟩, ⟨Scene.calm, unlinkZeros []⟩],
      Targets Store.linkedOnce visit.request ⟨1⟩ (List.replicate 32 0) := by
    simpa using ⟨behind, plain⟩
  have named' {user : User} {account : Bytes} :=
    @isNamed_iff_of_forall _ sound _ _ _ targets ⟨_, List.mem_cons_self, nofun⟩ user account
  obtain ⟨left, rows, answered, _⟩ :=
    @unlinkings_may_be_repeated_and_reordered ⟨Store.linkedOnce, []⟩ Store.reachable_linkedOnce _ _
      fun _ _ => named.trans named'.symm
  refine ⟨Store.reachable_linkedOnce, left, ?_, ?_⟩
  · rw [rows]
    classical
    refine List.filter_eq_nil_iff.mpr fun row member kept => ?_
    rw [List.mem_singleton.mp member] at kept
    exact of_decide_eq_true kept (named.mpr ⟨rfl, rfl⟩)
  · intro entry member lets
    have run := answered _ (List.mem_cons_of_mem _ List.mem_cons_self)
    refine run.2 entry member lets ⟨1⟩ (List.replicate 32 0) (targets entry.1 ?_)
    rw [← run.1]
    exact List.mem_map_of_mem member

/-- Requests of one user that name one account may leave different tables and be answered differently:
one of them may be stopped, be for what is no host, or have more blanks around the address than a
body has room for. -/
theorem stopped_unlinking_is_not_made_up_for :
    Store.linkedOnce.Reachable ∧ Store.linkedOnce.Keeps "t" ⟨1⟩ ∧
      Address.encode (List.replicate 32 0) 42 = .ok zerosText ∧
      Drops (unlinkZeros []) "t" zerosText ∧
      (serve ⟨Store.linkedOnce, []⟩ [⟨Scene.calm, unlinkZeros []⟩]).2.store ≠
        (serve ⟨Store.linkedOnce, []⟩ [⟨Scene.unrecorded, unlinkZeros []⟩]).2.store ∧
      (serve ⟨Store.linkedOnce, []⟩ [⟨Scene.unrecorded, unlinkZeros []⟩]).1 =
        [(⟨Scene.unrecorded, unlinkZeros []⟩, .ok (Response.withoutDetails ""))] ∧
      (Presents (unlinkZeros [("Host", "a b")]) "t" ∧
        namedAccount? (unlinkZeros [("Host", "a b")]).body = some zerosText ∧
        (serve ⟨Store.linkedOnce, []⟩ [⟨Scene.calm, unlinkZeros [("Host", "a b")]⟩]).1 =
          [(⟨Scene.calm, unlinkZeros [("Host", "a b")]⟩, .ok Response.badRequest)]) ∧
      Presents (unlinkZerosBehind 2621440) "t" ∧
      namedAccount? (unlinkZerosBehind 2621440).body =
        some (String.ofList (List.replicate 2621440 ' ') ++ zerosText) ∧
      ∃ response, (serve ⟨Store.linkedOnce, []⟩ [⟨Scene.calm, unlinkZerosBehind 2621440⟩]).1 =
        [(⟨Scene.calm, unlinkZerosBehind 2621440⟩, .ok response)] ∧ response.status = 500 := by
  have sound := Store.reachable_linkedOnce.sound
  have named : Address.decode (Text.trimString zerosText) = .ok (List.replicate 32 0) :=
    trimString_zerosText ▸ decode_zeros
  have done := @Drops.run_handle Scene.calm ⟨Store.linkedOnce, []⟩ ⟨1⟩ "t" _ _ _
    drops_unlinkZeros_nil named rfl sound keeps_linkedOnce
  have stopped := @run_handle_of_planned Scene.unrecorded ⟨Store.linkedOnce, []⟩ _ _ _ _ _ _ _ _ rfl
    (by decide) sound drops_unlinkZeros_nil keeps_linkedOnce named rfl rfl
  have refused : Session.run Scene.calm ⟨Store.linkedOnce, []⟩
      (handle (unlinkZeros [("Host", "a b")])) = (.ok Response.badRequest, ⟨Store.linkedOnce, []⟩) :=
    run_handle_of_not_namesHost not_namesHost_unlinkZeros (by decide) _ _
  obtain ⟨response, failed, status⟩ := status_unlinkZerosBehind (Nat.le_refl Request.maxLength)
  refine ⟨Store.reachable_linkedOnce, keeps_linkedOnce, encode_zeros, drops_unlinkZeros_nil, ?_, ?_,
    ⟨presents_unlinkZeros, namedAccount?_zerosBody, ?_⟩, presents_unlinkZerosBehind _,
    namedAccount?_unlinkZerosBehind _, response, ?_, status⟩
  · rw [serve_singleton, serve_singleton, done, stopped]
    exact fun same => absurd (congrArg (·.keys.rows.length) same) (by decide)
  · rw [serve_singleton, stopped, ← @requestId_of_header? (unlinkZeros []).headers (by simp)]
    rfl
  · rw [serve_singleton, refused]
  · rw [serve_singleton]
    exact congrArg (fun answer => [(_, answer)]) failed

end ZerosAgain

end Http
end AddressBook
