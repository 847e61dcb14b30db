import AddressBook.Proofs.Address.Canonical
import AddressBook.Proofs.Http.Body
import AddressBook.Proofs.Http.Gate
import Mathlib.Data.List.InsertIdx
import Mathlib.Data.List.Nodup

namespace AddressBook

namespace Store
variable {s : Store}

theorem mem_keysOf {user : User} {key : PublicKey} :
    key ∈ s.keysOf user.id ↔ key ∈ s.keys.rows ∧ key.user = user.id := by
  rw [keysOf, List.mem_filter, beq_iff_eq, Int.ofNat_inj]

namespace Sound

/-- Keys are listed in the order in which they were linked. -/
theorem ascending_keysOf (sound : Sound s) (user : User) :
    (s.keysOf user.id).Pairwise fun a b => a.id < b.id :=
  List.Pairwise.filter _ sound.keys.ascending

/-- A user has linked an address once at most. -/
theorem eq_of_address_eq (sound : Sound s) {user : User} {key other : PublicKey}
    (member : key ∈ s.keysOf user.id) (member' : other ∈ s.keysOf user.id)
    (same : key.address = other.address) : key = other := by
  obtain ⟨there, owner⟩ := mem_keysOf.mp member
  obtain ⟨there', owner'⟩ := mem_keysOf.mp member'
  exact sound.keyOfUser.eq_of_key_eq there there' (Prod.ext (owner.trans owner'.symm) same)

theorem nodup_keysOf (sound : Sound s) (user : User) : (s.keysOf user.id).Nodup :=
  (sound.ascending_keysOf user).imp fun below => by
    rintro rfl
    exact Nat.lt_irrefl _ below

end Sound

theorem keysOf_unlink (s : Store) (user : User) (address : Bytes) :
    (s.unlink user.id address).2.keysOf user.id =
      (s.keysOf user.id).filter fun key => key.address ≠ address := by
  rw [unlink_eq, keysOf, keysOf, List.filter_filter, List.filter_filter]
  refine List.filter_congr fun key _ => ?_
  have owner : ((key.user : Int) == user.id) = decide (key.user = user.id) := by
    rw [Bool.eq_iff_iff, beq_iff_eq, decide_eq_true_iff, Int.ofNat_inj]
  rw [owner]
  by_cases own : key.user = user.id
  · simp [own]
  · simp [own]

/-- Unlinking the address of a key takes the key out of the list. -/
theorem Sound.keysOf_unlink_getElem (sound : Sound s) {user : User} {i : Nat}
    (inside : i < (s.keysOf user.id).length) :
    (s.unlink user.id (s.keysOf user.id)[i].address).2.keysOf user.id =
      (s.keysOf user.id).eraseIdx i := by
  have nodup := sound.nodup_keysOf user
  rw [keysOf_unlink, ← nodup.erase_getElem i inside, nodup.erase_eq_filter]
  refine List.filter_congr fun key member => ?_
  have same : key.address = (s.keysOf user.id)[i].address ↔ key = (s.keysOf user.id)[i] :=
    ⟨sound.eq_of_address_eq member (List.getElem_mem inside), congrArg PublicKey.address⟩
  rw [Bool.eq_iff_iff, decide_eq_true_iff, bne_iff_ne, Ne, Ne, same]

end Store

namespace Address

/-- The address that an account of full length has in a supported format. -/
def written (format : Int) (account : Bytes) : String :=
  String.ofList (Base58.encode (withChecksum (tagOf format.toNat ++ account)))

variable {account : Bytes} {format : Int} {text : String}

theorem encode_of_supports (whole : account.length = accountLength) (supported : Supports format) :
    encode account format = .ok (written format account) :=
  encode_eq_ok_iff.mpr ⟨whole, supported, rfl⟩

theorem decode_trim_of_encode {before after : String} (h : encode account format = .ok text)
    (blank : ∀ c ∈ before.toList, Text.isBlank c = true)
    (blank' : ∀ c ∈ after.toList, Text.isBlank c = true) :
    decode (Text.trimString (before ++ text ++ after)) = .ok account := by
  have solid : ∀ c ∈ text.toList, Text.isBlank c = false := by
    obtain ⟨_, _, rfl⟩ := encode_eq_ok_iff.mp h
    intro c member
    rw [String.toList_ofList] at member
    exact not_isBlank_of_mem_alphabet (mem_alphabet_of_mem_encode member)
  have trimmed : Text.trimString (before ++ text ++ after) = text := by
    rw [Text.trimString, String.toList_append, String.toList_append,
      Text.trim_append_of_blank _ blank blank', Text.trim_eq_self solid, String.ofList_toList]
  refine decode_eq_ok_iff.mpr ⟨tagOf format.toNat, format.toNat, ?_⟩
  rw [trimmed, Text.trimEnd_eq_self solid]
  exact spells_of_encode h

theorem decode_of_encode (h : encode account format = .ok text) : decode text = .ok account := by
  have blank : ∀ c ∈ ("" : String).toList, Text.isBlank c = true := by simp
  have spells := spells_of_encode_of_blank h blank
  rw [String.append_empty] at spells
  exact decode_eq_ok_iff.mpr ⟨_, _, spells⟩

end Address

namespace Http

/-- Whether a request asks for the keys of the user who has a token. -/
structure Lists (request : Request) (token : String) : Prop where
  host : request.namesHost = true
  path : request.path = "/keys".toList
  method : request.method = "GET"
  presents : Presents request token

/-- Whether a request asks to unlink the account that a text names from the user who has a token. -/
structure Drops (request : Request) (token text : String) : Prop where
  host : request.namesHost = true
  path : request.path = "/keys".toList
  method : request.method = "DELETE"
  presents : Presents request token
  body : ∃ body, request.content = .ok body ∧ namedAccount? body = some text

variable {scene : Scene} {world : World} {user : User} {token : String}

theorem sends_of_presents {request : Request} (unplanned : scene.fault = none)
    (sound : world.store.Sound) (presents : Presents request token)
    (keeps : world.store.Keeps token user) : Sends scene world.store request user :=
  have calm := Scene.isCalmAt_of_fault_eq_none unplanned
  (sends_iff sound (calm _) (calm _)).mpr ⟨token, presents, keeps⟩

theorem Lists.run_keys {request : Request} (lists : Lists request token)
    (unplanned : scene.fault = none) (sound : world.store.Sound)
    (keeps : world.store.Keeps token user) :
    Session.run scene world (Route.keys.run request) =
      (((world.store.keysOf user.id).mapM fun key =>
          (Keys.item scene.format key.id key.address).mapError Failure.ofAddressError).map
        Response.list, world) := by
  have calm := Scene.isCalmAt_of_fault_eq_none unplanned
  have sends := sends_of_presents unplanned sound lists.presents keeps
  have each : ∀ key ∈ world.store.keysOf user.id, Session.run scene world (do
      Session.passes .keyItem
      Session.ofExcept ((Keys.item scene.format key.id key.address).mapError
        Failure.ofAddressError)) =
      ((Keys.item scene.format key.id key.address).mapError Failure.ofAddressError, world) := by
    intro key _
    rw [Session.run_bind_ok (Session.run_passes_of_isCalmAt (calm _) world), Session.run_ofExcept]
  rw [run_keys_eq, Session.run_bind_ok (run_caller sends), serveKeys, if_pos lists.method,
    Session.run_bind_ok (Session.run_passes_of_isCalmAt (calm _) world), Keys.list,
    Session.run_bind_ok (Session.run_query_of_isCalmAt (calm _) world _),
    Session.run_bind_ok (Session.run_read scene world), Session.run_bind, Session.run_mapM each]
  cases (world.store.keysOf user.id).mapM fun key =>
    (Keys.item scene.format key.id key.address).mapError Failure.ofAddressError with
  | error failure => rfl
  | ok items => rfl

theorem Lists.run_handle {request : Request} (lists : Lists request token)
    (unplanned : scene.fault = none) (supported : Address.Supports scene.format)
    (sound : world.store.Sound) (keeps : world.store.Keeps token user) {keys : List PublicKey}
    (linked : world.store.keysOf user.id = keys)
    (whole : ∀ key ∈ keys, key.address.length = Address.accountLength) :
    Session.run scene world (handle request) =
      (.ok (Response.list (keys.map fun key =>
        Keys.shown (.int key.id) (Address.written scene.format key.address))), world) := by
  have known : request.method ∈ Route.keys.methods := by simp [lists.method, Route.methods]
  have listed := lists.run_keys unplanned sound keeps
  rw [linked, mapM_of_ok fun key member => ?_] at listed
  · rw [handle_eq_answering lists.host (lists.path ▸ route?_keys) known]
    exact run_answering_of_ok listed (by simp [lists.method]) rfl
  · rw [Keys.item, Address.encode_of_supports (whole key member) supported]
    rfl

/-- A request that names an account asks for it, whatever it is served under. -/
theorem Drops.asks {request : Request} {text : String} {account : Bytes}
    (drops : Drops request token text) (named : Address.decode (Text.trimString text) = .ok account)
    (debug : Bool) : Asks debug request account := by
  obtain ⟨body, content, given⟩ := drops.body
  have nonempty : body ≠ [] := by
    rintro rfl
    have unnamed : namedAccount? [] = none := by decide +kernel
    cases unnamed.symm.trans given
  have read : readDelete debug body = .ok ⟨Text.trimString text, account⟩ :=
    readDelete_eq_ok_iff.mpr ⟨nonempty, text, given, rfl, named⟩
  exact ⟨body, _, content, read, rfl⟩

theorem Drops.deletes {request : Request} {text : String} {account : Bytes}
    (drops : Drops request token text) (named : Address.decode (Text.trimString text) = .ok account)
    (unplanned : scene.fault = none) (sound : world.store.Sound)
    (keeps : world.store.Keeps token user) : Deletes scene world.store request user account :=
  have calm := Scene.isCalmAt_of_fault_eq_none unplanned
  { sends := sends_of_presents unplanned sound drops.presents keeps
    asks := drops.asks named scene.debug
    start := calm _
    undisturbed := Keys.undisturbed_of_fault_eq_none unplanned }

/-- A request to unlink is answered without a body, and the row is gone. -/
theorem Drops.run_handle {request : Request} {text : String} {account : Bytes}
    (drops : Drops request token text) (named : Address.decode (Text.trimString text) = .ok account)
    (unplanned : scene.fault = none) (sound : world.store.Sound)
    (keeps : world.store.Keeps token user) :
    Session.run scene world (handle request) =
      (.ok (Response.html 200 ""),
        ⟨(world.store.unlink user.id account).2,
          world.log ++ [Keys.deleteRecord user.id (world.store.unlink user.id account).1]⟩) :=
  have deletes := drops.deletes named unplanned sound keeps
  Unlinks.run_handle ⟨deletes, drops.host, drops.method, drops.path⟩

/-- The keys of a user are listed one by one, oldest first, each with an address of its own that
names its account. When a request to unlink gives an address of one of these accounts, in any format
and with blank characters around it, that key is not listed any more, and all others are as they
were. -/
theorem listing_and_unlinking_agree (unplanned : scene.fault = none)
    (reachable : world.store.Reachable) (supported : Address.Supports scene.format)
    (keeps : world.store.Keeps token user)
    (whole : ∀ key ∈ world.store.keysOf user.id, key.address.length = Address.accountLength) :
    ∃ address : PublicKey → String,
      let keys := world.store.keysOf user.id
      let items := keys.map fun key => Keys.shown (.int key.id) (address key)
      (∀ key, key ∈ keys ↔ key ∈ world.store.keys.rows ∧ key.user = user.id) ∧
      keys.Pairwise (fun a b => a.id < b.id) ∧
      (∀ key ∈ keys, Address.encode key.address scene.format = .ok (address key) ∧
        Address.decode (address key) = .ok key.address) ∧
      (keys.map address).Nodup ∧
      (∀ request, Lists request token →
        Session.run scene world (handle request) = (.ok (Response.list items), world)) ∧
      ∀ i (inside : i < keys.length) (format : Int) (before text after : String),
        Address.encode keys[i].address format = .ok text →
        (∀ c ∈ before.toList, Text.isBlank c = true) →
        (∀ c ∈ after.toList, Text.isBlank c = true) →
        ∀ request, Drops request token (before ++ text ++ after) →
          ∃ left, Session.run scene world (handle request) = (.ok (Response.html 200 ""), left) ∧
            ∀ request', Lists request' token →
              Session.run scene left (handle request') =
                (.ok (Response.list (items.eraseIdx i)), left) := by
  have sound := reachable.sound
  refine ⟨fun key => Address.written scene.format key.address, fun _ => Store.mem_keysOf,
    sound.ascending_keysOf user, ?_, ?_, ?_, ?_⟩
  · intro key member
    have encoded := Address.encode_of_supports (whole key member) supported
    exact ⟨encoded, Address.decode_of_encode encoded⟩
  · refine List.Nodup.map_on ?_ (sound.nodup_keysOf user)
    intro key member other member' same
    have encoded := Address.encode_of_supports (whole key member) supported
    have encoded' := Address.encode_of_supports (whole other member') supported
    rw [← same] at encoded'
    exact sound.eq_of_address_eq member member' (Address.encode_injective encoded' encoded).1
  · intro request lists
    exact lists.run_handle unplanned supported sound keeps rfl whole
  · intro i inside format before text after encoded blank blank' request drops
    have named := Address.decode_trim_of_encode encoded blank blank'
    refine ⟨_, drops.run_handle named unplanned sound keeps, ?_⟩
    intro request' lists
    have remaining := sound.keysOf_unlink_getElem inside
    rw [List.eraseIdx_map]
    refine lists.run_handle unplanned supported ?_ ?_ remaining ?_
    · exact (Store.Change.unlink user.id _).sound sound
    · rw [Store.unlink_eq]
      exact keeps
    · intro key member
      exact whole key (List.mem_of_mem_eraseIdx member)

/-- The answer to a request to unlink whose body is not read. -/
theorem status_of_unread {request : Request} {kind : FaultKind} {message : Json}
    (host : request.namesHost = true) (path : request.path = "/keys".toList)
    (method : request.method = "DELETE") (unread : request.content = .error (.other kind message))
    (unplanned : scene.fault = none) (sound : world.store.Sound) (presents : Presents request token)
    (keeps : world.store.Keeps token user) :
    ∃ response, (Session.run scene world (handle request)).1 = .ok response ∧
      response.status = 500 := by
  have sends := sends_of_presents unplanned sound presents keeps
  have known : request.method ∈ Route.keys.methods := by simp [method, Route.methods]
  have fails : Session.run scene world (caller request >>= serveKeys request) =
      (.error (.other kind message), world) := by
    rw [Session.run_bind_ok (run_caller sends), serveKeys,
      if_neg (by rw [method]; decide), unread]
    rfl
  obtain ⟨response, records, reported, status⟩ :=
    report_other scene.debug request.origin kind message
  have bodied : Response.isBodiless response.status = false := by
    rw [status]
    decide
  refine ⟨response, ?_, status⟩
  rw [handle_keys_eq host path known,
    run_answering_of_error fails reported (by rw [method]; decide) bodied]

section ZerosLinked

def unlinkZerosBehind (blanks : Nat) : Request :=
  ⟨"DELETE", "/keys".toList, [("Authorization", "Bearer t")],
    accountBody (List.replicate blanks ' ' ++ zerosText.toList)⟩

@[simp] theorem headers_unlinkZerosBehind (blanks : Nat) :
    (unlinkZerosBehind blanks).headers = [("Authorization", "Bearer t")] := rfl

theorem namedAccount?_unlinkZerosBehind (blanks : Nat) :
    namedAccount? (unlinkZerosBehind blanks).body =
      some (String.ofList (List.replicate blanks ' ') ++ zerosText) := by
  have each : ∀ c ∈ List.replicate blanks ' ' ++ zerosText.toList,
      c.toNat < 0x80 ∧ Json.IsPlain c := by
    have solid : ∀ c ∈ ' ' :: zerosText.toList, c.toNat < 0x80 ∧ Json.IsPlain c :=
      List.all_iff_forall_prop.mp (by decide)
    intro c member
    refine solid c ?_
    rcases List.mem_append.mp member with blank | digit
    · rw [List.eq_of_mem_replicate blank]
      exact List.mem_cons_self
    · exact List.mem_cons_of_mem _ digit
  unfold unlinkZerosBehind
  have ascii := fun c member => (each c member).1
  have plain := fun c member => (each c member).2
  rw [namedAccount?_accountBody ascii plain, String.ofList_append, String.ofList_toList]

theorem lt_length_unlinkZerosBehind {blanks : Nat} (many : Request.maxLength ≤ blanks) :
    Request.maxLength < (unlinkZerosBehind blanks).body.length := by
  rw [unlinkZerosBehind, accountBody, Bytes.ofAscii, List.length_map, Json.accountChars]
  simp only [List.length_cons, List.length_append, List.length_replicate]
  omega

theorem encode_zeros : Address.encode (List.replicate 32 0) 42 = .ok zerosText :=
  Address.spells_zeros.encode_eq_iff.mpr (by decide)

theorem namesHost_unlinkZeros_nil : (unlinkZeros []).namesHost = true :=
  Request.namesHost_of_header? (by simp)

theorem drops_unlinkZeros_nil : Drops (unlinkZeros []) "t" zerosText := by
  have content : (unlinkZeros []).content = .ok zerosBody :=
    Request.content_of_unmeasured (by simp) length_zerosBody
  exact ⟨namesHost_unlinkZeros_nil, rfl, rfl, presents_of_header? (by simp), _, content,
    namedAccount?_zerosBody⟩

theorem not_namesHost_unlinkZeros : (unlinkZeros [("Host", "a b")]).namesHost = false :=
  Request.not_namesHost_of_header? (by simp)

theorem presents_unlinkZeros : Presents (unlinkZeros [("Host", "a b")]) "t" :=
  presents_of_header? (by simp)

theorem namesHost_unlinkZerosBehind (blanks : Nat) : (unlinkZerosBehind blanks).namesHost = true :=
  Request.namesHost_of_header? (by simp)

theorem presents_unlinkZerosBehind (blanks : Nat) : Presents (unlinkZerosBehind blanks) "t" :=
  presents_of_header? (by simp)

theorem header?_unlinkZerosBehind (blanks : Nat) :
    header? "Content-Length" (unlinkZerosBehind blanks).headers = none := by simp

theorem drops_unlinkZerosBehind {blanks : Nat}
    (short : (unlinkZerosBehind blanks).body.length ≤ Request.maxLength) :
    Drops (unlinkZerosBehind blanks) "t" (String.ofList (List.replicate blanks ' ') ++ zerosText) :=
  have content := Request.content_of_unmeasured (header?_unlinkZerosBehind blanks) short
  ⟨namesHost_unlinkZerosBehind blanks, rfl, rfl, presents_unlinkZerosBehind blanks, _, content,
    namedAccount?_unlinkZerosBehind blanks⟩

/-- There may be more blanks than a body has room for. -/
theorem status_unlinkZerosBehind {blanks : Nat} (many : Request.maxLength ≤ blanks) :
    ∃ response, (Session.run Scene.calm ⟨Store.linkedOnce, []⟩
      (handle (unlinkZerosBehind blanks))).1 = .ok response ∧ response.status = 500 :=
  have unread := Request.content_of_too_long (header?_unlinkZerosBehind blanks)
    (lt_length_unlinkZerosBehind many)
  status_of_unread (namesHost_unlinkZerosBehind blanks) rfl rfl unread rfl
    Store.reachable_linkedOnce.sound (presents_unlinkZerosBehind blanks) keeps_linkedOnce

theorem lists_listWithToken : Lists listWithToken "t" :=
  ⟨namesHost_listWithToken, rfl, rfl, presents_listWithToken⟩

theorem listing_and_unlinking_agree_linkedOnce :
    Store.linkedOnce.Reachable ∧ Address.Supports 42 ∧ Store.linkedOnce.Keeps "t" ⟨1⟩ ∧
      (∀ key ∈ Store.linkedOnce.keysOf 1, key.address.length = Address.accountLength) ∧
      Session.run Scene.calm ⟨Store.linkedOnce, []⟩ (handle listWithToken) =
        (.ok (Response.list [Keys.shown (.int 1) zerosText]), ⟨Store.linkedOnce, []⟩) ∧
      ∃ left, Session.run Scene.calm ⟨Store.linkedOnce, []⟩ (handle (unlinkZerosBehind 1)) =
          (.ok (Response.html 200 ""), left) ∧
        Session.run Scene.calm left (handle listWithToken) = (.ok (Response.list []), left) := by
  have supported : Address.Supports Scene.calm.format := by decide
  have whole : ∀ key ∈ Store.linkedOnce.keysOf 1, key.address.length = Address.accountLength := by
    intro key member
    rw [List.mem_singleton.mp (show key ∈ [⟨1, 1, List.replicate 32 0⟩] from member)]
    rfl
  have drops : Drops (unlinkZerosBehind 1) "t" (" " ++ zerosText ++ "") := by
    rw [String.append_empty]
    exact drops_unlinkZerosBehind (by decide +kernel)
  obtain ⟨address, _, _, named, _, listed, unlinked⟩ :=
    @listing_and_unlinking_agree _ ⟨Store.linkedOnce, []⟩ _ _ rfl Store.reachable_linkedOnce supported
      keeps_linkedOnce whole
  have text : address ⟨1, 1, List.replicate 32 0⟩ = zerosText := by
    have encoded := (named ⟨1, 1, List.replicate 32 0⟩ (List.mem_singleton.mpr rfl)).1
    exact Except.ok.inj (encoded.symm.trans encode_zeros)
  have blank : ∀ c ∈ " ".toList, Text.isBlank c = true := List.all_eq_true.mp (by decide)
  have none : ∀ c ∈ "".toList, Text.isBlank c = true := List.all_eq_true.mp (by decide)
  obtain ⟨left, dropped, remaining⟩ :=
    unlinked 0 (by decide) 42 " " zerosText "" encode_zeros blank none _ drops
  refine ⟨Store.reachable_linkedOnce, supported, keeps_linkedOnce, whole, ?_, left, dropped, ?_⟩
  · rw [← text]
    exact listed _ lists_listWithToken
  · exact remaining _ lists_listWithToken

/-- A request to unlink a listed key, sent by its user, may be refused: it may be for what is no
host, and there may be more blanks around the address than a body has room for. -/
theorem listed_key_may_not_be_unlinked :
    Store.linkedOnce.Reachable ∧ Store.linkedOnce.Keeps "t" ⟨1⟩ ∧
      Address.encode (List.replicate 32 0) 42 = .ok zerosText ∧
      (Presents (unlinkZeros [("Host", "a b")]) "t" ∧
        namedAccount? (unlinkZeros [("Host", "a b")]).body = some zerosText ∧
        (Session.run Scene.calm ⟨Store.linkedOnce, []⟩
          (handle (unlinkZeros [("Host", "a b")]))).1 = .ok Response.badRequest) ∧
      Presents (unlinkZerosBehind 2621440) "t" ∧
      namedAccount? (unlinkZerosBehind 2621440).body =
        some (String.ofList (List.replicate 2621440 ' ') ++ zerosText) ∧
      ∃ response, (Session.run Scene.calm ⟨Store.linkedOnce, []⟩
          (handle (unlinkZerosBehind 2621440))).1 = .ok response ∧ response.status = 500 := by
  refine ⟨Store.reachable_linkedOnce, keeps_linkedOnce, encode_zeros,
    ⟨presents_unlinkZeros, namedAccount?_zerosBody, ?_⟩, presents_unlinkZerosBehind _,
    namedAccount?_unlinkZerosBehind _, status_unlinkZerosBehind (Nat.le_refl _)⟩
  rw [run_handle_of_not_namesHost not_namesHost_unlinkZeros (by decide)]

end ZerosLinked

end Http
end AddressBook
