import AddressBook.Proofs.Http.Dispatch
import AddressBook.Proofs.Http.Linked
import AddressBook.Proofs.Http.Separation

namespace AddressBook

/-- How many keys a record says were removed. Records of other things say nothing of it. -/
def LogRecord.removed (record : LogRecord) : Int :=
  ((Fields.get? record.extra "deleted").bind Json.int?).getD 0

/-- How many keys some records say were removed, taken together. -/
def removedIn : List LogRecord → Int
  | [] => 0
  | record :: rest => record.removed + removedIn rest

theorem removedIn_append (records more : List LogRecord) :
    removedIn (records ++ more) = removedIn records + removedIn more := by
  induction records with
  | nil => exact (Int.zero_add _).symm
  | cons record rest ih => rw [List.cons_append, removedIn, ih, removedIn, Int.add_assoc]

theorem removedIn_of_extra_eq_nil {records : List LogRecord}
    (bare : ∀ record ∈ records, record.extra = []) : removedIn records = 0 := by
  induction records with
  | nil => rfl
  | cons record rest ih =>
    have first : record.removed = 0 := by
      rw [LogRecord.removed, bare record List.mem_cons_self]
      rfl
    have others := ih fun other member => bare other (List.mem_cons_of_mem _ member)
    rw [removedIn, first, others, Int.zero_add]

theorem Keys.removed_deleteRecord (user : Int) (deleted : Nat) :
    (deleteRecord user deleted).removed = deleted := rfl

namespace Store

def Links (s : Store) (user : Int) (address : Bytes) : Prop :=
  ∃ row ∈ s.keys.rows, (row.user : Int) = user ∧ row.address = address

variable {s : Store} {user : Int} {address : Bytes}

theorem rows_unlink : (s.unlink user address).2.keys.rows =
    s.keys.rows.filter fun row => ¬((row.user : Int) = user ∧ row.address = address) := by
  refine List.filter_congr fun row _ => ?_
  rw [Bool.eq_iff_iff, decide_eq_true_iff, Bool.not_eq_true', ← Bool.not_eq_true, Bool.and_eq_true,
    beq_iff_eq, beq_iff_eq]

theorem unlink_fst_add_length : (s.unlink user address).1 +
    (s.unlink user address).2.keys.rows.length = s.keys.rows.length := by
  have whole := s.keys.rows.length_eq_countP_add_countP fun row =>
    (row.user : Int) == user && row.address == address
  rw [whole, unlink, Table.remove, ← List.countP_eq_length_filter]
  simp only [Bool.not_eq_true, Bool.decide_eq_false]

theorem unlink_fst_pos_iff : 0 < (s.unlink user address).1 ↔ s.Links user address := by
  rw [unlink, Table.remove, List.countP_pos_iff, Links]
  simp only [Bool.and_eq_true, beq_iff_eq]

theorem Sound.unlink_fst_le (sound : s.Sound) : (s.unlink user address).1 ≤ 1 := by
  rw [unlink, Table.remove, List.countP_eq_length_filter]
  refine sound.keyOfUser.length_filter_le (k := (user.toNat, address)) fun row linked => ?_
  rw [Bool.and_eq_true, beq_iff_eq, beq_iff_eq] at linked
  refine Prod.ext ?_ linked.2
  have same := linked.1
  omega

end Store

/-- Whether the keys that are gone in a later world are those that some records say were removed. -/
structure Accounts (records : List LogRecord) (world after : World) : Prop where
  sum : removedIn records + after.store.keys.rows.length = world.store.keys.rows.length
  rows : after.store.keys.rows.Sublist world.store.keys.rows

theorem accounts_of_rows_eq {records : List LogRecord} {world after : World}
    (none : removedIn records = 0) (same : after.store.keys.rows = world.store.keys.rows) :
    Accounts records world after := by
  refine ⟨?_, same ▸ List.Sublist.refl _⟩
  rw [none, same, Int.zero_add]

theorem Accounts.trans {records more : List LogRecord} {world between after : World}
    (first : Accounts records world between) (second : Accounts more between after) :
    Accounts (records ++ more) world after := by
  refine ⟨?_, second.rows.trans first.rows⟩
  have sum := first.sum
  have sum' := second.sum
  rw [removedIn_append]
  omega

theorem accounts_of_unlink (world : World) (user : Int) (address : Bytes) (log : List LogRecord) :
    Accounts [Keys.deleteRecord user (world.store.unlink user address).1] world
      ⟨(world.store.unlink user address).2, log⟩ := by
  refine ⟨?_, ?_⟩
  · have whole := @Store.unlink_fst_add_length world.store user address
    simp only [removedIn, Keys.removed_deleteRecord]
    omega
  · rw [Store.rows_unlink]
    exact List.filter_sublist

instance Scene.decidableIsCalmAt (scene : Scene) (point : FaultPoint) :
    Decidable (scene.IsCalmAt point) :=
  inferInstanceAs (Decidable (∀ fault ∈ scene.fault, fault.point ≠ point))

namespace Http

/-- The records that a run of visits logs, but for those of visits for which nothing can be
committed. -/
def committedRecords (world : World) : List Visit → List LogRecord
  | [] => []
  | visit :: rest =>
    let after := (Session.run visit.scene world (handle visit.request)).2
    (if visit.scene.IsCalmAt .commit then after.log.drop world.log.length else []) ++
      committedRecords after rest

/-- Reports have no further fields. -/
theorem extra_of_mem_report {debug : Bool} {origin : Origin} {failure : Failure} {record : LogRecord}
    (member : record ∈ (report debug origin failure).2) : record.extra = [] := by
  unfold report at member
  split at member <;> simp_all [reportRecord]

/-- A request to unlink removes the keys that it logs as removed, and no others. If nothing can be
committed, it removes none, whatever it logs. -/
theorem accounts_run_handle {request : Request} (method : request.method = "DELETE")
    (path : request.path = "/keys".toList) (scene : Scene) (world : World) :
    ∃ records, (Session.run scene world (handle request)).2.log = world.log ++ records ∧
      Accounts (if scene.IsCalmAt .commit then records else []) world
        (Session.run scene world (handle request)).2 := by
  by_cases unlinks : ∃ user address, Unlinks scene world.store request user address
  · obtain ⟨user, address, unlinks⟩ := unlinks
    rw [unlinks.run_handle]
    refine ⟨_, rfl, ?_⟩
    rw [if_pos unlinks.undisturbed.commit]
    exact accounts_of_unlink world user.id address _
  cases host : request.namesHost with
  | false =>
    rw [run_handle_of_not_namesHost host (by rw [method]; decide)]
    refine ⟨[], (List.append_nil _).symm, ?_⟩
    rw [ite_self]
    exact accounts_of_rows_eq rfl rfl
  | true =>
    have known : request.method ∈ Route.keys.methods := by simp [method, Route.methods]
    obtain ⟨failure, records, fails, silent⟩ := isStopped_deleteKey fun user address deletes =>
      unlinks ⟨user, address, deletes, host, method, path⟩
    obtain ⟨response, answered⟩ := @exists_run_answering_of_error _ _ _ request _ _ fails
    rw [handle_eq_answering host (path ▸ route?_keys) known, Route.run,
      if_neg (by rw [method]; decide), answered]
    refine ⟨_, List.append_assoc _ _ _, accounts_of_rows_eq ?_ rfl⟩
    split
    next committed =>
      rw [silent committed]
      exact removedIn_of_extra_eq_nil fun record => extra_of_mem_report
    next => rfl

/-- So does a run of such requests, some of which may fail. -/
theorem accounts_serve {visits : List Visit}
    (unlinking : ∀ visit ∈ visits,
      visit.request.method = "DELETE" ∧ visit.request.path = "/keys".toList) (world : World) :
    Accounts (committedRecords world visits) world (serve world visits).2 ∧
      ((∀ visit ∈ visits, visit.scene.IsCalmAt .commit) →
        (serve world visits).2.log = world.log ++ committedRecords world visits) := by
  induction visits generalizing world with
  | nil => exact ⟨accounts_of_rows_eq rfl rfl, fun _ => (List.append_nil _).symm⟩
  | cons visit rest ih =>
    obtain ⟨⟨method, path⟩, unlinking⟩ := List.forall_mem_cons.mp unlinking
    obtain ⟨records, log, first⟩ := accounts_run_handle method path visit.scene world
    obtain ⟨others, whole⟩ := ih unlinking (Session.run visit.scene world (handle visit.request)).2
    have own : (Session.run visit.scene world (handle visit.request)).2.log.drop world.log.length =
        records := by rw [log, List.drop_left]
    rw [committedRecords, own]
    refine ⟨first.trans others, fun committed => ?_⟩
    obtain ⟨here, later⟩ := List.forall_mem_cons.mp committed
    rw [if_pos here, ← List.append_assoc, ← log]
    exact whole later

section Stopped
variable {scene : Scene} {world : World} {request : Request} {fault : PlannedFault} {user : User}
  {token text : String} {account : Bytes}

/-- A request to unlink that is stopped leaves all tables as they were. -/
theorem store_run_handle_of_planned (planned : scene.fault = some fault)
    (inside : fault.point ∈ .keyDelete :: Keys.deletionPoints) :
    (Session.run scene world (handle request)).2.store = world.store := by
  refine store_run_handle_of_not_unlinks fun user address unlinks => ?_
  rcases List.mem_cons.mp inside with start | inside
  · exact unlinks.start fault planned start
  · exact Keys.undisturbed_iff.mp unlinks.undisturbed fault planned inside

/-- What stops a request to unlink whose sender is known is what the request fails with. -/
theorem run_keys_of_planned (planned : scene.fault = some fault)
    (inside : fault.point ∈ .keyDelete :: Keys.deletionPoints) (later : fault.point ≠ .statement)
    (sound : world.store.Sound) (drops : Drops request token text)
    (keeps : world.store.Keeps token user)
    (named : Address.decode (Text.trimString text) = .ok account) :
    Session.run scene world (Route.keys.run request) = (.error fault.failure,
      { world with
        log := world.log ++ Keys.loggedBefore fault.point world.store user.id account }) := by
  have lookup : scene.IsCalmAt .authentication := Scene.isCalmAt_of_planned planned fun same => by
    rw [same] at inside
    exact absurd inside (by decide)
  have statement : scene.IsCalmAt .statement := Scene.isCalmAt_of_planned planned later
  have sends := (sends_iff sound lookup statement).mpr ⟨token, drops.presents, keeps⟩
  obtain ⟨body, payload, content, read, rfl⟩ := drops.asks named scene.debug
  rw [run_keys_eq, Session.run_bind_ok (run_caller sends), serveKeys,
    if_neg (by rw [drops.method]; decide), content, Session.run_bind_ok rfl,
    Session.run_bind_ok (Session.run_read scene world), read, Session.run_bind_ok rfl]
  by_cases start : fault.point = .keyDelete
  · have hit := Session.run_passes_of_planned planned world
    rw [start] at hit
    rw [start, Keys.loggedBefore, if_neg (by decide), List.append_nil]
    exact Session.run_bind_error hit _
  · have inner := (List.mem_cons.mp inside).resolve_left start
    have calm : scene.IsCalmAt .keyDelete := Scene.isCalmAt_of_planned planned start
    rw [Session.run_bind_ok (Session.run_passes_of_isCalmAt calm world)]
    exact Session.run_bind_error
      (Keys.run_delete_of_planned planned inner world user.id payload.address) _

/-- Where no statement is executed, it is already the sender who cannot be found. -/
theorem run_keys_of_statement {response : Response} {records : List LogRecord}
    (planned : scene.fault = some fault) (statement : fault.point = .statement)
    (presents : Presents request token)
    (reported : report scene.debug request.origin fault.failure = (.ok response, records)) :
    Session.run scene world (Route.keys.run request) = (.error fault.failure, world) := by
  obtain ⟨brought, nonempty⟩ := presents_iff.mp presents
  have lookup : scene.IsCalmAt .authentication :=
    Scene.isCalmAt_of_planned planned (by rw [statement]; nofun)
  have hit := Session.run_passes_of_planned planned world
  rw [statement] at hit
  have stopped : Session.run scene world (authenticate request.headers) =
      (.error fault.failure, world) := by
    rw [authenticate, brought]
    simp only
    rw [Session.run_bind_ok (Session.run_passes_of_isCalmAt lookup world), Tokens.owner?,
      if_neg (by simpa using nonempty)]
    exact Session.run_bind_error (Session.run_bind_error hit _) _
  have unknown : Session.run scene world (caller request) = (.error fault.failure, world) := by
    rw [caller, Session.run_orElse, stopped]
    simp only
    rw [Session.run_bind_ok (Session.run_read scene world), reported]
    rfl
  rw [run_keys_eq]
  exact Session.run_bind_error unknown _

/-- A request to unlink that is stopped is answered by what reports the failure that stopped it. -/
theorem run_handle_of_planned {response : Response} {records : List LogRecord}
    (planned : scene.fault = some fault) (inside : fault.point ∈ .keyDelete :: Keys.deletionPoints)
    (sound : world.store.Sound) (drops : Drops request token text)
    (keeps : world.store.Keeps token user)
    (named : Address.decode (Text.trimString text) = .ok account)
    (reported : report scene.debug request.origin fault.failure = (.ok response, records))
    (bodied : Response.isBodiless response.status = false) :
    Session.run scene world (handle request) = (.ok response,
      { world with
        log := world.log ++ Keys.loggedBefore fault.point world.store user.id account ++
          records }) := by
  have known : request.method ∈ Route.keys.methods := by simp [drops.method, Route.methods]
  have fails : Session.run scene world (Route.keys.run request) = (.error fault.failure,
      { world with
        log := world.log ++ Keys.loggedBefore fault.point world.store user.id account }) := by
    by_cases statement : fault.point = .statement
    · rw [statement, Keys.loggedBefore, if_neg (by decide), List.append_nil]
      exact run_keys_of_statement planned statement drops.presents reported
    · exact run_keys_of_planned planned inside statement sound drops keeps named
  rw [handle_eq_answering drops.host (drops.path ▸ route?_keys) known]
  exact run_answering_of_error fails reported (Route.ne_head known) bodied

end Stopped

/-- An unlinking that is stopped at any place, the commit included, passes on what stopped it and leaves
all tables as they were; who asked for it by a request is answered by what reports that failure, and is
told no more than that it failed, if the failure is of the storage, or was expected by nobody while
there is no debugging. An unlinking that is not stopped gives and logs the number of rows that it
removes, which is one if the address was linked and none otherwise. So over any run of requests to
unlink, some of which may be stopped, the numbers that are logged add up to the number of keys that the
run removes, once the records of those requests are left out for which nothing can be committed: a
record is logged before the commit, and stays. -/
theorem unlinkings_are_whole_and_counted {world : World} (reachable : world.store.Reachable) :
    (∀ scene fault user address, scene.fault = some fault → fault.point ∈ Keys.deletionPoints →
      Session.run scene world (Keys.delete user address) = (.error fault.failure,
        { world with log := world.log ++ Keys.loggedBefore fault.point world.store user address })) ∧
    (∀ scene fault request, scene.fault = some fault →
      fault.point ∈ .keyDelete :: Keys.deletionPoints →
      (Session.run scene world (handle request)).2.store = world.store ∧
      ∀ token text user account, Drops request token text → world.store.Keeps token user →
        Address.decode (Text.trimString text) = .ok account →
        (∀ response records,
          report scene.debug request.origin fault.failure = (.ok response, records) →
          Response.isBodiless response.status = false →
          Session.run scene world (handle request) = (.ok response,
            { world with
              log := world.log ++ Keys.loggedBefore fault.point world.store user.id account ++
                records })) ∧
        (IsHidden scene.debug fault.failure →
          (Session.run scene world (handle request)).1 =
            .ok (Response.withoutDetails (requestId request.headers)))) ∧
    (∀ scene user address, (∀ fault ∈ scene.fault, fault.point ∉ Keys.deletionPoints) →
      ∃ (deleted : Nat) (after : World),
        Session.run scene world (Keys.delete user address) = (.ok deleted, after) ∧
        after.log = world.log ++ [Keys.deleteRecord user deleted] ∧
        (Keys.deleteRecord user deleted).removed = deleted ∧
        (after.store.keys.rows = world.store.keys.rows.filter fun row =>
          ¬((row.user : Int) = user ∧ row.address = address)) ∧
        deleted + after.store.keys.rows.length = world.store.keys.rows.length ∧
        (world.store.Links user address → deleted = 1) ∧
        (¬world.store.Links user address → deleted = 0)) ∧
    ∀ visits : List Visit, (∀ visit ∈ visits,
        visit.request.method = "DELETE" ∧ visit.request.path = "/keys".toList) →
      Accounts (committedRecords world visits) world (serve world visits).2 ∧
      ((∀ visit ∈ visits, visit.scene.IsCalmAt .commit) →
        (serve world visits).2.log = world.log ++ committedRecords world visits) := by
  have sound := reachable.sound
  refine ⟨fun scene fault user address planned inside => ?_,
    fun scene fault request planned inside => ⟨store_run_handle_of_planned planned inside, ?_⟩,
    fun scene user address elsewhere => ?_, fun visits unlinking => accounts_serve unlinking world⟩
  · exact Keys.run_delete_of_planned planned inside world user address
  · intro token text user account drops keeps named
    have answered := @run_handle_of_planned scene world request fault user token text account
    refine ⟨fun response records => answered planned inside sound drops keeps named, ?_⟩
    intro hidden
    obtain ⟨record, reported⟩ := report_of_isHidden hidden request.origin
    rw [answered planned inside sound drops keeps named reported rfl]
    rfl
  · have done := Keys.run_delete (Keys.undisturbed_iff.mpr elsewhere) world user address
    have most := @Store.Sound.unlink_fst_le world.store user address sound
    have linked := @Store.unlink_fst_pos_iff world.store user address
    refine ⟨_, _, done, rfl, rfl, Store.rows_unlink, Store.unlink_fst_add_length, ?_, ?_⟩
    · intro links
      have some := linked.mpr links
      omega
    · intro unlinked
      have none := mt linked.mp unlinked
      omega

section Unrecorded

theorem links_linkedOnce : Store.linkedOnce.Links 1 (List.replicate 32 0) :=
  ⟨_, List.mem_singleton.mpr rfl, rfl, rfl⟩

/-- An unlinking cannot be committed. -/
def uncommitted : Scene := ⟨false, 42, some ⟨.commit, .storage .operational (.string "lost")⟩⟩

/-- Three requests to unlink the account of zeros, of which the last one is not stopped. -/
def stoppedTwice : List Visit :=
  [⟨Scene.unrecorded, unlinkZeros []⟩, ⟨uncommitted, unlinkZeros []⟩, ⟨Scene.calm, unlinkZeros []⟩]

/-- The record of the first unlinking cannot be written, so nothing is removed; neither is anything by
the second one, which cannot be committed; the record of the third one tells of the row that goes. -/
theorem unlinkings_are_whole_and_counted_linkedOnce :
    Store.linkedOnce.Reachable ∧
      (Session.run Scene.unrecorded ⟨Store.linkedOnce, []⟩
        (Keys.delete 1 (List.replicate 32 0))) =
          (.error (.fault .runtime "boom"), ⟨Store.linkedOnce, []⟩) ∧
      (Session.run Scene.unrecorded ⟨Store.linkedOnce, []⟩ (handle (unlinkZeros []))).1 =
        .ok (Response.withoutDetails "") ∧
      (Session.run uncommitted ⟨Store.linkedOnce, []⟩ (handle (unlinkZeros []))).1 =
        .ok (Response.withoutDetails "") ∧
      (Session.run Scene.calm ⟨Store.linkedOnce, []⟩ (Keys.delete 1 (List.replicate 32 0))).1 =
        .ok 1 ∧
      Accounts (committedRecords ⟨Store.linkedOnce, []⟩ stoppedTwice) ⟨Store.linkedOnce, []⟩
        (serve ⟨Store.linkedOnce, []⟩ stoppedTwice).2 ∧
      (serve ⟨Store.linkedOnce, []⟩ [⟨Scene.calm, unlinkZeros []⟩]).2.log =
        committedRecords ⟨Store.linkedOnce, []⟩ [⟨Scene.calm, unlinkZeros []⟩] := by
  have named : requestId (unlinkZeros []).headers = "" := requestId_of_header? (by simp)
  have planned : Scene.unrecorded.fault = some ⟨.keyDeleteLog, .fault .runtime "boom"⟩ := rfl
  obtain ⟨stopped, told, counted, accounts⟩ :=
    @unlinkings_are_whole_and_counted ⟨Store.linkedOnce, []⟩ Store.reachable_linkedOnce
  have answered {scene : Scene} {fault : PlannedFault} (planned : scene.fault = some fault)
      (inside : fault.point ∈ .keyDelete :: Keys.deletionPoints) :=
    (told _ _ (unlinkZeros []) planned inside).2 "t" zerosText ⟨1⟩ _ drops_unlinkZeros_nil
      keeps_linkedOnce (trimString_zerosText ▸ decode_zeros)
  obtain ⟨deleted, after, done, _, _, _, _, linked, _⟩ :=
    counted Scene.calm 1 (List.replicate 32 0) nofun
  refine ⟨Store.reachable_linkedOnce, stopped _ _ _ _ planned (by decide), ?_, ?_, ?_,
    (accounts stoppedTwice ?_).1, ((accounts [_] ?_).2 ?_).trans (List.nil_append _)⟩
  · rw [← named]
    exact (answered planned (by decide)).2 (.inr ⟨rfl, rfl⟩)
  · rw [← named]
    exact (answered rfl (by decide)).2 (.inl rfl)
  · rw [done, linked links_linkedOnce]
  · simp [stoppedTwice, unlinkZeros]
  · simp [unlinkZeros]
  · exact List.forall_mem_singleton.mpr nofun

/-- The record of an unlinking cannot be written while there is debugging. -/
def unrecordedDebug : Scene := { Scene.unrecorded with debug := true }

/-- The record of an unlinking cannot be written because a service is not there. -/
def unrecordedUnavailable : Scene :=
  ⟨false, 42, some ⟨.keyDeleteLog, .api ApiError.serviceUnavailable⟩⟩

/-- Who asks for an unlinking that is stopped may be told what stopped it: while there is debugging,
and when the failure brings its own answer. And an unlinking that cannot be committed is logged, though
its row stays. -/
theorem stopped_unlinking_may_be_told :
    Store.linkedOnce.Reachable ∧ Drops (unlinkZeros []) "t" zerosText ∧
      Store.linkedOnce.Keeps "t" ⟨1⟩ ∧
      Address.decode (Text.trimString zerosText) = .ok (List.replicate 32 0) ∧
      (∃ response, (Session.run unrecordedDebug ⟨Store.linkedOnce, []⟩
          (handle (unlinkZeros []))).1 = .ok response ∧
        response = ⟨500, Response.jsonType, .json (.object [("success", .bool false),
          ("message", .string "Unexpected error"), ("data", .object []),
          ("extra", .object [("trace", .bool true)]), ("errors", .string "boom"),
          ("code", .string "INTERNAL_ERROR"), ("request_id", .string "")]), []⟩ ∧
        response ≠ Response.withoutDetails "") ∧
      (∃ response, (Session.run unrecordedUnavailable ⟨Store.linkedOnce, []⟩
          (handle (unlinkZeros []))).1 = .ok response ∧
        response.status = 503 ∧ response ≠ Response.withoutDetails "") ∧
      removedIn (serve ⟨Store.linkedOnce, []⟩ [⟨uncommitted, unlinkZeros []⟩]).2.log = 1 ∧
      (serve ⟨Store.linkedOnce, []⟩ [⟨uncommitted, unlinkZeros []⟩]).2.store = Store.linkedOnce := by
  have named : Address.decode (Text.trimString zerosText) = .ok (List.replicate 32 0) :=
    trimString_zerosText ▸ decode_zeros
  have identified : requestId (unlinkZeros []).headers = "" := requestId_of_header? (by simp)
  have answered (scene : Scene) (fault : PlannedFault) (planned : scene.fault = some fault)
      (inside : fault.point ∈ .keyDelete :: Keys.deletionPoints) {response : Response}
      {records : List LogRecord} :=
    @run_handle_of_planned scene ⟨Store.linkedOnce, []⟩ (unlinkZeros []) fault ⟨1⟩ "t" zerosText _
      response records planned inside Store.reachable_linkedOnce.sound drops_unlinkZeros_nil
      keeps_linkedOnce named
  refine ⟨Store.reachable_linkedOnce, drops_unlinkZeros_nil, keeps_linkedOnce, named,
    ⟨_, ?_, rfl, ?_⟩,
    ⟨_, congrArg Prod.fst (answered unrecordedUnavailable _ rfl (by decide) rfl rfl), rfl, ?_⟩, ?_, ?_⟩
  · rw [answered unrecordedDebug _ rfl (by decide) rfl rfl, ← identified]
    rfl
  · simp [Response.withoutDetails]
  · exact fun same => nomatch congrArg Response.status same
  · rw [serve_singleton, answered uncommitted _ rfl (by decide) rfl rfl]
    rfl
  · rw [serve_singleton, answered uncommitted _ rfl (by decide) rfl rfl]

end Unrecorded

end Http
end AddressBook
