import AddressBook.Listing.Command
import AddressBook.Proofs.Http.Dispatch
import AddressBook.Proofs.Http.Events
import AddressBook.Proofs.Json.RoundTrip
import AddressBook.Proofs.Moment.UnixTime

namespace AddressBook

namespace Failure

/-- Whether a failure comes from inside: it is one of the storage, or one that nobody expected, and
none that ends a command with a message. -/
def IsInner : Failure → Prop
  | .storage _ _ => True
  | .other kind _ => .command ∉ kind.lineage
  | _ => False

theorem IsInner.not_isOf_command {failure : Failure} (inner : failure.IsInner) :
    ¬failure.IsOf (.other .command) := by
  cases failure with
  | storage kind message => simp [IsOf, lineage]
  | other kind message =>
    intro command
    obtain ⟨ancestor, member, same⟩ := List.mem_map.mp command
    cases same
    exact inner member
  | _ => cases inner

theorem isInner_ofDateTimeError (e : DateTimeError) : (ofDateTimeError e).IsInner := by
  cases e <;> simp [ofDateTimeError, fault, IsInner, FaultKind.lineage]

/-- Whether a failure may come of listing events: it comes from inside, or is the planned one. -/
def MayComeOf (failure : Failure) (scene : Scene) : Prop :=
  failure.IsInner ∨ ∃ fault ∈ scene.fault, fault.failure = failure

theorem MayComeOf.isInner {failure : Failure} {scene : Scene} (comes : failure.MayComeOf scene)
    (inner : ∀ fault ∈ scene.fault, fault.failure.IsInner) : failure.IsInner := by
  rcases comes with own | ⟨fault, planned, rfl⟩
  · exact own
  · exact inner fault planned

end Failure

namespace Events

/-- What is to be shown for an account, unless one of the stamps tells no moment. -/
def items (account : Bytes) (s : Store) : Except Failure (List Item) := do
  let entries ← (window account s).mapM entry
  entries.mapM (·.item)

variable {account : Bytes} {s : Store}

theorem items_of_entries {entries : List Entry}
    (read : (window account s).mapM entry = .ok entries) :
    items account s = entries.mapM (·.item) := by
  rw [items, read]
  rfl

theorem items_of_unread {failure : Failure}
    (unread : (window account s).mapM entry = .error failure) :
    items account s = .error failure := by
  rw [items, unread]
  rfl

theorem isInner_of_items {failure : Failure} (fails : items account s = .error failure) :
    failure.IsInner := by
  cases read : (window account s).mapM entry with
  | error unread =>
    rw [items_of_unread read] at fails
    cases fails
    obtain ⟨event, _, fails⟩ := exists_of_mapM_eq_error read
    unfold entry at fails
    split at fails
    · cases fails
      exact Failure.isInner_ofDateTimeError _
    · cases fails
  | ok entries =>
    rw [items_of_entries read] at fails
    obtain ⟨entry, _, fails⟩ := exists_of_mapM_eq_error fails
    unfold Entry.item at fails
    split at fails
    · cases fails
    · cases fails
      simp [noMoment, Failure.fault, Failure.IsInner, FaultKind.lineage]

theorem entry_eq_ok_iff {event : Event} {e : Entry} :
    entry event = .ok e ↔ event.stamp.read = .ok e.moment ∧ e.body = event.body := by
  obtain ⟨body, told⟩ := e
  unfold entry
  cases event.stamp.read with
  | error e => simp
  | ok moment => simp [and_comm, eq_comm]

theorem Entry.item_eq_ok_iff {e : Entry} {item : Item} :
    e.item = .ok item ↔ ∃ moment, e.moment = some moment ∧ item = ⟨e.body, moment.unixSeconds⟩ := by
  unfold Entry.item
  cases e.moment with
  | none => simp
  | some moment => simp [eq_comm]

theorem exists_isValid_of_items {items : List Item} (shown : Events.items account s = .ok items)
    {item : Item} (member : item ∈ items) :
    ∃ moment : Moment, moment.IsValid ∧ item.seconds = moment.unixSeconds := by
  obtain ⟨entries, read, shown⟩ := exists_of_bind_eq_ok shown
  obtain ⟨entry, known, toldItem⟩ := exists_of_mapM_eq_ok shown member
  obtain ⟨moment, told, rfl⟩ := Entry.item_eq_ok_iff.mp toldItem
  obtain ⟨event, _, readEntry⟩ := exists_of_mapM_eq_ok read known
  have readMoment := (entry_eq_ok_iff.mp readEntry).1
  rw [told] at readMoment
  exact ⟨moment, Stamp.isValid_of_read readMoment, rfl⟩

/-- An account has items if and only if all stamps of its window tell moments. -/
theorem exists_items_iff : (∃ items, Events.items account s = .ok items) ↔
    ∀ event ∈ window account s, ∃ moment, event.stamp.read = .ok (some moment) := by
  constructor
  · rintro ⟨items, shown⟩ event member
    obtain ⟨entries, read, told⟩ := exists_of_bind_eq_ok shown
    obtain ⟨e, known, made⟩ := exists_of_mem_of_mapM_eq_ok read member
    obtain ⟨item, _, toldItem⟩ := exists_of_mem_of_mapM_eq_ok told known
    obtain ⟨moment, here, _⟩ := Entry.item_eq_ok_iff.mp toldItem
    exact ⟨moment, here ▸ (entry_eq_ok_iff.mp made).1⟩
  · intro timed
    obtain ⟨entries, read⟩ := exists_mapM_eq_ok fun event member => by
      obtain ⟨moment, told⟩ := timed event member
      exact ⟨⟨event.body, some moment⟩, entry_eq_ok_iff.mpr ⟨told, rfl⟩⟩
    rw [items_of_entries read]
    refine exists_mapM_eq_ok fun e known => ?_
    obtain ⟨event, member, made⟩ := exists_of_mapM_eq_ok read known
    obtain ⟨moment, told⟩ := timed event member
    have here : e.moment = some moment :=
      Except.ok.inj ((entry_eq_ok_iff.mp made).1.symm.trans told)
    exact ⟨_, Entry.item_eq_ok_iff.mpr ⟨moment, here, rfl⟩⟩

theorem map_body_of_items {items : List Item} (shown : Events.items account s = .ok items) :
    items.map Item.body = (window account s).map Event.body := by
  obtain ⟨entries, read, told⟩ := exists_of_bind_eq_ok shown
  calc items.map Item.body
      = entries.map Entry.body := map_eq_of_mapM_eq_ok (fun e item toldItem => by
          obtain ⟨_, _, rfl⟩ := Entry.item_eq_ok_iff.mp toldItem
          rfl) told
    _ = (window account s).map Event.body :=
          map_eq_of_mapM_eq_ok (fun event e made => (entry_eq_ok_iff.mp made).2) read

theorem isReadable_toJson {item : Item} {moment : Moment} (valid : moment.IsValid)
    (seconds : item.seconds = moment.unixSeconds) : item.toJson.IsReadable 1 := by
  have short : (Nat.toDigits 10 item.seconds.natAbs).length ≤ 12 := by
    rw [seconds]
    exact (Nat.length_toDigits_le_iff (by decide) (by decide)).mpr valid.natAbs_unixSeconds_lt
  refine .object (by decide) (show ["body", "timestamp"].Nodup by decide) ?_
  intro field member
  simp only [List.mem_cons, List.not_mem_nil, or_false] at member
  rcases member with rfl | rfl
  · exact .string item.body
  · exact .int (short.trans (by decide))

/-- What is shown as JSON is read back. -/
theorem isReadable_items {items : List Item} (shown : Events.items account s = .ok items) :
    (Json.array (items.map (·.toJson))).IsReadable 0 := by
  refine .array (by decide) ?_
  intro value member
  obtain ⟨item, known, rfl⟩ := List.mem_map.mp member
  obtain ⟨moment, valid, seconds⟩ := exists_isValid_of_items shown known
  exact isReadable_toJson valid seconds

end Events

namespace Listing

/-- What the command does once it has options. -/
def command (options : Options) : Session String := do
  let account ← Session.ofExcept
    ((Address.decode options.account).mapError fun e =>
      commandFailure ("Invalid account: " ++ e.message))
  let items ← Session.ofExcept ((← Events.list account).mapM (·.item))
  return output options.json items

theorem run_eq_command {arguments : List String} {options : Options}
    (parsed : parse arguments = .ok options) : run arguments = command options := by
  rw [run, parsed]
  rfl

/-- Behind the mark every text is an account. -/
theorem parse_account (text : String) : parse ["--json", "--", text] = .ok ⟨text, true⟩ := rfl

theorem output_json (items : List Events.Item) :
    output true items = (Json.array (items.map (·.toJson))).render ++ "\n" := by
  have last : (Json.array (items.map (·.toJson))).render.toList.getLast? = some ']' := by
    rw [Json.render, String.toList_append]
    exact List.getLast?_concat
  rw [output, if_pos rfl, line, if_neg]
  rw [last]
  decide

/-- What is printed in JSON tells the items that are shown. -/
theorem ofChars_output {account : Bytes} {s : Store} {items : List Events.Item}
    (shown : Events.items account s = .ok items) :
    Json.ofChars (output true items).toList = .ok (.array (items.map (·.toJson))) := by
  rw [output_json, String.toList_append]
  exact Json.ofChars_render (Events.isReadable_items shown) (List.all_eq_true.mp (by decide))

section
variable {scene : Scene} {text : String} {json : Bool} {account : Bytes}

theorem run_command_of_unread {e : AddressError} (unread : Address.decode text = .error e)
    (world : World) : Session.run scene world (command ⟨text, json⟩) =
      (.error (commandFailure ("Invalid account: " ++ e.message)), world) := by
  rw [command, unread]
  rfl

theorem run_command_of_calm (decoded : Address.decode text = .ok account)
    (calm : scene.IsCalmAt .statement) (world : World) :
    Session.run scene world (command ⟨text, json⟩) =
      ((Events.items account world.store).map (output json), world) := by
  have listed := @Http.run_eventList scene world account _ calm rfl
  rw [command, decoded, Session.run_bind_ok rfl, Session.run_bind, listed]
  cases read : (Events.window account world.store).mapM Events.entry with
  | error failure =>
    rw [Events.items_of_unread read]
    rfl
  | ok entries =>
    simp only
    rw [Events.items_of_entries read, Session.run_bind, Session.run_ofExcept]
    cases entries.mapM (·.item) with
    | error failure => rfl
    | ok items => rfl

theorem run_command_of_planned {fault : PlannedFault} (decoded : Address.decode text = .ok account)
    (planned : scene.fault = some fault) (statement : fault.point = .statement) (world : World) :
    Session.run scene world (command ⟨text, json⟩) = (.error fault.failure, world) := by
  have hit := Session.run_passes_of_planned planned world
  rw [statement] at hit
  rw [command, decoded, Session.run_bind_ok rfl]
  exact Session.run_bind_error (Session.run_bind_error (Session.run_bind_error hit _) _) _

/-- Either something fails, or the items of the account are printed. -/
theorem run_command_fails_or_prints (decoded : Address.decode text = .ok account) (world : World) :
    (∃ failure : Failure, failure.MayComeOf scene ∧
      Session.run scene world (command ⟨text, json⟩) = (.error failure, world)) ∨
    ∃ items, scene.IsCalmAt .statement ∧ Events.items account world.store = .ok items ∧
      Session.run scene world (command ⟨text, json⟩) = (.ok (output json items), world) := by
  by_cases statement : scene.IsCalmAt .statement
  · have done := @run_command_of_calm scene text json account decoded statement world
    cases shown : Events.items account world.store with
    | error failure =>
      rw [shown] at done
      exact .inl ⟨failure, .inl (Events.isInner_of_items shown), done⟩
    | ok items =>
      rw [shown] at done
      exact .inr ⟨items, statement, rfl, done⟩
  · obtain ⟨fault, planned, here⟩ := Scene.exists_planned_of_not_isCalmAt statement
    exact .inl ⟨fault.failure, .inr ⟨fault, planned, rfl⟩,
      run_command_of_planned decoded planned here world⟩

/-- Whatever fails inside, either that is what comes of it, or the items of the account are printed. -/
theorem run_command_cases (inner : ∀ fault ∈ scene.fault, fault.failure.IsInner)
    (decoded : Address.decode text = .ok account) (world : World) :
    (∃ failure : Failure, failure.IsInner ∧
      Session.run scene world (command ⟨text, json⟩) = (.error failure, world)) ∨
    ∃ items, scene.IsCalmAt .statement ∧ Events.items account world.store = .ok items ∧
      Session.run scene world (command ⟨text, json⟩) = (.ok (output json items), world) :=
  (run_command_fails_or_prints decoded world).imp_left fun ⟨failure, comes, fails⟩ =>
    ⟨failure, comes.isInner inner, fails⟩

end
end Listing

namespace Http
section
variable {scene : Scene} {text : String} {account : Bytes}

theorem run_listEvents_of_unread {e : AddressError} (unread : Address.decode text = .error e)
    (world : World) : Session.run scene world (listEvents text) =
      (.error (.api (ApiError.domainValidation (.string "Invalid account address")
        (.string "INVALID_ACCOUNT") (.object [("account", .array [.string e.message])]))),
        world) := by
  rw [listEvents, parseAccount, unread]
  rfl

/-- What is answered once the entries are read. -/
def showEntries (entries : List Events.Entry) : Session Response := do
  let items ← entries.mapM fun entry => do
    Session.passes .eventItem
    Session.ofExcept entry.item
  Session.ofExcept (Response.json 200 (.array (items.map (·.toJson))))

theorem run_showEntries_of_calm (each : scene.IsCalmAt .eventItem) (world : World)
    (entries : List Events.Entry) :
    Session.run scene world (showEntries entries) =
      ((entries.mapM fun (entry : Events.Entry) => entry.item).map fun items =>
        Response.list (items.map (·.toJson)), world) := by
  have item (entry : Events.Entry) : Session.run scene world (do
      Session.passes .eventItem
      Session.ofExcept entry.item) = (entry.item, world) := by
    rw [Session.run_bind_ok (Session.run_passes_of_isCalmAt each world), Session.run_ofExcept]
  rw [showEntries, Session.run_bind, Session.run_mapM (g := (·.item)) fun entry _ => item entry]
  cases entries.mapM (·.item) with
  | error failure => rfl
  | ok items => rfl

/-- Where there is nothing to show, nothing can fail while it is shown. -/
theorem run_showEntries_nil (world : World) :
    Session.run scene world (showEntries []) = (.ok (Response.list []), world) := rfl

theorem run_showEntries_cons_of_planned {fault : PlannedFault} (planned : scene.fault = some fault)
    (each : fault.point = .eventItem) (world : World) (entry : Events.Entry)
    (rest : List Events.Entry) :
    Session.run scene world (showEntries (entry :: rest)) = (.error fault.failure, world) := by
  have hit := Session.run_passes_of_planned planned world
  rw [each] at hit
  rw [showEntries, List.mapM_cons]
  exact Session.run_bind_error (Session.run_bind_error (Session.run_bind_error hit _) _) _

theorem run_listEvents_eq_showEntries (decoded : Address.decode text = .ok account)
    (start : scene.IsCalmAt .eventList) (statement : scene.IsCalmAt .statement) (world : World) :
    Session.run scene world (listEvents text) =
      Session.run scene world (Session.ofExcept
        ((Events.window account world.store).mapM Events.entry) >>= showEntries) := by
  have listed := @run_eventList scene world account _ statement rfl
  have parsed : parseAccount text = .ok account := by rw [parseAccount, decoded]
  rw [listEvents, parsed, Session.run_bind_ok rfl,
    Session.run_bind_ok (Session.run_passes_of_isCalmAt start world), Session.run_bind, listed,
    Session.run_bind, Session.run_ofExcept]
  rfl

theorem run_listEvents_of_planned {fault : PlannedFault} (decoded : Address.decode text = .ok account)
    (planned : scene.fault = some fault) (early : fault.point = .eventList ∨ fault.point = .statement)
    (world : World) :
    Session.run scene world (listEvents text) = (.error fault.failure, world) := by
  have hit := Session.run_passes_of_planned planned world
  have parsed : parseAccount text = .ok account := by rw [parseAccount, decoded]
  rw [listEvents, parsed, Session.run_bind_ok rfl]
  rcases early with start | statement
  · rw [start] at hit
    exact Session.run_bind_error hit _
  · rw [statement] at hit
    have start : scene.IsCalmAt .eventList :=
      Scene.isCalmAt_of_planned planned (by rw [statement]; decide)
    rw [Session.run_bind_ok (Session.run_passes_of_isCalmAt start world)]
    exact Session.run_bind_error (Session.run_bind_error (Session.run_bind_error hit _) _) _

/-- Unless the storage or a place of the resource fails, the items of the account are answered. -/
theorem run_listEvents_of_calm (decoded : Address.decode text = .ok account)
    (start : scene.IsCalmAt .eventList) (statement : scene.IsCalmAt .statement)
    (each : scene.IsCalmAt .eventItem) (world : World) :
    Session.run scene world (listEvents text) =
      ((Events.items account world.store).map fun items => Response.list (items.map (·.toJson)),
        world) := by
  rw [run_listEvents_eq_showEntries decoded start statement]
  cases read : (Events.window account world.store).mapM Events.entry with
  | error failure =>
    rw [Events.items_of_unread read]
    rfl
  | ok entries =>
    rw [Session.run_bind_ok rfl, run_showEntries_of_calm each, Events.items_of_entries read]

/-- Either something fails, or the items of the account are answered. -/
theorem run_listEvents_fails_or_shows (decoded : Address.decode text = .ok account) (world : World) :
    (∃ failure : Failure, failure.MayComeOf scene ∧
      Session.run scene world (listEvents text) = (.error failure, world)) ∨
    ∃ items, scene.IsCalmAt .statement ∧ Events.items account world.store = .ok items ∧
      Session.run scene world (listEvents text) =
        (.ok (Response.list (items.map (·.toJson))), world) := by
  have early {point : FaultPoint} (hit : ¬scene.IsCalmAt point)
      (early : point = .eventList ∨ point = .statement) : ∃ failure : Failure,
        failure.MayComeOf scene ∧
          Session.run scene world (listEvents text) = (.error failure, world) := by
    obtain ⟨fault, planned, rfl⟩ := Scene.exists_planned_of_not_isCalmAt hit
    exact ⟨fault.failure, .inr ⟨fault, planned, rfl⟩,
      run_listEvents_of_planned decoded planned early world⟩
  by_cases start : scene.IsCalmAt .eventList
  · by_cases statement : scene.IsCalmAt .statement
    · by_cases each : scene.IsCalmAt .eventItem
      · have done := run_listEvents_of_calm decoded start statement each world
        cases shown : Events.items account world.store with
        | error failure =>
          rw [shown] at done
          exact .inl ⟨failure, .inl (Events.isInner_of_items shown), done⟩
        | ok items =>
          rw [shown] at done
          exact .inr ⟨items, statement, rfl, done⟩
      · obtain ⟨fault, planned, here⟩ := Scene.exists_planned_of_not_isCalmAt each
        rw [run_listEvents_eq_showEntries decoded start statement]
        cases read : (Events.window account world.store).mapM Events.entry with
        | error failure =>
          exact .inl ⟨failure, .inl (Events.isInner_of_items (Events.items_of_unread read)), rfl⟩
        | ok entries =>
          rw [Session.run_bind_ok rfl, Events.items_of_entries read]
          cases entries with
          | nil => exact .inr ⟨[], statement, rfl, run_showEntries_nil world⟩
          | cons entry rest =>
            exact .inl ⟨fault.failure, .inr ⟨fault, planned, rfl⟩,
              run_showEntries_cons_of_planned planned here world entry rest⟩
    · exact .inl (early statement (.inr rfl))
  · exact .inl (early start (.inl rfl))

/-- Whatever fails inside, either that is what comes of it, or the items of the account are
answered. -/
theorem run_listEvents_cases (inner : ∀ fault ∈ scene.fault, fault.failure.IsInner)
    (decoded : Address.decode text = .ok account) (world : World) :
    (∃ failure : Failure, failure.IsInner ∧
      Session.run scene world (listEvents text) = (.error failure, world)) ∨
    ∃ items, scene.IsCalmAt .statement ∧ Events.items account world.store = .ok items ∧
      Session.run scene world (listEvents text) =
        (.ok (Response.list (items.map (·.toJson))), world) :=
  (run_listEvents_fails_or_shows decoded world).imp_left fun ⟨failure, comes, fails⟩ =>
    ⟨failure, comes.isInner inner, fails⟩

end

/-- The answer to a request for the events of what names no account. -/
def Response.unknownAccount (message requestId : String) : Response :=
  ⟨422, jsonType, .json (.object [("success", .bool false),
    ("message", .string "Invalid account address"), ("data", .object []), ("extra", .object []),
    ("errors", .object [("account", .array [.string message])]),
    ("code", .string "INVALID_ACCOUNT"), ("request_id", .string requestId)]), []⟩

/-- The code in an envelope. -/
def Response.code? (response : Response) : Option Json :=
  match response.body with
  | .json (.object fields) => Fields.get? fields "code"
  | _ => none

theorem report_of_isInner {failure : Failure} (inner : failure.IsInner) (debug : Bool)
    (origin : Origin) :
    ∃ response records, report debug origin failure = (.ok response, records) ∧
      response.status = 500 := by
  cases failure with
  | storage kind message => exact ⟨_, _, rfl, rfl⟩
  | other kind message => exact report_other debug origin kind message
  | _ => cases inner

section Answers
variable {scene : Scene} {world : World} {request : Request} {text : String}
  (method : request.method = "GET")
include method

theorem run_answering_of_unread {e : AddressError} (unread : Address.decode text = .error e) :
    Session.run scene world (answering request (listEvents text)) =
      (.ok (Response.unknownAccount e.message (requestId request.headers)), world) := by
  have refused := @run_listEvents_of_unread scene text e unread world
  have answered := run_answering_of_error refused rfl (by rw [method]; decide) rfl
  rw [List.append_nil] at answered
  exact answered

theorem run_answering_of_isInner {session : Session Response} {failure : Failure}
    (inner : failure.IsInner) (fails : Session.run scene world session = (.error failure, world)) :
    ∃ response, (Session.run scene world (answering request session)).1 = .ok response ∧
      response.status = 500 := by
  obtain ⟨response, records, reported, status⟩ :=
    report_of_isInner inner scene.debug request.origin
  have bodied : Response.isBodiless response.status = false := by
    rw [status]
    decide
  exact ⟨response, by rw [run_answering_of_error fails reported (by rw [method]; decide) bodied],
    status⟩

end Answers

/-- Whether what the command prints in JSON belongs to what the resource answers. -/
structure BelongsTo (scene : Scene) (requestId : String) (printed : Except Failure String)
    (response : Response) : Prop where
  /-- A list that is answered is printed, as a text that is read as this list. -/
  list : response.status = 200 → ∃ items output, response = Response.list items ∧
    printed = .ok output ∧ output = (Json.array items).render ++ "\n" ∧
    Json.ofChars output.toList = .ok (.array items)
  /-- Unless a place of the resource fails, what is printed is answered. -/
  answered : scene.IsCalmAt .eventList → scene.IsCalmAt .eventItem → ∀ output,
    printed = .ok output → response.status = 200
  refused : (∃ failure, printed = .error failure ∧ failure.IsOf (.other .command)) ↔
    response.status = 422 ∧ response.code? = some (.string "INVALID_ACCOUNT")
  message : ∀ failure, printed = .error failure → failure.IsOf (.other .command) →
    ∃ message, failure = Listing.commandFailure ("Invalid account: " ++ message) ∧
      response = Response.unknownAccount message requestId

section BelongsTo
variable {scene : Scene} {requestId : String}

theorem belongsTo_of_unread (message : String) :
    BelongsTo scene requestId (.error (Listing.commandFailure ("Invalid account: " ++ message)))
      (Response.unknownAccount message requestId) where
  list success := by cases success
  answered _ _ _ done := by cases done
  refused := iff_of_true ⟨_, rfl, List.mem_cons_self⟩ ⟨rfl, rfl⟩
  message failure same _ := by
    cases same
    exact ⟨message, rfl, rfl⟩

theorem belongsTo_of_items {account : Bytes} {s : Store} {items : List Events.Item}
    (shown : Events.items account s = .ok items) :
    BelongsTo scene requestId (.ok (Listing.output true items))
      (Response.list (items.map (·.toJson))) where
  list _ := ⟨_, _, rfl, rfl, Listing.output_json items, Listing.ofChars_output shown⟩
  answered _ _ _ _ := rfl
  refused := by
    refine iff_of_false ?_ ?_
    · rintro ⟨failure, failed, _⟩
      cases failed
    · rintro ⟨refused, _⟩
      cases refused
  message failure failed _ := by cases failed

/-- A failure from inside is no refusal: the command ends with one as well, unless it was a place of
the resource that failed. -/
theorem belongsTo_of_isInner {printed : Except Failure String} {response : Response}
    (status : response.status = 500) (inner : ∀ failure, printed = .error failure → failure.IsInner)
    (disturbed : ∀ output, printed = .ok output →
      ¬(scene.IsCalmAt .eventList ∧ scene.IsCalmAt .eventItem)) :
    BelongsTo scene requestId printed response where
  list success := by cases status.symm.trans success
  answered start each output done := absurd ⟨start, each⟩ (disturbed output done)
  refused := by
    refine iff_of_false ?_ ?_
    · rintro ⟨failure, failed, command⟩
      exact (inner failure failed).not_isOf_command command
    · rintro ⟨refused, _⟩
      cases status.symm.trans refused
  message failure failed command :=
    absurd command (inner failure failed).not_isOf_command

end BelongsTo

/-- The command in JSON and the resource agree about every text. If the resource answers a list, the
command prints a text that is read as this list; and if the command prints something while no place
of the resource fails, this is the list that is answered. The command ends with a message of its own
if and only if the resource refuses the text because it names no account, and the message is the one
that the refusal tells. -/
theorem command_prints_what_is_answered {scene : Scene}
    (inner : ∀ fault ∈ scene.fault, fault.failure.IsInner) (world : World) {request : Request}
    (method : request.method = "GET") (text : String) :
    Listing.parse ["--json", "--", text] = .ok ⟨text, true⟩ ∧
    (AsksForEvents request text → text.toList ≠ [] → '/' ∉ text.toList →
      handle request = answering request (listEvents text)) ∧
    ∀ arguments, Listing.parse arguments = .ok ⟨text, true⟩ → ∃ response,
      (Session.run scene world (answering request (listEvents text))).1 = .ok response ∧
      BelongsTo scene (requestId request.headers)
        (Session.run scene world (Listing.run arguments)).1 response := by
  refine ⟨Listing.parse_account text, ?_, fun arguments parsed => ?_⟩
  · intro asks nonempty noSlash
    have reached := route?_of_no_slash nonempty noSlash
    rw [← asks.path] at reached
    exact handle_eq_answering asks.host reached (by simp [method, Route.methods])
  rw [Listing.run_eq_command parsed]
  cases decoded : Address.decode text with
  | error e =>
    rw [Listing.run_command_of_unread decoded]
    exact ⟨_, congrArg Prod.fst (run_answering_of_unread method decoded), belongsTo_of_unread _⟩
  | ok account =>
    have printed := @Listing.run_command_cases scene text true account inner decoded world
    rcases run_listEvents_cases inner decoded world with
      ⟨failure, innerFailure, fails⟩ | ⟨items, statement, shown, listed⟩
    · obtain ⟨response, answered, status⟩ := run_answering_of_isInner method innerFailure fails
      refine ⟨response, answered, belongsTo_of_isInner status ?_ ?_⟩
      · intro other failed
        rcases printed with ⟨_, innerOther, run⟩ | ⟨items, _, _, run⟩
        · rw [run] at failed
          cases failed
          exact innerOther
        · rw [run] at failed
          cases failed
      · rintro output done ⟨start, each⟩
        rcases printed with ⟨other, _, run⟩ | ⟨items, statement, shown, run⟩
        · rw [run] at done
          cases done
        · have listed := run_listEvents_of_calm decoded start statement each world
          rw [shown] at listed
          cases fails.symm.trans listed
    · have answered := run_answering_of_ok listed (by rw [method]; decide) rfl
      have done := @Listing.run_command_of_calm scene text true account decoded statement world
      rw [shown] at done
      rw [done]
      exact ⟨_, congrArg Prod.fst answered, belongsTo_of_items shown⟩

section TwoPrinted

/-- The list of the two events of the account of zeros. -/
def seenItems : List Json :=
  [Events.shown (.string "second") 1704069000, Events.shown (.string "first") 1704063600]

theorem command_prints_what_is_answered_seenTwice :
    Store.seenTwice.Reachable ∧
      (Session.run Scene.calm ⟨Store.seenTwice, []⟩ (handle (seeZeros []))).1 =
        .ok (Response.list seenItems) ∧
      (Session.run Scene.calm ⟨Store.seenTwice, []⟩
          (Listing.run ["--json", "--", zerosText])).1 =
        .ok ("[\x7b\"body\": \"second\", \"timestamp\": 1704069000\x7d, " ++
          "\x7b\"body\": \"first\", \"timestamp\": 1704063600\x7d]\n") ∧
      (Session.run Scene.calm ⟨Store.seenTwice, []⟩ (answering (seeZeros []) (listEvents "0"))).1 =
        .ok (Response.unknownAccount "Address is not valid base58" "") ∧
      (Session.run Scene.calm ⟨Store.seenTwice, []⟩ (Listing.run ["--json", "--", "0"])).1 =
        .error (Listing.commandFailure "Invalid account: Address is not valid base58") := by
  have inner : ∀ fault ∈ Scene.calm.fault, fault.failure.IsInner := nofun
  have asks := asksForEvents_seeZeros
  have identified : requestId (seeZeros []).headers = "" := rfl
  have stamped : ∀ event ∈ [secondEvent, firstEvent],
      Stamp.ofMoment? (if event.id = 1 then firstMoment else secondMoment) = some event.stamp := by
    decide +kernel
  have shown : (Session.run Scene.calm ⟨Store.seenTwice, []⟩ (handle (seeZeros []))).1 =
      .ok (Response.list seenItems) := by
    rw [seenItems, ← unixSeconds_firstMoment, ← unixSeconds_secondMoment]
    exact congrArg Prod.fst (@AsksForEvents.run_handle Scene.calm ⟨Store.seenTwice, []⟩ _ _ _ _ _
      asks decode_zeros rfl window_seenTwice stamped)
  have agrees := @command_prints_what_is_answered Scene.calm inner ⟨Store.seenTwice, []⟩ _
    asks.method
  refine ⟨Store.recorded_seenTwice.reachable, shown, ?_, ?_⟩
  · obtain ⟨_, reached, agree⟩ := agrees zerosText
    obtain ⟨response, answered, belongs⟩ := agree _ (Listing.parse_account _)
    obtain ⟨nonempty, noSlash⟩ := Address.no_slash_of_decode decode_zeros
    rw [← reached asks nonempty noSlash, shown] at answered
    cases answered
    obtain ⟨items, output, same, printed, written, _⟩ := belongs.list rfl
    cases same
    rw [printed, written]
    exact congrArg Except.ok (by decide +kernel)
  · have unread : Address.decode "0" = .error .notBase58 := by decide +kernel
    obtain ⟨response, answered, belongs⟩ := (agrees "0").2.2 _ (Listing.parse_account _)
    have fails := congrArg Prod.fst
      (@Listing.run_command_of_unread Scene.calm _ true _ unread ⟨Store.seenTwice, []⟩)
    rw [← Listing.run_eq_command (Listing.parse_account "0")] at fails
    obtain ⟨message, same, refused⟩ := belongs.message _ fails (by decide)
    have text : AddressError.notBase58.message = message := by
      simpa [Listing.commandFailure, Failure.fault] using same
    rw [answered, refused, ← text, identified, fails]
    exact ⟨rfl, rfl⟩

end TwoPrinted

end Http
end AddressBook
