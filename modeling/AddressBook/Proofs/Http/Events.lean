import AddressBook.Proofs.Address.RoundTrip
import AddressBook.Proofs.Book.History
import AddressBook.Proofs.Events
import AddressBook.Proofs.Http.Linked

namespace AddressBook

theorem Address.no_slash_of_decode {text : String} {account : Bytes}
    (decoded : decode text = .ok account) : text.toList ≠ [] ∧ '/' ∉ text.toList := by
  obtain ⟨nonempty, known⟩ := mem_alphabet_or_isBlank_of_decode decoded
  exact ⟨nonempty, fun slash => absurd (known '/' slash) (by decide)⟩

namespace Http

theorem route?_of_no_slash {text : String} (nonempty : text.toList ≠ [])
    (noSlash : '/' ∉ text.toList) :
    route? ("/contracts/events/".toList ++ text.toList) = some (.contractEvents text) := by
  have behind : afterPart? "/contracts/events/" ("/contracts/events/".toList ++ text.toList) =
      some text.toList := by
    rw [afterPart?, if_pos (by simp)]
    exact congrArg some (List.drop_left' rfl)
  have noKeys : "/contracts/events/".toList ++ text.toList ≠ "/keys".toList := by
    intro same
    cases same
  have noHealth : "/contracts/events/".toList ++ text.toList ≠ "/diagnostics/health".toList := by
    intro same
    cases same
  have accepted : (text.toList.isEmpty || text.toList.contains '/') = false := by
    rw [Bool.or_eq_false_iff, List.isEmpty_eq_false_iff, ← Bool.not_eq_true, List.contains_iff_mem]
    exact ⟨nonempty, noSlash⟩
  rw [route?, if_neg noKeys, if_neg noHealth, behind]
  simp only [accepted]
  rw [if_neg (by decide), String.ofList_toList]

theorem route?_contractEvents {text : String} {account : Bytes}
    (decoded : Address.decode text = .ok account) :
    route? ("/contracts/events/".toList ++ text.toList) = some (.contractEvents text) :=
  have ⟨nonempty, noSlash⟩ := Address.no_slash_of_decode decoded
  route?_of_no_slash nonempty noSlash

/-- Whether a request asks for the events of the account that a text names. -/
structure AsksForEvents (request : Request) (text : String) : Prop where
  host : request.namesHost = true
  path : request.path = "/contracts/events/".toList ++ text.toList
  method : request.method = "GET"

section Answer
variable {scene : Scene} {world : World} {account : Bytes} {shown : List Event}
  {moment : Event → Moment}

/-- The entries of the window, unless the stamp of one of its events cannot be read. -/
theorem run_eventList (calm : scene.IsCalmAt .statement)
    (window : Events.window account world.store = shown) :
    Session.run scene world (Events.list account) = (shown.mapM Events.entry, world) := by
  rw [Events.list, Session.run_bind_ok (Session.run_query_of_isCalmAt calm world _), window,
    Session.run_ofExcept]

/-- The entries of a window of events whose stamps are read as moments. -/
theorem run_eventList_of_read (unplanned : scene.fault = none)
    (window : Events.window account world.store = shown)
    (read : ∀ event ∈ shown, event.stamp.read = .ok (some (moment event))) :
    Session.run scene world (Events.list account) =
      (.ok (shown.map fun event => ⟨event.body, some (moment event)⟩), world) := by
  have calm := Scene.isCalmAt_of_fault_eq_none unplanned
  rw [run_eventList (calm _) window, mapM_of_ok fun event member => ?_]
  rw [Events.entry, read event member]

/-- What is done for the account that a text names, when the stamps of its window are read as
moments. -/
theorem run_listEvents {text : String} (decoded : Address.decode text = .ok account)
    (unplanned : scene.fault = none) (window : Events.window account world.store = shown)
    (read : ∀ event ∈ shown, event.stamp.read = .ok (some (moment event))) :
    Session.run scene world (listEvents text) =
      (.ok (Response.list (shown.map fun event =>
        Events.shown (.string event.body) (moment event).unixSeconds)), world) := by
  have calm := Scene.isCalmAt_of_fault_eq_none unplanned
  have items : ∀ event ∈ shown, Session.run scene world (do
      Session.passes .eventItem
      Session.ofExcept (Events.Entry.item ⟨event.body, some (moment event)⟩)) =
      (.ok ⟨event.body, (moment event).unixSeconds⟩, world) := by
    intro event _
    rw [Session.run_bind_ok (Session.run_passes_of_isCalmAt (calm _) world)]
    rfl
  have parsed : parseAccount text = .ok account := by rw [parseAccount, decoded]
  rw [listEvents, parsed, Session.run_bind_ok rfl,
    Session.run_bind_ok (Session.run_passes_of_isCalmAt (calm _) world),
    Session.run_bind_ok (run_eventList_of_read unplanned window read), List.mapM_map]
  simp only [Function.comp_def]
  rw [Session.run_bind_ok (Session.run_mapM_of_ok items)]
  simp only [List.map_map]
  rfl

theorem run_eventList_of_stamped (unplanned : scene.fault = none)
    (window : Events.window account world.store = shown)
    (stamped : ∀ event ∈ shown, Stamp.ofMoment? (moment event) = some event.stamp) :
    Session.run scene world (Events.list account) =
      (.ok (shown.map fun event => ⟨event.body, some (moment event).inUniversalTime⟩), world) :=
  run_eventList_of_read unplanned window fun event member =>
    Moment.read_of_ofMoment? (stamped event member)

/-- What is answered shows the window, the times being those of the moments. -/
theorem AsksForEvents.run_handle {text : String} {request : Request}
    (asks : AsksForEvents request text) (decoded : Address.decode text = .ok account)
    (unplanned : scene.fault = none) (window : Events.window account world.store = shown)
    (stamped : ∀ event ∈ shown, Stamp.ofMoment? (moment event) = some event.stamp) :
    Session.run scene world (handle request) =
      (.ok (Response.list (shown.map fun event =>
        Events.shown (.string event.body) (moment event).unixSeconds)), world) := by
  have known : request.method ∈ (Route.contractEvents text).methods := by
    simp [asks.method, Route.methods]
  have listed := run_listEvents decoded unplanned window fun event member =>
    Moment.read_of_ofMoment? (stamped event member)
  have same : ∀ event ∈ shown, Events.shown (.string event.body)
      (moment event).inUniversalTime.unixSeconds =
        Events.shown (.string event.body) (moment event).unixSeconds := fun event member => by
    rw [Moment.unixSeconds_congr (Moment.instant_inUniversalTime (stamped event member))]
  rw [List.map_congr_left same] at listed
  rw [handle_eq_answering asks.host (asks.path ▸ route?_contractEvents decoded) known]
  exact run_answering_of_ok listed (by simp [asks.method]) rfl

end Answer

theorem ofMoment?_of_known {s : Store} {moments : Nat → Option Moment} {account : Bytes}
    (recorded : s.Recorded moments) {event : Event} (member : event ∈ s.eventsOf account)
    {m : Moment} (known : moments event.id = some m) : Stamp.ofMoment? m = some event.stamp :=
  (recorded.stamped _ _ known).2 event (Events.mem_eventsOf.mp member).1 rfl

/-- For tables that can come about, the window of an account is as it should be, and its entries are
listed. Where it is recorded with which moments the events of the account were added, they are in
the order of these moments, and what is listed and answered shows the window with its bodies and
these moments. Nothing in the tables but the events of the account matters. -/
theorem newest_events_are_answered {scene : Scene} {world : World}
    (reachable : world.store.Reachable) (account : Bytes) (unplanned : scene.fault = none) :
    Events.IsWindow account world.store (Events.window account world.store) ∧
    (∀ other : World, other.store.eventsOf account = world.store.eventsOf account →
      Session.run scene other (Events.list account) =
        ((Events.window account world.store).mapM Events.entry, other)) ∧
    ∀ (moments : Nat → Option Moment) (moment : Event → Moment),
      world.store.Recorded moments →
      (∀ event ∈ world.store.eventsOf account, moments event.id = some (moment event)) →
      (∀ a ∈ world.store.eventsOf account, ∀ b ∈ world.store.eventsOf account,
        (a.IsAbove b ↔ (moment b).instant < (moment a).instant ∨
          (moment b).instant = (moment a).instant ∧ b.id < a.id)) ∧
      (∀ event ∈ world.store.eventsOf account,
        (moment event).inUniversalTime.instant = (moment event).instant) ∧
      ∀ other : World, other.store.eventsOf account = world.store.eventsOf account →
        Session.run scene other (Events.list account) =
          (.ok ((Events.window account world.store).map fun event =>
            ⟨event.body, some (moment event).inUniversalTime⟩), other) ∧
        ∀ text request, Address.decode text = .ok account → AsksForEvents request text →
          Session.run scene other (handle request) =
            (.ok (Response.list ((Events.window account world.store).map fun event =>
              Events.shown (.string event.body) (moment event).unixSeconds)), other) := by
  have windows {other : World} (same : other.store.eventsOf account = world.store.eventsOf account) :
      Events.window account other.store = Events.window account world.store := by
    rw [Events.window, Events.window, same]
  refine ⟨Events.isWindow_window reachable.sound, fun other same => ?_, ?_⟩
  · exact run_eventList (Scene.isCalmAt_of_fault_eq_none unplanned _) (windows same)
  intro moments moment recorded known
  have stamped : ∀ event ∈ world.store.eventsOf account,
      Stamp.ofMoment? (moment event) = some event.stamp := fun event member =>
    ofMoment?_of_known recorded member (known event member)
  refine ⟨fun a member b member' => ?_, fun event member => ?_, fun other same => ?_⟩
  · exact Events.isAbove_iff_instant (stamped a member) (stamped b member')
  · exact Moment.instant_inUniversalTime (stamped event member)
  · have shown : ∀ event ∈ Events.window account world.store,
        Stamp.ofMoment? (moment event) = some event.stamp := fun event member =>
      stamped event (Events.mem_eventsOf_of_mem_window member)
    refine ⟨run_eventList_of_stamped unplanned (windows same) shown, ?_⟩
    intro text request decoded asks
    exact asks.run_handle decoded unplanned (windows same) shown

end Http

section TwoEvents

theorem Book.run_addEvent {scene : Scene} {world : World} {node : Option Int} {account : Option Bytes}
    {kind body : Option String} {moment : Moment} {stamp : Stamp} {id : Nat} {after : Store}
    (unplanned : scene.fault = none) (stamped : Stamp.ofMoment? moment = some stamp)
    (inserted : Store.insertEvent node account kind body (some stamp) world.store =
      .ok (id, after)) :
    Session.run scene world (addEvent node account kind body moment) =
      (.ok id, { world with store := after }) := by
  rw [addEvent_eq]
  simp only [stamped, addStampedEvent, insert]
  refine Session.run_execute_of_isCalmAt (Scene.isCalmAt_of_fault_eq_none unplanned _) ?_
  rw [inserted]
  rfl

/-- The clock of the first event is two hours ahead. -/
def firstMoment : Moment := ⟨⟨2024, 1, 1, 1, 0, 0, 0⟩, some 7200000000⟩

/-- The second event is later, although its clock shows an earlier time. -/
def secondMoment : Moment := ⟨⟨2024, 1, 1, 0, 30, 0, 0⟩, none⟩

def firstEvent : Event :=
  ⟨1, 1, List.replicate 32 0, "instantiation", "first", .text "2023-12-31 23:00:00"⟩

def secondEvent : Event :=
  ⟨2, 1, List.replicate 32 0, "instantiation", "second", .text "2024-01-01 00:30:00"⟩

/-- Two events of the account of zeros. -/
def Store.seenTwice : Store :=
  { Store.empty with
    nodes := ⟨[⟨1, "node", "ws://node", 0⟩], 2⟩
    events := ⟨[firstEvent, secondEvent], 3⟩ }

theorem Store.recorded_seenTwice :
    Store.seenTwice.Recorded (Function.update (Function.update (fun _ => none) 1 (some firstMoment))
      2 (some secondMoment)) := by
  have node := @Recorded.after _ _ ⟨empty, []⟩ _ .empty
    (.addNode (some "node") (some "ws://node") (some 0)) Scene.calm
  have firstAdded := @Book.run_addEvent Scene.calm ⟨{ empty with nodes := seenTwice.nodes }, []⟩
    (some 1) (some (List.replicate 32 0)) (some "instantiation") (some "first") firstMoment
    (.text "2023-12-31 23:00:00") 1 { seenTwice with events := ⟨[firstEvent], 2⟩ } rfl
    (by decide +kernel) rfl
  have secondAdded := @Book.run_addEvent Scene.calm
    ⟨{ seenTwice with events := ⟨[firstEvent], 2⟩ }, []⟩
    (some 1) (some (List.replicate 32 0)) (some "instantiation") (some "second") secondMoment
    (.text "2024-01-01 00:30:00") 2 seenTwice rfl (by decide +kernel) rfl
  exact (Recorded.added node firstAdded).added secondAdded

namespace Http

def seeZeros (headers : List (String × String)) : Request :=
  ⟨"GET", "/contracts/events/".toList ++ zerosText.toList, headers, []⟩

theorem unixSeconds_firstMoment : firstMoment.unixSeconds = 1704063600 := by decide +kernel

theorem unixSeconds_secondMoment : secondMoment.unixSeconds = 1704069000 := by decide +kernel

theorem eventsOf_seenTwice :
    Store.seenTwice.eventsOf (List.replicate 32 0) = [firstEvent, secondEvent] := by decide +kernel

theorem known_seenTwice : ∀ event ∈ Store.seenTwice.eventsOf (List.replicate 32 0),
    Function.update (Function.update (fun _ => none) 1 (some firstMoment)) 2 (some secondMoment)
      event.id = some (if event.id = 1 then firstMoment else secondMoment) := by
  rw [eventsOf_seenTwice]
  intro event member
  rcases List.mem_cons.mp member with rfl | second
  · rfl
  · rw [List.mem_singleton.mp second]
    rfl

theorem window_seenTwice :
    Events.window (List.replicate 32 0) Store.seenTwice = [secondEvent, firstEvent] := by
  have older : Events.isNewer firstEvent secondEvent = false := by decide +kernel
  rw [Events.window, eventsOf_seenTwice]
  simp [List.mergeSort, older, Events.windowSize]

theorem asksForEvents_seeZeros : AsksForEvents (seeZeros []) zerosText := ⟨rfl, rfl, rfl⟩

theorem newest_events_are_answered_seenTwice :
    Store.seenTwice.Reachable ∧
      Store.seenTwice.Recorded (Function.update (Function.update (fun _ => none) 1 (some firstMoment))
        2 (some secondMoment)) ∧
      Events.IsWindow (List.replicate 32 0) Store.seenTwice [secondEvent, firstEvent] ∧
      Session.run Scene.calm ⟨Store.seenTwice, []⟩ (handle (seeZeros [])) =
        (.ok (Response.list [Events.shown (.string "second") 1704069000,
          Events.shown (.string "first") 1704063600]), ⟨Store.seenTwice, []⟩) := by
  have recorded := Store.recorded_seenTwice
  obtain ⟨isWindow, _, answered⟩ := @newest_events_are_answered Scene.calm ⟨Store.seenTwice, []⟩
    recorded.reachable (List.replicate 32 0) rfl
  obtain ⟨_, _, shown⟩ := answered _ _ recorded known_seenTwice
  have answer := (shown ⟨Store.seenTwice, []⟩ rfl).2 _ _ decode_zeros asksForEvents_seeZeros
  rw [window_seenTwice] at isWindow answer
  rw [← unixSeconds_firstMoment, ← unixSeconds_secondMoment]
  exact ⟨recorded.reachable, recorded, isWindow, answer⟩

/-- A request for what is no host is answered nothing of the events, although its path is that of an
account. -/
theorem events_are_not_answered_for_no_host :
    Store.seenTwice.Reachable ∧ Address.decode zerosText = .ok (List.replicate 32 0) ∧
      (seeZeros [("Host", "a b")]).path = "/contracts/events/".toList ++ zerosText.toList ∧
      (Session.run Scene.calm ⟨Store.seenTwice, []⟩ (handle (seeZeros [("Host", "a b")]))).1 =
        .ok Response.badRequest ∧
      Response.badRequest.status = 400 := by
  refine ⟨Store.recorded_seenTwice.reachable, decode_zeros, rfl, ?_, rfl⟩
  rw [run_handle_of_not_namesHost (Request.not_namesHost_of_header? (by simp [seeZeros])) (by decide)]

end Http
end TwoEvents
end AddressBook
