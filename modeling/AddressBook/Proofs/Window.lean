import AddressBook.Proofs.Book.Runs
import AddressBook.Proofs.Http.Events
import Mathlib.Data.List.Sort

namespace AddressBook

/-- Whether an event that is added goes in front of one that was there. -/
def Event.GoesBefore (new old : Event) : Prop := new.stamp.isBelow old.stamp = false

instance : DecidableRel Event.GoesBefore := fun new old =>
  inferInstanceAs (Decidable (new.stamp.isBelow old.stamp = false))

namespace Events

/-- Whether an entry that is added goes in front of one that was there: its moment is not the earlier
one. -/
def Entry.GoesBefore (new old : Entry) : Prop :=
  ∀ m ∈ new.moment, ∀ other ∈ old.moment, other.instant ≤ m.instant

instance : DecidableRel Entry.GoesBefore := fun new old =>
  inferInstanceAs (Decidable (∀ m ∈ new.moment, ∀ other ∈ old.moment, other.instant ≤ m.instant))

section TakeIn
variable {α β : Type} (r : α → α → Prop) [DecidableRel r] (q : β → β → Prop) [DecidableRel q]

/-- A window with something new, just in front of the first that it goes before, or at the end if there
is none. What is then too many drops out. -/
def takeIn (new : α) (shown : List α) : List α := (shown.orderedInsert r new).take windowSize

theorem take_orderedInsert_take (new : α) (items : List α) (n : Nat) :
    ((items.take n).orderedInsert r new).take n = (items.orderedInsert r new).take n := by
  induction items generalizing n with
  | nil => rw [List.take_nil]
  | cons item items ih =>
    cases n with
    | zero => rfl
    | succ n =>
      rw [List.take_succ_cons, List.orderedInsert_cons, List.orderedInsert_cons]
      split
      · rw [List.take_succ_cons, List.take_succ_cons]
        cases n with
        | zero => rfl
        | succ n =>
          rw [List.take_succ_cons, List.take_succ_cons, List.take_take, min_eq_left n.le_succ]
      · rw [List.take_succ_cons, List.take_succ_cons, ih]

/-- The new one goes to the same place in an image, if it goes before the same ones. -/
theorem map_orderedInsert_of_iff {f : α → β} {new : α} {items : List α}
    (same : ∀ item ∈ items, r new item ↔ q (f new) (f item)) :
    (items.orderedInsert r new).map f = (items.map f).orderedInsert q (f new) := by
  induction items with
  | nil => rfl
  | cons item items ih =>
    have first := same item List.mem_cons_self
    have rest := ih fun other member => same other (List.mem_cons_of_mem _ member)
    rw [List.map_cons, List.orderedInsert_cons, List.orderedInsert_cons]
    by_cases before : r new item
    · rw [if_pos before, if_pos (first.mp before), List.map_cons, List.map_cons]
    · rw [if_neg before, if_neg (before ∘ first.mpr), List.map_cons, rest]

theorem map_takeIn {f : α → β} {new : α} {shown : List α}
    (same : ∀ item ∈ shown, r new item ↔ q (f new) (f item)) :
    (takeIn r new shown).map f = takeIn q (f new) (shown.map f) := by
  rw [takeIn, takeIn, List.map_take, map_orderedInsert_of_iff r q same]

end TakeIn

/-- Events stay in their order when one with a new id is put in front of the first that it goes
before. -/
theorem pairwise_orderedInsert {new : Event} {events : List Event}
    (descending : events.Pairwise Event.IsAbove) (older : ∀ event ∈ events, event.id < new.id) :
    (events.orderedInsert Event.GoesBefore new).Pairwise Event.IsAbove := by
  induction events with
  | nil => exact List.pairwise_singleton _ _
  | cons event events ih =>
    obtain ⟨above, others⟩ := List.pairwise_cons.mp descending
    rw [List.orderedInsert_cons]
    split
    next before =>
      have first : new.IsAbove event := .inr ⟨before, older event List.mem_cons_self⟩
      refine List.pairwise_cons.mpr ⟨fun other member => ?_, descending⟩
      rcases List.mem_cons.mp member with rfl | behind
      · exact first
      · exact isAbove_trans first (above other behind)
    next notBefore =>
      have first : event.IsAbove new := .inl (Bool.not_eq_false _ ▸ notBefore)
      have rest := ih others fun other member => older other (List.mem_cons_of_mem _ member)
      refine List.pairwise_cons.mpr ⟨fun other member => ?_, rest⟩
      rcases (List.mem_orderedInsert _).mp member with rfl | behind
      · exact first
      · exact above other behind

section
variable {s after : Store} {row : Event}

/-- The event goes to its place among those of its account. -/
theorem sorted_of_added (sound : s.Sound) (soundAfter : after.Sound)
    (isNext : row.id = s.events.nextId) (rows : after.events.rows = s.events.rows ++ [row]) :
    sorted row.account after = (sorted row.account s).orderedInsert Event.GoesBefore row := by
  have older : ∀ event ∈ sorted row.account s, event.id < row.id := fun event member =>
    isNext ▸ sound.events.given event (mem_sorted.mp member).1
  have events : after.eventsOf row.account = s.eventsOf row.account ++ [row] := by
    have own : [row].filter (fun event => event.account == row.account) = [row] :=
      List.filter_eq_self.mpr (by simp)
    rw [Store.eventsOf, rows, List.filter_append, own]
    rfl
  have perm : (sorted row.account after).Perm
      ((sorted row.account s).orderedInsert Event.GoesBefore row) := by
    refine perm_sorted.trans (.trans ?_ (List.perm_orderedInsert _ _ _).symm)
    rw [events]
    exact (List.perm_append_singleton _ _).trans (perm_sorted.symm.cons _)
  exact List.Perm.eq_of_pairwise (fun _ _ _ _ above below => absurd below (isAbove_asymm above))
    (pairwise_sorted soundAfter) (pairwise_orderedInsert (pairwise_sorted sound) older) perm

/-- The window takes in the event. -/
theorem window_of_added (sound : s.Sound) (soundAfter : after.Sound)
    (isNext : row.id = s.events.nextId) (rows : after.events.rows = s.events.rows ++ [row]) :
    window row.account after = takeIn Event.GoesBefore row (window row.account s) := by
  calc window row.account after
      = (sorted row.account after).take windowSize := window_eq_take _ _
    _ = ((sorted row.account s).orderedInsert Event.GoesBefore row).take windowSize := by
      rw [sorted_of_added sound soundAfter isNext rows]
    _ = takeIn Event.GoesBefore row (window row.account s) :=
      (take_orderedInsert_take _ _ _ _).symm

/-- The windows of other accounts do not. -/
theorem window_of_added_elsewhere {account : Bytes} (elsewhere : account ≠ row.account)
    (rows : after.events.rows = s.events.rows ++ [row]) :
    window account after = window account s := by
  have events : after.eventsOf account = s.eventsOf account := by
    rw [Store.eventsOf, rows, List.filter_append,
      List.filter_cons_of_neg (by simpa using elsewhere.symm), List.filter_nil, List.append_nil]
    rfl
  rw [window, window, events]

end

/-- A window that does not show an event of its account shows as many as it can. -/
theorem full_of_hidden {s : Store} {event : Event}
    (row : event ∈ s.events.rows) (hidden : event ∉ window event.account s) :
    (window event.account s).length = windowSize := by
  rw [window_eq_take, List.length_take, min_eq_left]
  by_contra few
  rw [window_eq_take, List.take_of_length_le (not_le.mp few).le] at hidden
  exact hidden (mem_sorted.mpr ⟨row, rfl⟩)

/-- An event that is not shown is not shown as long as no event is removed. The events that are shown
instead all stay above it, and they are too many. -/
theorem not_mem_window_of_kept {s later : Store} (sound : s.Sound) (soundLater : later.Sound)
    (kept : ∀ event ∈ s.events.rows, event ∈ later.events.rows) {event : Event}
    (row : event ∈ s.events.rows) (hidden : event ∉ window event.account s) :
    event ∉ window event.account later := by
  intro shown
  have before := @isWindow_window s event.account sound
  have now := @isWindow_window later event.account soundLater
  have still : ∀ other ∈ window event.account s, other ∈ window event.account later := by
    intro other member
    obtain ⟨known, own⟩ := before.mem other member
    by_contra missing
    exact isAbove_asymm (before.rest event row rfl hidden other member)
      (now.rest other (kept other known) own missing event shown)
  have different : (event :: window event.account s).Nodup :=
    List.nodup_cons.mpr ⟨hidden, before.nodup.of_map _⟩
  have most : (event :: window event.account s).length ≤ (window event.account later).length := by
    refine (List.subperm_of_subset different fun other member => ?_).length_le
    rcases List.mem_cons.mp member with rfl | other
    · exact shown
    · exact still _ other
  rw [List.length_cons, full_of_hidden row hidden] at most
  exact absurd (most.trans (List.length_take_le _ _)) (by decide)

end Events

/-- The tables that further pieces of work lead to, each of which leaves every event where it is. -/
inductive Store.Accumulates (s : Store) : Store → Prop
  | refl : s.Accumulates s
  | after {α : Type} {session : Session α} {world : World} (run : s.Accumulates world.store)
      (work : Work session) (scene : Scene)
      (kept : ∀ event ∈ world.store.events.rows,
        event ∈ (Session.run scene world session).2.store.events.rows) :
      s.Accumulates (Session.run scene world session).2.store

namespace Store.Accumulates
variable {s later : Store}

theorem reachable (run : s.Accumulates later) (reachable : s.Reachable) : later.Reachable := by
  induction run with
  | refl => exact reachable
  | after _ work scene _ ih => exact ih.after work scene

theorem kept (run : s.Accumulates later) {event : Event} (row : event ∈ s.events.rows) :
    event ∈ later.events.rows := by
  induction run with
  | refl => exact row
  | after _ _ _ kept ih => exact kept event ih

/-- An event that is not shown does not come into the window of its account. -/
theorem not_mem_window (run : s.Accumulates later) (reachable : s.Reachable) {event : Event}
    (row : event ∈ s.events.rows) (hidden : event ∉ Events.window event.account s) :
    event ∉ Events.window event.account later :=
  Events.not_mem_window_of_kept reachable.sound (run.reachable reachable).sound
    (fun _ member => run.kept member) row hidden

end Store.Accumulates

namespace Events

def entryOf (event : Event) : Entry := ⟨event.body, event.stamp.read.toOption.join⟩

/-- Whether an event has the stamp of a moment. -/
def IsTimed (event : Event) : Prop := ∃ m, Stamp.ofMoment? m = some event.stamp

section
variable {event other : Event} {m : Moment}

theorem entryOf_eq (stamped : Stamp.ofMoment? m = some event.stamp) :
    entryOf event = ⟨event.body, some m.inUniversalTime⟩ := by
  rw [entryOf, Moment.read_of_ofMoment? stamped]
  rfl

theorem entry_of_isTimed (timed : IsTimed event) : entry event = .ok (entryOf event) := by
  obtain ⟨m, stamped⟩ := timed
  rw [entryOf_eq stamped, entry, Moment.read_of_ofMoment? stamped]

/-- The order of the stamps is that of the entries. -/
theorem goesBefore_iff (timed : IsTimed event) (timed' : IsTimed other) :
    event.GoesBefore other ↔ (entryOf event).GoesBefore (entryOf other) := by
  obtain ⟨m, stamped⟩ := timed
  obtain ⟨m', stamped'⟩ := timed'
  have entries : (entryOf event).GoesBefore (entryOf other) ↔ m'.instant ≤ m.instant := by
    rw [entryOf_eq stamped, entryOf_eq stamped', Entry.GoesBefore,
      ← Moment.instant_inUniversalTime stamped, ← Moment.instant_inUniversalTime stamped']
    simp
  rw [entries, Event.GoesBefore, ← Bool.not_eq_true, Moment.isBelow_iff_instant_lt stamped stamped',
    not_lt]

end

theorem run_list_congr {world other : World} {account : Bytes}
    (same : window account other.store = window account world.store) (scene : Scene) :
    (Session.run scene other (list account)).1 = (Session.run scene world (list account)).1 := by
  by_cases calm : scene.IsCalmAt .statement
  · rw [Http.run_eventList calm same, Http.run_eventList calm rfl]
  · obtain ⟨fault, planned, here⟩ := Scene.exists_planned_of_not_isCalmAt calm
    have hit (world : World) := Session.run_passes_of_planned planned world
    rw [here] at hit
    have fails (world : World) :
        Session.run scene world (list account) = (.error fault.failure, world) :=
      Session.run_bind_error (Session.run_bind_error (hit world) _) _
    rw [fails, fails]

/-- What is listed where all events of the window have the stamps of moments. -/
theorem run_list_of_isTimed {scene : Scene} {world : World} {account : Bytes}
    (unplanned : scene.fault = none) (timed : ∀ event ∈ window account world.store, IsTimed event) :
    (Session.run scene world (list account)).1 =
      .ok ((window account world.store).map entryOf) := by
  rw [Http.run_eventList (Scene.isCalmAt_of_fault_eq_none unplanned _) rfl]
  exact mapM_of_ok fun event member => entry_of_isTimed (timed event member)

/-- The listed entries take in that of an event that is added. -/
theorem run_list_of_takeIn {scene : Scene} {world after : World} {row : Event}
    (unplanned : scene.fault = none)
    (timed : ∀ event ∈ window row.account world.store, IsTimed event) (timedRow : IsTimed row)
    (shown : window row.account after.store =
      takeIn Event.GoesBefore row (window row.account world.store)) :
    (Session.run scene after (list row.account)).1 =
      .ok (takeIn Entry.GoesBefore (entryOf row)
        ((window row.account world.store).map entryOf)) := by
  have timedAfter : ∀ event ∈ window row.account after.store, IsTimed event := by
    rw [shown]
    intro event member
    rcases (List.mem_orderedInsert _).mp (List.mem_of_mem_take member) with rfl | old
    · exact timedRow
    · exact timed event old
  rw [run_list_of_isTimed unplanned timedAfter, shown,
    map_takeIn _ Entry.GoesBefore fun event member => goesBefore_iff timedRow (timed event member)]

end Events

/-- An event that is added for an account with a moment is taken into its window, just in front of the
first event whose stamp is not above its own, and what is then too many drops out; the window is what
is listed. Where all events of the account were added with moments, so it is with the entries that are
listed: the new one goes just in front of the first whose moment is not later. What is listed for other
accounts stays as it is. So an event that has dropped out of the window of its account does not come
back, as long as no event is removed. -/
theorem windows_take_in_what_is_added {scene : Scene} {world after : World}
    (reachable : world.store.Reachable) {node : Option Int} {account : Bytes} {kind : Option String}
    {body : String} {moment : Moment} {id : Nat}
    (done : Session.run scene world (Book.addEvent node (some account) kind (some body) moment) =
      (.ok id, after)) :
    (∃ row : Event, row.id = id ∧ row.account = account ∧ row.body = body ∧
      Stamp.ofMoment? moment = some row.stamp ∧
      Events.window account after.store =
        Events.takeIn Event.GoesBefore row (Events.window account world.store) ∧
      ∀ calm : Scene, calm.fault = none →
        (Session.run calm world (Events.list account)).1 =
          (Events.window account world.store).mapM Events.entry ∧
        (Session.run calm after (Events.list account)).1 =
          (Events.takeIn Event.GoesBefore row (Events.window account world.store)).mapM
            Events.entry) ∧
    (∀ moments, world.store.Recorded moments →
      (∀ event ∈ world.store.eventsOf account, ∃ m, moments event.id = some m) →
      moment.inUniversalTime.instant = moment.instant ∧
      ∃ entries, (∀ entry ∈ entries, ∃ m, entry.moment = some m) ∧
        ∀ calm : Scene, calm.fault = none →
          (Session.run calm world (Events.list account)).1 = .ok entries ∧
          (Session.run calm after (Events.list account)).1 =
            .ok (Events.takeIn Events.Entry.GoesBefore ⟨body, some moment.inUniversalTime⟩
              entries)) ∧
    (∀ other, other ≠ account → ∀ scene : Scene,
      (Session.run scene after (Events.list other)).1 =
        (Session.run scene world (Events.list other)).1) ∧
    ∀ start mid later : Store, start.Reachable → start.Accumulates mid → mid.Accumulates later →
      ∀ event, event ∈ Events.window event.account start →
        event ∉ Events.window event.account mid → event ∉ Events.window event.account later := by
  have next := reachable.after (.addEvent node (some account) kind (some body) moment) scene
  rw [done] at next
  obtain ⟨row, isNext, ofAccount, ofBody, stamped, named, _, rows⟩ :=
    Book.exists_row_of_run_addEvent done
  cases ofAccount
  cases ofBody
  have shown := Events.window_of_added reachable.sound next.sound isNext rows
  refine ⟨⟨row, named.symm, rfl, rfl, stamped, shown, fun calm unplanned => ?_⟩, ?_, ?_, ?_⟩
  · have statement := @Scene.isCalmAt_of_fault_eq_none calm unplanned .statement
    rw [Http.run_eventList statement rfl, Http.run_eventList statement shown]
    exact ⟨rfl, rfl⟩
  · intro moments recorded known
    have timed : ∀ event ∈ Events.window row.account world.store, Events.IsTimed event := by
      intro event member
      have own := Events.mem_eventsOf_of_mem_window member
      obtain ⟨m, added⟩ := known event own
      exact ⟨m, Http.ofMoment?_of_known recorded own added⟩
    refine ⟨Moment.instant_inUniversalTime stamped, _, ?_, fun calm unplanned =>
      ⟨Events.run_list_of_isTimed unplanned timed, ?_⟩⟩
    · intro entry member
      obtain ⟨event, old, rfl⟩ := List.mem_map.mp member
      obtain ⟨m, added⟩ := timed event old
      exact ⟨_, congrArg Events.Entry.moment (Events.entryOf_eq added)⟩
    · rw [← Events.entryOf_eq stamped]
      exact Events.run_list_of_takeIn unplanned timed ⟨moment, stamped⟩ shown
  · exact fun other elsewhere scene =>
      Events.run_list_congr (Events.window_of_added_elsewhere elsewhere rows) scene
  · intro start mid later reachable first second event shown hidden
    have row := ((Events.isWindow_window reachable.sound).mem event shown).1
    exact second.not_mem_window (first.reachable reachable) (first.kept row) hidden

section Repeated

/-- The clock of the third event is an hour and a half ahead, and it is of the same instant as the
second one. -/
def thirdMoment : Moment := ⟨⟨2024, 1, 1, 2, 0, 0, 0⟩, some 5400000000⟩

/-- One of many events of the account of zeros that are of the same instant. -/
def repeatedEvent (n : Nat) : Event :=
  ⟨n + 1, 1, List.replicate 32 0, "instantiation", "again", .text "2024-01-01 00:30:00"⟩

def Store.seenOften (n : Nat) : Store :=
  { Store.empty with
    nodes := ⟨[⟨1, "node", "ws://node", 0⟩], 2⟩
    events := ⟨(List.range n).map repeatedEvent, n + 1⟩ }

theorem Book.run_addEvent_seenOften (n : Nat) :
    Session.run Scene.calm ⟨Store.seenOften n, []⟩ (addEvent (some 1) (some (List.replicate 32 0))
      (some "instantiation") (some "again") thirdMoment) =
        (.ok (n + 1), ⟨Store.seenOften (n + 1), []⟩) := by
  refine run_addEvent rfl (show Stamp.ofMoment? thirdMoment = some (.text "2024-01-01 00:30:00") by
    decide +kernel) ?_
  rw [Store.seenOften, Store.seenOften, List.range_succ, List.map_append]
  rfl

namespace Store

theorem reachable_seenOften (n : Nat) : (seenOften n).Reachable := by
  induction n with
  | zero =>
    exact @Reachable.after _ _ ⟨empty, []⟩ .empty (.addNode (some "node") (some "ws://node") (some 0))
      Scene.calm
  | succ n ih =>
    have next := @Reachable.after _ _ ⟨seenOften n, []⟩ ih (.addEvent (some 1)
      (some (List.replicate 32 0)) (some "instantiation") (some "again") thirdMoment) Scene.calm
    rwa [Book.run_addEvent_seenOften] at next

theorem rows_seenOften_succ (n : Nat) :
    (seenOften (n + 1)).events.rows = (seenOften n).events.rows ++ [repeatedEvent n] := by
  simp [seenOften, List.range_succ]

theorem accumulates_seenOften (n more : Nat) : (seenOften n).Accumulates (seenOften (n + more)) := by
  induction more with
  | zero => exact .refl
  | succ more ih =>
    have next := @Accumulates.after _ _ _ ⟨seenOften (n + more), []⟩ ih (.addEvent (some 1)
      (some (List.replicate 32 0)) (some "instantiation") (some "again") thirdMoment) Scene.calm
    rw [Book.run_addEvent_seenOften] at next
    refine next fun event row => ?_
    rw [rows_seenOften_succ (n + more)]
    exact List.mem_append_left _ row

/-- The latest one always comes first. -/
theorem sorted_seenOften (n : Nat) : Events.sorted (List.replicate 32 0) (seenOften n) =
    ((List.range n).map repeatedEvent).reverse := by
  induction n with
  | zero => simp [Events.sorted, eventsOf, seenOften]
  | succ n ih =>
    have before (event : Event) (member : event ∈ ((List.range n).map repeatedEvent).reverse) :
        (repeatedEvent n).GoesBefore event := by
      obtain ⟨k, _, rfl⟩ := List.mem_map.mp (List.mem_reverse.mp member)
      exact (by decide +kernel : (Stamp.text "2024-01-01 00:30:00").isBelow
        (.text "2024-01-01 00:30:00") = false)
    have next := Events.sorted_of_added (reachable_seenOften n).sound
      (reachable_seenOften (n + 1)).sound (show (repeatedEvent n).id = _ from rfl)
      (rows_seenOften_succ n)
    have account : (repeatedEvent n).account = List.replicate 32 0 := rfl
    rw [account, ih] at next
    rw [next, List.range_succ, List.map_append, List.reverse_append]
    cases shown : ((List.range n).map repeatedEvent).reverse with
    | nil => rfl
    | cons event rest =>
      rw [shown] at before
      exact List.orderedInsert_cons_of_le _ _ (before event List.mem_cons_self)

end Store

theorem windows_take_in_what_is_added_seenTwice :
    (thirdMoment.instant = secondMoment.instant ∧ ∃ after,
      Session.run Scene.calm ⟨Store.seenTwice, []⟩ (Book.addEvent (some 1)
        (some (List.replicate 32 0)) (some "instantiation") (some "third") thirdMoment) =
          (.ok 3, after) ∧
      (Session.run Scene.calm after (Events.list (List.replicate 32 0))).1 =
        .ok [⟨"third", some thirdMoment.inUniversalTime⟩,
          ⟨"second", some secondMoment.inUniversalTime⟩,
          ⟨"first", some firstMoment.inUniversalTime⟩]) ∧
    repeatedEvent 0 ∈ Events.window (List.replicate 32 0) (Store.seenOften 25) ∧
    repeatedEvent 0 ∉ Events.window (List.replicate 32 0) (Store.seenOften 26) ∧
    repeatedEvent 0 ∉ Events.window (List.replicate 32 0) (Store.seenOften 27) := by
  have stamped : Stamp.ofMoment? thirdMoment = some (.text "2024-01-01 00:30:00") := by
    decide +kernel
  have done := @Book.run_addEvent Scene.calm ⟨Store.seenTwice, []⟩ (some 1)
    (some (List.replicate 32 0)) (some "instantiation") (some "third") thirdMoment _ 3 _ rfl stamped
    rfl
  obtain ⟨_, listed, _, dropped⟩ :=
    windows_take_in_what_is_added Store.recorded_seenTwice.reachable done
  have known : ∀ event ∈ Store.seenTwice.eventsOf (List.replicate 32 0), ∃ m,
      Function.update (Function.update (fun _ => none) 1 (some firstMoment)) 2 (some secondMoment)
        event.id = some m := fun event member => ⟨_, Http.known_seenTwice event member⟩
  obtain ⟨_, entries, _, told⟩ := listed _ Store.recorded_seenTwice known
  obtain ⟨before, now⟩ := told Scene.calm rfl
  have shown : repeatedEvent 0 ∈ Events.window (List.replicate 32 0) (Store.seenOften 25) := by
    rw [Events.window_eq_take, Store.sorted_seenOften]
    decide +kernel
  have hidden : repeatedEvent 0 ∉ Events.window (List.replicate 32 0) (Store.seenOften 26) := by
    rw [Events.window_eq_take, Store.sorted_seenOften]
    decide +kernel
  refine ⟨⟨by decide +kernel, _, done, ?_⟩, shown, hidden, ?_⟩
  · have stampedTwo : ∀ event ∈ [secondEvent, firstEvent],
        Stamp.ofMoment? (if event.id = 1 then firstMoment else secondMoment) = some event.stamp := by
      decide +kernel
    have two : (Session.run Scene.calm ⟨Store.seenTwice, []⟩
        (Events.list (List.replicate 32 0))).1 = .ok
          [⟨"second", some secondMoment.inUniversalTime⟩,
            ⟨"first", some firstMoment.inUniversalTime⟩] :=
      congrArg Prod.fst (Http.run_eventList_of_stamped rfl Http.window_seenTwice stampedTwo)
    cases before.symm.trans two
    have first : Events.Entry.GoesBefore ⟨"third", some thirdMoment.inUniversalTime⟩
        ⟨"second", some secondMoment.inUniversalTime⟩ := by decide +kernel
    rw [now, Events.takeIn, List.orderedInsert_cons_of_le _ _ first]
    rfl
  · exact dropped _ _ _ (Store.reachable_seenOften 25) (Store.accumulates_seenOften 25 1)
      (Store.accumulates_seenOften 26 1) (repeatedEvent 0) shown hidden

end Repeated
end AddressBook
