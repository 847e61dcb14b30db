import AddressBook.Proofs.Http.Answering
import AddressBook.Proofs.Listing

namespace AddressBook

namespace Events

/-- Whether the times of items do not increase. -/
def InOrder (items : List Item) : Prop := items.Pairwise fun a b => b.seconds ≤ a.seconds

section
variable {s : Store} {account : Bytes} {moment : Event → Moment}

/-- The items of a window of events that have the stamps of moments. -/
theorem items_of_stamped
    (stamped : ∀ event ∈ window account s, Stamp.ofMoment? (moment event) = some event.stamp) :
    items account s =
      .ok ((window account s).map fun event => ⟨event.body, (moment event).unixSeconds⟩) := by
  have read : (window account s).mapM entry = .ok ((window account s).map fun event =>
      ⟨event.body, some (moment event).inUniversalTime⟩) := by
    refine mapM_of_ok fun event member => ?_
    rw [entry, Moment.read_of_ofMoment? (stamped event member)]
  rw [items_of_entries read, List.mapM_map]
  refine mapM_of_ok fun event member => ?_
  have same := Moment.unixSeconds_congr (Moment.instant_inUniversalTime (stamped event member))
  exact congrArg (fun seconds => Except.ok (Item.mk event.body seconds)) same

theorem inOrder_of_stamped (sound : s.Sound)
    (stamped : ∀ event ∈ window account s, Stamp.ofMoment? (moment event) = some event.stamp) :
    InOrder ((window account s).map fun event => ⟨event.body, (moment event).unixSeconds⟩) := by
  refine List.pairwise_map.mpr ((isWindow_window sound).descending.imp_of_mem ?_)
  intro a b member member' above
  rcases (isAbove_iff_instant (stamped a member) (stamped b member')).mp above with
    later | ⟨same, _⟩
  · exact Moment.unixSeconds_mono later.le
  · exact Moment.unixSeconds_mono same.le

end
end Events

section
variable {scene : Scene} {world : World} {account : Bytes} {items : List Events.Item}

theorem Listing.eq_output_of_run {arguments : List String} {options : Options} {printed : String}
    (shown : Events.items account world.store = .ok items) (parsed : parse arguments = .ok options)
    (decoded : Address.decode options.account = .ok account)
    (done : (Session.run scene world (run arguments)).1 = .ok printed) :
    printed = output options.json items := by
  rw [run_eq_command parsed] at done
  rcases @run_command_fails_or_prints scene options.account options.json account decoded world with
    ⟨failure, _, fails⟩ | ⟨others, _, shown', prints⟩
  · rw [fails] at done
    cases done
  · cases shown.symm.trans shown'
    rw [prints] at done
    cases done
    rfl

theorem Http.eq_items_of_listed {request : Request} {text : String} {response : Response}
    {values : List Json} (shown : Events.items account world.store = .ok items)
    (reached : route? request.path = some (.contractEvents text))
    (decoded : Address.decode text = .ok account)
    (answered : (Session.run scene world (handle request)).1 = .ok response)
    (listed : response.body = .json (.array values)) : values = items.map (·.toJson) := by
  obtain ⟨after, own⟩ := exists_run_of_listed reached answered listed
  have run : Session.run scene world (listEvents text) = (.ok response, after) := own
  rcases @run_listEvents_fails_or_shows scene text account decoded world with
    ⟨failure, _, fails⟩ | ⟨others, _, shown', shows⟩
  · cases fails.symm.trans run
  · cases shown.symm.trans shown'
    cases shows.symm.trans run
    cases listed
    rfl

end

namespace Http

/-- The seconds of moments are in the order of their instants. So for tables that can come about, where
it is recorded with which moments the events of an account were added, it has items whose times do
not increase. Whatever fails, no other list is answered for a text that names the account, and nothing
else is printed; and if nothing fails, they are. -/
theorem times_are_shown_in_order {world : World} {moments : Nat → Option Moment}
    (recorded : world.store.Recorded moments) (account : Bytes) {moment : Event → Moment}
    (known : ∀ event ∈ world.store.eventsOf account, moments event.id = some (moment event)) :
    (∀ m other : Moment, m.instant ≤ other.instant → m.unixSeconds ≤ other.unixSeconds) ∧
    ∃ items, Events.items account world.store = .ok items ∧ Events.InOrder items ∧
      (∀ scene request text response values, route? request.path = some (.contractEvents text) →
        Address.decode text = .ok account →
        (Session.run scene world (handle request)).1 = .ok response →
        response.body = .json (.array values) → values = items.map (·.toJson)) ∧
      (∀ scene arguments options printed, Listing.parse arguments = .ok options →
        Address.decode options.account = .ok account →
        (Session.run scene world (Listing.run arguments)).1 = .ok printed →
        printed = Listing.output options.json items) ∧
      ∀ scene : Scene, scene.fault = none →
        (∀ request text, AsksForEvents request text → Address.decode text = .ok account →
          (Session.run scene world (handle request)).1 =
            .ok (Response.list (items.map (·.toJson)))) ∧
        ∀ arguments options, Listing.parse arguments = .ok options →
          Address.decode options.account = .ok account →
          (Session.run scene world (Listing.run arguments)).1 =
            .ok (Listing.output options.json items) := by
  have sound := recorded.reachable.sound
  have stamped : ∀ event ∈ Events.window account world.store,
      Stamp.ofMoment? (moment event) = some event.stamp := fun event member =>
    have own := Events.mem_eventsOf_of_mem_window member
    ofMoment?_of_known recorded own (known event own)
  have shown := Events.items_of_stamped stamped
  refine ⟨fun _ _ => Moment.unixSeconds_mono, _, shown, Events.inOrder_of_stamped sound stamped,
    ?_, ?_, fun scene unplanned => ⟨?_, ?_⟩⟩
  · intro scene request text response values reached decoded answered listed
    exact eq_items_of_listed shown reached decoded answered listed
  · intro scene arguments options printed parsed decoded done
    exact Listing.eq_output_of_run shown parsed decoded done
  · intro request text asks decoded
    rw [asks.run_handle decoded unplanned rfl stamped, List.map_map]
    rfl
  · intro arguments options parsed decoded
    have done := @Listing.run_command_of_calm scene options.account options.json account decoded
      (Scene.isCalmAt_of_fault_eq_none unplanned .statement) world
    rw [shown] at done
    rw [Listing.run_eq_command parsed, done]
    rfl

/-- The clock of the first event shows a later time than that of the second one. -/
theorem times_are_shown_in_order_seenTwice :
    (secondMoment.clock.micros < firstMoment.clock.micros ∧
      firstMoment.instant < secondMoment.instant) ∧
    Store.seenTwice.Recorded (Function.update (Function.update (fun _ => none) 1 (some firstMoment))
      2 (some secondMoment)) ∧
    ∃ items, Events.items (List.replicate 32 0) Store.seenTwice = .ok items ∧
      Events.InOrder items ∧ items.map (·.seconds) = [1704069000, 1704063600] ∧
      (Session.run Scene.calm ⟨Store.seenTwice, []⟩ (handle (seeZeros []))).1 =
        .ok (Response.list (items.map (·.toJson))) := by
  have recorded := Store.recorded_seenTwice
  obtain ⟨_, items, shown, inOrder, _, _, calm⟩ :=
    @times_are_shown_in_order ⟨Store.seenTwice, []⟩ _ recorded (List.replicate 32 0) _ known_seenTwice
  have listed := @Events.items_of_stamped Store.seenTwice (List.replicate 32 0) _ fun event member =>
    have own := Events.mem_eventsOf_of_mem_window member
    ofMoment?_of_known recorded own (known_seenTwice event own)
  have answered := (calm Scene.calm rfl).1 _ _ asksForEvents_seeZeros decode_zeros
  refine ⟨⟨by decide +kernel, by decide +kernel⟩, recorded, items, shown, inOrder, ?_, answered⟩
  rw [window_seenTwice] at listed
  cases shown.symm.trans listed
  rw [← unixSeconds_firstMoment, ← unixSeconds_secondMoment]
  rfl

end Http
end AddressBook
