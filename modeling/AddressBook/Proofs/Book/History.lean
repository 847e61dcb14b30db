import AddressBook.Proofs.Book.Reachable
import AddressBook.Proofs.Moment.Stamp
import AddressBook.Proofs.Store.Growth
import Mathlib.Logic.Function.Basic

namespace AddressBook

/-- The tables that pieces of work lead to, and for the ids of events the moments with which they
were added, where they were. -/
inductive Store.Recorded : Store → (Nat → Option Moment) → Prop
  | empty : Store.Recorded Store.empty fun _ => none
  | added {world after : World} {moments : Nat → Option Moment} {node : Option Int}
      {account : Option Bytes} {kind body : Option String} {moment : Moment} {scene : Scene} {id : Nat}
      (recorded : Store.Recorded world.store moments)
      (done : Session.run scene world (Book.addEvent node account kind body moment) =
        (.ok id, after)) :
      Store.Recorded after.store (Function.update moments id (some moment))
  | after {α : Type} {session : Session α} {world : World} {moments : Nat → Option Moment}
      (recorded : Store.Recorded world.store moments) (work : Work session) (scene : Scene) :
      Store.Recorded (Session.run scene world session).2.store moments

namespace Store

theorem Recorded.reachable {s : Store} {moments : Nat → Option Moment}
    (recorded : s.Recorded moments) : s.Reachable := by
  induction recorded with
  | empty => exact .empty
  | @added world after moments node account kind body moment scene id _ done ih =>
    have next := ih.after (.addEvent node account kind body moment) scene
    rwa [done] at next
  | after _ work scene ih => exact ih.after work scene

/-- An insertion that is made of an event puts it behind all others, with the values that were given
and a new id. -/
theorem exists_row_of_insertEvent {s after : Store} {node : Option Int} {account : Option Bytes}
    {kind body : Option String} {stamp : Option Stamp} {id : Nat}
    (h : insertEvent node account kind body stamp s = .ok (id, after)) :
    ∃ row : Event, row.id = s.events.nextId ∧ account = some row.account ∧ kind = some row.kind ∧
      body = some row.body ∧ stamp = some row.stamp ∧ id = row.id ∧
      after = { s with events := ⟨s.events.rows ++ [row], row.id + 1⟩ } := by
  have present {α : Type} {column : String} {given : Option α} {value : α}
      (required : require column given = .ok value) : given = some value := by
    cases given with
    | none => cases required
    | some own =>
      cases required
      rfl
  unfold insertEvent at h
  obtain ⟨account, ofAccount, h⟩ := exists_of_bind_eq_ok h
  obtain ⟨kind, ofKind, h⟩ := exists_of_bind_eq_ok h
  obtain ⟨body, ofBody, h⟩ := exists_of_bind_eq_ok h
  obtain ⟨stamp, ofStamp, h⟩ := exists_of_bind_eq_ok h
  obtain ⟨n, _, h⟩ := exists_of_bind_eq_ok h
  obtain ⟨_, _, h⟩ := exists_of_bind_eq_ok h
  obtain ⟨node, _, h⟩ := exists_of_bind_eq_ok h
  cases h
  exact ⟨⟨_, node, account, kind, body, stamp⟩, rfl, present ofAccount, present ofKind,
    present ofBody, present ofStamp, rfl, rfl⟩

end Store

/-- An event is added with the stamp of its moment. -/
theorem Book.insertEvent_of_run_addEvent {scene : Scene} {world after : World} {node : Option Int}
    {account : Option Bytes} {kind body : Option String} {moment : Moment} {id : Nat}
    (done : Session.run scene world (addEvent node account kind body moment) = (.ok id, after)) :
    ∃ stamp, Stamp.ofMoment? moment = some stamp ∧
      Store.insertEvent node account kind body (some stamp) world.store = .ok (id, after.store) := by
  rw [addEvent_eq] at done
  simp only at done
  generalize Stamp.ofMoment? moment = stamped at done ⊢
  cases stamped with
  | none => cases done
  | some stamp =>
    refine ⟨stamp, rfl, ?_⟩
    have run : Session.run scene world
        (insert (Store.insertEvent node account kind body (some stamp))) = (.ok id, after) := done
    have change := Session.change_of_run_execute run
    cases inserted : Store.insertEvent node account kind body (some stamp) world.store with
    | error e =>
      rw [inserted] at change
      cases change
    | ok made =>
      rw [inserted] at change
      exact congrArg Except.ok (Except.ok.inj change)

theorem Book.exists_row_of_run_addEvent {scene : Scene} {world after : World} {node : Option Int}
    {account : Option Bytes} {kind body : Option String} {moment : Moment} {id : Nat}
    (done : Session.run scene world (addEvent node account kind body moment) = (.ok id, after)) :
    ∃ row : Event, row.id = world.store.events.nextId ∧ account = some row.account ∧
      body = some row.body ∧ Stamp.ofMoment? moment = some row.stamp ∧ id = row.id ∧
      after.store.events.nextId = row.id + 1 ∧
      after.store.events.rows = world.store.events.rows ++ [row] := by
  obtain ⟨stamp, stamped, inserted⟩ := insertEvent_of_run_addEvent done
  obtain ⟨row, isNext, ofAccount, _, ofBody, ofStamp, named, left⟩ :=
    Store.exists_row_of_insertEvent inserted
  rw [left]
  exact ⟨row, isNext, ofAccount, ofBody, stamped.trans ofStamp, named, rfl, rfl⟩

namespace Store

/-- The event with an id has the stamp of the moment that is recorded for it. -/
theorem Recorded.stamped {s : Store} {moments : Nat → Option Moment} (recorded : s.Recorded moments) :
    ∀ id moment, moments id = some moment → id < s.events.nextId ∧
      ∀ event ∈ s.events.rows, event.id = id → Stamp.ofMoment? moment = some event.stamp := by
  induction recorded with
  | empty => exact nofun
  | @added world after moments node account kind body moment scene new recorded done ih =>
    obtain ⟨row, isNext, _, _, stamped, rfl, next, rows⟩ := Book.exists_row_of_run_addEvent done
    intro id moment' known
    rw [next, rows]
    by_cases same : id = row.id
    · subst same
      cases (Function.update_self row.id (some moment) moments).symm.trans known
      refine ⟨Nat.lt_succ_self _, fun event member own => ?_⟩
      rcases List.mem_append.mp member with old | added
      · have below := recorded.reachable.sound.events.given event old
        omega
      · rw [List.mem_singleton.mp added]
        exact stamped
    · rw [Function.update_of_ne same] at known
      obtain ⟨below, stamps⟩ := ih id moment' known
      refine ⟨by omega, fun event member own => ?_⟩
      rcases List.mem_append.mp member with old | added
      · exact stamps event old own
      · rw [List.mem_singleton.mp added] at own
        exact absurd own.symm same
  | @after α session world moments _ work scene ih =>
    intro id moment known
    obtain ⟨below, stamps⟩ := ih id moment known
    rcases work.changesOnce scene world with same | change
    · rw [same]
      exact ⟨below, stamps⟩
    · obtain ⟨grows, events⟩ := change.grows.events
      refine ⟨by omega, fun event member own => ?_⟩
      rcases events event member with old | new
      · exact stamps event old own
      · omega

/-- Where all events were added with moments, their stamps are read as moments. -/
theorem Recorded.timed {s : Store} {moments : Nat → Option Moment} (recorded : s.Recorded moments)
    (known : ∀ event ∈ s.events.rows, ∃ moment, moments event.id = some moment) :
    ∀ event ∈ s.events.rows, ∃ moment, event.stamp.read = .ok (some moment) := by
  intro event member
  obtain ⟨moment, added⟩ := known event member
  obtain ⟨_, stamps⟩ := recorded.stamped event.id moment added
  exact ⟨_, Moment.read_of_ofMoment? (stamps event member rfl)⟩

end Store
end AddressBook
