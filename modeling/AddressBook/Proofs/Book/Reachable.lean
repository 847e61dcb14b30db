import AddressBook.Book
import AddressBook.Listing.Command
import AddressBook.Proofs.Http.Unlinking
import AddressBook.Proofs.Store.Sound

namespace AddressBook

/-- The pieces of work that are done on the tables. -/
inductive Work : {α : Type} → Session α → Prop
  | addUser : Work Book.addUser
  | addToken (user : Option Int) (token : String) : Work (Book.addToken user token)
  | keepToken (token : Book.NewToken) : Work (Book.keepToken token)
  | addKey (user : Option Int) (address : Option Bytes) : Work (Book.addKey user address)
  | addNode (name url : Option String) (confirmedBlock : Option Int) :
      Work (Book.addNode name url confirmedBlock)
  | addCode (hash code : Option Bytes) : Work (Book.addCode hash code)
  | addContract (node : Option Int) (codeHash address owner : Option Bytes) :
      Work (Book.addContract node codeHash address owner)
  | addStampedEvent (node : Option Int) (account : Option Bytes) (kind body : Option String)
      (stamp : Option Stamp) : Work (Book.addStampedEvent node account kind body stamp)
  | addEvent (node : Option Int) (account : Option Bytes) (kind body : Option String)
      (moment : Moment) : Work (Book.addEvent node account kind body moment)
  | remove (kind : RowKind) (id : Int) : Work (Book.remove kind id)
  | unlink (user : Int) (address : Bytes) : Work (Keys.deleteFor user address)
  | handle (request : Http.Request) : Work (Http.handle request)
  | list (arguments : List String) : Work (Listing.run arguments)

/-- The tables that pieces of work lead to, whether they fail or not. -/
inductive Store.Reachable : Store → Prop
  | empty : Store.Reachable Store.empty
  | after {α : Type} {session : Session α} {world : World} (reachable : Store.Reachable world.store)
      (work : Work session) (scene : Scene) :
      Store.Reachable (Session.run scene world session).2.store

namespace Session

/-- Whatever comes of the session, it makes one change at most. -/
def ChangesOnce (session : Session α) : Prop :=
  ∀ scene world, (run scene world session).2.store = world.store ∨
    Store.Change world.store (run scene world session).2.store

theorem ReadsOnly.changesOnce {session : Session α} (reads : ReadsOnly session) :
    ChangesOnce session := fun scene world => Or.inl (reads scene world)

theorem ReadsOnly.bind_changesOnce {first : Session α} {next : α → Session β}
    (reads : ReadsOnly first) (rest : ∀ value, ChangesOnce (next value)) :
    ChangesOnce (first >>= next) := by
  intro scene world
  have before := reads scene world
  rw [run_bind]
  rcases h : run scene world first with ⟨outcome, after⟩
  rw [h] at before
  cases outcome with
  | error failure => exact Or.inl before
  | ok value =>
    have changed := rest value scene after
    rwa [before] at changed

theorem ChangesOnce.bind_readsOnly {first : Session α} {next : α → Session β}
    (changes : ChangesOnce first) (rest : ∀ value, ReadsOnly (next value)) :
    ChangesOnce (first >>= next) := by
  intro scene world
  have changed := changes scene world
  rw [run_bind]
  rcases h : run scene world first with ⟨outcome, after⟩
  rw [h] at changed
  cases outcome with
  | error failure => exact changed
  | ok value =>
    simp only
    rwa [rest value scene after]

theorem changesOnce_execute {change : Store → Except Failure (α × Store)}
    (one : ∀ {s value after}, change s = .ok (value, after) → Store.Change s after) :
    ChangesOnce (execute change) := by
  intro scene world
  rcases store_run_execute scene world change with same | ⟨value, changed⟩
  · exact Or.inl same
  · exact Or.inr (one changed)

theorem changesOnce_execute_ok {change : Store → α × Store}
    (one : ∀ s, Store.Change s (change s).2) :
    ChangesOnce (execute fun store => .ok (change store)) := by
  refine changesOnce_execute fun {s value after} changed => ?_
  have same : (change s).2 = after := congrArg Prod.snd (Except.ok.inj changed)
  exact same ▸ one s

end Session

namespace Book
open Session

theorem changesOnce_insert {insertion : Store → Store.Insertion}
    (one : ∀ {s id after}, insertion s = .ok (id, after) → Store.Change s after) :
    ChangesOnce (insert insertion) := by
  refine changesOnce_execute fun {s value after} changed => ?_
  cases made : insertion s with
  | error e =>
    rw [made] at changed
    cases changed
  | ok added =>
    rw [made] at changed
    exact one (made.trans (congrArg Except.ok (Except.ok.inj changed)))

theorem changesOnce_addUser : ChangesOnce addUser := changesOnce_execute_ok fun _ => .addUser

/-- Stated of the function as a whole: with a moment put in, checking it would run the calendar. -/
theorem addEvent_eq : addEvent = fun node account kind body moment =>
    match Stamp.ofMoment? moment with
    | some stamp => addStampedEvent node account kind body (some stamp)
    | none => fail (.fault .overflow "date value out of range") := rfl

theorem changesOnce_addEvent (node : Option Int) (account : Option Bytes) (kind body : Option String)
    (moment : Moment) : ChangesOnce (addEvent node account kind body moment) := by
  rw [addEvent_eq]
  simp only []
  generalize Stamp.ofMoment? moment = stamped
  cases stamped with
  | some stamp => exact changesOnce_insert Store.change_of_insertEvent
  | none => exact (readsOnly_fail _).changesOnce

theorem readsOnly_find (kind : RowKind) (id : Int) : ReadsOnly (find kind id) := by
  refine (readsOnly_query _).bind fun found => ?_
  cases found with
  | none => exact readsOnly_fail _
  | some n => exact readsOnly_pure n

theorem changesOnce_remove (kind : RowKind) (id : Int) : ChangesOnce (remove kind id) := by
  refine (readsOnly_find kind id).bind_changesOnce fun n => ?_
  refine ChangesOnce.bind_readsOnly ?_ fun counts => readsOnly_pure _
  exact changesOnce_execute_ok fun _ => .removeRow kind n

end Book

open Session

theorem Keys.changesOnce_deleteFor (user : Int) (address : Bytes) :
    ChangesOnce (deleteFor user address) := by
  refine ReadsOnly.bind_changesOnce ?_ fun _ => ?_
  · refine (readsOnly_passes _).bind fun _ => ?_
    split
    · exact readsOnly_pure _
    · exact readsOnly_fail _
  · intro scene world
    by_cases undisturbed : Undisturbed scene
    · rw [run_delete undisturbed]
      exact Or.inr (.unlink user address)
    · exact Or.inl (isStopped_delete undisturbed world user address).store

theorem Http.changesOnce_handle (request : Request) : ChangesOnce (handle request) := by
  intro scene world
  rcases store_run_handle_cases request scene world with ⟨user, address, _, left⟩ | same
  · rw [left]
    exact Or.inr (.unlink user.id address)
  · exact Or.inl same

theorem Listing.readsOnly_run (arguments : List String) : ReadsOnly (run arguments) := by
  refine (readsOnly_ofExcept _).bind fun options => (readsOnly_ofExcept _).bind fun account => ?_
  refine (Http.readsOnly_eventList account).bind fun entries => ?_
  exact (readsOnly_ofExcept _).bind fun items => readsOnly_pure _

/-- Every piece of work makes one change at most. -/
theorem Work.changesOnce {session : Session α} (work : Work session) : ChangesOnce session := by
  cases work with
  | addUser => exact Book.changesOnce_addUser
  | addToken user token => exact Book.changesOnce_insert Store.change_of_insertToken
  | keepToken token => exact Book.changesOnce_insert Store.change_of_insertToken
  | addKey user address => exact Book.changesOnce_insert Store.change_of_insertKey
  | addNode name url confirmedBlock => exact Book.changesOnce_insert Store.change_of_insertNode
  | addCode hash code => exact Book.changesOnce_insert Store.change_of_insertCode
  | addContract node codeHash address owner =>
    exact Book.changesOnce_insert Store.change_of_insertContract
  | addStampedEvent node account kind body stamp =>
    exact Book.changesOnce_insert Store.change_of_insertEvent
  | addEvent node account kind body moment =>
    exact Book.changesOnce_addEvent node account kind body moment
  | remove kind id => exact Book.changesOnce_remove kind id
  | unlink user address => exact Keys.changesOnce_deleteFor user address
  | handle request => exact Http.changesOnce_handle request
  | list arguments => exact (Listing.readsOnly_run arguments).changesOnce

/-- What is required of the tables holds of all that can come about. -/
theorem Store.Reachable.sound {s : Store} (reachable : s.Reachable) : s.Sound := by
  induction reachable with
  | empty => exact sound_empty
  | @after _ session world _ work scene ih =>
    rcases work.changesOnce scene world with same | change
    · rwa [same]
    · exact change.sound ih

/-- An insertion that is made leads to tables that can come about. -/
theorem Store.Reachable.insert {s after : Store} {insertion : Store → Store.Insertion} {id : Nat}
    (reachable : s.Reachable) (work : Work (Book.insert insertion))
    (made : insertion s = .ok (id, after)) : after.Reachable := by
  have done : (insertion s).mapError InsertError.failure = .ok (id, after) := by
    rw [made]
    rfl
  have step := @Reachable.after _ _ ⟨s, []⟩ reachable work ⟨false, 42, none⟩
  have calm := @Scene.isCalmAt_of_fault_eq_none ⟨false, 42, none⟩ rfl
  rwa [Book.insert, Session.run_execute_of_isCalmAt (calm _) done] at step

end AddressBook
