import AddressBook.Proofs.Book.Writes
import AddressBook.Proofs.Http.Answering
import AddressBook.Proofs.Store.Growth

namespace AddressBook

/-- The tables that further pieces of work lead to, whether they fail or not. -/
inductive Store.LeadsTo (s : Store) : Store → Prop
  | refl : s.LeadsTo s
  | after {α : Type} {session : Session α} {world : World} (run : s.LeadsTo world.store)
      (work : Work session) (scene : Scene) :
      s.LeadsTo (Session.run scene world session).2.store

theorem Work.grows {session : Session α} (work : Work session) (scene : Scene) (world : World) :
    world.store.Grows (Session.run scene world session).2.store := by
  rcases work.changesOnce scene world with same | change
  · rw [same]
    exact .refl world.store
  · exact change.grows

theorem Store.LeadsTo.grows {s later : Store} (run : s.LeadsTo later) : s.Grows later := by
  induction run with
  | refl => exact .refl s
  | @after _ _ world _ work scene ih => exact ih.trans (work.grows scene world)

namespace Session

/-- Whether the tables are as they were when the session has failed. -/
def KeepsOnFailure (session : Session α) : Prop :=
  ∀ scene world failure after, run scene world session = (.error failure, after) →
    after.store = world.store

theorem ReadsOnly.keepsOnFailure {session : Session α} (reads : ReadsOnly session) :
    KeepsOnFailure session := by
  intro scene world failure after failed
  have same := reads scene world
  rwa [failed] at same

theorem ReadsOnly.bind_keepsOnFailure {first : Session α} {next : α → Session β}
    (reads : ReadsOnly first) (rest : ∀ value, KeepsOnFailure (next value)) :
    KeepsOnFailure (first >>= next) := by
  intro scene world failure after failed
  have before := reads scene world
  rw [run_bind] at failed
  rcases h : run scene world first with ⟨outcome, between⟩
  rw [h] at before failed
  cases outcome with
  | error other =>
    cases failed
    exact before
  | ok value => exact (rest value scene between failure after failed).trans before

/-- What is certain to come out well may follow. -/
theorem KeepsOnFailure.bind_pure {session : Session α} (keeps : KeepsOnFailure session)
    (f : α → β) : KeepsOnFailure (session >>= fun value => pure (f value)) := by
  intro scene world failure after failed
  rw [run_bind] at failed
  rcases h : run scene world session with ⟨outcome, between⟩
  rw [h] at failed
  cases outcome with
  | error other =>
    cases failed
    exact keeps scene world failure _ h
  | ok value => cases failed

theorem keepsOnFailure_execute (change : Store → Except Failure (α × Store)) :
    KeepsOnFailure (execute change) := by
  intro scene world failure after failed
  by_cases calm : scene.IsCalmAt .statement
  · unfold execute at failed
    rw [run_bind_ok (run_passes_of_isCalmAt calm world), run_bind_ok (run_get scene world)] at failed
    cases made : change world.store with
    | error e =>
      rw [made] at failed
      cases failed
      rfl
    | ok value =>
      rw [made] at failed
      cases failed
  · obtain ⟨e, fails⟩ := run_execute_of_not_isCalmAt calm world change
    cases fails.symm.trans failed
    rfl

theorem keepsOnFailure_atomically (session : Session α) : KeepsOnFailure (atomically session) :=
  fun _ _ _ _ failed => store_run_atomically_of_error failed

end Session

open Session

theorem Book.keepsOnFailure_insert (insertion : Store → Store.Insertion) :
    KeepsOnFailure (insert insertion) := keepsOnFailure_execute _

theorem Book.keepsOnFailure_addEvent (node : Option Int) (account : Option Bytes)
    (kind body : Option String) (moment : Moment) :
    KeepsOnFailure (addEvent node account kind body moment) := by
  rw [addEvent_eq]
  simp only []
  generalize Stamp.ofMoment? moment = stamped
  cases stamped with
  | some stamp => exact keepsOnFailure_insert _
  | none => exact (readsOnly_fail _).keepsOnFailure

theorem Keys.readsOnly_checkId (user : Int) : ReadsOnly (checkId user) := by
  refine (readsOnly_passes _).bind fun _ => ?_
  split
  · exact readsOnly_pure _
  · exact readsOnly_fail _

/-- Work that fails leaves no trace in the tables. -/
theorem Work.keepsOnFailure {session : Session α} (work : Work session) : KeepsOnFailure session := by
  cases work with
  | addUser => exact keepsOnFailure_execute _
  | addToken user token => exact Book.keepsOnFailure_insert _
  | keepToken token => exact Book.keepsOnFailure_insert _
  | addKey user address => exact Book.keepsOnFailure_insert _
  | addNode name url confirmedBlock => exact Book.keepsOnFailure_insert _
  | addCode hash code => exact Book.keepsOnFailure_insert _
  | addContract node codeHash address owner => exact Book.keepsOnFailure_insert _
  | addStampedEvent node account kind body stamp => exact Book.keepsOnFailure_insert _
  | addEvent node account kind body moment =>
    exact Book.keepsOnFailure_addEvent node account kind body moment
  | remove kind id =>
    exact (Book.readsOnly_find kind id).bind_keepsOnFailure fun n =>
      (keepsOnFailure_execute _).bind_pure _
  | unlink user address =>
    exact (Keys.readsOnly_checkId user).bind_keepsOnFailure fun _ => keepsOnFailure_atomically _
  | handle request =>
    intro scene world failure after failed
    obtain ⟨response, left, answered⟩ := Http.exists_run_handle request scene world
    cases answered.symm.trans failed
  | list arguments => exact (Listing.readsOnly_run arguments).keepsOnFailure

/-- A request that is not answered with success leaves the tables alone. -/
theorem Http.store_run_handle_of_refused {scene : Scene} {world after : World} {request : Request}
    {response : Response} (answered : run scene world (handle request) = (.ok response, after))
    (refused : response.status ≠ 200) : after.store = world.store := by
  rcases store_run_handle_cases request scene world with ⟨user, address, unlinks, _⟩ | same
  · cases unlinks.run_handle.symm.trans answered
    exact absurd rfl refused
  · rwa [answered] at same

theorem Book.mem_ids_of_run_find {scene : Scene} {world after : World} {kind : RowKind} {id : Int}
    {n : Nat} (found : run scene world (find kind id) = (.ok n, after)) :
    n ∈ world.store.ids kind ∧ (n : Int) = id ∧ after = world := by
  by_cases calm : scene.IsCalmAt .statement
  · unfold find at found
    rw [run_bind_ok (run_query_of_isCalmAt calm world _)] at found
    cases searched : (world.store.ids kind).find? fun (n : Nat) => (n : Int) == id with
    | none =>
      rw [searched] at found
      cases found
    | some m =>
      rw [searched] at found
      cases found
      have same := List.find?_some searched
      exact ⟨List.mem_of_find?_eq_some searched, eq_of_beq same, rfl⟩
  · obtain ⟨failure, fails⟩ := run_passes_of_not_isCalmAt calm world
    have stopped : run scene world (find kind id) = (.error failure, world) :=
      run_bind_error (run_bind_error fails _) _
    cases stopped.symm.trans found

theorem Book.store_of_run_remove {scene : Scene} {world after : World} {kind : RowKind} {id : Int}
    {counts : List (RowKind × Nat)} (done : run scene world (remove kind id) = (.ok counts, after)) :
    ∃ n ∈ world.store.ids kind, (n : Int) = id ∧ after.store = (world.store.removeRow kind n).2 := by
  unfold remove at done
  rw [run_bind] at done
  rcases found : run scene world (find kind id) with ⟨outcome, between⟩
  rw [found] at done
  cases outcome with
  | error failure => cases done
  | ok n =>
    obtain ⟨member, same, rfl⟩ := mem_ids_of_run_find found
    simp only at done
    rw [run_bind] at done
    rcases removed : run scene between (execute fun store => .ok (store.removeRow kind n)) with
      ⟨result, left⟩
    rw [removed] at done
    cases result with
    | error failure => cases done
    | ok value =>
      cases done
      have change := change_of_run_execute removed
      exact ⟨n, member, same, (congrArg Prod.snd (Except.ok.inj change)).symm⟩

/-- With a user go the tokens and the keys of this user, and nothing else. -/
theorem Store.removeRow_user (s : Store) (n : Nat) :
    (s.removeRow .user n).2 =
      { s with
        users := { s.users with rows := s.users.rows.filter fun row => row.id ≠ n }
        tokens := { s.tokens with rows := s.tokens.rows.filter fun row => row.user ≠ n }
        keys := { s.keys with rows := s.keys.rows.filter fun row => row.user ≠ n } } := by
  have differs (m : Nat) : (!(m == n)) = decide (m ≠ n) := by
    rw [Bool.eq_iff_iff, Bool.not_eq_true', decide_eq_true_iff, beq_eq_false_iff_ne]
  simp only [removeRow, Table.remove, differs]

/-- All tables that can come about are as is required of them. Their ids ascend, the next one is
greater than all of them, and an id that is gone does not come back, whatever else is done. Work
that fails, and a request that is not answered with success, leaves all tables as they were. When a
user is removed, just the tokens and the keys of this user go as well. -/
theorem tables_stay_sound_over_runs {s : Store} (reachable : s.Reachable) :
    s.Sound ∧
    (∀ kind, (s.ids kind).Pairwise (· < ·) ∧ ∀ id ∈ s.ids kind, id < s.nextId kind) ∧
    (∀ between later, s.LeadsTo between → between.LeadsTo later →
      ∀ kind, s.nextId kind ≤ later.nextId kind ∧
        ∀ id ∈ s.ids kind, id ∉ between.ids kind → id ∉ later.ids kind) ∧
    (∀ {α : Type} (session : Session α), Work session → ∀ scene log failure after,
      run scene ⟨s, log⟩ session = (.error failure, after) → after.store = s) ∧
    (∀ request scene log, ∃ response after,
      run scene ⟨s, log⟩ (Http.handle request) = (.ok response, after) ∧
        (response.status ≠ 200 → after.store = s)) ∧
    ∀ id scene log counts after,
      run scene ⟨s, log⟩ (Book.remove .user id) = (.ok counts, after) →
        ∃ n ∈ s.ids .user, (n : Int) = id ∧ after.store =
          { s with
            users := { s.users with rows := s.users.rows.filter fun row => row.id ≠ n }
            tokens := { s.tokens with rows := s.tokens.rows.filter fun row => row.user ≠ n }
            keys := { s.keys with rows := s.keys.rows.filter fun row => row.user ≠ n } } := by
  have sound := reachable.sound
  refine ⟨sound, sound.ids, ?_, ?_, ?_, ?_⟩
  · intro between later run more kind
    refine ⟨((run.grows.trans more.grows).ids kind).1, fun id given gone => ?_⟩
    have below := (sound.ids kind).2 id given
    have next := (run.grows.ids kind).1
    exact more.grows.not_mem_ids (by omega) gone
  · intro _ session work scene log failure after failed
    exact work.keepsOnFailure scene ⟨s, log⟩ failure after failed
  · intro request scene log
    obtain ⟨response, after, answered⟩ := Http.exists_run_handle request scene ⟨s, log⟩
    exact ⟨response, after, answered, Http.store_run_handle_of_refused answered⟩
  · intro id scene log counts after done
    obtain ⟨n, member, same, left⟩ := Book.store_of_run_remove done
    exact ⟨n, member, same, left.trans (s.removeRow_user n)⟩

/-- The user of `linkedOnce` goes, with a token and a key, and the ids of all three are never given
again. -/
theorem tables_stay_sound_over_runs_linkedOnce :
    Store.linkedOnce.Reachable ∧
      ∃ counts after, run Scene.calm ⟨Store.linkedOnce, []⟩ (Book.remove .user 1) =
          (.ok counts, after) ∧
        after.store = { Store.empty with users := ⟨[], 2⟩, tokens := ⟨[], 2⟩, keys := ⟨[], 2⟩ } ∧
        ∀ later, after.store.LeadsTo later →
          1 ∉ later.ids .user ∧ 1 ∉ later.ids .token ∧ 1 ∉ later.ids .publicKey := by
  obtain ⟨_, _, gone, _, _, removed⟩ := tables_stay_sound_over_runs Store.reachable_linkedOnce
  have done : ∃ counts after, run Scene.calm ⟨Store.linkedOnce, []⟩ (Book.remove .user 1) =
      (.ok counts, after) := ⟨_, _, rfl⟩
  obtain ⟨counts, after, done⟩ := done
  obtain ⟨n, member, same, left⟩ := removed 1 Scene.calm [] counts after done
  have first : n = 1 := by omega
  subst first
  have step : Store.linkedOnce.LeadsTo after.store := by
    have next := @Store.LeadsTo.after Store.linkedOnce _ _ ⟨Store.linkedOnce, []⟩ .refl
      (.remove .user 1) Scene.calm
    rwa [done] at next
  refine ⟨Store.reachable_linkedOnce, counts, after, done, left, fun later run => ?_⟩
  have never (kind : RowKind) (given : 1 ∈ Store.linkedOnce.ids kind) (absent : 1 ∉ after.store.ids kind) :
      1 ∉ later.ids kind := (gone after.store later step run kind).2 1 given absent
  rw [left] at never
  exact ⟨never .user (by decide) (by decide), never .token (by decide) (by decide),
    never .publicKey (by decide) (by decide)⟩

end AddressBook
