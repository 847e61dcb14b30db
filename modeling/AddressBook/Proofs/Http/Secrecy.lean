import AddressBook.Proofs.Http.Linked
import AddressBook.Proofs.Http.Separation

namespace AddressBook

/-- The rows of the users and of their tokens. -/
def Store.credentials (s : Store) : List User × List Token := (s.users.rows, s.tokens.rows)

namespace Http
open Session

theorem showsOwners_credentials : ShowsOwners Store.credentials := by
  intro s s' alike hash
  have users : s.users.rows = s'.users.rows := congrArg Prod.fst alike
  have tokens : s.tokens.rows = s'.tokens.rows := congrArg Prod.snd alike
  rw [Store.userOfHash?, Store.userOfHash?, users, tokens]

/-- An unlinking whose count is dropped comes out the same way whatever is linked. -/
theorem seesOnly_delete_bind (user : Int) (address : Bytes) (value : α) :
    SeesOnly Store.credentials (Keys.delete user address >>= fun _ => pure value) := by
  intro scene world other alike
  by_cases undisturbed : Keys.Undisturbed scene
  · have here := run_bind_ok (Keys.run_delete undisturbed world user address)
      fun _ => (pure value : Session α)
    have there := run_bind_ok (Keys.run_delete undisturbed other user address)
      fun _ => (pure value : Session α)
    constructor
    · rw [here, there, run_pure, run_pure]
    · rw [here, there]
      exact alike
  · obtain ⟨fault, planned, inside⟩ := Keys.exists_planned_of_disturbed undisturbed
    have here := run_bind_error (Keys.run_delete_of_planned planned inside world user address)
      fun _ => (pure value : Session α)
    have there := run_bind_error (Keys.run_delete_of_planned planned inside other user address)
      fun _ => (pure value : Session α)
    constructor
    · rw [here, there]
    · rw [here, there]
      exact alike

/-- What a request to unlink comes to can be seen from the credentials alone. -/
theorem seesOnly_deleteKey (request : Request) :
    SeesOnly Store.credentials (deleteKey request) := by
  refine (seesOnly_caller showsOwners_credentials request).bind fun user => ?_
  refine (seesOnly_ofExcept _).bind fun body => seesOnly_read.bind fun scene => ?_
  refine (seesOnly_ofExcept _).bind fun payload => (seesOnly_passes _).bind fun _ => ?_
  exact seesOnly_delete_bind user.id payload.address _

/-- A request to unlink, whatever its headers and its body are, is answered the same by any two books
with the same users and tokens. So the answer does not tell what was linked, nor anything else that
is in the tables. -/
theorem unlinking_does_not_tell_what_was_linked {world other : World} {request : Request}
    (users : world.store.users.rows = other.store.users.rows)
    (tokens : world.store.tokens.rows = other.store.tokens.rows)
    (method : request.method = "DELETE") (path : request.path = "/keys".toList) (scene : Scene) :
    ∃ response, (run scene world (handle request)).1 = .ok response ∧
      (run scene other (handle request)).1 = .ok response := by
  have alike : world.store.credentials = other.store.credentials := Prod.ext users tokens
  have agrees : Agrees Store.credentials scene world other (handle request) := by
    refine agrees_handle_of_route alike fun route reached _ => ?_
    rw [path, route?_keys] at reached
    cases reached
    rw [Route.run, if_neg (by rw [method]; decide)]
    exact seesOnly_deleteKey request scene world other alike
  obtain ⟨response, after, answered⟩ := exists_run_handle request scene world
  have same := agrees.outcome
  rw [answered] at same
  exact ⟨response, by rw [answered], same.symm⟩

end Http

section NothingLinked

/-- The user who has the token `t`, before anything is linked. -/
def Store.unlinked : Store := { Store.linkedOnce with keys := Table.empty }

theorem Store.reachable_unlinked : Store.unlinked.Reachable := by
  have user := @Reachable.after _ _ ⟨empty, []⟩ .empty .addUser Scene.calm
  exact @Reachable.after _ _ ⟨_, []⟩ user (.addToken (some 1) "t") Scene.calm

/-- The account of zeros is linked in one of the books only; the request to unlink it is answered by
both with success and without a body. -/
theorem Http.unlinking_does_not_tell_what_was_linked_zeros :
    Store.linkedOnce.Reachable ∧ Store.unlinked.Reachable ∧
      Store.linkedOnce.keys.rows ≠ Store.unlinked.keys.rows ∧
      (Session.run Scene.calm ⟨Store.linkedOnce, []⟩ (handle (unlinkZeros []))).1 =
        .ok (Response.html 200 "") ∧
      (Session.run Scene.calm ⟨Store.unlinked, []⟩ (handle (unlinkZeros []))).1 =
        .ok (Response.html 200 "") := by
  have unlinks : Unlinks Scene.calm Store.linkedOnce (unlinkZeros []) ⟨1⟩ (List.replicate 32 0) :=
    ⟨deletes_unlinkZeros (bearerToken?_unlinkZeros rfl) (by simp), namesHost_unlinkZeros_nil, rfl, rfl⟩
  have success := congrArg Prod.fst (@Unlinks.run_handle _ ⟨Store.linkedOnce, []⟩ _ _ _ unlinks)
  obtain ⟨response, here, there⟩ := @unlinking_does_not_tell_what_was_linked
    ⟨Store.linkedOnce, []⟩ ⟨Store.unlinked, []⟩ (unlinkZeros []) rfl rfl rfl rfl Scene.calm
  cases here.symm.trans success
  exact ⟨Store.reachable_linkedOnce, Store.reachable_unlinked, List.cons_ne_nil _ _, success, there⟩

end NothingLinked
end AddressBook
