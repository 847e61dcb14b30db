import AddressBook.Keys
import AddressBook.Proofs.Session

namespace AddressBook.Keys

variable {scene : Scene} {fault : PlannedFault}

/-- Nothing is planned to fail while an address is unlinked. -/
structure Undisturbed (scene : Scene) : Prop where
  statement : scene.IsCalmAt .statement
  removal : scene.IsCalmAt .afterKeyRemoval
  record : scene.IsCalmAt .keyDeleteLog
  commit : scene.IsCalmAt .commit

theorem undisturbed_of_fault_eq_none (unplanned : scene.fault = none) : Undisturbed scene :=
  have calm := Scene.isCalmAt_of_fault_eq_none unplanned
  ⟨calm _, calm _, calm _, calm _⟩

/-- What the transaction does before it is committed, when nothing fails. -/
theorem run_remove (statement : scene.IsCalmAt .statement) (removal : scene.IsCalmAt .afterKeyRemoval)
    (record : scene.IsCalmAt .keyDeleteLog) (world : World) (user : Int) (address : Bytes) :
    Session.run scene world (remove user address) =
      (.ok (world.store.unlink user address).1,
        ⟨(world.store.unlink user address).2,
          world.log ++ [deleteRecord user (world.store.unlink user address).1]⟩) := by
  rw [remove, Session.run_bind_ok (Session.run_execute_of_isCalmAt statement rfl),
    Session.run_bind_ok (Session.run_passes_of_isCalmAt removal _),
    Session.run_bind_ok (Session.run_passes_of_isCalmAt record _),
    Session.run_bind_ok (Session.run_log scene _ _)]
  rfl

/-- What a transaction does that unlinks an address, when nothing fails. -/
theorem run_delete (undisturbed : Undisturbed scene) (world : World) (user : Int) (address : Bytes) :
    Session.run scene world (delete user address) =
      (.ok (world.store.unlink user address).1,
        ⟨(world.store.unlink user address).2,
          world.log ++ [deleteRecord user (world.store.unlink user address).1]⟩) :=
  Session.run_atomically_of_ok undisturbed.commit
    (run_remove undisturbed.statement undisturbed.removal undisturbed.record world user address)

/-- The places of an unlinking at which a failure can happen: the statement that removes the rows,
what comes after it, the record of the removal, and the commit. -/
def deletionPoints : List FaultPoint := [.statement, .afterKeyRemoval, .keyDeleteLog, .commit]

theorem undisturbed_iff : Undisturbed scene ↔ ∀ fault ∈ scene.fault, fault.point ∉ deletionPoints := by
  constructor
  · intro undisturbed fault planned inside
    simp only [deletionPoints, List.mem_cons, List.not_mem_nil, or_false] at inside
    rcases inside with statement | removal | record | commit
    · exact undisturbed.statement fault planned statement
    · exact undisturbed.removal fault planned removal
    · exact undisturbed.record fault planned record
    · exact undisturbed.commit fault planned commit
  · intro elsewhere
    have calm (point : FaultPoint) (inside : point ∈ deletionPoints) : scene.IsCalmAt point := by
      rintro fault planned rfl
      exact elsewhere fault planned inside
    exact ⟨calm _ (by decide), calm _ (by decide), calm _ (by decide), calm _ (by decide)⟩

/-- What an unlinking has logged when it is stopped at a place. The rows are gone and their removal is
logged before the commit, so it is there that a record stays of what is undone. -/
def loggedBefore (point : FaultPoint) (store : Store) (user : Int) (address : Bytes) :
    List LogRecord :=
  if point = .commit then [deleteRecord user (store.unlink user address).1] else []

/-- A failure before the commit is passed on, and nothing is logged. -/
theorem run_remove_of_planned (planned : scene.fault = some fault)
    (inside : fault.point ∈ deletionPoints) (early : fault.point ≠ .commit) (world : World)
    (user : Int) (address : Bytes) :
    ∃ store, Session.run scene world (remove user address) =
      (.error fault.failure, { world with store := store }) := by
  have calm (point : FaultPoint) (elsewhere : fault.point ≠ point) : scene.IsCalmAt point :=
    Scene.isCalmAt_of_planned planned elsewhere
  have hit (world : World) := Session.run_passes_of_planned planned world
  let unlinked : World := { world with store := (world.store.unlink user address).2 }
  have removed (calm : scene.IsCalmAt .statement) : Session.run scene world
      (Session.execute fun store => .ok (store.unlink user address)) =
        (.ok (world.store.unlink user address).1, unlinked) :=
    Session.run_execute_of_isCalmAt calm rfl
  obtain ⟨point, failure⟩ := fault
  simp only [deletionPoints, List.mem_cons, List.not_mem_nil, or_false] at inside
  rcases inside with rfl | rfl | rfl | rfl
  · exact ⟨world.store, Session.run_bind_error (Session.run_bind_error (hit world) _) _⟩
  · refine ⟨unlinked.store, ?_⟩
    rw [remove, Session.run_bind_ok (removed (calm .statement nofun))]
    exact Session.run_bind_error (hit unlinked) _
  · refine ⟨unlinked.store, ?_⟩
    have passed := Session.run_passes_of_isCalmAt (calm .afterKeyRemoval nofun) unlinked
    rw [remove, Session.run_bind_ok (removed (calm .statement nofun)), Session.run_bind_ok passed]
    exact Session.run_bind_error (hit unlinked) _
  · exact absurd rfl early

/-- A failure in the middle is passed on, and the tables are as they were. -/
theorem run_delete_of_planned (planned : scene.fault = some fault)
    (inside : fault.point ∈ deletionPoints) (world : World) (user : Int) (address : Bytes) :
    Session.run scene world (delete user address) = (.error fault.failure,
      { world with log := world.log ++ loggedBefore fault.point world.store user address }) := by
  by_cases commit : fault.point = .commit
  · have calm (point : FaultPoint) (early : point ≠ .commit) : scene.IsCalmAt point :=
      Scene.isCalmAt_of_planned planned fun same => early (same ▸ commit)
    rw [loggedBefore, if_pos commit]
    exact Session.run_atomically_of_uncommitted planned commit
      (run_remove (calm _ nofun) (calm _ nofun) (calm _ nofun) world user address)
  · obtain ⟨store, fails⟩ := run_remove_of_planned planned inside commit world user address
    have undone := Session.run_atomically_of_error fails
    rw [loggedBefore, if_neg commit, List.append_nil]
    exact undone

/-- What disturbs an unlinking is a failure in the middle of it. -/
theorem exists_planned_of_disturbed (disturbed : ¬Undisturbed scene) :
    ∃ fault, scene.fault = some fault ∧ fault.point ∈ deletionPoints := by
  rw [undisturbed_iff] at disturbed
  simp only [not_forall, not_not] at disturbed
  obtain ⟨fault, planned, inside⟩ := disturbed
  exact ⟨fault, planned, inside⟩

/-- When something fails, the tables are as they were. -/
theorem isStopped_delete (disturbed : ¬Undisturbed scene) (world : World) (user : Int)
    (address : Bytes) : Session.IsStopped scene world (delete user address) := by
  obtain ⟨fault, planned, inside⟩ := exists_planned_of_disturbed disturbed
  refine ⟨_, _, run_delete_of_planned planned inside world user address, fun committed => ?_⟩
  rw [loggedBefore, if_neg (committed fault planned)]

end AddressBook.Keys
