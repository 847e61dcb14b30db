import AddressBook.Proofs.Outcome
import AddressBook.Session.Run
import Mathlib.Logic.Basic

namespace AddressBook

/-- No failure is planned at the place. -/
def Scene.IsCalmAt (scene : Scene) (point : FaultPoint) : Prop :=
  ∀ fault ∈ scene.fault, fault.point ≠ point

theorem Scene.isCalmAt_of_fault_eq_none {scene : Scene} (unplanned : scene.fault = none)
    (point : FaultPoint) : scene.IsCalmAt point := by
  intro fault planned
  rw [unplanned] at planned
  cases planned

theorem Scene.isCalmAt_of_planned {scene : Scene} {fault : PlannedFault} {point : FaultPoint}
    (planned : scene.fault = some fault) (elsewhere : fault.point ≠ point) :
    scene.IsCalmAt point := by
  intro other here
  rw [planned] at here
  cases here
  exact elsewhere

theorem Scene.exists_planned_of_not_isCalmAt {scene : Scene} {point : FaultPoint}
    (hit : ¬scene.IsCalmAt point) : ∃ fault, scene.fault = some fault ∧ fault.point = point := by
  unfold IsCalmAt at hit
  simp only [not_forall, not_not] at hit
  obtain ⟨fault, planned, here⟩ := hit
  exact ⟨fault, planned, here⟩

namespace Session

theorem run_orElse (scene : Scene) (world : World) (session : Session α)
    (handler : Failure → Session α) :
    run scene world (session.orElse handler) =
      match run scene world session with
      | (.ok value, after) => (.ok value, after)
      | (.error failure, after) => run scene after (handler failure) := by
  simp only [run, orElse, tryCatch, tryCatchThe, MonadExceptOf.tryCatch,
    ExceptT.tryCatch, ExceptT.mk, bind, StateT.bind]
  rcases session scene world with ⟨outcome, after⟩
  cases outcome <;> rfl

/-- Whatever comes of the session, the tables after it are those before it. -/
def ReadsOnly (session : Session α) : Prop :=
  ∀ scene world, (run scene world session).2.store = world.store

theorem readsOnly_pure (value : α) : ReadsOnly (pure value) := fun _ _ => rfl

theorem readsOnly_fail (failure : Failure) : ReadsOnly (fail failure : Session α) := fun _ _ => rfl

theorem readsOnly_read : ReadsOnly read := fun _ _ => rfl

theorem readsOnly_log (record : LogRecord) : ReadsOnly (log record) := fun _ _ => rfl

theorem readsOnly_ofExcept (outcome : Except Failure α) : ReadsOnly (ofExcept outcome) := by
  intro scene world
  rw [run_ofExcept]

theorem readsOnly_passes (point : FaultPoint) : ReadsOnly (passes point) := by
  intro scene world
  rw [run_passes]

theorem ReadsOnly.bind {first : Session α} {next : α → Session β} (reads : ReadsOnly first)
    (rest : ∀ value, ReadsOnly (next value)) : ReadsOnly (first >>= next) := by
  intro scene world
  have before := reads scene world
  rw [run_bind]
  rcases h : run scene world first with ⟨outcome, after⟩
  rw [h] at before
  cases outcome with
  | error failure => exact before
  | ok value => exact (rest value scene after).trans before

theorem readsOnly_query (f : Store → α) : ReadsOnly (query f) := by
  refine (readsOnly_passes .statement).bind fun _ => ?_
  intro scene world
  rfl

/-- The tables after a failure was handled are those after it happened. -/
theorem store_run_orElse {handler : Failure → Session α} (reads : ∀ failure, ReadsOnly (handler failure))
    (session : Session α) (scene : Scene) (world : World) :
    (run scene world (session.orElse handler)).2.store = (run scene world session).2.store := by
  rw [run_orElse]
  rcases run scene world session with ⟨outcome, after⟩
  cases outcome with
  | ok value => rfl
  | error failure => exact reads failure scene after

theorem ReadsOnly.orElse {session : Session α} {handler : Failure → Session α}
    (reads : ReadsOnly session) (rest : ∀ failure, ReadsOnly (handler failure)) :
    ReadsOnly (session.orElse handler) := by
  intro scene world
  rw [store_run_orElse rest]
  exact reads scene world

theorem readsOnly_mapM {f : α → Session β} (reads : ∀ item, ReadsOnly (f item)) (items : List α) :
    ReadsOnly (items.mapM f) := by
  induction items with
  | nil => exact readsOnly_pure []
  | cons item items ih =>
    rw [List.mapM_cons]
    refine (reads item).bind fun value => ih.bind fun rest => ?_
    exact readsOnly_pure (value :: rest)

theorem readsOnly_forM {f : α → Session PUnit} (reads : ∀ item, ReadsOnly (f item)) (items : List α) :
    ReadsOnly (items.forM f) := by
  induction items with
  | nil => exact readsOnly_pure PUnit.unit
  | cons item items ih => exact (reads item).bind fun _ => ih

theorem run_passes_of_isCalmAt {scene : Scene} {point : FaultPoint} (calm : scene.IsCalmAt point)
    (world : World) : run scene world (passes point) = (.ok (), world) := by
  rw [run_passes]
  cases planned : scene.fault with
  | none => rfl
  | some fault => simp [Option.filter, calm fault planned]

theorem run_passes_of_planned {scene : Scene} {fault : PlannedFault}
    (planned : scene.fault = some fault) (world : World) :
    run scene world (passes fault.point) = (.error fault.failure, world) := by
  rw [run_passes, planned]
  simp [Option.filter]

theorem run_passes_of_not_isCalmAt {scene : Scene} {point : FaultPoint}
    (hit : ¬scene.IsCalmAt point) (world : World) :
    ∃ failure, run scene world (passes point) = (.error failure, world) := by
  obtain ⟨fault, planned, rfl⟩ := Scene.exists_planned_of_not_isCalmAt hit
  exact ⟨fault.failure, run_passes_of_planned planned world⟩

theorem run_query_of_isCalmAt {scene : Scene} (calm : scene.IsCalmAt .statement) (world : World)
    (f : Store → α) : run scene world (query f) = (.ok (f world.store), world) := by
  unfold query
  rw [run_bind_ok (run_passes_of_isCalmAt calm world)]
  rfl

theorem run_get (scene : Scene) (world : World) :
    run scene world (get : Session World) = (.ok world, world) := rfl

theorem run_execute_of_isCalmAt {scene : Scene} (calm : scene.IsCalmAt .statement) {world : World}
    {change : Store → Except Failure (α × Store)} {value : α} {after : Store}
    (h : change world.store = .ok (value, after)) :
    run scene world (execute change) = (.ok value, { world with store := after }) := by
  unfold execute
  rw [run_bind_ok (run_passes_of_isCalmAt calm world), run_bind_ok (run_get scene world), h]
  rfl

theorem run_execute_of_not_isCalmAt {scene : Scene} (hit : ¬scene.IsCalmAt .statement)
    (world : World) (change : Store → Except Failure (α × Store)) :
    ∃ failure, run scene world (execute change) = (.error failure, world) := by
  obtain ⟨failure, fails⟩ := run_passes_of_not_isCalmAt hit world
  exact ⟨failure, run_bind_error fails _⟩

theorem store_run_execute (scene : Scene) (world : World)
    (change : Store → Except Failure (α × Store)) :
    (run scene world (execute change)).2.store = world.store ∨
      ∃ value, change world.store = .ok (value, (run scene world (execute change)).2.store) := by
  by_cases calm : scene.IsCalmAt .statement
  · unfold execute
    rw [run_bind_ok (run_passes_of_isCalmAt calm world), run_bind_ok (run_get scene world)]
    cases h : change world.store with
    | error failure => exact Or.inl rfl
    | ok made => exact Or.inr ⟨made.1, rfl⟩
  · obtain ⟨failure, fails⟩ := run_execute_of_not_isCalmAt calm world change
    rw [fails]
    exact Or.inl rfl

theorem change_of_run_execute {scene : Scene} {world after : World}
    {change : Store → Except Failure (α × Store)} {value : α}
    (done : run scene world (execute change) = (.ok value, after)) :
    change world.store = .ok (value, after.store) := by
  by_cases calm : scene.IsCalmAt .statement
  · cases h : change world.store with
    | error failure =>
      unfold execute at done
      have passed := run_passes_of_isCalmAt calm world
      rw [run_bind_ok passed, run_bind_ok (run_get scene world), h] at done
      cases done
    | ok made =>
      rw [run_execute_of_isCalmAt calm h] at done
      cases done
      rfl
  · obtain ⟨failure, fails⟩ := run_execute_of_not_isCalmAt calm world change
    cases fails.symm.trans done

theorem run_mapM {scene : Scene} {world : World} {f : α → Session β} {g : α → Except Failure β}
    {items : List α} (each : ∀ item ∈ items, run scene world (f item) = (g item, world)) :
    run scene world (items.mapM f) = (items.mapM g, world) := by
  induction items with
  | nil => rfl
  | cons item items ih =>
    have first := each item (by simp)
    have rest := ih fun other member => each other (List.mem_cons_of_mem _ member)
    rw [List.mapM_cons, List.mapM_cons]
    cases outcome : g item with
    | error failure => exact run_bind_error (first.trans (by rw [outcome])) _
    | ok value =>
      rw [run_bind_ok (first.trans (by rw [outcome])), run_bind, rest]
      cases items.mapM g with
      | error failure => rfl
      | ok values => rfl

theorem run_mapM_of_ok {scene : Scene} {world : World} {f : α → Session β} {g : α → β}
    {items : List α} (each : ∀ item ∈ items, run scene world (f item) = (.ok (g item), world)) :
    run scene world (items.mapM f) = (.ok (items.map g), world) := by
  rw [run_mapM each, mapM_of_ok fun _ _ => rfl]

theorem run_atomically (scene : Scene) (world : World) (session : Session α) :
    run scene world (atomically session) =
      match run scene world (committing session) with
      | (.ok value, after) => (.ok value, after)
      | (.error failure, after) => (.error failure, { after with store := world.store }) := rfl

theorem run_atomically_of_ok {scene : Scene} {world after : World} {session : Session α} {value : α}
    (committed : scene.IsCalmAt .commit) (h : run scene world session = (.ok value, after)) :
    run scene world (atomically session) = (.ok value, after) := by
  rw [run_atomically, committing, run_bind_ok h,
    run_bind_ok (run_passes_of_isCalmAt committed after), run_pure]

/-- A failed transaction leaves behind only what it logged. -/
theorem run_atomically_of_error {scene : Scene} {world after : World} {session : Session α}
    {failure : Failure} (h : run scene world session = (.error failure, after)) :
    run scene world (atomically session) = (.error failure, { after with store := world.store }) := by
  rw [run_atomically, committing, run_bind_error h]

/-- So does one that cannot be committed. -/
theorem run_atomically_of_uncommitted {scene : Scene} {world after : World} {session : Session α}
    {value : α} {fault : PlannedFault} (planned : scene.fault = some fault)
    (here : fault.point = .commit) (h : run scene world session = (.ok value, after)) :
    run scene world (atomically session) =
      (.error fault.failure, { after with store := world.store }) := by
  have hit := run_passes_of_planned planned after
  rw [here] at hit
  rw [run_atomically, committing, run_bind_ok h, run_bind_error hit]

/-- Whether a session fails and leaves the tables as they were. It has logged nothing, unless it could
not be committed. -/
def IsStopped (scene : Scene) (world : World) (session : Session α) : Prop :=
  ∃ failure records, run scene world session =
      (.error failure, { world with log := world.log ++ records }) ∧
    (scene.IsCalmAt .commit → records = [])

theorem isStopped_of_error {scene : Scene} {world : World} {session : Session α} {failure : Failure}
    (fails : run scene world session = (.error failure, world)) : IsStopped scene world session :=
  ⟨failure, [], by rw [List.append_nil, fails], fun _ => rfl⟩

theorem IsStopped.bind {scene : Scene} {world : World} {session : Session α}
    (stopped : IsStopped scene world session) (next : α → Session β) :
    IsStopped scene world (session >>= next) := by
  obtain ⟨failure, records, fails, silent⟩ := stopped
  exact ⟨failure, records, run_bind_error fails next, silent⟩

/-- What is stopped after a part that comes out well and leaves everything as it was. -/
theorem IsStopped.of_ok {scene : Scene} {world : World} {first : Session α} {value : α}
    {next : α → Session β} (done : run scene world first = (.ok value, world))
    (stopped : IsStopped scene world (next value)) : IsStopped scene world (first >>= next) := by
  unfold IsStopped
  rwa [run_bind_ok done]

theorem IsStopped.store {scene : Scene} {world : World} {session : Session α}
    (stopped : IsStopped scene world session) :
    (run scene world session).2.store = world.store := by
  obtain ⟨failure, records, fails, _⟩ := stopped
  rw [fails]

end Session
end AddressBook
