import AddressBook.Session

namespace AddressBook.Session

@[simp] theorem run_pure (scene : Scene) (world : World) (value : α) :
    run scene world (pure value) = (.ok value, world) := rfl

@[simp] theorem run_fail (scene : Scene) (world : World) (failure : Failure) :
    run scene world (fail failure : Session α) = (.error failure, world) := rfl

@[simp] theorem run_read (scene : Scene) (world : World) :
    run scene world read = (.ok scene, world) := rfl

@[simp] theorem run_log (scene : Scene) (world : World) (record : LogRecord) :
    run scene world (log record) = (.ok (), { world with log := world.log ++ [record] }) := rfl

theorem run_bind (scene : Scene) (world : World) (first : Session α) (next : α → Session β) :
    run scene world (first >>= next) =
      match run scene world first with
      | (.ok value, after) => run scene after (next value)
      | (.error failure, after) => (.error failure, after) := by
  simp only [run, bind, ReaderT.bind, ExceptT.bind, ExceptT.mk, StateT.bind]
  rcases first scene world with ⟨outcome, after⟩
  cases outcome <;> rfl

theorem run_bind_ok {scene : Scene} {world after : World} {first : Session α} {value : α}
    (h : run scene world first = (.ok value, after)) (next : α → Session β) :
    run scene world (first >>= next) = run scene after (next value) := by
  rw [run_bind, h]

theorem run_bind_error {scene : Scene} {world after : World} {first : Session α}
    {failure : Failure} (h : run scene world first = (.error failure, after))
    (next : α → Session β) : run scene world (first >>= next) = (.error failure, after) := by
  rw [run_bind, h]

@[simp] theorem run_ofExcept (scene : Scene) (world : World) (outcome : Except Failure α) :
    run scene world (ofExcept outcome) = (outcome, world) := by
  cases outcome <;> rfl

theorem run_passes (scene : Scene) (world : World) (point : FaultPoint) :
    run scene world (passes point) =
      ((scene.fault.filter (·.point = point)).elim (.ok ()) fun fault => .error fault.failure,
        world) := by
  unfold passes
  rw [run_bind_ok (run_read scene world)]
  cases h : scene.fault with
  | none => rfl
  | some fault => by_cases same : fault.point = point <;> simp [same, Option.filter]

theorem store_run_atomically_of_error {scene : Scene} {world after : World} {session : Session α}
    {failure : Failure} (h : run scene world (atomically session) = (.error failure, after)) :
    after.store = world.store := by
  unfold run atomically at h
  split at h
  · cases h
  · cases h
    rfl

end AddressBook.Session
