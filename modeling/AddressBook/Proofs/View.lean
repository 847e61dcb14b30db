import AddressBook.Proofs.Session

namespace AddressBook.Session
variable {view : Store → γ}

/-- Whether a session comes out the same way in two worlds, and leaves tables that look the same. -/
structure Agrees (view : Store → γ) (scene : Scene) (world other : World) (session : Session α) :
    Prop where
  outcome : (run scene world session).1 = (run scene other session).1
  left : view (run scene world session).2.store = view (run scene other session).2.store

/-- Whether a session agrees on all tables that look the same. -/
def SeesOnly (view : Store → γ) (session : Session α) : Prop :=
  ∀ scene world other, view world.store = view other.store → Agrees view scene world other session

/-- What follows has to agree on the worlds that the first part leaves, and for its outcome only. -/
theorem Agrees.bind {scene : Scene} {world other : World} {first : Session α}
    {next : α → Session β} (agrees : Agrees view scene world other first)
    (rest : ∀ value after after', run scene world first = (.ok value, after) →
      run scene other first = (.ok value, after') → view after.store = view after'.store →
      Agrees view scene after after' (next value)) :
    Agrees view scene world other (first >>= next) := by
  obtain ⟨outcome, left⟩ := agrees
  rcases here : run scene world first with ⟨result, after⟩
  rcases there : run scene other first with ⟨result', after'⟩
  rw [here, there] at outcome left
  cases outcome
  cases result with
  | error failure =>
    constructor
    · rw [run_bind_error here, run_bind_error there]
    · rw [run_bind_error here, run_bind_error there]
      exact left
  | ok value =>
    have agrees := rest value after after' here there left
    constructor
    · rw [run_bind_ok here, run_bind_ok there]
      exact agrees.outcome
    · rw [run_bind_ok here, run_bind_ok there]
      exact agrees.left

theorem Agrees.orElse {scene : Scene} {world other : World} {session : Session α}
    {handler : Failure → Session α} (agrees : Agrees view scene world other session)
    (rest : ∀ failure, SeesOnly view (handler failure)) :
    Agrees view scene world other (session.orElse handler) := by
  obtain ⟨outcome, left⟩ := agrees
  rcases here : run scene world session with ⟨result, after⟩
  rcases there : run scene other session with ⟨result', after'⟩
  rw [here, there] at outcome left
  cases outcome
  cases result with
  | error failure =>
    have agrees := rest failure scene after after' left
    constructor
    · rw [run_orElse, run_orElse, here, there]
      exact agrees.outcome
    · rw [run_orElse, run_orElse, here, there]
      exact agrees.left
  | ok value =>
    constructor
    · rw [run_orElse, run_orElse, here, there]
    · rw [run_orElse, run_orElse, here, there]
      exact left

theorem SeesOnly.bind {first : Session α} {next : α → Session β} (sees : SeesOnly view first)
    (rest : ∀ value, SeesOnly view (next value)) : SeesOnly view (first >>= next) := by
  intro scene world other alike
  refine (sees scene world other alike).bind fun value after after' _ _ left => ?_
  exact rest value scene after after' left

theorem SeesOnly.orElse {session : Session α} {handler : Failure → Session α}
    (sees : SeesOnly view session) (rest : ∀ failure, SeesOnly view (handler failure)) :
    SeesOnly view (session.orElse handler) :=
  fun scene world other alike => (sees scene world other alike).orElse rest

theorem seesOnly_pure (value : α) : SeesOnly view (pure value) := fun _ _ _ alike => ⟨rfl, alike⟩

theorem seesOnly_fail (failure : Failure) : SeesOnly view (fail failure : Session α) :=
  fun _ _ _ alike => ⟨rfl, alike⟩

theorem seesOnly_read : SeesOnly view read := fun _ _ _ alike => ⟨rfl, alike⟩

theorem seesOnly_log (record : LogRecord) : SeesOnly view (log record) :=
  fun _ _ _ alike => ⟨rfl, alike⟩

theorem seesOnly_ofExcept (outcome : Except Failure α) : SeesOnly view (ofExcept outcome) := by
  intro scene world other alike
  constructor
  · rw [run_ofExcept, run_ofExcept]
  · rw [run_ofExcept, run_ofExcept]
    exact alike

theorem seesOnly_passes (point : FaultPoint) : SeesOnly view (passes point) := by
  intro scene world other alike
  constructor
  · rw [run_passes, run_passes]
  · rw [run_passes, run_passes]
    exact alike

/-- What is asked of the tables has to show in the view. -/
theorem seesOnly_query {f : Store → α} (shown : ∀ s s', view s = view s' → f s = f s') :
    SeesOnly view (query f) := by
  refine (seesOnly_passes .statement).bind fun _ => ?_
  intro scene world other alike
  exact ⟨congrArg Except.ok (shown _ _ alike), alike⟩

/-- A change has to give the same on tables that look the same, and to leave them looking the
same. -/
theorem seesOnly_execute {change : Store → α × Store}
    (alike : ∀ s s', view s = view s' →
      (change s).1 = (change s').1 ∧ view (change s).2 = view (change s').2) :
    SeesOnly view (execute fun store => .ok (change store)) := by
  refine (seesOnly_passes .statement).bind fun _ => ?_
  intro scene world other same
  exact ⟨congrArg Except.ok (alike _ _ same).1, (alike _ _ same).2⟩

theorem SeesOnly.atomically {session : Session α} (sees : SeesOnly view session) :
    SeesOnly view (atomically session) := by
  intro scene world other alike
  have committing : SeesOnly view (committing session) :=
    sees.bind fun value => (seesOnly_passes _).bind fun _ => seesOnly_pure value
  obtain ⟨outcome, left⟩ := committing scene world other alike
  rcases here : run scene world (Session.committing session) with ⟨result, after⟩
  rcases there : run scene other (Session.committing session) with ⟨result', after'⟩
  rw [here, there] at outcome left
  cases outcome
  cases result with
  | error failure =>
    constructor
    · rw [run_atomically, run_atomically, here, there]
    · rw [run_atomically, run_atomically, here, there]
      exact alike
  | ok value =>
    constructor
    · rw [run_atomically, run_atomically, here, there]
    · rw [run_atomically, run_atomically, here, there]
      exact left

theorem seesOnly_mapM {f : α → Session β} (sees : ∀ item, SeesOnly view (f item)) (items : List α) :
    SeesOnly view (items.mapM f) := by
  induction items with
  | nil => exact seesOnly_pure []
  | cons item items ih =>
    rw [List.mapM_cons]
    refine (sees item).bind fun value => ih.bind fun rest => ?_
    exact seesOnly_pure (value :: rest)

theorem seesOnly_forM {f : α → Session PUnit} (sees : ∀ item, SeesOnly view (f item))
    (items : List α) : SeesOnly view (items.forM f) := by
  induction items with
  | nil => exact seesOnly_pure PUnit.unit
  | cons item items ih => exact (sees item).bind fun _ => ih

end AddressBook.Session
