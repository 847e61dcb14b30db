import AddressBook.Proofs.Config.Environment
import AddressBook.Proofs.Config.Vault

namespace AddressBook.Config

namespace Vault

/-- The token that a login gives. -/
def login (vault : Vault) : Except Failure Json :=
  match vault.loginError with
  | some message => .error (.fault .connection message)
  | none => VaultSession.subscript "auth" vault.loginAnswer >>=
      VaultSession.subscript "client_token"

/-- The data of a path, as they are now; data that count as none are an empty object. -/
def data (vault : Vault) (path : String) : Except Failure Json :=
  match vault.secrets.get? path with
  | none => .error (.fault .connection ("no secret at " ++ path))
  | some data => .ok (if data.isFalsy then .object [] else data)

end Vault

namespace Credentials

/-- The token that a vault is read with: the configured one, or that of a login, or none. -/
def pass (c : Credentials) (vault : Vault) : Except Failure Json :=
  if !c.token.isEmpty then .ok (.string c.token)
  else if c.canLogIn then vault.login
  else .ok .null

def entryCalls (c : Credentials) : List VaultCall :=
  .client c.address VaultSession.timeout ::
    if c.token.isEmpty && c.canLogIn then [.login c.roleId c.secretId] else []

end Credentials

/-- Whether a secret is read at a path: at the one that is given, or at the configured one if none is
given or an empty one. -/
structure SecretName.IsAt (name : SecretName) (configured path : String) : Prop where
  given : ∀ text, name = .path text → text ≠ "" → path = text
  otherwise : (∀ text, name = .path text → text = "") → path = configured

theorem SecretName.isAt_effective (name : SecretName) (c : Credentials) :
    name.IsAt c.path (name.effective c) := by
  constructor
  · rintro text rfl nonempty
    rw [effective, if_neg (by simpa using nonempty)]
  · intro none
    cases name with
    | path text =>
      rw [effective, if_pos (by simpa using none text rfl)]
    | _ => rfl

namespace VaultState

variable (state : VaultState) (name : SecretName)

def path : String := name.effective state.credentials

/-- What the vault has to say of a secret now. -/
def fetched : Except Failure Json :=
  match state.credentials.pass state.vault with
  | .ok _ => state.vault.data (state.path name)
  | .error failure => .error failure

/-- What is asked of the vault to learn a secret. -/
def fetchCalls : List VaultCall :=
  state.credentials.entryCalls ++
    match state.credentials.pass state.vault with
    | .ok token => [.read token state.credentials.mount (state.path name)]
    | .error _ => []

/-- A secret, from the cache if it is there. -/
def secret : Except Failure Json :=
  match state.cache.find? name with
  | some data => .ok data
  | none => state.fetched name

/-- What is asked of the vault for a secret: nothing if it is in the cache. -/
def secretCalls : List VaultCall :=
  match state.cache.find? name with
  | some _ => []
  | none => state.fetchCalls name

/-- The cache after a secret was asked for; it is as before if there was none. -/
def keptCache : RecentCache SecretName Json :=
  match state.secret name with
  | .ok data => state.cache.keep VaultSession.cacheCapacity name data
  | .error _ => state.cache

variable {state name}

theorem secret_of_find? {data : Json} (found : state.cache.find? name = some data) :
    state.secret name = .ok data := by
  rw [secret, found]

theorem secret_of_find?_eq_none (missing : state.cache.find? name = none) :
    state.secret name = state.fetched name := by
  rw [secret, missing]

theorem secretCalls_of_find?_eq_none (missing : state.cache.find? name = none) :
    state.secretCalls name = state.fetchCalls name := by
  rw [secretCalls, missing]

variable (state name)

/-- The state after a secret was asked for. -/
def afterReading : VaultState :=
  { state with calls := state.calls ++ state.secretCalls name, cache := state.keptCache name }

/-- Whether the environment is not asked for a name, or has no value for it that is not empty. -/
def LacksValue (what : String) (prefers : Bool) : Prop :=
  prefers = true → ¬state.environment.IsTooDeep what ∧
    ∀ text, state.environment.Gives what text → text = ""

/-- Whether a secret is asked for the value of a name. -/
def Consults (what : String) (prefers : Bool) : Prop :=
  state.credentials.enabled = true ∧ state.LacksValue what prefers

/-- What the environment has to say of a name, if it is asked. -/
def fromEnvironment (what : String) (prefers : Bool) : Except Failure (Option String) :=
  if prefers then state.environment.nonEmpty? what else .ok none

theorem fromEnvironment_eq_none_iff {what : String} {prefers : Bool} :
    state.fromEnvironment what prefers = .ok none ↔ state.LacksValue what prefers := by
  unfold fromEnvironment LacksValue
  cases prefers with
  | false => simp
  | true => simpa using Environment.nonEmpty?_eq_none_iff

end VaultState

namespace VaultSession

variable (state : VaultState) (name : SecretName)

theorem run_get_bind (next : VaultState → VaultSession α) :
    run state (get >>= next) = run state (next state) := rfl

theorem run_record_bind (call : VaultCall) (next : Unit → VaultSession α) :
    run state (record call >>= next) =
      run { state with calls := state.calls ++ [call] } (next ()) := rfl

theorem run_map (f : α → β) (session : VaultSession α) : run state (f <$> session) =
    match run state session with
    | (.ok value, after) => (.ok (f value), after)
    | (.error failure, after) => (.error failure, after) := by
  simp only [run, Functor.map, ExceptT.map, ExceptT.mk, bind, StateT.bind]
  rcases session state with ⟨outcome, after⟩
  cases outcome <;> rfl

theorem run_logIn (roleId secretId : String) : run state (logIn roleId secretId) =
    (state.vault.login, { state with calls := state.calls ++ [.login roleId secretId] }) := by
  simp only [logIn, run_record_bind, run_get_bind, Vault.login]
  cases state.vault.loginError with
  | some message => rfl
  | none => exact run_ofExcept _ _

theorem run_obtainToken : run state obtainToken = (state.credentials.pass state.vault,
    { state with calls := state.calls ++ state.credentials.entryCalls }) := by
  rw [obtainToken, run_get_bind, run_record_bind, Credentials.pass, Credentials.entryCalls]
  cases state.credentials.token.isEmpty with
  | false => rfl
  | true =>
    cases state.credentials.canLogIn with
    | false => rfl
    | true => simp [run_logIn]

/-- Reading from the vault leaves what was asked, and nothing else. -/
theorem run_fetch : run state (fetch name) =
    (state.fetched name, { state with calls := state.calls ++ state.fetchCalls name }) := by
  rw [fetch, run_bind, run_obtainToken, VaultState.fetched, VaultState.fetchCalls]
  cases state.credentials.pass state.vault with
  | error failure => simp only [List.append_nil]
  | ok token =>
    simp only [run_get_bind, run_record_bind, Vault.data, VaultState.path, List.append_assoc]
    cases state.vault.secrets.get? (name.effective state.credentials) with
    | none => rfl
    | some data => rfl

/-- Reading a secret keeps it in the cache if there is one, and leaves no other trace there. -/
theorem run_read : run state (read name) = (state.secret name, state.afterReading name) := by
  simp only [read, run_get_bind]
  unfold VaultState.afterReading VaultState.keptCache VaultState.secret VaultState.secretCalls
  cases state.cache.find? name with
  | some data =>
    rw [List.append_nil]
    rfl
  | none =>
    simp only [run_bind, run_fetch]
    cases state.fetched name with
    | error failure => rfl
    | ok data => rfl

/-- A secret that cannot be read is logged. -/
theorem run_tryRead (what : String) : run state (tryRead what name) =
    match state.secret name with
    | .ok data => (.ok (some data), state.afterReading name)
    | .error failure => (.ok none, { state.afterReading name with
        log := state.log ++ [failureRecord what failure] }) := by
  rw [tryRead, run_tryCatch, run_map, run_read]
  cases state.secret name with
  | error failure => rfl
  | ok data => rfl

/-- No secret is asked for if the environment has a value, fails, or there are no credentials. -/
theorem run_value_of_not_consults {what : String} {prefers : Bool} (default : Json)
    (elsewhere : ¬state.Consults what prefers) :
    run state (value what default name prefers) =
      ((state.fromEnvironment what prefers).map fun text? => (text?.map Json.string).getD default,
        state) := by
  rw [VaultState.Consults, ← VaultState.fromEnvironment_eq_none_iff] at elsewhere
  rw [value, run_get_bind, run_bind, run_ofExcept]
  unfold VaultState.fromEnvironment at *
  generalize (if prefers then state.environment.nonEmpty? what else .ok none) = found at *
  match found with
  | .error failure => rfl
  | .ok (some text) => rfl
  | .ok none =>
    have disabled : state.credentials.enabled = false := by simpa using elsewhere
    simp only [disabled]
    rfl

/-- The value that a secret has for a name; the default if there is no secret. -/
theorem run_value_of_consults {what : String} {prefers : Bool} (default : Json)
    (consults : state.Consults what prefers) :
    run state (value what default name prefers) =
      match state.secret name with
      | .ok data => (valueIn data what default, state.afterReading name)
      | .error failure => (.ok default, { state.afterReading name with
          log := state.log ++ [failureRecord what failure] }) := by
  have enabled := consults.1
  have found := state.fromEnvironment_eq_none_iff.mpr consults.2
  rw [value, run_get_bind, run_bind, run_ofExcept]
  unfold VaultState.fromEnvironment at found
  simp only [found, enabled]
  rw [if_neg (by simp), run_bind, run_tryRead]
  cases state.secret name with
  | ok data => exact run_ofExcept _ _
  | error failure => rfl

theorem keepsSetup_read : KeepsSetup (read name) := by
  intro state
  rw [run_read]
  rfl

/-- Looking a value up changes nothing on which the values of other names depend, but the cache. -/
theorem keepsSetup_value (what : String) (default : Json) (prefers : Bool) :
    KeepsSetup (value what default name prefers) := by
  intro state
  by_cases consults : state.Consults what prefers
  · rw [run_value_of_consults state name default consults]
    cases state.secret name <;> rfl
  · rw [run_value_of_not_consults state name default consults]

end VaultSession
end AddressBook.Config
