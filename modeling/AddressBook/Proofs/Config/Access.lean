import AddressBook.Proofs.Config.History
import AddressBook.Proofs.Outcome

namespace AddressBook.Config

open VaultSession

/-- The token of the answer to a login, if logins are granted and it has one. -/
def Vault.grantedToken? (vault : Vault) : Option Json :=
  if vault.loginError.isSome then none
  else (vault.loginAnswer.field? "auth").bind (Json.field? "client_token")

/-- Whether credentials are those that an environment gives. -/
structure Credentials.IsLoadedFrom (c : Credentials) (env : Environment) : Prop where
  address : env.text "OPENBAO_ADDR" "http://127.0.0.1:8200" = .ok c.address
  token : env.text "OPENBAO_TOKEN" "" = .ok c.token
  roleId : env.text "OPENBAO_ROLE_ID" "" = .ok c.roleId
  secretId : env.text "OPENBAO_SECRET_ID" "" = .ok c.secretId
  mount : env.text "OPENBAO_KV_MOUNT" "secret" = .ok c.mount
  path : env.text "OPENBAO_KV_PATH" "chain-api" = .ok c.path

theorem Credentials.isLoadedFrom_of_load {c : Credentials} {env : Environment}
    (loaded : load env = .ok c) : c.IsLoadedFrom env := by
  obtain ⟨_, address, loaded⟩ := exists_of_bind_eq_ok loaded
  obtain ⟨_, token, loaded⟩ := exists_of_bind_eq_ok loaded
  obtain ⟨_, roleId, loaded⟩ := exists_of_bind_eq_ok loaded
  obtain ⟨_, secretId, loaded⟩ := exists_of_bind_eq_ok loaded
  obtain ⟨_, mount, loaded⟩ := exists_of_bind_eq_ok loaded
  obtain ⟨_, path, loaded⟩ := exists_of_bind_eq_ok loaded
  cases loaded
  exact ⟨address, token, roleId, secretId, mount, path⟩

/-- Whatever a process does, it keeps the credentials that it loaded. -/
theorem VaultState.Recorded.isLoadedFrom {env : Environment} {vault : Vault} {state : VaultState}
    {uses : List SecretUse} (recorded : Recorded env vault state uses) :
    state.credentials.IsLoadedFrom env := by
  have kept {session : VaultSession Json} (keeps : KeepsSetup session) {state : VaultState}
      (loaded : state.credentials.IsLoadedFrom env) :
      (run state session).2.credentials.IsLoadedFrom env := by
    have same : (run state session).2.credentials = state.credentials :=
      congrArg (·.2.1) (keeps state)
    rwa [same]
  induction recorded with
  | start started =>
    obtain ⟨_, loaded, rfl⟩ := exists_of_start started
    exact Credentials.isLoadedFrom_of_load loaded
  | read _ name ih => exact kept (keepsSetup_read name) ih
  | value _ _ default name ih => exact kept (keepsSetup_value name _ default _) ih
  | valueElsewhere _ _ default name ih => exact kept (keepsSetup_value name _ default _) ih
  | setEnvironment _ environment ih => exact ih
  | setVault _ now ih => exact ih
  | clearCache _ ih => exact ih

theorem VaultSession.subscript_eq_ok_iff {key : String} {value inner : Json} :
    subscript key value = .ok inner ↔ value.field? key = some inner := by
  cases value with
  | object fields =>
    rw [subscript, Json.field?]
    cases Fields.get? fields key <;> simp
  | _ => simp [subscript, Json.field?]

/-- A login gives the token of its answer, or fails. -/
theorem Vault.login_eq_ok_iff {vault : Vault} {token : Json} :
    vault.login = .ok token ↔ vault.grantedToken? = some token := by
  unfold login grantedToken?
  cases vault.loginError with
  | some message => simp
  | none =>
    simp only [Option.isSome_none, Bool.false_eq_true, if_false, Option.bind_eq_some_iff]
    constructor
    · intro granted
      obtain ⟨auth, first, second⟩ := exists_of_bind_eq_ok granted
      exact ⟨auth, subscript_eq_ok_iff.mp first, subscript_eq_ok_iff.mp second⟩
    · rintro ⟨auth, first, second⟩
      rw [subscript_eq_ok_iff.mpr first]
      exact subscript_eq_ok_iff.mpr second

/-- The token that the vault is read with: the configured one, or that of a login. -/
def VaultState.token? (state : VaultState) : Option Json :=
  if state.credentials.token = "" then state.vault.grantedToken?
  else some (.string state.credentials.token)

/-- With credentials the vault is asked for a login only if there is no token, and for a secret as soon
as there is one. -/
theorem VaultState.fetchCalls_of_enabled {state : VaultState} (name : SecretName)
    (enabled : state.credentials.enabled = true) : state.fetchCalls name =
      .client state.credentials.address 5 ::
        ((if state.credentials.token = "" then
            [.login state.credentials.roleId state.credentials.secretId] else []) ++
          state.token?.toList.map fun token =>
            .read token state.credentials.mount (name.effective state.credentials)) := by
  unfold fetchCalls Credentials.entryCalls Credentials.pass token?
  by_cases empty : state.credentials.token = ""
  · have able : state.credentials.canLogIn = true := by
      simpa [Credentials.enabled, empty] using enabled
    simp only [empty, able, if_true, List.cons_append]
    cases outcome : state.vault.login with
    | ok token =>
      rw [Vault.login_eq_ok_iff.mp outcome]
      rfl
    | error failure =>
      have none : state.vault.grantedToken? = none := by
        refine Option.eq_none_iff_forall_ne_some.mpr fun token granted => ?_
        cases outcome.symm.trans (Vault.login_eq_ok_iff.mpr granted)
      rw [none]
      rfl
  · simp [empty, path, timeout]

theorem VaultState.token?_of_mem_fetchCalls {state : VaultState} {name : SecretName} {token : Json}
    {mount path : String} (enabled : state.credentials.enabled = true)
    (reads : .read token mount path ∈ state.fetchCalls name) : state.token? = some token := by
  rw [fetchCalls_of_enabled name enabled] at reads
  rcases List.mem_cons.mp reads with first | later
  · cases first
  rcases List.mem_append.mp later with login | read
  · split at login
    next => cases List.mem_singleton.mp login
    next => cases login
  · obtain ⟨other, member, same⟩ := List.mem_map.mp read
    cases same
    exact Option.mem_toList.mp member

/-- For the value of a name the vault is asked if and only if there are credentials, the environment
has no value, and the secret is not in the cache. A client is then made for the address, a login
takes place if and only if there is no token, and the secret is read once, at the path that is given
or else at the configured one, with the token or that of the login, unless the login gives none. All
this is done with the credentials that were loaded. So no secret is read without a token, as long as
logins give no null token. -/
theorem vault_is_asked_with_the_loaded_credentials {env : Environment} {vault : Vault}
    {state : VaultState} {uses : List SecretUse}
    (recorded : VaultState.Recorded env vault state uses) (what : String) (default : Json)
    (name : SecretName) (prefers : Bool) :
    ∃ c : Credentials, c.IsLoadedFrom env ∧ ∃ path, name.IsAt c.path path ∧ ∃ calls,
      (run state (value what default name prefers)).2.calls = state.calls ++ calls ∧
      (calls ≠ [] ↔ c.enabled = true ∧ state.LacksValue what prefers ∧
        state.cache.find? name = none) ∧
      (calls ≠ [] → calls =
        .client c.address 5 ::
          ((if c.token = "" then [.login c.roleId c.secretId] else []) ++
            (if c.token = "" then state.vault.grantedToken? else some (.string c.token)).toList.map
              fun token => .read token c.mount path)) ∧
      (state.vault.grantedToken? ≠ some .null →
        ∀ token mount place, .read token mount place ∈ calls → token ≠ .null) := by
  refine ⟨state.credentials, recorded.isLoadedFrom, _, name.isAt_effective state.credentials, ?_⟩
  by_cases consults : state.Consults what prefers
  · have asked := (VaultState.reads_of_consults consults default name).2
    have missing (contacts : state.secretCalls name ≠ []) : state.cache.find? name = none := by
      simpa [VaultState.secretCalls_eq_nil_iff] using contacts
    refine ⟨state.secretCalls name, asked, ?_, fun contacts => ?_,
      fun granted token mount path reads => ?_⟩
    · rw [ne_eq, VaultState.secretCalls_eq_nil_iff]
      simp [consults.1, consults.2]
    · rw [VaultState.secretCalls_of_find?_eq_none (missing contacts)]
      exact VaultState.fetchCalls_of_enabled name consults.1
    · rw [VaultState.secretCalls_of_find?_eq_none (missing (List.ne_nil_of_mem reads))] at reads
      have known := VaultState.token?_of_mem_fetchCalls consults.1 reads
      rintro rfl
      unfold VaultState.token? at known
      split at known
      next => exact granted known
      next => cases known
  · rw [run_value_of_not_consults state name default consults]
    refine ⟨[], (List.append_nil _).symm, ?_, fun contacts => absurd rfl contacts,
      fun _ token mount path reads => absurd reads List.not_mem_nil⟩
    exact ⟨fun contacts => absurd rfl contacts, fun asks => absurd ⟨asks.1, asks.2.1⟩ consults⟩

section Role

/-- An environment that gives a role and its secret, but no token. -/
def roleEnvironment : Environment := [("OPENBAO_ROLE_ID", "r"), ("OPENBAO_SECRET_ID", "s")]

/-- A process with a role, in whose environment a token was set later. -/
def roleState : VaultState :=
  ⟨[("OPENBAO_TOKEN", "late")], ⟨"http://127.0.0.1:8200", "", "r", "s", "secret", "chain-api"⟩,
    ⟨[], none, Vault.grantedLogin⟩, RecentCache.empty, [], []⟩

theorem recorded_roleState :
    VaultState.Recorded roleEnvironment ⟨[], none, Vault.grantedLogin⟩ roleState [] := by
  have started : start roleEnvironment ⟨[], none, Vault.grantedLogin⟩ =
      .ok { roleState with environment := roleEnvironment } := rfl
  exact .setEnvironment (.start started) [("OPENBAO_TOKEN", "late")]

/-- The token that was set later is not used, but that of the login; the path that is given is used, and
not the configured one. -/
theorem vault_is_asked_with_the_loaded_credentials_role :
    VaultState.Recorded roleEnvironment ⟨[], none, Vault.grantedLogin⟩ roleState [] ∧
      (run roleState (value "A" .null (.path "other") true)).2.calls =
        [.client "http://127.0.0.1:8200" 5, .login "r" "s",
          .read (.string "approle-token") "secret" "other"] := by
  have lacks : roleState.LacksValue "A" true := fun _ => Environment.nonEmpty?_eq_none_iff.mp rfl
  obtain ⟨⟨address, token, roleId, secretId, mount, _⟩, loaded, path, isAt, calls, grown, contacts,
    asked, _⟩ :=
    vault_is_asked_with_the_loaded_credentials recorded_roleState "A" .null (.path "other") true
  cases loaded.address
  cases loaded.token
  cases loaded.roleId
  cases loaded.secretId
  cases loaded.mount
  cases isAt.given "other" rfl (by decide)
  refine ⟨recorded_roleState, ?_⟩
  rw [grown, asked (contacts.mpr ⟨rfl, lacks, rfl⟩)]
  rfl

end Role

end AddressBook.Config
