import AddressBook.Config.Vault

namespace AddressBook.Config

/-- What reading secrets depends on and does not change. -/
def VaultState.setup (state : VaultState) : Environment × Credentials × Vault :=
  (state.environment, state.credentials, state.vault)

namespace VaultSession

theorem run_bind (state : VaultState) (first : VaultSession α) (next : α → VaultSession β) :
    run state (first >>= next) =
      match run state first with
      | (.ok value, after) => run after (next value)
      | (.error failure, after) => (.error failure, after) := by
  simp only [run, bind, ExceptT.bind, ExceptT.mk, StateT.bind]
  rcases first state with ⟨outcome, after⟩
  cases outcome <;> rfl

theorem run_tryCatch (state : VaultState) (session : VaultSession α)
    (handler : Failure → VaultSession α) :
    run state (tryCatch session handler) =
      match run state session with
      | (.ok value, after) => (.ok value, after)
      | (.error failure, after) => run after (handler failure) := by
  simp only [run, tryCatch, tryCatchThe, MonadExceptOf.tryCatch, ExceptT.tryCatch, ExceptT.mk, bind,
    StateT.bind]
  rcases session state with ⟨outcome, after⟩
  cases outcome <;> rfl

@[simp] theorem run_ofExcept (state : VaultState) (outcome : Except Failure α) :
    run state (ofExcept outcome) = (outcome, state) := by
  cases outcome <;> rfl

theorem exists_of_run_bind {state after : VaultState} {first : VaultSession α}
    {next : α → VaultSession β} {result : β}
    (done : run state (first >>= next) = (.ok result, after)) :
    ∃ value mid, run state first = (.ok value, mid) ∧ run mid (next value) = (.ok result, after) := by
  rw [run_bind] at done
  rcases h : run state first with ⟨outcome, mid⟩
  rw [h] at done
  cases outcome with
  | error failure => cases done
  | ok value => exact ⟨value, mid, rfl, done⟩

/-- A process begins with the credentials that its environment gives, and has read nothing. -/
theorem exists_of_start {env : Environment} {vault : Vault} {state : VaultState}
    (started : start env vault = .ok state) : ∃ credentials, Credentials.load env = .ok credentials ∧
      state = ⟨env, credentials, vault, RecentCache.empty, [], []⟩ := by
  unfold start at started
  cases loaded : Credentials.load env with
  | error failure =>
    rw [loaded] at started
    cases started
  | ok credentials =>
    rw [loaded] at started
    cases started
    exact ⟨credentials, rfl, rfl⟩

/-- Whatever comes of the session, the setup after it is that before it. -/
def KeepsSetup (session : VaultSession α) : Prop :=
  ∀ state, (run state session).2.setup = state.setup

end VaultSession

/-- The state of a process that is given a token, with the vault that it reads from. -/
def withToken (environment : Environment) (vault : Vault) : VaultState :=
  ⟨environment, ⟨"http://127.0.0.1:8200", "t", "", "", "secret", "chain-api"⟩, vault,
    RecentCache.empty, [], []⟩

theorem start_withToken (vault : Vault) : VaultSession.start [("OPENBAO_TOKEN", "t")] vault =
    .ok (withToken [("OPENBAO_TOKEN", "t")] vault) := rfl

end AddressBook.Config
