import AddressBook.Proofs.Config.RecentCache
import AddressBook.Proofs.Config.Secret

namespace AddressBook.Config

/-- A secret that was asked for and could be read. -/
structure SecretUse where
  name : SecretName
  data : Json
  /-- Whether the vault was asked for it. -/
  asked : Bool

namespace SecretUse

def entry (use : SecretUse) : SecretName × Json := (use.name, use.data)

/-- Whether a secret was used and fewer than so many others since; the uses are given latest first. -/
def IsRecent (limit : Nat) (name : SecretName) (uses : List SecretUse) : Prop :=
  (∃ use ∈ uses, use.name = name) ∧
    ((uses.takeWhile fun use => use.name ≠ name).map SecretUse.name).toFinset.card < limit

/-- The last use of a secret for which the vault was asked. -/
def lastAsked? (name : SecretName) (uses : List SecretUse) : Option SecretUse :=
  uses.find? fun use => use.asked && use.name == name

/-- Whether a secret for which the vault was not asked is the one that was used before. -/
def IsCoherent : List SecretUse → Prop
  | [] => True
  | use :: earlier => IsCoherent earlier ∧
      (use.asked = false → (earlier.map entry).lookup use.name = some use.data)

end SecretUse

namespace VaultState

/-- The uses of secrets after one was asked for; one that cannot be read is none. -/
def usesAfter (state : VaultState) (name : SecretName) (uses : List SecretUse) : List SecretUse :=
  match VaultSession.run state (VaultSession.read name) with
  | (.ok data, after) => ⟨name, data, state.calls.length < after.calls.length⟩ :: uses
  | (.error _, _) => uses

/-- What a process may come to that has loaded its credentials from an environment, and the secrets
that it used since the cache was cleared, the latest first. -/
inductive Recorded (env : Environment) (vault : Vault) : VaultState → List SecretUse → Prop
  | start {state} (started : VaultSession.start env vault = .ok state) : Recorded env vault state []
  | read {state uses} (recorded : Recorded env vault state uses) (name : SecretName) :
      Recorded env vault (VaultSession.run state (VaultSession.read name)).2
        (state.usesAfter name uses)
  /-- The value of a name that a secret is asked for. -/
  | value {state uses} (recorded : Recorded env vault state uses) {what : String} {prefers : Bool}
      (consults : state.Consults what prefers) (default : Json) (name : SecretName) :
      Recorded env vault
        (VaultSession.run state (VaultSession.value what default name prefers)).2
        (state.usesAfter name uses)
  /-- The value of a name that no secret is asked for. -/
  | valueElsewhere {state uses} (recorded : Recorded env vault state uses) {what : String}
      {prefers : Bool} (elsewhere : ¬state.Consults what prefers) (default : Json)
      (name : SecretName) :
      Recorded env vault
        (VaultSession.run state (VaultSession.value what default name prefers)).2 uses
  | setEnvironment {state uses} (recorded : Recorded env vault state uses)
      (environment : Environment) : Recorded env vault { state with environment } uses
  | setVault {state uses} (recorded : Recorded env vault state uses) (now : Vault) :
      Recorded env vault { state with vault := now } uses
  | clearCache {state uses} (recorded : Recorded env vault state uses) :
      Recorded env vault (VaultSession.run state VaultSession.clearCache).2 []

/-- A vault is asked something whenever a secret is fetched. -/
theorem secretCalls_eq_nil_iff {state : VaultState} {name : SecretName} :
    state.secretCalls name = [] ↔ (state.cache.find? name).isSome = true := by
  unfold secretCalls
  cases state.cache.find? name with
  | some data => simp
  | none => simp [fetchCalls, Credentials.entryCalls]

theorem usesAfter_eq (state : VaultState) (name : SecretName) (uses : List SecretUse) :
    state.usesAfter name uses =
      match state.secret name with
      | .ok data => ⟨name, data, (state.cache.find? name).isNone⟩ :: uses
      | .error _ => uses := by
  have grown : state.calls.length < (state.afterReading name).calls.length ↔
      (state.cache.find? name).isNone = true := by
    rw [afterReading, List.length_append, Nat.lt_add_right_iff_pos, List.length_pos_iff, ne_eq,
      secretCalls_eq_nil_iff]
    simp
  rw [usesAfter, VaultSession.run_read]
  cases state.secret name with
  | error failure => rfl
  | ok data => simp only [grown, Bool.decide_eq_true]

/-- What asking a secret for a value does to the cache and asks of the vault is what reading it does. -/
theorem reads_of_consults {state : VaultState} {what : String} {prefers : Bool}
    (consults : state.Consults what prefers) (default : Json) (name : SecretName) :
    (VaultSession.run state (VaultSession.value what default name prefers)).2.cache =
        (state.afterReading name).cache ∧
      (VaultSession.run state (VaultSession.value what default name prefers)).2.calls =
        (state.afterReading name).calls := by
  rw [VaultSession.run_value_of_consults state name default consults]
  cases state.secret name with
  | error failure => exact ⟨rfl, rfl⟩
  | ok data => exact ⟨rfl, rfl⟩

/-- Whether a cache has what the uses of secrets leave in it. -/
def Fits (cache : RecentCache SecretName Json) (uses : List SecretUse) : Prop :=
  cache = RecentCache.ofUses VaultSession.cacheCapacity (uses.map SecretUse.entry) ∧
    SecretUse.IsCoherent uses

theorem fits_nil : Fits RecentCache.empty [] := ⟨rfl, trivial⟩

theorem Fits.find?_eq {cache : RecentCache SecretName Json} {uses : List SecretUse}
    (fits : Fits cache uses) (name : SecretName) : cache.find? name =
      if ((uses.takeWhile fun use => use.name ≠ name).map SecretUse.name).toFinset.card < 8 then
        (uses.map SecretUse.entry).lookup name
      else none := by
  rw [fits.1, RecentCache.find?_ofUses, RecentCache.distinct, RecentCache.usesSince,
    List.takeWhile_map, List.map_map]
  rfl

/-- Asking for a secret changes the cache as its use changes the record. -/
theorem Fits.afterReading {state : VaultState} {uses : List SecretUse}
    (fits : Fits state.cache uses) (name : SecretName) :
    Fits (state.afterReading name).cache (state.usesAfter name uses) := by
  rw [usesAfter_eq, VaultState.afterReading, keptCache]
  cases read : state.secret name with
  | error failure => exact fits
  | ok data =>
    refine ⟨?_, fits.2, fun kept => ?_⟩
    · rw [fits.1]
      exact RecentCache.keep_ofUses (by decide) name data _
    · obtain ⟨other, found⟩ : ∃ other, state.cache.find? name = some other := by
        simpa [Option.isSome_iff_exists] using kept
      have same : other = data := by
        rw [secret, found] at read
        exact Except.ok.inj read
      rw [fits.find?_eq, same] at found
      exact (Option.ite_none_right_eq_some.mp found).2

theorem Recorded.fits {env : Environment} {vault : Vault} {state : VaultState}
    {uses : List SecretUse} (recorded : Recorded env vault state uses) : Fits state.cache uses := by
  induction recorded with
  | start started =>
    obtain ⟨_, _, rfl⟩ := VaultSession.exists_of_start started
    exact fits_nil
  | read _ name ih =>
    rw [VaultSession.run_read]
    exact ih.afterReading name
  | value _ consults default name ih =>
    rw [(reads_of_consults consults default name).1]
    exact ih.afterReading name
  | valueElsewhere _ elsewhere default name ih =>
    rw [VaultSession.run_value_of_not_consults _ name default elsewhere]
    exact ih
  | setEnvironment _ environment ih => exact ih
  | setVault _ now ih => exact ih
  | clearCache _ ih => exact fits_nil

end VaultState
end AddressBook.Config
