import AddressBook.Proofs.Config.History

namespace AddressBook.Config

open VaultSession

/-- Whether a call goes to the vault; making a client does not. -/
def VaultCall.IsRequest : VaultCall → Prop
  | .client _ _ => False
  | .login _ _ => True
  | .read _ _ _ => True

namespace SecretUse

/-- A secret that was used is the one that the vault gave when it was asked last. -/
theorem IsCoherent.exists_lastAsked? {uses : List SecretUse} (coherent : IsCoherent uses)
    {name : SecretName} {data : Json} (used : (uses.map entry).lookup name = some data) :
    ∃ use, lastAsked? name uses = some use ∧ use.data = data := by
  induction uses with
  | nil => cases used
  | cons use earlier ih =>
    by_cases same : use.name = name
    · have last : use.data = data := by simpa [entry, same] using used
      cases asked : use.asked with
      | true => exact ⟨use, by simp [lastAsked?, asked, same], last⟩
      | false =>
        have before := coherent.2 asked
        rw [same, last] at before
        obtain ⟨other, found, equal⟩ := ih coherent.1 before
        refine ⟨other, ?_, equal⟩
        rw [lastAsked?, List.find?_cons_of_neg (by simp [asked])]
        exact found
    · have missed : (name == use.name) = false := by simpa using Ne.symm same
      rw [List.map_cons, entry, List.lookup_cons, missed] at used
      obtain ⟨other, found, equal⟩ := ih coherent.1 used
      refine ⟨other, ?_, equal⟩
      rw [lastAsked?, List.find?_cons_of_neg (by simp [same])]
      exact found

end SecretUse

namespace VaultState

open SecretUse

variable {state : VaultState} {uses : List SecretUse} {name : SecretName}

theorem Fits.isSome_find?_iff (fits : Fits state.cache uses) :
    (state.cache.find? name).isSome = true ↔ IsRecent 8 name uses := by
  have used : ((uses.map entry).lookup name).isSome = true ↔ ∃ use ∈ uses, use.name = name := by
    rw [List.lookup_isSome_iff]
    constructor
    · rintro ⟨_, member, same⟩
      obtain ⟨use, used, rfl⟩ := List.mem_map.mp member
      exact ⟨use, used, (eq_of_beq same).symm⟩
    · rintro ⟨use, member, same⟩
      exact ⟨use.entry, List.mem_map_of_mem member, beq_iff_eq.mpr same.symm⟩
  rw [fits.find?_eq, IsRecent, ← used]
  split
  next room => simp only [room, and_true]
  next full => simp only [full, and_false, Option.isSome_none, Bool.false_eq_true]

/-- What the cache has is what the vault gave when it was asked last. -/
theorem Fits.exists_lastAsked? (fits : Fits state.cache uses) {data : Json}
    (found : state.cache.find? name = some data) :
    ∃ use, lastAsked? name uses = some use ∧ use.data = data := by
  rw [fits.find?_eq] at found
  exact fits.2.exists_lastAsked? (Option.ite_none_right_eq_some.mp found).2

theorem exists_isRequest_mem_fetchCalls (state : VaultState) (name : SecretName) :
    ∃ call ∈ state.fetchCalls name, call.IsRequest := by
  unfold fetchCalls
  cases passed : state.credentials.pass state.vault with
  | ok token => exact ⟨_, List.mem_append_right _ (List.mem_singleton.mpr rfl), trivial⟩
  | error failure =>
    have logsIn : (state.credentials.token.isEmpty && state.credentials.canLogIn) = true := by
      unfold Credentials.pass at passed
      split at passed
      next => cases passed
      next empty =>
        split at passed
        next able => simpa [able] using empty
        next => cases passed
    refine ⟨.login state.credentials.roleId state.credentials.secretId, List.mem_append_left _ ?_,
      trivial⟩
    rw [Credentials.entryCalls, if_pos logsIn]
    exact List.mem_cons_of_mem _ List.mem_cons_self

theorem fetched_eq_ok_iff {data : Json} : state.fetched name = .ok data ↔
    ∃ token stored, state.credentials.pass state.vault = .ok token ∧
      state.vault.secrets.get? (state.path name) = some stored ∧
      data = if stored.isFalsy then .object [] else stored := by
  unfold fetched Vault.data
  cases state.credentials.pass state.vault with
  | error failure => simp
  | ok token =>
    cases state.vault.secrets.get? (state.path name) with
    | none => simp
    | some stored =>
      constructor
      · intro given
        exact ⟨token, stored, rfl, rfl, (Except.ok.inj given).symm⟩
      · rintro ⟨_, _, _, same, rfl⟩
        cases same
        rfl

/-- A reading that fails leaves the cache as it was. -/
theorem keptCache_of_error {failure : Failure} (fails : state.secret name = .error failure) :
    state.keptCache name = state.cache := by
  rw [keptCache, fails]

theorem find?_eq_none_of_error {failure : Failure} (fails : state.secret name = .error failure) :
    state.cache.find? name = none := by
  unfold secret at fails
  split at fails
  next => cases fails
  next missing => exact missing

end VaultState

/-- A secret is read without any call if and only if it was read before, since the cache was
cleared, and fewer than eight other secrets were used since its last use. It is then what the vault
gave when it was asked last. Otherwise the vault is asked, and gives what it has now at the path
that is given or else at the configured one; a reading that fails leaves the cache as it was, so
that the next one asks the vault again. The secret that is asked for a value is read in the same
way. -/
theorem secrets_are_kept_while_in_recent_use {env : Environment} {vault : Vault} {state : VaultState}
    {uses : List SecretUse} (recorded : VaultState.Recorded env vault state uses)
    (name : SecretName) :
    let outcome := (run state (read name)).1
    let after := (run state (read name)).2
    ∃ path, name.IsAt state.credentials.path path ∧ ∃ calls, after.calls = state.calls ++ calls ∧
      (calls = [] ↔ SecretUse.IsRecent 8 name uses) ∧
      (SecretUse.IsRecent 8 name uses →
        ∃ use, SecretUse.lastAsked? name uses = some use ∧ outcome = .ok use.data) ∧
      (¬SecretUse.IsRecent 8 name uses →
        (∃ call ∈ calls, call.IsRequest) ∧
        (∀ token, state.credentials.pass state.vault = .ok token →
          .read token state.credentials.mount path ∈ calls) ∧
        ∀ data, outcome = .ok data ↔
          ∃ token stored, state.credentials.pass state.vault = .ok token ∧
            state.vault.secrets.get? path = some stored ∧
            data = if stored.isFalsy then .object [] else stored) ∧
      (∀ failure, outcome = .error failure → after.cache = state.cache ∧
        ∃ more, (run after (read name)).2.calls = after.calls ++ more ∧
          ∃ call ∈ more, call.IsRequest) ∧
      ∀ what default prefers,
        (state.Consults what prefers →
          (run state (value what default name prefers)).2.cache = after.cache ∧
          (run state (value what default name prefers)).2.calls = after.calls) ∧
        (¬state.Consults what prefers → (run state (value what default name prefers)).2 = state) := by
  have fits := recorded.fits
  have recent := @VaultState.Fits.isSome_find?_iff state uses name fits
  rw [run_read]
  refine ⟨_, name.isAt_effective state.credentials, state.secretCalls name, rfl, VaultState.secretCalls_eq_nil_iff.trans recent,
    fun isRecent => ?_, fun notRecent => ?_, fun failure fails => ?_,
    fun what default prefers => ⟨fun consults => ?_, fun elsewhere => ?_⟩⟩
  · obtain ⟨data, found⟩ := Option.isSome_iff_exists.mp (recent.mpr isRecent)
    obtain ⟨use, last, rfl⟩ := fits.exists_lastAsked? found
    exact ⟨use, last, VaultState.secret_of_find? found⟩
  · have missing : state.cache.find? name = none := by simpa using mt recent.mp notRecent
    rw [VaultState.secretCalls_of_find?_eq_none missing, VaultState.secret_of_find?_eq_none missing]
    refine ⟨VaultState.exists_isRequest_mem_fetchCalls state name, fun token passed => ?_,
      fun data => VaultState.fetched_eq_ok_iff⟩
    rw [VaultState.fetchCalls, passed]
    exact List.mem_append_right _ List.mem_cons_self
  · have unchanged := VaultState.keptCache_of_error fails
    have missing : (state.afterReading name).cache.find? name = none :=
      (congrArg (·.find? name) unchanged).trans (VaultState.find?_eq_none_of_error fails)
    refine ⟨unchanged, _, ?_, VaultState.exists_isRequest_mem_fetchCalls (state.afterReading name) name⟩
    rw [run_read, ← VaultState.secretCalls_of_find?_eq_none missing]
    rfl
  · exact VaultState.reads_of_consults consults default name
  · rw [run_value_of_not_consults state name default elsewhere]

section Dropped

def secretVault : Vault :=
  ⟨[("chain-api", .object [("A", .string "x")])], none, Vault.grantedLogin⟩

/-- The state after the secret was read and then dropped from the vault, where another one is now. -/
def dropped : VaultState :=
  { (run (withToken [("OPENBAO_TOKEN", "t")] secretVault) (read .null)).2 with
    vault := (secretVault.drop "chain-api").put "other" (.object [("B", .string "z")]) }

theorem recorded_dropped : VaultState.Recorded [("OPENBAO_TOKEN", "t")] secretVault dropped
    [⟨.null, .object [("A", .string "x")], true⟩] :=
  .setVault (.read (.start (start_withToken secretVault)) .null) _

/-- A secret that was dropped from the vault is still read, and the vault is not asked. For the other
one it is asked at the path of that one. -/
theorem secrets_are_kept_while_in_recent_use_dropped :
    VaultState.Recorded [("OPENBAO_TOKEN", "t")] secretVault dropped
        [⟨.null, .object [("A", .string "x")], true⟩] ∧
      dropped.vault.secrets.get? "chain-api" = none ∧
      (run dropped (read .null)).1 = .ok (.object [("A", .string "x")]) ∧
      (run dropped (read .null)).2.calls = dropped.calls ∧
      (run dropped (read (.path "other"))).1 = .ok (.object [("B", .string "z")]) ∧
      .read (.string "t") "secret" "other" ∈ (run dropped (read (.path "other"))).2.calls := by
  have recent : SecretUse.IsRecent 8 .null [⟨.null, .object [("A", .string "x")], true⟩] :=
    ⟨⟨_, List.mem_singleton.mpr rfl, rfl⟩, by decide⟩
  have notRecent : ¬SecretUse.IsRecent 8 (.path "other")
      [⟨.null, .object [("A", .string "x")], true⟩] := by
    rintro ⟨⟨use, used, same⟩, _⟩
    cases List.mem_singleton.mp used
    cases same
  obtain ⟨_, _, calls, grown, none, kept, _⟩ :=
    secrets_are_kept_while_in_recent_use recorded_dropped .null
  obtain ⟨path, isAt, calls', grown', _, _, asked, _⟩ :=
    secrets_are_kept_while_in_recent_use recorded_dropped (.path "other")
  cases isAt.given "other" rfl (by decide)
  obtain ⟨_, reads, outcome⟩ := asked notRecent
  obtain ⟨use, last, given⟩ := kept recent
  cases last
  refine ⟨recorded_dropped, rfl, given, ?_, (outcome _).mpr ⟨.string "t", _, rfl, rfl, rfl⟩, ?_⟩
  · rw [grown, none.mpr recent, List.append_nil]
  · rw [grown']
    exact List.mem_append_right _ (reads _ rfl)

end Dropped

end AddressBook.Config
