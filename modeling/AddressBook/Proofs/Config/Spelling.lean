import AddressBook.Proofs.Config.Recency
import Mathlib.Data.List.TakeWhile

namespace AddressBook.Config

open VaultSession

namespace SecretUse

/-- Whether the vault was asked only for what was not in recent use. -/
def IsSparing : List SecretUse → Prop
  | [] => True
  | use :: earlier => IsSparing earlier ∧ (use.asked = true → ¬IsRecent 8 use.name earlier)

/-- How many other secrets were used. -/
def others (name : SecretName) (uses : List SecretUse) : Nat :=
  ((uses.map SecretUse.name).toFinset.erase name).card

variable {name : SecretName} {first : SecretUse} {since earlier : List SecretUse}

theorem others_le_cons (use : SecretUse) : others name since ≤ others name (use :: since) := by
  refine Finset.card_le_card (Finset.erase_subset_erase _ ?_)
  rw [List.map_cons, List.toFinset_cons]
  exact Finset.subset_insert _ _

/-- A secret stays in recent use while few others are used. -/
theorem isRecent_of_few (few : others first.name since < 8) :
    IsRecent 8 first.name (since ++ first :: earlier) := by
  refine ⟨⟨first, by simp, rfl⟩, lt_of_le_of_lt (Finset.card_le_card ?_) few⟩
  intro other member
  have stops : (since ++ first :: earlier).takeWhile (fun use => use.name ≠ first.name) =
      since.takeWhile fun use => use.name ≠ first.name := by
    rw [List.takeWhile_append]
    split
    next all =>
      rw [List.takeWhile_cons_of_neg (by simp), List.append_nil,
        (List.takeWhile_prefix _).eq_of_length all]
    next => rfl
  rw [stops, List.mem_toFinset] at member
  obtain ⟨use, taken, rfl⟩ := List.mem_map.mp member
  have different : use.name ≠ first.name := by simpa using List.mem_takeWhile_imp taken
  exact Finset.mem_erase.mpr ⟨different, List.mem_toFinset.mpr
    (List.mem_map_of_mem ((List.takeWhile_sublist _).subset taken))⟩

/-- While few others are used, all uses of a secret see what the first one saw. -/
theorem lookup_of_few (coherent : IsCoherent (since ++ first :: earlier))
    (sparing : IsSparing (since ++ first :: earlier)) (few : others first.name since < 8) :
    ((since ++ first :: earlier).map entry).lookup first.name = some first.data := by
  induction since with
  | nil => simp [entry]
  | cons use since ih =>
    have fewer : others first.name since < 8 := lt_of_le_of_lt (others_le_cons use) few
    have before := ih coherent.1 sparing.1 fewer
    by_cases same : use.name = first.name
    · have kept : use.asked = false := by
        by_contra asked
        rw [Bool.not_eq_false] at asked
        exact sparing.2 asked (same ▸ isRecent_of_few fewer)
      have equal : ((since ++ first :: earlier).map entry).lookup use.name = some use.data :=
        coherent.2 kept
      rw [same, before] at equal
      simp [entry, same, Option.some.inj equal]
    · have missed : (first.name == use.name) = false := by simpa using Ne.symm same
      rw [List.cons_append, List.map_cons, entry, List.lookup_cons, missed]
      exact before

end SecretUse

namespace VaultState

open SecretUse

variable {env : Environment} {vault : Vault} {state after : VaultState} {uses : List SecretUse}
  {name : SecretName} {data : Json}

theorem Fits.isSparing_usesAfter (fits : Fits state.cache uses) (sparing : IsSparing uses)
    (name : SecretName) : IsSparing (state.usesAfter name uses) := by
  rw [usesAfter_eq]
  split
  · refine ⟨sparing, fun asked recent => ?_⟩
    have found := fits.isSome_find?_iff.mpr recent
    rw [Option.isNone_iff_eq_none] at asked
    rw [asked] at found
    cases found
  · exact sparing

theorem Recorded.isSparing (recorded : Recorded env vault state uses) : IsSparing uses := by
  induction recorded with
  | start _ => trivial
  | read recorded name ih => exact recorded.fits.isSparing_usesAfter ih name
  | value recorded _ _ name ih => exact recorded.fits.isSparing_usesAfter ih name
  | valueElsewhere _ _ _ _ ih => exact ih
  | setEnvironment _ _ ih => exact ih
  | setVault _ _ ih => exact ih
  | clearCache _ _ => trivial

/-- Whether a secret is asked for, by itself or for a value in it, and gives data. -/
inductive Sees (state : VaultState) (name : SecretName) (data : Json) : VaultState → Prop
  | read {after : VaultState} (done : run state (VaultSession.read name) = (.ok data, after)) :
      Sees state name data after
  | value {what : String} {prefers : Bool} {default : Json} {outcome : Except Failure Json}
      {after : VaultState} (consults : state.Consults what prefers)
      (found : (run state (tryRead what name)).1 = .ok (some data))
      (done : run state (VaultSession.value what default name prefers) = (outcome, after)) :
      Sees state name data after

theorem Sees.secret (sees : Sees state name data after) : state.secret name = .ok data := by
  cases sees with
  | read done =>
    rw [run_read] at done
    exact congrArg Prod.fst done
  | value _ found _ =>
    rw [run_tryRead] at found
    cases read : state.secret name with
    | error failure =>
      rw [read] at found
      cases found
    | ok other =>
      rw [read] at found
      cases found
      rfl

theorem Sees.calls (sees : Sees state name data after) :
    after.calls = state.calls ++ state.secretCalls name := by
  cases sees with
  | read done =>
    rw [run_read] at done
    exact (congrArg (fun result => result.2.calls) done).symm
  | @value what prefers default outcome _ consults _ done =>
    have same := (reads_of_consults consults default name).2
    rw [done] at same
    exact same

theorem Sees.calls_eq_iff (sees : Sees state name data after) (fits : Fits state.cache uses) :
    after.calls = state.calls ↔ IsRecent 8 name uses := by
  rw [sees.calls, List.append_right_eq_self, secretCalls_eq_nil_iff, fits.isSome_find?_iff]

/-- A reading sees what another one saw, and asks the vault nothing, if and only if its own argument is
in recent use and the vault gave the same for this argument last. -/
theorem Sees.eq_iff {seen : Json} (sees : Sees state name data after) (fits : Fits state.cache uses) :
    data = seen ∧ after.calls = state.calls ↔
      IsRecent 8 name uses ∧ ∃ use, lastAsked? name uses = some use ∧ use.data = seen := by
  rw [sees.calls_eq_iff fits, and_comm]
  refine and_congr_right fun recent => ?_
  obtain ⟨kept, found⟩ := Option.isSome_iff_exists.mp (fits.isSome_find?_iff.mpr recent)
  obtain ⟨use, last, given⟩ := fits.exists_lastAsked? found
  have same : kept = data := Except.ok.inj ((secret_of_find? found).symm.trans sees.secret)
  rw [← same, ← given]
  constructor
  · intro equal
    exact ⟨use, last, equal⟩
  · rintro ⟨other, lastOther, equal⟩
    rwa [Option.some.inj (last.symm.trans lastOther)]

/-- A secret that is read under its own argument is the same while few others are used. -/
theorem Sees.eq_of_few {first : SecretUse} {since earlier : List SecretUse}
    (recorded : Recorded env vault state (since ++ first :: earlier))
    (sees : Sees state first.name data after) (few : others first.name since < 8) :
    data = first.data ∧ after.calls = state.calls := by
  have fits := recorded.fits
  have recent : IsRecent 8 first.name (since ++ first :: earlier) := isRecent_of_few few
  refine ⟨?_, (sees.calls_eq_iff fits).mpr recent⟩
  have found : state.cache.find? first.name = some first.data := by
    rw [fits.find?_eq, if_pos recent.2, lookup_of_few fits.2 recorded.isSparing few]
  exact Except.ok.inj (sees.secret.symm.trans (secret_of_find? found))

/-- A secret whose argument is not in recent use is what the vault has now. -/
theorem Sees.fetched_of_not_isRecent (sees : Sees state name data after)
    (fits : Fits state.cache uses) (notRecent : ¬IsRecent 8 name uses) :
    ∃ calls token stored, after.calls = state.calls ++ calls ∧
      .read token state.credentials.mount (name.effective state.credentials) ∈ calls ∧
      state.vault.secrets.get? (name.effective state.credentials) = some stored ∧
      data = if stored.isFalsy then .object [] else stored := by
  have missing : state.cache.find? name = none := by
    simpa using mt fits.isSome_find?_iff.mp notRecent
  have fetched := sees.secret
  rw [secret_of_find?_eq_none missing, fetched_eq_ok_iff] at fetched
  obtain ⟨token, stored, passed, there, given⟩ := fetched
  refine ⟨_, token, stored, sees.calls, ?_, there, given⟩
  rw [secretCalls_of_find?_eq_none missing, fetchCalls, passed]
  exact List.mem_append_right _ List.mem_cons_self

end VaultState

/-- A secret that was read, and is read once more with an argument that names the same path, while the
cache was not cleared in between. With the same argument the second reading sees the same and asks the
vault nothing, as long as fewer than eight other arguments are used in between. In general it does so
if and only if its own argument is in recent use and the vault gave the same for that argument last;
when it is not in recent use, the vault is asked for the path once more, and what is seen is what it
has now. -/
theorem copies_are_kept_for_each_argument {env : Environment} {vault : Vault}
    {state after : VaultState} {since earlier : List SecretUse} {first : SecretUse}
    (recorded : VaultState.Recorded env vault state (since ++ first :: earlier)) {name : SecretName}
    {data : Json} (sees : state.Sees name data after)
    (same : name.effective state.credentials = first.name.effective state.credentials) :
    (name = first.name → SecretUse.others name since < 8 →
      data = first.data ∧ after.calls = state.calls) ∧
    (data = first.data ∧ after.calls = state.calls ↔
      SecretUse.IsRecent 8 name (since ++ first :: earlier) ∧
        ∃ use, SecretUse.lastAsked? name (since ++ first :: earlier) = some use ∧
          use.data = first.data) ∧
    (¬SecretUse.IsRecent 8 name (since ++ first :: earlier) →
      ∃ calls token stored, after.calls = state.calls ++ calls ∧
        .read token state.credentials.mount (first.name.effective state.credentials) ∈ calls ∧
        state.vault.secrets.get? (first.name.effective state.credentials) = some stored ∧
        data = if stored.isFalsy then .object [] else stored) := by
  refine ⟨?_, sees.eq_iff recorded.fits, fun notRecent => ?_⟩
  · rintro rfl few
    exact sees.eq_of_few recorded few
  · rw [← same]
    exact sees.fetched_of_not_isRecent recorded.fits notRecent

section Respelled

/-- The state after the secret was read without a path and then changed in the vault. -/
def changed : VaultState :=
  { (run (withToken [("OPENBAO_TOKEN", "t")] secretVault) (read .unnamed)).2 with
    vault := secretVault.put "chain-api" (.object [("A", .string "y")]) }

theorem recorded_changed : VaultState.Recorded [("OPENBAO_TOKEN", "t")] secretVault changed
    ([] ++ ⟨.unnamed, .object [("A", .string "x")], true⟩ :: []) :=
  .setVault (.read (.start (start_withToken secretVault)) .unnamed) _

/-- Without a path once more, the secret is as it was; for a path that is null the vault is asked. -/
theorem copies_are_kept_for_each_argument_changed :
    (run changed (read .unnamed)).1 = .ok (.object [("A", .string "x")]) ∧
    (run changed (read .unnamed)).2.calls = changed.calls ∧
    (run changed (read .null)).1 = .ok (.object [("A", .string "y")]) ∧
    ∃ token, .read token "secret" "chain-api" ∈ (run changed (read .null)).2.calls := by
  have unnamed : changed.Sees .unnamed (.object [("A", .string "x")])
      (run changed (read .unnamed)).2 := .read rfl
  have null : changed.Sees .null (.object [("A", .string "y")]) (run changed (read .null)).2 :=
    .read rfl
  obtain ⟨kept, _, _⟩ := copies_are_kept_for_each_argument recorded_changed unnamed rfl
  obtain ⟨_, _, asked⟩ := copies_are_kept_for_each_argument recorded_changed null rfl
  have notRecent : ¬SecretUse.IsRecent 8 .null
      ([] ++ ⟨.unnamed, .object [("A", .string "x")], true⟩ :: []) := by
    rintro ⟨⟨use, used, same⟩, _⟩
    cases List.mem_singleton.mp used
    cases same
  obtain ⟨calls, token, _, grown, member, _⟩ := asked notRecent
  refine ⟨rfl, (kept rfl (by decide)).2, rfl, token, ?_⟩
  rw [grown]
  exact List.mem_append_right _ member

/-- One secret is read twice, and nothing happens in between but that it changes in the vault. The two
arguments name the same path, but the second reading sees other data, and asks the vault. -/
theorem copies_differ_between_spellings :
    VaultState.Recorded [("OPENBAO_TOKEN", "t")] secretVault changed
      ([] ++ ⟨.unnamed, .object [("A", .string "x")], true⟩ :: []) ∧
    SecretName.effective .null changed.credentials =
      SecretName.effective .unnamed changed.credentials ∧
    SecretUse.others .null [] < 8 ∧
    ∃ after, changed.Sees .null (.object [("A", .string "y")]) after ∧
      Json.object [("A", .string "y")] ≠ .object [("A", .string "x")] ∧
      after.calls ≠ changed.calls := by
  refine ⟨recorded_changed, rfl, by decide, _, .read rfl, by simp, fun same => ?_⟩
  exact absurd (congrArg List.length same) (by decide)

end Respelled

end AddressBook.Config
