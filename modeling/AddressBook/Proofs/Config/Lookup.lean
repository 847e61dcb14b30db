import AddressBook.Proofs.Config.Secret
import Mathlib.Data.List.Range

namespace AddressBook.Config

open VaultSession

theorem VaultSession.valueIn_object (fields : Fields) (name : String) (default : Json) :
    valueIn (.object fields) name default = .ok ((Fields.get? fields name).getD default) := rfl

/-- Only objects have values for names. -/
theorem VaultSession.valueIn_eq_error_iff {data : Json} {name : String} {default : Json} :
    (∃ failure, valueIn data name default = .error failure) ↔ ∀ fields, data ≠ .object fields := by
  cases data with
  | object fields => simp [valueIn]
  | _ => simp [valueIn]

section
variable {state : VaultState} {what : String} {prefers : Bool}

theorem VaultState.fromEnvironment_eq_error_iff :
    (∃ failure, state.fromEnvironment what prefers = .error failure) ↔
      prefers = true ∧ state.environment.IsTooDeep what := by
  unfold fromEnvironment
  cases prefers with
  | false => simp
  | true => simp [Environment.nonEmpty?_eq_error_iff]

/-- A value fails to be looked up only if its references are too deep or its secret is no object. -/
theorem VaultSession.value_fails_iff (default : Json) (name : SecretName) :
    (∃ failure, (run state (value what default name prefers)).1 = .error failure) ↔
      prefers = true ∧ state.environment.IsTooDeep what ∨
        state.Consults what prefers ∧
          ∃ data, state.secret name = .ok data ∧ ∀ fields, data ≠ .object fields := by
  by_cases consults : state.Consults what prefers
  · have shallow : ¬(prefers = true ∧ state.environment.IsTooDeep what) :=
      fun deep => (consults.2 deep.1).1 deep.2
    rw [run_value_of_consults state name default consults]
    cases state.secret name with
    | error failure => simp [shallow]
    | ok data => simpa [shallow, consults] using valueIn_eq_error_iff
  · rw [run_value_of_not_consults state name default consults,
      ← VaultState.fromEnvironment_eq_error_iff]
    cases state.fromEnvironment what prefers with
    | error failure => simp [consults, Except.map]
    | ok text => simp [consults, Except.map]

/-- A value that the environment has is taken from there if that is preferred. -/
theorem VaultSession.value_of_gives {text : String} (default : Json) (name : SecretName)
    (preferred : prefers = true) (shallow : ¬state.environment.IsTooDeep what)
    (gives : state.environment.Gives what text) (filled : text ≠ "") :
    (run state (value what default name prefers)).1 = .ok (.string text) := by
  have found := Environment.nonEmpty?_eq_some_iff.mpr ⟨shallow, gives, filled⟩
  have elsewhere : ¬state.Consults what prefers :=
    fun consults => filled ((consults.2 preferred).2 text gives)
  rw [run_value_of_not_consults state name default elsewhere, VaultState.fromEnvironment,
    if_pos preferred, found]
  rfl

/-- References that are too deep are not made up for by anything. -/
theorem VaultSession.value_of_isTooDeep (default : Json) (name : SecretName)
    (preferred : prefers = true) (deep : state.environment.IsTooDeep what) :
    (run state (value what default name prefers)).1 = .error Environment.endlessFailure := by
  have failed := Environment.nonEmpty?_eq_error_iff.mpr ⟨deep, rfl⟩
  have elsewhere : ¬state.Consults what prefers := fun consults => (consults.2 preferred).1 deep
  rw [run_value_of_not_consults state name default elsewhere, VaultState.fromEnvironment,
    if_pos preferred, failed]
  rfl

/-- Without credentials a value that the environment does not have is the default. -/
theorem VaultSession.value_of_not_enabled (default : Json) (name : SecretName)
    (lacks : state.LacksValue what prefers) (disabled : state.credentials.enabled = false) :
    (run state (value what default name prefers)).1 = .ok default := by
  have elsewhere : ¬state.Consults what prefers :=
    fun consults => Bool.false_ne_true (disabled.symm.trans consults.1)
  rw [run_value_of_not_consults state name default elsewhere,
    state.fromEnvironment_eq_none_iff.mpr lacks]
  rfl

end

/-- The value of a name is that of the environment if it is preferred and has one that is not empty;
else the default if there are no credentials or the secret cannot be read; else what the secret has
for the name, or the default. It fails if more references follow one another than are followed, which
without a cycle takes that many variables, or if the secret is no object, and in no other case. -/
theorem values_are_looked_up_in_order (state : VaultState) (what : String) (default : Json)
    (name : SecretName) (prefers : Bool) :
    let outcome := (run state (value what default name prefers)).1
    ((∃ failure, outcome = .error failure) ↔
      prefers = true ∧ state.environment.IsTooDeep what ∨
        state.Consults what prefers ∧
          ∃ data, state.secret name = .ok data ∧ ∀ fields, data ≠ .object fields) ∧
    (∀ text, prefers = true → ¬state.environment.IsTooDeep what →
      state.environment.Gives what text → text ≠ "" → outcome = .ok (.string text)) ∧
    (state.LacksValue what prefers →
      (state.credentials.enabled = false → outcome = .ok default) ∧
      (state.credentials.enabled = true →
        (∀ failure, state.secret name = .error failure → outcome = .ok default) ∧
        ∀ fields, state.secret name = .ok (.object fields) →
          outcome = .ok ((Fields.get? fields what).getD default))) ∧
    (state.environment.IsAcyclic →
      state.environment.references.length ≤ Environment.maxReferences →
      ¬state.environment.IsTooDeep what) := by
  refine ⟨value_fails_iff default name, fun text => value_of_gives default name,
    fun lacks => ⟨value_of_not_enabled default name lacks, fun enabled => ?_⟩,
    fun acyclic few => acyclic.not_isTooDeep few what⟩
  rw [run_value_of_consults state name default ⟨enabled, lacks⟩]
  refine ⟨fun failure unread => ?_, fun fields read => ?_⟩
  · rw [unread]
  · rw [read]
    exact valueIn_object fields what default

section Unreplaced

def listVault : Vault := ⟨[("chain-api", .array [.string "x"])], none, Vault.grantedLogin⟩

/-- A name of so many letters. -/
def Environment.letters (count : Nat) : String := String.ofList (List.replicate (count + 1) 'V')

/-- So many variables, from one of so many letters on, each of which stands for the one that has a
letter more. -/
def Environment.rising (least : Nat) : Nat → Environment
  | 0 => []
  | count + 1 =>
    (letters least, String.ofList ('$' :: (letters (least + 1)).toList)) :: rising (least + 1) count

namespace Environment

theorem letters_inj {count other : Nat} : letters count = letters other ↔ count = other := by
  refine ⟨fun same => ?_, congrArg letters⟩
  have length := congrArg String.length same
  simp only [letters, String.length_ofList, List.length_replicate] at length
  omega

theorem referred?_letters (count : Nat) :
    referred? (String.ofList ('$' :: (letters count).toList)) = some (letters count) := by
  simp [referred?, letters, List.replicate_succ]

theorem refers_rising_iff {least count : Nat} {name next : String} :
    (rising least count).Refers name next ↔
      ∃ i, least ≤ i ∧ i < least + count ∧ name = letters i ∧ next = letters (i + 1) := by
  induction count generalizing least with
  | zero =>
    constructor
    · rintro ⟨_, found, _⟩
      cases found
    · rintro ⟨i, low, high, _⟩
      omega
  | succ count ih =>
    by_cases first : name = letters least
    · have found : (rising least (count + 1)).lookup name =
          some (String.ofList ('$' :: (letters (least + 1)).toList)) := by
        simp [rising, first]
      constructor
      · rintro ⟨value, found', refers⟩
        cases found.symm.trans found'
        rw [referred?_letters] at refers
        exact ⟨least, Nat.le_refl _, by omega, first, (Option.some.inj refers).symm⟩
      · rintro ⟨i, _, _, same, rfl⟩
        obtain rfl := letters_inj.mp (first.symm.trans same)
        exact ⟨_, found, referred?_letters _⟩
    · have later : (rising least (count + 1)).Refers name next ↔
          (rising (least + 1) count).Refers name next := by
        have missed : (name == letters least) = false := by simpa using first
        simp only [Refers, rising, List.lookup_cons, missed]
      rw [later, ih]
      constructor
      · rintro ⟨i, low, high, same⟩
        exact ⟨i, by omega, by omega, same⟩
      · rintro ⟨i, low, high, rfl, same⟩
        have other : i ≠ least := fun same => first (congrArg letters same)
        exact ⟨i, by omega, by omega, rfl, same⟩

theorem isAcyclic_rising (least count : Nat) : (rising least count).IsAcyclic := by
  have longer {name next : String} (connected : Relation.TransGen (rising least count).Refers name next) :
      name.length < next.length := by
    induction connected with
    | single refers =>
      obtain ⟨i, _, _, rfl, rfl⟩ := refers_rising_iff.mp refers
      simp [letters]
    | tail _ refers ih =>
      obtain ⟨i, _, _, rfl, rfl⟩ := refers_rising_iff.mp refers
      refine ih.trans ?_
      simp [letters]
  exact fun name cycle => Nat.lt_irrefl _ (longer cycle)

theorem isChain_rising (count : Nat) : List.IsChain (rising 0 count).Refers
    (letters 0 :: (List.range count).map fun i => letters (i + 1)) := by
  have whole : letters 0 :: (List.range count).map (fun i => letters (i + 1)) =
      (List.range (count + 1)).map letters := by
    rw [List.range_succ_eq_map, List.map_cons, List.map_map]
    rfl
  rw [whole, List.isChain_map, List.isChain_range_succ]
  exact fun i below => refers_rising_iff.mpr ⟨i, Nat.zero_le i, by omega, rfl, rfl⟩

/-- References may be too deep although none leads back to where it began. -/
theorem exists_isAcyclic_isTooDeep :
    ∃ env : Environment, env.IsAcyclic ∧ env.IsTooDeep (letters 0) :=
  ⟨rising 0 (maxReferences + 1), isAcyclic_rising _ _, _,
    by rw [List.length_map, List.length_range], isChain_rising _⟩

end Environment

/-- A list in place of a secret is not made up for by the default, and neither are too many references
that follow one another without a cycle. -/
theorem failures_are_not_replaced_by_the_default :
    (∃ state, VaultSession.start [("OPENBAO_TOKEN", "t")] listVault = .ok state ∧
      state.environment.IsAcyclic ∧
      (run state (value "A" (.string "d") .null true)).1 =
        .error (.fault .attribute "'list' object has no attribute 'get'")) ∧
    ∃ state : VaultState, state.environment.IsAcyclic ∧
      (run state (value (Environment.letters 0) (.string "d") .null true)).1 =
        .error Environment.endlessFailure := by
  obtain ⟨environment, acyclic, deep⟩ := Environment.exists_isAcyclic_isTooDeep
  exact ⟨⟨_, start_withToken listVault, Environment.isAcyclic_of_references_eq_nil rfl, rfl⟩,
    withToken environment listVault, acyclic, value_of_isTooDeep _ _ rfl deep⟩

end Unreplaced

end AddressBook.Config
