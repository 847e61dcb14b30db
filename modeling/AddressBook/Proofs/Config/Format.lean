import AddressBook.Config.Settings
import AddressBook.Proofs.Config.Secret
import AddressBook.Proofs.Fields
import AddressBook.Proofs.Http.Linked

namespace AddressBook

namespace Address

/-- Of the formats within the bounds only the reserved ones are not supported. -/
theorem supports_iff_of_bounded {format : Int} (least : 0 ≤ format) (greatest : format ≤ 16383) :
    Supports format ↔ format ≠ 46 ∧ format ≠ 47 := by
  unfold Supports maxFormat
  omega

theorem encode_of_not_supports {account : Bytes} {format : Int}
    (whole : account.length = accountLength) (unsupported : ¬Supports format) :
    encode account format = .error (.unsupportedFormat format) := by
  unfold encode
  rw [if_neg (not_not.mpr whole)]
  cases tagged : tag format with
  | ok t => exact absurd (supports_of_tag tagged) unsupported
  | error e =>
    unfold tag at tagged
    split at tagged
    next =>
      cases tagged
      rfl
    next => cases tagged

end Address

namespace Http

/-- Where addresses cannot be written, the server fails as soon as there is a key to list. -/
theorem Lists.run_handle_of_not_supports {scene : Scene} {world : World} {user : User}
    {token : String} {request : Request} (lists : Lists request token)
    (unplanned : scene.fault = none) (unsupported : ¬Address.Supports scene.format)
    (sound : world.store.Sound) (keeps : world.store.Keeps token user)
    (whole : ∀ key ∈ world.store.keysOf user.id, key.address.length = Address.accountLength) :
    ∃ response after, Session.run scene world (handle request) = (.ok response, after) ∧
      response.status = if world.store.keysOf user.id = [] then 200 else 500 := by
  have known : request.method ∈ Route.keys.methods := by simp [lists.method, Route.methods]
  have notHead : request.method ≠ "HEAD" := by simp [lists.method]
  have listed := lists.run_keys unplanned sound keeps
  rw [handle_eq_answering lists.host (lists.path ▸ route?_keys) known]
  cases linked : world.store.keysOf user.id with
  | nil =>
    rw [linked] at listed
    exact ⟨_, _, run_answering_of_ok listed notHead rfl, rfl⟩
  | cons key rest =>
    have refused : (Keys.item scene.format key.id key.address).mapError Failure.ofAddressError =
        .error (Failure.ofAddressError (.unsupportedFormat scene.format)) := by
      have first := whole key (linked ▸ List.mem_cons_self)
      rw [Keys.item, Address.encode_of_not_supports first unsupported]
      rfl
    rw [linked, List.mapM_cons, refused] at listed
    obtain ⟨response, records, reported, status⟩ :=
      report_other scene.debug request.origin _ _
    have bodied : Response.isBodiless response.status = false := by
      rw [status]
      decide
    exact ⟨response, _, run_answering_of_error listed reported notHead bodied, status⟩

end Http

namespace Config

/-- Whether the settings of a profile are loaded, and what they are. -/
def Loads (profile : Profile) (env : Environment) (vault : Vault) (fields : Fields) : Prop :=
  ∃ before after, VaultSession.start env vault = .ok before ∧
    VaultSession.run before (settings profile) = (.ok fields, after)

theorem Environment.within_of_boundedInt {env : Environment} {name : String}
    {default minimum maximum value : Int}
    (read : env.boundedInt name default minimum maximum = .ok value) :
    minimum ≤ value ∧ value ≤ maximum := by
  unfold boundedInt at read
  split at read
  next => cases read
  next =>
    split at read
    next => cases read
    next within =>
      cases read
      omega

/-- The settings for development have the format that the environment gives. -/
theorem format_of_developmentSettings {before after : VaultState} {fields : Fields}
    (made : VaultSession.run before developmentSettings = (.ok fields, after)) :
    ∃ format, networkFormat before.environment = .ok format ∧
      fields.get? "SS58_FORMAT" = some (.int format) := by
  obtain ⟨secretKey, mid, looked, made⟩ := VaultSession.exists_of_run_bind made
  have setup := VaultSession.keepsSetup_value .null "DJANGO_SECRET_KEY" (.string "insecure-dev-key")
    true before
  rw [looked] at setup
  have same : mid.environment = before.environment := congrArg Prod.fst setup
  obtain ⟨_, _, got, made⟩ := VaultSession.exists_of_run_bind made
  cases got
  rw [VaultSession.run_ofExcept] at made
  obtain ⟨debug, _, made⟩ := exists_of_bind_eq_ok (congrArg Prod.fst made)
  obtain ⟨hosts, _, made⟩ := exists_of_bind_eq_ok made
  obtain ⟨url, _, made⟩ := exists_of_bind_eq_ok made
  obtain ⟨database, _, made⟩ := exists_of_bind_eq_ok made
  obtain ⟨format, admitted, made⟩ := exists_of_bind_eq_ok made
  obtain ⟨level, _, made⟩ := exists_of_bind_eq_ok made
  obtain ⟨renderer, _, made⟩ := exists_of_bind_eq_ok made
  cases made
  exact ⟨format, same ▸ admitted, rfl⟩

theorem format_of_productionSettings {before after : VaultState} {fields : Fields}
    (made : VaultSession.run before productionSettings = (.ok fields, after)) :
    ∃ format, networkFormat before.environment = .ok format ∧
      fields.get? "SS58_FORMAT" = some (.int format) := by
  obtain ⟨base, _, built, made⟩ := VaultSession.exists_of_run_bind made
  obtain ⟨format, admitted, kept⟩ := format_of_developmentSettings built
  obtain ⟨_, _, _, made⟩ := VaultSession.exists_of_run_bind made
  obtain ⟨debug, _, _, made⟩ := VaultSession.exists_of_run_bind made
  obtain ⟨secretKey, _, _, made⟩ := VaultSession.exists_of_run_bind made
  obtain ⟨url, _, _, made⟩ := VaultSession.exists_of_run_bind made
  rw [VaultSession.run_ofExcept] at made
  obtain ⟨database, _, made⟩ := exists_of_bind_eq_ok (congrArg Prod.fst made)
  obtain ⟨age, _, made⟩ := exists_of_bind_eq_ok made
  obtain ⟨hosts, _, made⟩ := exists_of_bind_eq_ok made
  obtain ⟨redirect, _, made⟩ := exists_of_bind_eq_ok made
  cases made
  refine ⟨format, admitted, ?_⟩
  rw [Fields.get?_putAll_of_not_mem (by simp), kept]

/-- The format that the settings have is the one that the environment gives, within its bounds. -/
theorem Loads.format {profile : Profile} {env : Environment} {vault : Vault} {fields : Fields}
    (loads : Loads profile env vault fields)
    (served : profile = .development ∨ profile = .production) :
    ∃ format, networkFormat env = .ok format ∧ fields.get? "SS58_FORMAT" = some (.int format) ∧
      0 ≤ format ∧ format ≤ 16383 := by
  obtain ⟨before, after, started, made⟩ := loads
  obtain ⟨format, admitted, kept⟩ : ∃ format, networkFormat before.environment = .ok format ∧
      fields.get? "SS58_FORMAT" = some (.int format) := by
    rcases served with rfl | rfl
    · exact format_of_developmentSettings made
    · exact format_of_productionSettings made
  obtain ⟨_, _, rfl⟩ := VaultSession.exists_of_start started
  exact ⟨format, admitted, kept, Environment.within_of_boundedInt admitted⟩

/-- The settings admit no format but those that a tag can carry. Each of them can be written for all
accounts, unless it is reserved: then none can be, and the server fails for every user who has a
key to list. Of the settings only the format is looked at: which hosts they allow, whether they send
requests on to TLS, and where the tables are, is left out. -/
theorem admitted_formats_are_written_unless_reserved {profile : Profile} {env : Environment}
    {vault : Vault} {fields : Fields} (loads : Loads profile env vault fields)
    (served : profile = .development ∨ profile = .production) :
    ∃ format, networkFormat env = .ok format ∧ fields.get? "SS58_FORMAT" = some (.int format) ∧
      (0 ≤ format ∧ format ≤ 16383) ∧
      (∀ account : Bytes, account.length = Address.accountLength →
        ((∃ text, Address.encode account format = .ok text) ↔ format ≠ 46 ∧ format ≠ 47)) ∧
      ∀ (scene : Scene) (world : World) (token : String) (user : User) (request : Http.Request),
        scene.format = format → scene.fault = none → world.store.Reachable →
        (∀ key ∈ world.store.keys.rows, key.address.length = Address.accountLength) →
        world.store.Keeps token user → Http.Lists request token →
        ∃ response after,
          Session.run scene world (Http.handle request) = (.ok response, after) ∧
          response.status =
            if (format ≠ 46 ∧ format ≠ 47) ∨ world.store.keysOf user.id = [] then 200 else 500 := by
  obtain ⟨format, admitted, kept, least, greatest⟩ := loads.format served
  have supports := Address.supports_iff_of_bounded least greatest
  refine ⟨format, admitted, kept, ⟨least, greatest⟩, fun account whole => ?_, ?_⟩
  · rw [← supports]
    constructor
    · rintro ⟨text, written⟩
      exact (Address.encode_eq_ok_iff.mp written).2.1
    · intro supported
      exact ⟨_, Address.encode_of_supports whole supported⟩
  · rintro scene world token user request rfl unplanned reachable whole keeps lists
    have own : ∀ key ∈ world.store.keysOf user.id, key.address.length = Address.accountLength :=
      fun key member => whole key (Store.mem_keysOf.mp member).1
    by_cases free : scene.format ≠ 46 ∧ scene.format ≠ 47
    · have supported := supports.mpr free
      refine ⟨_, _, lists.run_handle unplanned supported reachable.sound keeps rfl own, ?_⟩
      rw [if_pos (.inl free)]
      rfl
    · have unsupported := mt supports.mp free
      have answered :=
        lists.run_handle_of_not_supports unplanned unsupported reachable.sound keeps own
      simpa only [free, false_or] using answered

/-- Settings are loaded if they can be computed. -/
theorem exists_loads {profile : Profile} {env : Environment} {vault : Vault}
    (computed : (do
      let state ← VaultSession.start env vault
      (VaultSession.run state (settings profile)).1).isOk = true) :
    ∃ fields, Loads profile env vault fields := by
  cases started : VaultSession.start env vault with
  | error failure =>
    rw [started] at computed
    cases computed
  | ok before =>
    rw [started] at computed
    rcases made : VaultSession.run before (settings profile) with ⟨outcome, after⟩
    cases outcome with
    | ok fields => exact ⟨fields, before, after, started, made⟩
    | error failure =>
      simp only [bind, Except.bind, made] at computed
      cases computed

section Formats

def emptyVault : Vault := ⟨[], none, Vault.grantedLogin⟩

theorem networkFormat_seven : networkFormat [("SS58_FORMAT", "7")] = .ok 7 := rfl

theorem networkFormat_fortySix : networkFormat [("SS58_FORMAT", "46")] = .ok 46 := rfl

theorem admitted_formats_are_written_unless_reserved_seven :
    ∃ fields, Loads .development [("SS58_FORMAT", "7")] emptyVault fields ∧
      fields.get? "SS58_FORMAT" = some (.int 7) ∧
      (∃ text, Address.encode (List.replicate 32 0) 7 = .ok text) ∧
      ∃ response after, Session.run ⟨false, 7, none⟩ ⟨Store.linkedOnce, []⟩
          (Http.handle Http.listWithToken) = (.ok response, after) ∧ response.status = 200 := by
  obtain ⟨fields, loads⟩ : ∃ fields, Loads .development [("SS58_FORMAT", "7")] emptyVault fields :=
    exists_loads (by decide +kernel)
  obtain ⟨format, admitted, kept, _, written, answered⟩ :=
    admitted_formats_are_written_unless_reserved loads (.inl rfl)
  cases networkFormat_seven.symm.trans admitted
  exact ⟨fields, loads, kept, (written _ rfl).mpr (by decide),
    answered ⟨false, 7, none⟩ ⟨Store.linkedOnce, []⟩ "t" ⟨1⟩ _ rfl rfl Store.reachable_linkedOnce
      Store.whole_linkedOnce Http.keeps_linkedOnce Http.lists_listWithToken⟩

/-- The settings admit a reserved format. The account of zeros has no address in it, and the server
fails when it is to be listed. -/
theorem reserved_format_is_admitted :
    (∃ fields, Loads .development [("SS58_FORMAT", "46")] emptyVault fields ∧
      fields.get? "SS58_FORMAT" = some (.int 46)) ∧
    Address.encode (List.replicate 32 0) 46 = .error (.unsupportedFormat 46) ∧
    (Store.linkedOnce.Reachable ∧ Store.linkedOnce.Keeps "t" ⟨1⟩ ∧
      Http.Lists Http.listWithToken "t" ∧
      ∀ key ∈ Store.linkedOnce.keys.rows, key.address.length = Address.accountLength) ∧
    ∃ response after, Session.run ⟨false, 46, none⟩ ⟨Store.linkedOnce, []⟩
        (Http.handle Http.listWithToken) = (.ok response, after) ∧ response.status = 500 := by
  have unsupported : ¬Address.Supports 46 := by decide
  obtain ⟨fields, loads⟩ : ∃ fields, Loads .development [("SS58_FORMAT", "46")] emptyVault fields :=
    exists_loads (by decide +kernel)
  obtain ⟨format, admitted, kept, _⟩ := loads.format (.inl rfl)
  cases networkFormat_fortySix.symm.trans admitted
  refine ⟨⟨fields, loads, kept⟩, Address.encode_of_not_supports rfl unsupported,
    ⟨Store.reachable_linkedOnce, Http.keeps_linkedOnce, Http.lists_listWithToken,
      Store.whole_linkedOnce⟩, ?_⟩
  refine @Http.Lists.run_handle_of_not_supports ⟨false, 46, none⟩ ⟨Store.linkedOnce, []⟩ _ _ _
    Http.lists_listWithToken rfl unsupported Store.reachable_linkedOnce.sound Http.keeps_linkedOnce ?_
  intro key member
  exact Store.whole_linkedOnce key (Store.mem_keysOf.mp member).1

end Formats

end Config
end AddressBook
