import AddressBook.Proofs.Address.Grammar
import AddressBook.Proofs.Book.Reachable
import AddressBook.Proofs.Http.Header

namespace AddressBook

/-- Unlinking takes away the rows of the user with the address, and nothing else. -/
theorem Store.unlink_eq (s : Store) (user : User) (address : Bytes) :
    (s.unlink user.id address).2 =
      { s with keys := { s.keys with
        rows := s.keys.rows.filter fun row => ¬(row.user = user.id ∧ row.address = address) } } := by
  have same : (fun row : PublicKey => !((row.user : Int) == user.id && row.address == address)) =
      fun row => decide ¬(row.user = user.id ∧ row.address = address) := by
    funext row
    rw [Bool.eq_iff_iff, decide_eq_true_iff, Bool.not_eq_true', ← Bool.not_eq_true, Bool.and_eq_true,
      beq_iff_eq, beq_iff_eq, Int.ofNat_inj]
  unfold Store.unlink Table.remove
  rw [same]

/-- One row at most links an address to a user. -/
theorem Store.Sound.length_links_le {s : Store} (sound : s.Sound) (user : User) (address : Bytes) :
    (s.keys.rows.filter fun row => row.user = user.id ∧ row.address = address).length ≤ 1 := by
  refine sound.keyOfUser.length_filter_le (k := (user.id, address)) fun row linked => ?_
  obtain ⟨sameUser, sameAddress⟩ := of_decide_eq_true linked
  exact Prod.ext sameUser sameAddress

/-- A request changes tables that can come about only if it unlinks an address. Then of the keys
the row goes that links the address to the sender, if there is one, and all else stays. The listing
command changes nothing. -/
theorem tables_change_only_by_unlinking {world : World} (reachable : world.store.Reachable)
    (scene : Scene) :
    (∀ request, (∀ user address, ¬Http.Unlinks scene world.store request user address) →
      (Session.run scene world (Http.handle request)).2.store = world.store) ∧
    (∀ request user address, Http.Unlinks scene world.store request user address →
      (Session.run scene world (Http.handle request)).2.store =
        { world.store with keys := { world.store.keys with
          rows := world.store.keys.rows.filter fun row =>
            ¬(row.user = user.id ∧ row.address = address) } } ∧
      (world.store.keys.rows.filter fun row =>
        row.user = user.id ∧ row.address = address).length ≤ 1) ∧
    ∀ arguments,
      (Session.run scene world (Listing.run arguments)).2.store = world.store := by
  refine ⟨fun request other => ?_, fun request user address unlinks => ⟨?_, ?_⟩, fun arguments => ?_⟩
  · exact Http.store_run_handle_of_not_unlinks other
  · rw [unlinks.store_run_handle, Store.unlink_eq]
  · exact reachable.sound.length_links_le user address
  · exact Listing.readsOnly_run arguments scene world

section OneLink

/-- Nothing is planned to fail. -/
def Scene.calm : Scene := ⟨false, 42, none⟩

/-- The record of an unlinking cannot be written. -/
def Scene.unrecorded : Scene := ⟨false, 42, some ⟨.keyDeleteLog, .fault .runtime "boom"⟩⟩

/-- One user, who has the token `t` and has linked the account of zeros. -/
def Store.linkedOnce : Store :=
  { Store.empty with
    users := ⟨[⟨1⟩], 2⟩
    tokens := ⟨[⟨1, 1, Tokens.hash "t"⟩], 2⟩
    keys := ⟨[⟨1, 1, List.replicate 32 0⟩], 2⟩ }

theorem Store.reachable_linkedOnce : Store.linkedOnce.Reachable := by
  have user := @Reachable.after _ _ ⟨empty, []⟩ .empty .addUser Scene.calm
  have token := @Reachable.after _ _ ⟨_, []⟩ user (.addToken (some 1) "t") Scene.calm
  exact @Reachable.after _ _ ⟨_, []⟩ token (.addKey (some 1) (some (List.replicate 32 0))) Scene.calm

theorem Store.whole_linkedOnce :
    ∀ key ∈ linkedOnce.keys.rows, key.address.length = Address.accountLength := by
  intro key member
  rw [List.mem_singleton.mp member]
  rfl

namespace Http

def zerosText : String := "5C4hrfjw9DjXZTzV3MwzrrAr9P1MJhSrvWGWqi1eSuyUpnhM"

def zerosBody : Bytes := Bytes.ofText ("\x7b\"account\":\"" ++ zerosText ++ "\"\x7d")

def unlinkZeros (headers : List (String × String)) : Request :=
  ⟨"DELETE", "/keys".toList, ("Authorization", "Bearer t") :: headers, zerosBody⟩

variable {headers : List (String × String)}

@[simp] theorem headers_unlinkZeros :
    (unlinkZeros headers).headers = ("Authorization", "Bearer t") :: headers := rfl

theorem bearerToken?_unlinkZeros (single : header? "Authorization" headers = none) :
    bearerToken? (unlinkZeros headers).headers = some "t" :=
  bearerToken?_of_header? (by simp [single])

theorem length_zerosBody : zerosBody.length ≤ Request.maxLength := by decide +kernel

theorem namedAccount?_zerosBody : namedAccount? zerosBody = some zerosText := by decide +kernel

theorem trimString_zerosText : Text.trimString zerosText = zerosText := by decide +kernel

theorem decode_zeros : Address.decode zerosText = .ok (List.replicate 32 0) := by
  refine Address.decode_eq_ok_iff.mpr ⟨[42], 42, ?_⟩
  rw [show Text.trimEnd zerosText.toList = zerosText.toList by decide +kernel]
  exact Address.spells_zeros

theorem sends_unlinkZeros {scene : Scene} (lookup : scene.IsCalmAt .authentication)
    (statement : scene.IsCalmAt .statement)
    (brought : bearerToken? (unlinkZeros headers).headers = some "t") :
    Sends scene Store.linkedOnce (unlinkZeros headers) ⟨1⟩ := by
  have known : Store.linkedOnce.userOfHash? (Tokens.hash "t") = some ⟨1⟩ := by
    simp [Store.userOfHash?, Store.linkedOnce]
  exact ⟨⟨"t", brought, by decide, known⟩, lookup, statement⟩

theorem asks_unlinkZeros (debug : Bool)
    (unmeasured : header? "Content-Length" (unlinkZeros headers).headers = none) :
    Asks debug (unlinkZeros headers) (List.replicate 32 0) := by
  have content : (unlinkZeros headers).content = .ok zerosBody :=
    Request.content_of_unmeasured unmeasured length_zerosBody
  have read : readDelete debug zerosBody = .ok ⟨zerosText, List.replicate 32 0⟩ :=
    readDelete_eq_ok_iff.mpr ⟨by decide +kernel, zerosText, namedAccount?_zerosBody,
      trimString_zerosText.symm, decode_zeros⟩
  exact ⟨_, _, content, read, rfl⟩

theorem deletes_unlinkZeros (brought : bearerToken? (unlinkZeros headers).headers = some "t")
    (unmeasured : header? "Content-Length" (unlinkZeros headers).headers = none) :
    Deletes Scene.calm Store.linkedOnce (unlinkZeros headers) ⟨1⟩ (List.replicate 32 0) := by
  have calm := @Scene.isCalmAt_of_fault_eq_none Scene.calm rfl
  exact {
    sends := sends_unlinkZeros (calm _) (calm _) brought
    asks := asks_unlinkZeros _ unmeasured
    start := calm _
    undisturbed := Keys.undisturbed_of_fault_eq_none rfl }

end Http

theorem tables_change_only_by_unlinking_zeros :
    Store.linkedOnce.Reachable ∧
      Http.Unlinks Scene.calm Store.linkedOnce (Http.unlinkZeros []) ⟨1⟩ (List.replicate 32 0) ∧
      (Session.run Scene.calm ⟨Store.linkedOnce, []⟩ (Http.handle (Http.unlinkZeros []))).2.store =
        { Store.linkedOnce with keys := ⟨[], 2⟩ } := by
  have unlinks : Http.Unlinks Scene.calm Store.linkedOnce (Http.unlinkZeros []) ⟨1⟩
      (List.replicate 32 0) :=
    ⟨Http.deletes_unlinkZeros (Http.bearerToken?_unlinkZeros rfl) (by simp),
      Http.Request.namesHost_of_header? (by simp), rfl, rfl⟩
  obtain ⟨_, unlinked, _⟩ := @tables_change_only_by_unlinking ⟨Store.linkedOnce, []⟩
    Store.reachable_linkedOnce Scene.calm
  exact ⟨Store.reachable_linkedOnce, unlinks, (unlinked _ _ _ unlinks).1⟩

/-- The row may stay although the request brings a token of the user and names the address, and the
storage does not fail: the request may be for what is no host, and the record may fail. -/
theorem linked_row_may_stay :
    Store.linkedOnce.Reachable ∧
      (Http.Deletes Scene.calm Store.linkedOnce (Http.unlinkZeros [("Host", "a b")]) ⟨1⟩
          (List.replicate 32 0) ∧
        ⟨1, 1, List.replicate 32 0⟩ ∈ (Session.run Scene.calm ⟨Store.linkedOnce, []⟩
          (Http.handle (Http.unlinkZeros [("Host", "a b")]))).2.store.keys.rows) ∧
      Http.Sends Scene.unrecorded Store.linkedOnce (Http.unlinkZeros []) ⟨1⟩ ∧
      Http.Asks false (Http.unlinkZeros []) (List.replicate 32 0) ∧
      ⟨1, 1, List.replicate 32 0⟩ ∈ (Session.run Scene.unrecorded ⟨Store.linkedOnce, []⟩
        (Http.handle (Http.unlinkZeros []))).2.store.keys.rows := by
  have calmBefore : ∀ point ≠ .keyDeleteLog, Scene.unrecorded.IsCalmAt point := by
    intro point different fault planned same
    cases planned
    exact different same.symm
  refine ⟨Store.reachable_linkedOnce, ⟨?_, ?_⟩, ?_, ?_, ?_⟩
  · exact Http.deletes_unlinkZeros (Http.bearerToken?_unlinkZeros (by simp)) (by simp)
  · rw [Http.store_run_handle_of_not_unlinks]
    · exact List.mem_singleton.mpr rfl
    · intro user address unlinks
      cases unlinks.host.symm.trans (Http.Request.not_namesHost_of_header? (by simp))
  · exact Http.sends_unlinkZeros (calmBefore _ (by decide)) (calmBefore _ (by decide))
      (Http.bearerToken?_unlinkZeros rfl)
  · exact Http.asks_unlinkZeros _ (by simp)
  · rw [Http.store_run_handle_of_not_unlinks]
    · exact List.mem_singleton.mpr rfl
    · intro user address unlinks
      exact unlinks.undisturbed.record _ rfl rfl

end OneLink
end AddressBook
