import AddressBook.Proofs.Store.Sound
import AddressBook.Tokens

namespace AddressBook.Store

/-- Whether a row keeps the hash of a token for a user. -/
def Keeps (s : Store) (token : String) (user : User) : Prop :=
  user ∈ s.users.rows ∧ ∃ row ∈ s.tokens.rows, row.hash = Tokens.hash token ∧ row.user = user.id

namespace Sound
variable {s : Store}

/-- The row with a hash tells the user; there is one such row at most. -/
theorem userOfHash?_eq_some_iff (sound : Sound s) {hash : String} {user : User} :
    s.userOfHash? hash = some user ↔
      user ∈ s.users.rows ∧ ∃ row ∈ s.tokens.rows, row.hash = hash ∧ row.user = user.id := by
  unfold userOfHash?
  rw [Option.bind_eq_bind, Option.bind_eq_some_iff]
  constructor
  · rintro ⟨row, found, owner⟩
    obtain ⟨member, same⟩ := sound.tokenHash.find?_eq_some_iff.mp found
    obtain ⟨there, id⟩ := sound.users.unique.find?_eq_some_iff.mp owner
    exact ⟨there, row, member, same, id.symm⟩
  · rintro ⟨there, row, member, same, id⟩
    exact ⟨row, sound.tokenHash.find?_eq_some_iff.mpr ⟨member, same⟩,
      sound.users.unique.find?_eq_some_iff.mpr ⟨there, id.symm⟩⟩

theorem userOfHash?_hash_eq_some_iff (sound : Sound s) {token : String} {user : User} :
    s.userOfHash? (Tokens.hash token) = some user ↔ s.Keeps token user :=
  sound.userOfHash?_eq_some_iff

/-- A row that keeps a hash keeps it for a user who is there. -/
theorem exists_user_of_hash (sound : Sound s) {token : String} {row : Token}
    (member : row ∈ s.tokens.rows) (same : row.hash = Tokens.hash token) :
    ∃ user, s.Keeps token user ∧ user.id = row.user := by
  obtain ⟨user, there, id⟩ := sound.tokenUser row member
  exact ⟨user, ⟨there, row, member, same, id.symm⟩, id⟩

theorem eq_of_keeps (sound : Sound s) {token : String} {user other : User}
    (keeps : s.Keeps token user) (keeps' : s.Keeps token other) : user = other := by
  have known := sound.userOfHash?_hash_eq_some_iff.mpr keeps
  have known' := sound.userOfHash?_hash_eq_some_iff.mpr keeps'
  exact Option.some.inj (known.symm.trans known')

theorem length_hashes_le (sound : Sound s) (token : String) :
    (s.tokens.rows.filter fun row => row.hash == Tokens.hash token).length ≤ 1 :=
  sound.tokenHash.length_filter_le fun _ same => eq_of_beq same

end Sound
end AddressBook.Store
