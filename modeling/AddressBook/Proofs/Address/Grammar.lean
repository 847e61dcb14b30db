import AddressBook.Address.Input
import AddressBook.Proofs.Address.Tag
import AddressBook.Proofs.Base58
import AddressBook.Proofs.Trim
import Mathlib.Logic.Basic

namespace AddressBook.Address

/-- Bytes with their checksum behind them. -/
def withChecksum (payload : Bytes) : Bytes := payload ++ checksum payload

/-- The tag of a format that is not reserved, and an account to stand behind it. -/
structure Parts (t account : Bytes) (format : Nat) : Prop where
  isTag : IsTag t
  carried : tagFormat? t = some format
  unreserved : isReserved format = false
  whole : account.length = accountLength

/-- Whether a text spells an account behind a tag. -/
structure Spells (text : List Char) (t account : Bytes) (format : Nat) : Prop
    extends Parts t account format where
  spelled : text = Base58.encode (withChecksum (t ++ account))

/-- What is checked of data that start with a tag. -/
theorem IsTag.accountOf_append {t : Bytes} (isTag : IsTag t) (rest : Bytes) :
    accountOf (t ++ rest) =
      if rest.length ≠ accountLength + checksumLength then .error .wrongLength
      else if checksum (t ++ rest.take accountLength) ≠ rest.drop accountLength then
        .error .wrongChecksum
      else if (tagFormat? t).any isReserved then .error .reservedFormat
      else .ok (rest.take accountLength) := by
  obtain ⟨first, others, rfl, length⟩ := isTag.exists_first
  have total : (first :: others ++ rest).length ≠
      (first :: others).length + accountLength + checksumLength ↔
      rest.length ≠ accountLength + checksumLength := by
    rw [List.length_append]
    omega
  have payload : (first :: others ++ rest).take ((first :: others).length + accountLength) =
      first :: others ++ rest.take accountLength := List.take_length_add_append _
  have check : (first :: others ++ rest).drop ((first :: others).length + accountLength) =
      rest.drop accountLength := List.drop_length_add_append _
  unfold accountOf
  rw [List.cons_append] at total payload check ⊢
  simp only [length, total, payload, check, List.take_left, List.drop_left]

theorem Parts.accountOf {t account : Bytes} {format : Nat} (parts : Parts t account format) :
    accountOf (withChecksum (t ++ account)) = .ok account := by
  have taken : (account ++ checksum (t ++ account)).take accountLength = account :=
    List.take_left' parts.whole
  have dropped : (account ++ checksum (t ++ account)).drop accountLength =
      checksum (t ++ account) := List.drop_left' parts.whole
  rw [withChecksum, List.append_assoc, parts.isTag.accountOf_append, taken, dropped, if_neg,
    if_neg (not_not_intro rfl), parts.carried, Option.any_some, parts.unreserved, if_neg (by decide)]
  rw [List.length_append, parts.whole, length_checksum, checksumLength]
  exact not_not_intro rfl

/-- Accepted data start with a tag. -/
theorem exists_tag_of_accountOf {data account : Bytes} (h : accountOf data = .ok account) :
    ∃ t rest, IsTag t ∧ data = t ++ rest := by
  unfold accountOf at h
  cases data with
  | nil => cases h
  | cons first rest =>
    cases length : tagLength first.toNat with
    | error e => simp [length] at h
    | ok n =>
      have enough : n ≤ rest.length + 1 := by
        by_contra short
        rw [List.length_cons] at h
        simp only [length] at h
        rw [if_pos (by omega)] at h
        cases h
      exact ⟨_, _, (isTag_take length enough).1, (List.take_append_drop n _).symm⟩

theorem exists_parts_of_accountOf {data account : Bytes} (h : accountOf data = .ok account) :
    ∃ t format, Parts t account format ∧ data = withChecksum (t ++ account) := by
  obtain ⟨t, rest, isTag, rfl⟩ := exists_tag_of_accountOf h
  obtain ⟨format, carried⟩ := isTag.exists_format
  rw [isTag.accountOf_append] at h
  by_cases total : rest.length ≠ accountLength + checksumLength
  · rw [if_pos total] at h
    cases h
  rw [if_neg total] at h
  by_cases check : checksum (t ++ rest.take accountLength) ≠ rest.drop accountLength
  · rw [if_pos check] at h
    cases h
  rw [if_neg check] at h
  by_cases reserved : (tagFormat? t).any isReserved
  · rw [if_pos reserved] at h
    cases h
  rw [if_neg reserved] at h
  cases h
  refine ⟨t, format, ⟨isTag, carried, ?_, ?_⟩, ?_⟩
  · rw [carried, Option.any_some] at reserved
    exact Bool.eq_false_iff.mpr reserved
  · rw [List.length_take]
    omega
  · rw [withChecksum, not_not.mp check, List.append_assoc, List.take_append_drop]

/-- The data of an address are a tag, an account and the checksum of both. -/
theorem accountOf_eq_ok_iff {data account : Bytes} :
    accountOf data = .ok account ↔
      ∃ t format, Parts t account format ∧ data = withChecksum (t ++ account) := by
  constructor
  · exact exists_parts_of_accountOf
  · rintro ⟨t, format, parts, rfl⟩
    exact parts.accountOf

theorem Spells.decode? {text : List Char} {t account : Bytes} {format : Nat}
    (spells : Spells text t account format) :
    Base58.decode? text = some (withChecksum (t ++ account)) :=
  Base58.decode?_eq_some_iff.mpr spells.spelled

theorem Spells.ne_nil {text : List Char} {t account : Bytes} {format : Nat}
    (spells : Spells text t account format) : text ≠ [] := by
  rintro rfl
  obtain ⟨first, rest, rfl, _⟩ := spells.isTag.exists_first
  exact absurd spells.decode? (by simp [Base58.decode?, Radix.value, withChecksum])

/-- Reading accepts what is spelled, but for blank characters at the end. -/
theorem decode_eq_ok_iff {text : String} {account : Bytes} :
    decode text = .ok account ↔
      ∃ t format, Spells (Text.trimEnd text.toList) t account format := by
  unfold decode
  constructor
  · intro h
    split at h
    next => cases h
    next =>
      split at h
      next => cases h
      next data spelled =>
        obtain ⟨t, format, parts, rfl⟩ := accountOf_eq_ok_iff.mp h
        exact ⟨t, format, parts, Base58.decode?_eq_some_iff.mp spelled⟩
  · rintro ⟨t, format, spells⟩
    have nonempty : ¬text.isEmpty := by
      intro empty
      rw [String.isEmpty_iff.mp empty] at spells
      exact spells.ne_nil rfl
    rw [if_neg nonempty]
    simp only [spells.decode?, spells.toParts.accountOf]

/-- Why a text is refused. -/
def readingErrors : List AddressError :=
  [.notText, .notBase58, .empty, .unknownTag, .wrongLength, .wrongChecksum, .reservedFormat]

theorem mem_readingErrors_of_tagLength {first : Int} {e : AddressError}
    (h : tagLength first = .error e) : e ∈ readingErrors := by
  unfold tagLength at h
  split at h
  · cases h
  · split at h
    · cases h
    · cases h
      decide

theorem mem_readingErrors_of_accountOf {data : Bytes} {e : AddressError}
    (h : accountOf data = .error e) : e ∈ readingErrors := by
  unfold accountOf at h
  cases data with
  | nil =>
    cases h
    decide
  | cons first rest =>
    cases length : tagLength first.toNat with
    | error cause =>
      simp only [length] at h
      cases h
      exact mem_readingErrors_of_tagLength length
    | ok n =>
      simp only [length] at h
      split at h
      next =>
        cases h
        decide
      next =>
        split at h
        next =>
          cases h
          decide
        next =>
          split at h
          next =>
            cases h
            decide
          next => cases h

theorem mem_readingErrors_of_decode {text : String} {e : AddressError}
    (h : decode text = .error e) : e ∈ readingErrors := by
  unfold decode at h
  split at h
  · cases h
    decide
  · split at h
    · cases h
      decide
    · exact mem_readingErrors_of_accountOf h

/-- Reading accepts exactly the spelled accounts, and refuses everything else as no address. -/
theorem read_accepts_spelled_and_refuses_rest (text : String) :
    (∀ account, read (.string text) = .ok account ↔
      ∃ t format, Spells (Text.trimEnd text.toList) t account format) ∧
    ((∃ e ∈ readingErrors, read (.string text) = .error (.fault .invalidAddress e.message)) ↔
      ¬∃ t account format, Spells (Text.trimEnd text.toList) t account format) := by
  have reading : read (.string text) = (decode text).mapError Failure.ofAddressError := rfl
  have accepted (account : Bytes) : read (.string text) = .ok account ↔ decode text = .ok account := by
    rw [reading]
    cases decode text with
    | error e => exact ⟨nofun, nofun⟩
    | ok bytes =>
      constructor
      · rintro ⟨⟩
        rfl
      · rintro ⟨⟩
        rfl
  refine ⟨fun account => (accepted account).trans decode_eq_ok_iff, ?_⟩
  constructor
  · rintro ⟨e, _, refused⟩ ⟨t, account, format, spells⟩
    have read := (accepted account).mpr (decode_eq_ok_iff.mpr ⟨t, format, spells⟩)
    cases read.symm.trans refused
  · intro unspelled
    cases h : decode text with
    | ok account =>
      obtain ⟨t, format, spells⟩ := decode_eq_ok_iff.mp h
      exact absurd ⟨t, account, format, spells⟩ unspelled
    | error e =>
      refine ⟨e, mem_readingErrors_of_decode h, ?_⟩
      rw [reading, h]
      rfl

theorem checksum_of_length_le {payload : Bytes} (short : (checksumSalt ++ payload).length ≤ 128) :
    checksum payload =
      ((Blake2b.compress (Blake2b.initial.set 0 (Blake2b.initial[0] ^^^ 0x01010040))
        (Blake2b.blockWords (checksumSalt ++ payload)) (0 + (checksumSalt ++ payload).length)
        true).toList.flatMap fun word => Bytes.ofLittleEndian 8 word.toNat).take checksumLength := by
  rw [checksum, Blake2b.digest, Blake2b.absorb_of_length_le _ _ short]

/-- A text spells an account if it is the number of the account behind its tag. -/
theorem spells_of_value {text : List Char} {t account sum : Bytes} {format : Nat}
    (parts : Parts t account format) (check : checksum (t ++ account) = sum)
    (known : text.all (· ∈ Base58.alphabet)) (lead : text.head? ≠ some '1')
    (lead' : (t ++ account ++ sum).head? ≠ some 0)
    (same : Radix.value 58 (text.map (Base58.alphabet.idxOf ·)) =
      Bytes.bigEndian (t ++ account ++ sum)) : Spells text t account format := by
  have letters : ∀ c ∈ text, c ∈ Base58.alphabet := by simpa using known
  refine ⟨parts, ?_⟩
  rw [withChecksum, check]
  exact Base58.eq_encode_of_value letters lead lead' same

theorem spells_zeros : Spells "5C4hrfjw9DjXZTzV3MwzrrAr9P1MJhSrvWGWqi1eSuyUpnhM".toList [42]
    (List.replicate 32 0) 42 := by
  have parts : Parts [42] (List.replicate 32 0) 42 := ⟨.one (by decide), rfl, rfl, rfl⟩
  have check : checksum ([42] ++ List.replicate 32 0) = [166, 0] := by
    rw [checksum_of_length_le (by decide +kernel)]
    decide +kernel
  exact spells_of_value parts check (by decide +kernel) (by decide +kernel) (by decide)
    (by decide +kernel)

end AddressBook.Address
