import AddressBook.Proofs.Address.RoundTrip

namespace AddressBook.Address

/-- The texts of an account differ as their tags do. -/
theorem encode_withChecksum_inj {t t' account : Bytes} :
    Base58.encode (withChecksum (t ++ account)) = Base58.encode (withChecksum (t' ++ account)) ↔
      t = t' := by
  rw [Base58.encode_inj]
  constructor
  · intro data
    have behind : (account ++ checksum (t ++ account)).length =
        (account ++ checksum (t' ++ account)).length := by
      rw [List.length_append, List.length_append, length_checksum, length_checksum]
    rw [withChecksum, withChecksum, List.append_assoc, List.append_assoc] at data
    exact (List.append_inj' data behind).1
  · rintro rfl
    rfl

/-- A text that spells an account is written for its format if it has the tag of the format. -/
theorem Spells.encode_eq_iff {text : List Char} {t account : Bytes} {format : Nat}
    (spells : Spells text t account format) :
    encode account format = .ok (String.ofList text) ↔ tagOf format = t := by
  have bounded := spells.isTag.format_le spells.carried
  have supported := supports_ofNat_iff.mpr ⟨bounded, spells.unreserved⟩
  rw [encode_eq_ok_iff, String.ofList_inj, spells.spelled, encode_withChecksum_inj, Int.toNat_natCast]
  constructor
  · rintro ⟨_, _, same⟩
    exact same.symm
  · intro same
    exact ⟨spells.whole, supported, same.symm⟩

/-- An accepted text is the written one, but for blank characters at its end, unless its tag spells
a format below 64 with two bytes. Accepted texts of the same account and format are the same if
their tags have the same length. -/
theorem written_iff_tag_is_shortest {text : String} {account : Bytes}
    (accepted : decode text = .ok account) :
    ∃ t format, carriedTag? text = some t ∧ carriedFormat? text = some format ∧
      (encode account format = .ok (String.ofList (Text.trimEnd text.toList)) ↔
        ¬(t.length = 2 ∧ format < 64)) ∧
      (t.length = 1 ∧ format < 64 ∨ t.length = 2 ∧ format ≤ maxFormat) ∧
      ∀ other t', decode other = .ok account → carriedFormat? other = some format →
        carriedTag? other = some t' →
        (Text.trimEnd other.toList = Text.trimEnd text.toList ↔ t'.length = t.length) := by
  obtain ⟨t, format, spells⟩ := decode_eq_ok_iff.mp accepted
  refine ⟨t, format, spells.carriedTag?, spells.carriedFormat?, ?_, ?_, ?_⟩
  · rw [spells.encode_eq_iff, spells.isTag.tagOf_eq_iff spells.carried]
  · rcases spells.isTag.length_eq with one | two
    · exact Or.inl ⟨one, spells.isTag.format_lt spells.carried one⟩
    · exact Or.inr ⟨two, spells.isTag.format_le spells.carried⟩
  · intro other t' accepted' format' tag'
    obtain ⟨_, _, spells'⟩ := decode_eq_ok_iff.mp accepted'
    cases Option.some.inj (spells'.carriedTag?.symm.trans tag')
    cases Option.some.inj (spells'.carriedFormat?.symm.trans format')
    rw [spells'.spelled, spells.spelled, encode_withChecksum_inj]
    constructor
    · rintro rfl
      rfl
    · exact spells'.isTag.eq_of_length_eq spells.isTag spells'.carried spells.carried

theorem written_iff_tag_is_shortest_zeros :
    decode "5C4hrfjw9DjXZTzV3MwzrrAr9P1MJhSrvWGWqi1eSuyUpnhM\n" = .ok (List.replicate 32 0) ∧
      encode (List.replicate 32 0) 42 =
        .ok "5C4hrfjw9DjXZTzV3MwzrrAr9P1MJhSrvWGWqi1eSuyUpnhM" := by
  have trimmed : Text.trimEnd "5C4hrfjw9DjXZTzV3MwzrrAr9P1MJhSrvWGWqi1eSuyUpnhM\n".toList =
      "5C4hrfjw9DjXZTzV3MwzrrAr9P1MJhSrvWGWqi1eSuyUpnhM".toList := by decide +kernel
  have accepted := decode_eq_ok_iff.mpr ⟨_, _, trimmed ▸ spells_zeros⟩
  obtain ⟨t, format, tag, carried, written, _⟩ := written_iff_tag_is_shortest accepted
  have spells := trimmed ▸ spells_zeros
  cases Option.some.inj (spells.carriedTag?.symm.trans tag)
  cases Option.some.inj (spells.carriedFormat?.symm.trans carried)
  rw [trimmed, String.ofList_toList] at written
  exact ⟨accepted, written.mpr (by decide)⟩

theorem spells_zeros_with_two_bytes :
    Spells "VBo4N1TrfonTPvj9QVzL9hEH9vuviDhQmXZYAyVv16dA1zjSN".toList [64, 0]
      (List.replicate 32 0) 0 := by
  have parts : Parts [64, 0] (List.replicate 32 0) 0 := ⟨.two (by decide) (by decide), rfl, rfl, rfl⟩
  have check : checksum ([64, 0] ++ List.replicate 32 0) = [90, 175] := by
    rw [checksum_of_length_le (by decide +kernel)]
    decide +kernel
  exact spells_of_value parts check (by decide +kernel) (by decide +kernel) (by decide)
    (by decide +kernel)

/-- Two bytes that spell the format 0 are accepted, and never written. -/
theorem decode_two_bytes_not_written :
    decode "VBo4N1TrfonTPvj9QVzL9hEH9vuviDhQmXZYAyVv16dA1zjSN" = .ok (List.replicate 32 0) ∧
      carriedFormat? "VBo4N1TrfonTPvj9QVzL9hEH9vuviDhQmXZYAyVv16dA1zjSN" = some 0 ∧
      encode (List.replicate 32 0) 0 ≠
        .ok "VBo4N1TrfonTPvj9QVzL9hEH9vuviDhQmXZYAyVv16dA1zjSN" := by
  have trimmed : Text.trimEnd "VBo4N1TrfonTPvj9QVzL9hEH9vuviDhQmXZYAyVv16dA1zjSN".toList =
      "VBo4N1TrfonTPvj9QVzL9hEH9vuviDhQmXZYAyVv16dA1zjSN".toList := by decide +kernel
  have spells := trimmed ▸ spells_zeros_with_two_bytes
  refine ⟨decode_eq_ok_iff.mpr ⟨_, _, spells⟩, spells.carriedFormat?, ?_⟩
  intro written
  have same := spells_zeros_with_two_bytes.encode_eq_iff.mp written
  exact absurd same (by decide)

end AddressBook.Address
