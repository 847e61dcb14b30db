import AddressBook.Http.Handlers
import AddressBook.Proofs.Address.RoundTrip

namespace AddressBook

/-- A text without blank characters in front. -/
def Text.trimStartString (text : String) : String := String.ofList (text.toList.dropWhile isBlank)

theorem Text.trimString_idempotent (text : String) :
    trimString (trimString text) = trimString text := by
  rw [trimString, trimString, String.toList_ofList, trim_idempotent]

namespace Address

/-- Whether the blank characters at the end are gone does not matter for what is read, nor for why
nothing is. -/
theorem decode_trimString (text : String) :
    decode (Text.trimString text) = decode (Text.trimStartString text) := by
  have empty : (Text.trimString text).isEmpty = (Text.trimStartString text).isEmpty := by
    rw [Bool.eq_iff_iff, String.isEmpty_iff, String.isEmpty_iff, ← String.toList_eq_nil_iff,
      ← String.toList_eq_nil_iff, Text.trimString, Text.trimStartString, String.toList_ofList,
      String.toList_ofList]
    exact Text.trimEnd_dropWhile_eq_nil_iff text.toList
  have same : Text.trimEnd (Text.trimString text).toList =
      Text.trimEnd (Text.trimStartString text).toList := by
    rw [Text.trimString, Text.trimStartString, String.toList_ofList, String.toList_ofList,
      Text.trim, Text.trimEnd_idempotent]
  rw [decode, decode, empty, same]

/-- There is nothing blank in front of what is read as an address. -/
theorem trimStartString_of_decode {text : String} {account : Bytes}
    (decoded : decode text = .ok account) : Text.trimStartString text = text := by
  obtain ⟨t, format, spells⟩ := decode_eq_ok_iff.mp decoded
  obtain ⟨blanks, _, whole⟩ := Text.exists_trimEnd_append text.toList
  cases written : Text.trimEnd text.toList with
  | nil => exact absurd written spells.ne_nil
  | cons first rest =>
    rw [written] at whole spells
    have solid : Text.isBlank first = false :=
      not_isBlank_of_mem_alphabet (mem_alphabet_of_mem_encode (spells.spelled ▸ List.mem_cons_self))
    rw [Text.trimStartString, whole, List.cons_append, List.dropWhile_cons_of_neg (by simp [solid]),
      ← List.cons_append, ← whole, String.ofList_toList]

theorem length_of_decode {text : String} {account : Bytes} (decoded : decode text = .ok account) :
    account.length = 32 := by
  obtain ⟨t, format, spells⟩ := decode_eq_ok_iff.mp decoded
  exact spells.whole

end Address

theorem Http.parseAccount_eq_ok_iff {text : String} {account : Bytes} :
    parseAccount text = .ok account ↔ Address.decode text = .ok account := by
  unfold parseAccount
  cases Address.decode text with
  | ok other => exact Iff.of_eq (by rw [Except.ok.injEq, Except.ok.injEq])
  | error e => exact ⟨nofun, nofun⟩

namespace Keys

section
variable {value : Json} {text : String} (given : value.field? "account" = some (.string text))
include given

/-- What is read of a request whose account is a text. -/
theorem readDeletePayload_eq : readDeletePayload value =
    match Address.decode (Text.trimString text) with
    | .ok address => .ok ⟨Text.trimString text, address⟩
    | .error e => .error ⟨["account"], refusal e⟩ := by
  rw [readDeletePayload, Schema.field, given]
  simp only [Schema.text]
  cases Address.decode (Text.trimString text) <;> rfl

/-- Exactly a trimmed address is accepted, and it names the account that is accepted. -/
theorem readDeletePayload_eq_ok_iff {payload : DeletePayload} :
    readDeletePayload value = .ok payload ↔
      payload.account = Text.trimString text ∧
        Address.decode payload.account = .ok payload.address := by
  rw [readDeletePayload_eq given]
  cases decoded : Address.decode (Text.trimString text) with
  | ok address =>
    constructor
    · intro accepted
      cases accepted
      exact ⟨rfl, decoded⟩
    · rintro ⟨trimmed, same⟩
      rw [trimmed, decoded] at same
      cases same
      exact congrArg (fun account => Except.ok (DeletePayload.mk account _)) trimmed.symm
  | error e =>
    refine iff_of_false nofun ?_
    rintro ⟨trimmed, same⟩
    rw [trimmed, decoded] at same
    cases same

theorem readDeletePayload_eq_error_iff {error : FieldError} :
    readDeletePayload value = .error error ↔
      ∃ e, Address.decode (Text.trimString text) = .error e ∧ error = ⟨["account"], refusal e⟩ := by
  rw [readDeletePayload_eq given]
  cases Address.decode (Text.trimString text) with
  | ok address =>
    refine iff_of_false nofun ?_
    rintro ⟨e, refused, _⟩
    cases refused
  | error e =>
    constructor
    · intro refused
      cases refused
      exact ⟨e, rfl, rfl⟩
    · rintro ⟨_, same, rfl⟩
      cases same
      rfl

end

/-- A text is accepted as the account of a body if and only if it is one of a path but for blank
characters in front. The account is then the trimmed text, which is read as the same 32 bytes once
more, and a body with it is read as the same. Whatever is accepted in a path is accepted in a body,
with the same bytes. A text that is refused gives one field error, which tells why the trimmed text is
no address. -/
theorem body_is_read_like_path {value : Json} {text : String}
    (given : value.field? "account" = some (.string text)) :
    (∀ payload, readDeletePayload value = .ok payload ↔
      Http.parseAccount (Text.trimStartString text) = .ok payload.address ∧
        payload.account = Text.trimString text) ∧
    (∀ payload, readDeletePayload value = .ok payload →
      Address.decode payload.account = .ok payload.address ∧ payload.address.length = 32 ∧
      ∀ again, again.field? "account" = some (.string payload.account) →
        readDeletePayload again = .ok payload) ∧
    (∀ account, Http.parseAccount text = .ok account →
      readDeletePayload value = .ok ⟨Text.trimString text, account⟩) ∧
    ∀ error, readDeletePayload value = .error error ↔
      ∃ e, Address.decode (Text.trimString text) = .error e ∧
        error = ⟨["account"], .refused ("account: " ++ e.message)⟩ := by
  have accepts (payload : DeletePayload) : readDeletePayload value = .ok payload ↔
      Http.parseAccount (Text.trimStartString text) = .ok payload.address ∧
        payload.account = Text.trimString text := by
    rw [readDeletePayload_eq_ok_iff given, Http.parseAccount_eq_ok_iff, ← Address.decode_trimString]
    constructor
    · rintro ⟨trimmed, decoded⟩
      exact ⟨trimmed ▸ decoded, trimmed⟩
    · rintro ⟨decoded, trimmed⟩
      exact ⟨trimmed, trimmed ▸ decoded⟩
  refine ⟨accepts, fun payload accepted => ?_, fun account parsed => ?_, fun error =>
    readDeletePayload_eq_error_iff given⟩
  · obtain ⟨trimmed, decoded⟩ := (readDeletePayload_eq_ok_iff given).mp accepted
    refine ⟨decoded, Address.length_of_decode decoded, fun again givenAgain => ?_⟩
    refine (readDeletePayload_eq_ok_iff givenAgain).mpr ⟨?_, decoded⟩
    rw [trimmed, Text.trimString_idempotent]
  · refine (accepts _).mpr ⟨?_, rfl⟩
    have decoded := Http.parseAccount_eq_ok_iff.mp parsed
    rwa [Address.trimStartString_of_decode decoded]

/-- An address between blank characters that are not all ASCII, and a text of nothing else. -/
theorem body_is_read_like_path_zeros :
    readDeletePayload (.object [("account",
        .string "\u2003\n5C4hrfjw9DjXZTzV3MwzrrAr9P1MJhSrvWGWqi1eSuyUpnhM \u00a0")]) =
      .ok ⟨"5C4hrfjw9DjXZTzV3MwzrrAr9P1MJhSrvWGWqi1eSuyUpnhM", List.replicate 32 0⟩ ∧
    readDeletePayload (.object [("account", .string "\u2003\n")]) =
      .error ⟨["account"], .refused "account: Address must be a non-empty string"⟩ := by
  have trimmed : Text.trimEnd (Text.trimStartString
      "\u2003\n5C4hrfjw9DjXZTzV3MwzrrAr9P1MJhSrvWGWqi1eSuyUpnhM \u00a0").toList =
        "5C4hrfjw9DjXZTzV3MwzrrAr9P1MJhSrvWGWqi1eSuyUpnhM".toList := by decide +kernel
  have parsed := Http.parseAccount_eq_ok_iff.mpr (Address.decode_eq_ok_iff.mpr
    ⟨[42], 42, trimmed.symm ▸ Address.spells_zeros⟩)
  obtain ⟨accepts, _⟩ := @body_is_read_like_path (.object [("account",
    .string "\u2003\n5C4hrfjw9DjXZTzV3MwzrrAr9P1MJhSrvWGWqi1eSuyUpnhM \u00a0")]) _ rfl
  obtain ⟨_, _, _, refuses⟩ := @body_is_read_like_path
    (.object [("account", .string "\u2003\n")]) _ rfl
  refine ⟨(accepts _).mpr ⟨parsed, by decide +kernel⟩, (refuses _).mpr ⟨.notText, ?_, rfl⟩⟩
  decide +kernel

end Keys
end AddressBook
