import AddressBook.Proofs.Address.Grammar

namespace AddressBook.Address

/-- The tag in the data of an address. -/
def carriedTag? (text : String) : Option Bytes := do
  let data ← Base58.decode? (Text.trimEnd text.toList)
  let first ← data.head?
  let length ← (tagLength first.toNat).toOption
  return data.take length

def carriedFormat? (text : String) : Option Nat := (carriedTag? text).bind tagFormat?

theorem Spells.carriedTag? {text : String} {t account : Bytes} {format : Nat}
    (spells : Spells (Text.trimEnd text.toList) t account format) : carriedTag? text = some t := by
  have data := spells.decode?
  obtain ⟨first, rest, rfl, length⟩ := spells.isTag.exists_first
  have front : (withChecksum (first :: rest ++ account)).take (first :: rest).length =
      first :: rest := by
    rw [withChecksum, List.append_assoc, List.take_left]
  unfold Address.carriedTag?
  rw [data, Option.bind_eq_bind, Option.bind_some]
  rw [withChecksum, List.cons_append, List.cons_append] at front ⊢
  rw [List.head?_cons, Option.bind_eq_bind, Option.bind_some, length]
  exact congrArg some front

theorem Spells.carriedFormat? {text : String} {t account : Bytes} {format : Nat}
    (spells : Spells (Text.trimEnd text.toList) t account format) :
    carriedFormat? text = some format := by
  rw [Address.carriedFormat?, spells.carriedTag?, Option.bind_some, spells.carried]

theorem not_isBlank_of_mem_alphabet {c : Char} (h : c ∈ Base58.alphabet) :
    Text.isBlank c = false := by
  have all : Base58.alphabet.all (fun c => !Text.isBlank c) = true := by decide
  exact (Bool.not_eq_true' _).mp (List.all_eq_true.mp all c h)

theorem mem_alphabet_of_mem_encode {bytes : Bytes} {c : Char} (h : c ∈ Base58.encode bytes) :
    c ∈ Base58.alphabet := by
  have known (d : Nat) (small : d < 58) : Base58.digitChar d ∈ Base58.alphabet := by
    rw [Base58.digitChar, List.getD_eq_getElem?_getD, List.getElem?_eq_getElem small]
    exact List.getElem_mem small
  obtain ⟨count, ds, numeral, text⟩ := Base58.exists_numeral_of_decode? (Base58.decode?_encode bytes)
  rw [text] at h
  rcases List.mem_append.mp h with mark | digit
  · rw [List.eq_of_mem_replicate mark]
    decide
  · obtain ⟨d, member, rfl⟩ := List.mem_map.mp digit
    exact known d (numeral.small d member)

theorem trimEnd_encode (bytes : Bytes) : Text.trimEnd (Base58.encode bytes) = Base58.encode bytes :=
  Text.trimEnd_eq_self fun _ member => not_isBlank_of_mem_alphabet (mem_alphabet_of_mem_encode member)

/-- Exactly the accounts of full length have an address, in exactly the supported formats. -/
theorem encode_eq_ok_iff {account : Bytes} {format : Int} {text : String} :
    encode account format = .ok text ↔
      account.length = accountLength ∧ Supports format ∧
        text = String.ofList (Base58.encode (withChecksum (tagOf format.toNat ++ account))) := by
  unfold encode
  constructor
  · intro h
    split at h
    next => cases h
    next whole =>
      cases tagged : tag format with
      | error e => simp [tagged] at h
      | ok t =>
        have supported := supports_of_tag tagged
        cases Except.ok.inj (tagged.symm.trans (tag_of_supports supported))
        simp only [tagged, Except.ok.injEq] at h
        exact ⟨not_not.mp whole, supported, h.symm⟩
  · rintro ⟨whole, supported, rfl⟩
    rw [if_neg (not_not_intro whole), tag_of_supports supported]
    rfl

/-- A written address spells its account behind the tag of its format. -/
theorem spells_of_encode {account : Bytes} {format : Int} {text : String}
    (h : encode account format = .ok text) :
    Spells text.toList (tagOf format.toNat) account format.toNat := by
  obtain ⟨whole, supported, rfl⟩ := encode_eq_ok_iff.mp h
  have nonnegative := Int.toNat_of_nonneg supported.1
  obtain ⟨bounded, unreserved⟩ := supports_ofNat_iff.mp (nonnegative ▸ supported)
  exact ⟨⟨isTag_tagOf bounded, tagFormat?_tagOf bounded, unreserved, whole⟩, String.toList_ofList⟩

/-- Blank characters behind a written address do not matter. -/
theorem spells_of_encode_of_blank {account : Bytes} {format : Int} {text blanks : String}
    (h : encode account format = .ok text) (blank : ∀ c ∈ blanks.toList, Text.isBlank c = true) :
    Spells (Text.trimEnd (text ++ blanks).toList) (tagOf format.toNat) account format.toNat := by
  have spells := spells_of_encode h
  rw [String.toList_append, Text.trimEnd_append_of_blank _ blank, spells.spelled, trimEnd_encode]
  exact ⟨spells.toParts, rfl⟩

theorem mem_alphabet_or_isBlank_of_decode {text : String} {account : Bytes}
    (decoded : decode text = .ok account) :
    text.toList ≠ [] ∧ ∀ c ∈ text.toList, c ∈ Base58.alphabet ∨ Text.isBlank c = true := by
  obtain ⟨t, format, spells⟩ := decode_eq_ok_iff.mp decoded
  obtain ⟨blanks, blank, whole⟩ := Text.exists_trimEnd_append text.toList
  rw [whole]
  refine ⟨fun empty => spells.ne_nil (List.append_eq_nil_iff.mp empty).1, fun c member => ?_⟩
  rcases List.mem_append.mp member with inAddress | inBlanks
  · rw [spells.spelled] at inAddress
    exact .inl (mem_alphabet_of_mem_encode inAddress)
  · exact .inr (blank c inBlanks)

/-- Addresses of different accounts or formats are different. -/
theorem encode_injective {account other : Bytes} {format format' : Int} {text : String}
    (h : encode account format = .ok text) (h' : encode other format' = .ok text) :
    other = account ∧ format' = format := by
  have blank : ∀ c ∈ ("" : String).toList, Text.isBlank c = true := by simp
  have spells := spells_of_encode_of_blank h blank
  have spells' := spells_of_encode_of_blank h' blank
  have accounts := (decode_eq_ok_iff.mpr ⟨_, _, spells'⟩).symm.trans
    (decode_eq_ok_iff.mpr ⟨_, _, spells⟩)
  have formats := spells'.carriedFormat?.symm.trans spells.carriedFormat?
  obtain ⟨_, supported, _⟩ := encode_eq_ok_iff.mp h
  obtain ⟨_, supported', _⟩ := encode_eq_ok_iff.mp h'
  refine ⟨Except.ok.inj accounts, ?_⟩
  rw [← Int.toNat_of_nonneg supported.1, ← Int.toNat_of_nonneg supported'.1, Option.some.inj formats]

/-- Every account of full length has an address in every supported format, which reads as the
account also with blank characters behind it, carries the format, and is the address of nothing
else. -/
theorem encode_decode_round_trip {account : Bytes} {format : Int} {blanks : String}
    (whole : account.length = accountLength) (supported : Supports format)
    (blank : ∀ c ∈ blanks.toList, Text.isBlank c = true) :
    ∃ text, encode account format = .ok text ∧
      decode (text ++ blanks) = .ok account ∧
      carriedTag? (text ++ blanks) = some (tagOf format.toNat) ∧
      tagFormat? (tagOf format.toNat) = some format.toNat ∧
      ∀ other format', encode other format' = .ok text → other = account ∧ format' = format := by
  have written := encode_eq_ok_iff.mpr ⟨whole, supported, rfl⟩
  have spells := spells_of_encode_of_blank written blank
  refine ⟨_, written, decode_eq_ok_iff.mpr ⟨_, _, spells⟩, spells.carriedTag?, spells.carried, ?_⟩
  intro other format' shared
  exact encode_injective written shared

theorem encode_decode_round_trip_zeros :
    (List.replicate 32 (0 : UInt8)).length = accountLength ∧ Supports 0 ∧
      (∀ c ∈ " \n".toList, Text.isBlank c = true) ∧
      ∃ text, encode (List.replicate 32 0) 0 = .ok text ∧
        decode (text ++ " \n") = .ok (List.replicate 32 0) ∧
        carriedTag? (text ++ " \n") = some [0] := by
  have whole : (List.replicate 32 (0 : UInt8)).length = accountLength := by decide
  have supported : Supports 0 := by decide
  have blank : ∀ c ∈ " \n".toList, Text.isBlank c = true := List.all_eq_true.mp (by decide)
  obtain ⟨text, written, back, tag, _⟩ := encode_decode_round_trip whole supported blank
  exact ⟨whole, supported, blank, text, written, back, tag⟩

end AddressBook.Address
