import AddressBook.Base58
import AddressBook.Proofs.Numeral

namespace AddressBook

theorem Bytes.bigEndian_eq_value (bytes : Bytes) :
    Bytes.bigEndian bytes = Radix.value 256 (bytes.map UInt8.toNat) := by
  simp [Bytes.bigEndian, Radix.value, List.foldl_map]

theorem Bytes.map_ofNat_toNat (bytes : Bytes) :
    (bytes.map UInt8.toNat).map UInt8.ofNat = bytes := by
  rw [List.map_map]
  exact (List.map_congr_left fun _ _ => UInt8.ofNat_toNat).trans (List.map_id bytes)

theorem Bytes.isNumeral {bytes : Bytes} (lead : bytes.head? ≠ some 0) :
    Radix.IsNumeral 256 (bytes.map UInt8.toNat) := by
  refine ⟨?_, ?_⟩
  · intro d member
    obtain ⟨byte, _, rfl⟩ := List.mem_map.mp member
    exact byte.toNat_lt
  · intro zero
    obtain ⟨byte, first, value⟩ := Option.map_eq_some_iff.mp (List.head?_map ▸ zero)
    have same : byte = 0 := UInt8.toNat_inj.mp value
    exact lead (same ▸ first)

namespace Base58

theorem digitValue?_digitChar {d : Nat} (small : d < 58) : digitValue? (digitChar d) = some d := by
  have all : ∀ d ∈ List.range 58, digitValue? (digitChar d) = some d := by decide
  exact all d (List.mem_range.mpr small)

theorem digitChar_of_digitValue? {c : Char} {d : Nat} (h : digitValue? c = some d) :
    d < 58 ∧ digitChar d = c := by
  obtain ⟨small, found, _⟩ := List.idxOf?_eq_some_iff.mp h
  refine ⟨small, ?_⟩
  rw [digitChar, List.getD_eq_getElem?_getD, List.getElem?_eq_getElem small, found]
  rfl

theorem digitChar_eq_one_iff {d : Nat} (small : d < 58) : digitChar d = '1' ↔ d = 0 := by
  constructor
  · intro same
    have value := digitValue?_digitChar small
    rw [same] at value
    exact Option.some.inj (value.symm.trans (by decide))
  · rintro rfl
    rfl

theorem mapM_digitValue?_eq_some_iff {text : List Char} {ds : List Nat} :
    text.mapM digitValue? = some ds ↔ (∀ d ∈ ds, d < 58) ∧ text = ds.map digitChar := by
  induction text generalizing ds with
  | nil => cases ds <;> simp
  | cons c text ih =>
    rw [List.mapM_cons]
    constructor
    · intro h
      obtain ⟨d, first, h⟩ := Option.bind_eq_some_iff.mp h
      obtain ⟨rest, others, h⟩ := Option.bind_eq_some_iff.mp h
      cases Option.some.inj h
      obtain ⟨small, char⟩ := digitChar_of_digitValue? first
      obtain ⟨smalls, chars⟩ := ih.mp others
      refine ⟨?_, by rw [List.map_cons, char, ← chars]⟩
      exact List.forall_mem_cons.mpr ⟨small, smalls⟩
    · rintro ⟨smalls, chars⟩
      cases ds with
      | nil => simp at chars
      | cons d rest =>
        obtain ⟨small, smalls⟩ := List.forall_mem_cons.mp smalls
        obtain ⟨rfl, others⟩ := List.cons.inj chars
        rw [digitValue?_digitChar small, ih.mpr ⟨smalls, others⟩]
        rfl

theorem dropWhile_replicate_append [BEq α] [LawfulBEq α] (count : Nat) {mark : α} {rest : List α}
    (lead : rest.head? ≠ some mark) :
    (List.replicate count mark ++ rest).dropWhile (· == mark) = rest := by
  rw [List.dropWhile_append_of_pos (by simp)]
  cases rest with
  | nil => rfl
  | cons x rest =>
    have different : (x == mark) = false := by simpa using lead
    rw [List.dropWhile_cons_of_neg (by simp [different])]

/-- A list is what it starts with, so many times, and a rest that starts with something else. -/
theorem exists_replicate_append (mark : α) (xs : List α) :
    ∃ count rest, xs = List.replicate count mark ++ rest ∧ rest.head? ≠ some mark := by
  induction xs with
  | nil => exact ⟨0, [], rfl, by simp⟩
  | cons x xs ih =>
    by_cases same : x = mark
    · obtain ⟨count, rest, split, lead⟩ := ih
      exact ⟨count + 1, rest, by rw [same, split]; rfl, lead⟩
    · exact ⟨0, x :: xs, rfl, by simpa using same⟩

theorem encode_replicate_append (count : Nat) {significant : Bytes}
    (lead : significant.head? ≠ some 0) :
    encode (List.replicate count 0 ++ significant) =
      List.replicate count '1' ++
        (Radix.digits 58 (Bytes.bigEndian significant)).map digitChar := by
  unfold encode
  simp only [dropWhile_replicate_append count lead, List.length_append, List.length_replicate,
    Nat.add_sub_cancel]

theorem decode?_replicate_append (count : Nat) {ds : List Nat} (numeral : Radix.IsNumeral 58 ds) :
    decode? (List.replicate count '1' ++ ds.map digitChar) =
      some (List.replicate count 0 ++
        (Radix.digits 256 (Radix.value 58 ds)).map UInt8.ofNat) := by
  have lead : (ds.map digitChar).head? ≠ some '1' := by
    intro first
    obtain ⟨d, zero, mark⟩ := Option.map_eq_some_iff.mp (List.head?_map ▸ first)
    have small := numeral.small d (List.mem_of_head? zero)
    exact numeral.lead (zero.trans (congrArg some ((digitChar_eq_one_iff small).mp mark)))
  have read := mapM_digitValue?_eq_some_iff.mpr ⟨numeral.small, rfl⟩
  unfold decode?
  simp only [dropWhile_replicate_append count lead, read, List.length_append,
    List.length_replicate, Nat.add_sub_cancel]

theorem decode?_encode (bytes : Bytes) : decode? (encode bytes) = some bytes := by
  obtain ⟨count, significant, rfl, lead⟩ := exists_replicate_append 0 bytes
  rw [encode_replicate_append count lead,
    decode?_replicate_append count (Radix.isNumeral_digits (by decide) _),
    Radix.value_digits (by decide), Bytes.bigEndian_eq_value,
    (Bytes.isNumeral lead).digits_value (by decide), Bytes.map_ofNat_toNat]

/-- A text that can be read is marks and a numeral. -/
theorem exists_numeral_of_decode? {text : List Char} {bytes : Bytes}
    (h : decode? text = some bytes) :
    ∃ count ds, Radix.IsNumeral 58 ds ∧
      text = List.replicate count '1' ++ ds.map digitChar := by
  obtain ⟨count, significant, rfl, lead⟩ := exists_replicate_append '1' text
  unfold decode? at h
  simp only [dropWhile_replicate_append count lead] at h
  cases read : significant.mapM digitValue? with
  | none => simp [read] at h
  | some ds =>
    obtain ⟨small, rfl⟩ := mapM_digitValue?_eq_some_iff.mp read
    refine ⟨count, ds, ⟨small, ?_⟩, rfl⟩
    intro zero
    exact lead (by rw [List.head?_map, zero]; rfl)

theorem head?_map_ofNat_ne_zero {ds : List Nat} (numeral : Radix.IsNumeral 256 ds) :
    (ds.map UInt8.ofNat).head? ≠ some 0 := by
  intro first
  obtain ⟨d, head, zero⟩ := Option.map_eq_some_iff.mp (List.head?_map ▸ first)
  have small := numeral.small d (List.mem_of_head? head)
  have value : d = 0 := by
    have same := congrArg UInt8.toNat zero
    rwa [UInt8.toNat_ofNat_of_lt' small] at same
  exact numeral.lead (value ▸ head)

theorem map_toNat_map_ofNat {ds : List Nat} (numeral : Radix.IsNumeral 256 ds) :
    (ds.map UInt8.ofNat).map UInt8.toNat = ds := by
  rw [List.map_map]
  refine (List.map_congr_left ?_).trans (List.map_id ds)
  intro d member
  exact UInt8.toNat_ofNat_of_lt' (numeral.small d member)

/-- Writing undoes reading: all bytes have but one text. -/
theorem encode_of_decode? {text : List Char} {bytes : Bytes} (h : decode? text = some bytes) :
    encode bytes = text := by
  obtain ⟨count, ds, numeral, rfl⟩ := exists_numeral_of_decode? h
  have bytewise := Radix.isNumeral_digits (by decide : 2 ≤ 256) (Radix.value 58 ds)
  cases Option.some.inj ((decode?_replicate_append count numeral).symm.trans h)
  rw [encode_replicate_append count (head?_map_ofNat_ne_zero bytewise), Bytes.bigEndian_eq_value,
    map_toNat_map_ofNat bytewise, Radix.value_digits (by decide), numeral.digits_value (by decide)]

theorem decode?_eq_some_iff {text : List Char} {bytes : Bytes} :
    decode? text = some bytes ↔ text = encode bytes := by
  constructor
  · intro h
    exact (encode_of_decode? h).symm
  · rintro rfl
    exact decode?_encode bytes

theorem encode_inj {bytes other : Bytes} : encode bytes = encode other ↔ bytes = other := by
  constructor
  · intro same
    exact Option.some.inj ((decode?_encode bytes).symm.trans (same ▸ decode?_encode other))
  · rintro rfl
    rfl

/-- Texts and bytes that are the same number and start neither with a mark nor with a zero. -/
theorem eq_encode_of_value {text : List Char} {bytes : Bytes}
    (known : ∀ c ∈ text, c ∈ alphabet) (lead : text.head? ≠ some '1')
    (lead' : bytes.head? ≠ some 0)
    (same : Radix.value 58 (text.map (alphabet.idxOf ·)) = Bytes.bigEndian bytes) :
    text = encode bytes := by
  have back (c : Char) (member : c ∈ text) : digitChar (alphabet.idxOf c) = c := by
    have small := List.idxOf_lt_length_of_mem (known c member)
    rw [digitChar, List.getD_eq_getElem?_getD, List.getElem?_eq_getElem small,
      List.getElem_idxOf small]
    rfl
  have chars : (text.map (alphabet.idxOf ·)).map digitChar = text := by
    rw [List.map_map]
    exact (List.map_congr_left back).trans (List.map_id text)
  have numeral : Radix.IsNumeral 58 (text.map (alphabet.idxOf ·)) := by
    refine ⟨?_, ?_⟩
    · intro d member
      obtain ⟨c, inText, rfl⟩ := List.mem_map.mp member
      exact List.idxOf_lt_length_of_mem (known c inText)
    · intro zero
      obtain ⟨c, first, index⟩ := Option.map_eq_some_iff.mp (List.head?_map ▸ zero)
      have mark := back c (List.mem_of_head? first)
      rw [index] at mark
      exact lead (first.trans (congrArg some mark.symm))
  have written := encode_replicate_append 0 lead'
  rw [← same, numeral.digits_value (by decide), chars] at written
  exact written.symm

end Base58
end AddressBook
