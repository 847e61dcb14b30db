import AddressBook.Address

namespace AddressBook.Address

/-- The formats that addresses can be written in. -/
def Supports (format : Int) : Prop :=
  0 ≤ format ∧ format ≤ maxFormat ∧ format ≠ 46 ∧ format ≠ 47

instance (format : Int) : Decidable (Supports format) :=
  inferInstanceAs (Decidable (_ ∧ _ ∧ _ ∧ _))

/-- One byte below 64, or two bytes of which the first is from 64 to 127. -/
inductive IsTag : Bytes → Prop
  | one {only : UInt8} (low : only.toNat < 64) : IsTag [only]
  | two {first second : UInt8} (low : 64 ≤ first.toNat) (high : first.toNat < 128) :
      IsTag [first, second]

theorem isReserved_eq_false_iff {format : Nat} :
    isReserved format = false ↔ format ≠ 46 ∧ format ≠ 47 := by
  simp [isReserved]

theorem supports_ofNat_iff {format : Nat} :
    Supports format ↔ format ≤ maxFormat ∧ isReserved format = false := by
  rw [isReserved_eq_false_iff, Supports, maxFormat]
  omega

/-- Exactly the supported formats have a tag. -/
theorem tag_of_supports {format : Int} (supported : Supports format) :
    tag format = .ok (tagOf format.toNat) := by
  obtain ⟨nonnegative, bounded, notFirst, notSecond⟩ := supported
  have unreserved : isReserved format.toNat = false := isReserved_eq_false_iff.mpr (by omega)
  rw [tag, if_neg]
  simp only [unreserved, Bool.false_eq_true, or_false, not_or]
  omega

theorem supports_of_tag {format : Int} {t : Bytes} (h : tag format = .ok t) : Supports format := by
  unfold tag at h
  split at h
  next => cases h
  next accepted =>
    simp only [not_or, Bool.not_eq_true, isReserved_eq_false_iff] at accepted
    unfold Supports
    omega

theorem isTag_tagOf {format : Nat} (bounded : format ≤ maxFormat) : IsTag (tagOf format) := by
  unfold maxFormat at bounded
  unfold tagOf
  split
  next short => exact .one (by rwa [UInt8.toNat_ofNat_of_lt' (show format < 256 by omega)])
  next long =>
    have first := UInt8.toNat_ofNat_of_lt' (show 64 + format % 256 / 4 < 256 by omega)
    exact .two (by omega) (by omega)

theorem tagFormat?_tagOf {format : Nat} (bounded : format ≤ maxFormat) :
    tagFormat? (tagOf format) = some format := by
  unfold maxFormat at bounded
  unfold tagOf
  split
  next short => rw [tagFormat?, UInt8.toNat_ofNat_of_lt' (show format < 256 by omega)]
  next long =>
    have high : format / 256 < 64 := by omega
    have lowBits : (format / 256 + format % 4 * 64) / 64 = format % 4 := by omega
    have highBits : (format / 256 + format % 4 * 64) % 64 = format / 256 := by omega
    have middle : 4 * (64 + format % 256 / 4) % 256 = format % 256 - format % 4 := by omega
    rw [tagFormat?, UInt8.toNat_ofNat_of_lt' (show 64 + format % 256 / 4 < 256 by omega),
      UInt8.toNat_ofNat_of_lt' (show format / 256 + format % 4 * 64 < 256 by omega), lowBits,
      highBits, middle]
    congr 1
    omega

theorem IsTag.exists_format {t : Bytes} (h : IsTag t) : ∃ format, tagFormat? t = some format := by
  cases h with
  | one => exact ⟨_, rfl⟩
  | two => exact ⟨_, rfl⟩

theorem IsTag.format_le {t : Bytes} {format : Nat} (h : IsTag t)
    (carried : tagFormat? t = some format) : format ≤ maxFormat := by
  unfold maxFormat
  cases h with
  | one low =>
    cases Option.some.inj carried
    omega
  | @two first second low high =>
    have bound := second.toNat_lt
    have value := Option.some.inj carried
    omega

/-- The length of a tag can be told from its first byte. -/
theorem IsTag.exists_first {t : Bytes} (h : IsTag t) :
    ∃ first rest, t = first :: rest ∧ tagLength first.toNat = .ok t.length := by
  cases h with
  | @one only low =>
    refine ⟨only, [], rfl, ?_⟩
    rw [tagLength, if_pos (by omega)]
    rfl
  | @two first second low high =>
    refine ⟨first, [second], rfl, ?_⟩
    rw [tagLength, if_neg (by omega), if_pos (by omega)]
    rfl

/-- Bytes cut off where the first of them says are a tag. -/
theorem isTag_take {first : UInt8} {rest : Bytes} {length : Nat}
    (h : tagLength first.toNat = .ok length) (enough : length ≤ rest.length + 1) :
    IsTag ((first :: rest).take length) ∧ ((first :: rest).take length).length = length := by
  unfold tagLength at h
  split at h
  next low =>
    cases h
    exact ⟨.one (by omega), rfl⟩
  next notLow =>
    split at h
    next high =>
      cases h
      cases rest with
      | nil => simp at enough
      | cons second rest => exact ⟨.two (by omega) (by omega), rfl⟩
    next => cases h

/-- A tag of one byte carries a format below 64. -/
theorem IsTag.format_lt {t : Bytes} {format : Nat} (h : IsTag t) (carried : tagFormat? t = some format)
    (short : t.length = 1) : format < 64 := by
  cases h with
  | one low =>
    cases Option.some.inj carried
    exact low
  | two => exact absurd short (by simp)

/-- The two bytes of a tag can be told from the format that they carry. -/
theorem bytes_of_format {first second : Nat} (low : 64 ≤ first) (high : first < 128)
    (bound : second < 256) :
    let format := 4 * first % 256 + second / 64 + 256 * (second % 64)
    64 + format % 256 / 4 = first ∧ format / 256 + format % 4 * 64 = second := by
  intro format
  have marked : 4 * first % 256 = 4 * (first - 64) := by omega
  have top : second / 64 < 4 := by omega
  have rest : second % 64 < 64 := by omega
  have whole := Nat.div_add_mod second 64
  have highBits : format / 256 = second % 64 := by omega
  have lowBits : format % 256 = 4 * (first - 64) + second / 64 := by omega
  have lowest : format % 4 = second / 64 := by omega
  omega

/-- Tags of the same format and length are the same. -/
theorem IsTag.eq_of_length_eq {t other : Bytes} {format : Nat} (h : IsTag t) (h' : IsTag other)
    (carried : tagFormat? t = some format) (carried' : tagFormat? other = some format)
    (length : t.length = other.length) : t = other := by
  cases h with
  | one low =>
    cases h' with
    | one low' =>
      have same := carried.trans carried'.symm
      simp only [tagFormat?, Option.some.injEq] at same
      rw [UInt8.toNat_inj.mp same]
    | two => exact absurd length (by simp)
  | @two first second low high =>
    cases h' with
    | one => exact absurd length (by simp)
    | @two first' second' low' high' =>
      have format := bytes_of_format low high second.toNat_lt
      have format' := bytes_of_format low' high' second'.toNat_lt
      rw [Option.some.inj carried] at format
      rw [Option.some.inj carried'] at format'
      rw [UInt8.toNat_inj.mp (format.1.symm.trans format'.1),
        UInt8.toNat_inj.mp (format.2.symm.trans format'.2)]

theorem length_tagOf (format : Nat) : (tagOf format).length = if format < 64 then 1 else 2 := by
  unfold tagOf
  split <;> rfl

theorem IsTag.length_eq {t : Bytes} (h : IsTag t) : t.length = 1 ∨ t.length = 2 := by
  cases h <;> simp

/-- A tag is the one that its format is written with, unless two bytes spell a format below 64. -/
theorem IsTag.tagOf_eq_iff {t : Bytes} {format : Nat} (h : IsTag t)
    (carried : tagFormat? t = some format) :
    tagOf format = t ↔ ¬(t.length = 2 ∧ format < 64) := by
  have bounded := h.format_le carried
  constructor
  · rintro same ⟨two, low⟩
    rw [← same, length_tagOf, if_pos low] at two
    exact absurd two (by decide)
  · intro canonical
    refine (isTag_tagOf bounded).eq_of_length_eq h (tagFormat?_tagOf bounded) carried ?_
    rw [length_tagOf]
    rcases h.length_eq with one | two
    · rw [one, if_pos (h.format_lt carried one)]
    · rw [two, if_neg (fun low => canonical ⟨two, low⟩)]

end AddressBook.Address
