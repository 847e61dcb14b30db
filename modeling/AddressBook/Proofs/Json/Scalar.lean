import AddressBook.Json.Printer
import AddressBook.Json.Reader
import AddressBook.Proofs.Moment.Digits
import Mathlib.Data.Bool.AllAny

namespace AddressBook.Json

/-- A reading gives a value and leaves a rest of the text. -/
def Reads (read : Read α) (value : α) (rest : List Char) : Prop :=
  ∃ offset, read = .ok (value, ⟨offset, rest⟩)

theorem skipGap_cons {c : Char} (solid : isGap c = false) (offset : Nat) (rest : List Char) :
    Cursor.skipGap ⟨offset, c :: rest⟩ = ⟨offset, c :: rest⟩ := by
  simp [Cursor.skipGap, Cursor.skip, solid]

theorem skip_cons (offset : Nat) (c : Char) (rest : List Char) :
    Cursor.skip 1 ⟨offset, c :: rest⟩ = ⟨offset + 1, rest⟩ := rfl

/-- A character that stands for itself between the quotes of a string. -/
structure IsPlain (c : Char) : Prop where
  notControl : 0x20 ≤ c.toNat
  notQuote : c ≠ '"'
  notEscape : c ≠ '\\'

instance (c : Char) : Decidable (IsPlain c) :=
  decidable_of_iff (0x20 ≤ c.toNat ∧ c ≠ '"' ∧ c ≠ '\\')
    ⟨fun ⟨notControl, notQuote, notEscape⟩ => ⟨notControl, notQuote, notEscape⟩,
      fun plain => ⟨plain.notControl, plain.notQuote, plain.notEscape⟩⟩

section Strings
variable {start offset : Nat} {rest before : List Char}

theorem readString_quote :
    Reads (readString start offset ('"' :: rest) before) (String.ofList before.reverse) rest := by
  rw [readString]
  exact ⟨_, rfl⟩

theorem readString_escape {text : List Char} {c : Char} {length : Nat}
    (escape : readEscape start offset text = .ok (c, length)) :
    readString start offset ('\\' :: text) before =
      readString start (offset + 1 + length) (text.drop length) (c :: before) := by
  rw [readString, escape]

theorem readString_plain {c : Char} (plain : IsPlain c) :
    readString start offset (c :: rest) before = readString start (offset + 1) rest (c :: before) := by
  rw [readString, if_neg (Nat.not_lt.mpr plain.notControl)]
  · exact plain.notQuote
  · exact plain.notEscape

theorem hexUnit?_hexDigits {n : Nat} (small : n < 0x10000) (more : rest ≠ []) :
    hexUnit? (Text.hexDigits 4 n ++ rest) = some n := by
  obtain ⟨c, rest, rfl⟩ := List.exists_cons_of_ne_nil more
  have digit (m : Nat) : Bytes.hexValue? (Nat.digitChar (m % 16)) = some (m % 16) :=
    Bytes.hexValue?_digitChar (Nat.mod_lt m (by decide))
  simp only [Text.hexDigits, Radix.lowest, List.reverse_cons, List.reverse_nil, List.nil_append,
    List.cons_append, List.map_cons, List.map_nil, hexUnit?, List.mapM_cons, List.mapM_nil, digit,
    Option.pure_def, Option.bind_eq_bind, Option.bind_some, Option.map_some, Radix.value,
    List.foldl_cons, List.foldl_nil]
  congr 1
  omega

theorem length_hexDigits (count n : Nat) : (Text.hexDigits count n).length = count := by
  simp [Text.hexDigits, Radix.length_lowest]

theorem toNat_cases (c : Char) : c.toNat < 0xD800 ∨ 0xDFFF < c.toNat ∧ c.toNat < 0x110000 := c.valid

theorem charOf_toNat (c : Char) : Text.charOf c.toNat = c := by
  have valid := toNat_cases c
  rw [Text.charOf, if_neg (by omega), Char.ofNat_toNat]

theorem readEscape_unicodeEscape {c : Char} (small : c.toNat < 0x10000) (more : rest ≠ []) :
    readEscape start offset ('u' :: (Text.hexDigits 4 c.toNat ++ rest)) = .ok (c, 5) := by
  have noSurrogate : ¬(Text.isHighSurrogate c.toNat = true) := by
    have valid := toNat_cases c
    simp only [Text.isHighSurrogate, Bool.and_eq_true, decide_eq_true_eq]
    omega
  rw [readEscape, hexUnit?_hexDigits small more]
  simp only [charOf_toNat]
  exact if_neg fun pair => noSurrogate pair.1

theorem readEscape_surrogates {c : Char} (great : 0x10000 ≤ c.toNat) (more : rest ≠ []) :
    readEscape start offset ('u' :: (Text.hexDigits 4 (0xD800 + (c.toNat - 0x10000) / 0x400) ++
      (unicodeEscape (0xDC00 + (c.toNat - 0x10000) % 0x400) ++ rest))) = .ok (c, 11) := by
  have valid := toNat_cases c
  obtain ⟨high, isHigh⟩ : ∃ high, high = 0xD800 + (c.toNat - 0x10000) / 0x400 := ⟨_, rfl⟩
  obtain ⟨low, isLow⟩ : ∃ low, low = 0xDC00 + (c.toNat - 0x10000) % 0x400 := ⟨_, rfl⟩
  rw [← isHigh, ← isLow]
  have highSurrogate : Text.isHighSurrogate high = true := by
    simp only [Text.isHighSurrogate, Bool.and_eq_true, decide_eq_true_eq]
    omega
  have lowSurrogate : Text.isLowSurrogate low = true := by
    simp only [Text.isLowSurrogate, Bool.and_eq_true, decide_eq_true_eq]
    omega
  have joined : Text.joinSurrogates high low = c.toNat := by
    unfold Text.joinSurrogates
    omega
  have second : unicodeEscape low ++ rest = '\\' :: 'u' :: (Text.hexDigits 4 low ++ rest) := by
    simp [unicodeEscape]
  have long : 7 ≤ (unicodeEscape low ++ rest).length := by
    have nonempty := List.length_pos_of_ne_nil more
    rw [second, List.length_cons, List.length_cons, List.length_append, length_hexDigits]
    omega
  rw [readEscape, hexUnit?_hexDigits (by omega) (by rw [second]; exact List.cons_ne_nil _ _)]
  simp only [List.drop_left' (length_hexDigits 4 high)]
  rw [if_pos ⟨highSurrogate, long, by rw [second]; rfl⟩, second]
  simp only [List.drop_succ_cons, List.drop_zero, hexUnit?_hexDigits (show low < 0x10000 by omega) more,
    lowSurrogate, if_true, joined, charOf_toNat]

/-- The characters that are escaped by a name, and their names. -/
def named : List (Char × Char) :=
  [('"', '"'), ('\\', '\\'), ('\n', 'n'), ('\r', 'r'), ('\t', 't'), ('\x08', 'b'), ('\x0c', 'f')]

theorem escapeChar_of_mem {c name : Char} (member : (c, name) ∈ named) :
    name ≠ 'u' ∧ simpleEscape? name = some c ∧ escapeChar c = ['\\', name] := by
  have all : ∀ pair ∈ named, pair.2 ≠ 'u' ∧ simpleEscape? pair.2 = some pair.1 ∧
      escapeChar pair.1 = ['\\', pair.2] := List.all_iff_forall_prop.mp (by decide)
  exact all (c, name) member

theorem escapeChar_of_not_mem {c : Char} (unnamed : c ∉ named.map Prod.fst) :
    escapeChar c =
      if ' ' ≤ c ∧ c ≤ '~' then [c]
      else if c.toNat < 0x10000 then unicodeEscape c.toNat
      else
        unicodeEscape (0xD800 + (c.toNat - 0x10000) / 0x400) ++
          unicodeEscape (0xDC00 + (c.toNat - 0x10000) % 0x400) := by
  have other {d : Char} (member : d ∈ named.map Prod.fst) : (c == d) = false :=
    beq_eq_false_iff_ne.mpr fun same => unnamed (same ▸ member)
  simp (disch := decide) only [escapeChar, other, Bool.false_eq_true, if_false]

/-- An escaped character is read as the character. -/
theorem readString_escapeChar (c : Char) (more : rest ≠ []) : ∃ next,
    readString start offset (escapeChar c ++ rest) before =
      readString start next rest (c :: before) := by
  by_cases member : c ∈ named.map Prod.fst
  · obtain ⟨⟨first, name⟩, known, same⟩ := List.mem_map.mp member
    obtain rfl : first = c := same
    obtain ⟨other, spelled, escaped⟩ := escapeChar_of_mem known
    have escape : readEscape start offset (name :: rest) = .ok (first, 1) := by
      rw [readEscape, spelled]
      exact other
    rw [escaped]
    exact ⟨_, readString_escape escape⟩
  rw [escapeChar_of_not_mem member]
  have other {d : Char} (special : d ∈ named.map Prod.fst) : c ≠ d := fun same => member (same ▸ special)
  split
  next visible =>
    exact ⟨_, readString_plain ⟨visible.1, other (by decide), other (by decide)⟩⟩
  next =>
    split
    next small =>
      have read := @readString_escape start offset before _ _ _
        (@readEscape_unicodeEscape start offset rest c small more)
      rw [List.drop_succ_cons, List.drop_left' (length_hexDigits 4 c.toNat)] at read
      exact ⟨_, read⟩
    next great =>
      have read := @readString_escape start offset before _ _ _
        (@readEscape_surrogates start offset rest c (Nat.not_lt.mp great) more)
      rw [← List.append_assoc, List.drop_succ_cons, List.drop_left' (by
        rw [List.length_append, unicodeEscape, List.length_cons, List.length_cons, length_hexDigits,
          length_hexDigits])] at read
      rw [List.append_assoc]
      exact ⟨_, read⟩

/-- A text is read back from between its quotes. -/
theorem readString_flatMap (text : List Char) :
    Reads (readString start offset (text.flatMap escapeChar ++ '"' :: rest) before)
      (String.ofList (before.reverse ++ text)) rest := by
  induction text generalizing offset before with
  | nil =>
    rw [List.append_nil]
    exact readString_quote
  | cons c text ih =>
    obtain ⟨next, read⟩ := @readString_escapeChar start offset
      (text.flatMap escapeChar ++ '"' :: rest) before c (by simp)
    rw [List.flatMap_cons, List.append_assoc, read, List.append_cons before.reverse,
      ← List.reverse_cons]
    exact ih

theorem toList_quote (text : String) :
    (quote text).toList = '"' :: (text.toList.flatMap escapeChar ++ ['"']) := by
  rw [quote, String.toList_ofList]
  rfl

theorem readString_quoted (text : String) :
    Reads (readString start offset (text.toList.flatMap escapeChar ++ '"' :: rest) []) text rest := by
  have read := @readString_flatMap start offset rest [] text.toList
  rwa [List.reverse_nil, List.nil_append, String.ofList_toList] at read

end Strings

section Numbers
variable {rest : List Char}

/-- Whether no character at the beginning of a text could belong to a number in front of it. -/
def EndsNumber (text : List Char) : Prop :=
  ∀ c ∈ text.head?, c.isDigit = false ∧ c ≠ '.' ∧ c ≠ 'e' ∧ c ≠ 'E'

theorem exponentPart_of_endsNumber (ends : EndsNumber rest) : exponentPart rest = none := by
  cases rest with
  | nil => rfl
  | cons c rest =>
    obtain ⟨_, _, small, capital⟩ := ends c rfl
    simp [exponentPart, small, capital]

theorem takeWhile_isDigit_append {digits : List Char} (all : ∀ c ∈ digits, c.isDigit = true)
    (ends : EndsNumber rest) : (digits ++ rest).takeWhile Char.isDigit = digits := by
  rw [List.takeWhile_append_of_pos all]
  cases rest with
  | nil => simp
  | cons c rest => simp [(ends c rfl).1]

theorem ne_of_isDigit {c d : Char} (digit : c.isDigit = true) (noDigit : d.isDigit = false) :
    c ≠ d := by
  rintro rfl
  exact absurd (digit.symm.trans noDigit) (by decide)

theorem exists_toDigits_eq_cons (n : Nat) :
    ∃ c more, Nat.toDigits 10 n = c :: more ∧ c.isDigit = true := by
  obtain ⟨c, more, digits⟩ := List.exists_cons_of_ne_nil (@Nat.toDigits_ne_nil n 10)
  have member : c ∈ Nat.toDigits 10 n := digits ▸ List.mem_cons_self
  exact ⟨c, more, digits, Nat.isDigit_of_mem_toDigits (by decide) (by decide) member⟩

theorem head?_toDigits {n : Nat} (positive : 0 < n) : (Nat.toDigits 10 n).head? ≠ some '0' := by
  induction n using Nat.strongRecOn with
  | ind n ih =>
    by_cases small : n < 10
    · rw [Nat.toDigits_of_lt_base small]
      interval_cases n <;> decide
    · rw [Nat.toDigits_of_base_le (by decide) (by omega), List.head?_append_of_ne_nil]
      · exact ih (n / 10) (by omega) (by omega)
      · exact Nat.toDigits_ne_nil

def signChars (negative : Bool) : List Char := if negative then ['-'] else []

theorem wholeDigits_toDigits (n : Nat) (ends : EndsNumber rest) :
    wholeDigits (Nat.toDigits 10 n ++ rest) = Nat.toDigits 10 n := by
  unfold wholeDigits
  split
  next zero =>
    rcases Nat.eq_zero_or_pos n with rfl | positive
    · rfl
    · rw [List.head?_append_of_ne_nil _ Nat.toDigits_ne_nil] at zero
      exact absurd zero (head?_toDigits positive)
  next =>
    exact takeWhile_isDigit_append
      (fun _ => Nat.isDigit_of_mem_toDigits (by decide) (by decide)) ends

theorem fractionDigits_of_endsNumber (ends : EndsNumber rest) : fractionDigits rest = [] := by
  unfold fractionDigits
  split
  next => exact absurd rfl (ends _ rfl).2.1
  next => rfl

theorem readNumber_toDigits (negative : Bool) {n offset : Nat} (ends : EndsNumber rest)
    (short : (Nat.toDigits 10 n).length ≤ Text.maxIntegerDigits) :
    Reads (readNumber ⟨offset, signChars negative ++ (Nat.toDigits 10 n ++ rest)⟩)
      (.int (Text.signed negative n)) rest := by
  obtain ⟨c, more, digits, digit⟩ := exists_toDigits_eq_cons n
  have sign : ((signChars negative ++ (Nat.toDigits 10 n ++ rest)).head? == some '-') = negative := by
    cases negative with
    | true => rfl
    | false =>
      rw [signChars, digits]
      exact beq_eq_false_iff_ne.mpr fun minus =>
        ne_of_isDigit digit (by decide) (Option.some.inj minus)
  have unsigned : (signChars negative ++ (Nat.toDigits 10 n ++ rest)).drop
      (if negative then 1 else 0) = Nat.toDigits 10 n ++ rest := by
    cases negative <;> rfl
  have nonempty : (Nat.toDigits 10 n).isEmpty = false := by
    rw [digits]
    rfl
  unfold readNumber
  simp only [sign, unsigned, wholeDigits_toDigits n ends, nonempty, List.drop_left,
    fractionDigits_of_endsNumber ends, exponentPart_of_endsNumber ends, List.isEmpty_nil, if_true,
    List.drop_zero, Bool.false_eq_true, if_false, asciiValue_toDigits]
  rw [if_neg (Nat.not_lt.mpr short)]
  refine ⟨offset + ((if negative then 1 else 0) + (Nat.toDigits 10 n).length), ?_⟩
  rw [Cursor.skip, Nat.add_zero, ← List.drop_drop, unsigned, List.drop_left]

theorem toList_toString (n : Int) :
    (toString n).toList = signChars (n < 0) ++ Nat.toDigits 10 n.natAbs := by
  cases n with
  | ofNat n => simp [signChars, Int.toString_eq_repr, Int.repr, Nat.repr]
  | negSucc n =>
    have negative : Int.negSucc n < 0 := Int.negSucc_lt_zero n
    simp [signChars, negative, Int.toString_eq_repr, Int.repr, Nat.repr]

theorem signed_natAbs (n : Int) : Text.signed (n < 0) n.natAbs = n := by
  unfold Text.signed
  split
  next negative =>
    have negative := of_decide_eq_true negative
    omega
  next positive =>
    have positive : ¬n < 0 := fun negative => positive (decide_eq_true negative)
    omega

/-- An integer that is not too long is read back. -/
theorem readNumber_toString {n : Int} {offset : Nat} (ends : EndsNumber rest)
    (short : (Nat.toDigits 10 n.natAbs).length ≤ Text.maxIntegerDigits) :
    Reads (readNumber ⟨offset, (toString n).toList ++ rest⟩) (.int n) rest := by
  have read := @readNumber_toDigits rest (n < 0) n.natAbs offset ends short
  rwa [signed_natAbs, ← List.append_assoc, ← toList_toString] at read

end Numbers
end AddressBook.Json
