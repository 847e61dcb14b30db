import AddressBook.Moment.Iso
import AddressBook.Moment.Iso.Reader
import AddressBook.Proofs.Moment.DateTime
import Mathlib.Data.List.Induction
import Mathlib.Data.String.Basic

namespace AddressBook

theorem asciiValue_append_singleton (text : List Char) (c : Char) :
    Text.asciiValue (text ++ [c]) = 10 * Text.asciiValue text + (c.toNat - 48) := by
  simp [Text.asciiValue, Radix.value, List.foldl_append]

theorem asciiValue_toDigits (n : Nat) : Text.asciiValue (Nat.toDigits 10 n) = n := by
  induction n using Nat.strongRecOn with
  | ind n ih =>
    by_cases small : n < 10
    · rw [Nat.toDigits_of_lt_base small, ← List.nil_append [n.digitChar], asciiValue_append_singleton,
        Nat.toNat_digitChar_of_lt_ten small]
      simp [Text.asciiValue, Radix.value]
    · have last : n % 10 < 10 := Nat.mod_lt n (by decide)
      rw [Nat.toDigits_of_base_le (by decide) (by omega), asciiValue_append_singleton,
        ih (n / 10) (by omega), Nat.toNat_digitChar_of_lt_ten last]
      omega

theorem asciiValue_replicate_append (count : Nat) (text : List Char) :
    Text.asciiValue (List.replicate count '0' ++ text) = Text.asciiValue text := by
  induction count with
  | zero => rfl
  | succ count ih =>
    rw [List.replicate_succ, List.cons_append, ← ih]
    rfl

theorem asciiValue_paddedDigits (width n : Nat) : Text.asciiValue (paddedDigits width n) = n := by
  rw [paddedDigits, asciiValue_replicate_append, asciiValue_toDigits]

variable {width n m : Nat}

theorem length_paddedDigits (positive : 0 < width) (fits : n < 10 ^ width) :
    (paddedDigits width n).length = width := by
  have short := (Nat.length_toDigits_le_iff (by decide) positive).mpr fits
  simp only [paddedDigits, List.length_append, List.length_replicate]
  omega

theorem isDigit_of_mem_paddedDigits {c : Char} (h : c ∈ paddedDigits width n) :
    c.isDigit = true := by
  rcases List.mem_append.mp h with zero | digit
  · rw [List.eq_of_mem_replicate zero]
    decide
  · exact Nat.isDigit_of_mem_toDigits (by decide) (by decide) digit

theorem exists_paddedDigits (positive : 0 < width) (fits : n < 10 ^ width) :
    ∃ c rest, paddedDigits width n = c :: rest ∧ c.isDigit = true := by
  have length := length_paddedDigits positive fits
  cases digits : paddedDigits width n with
  | nil =>
    rw [digits, List.length_nil] at length
    omega
  | cons c rest => exact ⟨c, rest, rfl, isDigit_of_mem_paddedDigits (digits ▸ List.mem_cons_self)⟩

/-- A number of that width can be split off. -/
theorem takeNumber?_paddedDigits (positive : 0 < width) (fits : n < 10 ^ width) (rest : List Char) :
    Moment.Iso.takeNumber? width (paddedDigits width n ++ rest) = some (n, rest) := by
  have length := length_paddedDigits positive fits
  have digits : (paddedDigits width n).all Char.isDigit = true :=
    List.all_eq_true.mpr fun _ member => isDigit_of_mem_paddedDigits member
  have front : (paddedDigits width n ++ rest).take width = paddedDigits width n :=
    List.take_left' length
  unfold Moment.Iso.takeNumber?
  simp only [front, length, digits, and_self, if_true, asciiValue_paddedDigits,
    List.drop_left' length]

/-- In front of texts of one length the rest decides only where they are the same. -/
theorem append_lt_append_iff {a b r s : List Char} (length : a.length = b.length) :
    a ++ r < b ++ s ↔ a < b ∨ a = b ∧ r < s := by
  induction a generalizing b with
  | nil =>
    rw [List.eq_nil_of_length_eq_zero length.symm]
    simp
  | cons c a ih =>
    cases b with
    | nil => simp at length
    | cons d b =>
      rw [List.cons_append, List.cons_append, List.cons_lt_cons_iff, List.cons_lt_cons_iff,
        ih (Nat.succ.inj length), List.cons.injEq]
      tauto

theorem bounds_of_isDigit {c : Char} (digit : c.isDigit = true) : 48 ≤ c.toNat ∧ c.toNat < 58 := by
  simp only [Char.isDigit, Bool.and_eq_true, decide_eq_true_eq] at digit
  have low : '0'.toNat ≤ c.toNat := digit.1
  have high : c.toNat ≤ '9'.toNat := digit.2
  exact ⟨low, Nat.lt_succ_of_le high⟩

/-- Digits of one length are compared as their numbers. -/
theorem compare_digits {a b : List Char} (length : a.length = b.length)
    (digits : ∀ c ∈ a, c.isDigit = true) (digits' : ∀ c ∈ b, c.isDigit = true) :
    (a < b ↔ Text.asciiValue a < Text.asciiValue b) ∧
      (a = b ↔ Text.asciiValue a = Text.asciiValue b) := by
  induction a using List.reverseRecOn generalizing b with
  | nil =>
    rw [List.eq_nil_of_length_eq_zero length.symm]
    simp
  | append_singleton a c ih =>
    obtain rfl | ⟨b, d, rfl⟩ := b.eq_nil_or_concat'
    · simp at length
    have same : a.length = b.length := by simpa using length
    obtain ⟨below, equal⟩ := ih same (fun x member => digits x (List.mem_append_left _ member))
      fun x member => digits' x (List.mem_append_left _ member)
    obtain ⟨low, high⟩ := bounds_of_isDigit (digits c (by simp))
    obtain ⟨low', high'⟩ := bounds_of_isDigit (digits' d (by simp))
    have last : c < d ↔ c.toNat < d.toNat := Iff.rfl
    have lastEqual : c = d ↔ c.toNat = d.toNat := Char.toNat_inj.symm
    have first : [c] < [d] ↔ c < d := by simp [List.cons_lt_cons_iff]
    rw [append_lt_append_iff same, List.append_singleton_inj, first, asciiValue_append_singleton,
      asciiValue_append_singleton, below, equal, last, lastEqual]
    omega

theorem paddedDigits_lt_iff (positive : 0 < width) (fits : n < 10 ^ width) (fits' : m < 10 ^ width) :
    paddedDigits width n < paddedDigits width m ↔ n < m := by
  have length := (length_paddedDigits positive fits).trans (length_paddedDigits positive fits').symm
  have compared := compare_digits length (fun _ => isDigit_of_mem_paddedDigits)
    fun _ => isDigit_of_mem_paddedDigits
  rw [compared.1, asciiValue_paddedDigits, asciiValue_paddedDigits]

theorem paddedDigits_inj : paddedDigits width n = paddedDigits width m ↔ n = m := by
  constructor
  · intro same
    rw [← asciiValue_paddedDigits width n, same, asciiValue_paddedDigits]
  · rintro rfl
    rfl

/-- Of two numbers in a fixed width with texts behind them, the texts decide where the numbers are the
same. -/
theorem paddedDigits_append_lt_iff (positive : 0 < width) (fits : n < 10 ^ width)
    (fits' : m < 10 ^ width) (r s : List Char) :
    paddedDigits width n ++ r < paddedDigits width m ++ s ↔ n < m ∨ n = m ∧ r < s := by
  have length := (length_paddedDigits positive fits).trans (length_paddedDigits positive fits').symm
  rw [append_lt_append_iff length, paddedDigits_lt_iff positive fits fits', paddedDigits_inj]

end AddressBook
