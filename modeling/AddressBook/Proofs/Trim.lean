import AddressBook.Text.Blank
import Mathlib.Data.List.DropRight

namespace AddressBook.Text

theorem dropEndWhile_eq_rdropWhile (p : Char → Bool) (text : List Char) :
    dropEndWhile p text = text.rdropWhile p := rfl

/-- Blank characters added at the end do not matter. -/
theorem trimEnd_append_of_blank (text : List Char) {blanks : List Char}
    (blank : ∀ c ∈ blanks, isBlank c = true) : trimEnd (text ++ blanks) = trimEnd text := by
  unfold trimEnd dropEndWhile
  rw [List.reverse_append, List.dropWhile_append_of_pos (by simpa using blank)]

theorem exists_trimEnd_append (text : List Char) :
    ∃ blanks, (∀ c ∈ blanks, isBlank c = true) ∧ text = trimEnd text ++ blanks := by
  refine ⟨text.rtakeWhile isBlank, fun c => List.mem_rtakeWhile_imp, ?_⟩
  exact (List.rdropWhile_append_rtakeWhile ..).symm

/-- A text without blank characters is left as it is. -/
theorem trimEnd_eq_self {text : List Char} (solid : ∀ c ∈ text, isBlank c = false) :
    trimEnd text = text := by
  unfold trimEnd
  rw [dropEndWhile_eq_rdropWhile, List.rdropWhile_eq_self_iff]
  intro nonempty
  simp [solid _ (List.getLast_mem nonempty)]

theorem trim_append_of_blank {before after : List Char} (text : List Char)
    (blank : ∀ c ∈ before, isBlank c = true) (blank' : ∀ c ∈ after, isBlank c = true) :
    trim (before ++ text ++ after) = trim text := by
  unfold trim
  rw [List.append_assoc, List.dropWhile_append_of_pos blank, List.dropWhile_append]
  split
  next all => rw [List.isEmpty_iff.mp all, List.dropWhile_eq_nil_iff.mpr blank']
  next => exact trimEnd_append_of_blank _ blank'

theorem trimEnd_idempotent (text : List Char) : trimEnd (trimEnd text) = trimEnd text := by
  unfold trimEnd
  rw [dropEndWhile_eq_rdropWhile, dropEndWhile_eq_rdropWhile, List.rdropWhile_idempotent]

/-- A text is trimmed to nothing at its end only if nothing is left at its start either. -/
theorem trimEnd_dropWhile_eq_nil_iff (text : List Char) :
    trimEnd (text.dropWhile isBlank) = [] ↔ text.dropWhile isBlank = [] := by
  unfold trimEnd
  rw [dropEndWhile_eq_rdropWhile, List.rdropWhile_eq_nil_iff, ← List.dropWhile_eq_nil_iff,
    List.dropWhile_idempotent]

/-- What trimming takes from either end of a text is blank. -/
theorem exists_append_trim_append (text : List Char) :
    ∃ before after, (∀ c ∈ before, isBlank c = true) ∧ (∀ c ∈ after, isBlank c = true) ∧
      text = before ++ trim text ++ after := by
  obtain ⟨after, blank, whole⟩ := exists_trimEnd_append (text.dropWhile isBlank)
  refine ⟨text.takeWhile isBlank, after, fun c => List.mem_takeWhile_imp, blank, ?_⟩
  rw [List.append_assoc, trim, ← whole, List.takeWhile_append_dropWhile]

theorem trim_idempotent (text : List Char) : trim (trim text) = trim text := by
  obtain ⟨before, after, blank, blank', whole⟩ := exists_append_trim_append text
  conv_rhs => rw [whole]
  exact (trim_append_of_blank _ blank blank').symm

theorem trim_eq_self {text : List Char} (solid : ∀ c ∈ text, isBlank c = false) :
    trim text = text := by
  have kept : text.dropWhile isBlank = text := by
    rw [List.dropWhile_eq_self_iff]
    intro nonempty
    simp [solid _ (List.getElem_mem nonempty)]
  rw [trim, kept, trimEnd_eq_self solid]

end AddressBook.Text
