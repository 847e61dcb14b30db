import AddressBook.Proofs.Json.Scalar
import Mathlib.Data.List.TakeWhile

namespace AddressBook

theorem Fields.put_of_not_mem {fields : Fields} {name : String} (new : name ∉ fields.map Prod.fst)
    (value : Json) : fields.put name value = fields ++ [(name, value)] := by
  induction fields with
  | nil => rfl
  | cons field rest ih =>
    obtain ⟨other, old⟩ := field
    obtain ⟨different, new⟩ := not_or.mp (mt List.mem_cons.mpr new)
    have missed : (other == name) = false := beq_eq_false_iff_ne.mpr (Ne.symm different)
    rw [put, missed, ih new]
    rfl

namespace Json

/-- The values that are read back, inside of `nesting` others. -/
inductive IsReadable : Nat → Json → Prop where
  | null {nesting : Nat} : IsReadable nesting .null
  | bool {nesting : Nat} (value : Bool) : IsReadable nesting (.bool value)
  | int {nesting : Nat} {value : Int}
      (short : (Nat.toDigits 10 value.natAbs).length ≤ Text.maxIntegerDigits) :
      IsReadable nesting (.int value)
  | string {nesting : Nat} (value : String) : IsReadable nesting (.string value)
  | array {nesting : Nat} {items : List Json} (room : nesting < maxNesting)
      (each : ∀ item ∈ items, IsReadable (nesting + 1) item) : IsReadable nesting (.array items)
  | object {nesting : Nat} {fields : Fields} (room : nesting < maxNesting)
      (distinct : (fields.map Prod.fst).Nodup)
      (each : ∀ field ∈ fields, IsReadable (nesting + 1) field.2) : IsReadable nesting (.object fields)

def itemsChars (items : List Json) : List Char :=
  [',', ' '].intercalate (items.map fun item => (render item).toList)

/-- A field as it is written behind the quote that begins it. -/
def fieldChars (field : String × Json) : List Char :=
  field.1.toList.flatMap escapeChar ++ '"' :: ':' :: ' ' :: (render field.2).toList

def fieldsChars (fields : Fields) : List Char :=
  [',', ' '].intercalate (fields.map fun field => '"' :: fieldChars field)

theorem toList_render_array (items : List Json) :
    (render (.array items)).toList = '[' :: (itemsChars items ++ [']']) := by
  have each : (renderItems items).map String.toList = items.map fun item => (render item).toList := by
    induction items with
    | nil => rfl
    | cons item rest ih => rw [renderItems, List.map_cons, List.map_cons, ih]
  simp [render, String.toList_append, String.toList_intercalate, each, itemsChars]

theorem toList_render_object (fields : Fields) :
    (render (.object fields)).toList = '{' :: (fieldsChars fields ++ ['}']) := by
  have each : (renderFields fields).map String.toList =
      fields.map fun field => '"' :: fieldChars field := by
    induction fields with
    | nil => rfl
    | cons field rest ih =>
      obtain ⟨name, value⟩ := field
      rw [renderFields, List.map_cons, List.map_cons, ih]
      simp [String.toList_append, toList_quote, fieldChars]
  simp [render, String.toList_append, String.toList_intercalate, each, fieldsChars]

/-- Whether a character is neither a gap nor the end of an array. -/
def Begins (c : Char) : Prop := isGap c = false ∧ c ≠ ']'

theorem endsNumber_of_isGap {c : Char} (gap : isGap c = true) :
    c.isDigit = false ∧ c ≠ '.' ∧ c ≠ 'e' ∧ c ≠ 'E' := by
  simp only [isGap, Bool.or_eq_true, beq_iff_eq] at gap
  rcases gap with ((rfl | rfl) | rfl) | rfl <;> decide

theorem begins_of_isDigit {c : Char} (digit : c.isDigit = true) : Begins c := by
  have noGap : isGap c = false := by
    refine Bool.eq_false_iff.mpr fun gap => ?_
    exact absurd (digit.symm.trans (endsNumber_of_isGap gap).1) (by decide)
  exact ⟨noGap, ne_of_isDigit digit (by decide)⟩

/-- A number begins with a digit, or with a minus in front of one. -/
theorem exists_toString_eq_cons (n : Int) : ∃ c text, (toString n).toList = c :: text ∧
    (c.isDigit = true ∨ c = '-') ∧ ∃ d ∈ (c :: text).take 2, d.isDigit = true := by
  obtain ⟨d, more, digits, digit⟩ := exists_toDigits_eq_cons n.natAbs
  rw [toList_toString, digits]
  cases decide (n < 0) with
  | true => exact ⟨'-', d :: more, rfl, .inr rfl, d, by simp, digit⟩
  | false => exact ⟨d, more, rfl, .inl digit, d, by simp, digit⟩

theorem exists_render_eq_cons {nesting : Nat} {value : Json} (readable : IsReadable nesting value) :
    ∃ c text, (render value).toList = c :: text ∧ Begins c := by
  cases readable with
  | null => exact ⟨_, _, rfl, by decide, by decide⟩
  | bool value => cases value <;> exact ⟨_, _, rfl, by decide, by decide⟩
  | @int _ n short =>
    obtain ⟨c, text, chars, digit | rfl, _⟩ := exists_toString_eq_cons n
    · exact ⟨c, text, chars, begins_of_isDigit digit⟩
    · exact ⟨'-', text, chars, by decide, by decide⟩
  | string value => exact ⟨_, _, toList_quote value, by decide, by decide⟩
  | array => exact ⟨_, _, toList_render_array _, by decide, by decide⟩
  | object => exact ⟨_, _, toList_render_object _, by decide, by decide⟩

/-- None of the words has a digit at its beginning. -/
theorem readWord?_eq_none {offset : Nat} {text : List Char}
    (digit : ∃ d ∈ text.take 2, d.isDigit = true) : readWord? ⟨offset, text⟩ = none := by
  have plain : ∀ word ∈ words, 2 ≤ word.1.toList.length ∧
      (word.1.toList.take 2).all (fun d => !d.isDigit) = true := by decide
  obtain ⟨d, member, digit⟩ := digit
  refine List.findSome?_eq_none_iff.mpr fun word known => if_neg fun isPrefix => ?_
  obtain ⟨long, plain⟩ := plain word known
  obtain ⟨more, rfl⟩ := List.isPrefixOf_iff_prefix.mp isPrefix
  rw [List.take_append_of_le_length long] at member
  have noDigit := List.all_eq_true.mp plain d member
  rw [digit] at noDigit
  cases noDigit

theorem readValue_toString {n : Int} {measure nesting offset : Nat} {rest : List Char} :
    readValue (measure + 1) nesting ⟨offset, (toString n).toList ++ rest⟩ =
      readNumber ⟨offset, (toString n).toList ++ rest⟩ := by
  obtain ⟨c, text, chars, first, d, member, digit⟩ := exists_toString_eq_cons n
  have noWord : readWord? ⟨offset, c :: (text ++ rest)⟩ = none := by
    refine readWord?_eq_none ⟨d, ?_, digit⟩
    rw [← List.cons_append, List.take_append]
    exact List.mem_append_left _ member
  have other {d : Char} (noDigit : d.isDigit = false) (noMinus : d ≠ '-') : c ≠ d := by
    rcases first with digit | rfl
    · exact ne_of_isDigit digit noDigit
    · exact noMinus.symm
  rw [chars, List.cons_append, readValue, noWord]
  split
  next same => exact absurd (List.cons.inj same).1 (other (by decide) (by decide))
  next same => exact absurd (List.cons.inj same).1 (other (by decide) (by decide))
  next same => exact absurd (List.cons.inj same).1 (other (by decide) (by decide))
  next => rfl

theorem skipGap_blank {c : Char} (begins : isGap c = false) (offset : Nat) (rest : List Char) :
    Cursor.skipGap ⟨offset, ' ' :: c :: rest⟩ = ⟨offset + 1, c :: rest⟩ := by
  have blank : isGap ' ' = true := by decide
  simp [Cursor.skipGap, Cursor.skip, begins, blank]

theorem endsNumber_cons {c : Char} (ends : c.isDigit = false ∧ c ≠ '.' ∧ c ≠ 'e' ∧ c ≠ 'E')
    (rest : List Char) : EndsNumber (c :: rest) := by
  rintro _ ⟨⟩
  exact ends

/-- Whether a value is read back wherever it is written inside of `nesting` others. Twice the number
of its characters is enough of a measure. -/
def ReadsBack (nesting : Nat) (value : Json) : Prop :=
  ∀ (measure offset : Nat) (rest : List Char), 2 * (render value).toList.length < measure →
    EndsNumber rest →
      Reads (readValue measure nesting ⟨offset, (render value).toList ++ rest⟩) value rest

section Items
variable {measure nesting offset : Nat} {rest : List Char} {item : Json} {before : List Json}

theorem readItems_bracket (back : ReadsBack nesting item)
    (enough : 2 * (render item).toList.length < measure) :
    Reads (readItems (measure + 1) nesting before ⟨offset, (render item).toList ++ ']' :: rest⟩)
      (.array (before.reverse ++ [item])) rest := by
  obtain ⟨next, read⟩ := back measure offset (']' :: rest) enough (endsNumber_cons (by decide) rest)
  rw [readItems, read]
  simp only
  rw [skipGap_cons (by decide), List.reverse_cons]
  exact ⟨next + 1, rfl⟩

theorem readItems_comma (back : ReadsBack nesting item)
    (enough : 2 * (render item).toList.length < measure) {c : Char} (begins : isGap c = false) :
    ∃ next, readItems (measure + 1) nesting before
        ⟨offset, (render item).toList ++ ',' :: ' ' :: c :: rest⟩ =
      readItems measure nesting (item :: before) ⟨next, c :: rest⟩ := by
  obtain ⟨next, read⟩ := back measure offset (',' :: ' ' :: c :: rest) enough
    (endsNumber_cons (by decide) _)
  refine ⟨next + 1 + 1, ?_⟩
  rw [readItems, read]
  simp only
  rw [skipGap_cons (by decide), ← skipGap_blank begins]
  rfl

theorem itemsChars_singleton (item : Json) : itemsChars [item] = (render item).toList := by
  simp [itemsChars]

theorem itemsChars_cons_cons (item next : Json) (items : List Json) :
    itemsChars (item :: next :: items) =
      (render item).toList ++ ',' :: ' ' :: itemsChars (next :: items) := by
  simp [itemsChars, List.intercalate_cons_cons]

theorem exists_itemsChars_eq_cons (readable : IsReadable nesting item) (items : List Json) :
    ∃ c text, itemsChars (item :: items) = c :: text ∧ Begins c := by
  obtain ⟨c, text, chars, begins⟩ := exists_render_eq_cons readable
  cases items with
  | nil => exact ⟨c, text, by rw [itemsChars_singleton, chars], begins⟩
  | cons next items =>
    exact ⟨c, _, by rw [itemsChars_cons_cons, chars, List.cons_append], begins⟩

theorem readItems_itemsChars {items : List Json} (item : Json)
    (each : ∀ value ∈ item :: items, IsReadable nesting value ∧ ReadsBack nesting value)
    (enough : 2 * (itemsChars (item :: items)).length + 1 < measure) :
    Reads (readItems measure nesting before ⟨offset, itemsChars (item :: items) ++ ']' :: rest⟩)
      (.array (before.reverse ++ item :: items)) rest := by
  induction items generalizing item measure offset before with
  | nil =>
    rw [itemsChars_singleton] at enough ⊢
    obtain ⟨measure, rfl⟩ := Nat.exists_eq_succ_of_ne_zero (Nat.ne_zero_of_lt enough)
    exact readItems_bracket (each item List.mem_cons_self).2 (by omega)
  | cons next items ih =>
    have others := fun value member => each value (List.mem_cons_of_mem item member)
    obtain ⟨c, text, chars, begins⟩ :=
      exists_itemsChars_eq_cons (others next List.mem_cons_self).1 items
    rw [itemsChars_cons_cons, List.length_append, List.length_cons, List.length_cons] at enough
    obtain ⟨measure, rfl⟩ := Nat.exists_eq_succ_of_ne_zero (Nat.ne_zero_of_lt enough)
    obtain ⟨skipped, read⟩ := @readItems_comma measure nesting offset (text ++ ']' :: rest) item before
      (each item List.mem_cons_self).2 (by omega) c begins.1
    have rest := @ih measure skipped (item :: before) next others (by omega)
    rw [List.reverse_cons, List.append_assoc, chars] at rest
    rw [itemsChars_cons_cons, chars, List.append_assoc]
    exact read ▸ rest

end Items

section Fields
variable {measure nesting offset : Nat} {rest : List Char} {field : String × Json} {before : Fields}

/-- A name is read behind its quote, and the value behind the colon. -/
theorem read_fieldChars (readable : IsReadable nesting field.2) (back : ReadsBack nesting field.2)
    (enough : 2 * (fieldChars field).length < measure) (ends : EndsNumber rest) :
    ∃ named next text, readString offset (offset + 1) (fieldChars field ++ rest) [] =
        .ok (field.1, ⟨named, ':' :: text⟩) ∧
      readValue measure nesting (Cursor.skipGap ⟨named + 1, text⟩) =
        .ok (field.2, ⟨next, rest⟩) := by
  obtain ⟨c, text, chars, begins⟩ := exists_render_eq_cons readable
  obtain ⟨named, readName⟩ := @readString_quoted offset (offset + 1)
    (':' :: ' ' :: ((render field.2).toList ++ rest)) field.1
  have short : 2 * (render field.2).toList.length < measure := by
    simp only [fieldChars, List.length_append, List.length_cons] at enough
    omega
  obtain ⟨next, readValue⟩ := back measure (named + 1 + 1) rest short ends
  refine ⟨named, next, ' ' :: ((render field.2).toList ++ rest), ?_, ?_⟩
  · rw [fieldChars, List.append_assoc]
    exact readName
  · rw [chars, List.cons_append] at readValue ⊢
    rw [skipGap_blank begins.1, readValue]

theorem readFields_brace (readable : IsReadable nesting field.2) (back : ReadsBack nesting field.2)
    (new : field.1 ∉ before.map Prod.fst) (enough : 2 * (fieldChars field).length < measure) :
    Reads (readFields (measure + 1) nesting before ⟨offset, '"' :: (fieldChars field ++ '}' :: rest)⟩)
      (.object (before ++ [field])) rest := by
  obtain ⟨named, next, text, name, value⟩ := @read_fieldChars measure nesting offset ('}' :: rest)
    field readable back enough (endsNumber_cons (by decide) rest)
  rw [readFields]
  simp only [name]
  rw [skipGap_cons (by decide)]
  simp only [Cursor.skip, List.drop_succ_cons, List.drop_zero, value]
  rw [skipGap_cons (by decide), Fields.put_of_not_mem new]
  exact ⟨next + 1, rfl⟩

theorem readFields_comma (readable : IsReadable nesting field.2) (back : ReadsBack nesting field.2)
    (new : field.1 ∉ before.map Prod.fst) (enough : 2 * (fieldChars field).length < measure) {c : Char}
    (begins : isGap c = false) : ∃ next, readFields (measure + 1) nesting before
        ⟨offset, '"' :: (fieldChars field ++ ',' :: ' ' :: c :: rest)⟩ =
      readFields measure nesting (before ++ [field]) ⟨next, c :: rest⟩ := by
  obtain ⟨named, next, text, name, value⟩ := @read_fieldChars measure nesting offset
    (',' :: ' ' :: c :: rest) field readable back enough (endsNumber_cons (by decide) _)
  refine ⟨next + 1 + 1, ?_⟩
  rw [readFields]
  simp only [name]
  rw [skipGap_cons (by decide)]
  simp only [Cursor.skip, List.drop_succ_cons, List.drop_zero, value]
  rw [skipGap_cons (by decide), Fields.put_of_not_mem new, ← skipGap_blank begins]
  rfl

theorem fieldsChars_singleton (field : String × Json) : fieldsChars [field] = '"' :: fieldChars field := by
  simp [fieldsChars]

theorem fieldsChars_cons_cons (field next : String × Json) (fields : Fields) :
    fieldsChars (field :: next :: fields) =
      '"' :: (fieldChars field ++ ',' :: ' ' :: fieldsChars (next :: fields)) := by
  simp [fieldsChars, List.intercalate_cons_cons]

theorem exists_fieldsChars_eq_cons (field : String × Json) (fields : Fields) :
    ∃ text, fieldsChars (field :: fields) = '"' :: text := by
  cases fields with
  | nil => exact ⟨_, fieldsChars_singleton field⟩
  | cons next fields => exact ⟨_, fieldsChars_cons_cons field next fields⟩

theorem not_mem_of_nodup {fields : Fields}
    (distinct : ((before ++ field :: fields).map Prod.fst).Nodup) :
    field.1 ∉ before.map Prod.fst := by
  rw [List.map_append, List.map_cons] at distinct
  exact fun old => (List.nodup_append.mp distinct).2.2 _ old _ List.mem_cons_self rfl

theorem readFields_fieldsChars {fields : Fields} (field : String × Json)
    (each : ∀ other ∈ field :: fields, IsReadable nesting other.2 ∧ ReadsBack nesting other.2)
    (distinct : ((before ++ field :: fields).map Prod.fst).Nodup)
    (enough : 2 * (fieldsChars (field :: fields)).length + 1 < measure) :
    Reads (readFields measure nesting before ⟨offset, fieldsChars (field :: fields) ++ '}' :: rest⟩)
      (.object (before ++ field :: fields)) rest := by
  induction fields generalizing field measure offset before with
  | nil =>
    obtain ⟨readable, back⟩ := each field List.mem_cons_self
    rw [fieldsChars_singleton, List.length_cons] at enough
    obtain ⟨measure, rfl⟩ := Nat.exists_eq_succ_of_ne_zero (Nat.ne_zero_of_lt enough)
    rw [fieldsChars_singleton]
    exact readFields_brace readable back (not_mem_of_nodup distinct) (by omega)
  | cons next fields ih =>
    obtain ⟨readable, back⟩ := each field List.mem_cons_self
    have others := fun other member => each other (List.mem_cons_of_mem field member)
    obtain ⟨text, chars⟩ := exists_fieldsChars_eq_cons next fields
    rw [fieldsChars_cons_cons, List.length_cons, List.length_append, List.length_cons,
      List.length_cons] at enough
    obtain ⟨measure, rfl⟩ := Nat.exists_eq_succ_of_ne_zero (Nat.ne_zero_of_lt enough)
    obtain ⟨skipped, read⟩ := @readFields_comma measure nesting offset (text ++ '}' :: rest) field before
      readable back (not_mem_of_nodup distinct) (by omega) '"' (by decide)
    rw [List.append_cons before] at distinct
    have rest := @ih measure skipped (before ++ [field]) next others distinct (by omega)
    rw [← List.append_cons, chars] at rest
    rw [fieldsChars_cons_cons, chars, List.cons_append, List.append_assoc]
    exact read ▸ rest

end Fields

section Nested
variable {measure nesting offset : Nat} {rest : List Char} (room : nesting < maxNesting)
include room

theorem readValue_bracket {c : Char} (begins : Begins c) :
    readValue (measure + 1) nesting ⟨offset, '[' :: c :: rest⟩ =
      readItems measure (nesting + 1) [] ⟨offset + 1, c :: rest⟩ := by
  obtain ⟨noGap, noEnd⟩ := begins
  rw [readValue]
  simp only [Cursor.skip, List.drop_succ_cons, List.drop_zero, skipGap_cons noGap,
    if_neg (Nat.not_le.mpr room)]
  split
  next same => exact absurd (List.cons.inj same).1 noEnd
  next => rfl

theorem readValue_brace : readValue (measure + 1) nesting ⟨offset, '{' :: '"' :: rest⟩ =
    readFields measure (nesting + 1) [] ⟨offset + 1, '"' :: rest⟩ := by
  have noGap : isGap '"' = false := by decide
  rw [readValue]
  simp only [Cursor.skip, List.drop_succ_cons, List.drop_zero, skipGap_cons noGap,
    if_neg (Nat.not_le.mpr room)]
  rfl

theorem readValue_array_nil :
    Reads (readValue (measure + 1) nesting ⟨offset, '[' :: ']' :: rest⟩) (.array []) rest := by
  have noGap : isGap ']' = false := by decide
  rw [readValue]
  simp only [Cursor.skip, List.drop_succ_cons, List.drop_zero, skipGap_cons noGap,
    if_neg (Nat.not_le.mpr room)]
  exact ⟨_, rfl⟩

theorem readValue_object_nil :
    Reads (readValue (measure + 1) nesting ⟨offset, '{' :: '}' :: rest⟩) (.object []) rest := by
  have noGap : isGap '}' = false := by decide
  rw [readValue]
  simp only [Cursor.skip, List.drop_succ_cons, List.drop_zero, skipGap_cons noGap,
    if_neg (Nat.not_le.mpr room)]
  exact ⟨_, rfl⟩

theorem readsBack_array {items : List Json}
    (each : ∀ item ∈ items, IsReadable (nesting + 1) item ∧ ReadsBack (nesting + 1) item) :
    ReadsBack nesting (.array items) := by
  intro measure offset rest enough _
  rw [toList_render_array, List.length_cons, List.length_append, List.length_singleton] at enough
  obtain ⟨measure, rfl⟩ := Nat.exists_eq_succ_of_ne_zero (Nat.ne_zero_of_lt enough)
  rw [toList_render_array, List.cons_append, List.append_assoc, List.singleton_append]
  cases items with
  | nil => exact readValue_array_nil room
  | cons item items =>
    obtain ⟨c, text, chars, begins⟩ :=
      exists_itemsChars_eq_cons (each item List.mem_cons_self).1 items
    have read := @readItems_itemsChars measure (nesting + 1) (offset + 1) rest [] items item each
      (by omega)
    rw [chars, List.cons_append] at read ⊢
    rw [readValue_bracket room begins]
    exact read

theorem readsBack_object {fields : Fields} (distinct : (fields.map Prod.fst).Nodup)
    (each : ∀ field ∈ fields, IsReadable (nesting + 1) field.2 ∧ ReadsBack (nesting + 1) field.2) :
    ReadsBack nesting (.object fields) := by
  intro measure offset rest enough _
  rw [toList_render_object, List.length_cons, List.length_append, List.length_singleton] at enough
  obtain ⟨measure, rfl⟩ := Nat.exists_eq_succ_of_ne_zero (Nat.ne_zero_of_lt enough)
  rw [toList_render_object, List.cons_append, List.append_assoc, List.singleton_append]
  cases fields with
  | nil => exact readValue_object_nil room
  | cons field fields =>
    obtain ⟨text, chars⟩ := exists_fieldsChars_eq_cons field fields
    have read := @readFields_fieldsChars measure (nesting + 1) (offset + 1) rest [] fields field each
      distinct (by omega)
    rw [chars, List.cons_append] at read ⊢
    rw [readValue_brace room]
    exact read

end Nested

/-- A readable value is read back, in front of whatever cannot be a part of it. -/
theorem IsReadable.readsBack {nesting : Nat} {value : Json} (readable : IsReadable nesting value) :
    ReadsBack nesting value := by
  induction readable with
  | null =>
    intro measure offset rest enough _
    obtain ⟨measure, rfl⟩ := Nat.exists_eq_succ_of_ne_zero (Nat.ne_zero_of_lt enough)
    exact ⟨_, rfl⟩
  | bool value =>
    intro measure offset rest enough _
    obtain ⟨measure, rfl⟩ := Nat.exists_eq_succ_of_ne_zero (Nat.ne_zero_of_lt enough)
    cases value <;> exact ⟨_, rfl⟩
  | int short =>
    intro measure offset rest enough ends
    obtain ⟨measure, rfl⟩ := Nat.exists_eq_succ_of_ne_zero (Nat.ne_zero_of_lt enough)
    rw [render, readValue_toString]
    exact readNumber_toString ends short
  | string value =>
    intro measure offset rest enough _
    obtain ⟨measure, rfl⟩ := Nat.exists_eq_succ_of_ne_zero (Nat.ne_zero_of_lt enough)
    obtain ⟨next, read⟩ := @readString_quoted offset (offset + 1) rest value
    rw [render, toList_quote, List.cons_append, List.append_assoc, readValue]
    simp only [List.singleton_append, read]
    exact ⟨next, rfl⟩
  | array room each ih =>
    exact readsBack_array room fun item member => ⟨each item member, ih item member⟩
  | object room distinct each ih =>
    exact readsBack_object room distinct fun field member => ⟨each field member, ih field member⟩

theorem skipGap_of_all {gap : List Char} (all : ∀ c ∈ gap, isGap c = true) (offset : Nat) :
    Cursor.skipGap ⟨offset, gap⟩ = ⟨offset + gap.length, []⟩ := by
  rw [Cursor.skipGap, List.takeWhile_eq_self_iff.mpr all, Cursor.skip, List.drop_length]

/-- What is written is read as the value that was written; blanks and line ends may follow. -/
theorem ofChars_render {value : Json} (readable : IsReadable 0 value) {gap : List Char}
    (all : ∀ c ∈ gap, isGap c = true) : ofChars ((render value).toList ++ gap) = .ok value := by
  obtain ⟨c, text, chars, noGap, _⟩ := exists_render_eq_cons readable
  have ends : EndsNumber gap := fun c first =>
    endsNumber_of_isGap (all c (List.mem_of_mem_head? first))
  obtain ⟨next, read⟩ := readable.readsBack (2 * ((render value).toList ++ gap).length + 2) 0 gap
    (by rw [List.length_append]; omega) ends
  have start : Cursor.skipGap ⟨0, (render value).toList ++ gap⟩ = ⟨0, (render value).toList ++ gap⟩ := by
    rw [chars, List.cons_append, skipGap_cons noGap]
  rw [ofChars, start, read]
  simp only
  rw [skipGap_of_all all]
  rfl

end Json
end AddressBook
