import AddressBook.Proofs.Moment.Digits
import Mathlib.Data.List.GetD
import Mathlib.Data.List.TakeWhile

namespace AddressBook.DateTime

/-- The parts of a reading fit into the digits that they are given. -/
structure Fits (t : DateTime) : Prop where
  year : t.year < 10 ^ 4
  month : t.month < 10 ^ 2
  day : t.day < 10 ^ 2
  hour : t.hour < 10 ^ 2
  minute : t.minute < 10 ^ 2
  second : t.second < 10 ^ 2
  microsecond : t.microsecond < 10 ^ 6

theorem daysInMonth_le (year month : Nat) : Calendar.daysInMonth year month ≤ 31 := by
  unfold Calendar.daysInMonth
  rw [List.getD_eq_getElem?_getD]
  cases found : (Calendar.monthLengths (Calendar.isLeap year))[month - 1]? with
  | none => simp
  | some length =>
    have all : ∀ leap, ∀ length ∈ Calendar.monthLengths leap, length ≤ 31 := by decide
    exact all _ length (List.mem_of_getElem? found)

theorem IsValid.fits {t : DateTime} (valid : t.IsValid) : t.Fits := by
  have day := daysInMonth_le t.year t.month
  unfold IsValid maxYear at valid
  constructor <;> omega

theorem isoChars_eq (separator : Char) (t : DateTime) :
    t.isoChars separator = paddedDigits 4 t.year ++ '-' :: (paddedDigits 2 t.month ++ '-' ::
      (paddedDigits 2 t.day ++ separator :: (paddedDigits 2 t.hour ++ ':' ::
        (paddedDigits 2 t.minute ++ ':' :: (paddedDigits 2 t.second ++ t.fractionChars))))) := by
  simp [isoChars, dateChars, clockChars]

theorem fractionChars_lt_iff {t u : DateTime} (fits : t.Fits) (fits' : u.Fits) :
    t.fractionChars < u.fractionChars ↔ t.microsecond < u.microsecond := by
  have digits := paddedDigits_lt_iff (by decide) fits.microsecond fits'.microsecond
  have whole : ∀ text : List Char, ¬text < [] := List.not_lt_nil
  unfold fractionChars
  by_cases none : t.microsecond = 0
  · by_cases none' : u.microsecond = 0
    · simp [none, none']
    · simp [none, none', Nat.pos_of_ne_zero none']
  · by_cases none' : u.microsecond = 0
    · simp [none, none']
    · rw [if_neg none, if_neg none', List.cons_lt_cons_iff, digits]
      simp

/-- As texts readings are in the order of their parts. -/
theorem isoChars_lt_iff {t u : DateTime} (fits : t.Fits) (fits' : u.Fits) (separator : Char) :
    t.isoChars separator < u.isoChars separator ↔ t.parts < u.parts := by
  have same (c : Char) (r s : List Char) : c :: r < c :: s ↔ r < s := by
    simp
  rw [isoChars_eq, isoChars_eq,
    paddedDigits_append_lt_iff (by decide) fits.year fits'.year, same,
    paddedDigits_append_lt_iff (by decide) fits.month fits'.month, same,
    paddedDigits_append_lt_iff (by decide) fits.day fits'.day, same,
    paddedDigits_append_lt_iff (by decide) fits.hour fits'.hour, same,
    paddedDigits_append_lt_iff (by decide) fits.minute fits'.minute, same,
    paddedDigits_append_lt_iff (by decide) fits.second fits'.second,
    fractionChars_lt_iff fits fits']
  simp only [parts, List.cons_lt_cons_iff, List.not_lt_nil, and_false, or_false]

theorem forM_checkPart {numbers : List Int} (small : ∀ n ∈ numbers, 0 ≤ n ∧ n < 2 ^ 31) :
    numbers.forM checkPart = .ok () := by
  induction numbers with
  | nil => rfl
  | cons n rest ih =>
    obtain ⟨low, high⟩ := small n (by simp)
    have passed : checkPart n = .ok () := by
      rw [checkPart, if_neg (by omega), if_neg (by omega), if_neg (by omega)]
    show (checkPart n >>= fun _ => rest.forM checkPart) = .ok ()
    rw [passed]
    exact ih fun m member => small m (List.mem_cons_of_mem _ member)

theorem create_of_isValid {t : DateTime} (valid : t.IsValid) :
    create t.year t.month t.day t.hour t.minute t.second t.microsecond = .ok t := by
  obtain ⟨year, month, day, hour, minute, second, microsecond⟩ := valid.fits
  have small : ∀ n ∈ [(t.year : Int), t.month, t.day, t.hour, t.minute, t.second, t.microsecond],
      0 ≤ n ∧ n < 2 ^ 31 := by
    simp only [List.forall_mem_cons, List.not_mem_nil, false_imp_iff, implies_true, and_true]
    omega
  obtain ⟨_, _, _, _, _, _, _⟩ := valid
  unfold create
  rw [forM_checkPart small]
  simp only [Int.toNat_natCast]
  show (if _ then _ else _ : Except DateTimeError DateTime) = _
  rw [if_neg (by omega), if_neg (by omega), if_neg (by omega), if_neg (by omega), if_neg (by omega),
    if_neg (by omega), if_neg (by omega)]

end AddressBook.DateTime

namespace AddressBook.Moment.Iso

variable {t : DateTime}

theorem continuation?_of_ne_nil {rest : List Char} (more : rest ≠ []) (last : Bool) :
    continuation? true last (':' :: rest) =
      some (if last then .fraction rest else .part rest) := by
  cases rest with
  | nil => exact absurd rfl more
  | cons c rest => rfl

theorem takeFraction?_paddedDigits {n : Nat} (fits : n < 10 ^ 6) :
    takeFraction? (paddedDigits 6 n) = some (n, []) := by
  have length := length_paddedDigits (by decide) fits
  have digits : (paddedDigits 6 n).all Char.isDigit = true :=
    List.all_eq_true.mpr fun _ member => isDigit_of_mem_paddedDigits member
  unfold takeFraction?
  simp only [List.take_of_length_le (Nat.le_of_eq length), digits, if_true, asciiValue_paddedDigits,
    length, List.drop_of_length_le (Nat.le_of_eq length)]
  simp

theorem takeTime?_clockChars (fits : t.Fits) :
    takeTime? (t.clockChars ++ t.fractionChars) =
      some (⟨t.hour, t.minute, t.second, t.microsecond⟩, []) := by
  have chars : t.clockChars ++ t.fractionChars = paddedDigits 2 t.hour ++ ':' ::
      (paddedDigits 2 t.minute ++ ':' :: (paddedDigits 2 t.second ++ t.fractionChars)) := by
    simp [DateTime.clockChars]
  have hour := takeNumber?_paddedDigits (by decide) fits.hour
  have minute := takeNumber?_paddedDigits (by decide) fits.minute
  have second := takeNumber?_paddedDigits (by decide) fits.second
  have nonempty {n : Nat} (small : n < 10 ^ 2) (rest : List Char) :
      paddedDigits 2 n ++ rest ≠ [] := by
    obtain ⟨c, more, digits, _⟩ := exists_paddedDigits (by decide) small
    rw [digits]
    exact List.cons_ne_nil _ _
  unfold takeTime?
  rw [chars, hour]
  simp only [Option.bind_eq_bind, Option.bind_some, List.head?_cons]
  rw [show (some ':' == some ':') = true from rfl, continuation?_of_ne_nil (nonempty fits.minute _)]
  simp only [Bool.false_eq_true, if_false, Option.bind_some]
  rw [minute]
  simp only [Option.bind_some]
  rw [continuation?_of_ne_nil (nonempty fits.second _)]
  simp only [Bool.false_eq_true, if_false, Option.bind_some]
  rw [second]
  simp only [Option.bind_some]
  by_cases whole : t.microsecond = 0
  · rw [DateTime.fractionChars, if_pos whole, whole]
    rfl
  · have fraction : continuation? true true ('.' :: paddedDigits 6 t.microsecond) =
        some (.fraction (paddedDigits 6 t.microsecond)) := by
      obtain ⟨c, more, digits, _⟩ := exists_paddedDigits (by decide) fits.microsecond
      rw [digits]
      rfl
    rw [DateTime.fractionChars, if_neg whole, fraction]
    simp only [Option.bind_some]
    rw [takeFraction?_paddedDigits fits.microsecond]
    rfl

theorem takeMark?_cons (rest : List Char) : takeMark? true ('-' :: rest) = some rest := rfl

theorem date?_dateChars (fits : t.Fits) : date? t.dateChars = some t.date := by
  have year := takeNumber?_paddedDigits (by decide) fits.year
  have month := takeNumber?_paddedDigits (by decide) fits.month
  have day := takeNumber?_paddedDigits (by decide) fits.day []
  rw [List.append_nil] at day
  unfold date? DateTime.dateChars
  rw [List.append_assoc, year]
  simp only [Option.bind_eq_bind, Option.bind_some, List.cons_append, List.head?_cons,
    beq_self_eq_true, takeMark?_cons]
  split
  next rest week =>
    obtain ⟨c, more, digits, digit⟩ := exists_paddedDigits (by decide) fits.month
    rw [digits] at week
    cases week
    exact absurd digit (by decide)
  next =>
    rw [month]
    simp only [Option.bind_some, takeMark?_cons]
    rw [day]
    rfl

theorem length_dateChars (fits : t.Fits) : t.dateChars.length = 10 := by
  simp only [DateTime.dateChars, List.length_append, List.length_cons,
    length_paddedDigits (by decide) fits.year, length_paddedDigits (by decide) fits.month,
    length_paddedDigits (by decide) fits.day]

theorem dateLength_append (fits : t.Fits) (rest : List Char) :
    dateLength (t.dateChars ++ rest) = 10 := by
  have length := length_paddedDigits (by decide) fits.year
  obtain ⟨c, more, digits, digit⟩ := exists_paddedDigits (by decide) fits.month
  have total := length_dateChars fits
  have text : t.dateChars ++ rest = paddedDigits 4 t.year ++ '-' :: c ::
      (more ++ '-' :: (paddedDigits 2 t.day ++ rest)) := by
    simp [DateTime.dateChars, digits]
  have mark : (t.dateChars ++ rest).getD 4 ' ' = '-' := by
    rw [text, List.getD_append_right _ _ _ _ (Nat.le_of_eq length), length]
    rfl
  have next : (t.dateChars ++ rest).getD 5 ' ' = c := by
    rw [text, List.getD_append_right _ _ _ _ (by omega), length]
    rfl
  have noWeek : (c == 'W') = false := by
    refine beq_eq_false_iff_ne.mpr ?_
    rintro rfl
    exact absurd digit (by decide)
  unfold dateLength
  simp only [mark, next, noWeek, List.length_append, total]
  rw [if_neg (by omega)]
  rfl

theorem not_beginsOffset_of_isDigit {c : Char} (digit : c.isDigit = true) :
    (!beginsOffset c) = true := by
  have others : ∀ mark ∈ ['+', '-', 'Z'], mark.isDigit = false := by simp
  have differs : ∀ mark ∈ ['+', '-', 'Z'], (c == mark) = false := by
    intro mark member
    refine beq_eq_false_iff_ne.mpr ?_
    rintro rfl
    exact absurd (digit.symm.trans (others _ member)) (by decide)
  rw [beginsOffset, differs '+' (by simp), differs '-' (by simp), differs 'Z' (by simp)]
  rfl

/-- Nothing in the time of a reading looks like an offset. -/
theorem not_beginsOffset_of_mem {c : Char} (member : c ∈ t.clockChars ++ t.fractionChars) :
    (!beginsOffset c) = true := by
  have padded {width n : Nat} (member : c ∈ paddedDigits width n) : (!beginsOffset c) = true :=
    not_beginsOffset_of_isDigit (isDigit_of_mem_paddedDigits member)
  rcases List.mem_append.mp member with clock | fraction
  · simp only [DateTime.clockChars, List.mem_append, List.mem_cons] at clock
    rcases clock with (hour | rfl | minute) | rfl | second
    · exact padded hour
    · rfl
    · exact padded minute
    · rfl
    · exact padded second
  · unfold DateTime.fractionChars at fraction
    split at fraction
    · simp at fraction
    · rcases List.mem_cons.mp fraction with rfl | digits
      · rfl
      · exact padded digits

theorem timeAndOffset?_clockChars (fits : t.Fits) :
    timeAndOffset? (t.clockChars ++ t.fractionChars) =
      some (⟨t.hour, t.minute, t.second, t.microsecond⟩, none) := by
  unfold timeAndOffset?
  rw [List.takeWhile_eq_self_iff.mpr fun _ => not_beginsOffset_of_mem,
    List.dropWhile_eq_nil_iff.mpr fun _ => not_beginsOffset_of_mem, takeTime?_clockChars fits]
  rfl

/-- A valid reading is read back. -/
theorem read?_isoChars (valid : t.IsValid) : read? (t.isoChars ' ') = some ⟨t, none⟩ := by
  have fits := valid.fits
  have length := length_dateChars fits
  have text : t.isoChars ' ' = t.dateChars ++ ' ' :: (t.clockChars ++ t.fractionChars) := by
    simp [DateTime.isoChars]
  unfold read?
  rw [text, dateLength_append fits, List.take_left' length, List.drop_left' length,
    date?_dateChars fits, if_neg (by rw [List.length_append]; omega)]
  simp only [Option.bind_eq_bind, Option.bind_some, timeAndOffset?_clockChars fits]
  have created : DateTime.create t.date.year t.date.month t.date.day t.hour t.minute t.second
      t.microsecond = .ok t := DateTime.create_of_isValid valid
  rw [created]
  rfl

end AddressBook.Moment.Iso
