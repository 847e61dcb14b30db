import AddressBook.Proofs.Chronology
import AddressBook.Proofs.Moment.Digits

namespace AddressBook

/-- The text of the seconds of a moment has twelve characters at most. -/
theorem Moment.IsValid.length_unixSeconds_le {m : Moment} (valid : m.IsValid) :
    (toString m.unixSeconds).length ≤ 12 := by
  have early := valid.lt_instant
  unfold DateTime.epochMicros at early
  have seconds := unixSeconds_eq_or valid.natAbs_instant_lt (by decide)
  rw [← String.length_toList, Json.toList_toString, List.length_append]
  by_cases negative : m.unixSeconds < 0
  · have digits : (Nat.toDigits 10 m.unixSeconds.natAbs).length ≤ 11 :=
      (Nat.length_toDigits_le_iff (by decide) (by decide)).mpr (by omega)
    have sign : (Json.signChars (m.unixSeconds < 0)).length = 1 := by
      rw [decide_eq_true negative]
      rfl
    omega
  · have digits : (Nat.toDigits 10 m.unixSeconds.natAbs).length ≤ 12 :=
      (Nat.length_toDigits_le_iff (by decide) (by decide)).mpr valid.natAbs_unixSeconds_lt
    have sign : (Json.signChars (m.unixSeconds < 0)).length = 0 := by
      rw [decide_eq_false negative]
      rfl
    omega

namespace Listing
open Events (Item)

/-- The lines of a text. What stands behind the last line end is a line, too, unless it is nothing. -/
def lines (text : String) : List String :=
  let pieces := text.toList.splitOn '\n'
  (if pieces.getLast? = some [] then pieces.dropLast else pieces).map String.ofList

/-- What the line of an item holds: the time, at the end of twelve places, two blanks, and the body. -/
def lineOf (item : Item) : String :=
  String.ofList ((toString item.seconds).toList.leftpad 12 ' ') ++ "  " ++ item.body

/-- The item that a line tells: its time ends in front of a blank, and its body starts behind two. -/
def readLine (text : String) : Item :=
  let shown := text.toList.dropWhile (· == ' ')
  let (negative, digits) := Text.splitSign (shown.takeWhile (· != ' '))
  ⟨String.ofList ((shown.dropWhile (· != ' ')).drop 2),
    Text.signed negative (Text.asciiValue digits)⟩

/-- Whether a text lists items, each in a line of its own, in their order: every time fits into its
column, and the lines tell the items again. -/
structure IsListing (printed : String) (items : List Item) : Prop where
  inLines : lines printed = items.map lineOf
  column : ∀ item ∈ items, (toString item.seconds).length ≤ 12
  read : (lines printed).map readLine = items

section Lines

/-- No piece of a split has the character in it that it was split at. -/
theorem not_mem_of_mem_splitOn {c : Char} {text piece : List Char}
    (member : piece ∈ text.splitOn c) : c ∉ piece := by
  induction text generalizing piece with
  | nil =>
    rw [List.mem_singleton.mp member]
    exact List.not_mem_nil
  | cons first rest ih =>
    rw [List.splitOn_cons_eq_if_modifyHead] at member
    split at member
    next =>
      rcases List.mem_cons.mp member with rfl | later
      · exact List.not_mem_nil
      · exact ih later
    next different =>
      obtain ⟨head, tail, pieces⟩ := List.exists_cons_of_ne_nil (List.splitOn_ne_nil c rest)
      rw [pieces, List.modifyHead_cons] at member
      rcases List.mem_cons.mp member with rfl | later
      · intro inside
        rcases List.mem_cons.mp inside with rfl | inHead
        · exact different (beq_self_eq_true _)
        · exact ih (pieces ▸ List.mem_cons_self) inHead
      · exact ih (pieces ▸ List.mem_cons_of_mem _ later)

theorem not_mem_of_mem_lines {text line : String} (member : line ∈ lines text) :
    '\n' ∉ line.toList := by
  obtain ⟨piece, known, rfl⟩ := List.mem_map.mp member
  have inSplit : piece ∈ text.toList.splitOn '\n' := by
    split at known
    next => exact List.mem_of_mem_dropLast known
    next => exact known
  rw [String.toList_ofList]
  exact not_mem_of_mem_splitOn inSplit

theorem splitOn_flatMap {texts : List (List Char)} (plain : ∀ text ∈ texts, '\n' ∉ text) :
    (texts.flatMap (· ++ ['\n'])).splitOn '\n' = texts ++ [[]] := by
  induction texts with
  | nil => rfl
  | cons text rest ih =>
    obtain ⟨plainText, plainRest⟩ := List.forall_mem_cons.mp plain
    rw [List.flatMap_cons, List.append_assoc, List.singleton_append,
      List.splitOn_append_cons_self_of_not_mem plainText, ih plainRest, List.cons_append]

/-- Texts without line ends are the lines of what they make up with a line end behind each. -/
theorem lines_join {texts : List String} (plain : ∀ text ∈ texts, '\n' ∉ text.toList) :
    lines (String.join (texts.map (· ++ "\n"))) = texts := by
  have chars : (String.join (texts.map (· ++ "\n"))).toList =
      (texts.map String.toList).flatMap (· ++ ['\n']) := by
    simp [String.toList_join, List.flatMap_map]
  rw [lines, chars, splitOn_flatMap (List.forall_mem_map.mpr plain)]
  simp

end Lines

section Item
variable {item : Item}

theorem alignRight_eq (width : Nat) (text : String) :
    alignRight width text = String.ofList (text.toList.leftpad width ' ') := by
  rw [alignRight, List.leftpad, String.ofList_append, String.ofList_toList, String.length_toList]

theorem itemLine_eq (item : Item) : itemLine item = line (lineOf item) := by
  rw [itemLine, alignRight_eq, lineOf]

theorem toList_lineOf (item : Item) : (lineOf item).toList =
    (toString item.seconds).toList.leftpad 12 ' ' ++ ' ' :: ' ' :: item.body.toList := by
  rw [lineOf, String.toList_append, String.toList_append, String.toList_ofList, List.append_assoc]
  rfl

theorem ne_of_mem_toString {n : Int} {c other : Char} (member : c ∈ (toString n).toList)
    (noDigit : other.isDigit = false) (noSign : other ≠ '-') : c ≠ other := by
  rintro rfl
  rw [Json.toList_toString] at member
  rcases List.mem_append.mp member with sign | digit
  · unfold Json.signChars at sign
    split at sign
    · exact noSign (List.mem_singleton.mp sign)
    · cases sign
  · cases noDigit.symm.trans (Nat.isDigit_of_mem_toDigits (by decide) (by decide) digit)

theorem splitSign_toString (n : Int) :
    Text.splitSign (toString n).toList = (decide (n < 0), Nat.toDigits 10 n.natAbs) := by
  obtain ⟨c, more, digits, digit⟩ := Json.exists_toDigits_eq_cons n.natAbs
  rw [Json.toList_toString, digits]
  cases decide (n < 0) with
  | true => rfl
  | false =>
    rw [Json.signChars, if_neg Bool.false_ne_true, List.nil_append]
    unfold Text.splitSign
    split
    next same =>
      cases same
      cases digit
    next same =>
      cases same
      cases digit
    next => rfl

/-- Only the body can bring a line end. -/
theorem mem_lineOf_iff : '\n' ∈ (lineOf item).toList ↔ '\n' ∈ item.body.toList := by
  have time : '\n' ∉ (toString item.seconds).toList := fun inside =>
    ne_of_mem_toString inside (by decide) (by decide) rfl
  have blank : '\n' ∉ List.replicate (12 - (toString item.seconds).toList.length) ' ' := by simp
  simp only [toList_lineOf, List.leftpad, List.mem_append, List.mem_cons, blank, time, false_or]
  simp

theorem readLine_lineOf (item : Item) : readLine (lineOf item) = item := by
  have noBlank (c : Char) (inside : c ∈ (toString item.seconds).toList) : (c != ' ') = true :=
    bne_iff_ne.mpr (ne_of_mem_toString inside (by decide) (by decide))
  have lead : ((toString item.seconds).toList ++ ' ' :: ' ' :: item.body.toList).head? ≠
      some ' ' := by
    obtain ⟨c, more, chars, _, _⟩ := Json.exists_toString_eq_cons item.seconds
    have solid := bne_iff_ne.mp (noBlank c (chars ▸ List.mem_cons_self))
    rw [chars]
    exact fun blank => solid (Option.some.inj blank)
  have shown : (lineOf item).toList.dropWhile (· == ' ') =
      (toString item.seconds).toList ++ ' ' :: ' ' :: item.body.toList := by
    rw [toList_lineOf, List.leftpad, List.append_assoc]
    exact Base58.dropWhile_replicate_append _ lead
  have time : ((toString item.seconds).toList ++ ' ' :: ' ' :: item.body.toList).takeWhile
      (· != ' ') = (toString item.seconds).toList := by
    rw [List.takeWhile_append_of_pos noBlank]
    exact List.append_nil _
  have body : ((toString item.seconds).toList ++ ' ' :: ' ' :: item.body.toList).dropWhile
      (· != ' ') = ' ' :: ' ' :: item.body.toList := by
    rw [List.dropWhile_append_of_pos noBlank]
    rfl
  simp only [readLine, shown, time, body, splitSign_toString, asciiValue_toDigits,
    Json.signed_natAbs, List.drop_succ_cons, List.drop_zero, String.ofList_toList]

theorem itemLine_of_plain (plain : '\n' ∉ item.body.toList) :
    itemLine item = lineOf item ++ "\n" := by
  rw [itemLine_eq, line, if_neg]
  exact fun ended => plain (mem_lineOf_iff.mp (List.mem_of_getLast? ended))

/-- A line end at the end of a body is not seen. -/
theorem itemLine_append_lineEnd (plain : '\n' ∉ item.body.toList) :
    itemLine { item with body := item.body ++ "\n" } = itemLine item := by
  have longer : lineOf { item with body := item.body ++ "\n" } = lineOf item ++ "\n" :=
    String.append_assoc.symm
  rw [itemLine_eq, longer, itemLine_of_plain plain, line, if_pos]
  rw [String.toList_append]
  exact List.getLast?_concat

end Item

section Output
variable {items : List Item}

theorem output_of_ne_nil (nonempty : items ≠ []) :
    output false items = String.join (items.map itemLine) := by
  rw [output, if_neg Bool.false_ne_true, if_neg (by simpa using nonempty)]

theorem lines_output_iff (nonempty : items ≠ []) :
    lines (output false items) = items.map lineOf ↔ ∀ item ∈ items, '\n' ∉ item.body.toList := by
  constructor
  · intro same item member inside
    have shown : lineOf item ∈ lines (output false items) := same ▸ List.mem_map_of_mem member
    exact not_mem_of_mem_lines shown (mem_lineOf_iff.mpr inside)
  · intro plain
    have texts : items.map itemLine = (items.map lineOf).map (· ++ "\n") := by
      rw [List.map_map]
      exact List.map_congr_left fun item member => itemLine_of_plain (plain item member)
    rw [output_of_ne_nil nonempty, texts]
    refine lines_join (List.forall_mem_map.mpr fun item member inside => ?_)
    exact plain item member (mem_lineOf_iff.mp inside)

variable {account : Bytes} {s : Store}

theorem items_ne_nil (found : s.eventsOf account ≠ [])
    (shown : Events.items account s = .ok items) : items ≠ [] := by
  rintro rfl
  have none := Events.map_body_of_items shown
  exact Events.window_ne_nil found (List.map_eq_nil_iff.mp none.symm)

theorem forall_body_iff {P : String → Prop} (shown : Events.items account s = .ok items) :
    (∀ item ∈ items, P item.body) ↔ ∀ event ∈ Events.window account s, P event.body := by
  rw [← List.forall_mem_map (P := P), Events.map_body_of_items shown, List.forall_mem_map]

/-- What is printed for an account with events is a listing if and only if no body has a line end. -/
theorem isListing_output_iff (found : s.eventsOf account ≠ [])
    (shown : Events.items account s = .ok items) :
    IsListing (output false items) items ↔
      ∀ event ∈ Events.window account s, '\n' ∉ event.body.toList := by
  have framed := lines_output_iff (items_ne_nil found shown)
  rw [← @forall_body_iff _ _ _ (fun body => '\n' ∉ body.toList) shown]
  refine ⟨fun listing => framed.mp listing.inLines, fun plain => ?_⟩
  have inLines := framed.mpr plain
  refine ⟨inLines, fun item member => ?_, ?_⟩
  · obtain ⟨moment, valid, seconds⟩ := Events.exists_isValid_of_items shown member
    rw [seconds]
    exact valid.length_unixSeconds_le
  · rw [inLines, List.map_map]
    exact (List.map_congr_left fun item _ => readLine_lineOf item).trans (List.map_id items)

end Output

theorem classify_of_no_hyphen {text : String} (noHyphen : '-' ∉ text.toList) :
    classify text = .ok (.positional text) := by
  unfold classify
  simp only
  split
  next chars =>
    rw [chars] at noHyphen
    exact absurd List.mem_cons_self noHyphen
  next chars =>
    rw [chars] at noHyphen
    exact absurd List.mem_cons_self noHyphen
  next => rfl

/-- An address alone asks for the events of its account, not in JSON. -/
theorem parse_of_decode {text : String} {account : Bytes}
    (decoded : Address.decode text = .ok account) : parse [text] = .ok ⟨text, false⟩ := by
  have noHyphen : '-' ∉ text.toList := fun hyphen =>
    absurd ((Address.mem_alphabet_or_isBlank_of_decode decoded).2 '-' hyphen) (by decide)
  have only : classifyAll [text] = .ok [.positional text] := by
    rw [classifyAll, classify_of_no_hyphen noHyphen]
    rfl
  rw [parse, only]
  rfl

/-- The events of an account that has some, listed for a text that names it. They are printed in
lines of their own, from which they are read back, if and only if the storage does not fail, the
stamps of the window tell moments and none of its bodies has a line end. The stamps of events that
were added with moments tell them. -/
theorem events_stand_in_lines_of_their_own {scene : Scene} {world : World} {text : String}
    {account : Bytes} (decoded : Address.decode text = .ok account)
    (found : world.store.eventsOf account ≠ []) :
    parse [text] = .ok ⟨text, false⟩ ∧
    (∀ arguments, parse arguments = .ok ⟨text, false⟩ →
      ((∃ entries items printed,
          (Session.run scene world (Events.list account)).1 = .ok entries ∧
          entries.mapM (·.item) = .ok items ∧
          (Session.run scene world (run arguments)).1 = .ok printed ∧ IsListing printed items) ↔
        scene.IsCalmAt .statement ∧ ∀ event ∈ Events.window account world.store,
          (∃ moment, event.stamp.read = .ok (some moment)) ∧ '\n' ∉ event.body.toList)) ∧
    ∀ moments, world.store.Recorded moments →
      (∀ event ∈ world.store.eventsOf account, ∃ m, moments event.id = some m) →
      ∀ event ∈ Events.window account world.store,
        ∃ moment, event.stamp.read = .ok (some moment) := by
  refine ⟨parse_of_decode decoded, fun arguments parsed => ?_, ?_⟩
  · rw [run_eq_command parsed]
    constructor
    · rintro ⟨entries, items, printed, listed, told, done, listing⟩
      rcases @run_command_fails_or_prints scene text false account decoded world with
        ⟨failure, _, fails⟩ | ⟨others, calm, shown, prints⟩
      · rw [fails] at done
        cases done
      · rw [prints] at done
        cases done
        rw [Http.run_eventList calm rfl] at listed
        cases shown.symm.trans ((Events.items_of_entries listed).trans told)
        have plain := (isListing_output_iff found shown).mp listing
        exact ⟨calm, fun event member =>
          ⟨Events.exists_items_iff.mp ⟨_, shown⟩ event member, plain event member⟩⟩
    · rintro ⟨calm, each⟩
      obtain ⟨items, shown⟩ := Events.exists_items_iff.mpr fun event member => (each event member).1
      obtain ⟨entries, read, told⟩ := exists_of_bind_eq_ok shown
      have listed := congrArg Prod.fst (@Http.run_eventList scene world account _ calm rfl)
      have prints := @run_command_of_calm scene text false account decoded calm world
      rw [shown] at prints
      exact ⟨entries, items, output false items, listed.trans read, told, congrArg Prod.fst prints,
        (isListing_output_iff found shown).mpr fun event member => (each event member).2⟩
  · intro moments recorded known event member
    have own := Events.mem_eventsOf_of_mem_window member
    obtain ⟨m, added⟩ := known event own
    exact ⟨_, Moment.read_of_ofMoment? (Http.ofMoment?_of_known recorded own added)⟩

theorem items_seenTwice : Events.items (List.replicate 32 0) Store.seenTwice =
    .ok [⟨"second", 1704069000⟩, ⟨"first", 1704063600⟩] := by
  have shown := @Events.items_of_stamped Store.seenTwice (List.replicate 32 0) _ fun event member =>
    have own := Events.mem_eventsOf_of_mem_window member
    Http.ofMoment?_of_known Store.recorded_seenTwice own (Http.known_seenTwice event own)
  rw [Http.window_seenTwice] at shown
  rw [shown, ← Http.unixSeconds_firstMoment, ← Http.unixSeconds_secondMoment]
  rfl

theorem events_stand_in_lines_of_their_own_seenTwice :
    Address.decode Http.zerosText = .ok (List.replicate 32 0) ∧
      Store.seenTwice.eventsOf (List.replicate 32 0) ≠ [] ∧
      ∃ printed,
        (Session.run Scene.calm ⟨Store.seenTwice, []⟩ (run [Http.zerosText])).1 = .ok printed ∧
        lines printed = ["  1704069000  second", "  1704063600  first"] ∧
        (lines printed).map readLine = [⟨"second", 1704069000⟩, ⟨"first", 1704063600⟩] := by
  have found : Store.seenTwice.eventsOf (List.replicate 32 0) ≠ [] := by
    rw [Http.eventsOf_seenTwice]
    exact List.cons_ne_nil _ _
  obtain ⟨parsed, printed, timed⟩ := @events_stand_in_lines_of_their_own Scene.calm
    ⟨Store.seenTwice, []⟩ _ _ Http.decode_zeros found
  have told := timed _ Store.recorded_seenTwice fun event member =>
    ⟨_, Http.known_seenTwice event member⟩
  have plain : ∀ event ∈ Events.window (List.replicate 32 0) Store.seenTwice,
      '\n' ∉ event.body.toList := by
    rw [Http.window_seenTwice]
    decide
  have calm := @Scene.isCalmAt_of_fault_eq_none Scene.calm rfl .statement
  obtain ⟨entries, items, text, listed, shown, done, listing⟩ := (printed _ parsed).mpr
    ⟨calm, fun event member => ⟨told event member, plain event member⟩⟩
  rw [Http.run_eventList calm rfl] at listed
  cases items_seenTwice.symm.trans ((Events.items_of_entries listed).trans shown)
  refine ⟨Http.decode_zeros, found, text, done, listing.inLines.trans ?_, listing.read⟩
  decide +kernel

section OneBody

def seenWith (body : String) : Store :=
  { Store.empty with
    nodes := ⟨[⟨1, "node", "ws://node", 0⟩], 2⟩
    events := ⟨[{ firstEvent with body := body }], 2⟩ }

theorem recorded_seenWith (body : String) :
    (seenWith body).Recorded (Function.update (fun _ => none) 1 (some firstMoment)) := by
  have node := @Store.Recorded.after _ _ ⟨Store.empty, []⟩ _ .empty
    (.addNode (some "node") (some "ws://node") (some 0)) Scene.calm
  have added := @Book.run_addEvent Scene.calm
    ⟨{ Store.empty with nodes := (seenWith body).nodes }, []⟩ (some 1)
    (some (List.replicate 32 0)) (some "instantiation") (some body) firstMoment
    (.text "2023-12-31 23:00:00") 1 (seenWith body) rfl (by decide +kernel) rfl
  exact Store.Recorded.added node added

theorem window_seenWith (body : String) :
    Events.window (List.replicate 32 0) (seenWith body) = [{ firstEvent with body := body }] := by
  rw [Events.window, Store.eventsOf]
  simp [seenWith, firstEvent, Events.windowSize]

theorem items_seenWith (body : String) :
    Events.items (List.replicate 32 0) (seenWith body) = .ok [⟨body, 1704063600⟩] := by
  have stamped : ∀ event ∈ Events.window (List.replicate 32 0) (seenWith body),
      Stamp.ofMoment? firstMoment = some event.stamp := by
    rw [window_seenWith]
    intro event member
    rw [List.mem_singleton.mp member]
    exact (by decide +kernel : Stamp.ofMoment? firstMoment = some firstEvent.stamp)
  rw [Events.items_of_stamped stamped, window_seenWith, ← Http.unixSeconds_firstMoment]
  rfl

theorem run_seenWith (body : String) :
    (Session.run Scene.calm ⟨seenWith body, []⟩ (run [Http.zerosText])).1 =
      .ok (itemLine ⟨body, 1704063600⟩) := by
  have single : output false [⟨body, 1704063600⟩] = itemLine ⟨body, 1704063600⟩ := by
    rw [output_of_ne_nil (List.cons_ne_nil _ _), List.map_singleton, String.join_cons,
      String.join_nil, String.append_empty]
  rw [run_eq_command (parse_of_decode Http.decode_zeros),
    run_command_of_calm Http.decode_zeros (Scene.isCalmAt_of_fault_eq_none rfl _), items_seenWith,
    ← single]
  rfl

/-- An event whose body is an indented list takes three lines. And a body with a line end behind it is
printed like the body without, so that nothing read from the text can tell them apart. -/
theorem events_may_run_over_lines :
    (∀ body, (seenWith body).Reachable) ∧
    (∃ entry, (Session.run Scene.calm ⟨seenWith "[\n  1\n]", []⟩
        (Events.list (List.replicate 32 0))).1 = .ok [entry]) ∧
    (Session.run Scene.calm ⟨seenWith "[\n  1\n]", []⟩ (run [Http.zerosText])).1 =
      .ok "  1704063600  [\n  1\n]\n" ∧
    lines "  1704063600  [\n  1\n]\n" = ["  1704063600  [", "  1", "]"] ∧
    (Session.run Scene.calm ⟨seenWith "true\n", []⟩ (run [Http.zerosText])).1 =
      (Session.run Scene.calm ⟨seenWith "true", []⟩ (run [Http.zerosText])).1 := by
  refine ⟨fun body => (recorded_seenWith body).reachable, ?_, ?_, by decide +kernel, ?_⟩
  · obtain ⟨entries, read, _⟩ := exists_of_bind_eq_ok (items_seenWith "[\n  1\n]")
    have calm := @Scene.isCalmAt_of_fault_eq_none Scene.calm rfl .statement
    rw [Http.run_eventList calm rfl, read]
    rw [window_seenWith, mapM_eq_ok_iff] at read
    match entries with
    | [entry] => exact ⟨entry, rfl⟩
  · rw [run_seenWith]
    exact congrArg Except.ok (by decide +kernel)
  · have same := @itemLine_append_lineEnd ⟨"true", 1704063600⟩ (by decide)
    rw [run_seenWith, run_seenWith]
    exact congrArg Except.ok same

end OneBody
end Listing
end AddressBook
