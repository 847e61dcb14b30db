import AddressBook.Config.RecentCache
import Mathlib.Data.Finset.Card

namespace AddressBook.Config.RecentCache

variable {κ α : Type} [DecidableEq κ]

/-- The last use of each key, the latest first; so are the uses given. -/
def lastUses : List (κ × α) → List (κ × α)
  | [] => []
  | use :: earlier => use :: (lastUses earlier).filter fun other => other.1 ≠ use.1

/-- The uses since a key was used last. -/
def usesSince (key : κ) (uses : List (κ × α)) : List (κ × α) :=
  uses.takeWhile fun use => use.1 ≠ key

/-- How many different keys were used. -/
def distinct (uses : List (κ × α)) : Nat := (uses.map Prod.fst).toFinset.card

theorem mem_keys_lastUses {uses : List (κ × α)} {key : κ} :
    key ∈ (lastUses uses).map Prod.fst ↔ key ∈ uses.map Prod.fst := by
  induction uses with
  | nil => rfl
  | cons use earlier ih =>
    rw [lastUses, List.map_cons, List.map_cons, List.mem_cons, List.mem_cons, ← ih]
    simp only [List.mem_map, List.mem_filter, decide_eq_true_eq]
    constructor
    · rintro (same | ⟨other, ⟨member, _⟩, same⟩)
      · exact .inl same
      · exact .inr ⟨other, member, same⟩
    · rintro (same | ⟨other, member, rfl⟩)
      · exact .inl same
      · by_cases same : other.1 = use.1
        · exact .inl same
        · exact .inr ⟨other, ⟨member, same⟩, rfl⟩

theorem nodup_keys_lastUses (uses : List (κ × α)) : ((lastUses uses).map Prod.fst).Nodup := by
  induction uses with
  | nil => exact List.nodup_nil
  | cons use earlier ih =>
    rw [lastUses, List.map_cons, List.nodup_cons]
    refine ⟨by simp, ih.sublist (List.filter_sublist.map Prod.fst)⟩

theorem length_lastUses (uses : List (κ × α)) : (lastUses uses).length = distinct uses := by
  have same : (uses.map Prod.fst).toFinset = ((lastUses uses).map Prod.fst).toFinset := by
    ext key
    rw [List.mem_toFinset, List.mem_toFinset, mem_keys_lastUses]
  rw [distinct, same, List.toFinset_card_of_nodup (nodup_keys_lastUses uses), List.length_map]

theorem lookup_filter_of_ne {key other : κ} (different : key ≠ other) (uses : List (κ × α)) :
    (uses.filter fun use => use.1 ≠ other).lookup key = uses.lookup key := by
  induction uses with
  | nil => rfl
  | cons use rest ih =>
    obtain ⟨first, value⟩ := use
    by_cases same : first = other
    · subst same
      have missed : (key == first) = false := by simpa using different
      simpa [List.lookup_cons, missed] using ih
    · by_cases found : key = first
      · simp [same, found]
      · have missed : (key == first) = false := by simpa using found
        simpa [same, List.lookup_cons, missed] using ih

/-- The last use of a key has the value that was used last. -/
theorem lookup_lastUses (key : κ) (uses : List (κ × α)) :
    (lastUses uses).lookup key = uses.lookup key := by
  induction uses with
  | nil => rfl
  | cons use earlier ih =>
    obtain ⟨first, value⟩ := use
    by_cases found : key = first
    · simp [lastUses, found]
    · have missed : (key == first) = false := by simpa using found
      rw [lastUses, List.lookup_cons, List.lookup_cons, missed, lookup_filter_of_ne found, ih]

/-- Leaving out another key and stopping at a key may be done in either order. -/
theorem usesSince_filter {key other : κ} (different : key ≠ other) (uses : List (κ × α)) :
    usesSince key (uses.filter fun use => use.1 ≠ other) =
      (usesSince key uses).filter fun use => use.1 ≠ other := by
  induction uses with
  | nil => rfl
  | cons use rest ih =>
    unfold usesSince at *
    by_cases stop : use.1 = key
    · simp [stop, different]
    · by_cases same : use.1 = other
      · simpa [stop, same, List.takeWhile_cons, different.symm] using ih
      · simpa [stop, same, List.takeWhile_cons] using ih

theorem usesSince_lastUses (key : κ) (uses : List (κ × α)) :
    usesSince key (lastUses uses) = lastUses (usesSince key uses) := by
  induction uses with
  | nil => rfl
  | cons use earlier ih =>
    by_cases stop : use.1 = key
    · simp [usesSince, lastUses, stop]
    · have later := usesSince_filter (Ne.symm stop) (lastUses earlier)
      rw [ih] at later
      simpa [usesSince, lastUses, stop, List.takeWhile_cons] using later

/-- The first entries have a key if it is among them. -/
theorem lookup_take (key : κ) (capacity : Nat) (uses : List (κ × α)) :
    (uses.take capacity).lookup key =
      if (usesSince key uses).length < capacity then uses.lookup key else none := by
  induction uses generalizing capacity with
  | nil => simp
  | cons use rest ih =>
    obtain ⟨first, value⟩ := use
    cases capacity with
    | zero => rfl
    | succ room =>
      by_cases found : key = first
      · simp [usesSince, found]
      · have missed : (key == first) = false := by simpa using found
        have more : usesSince key ((first, value) :: rest) = (first, value) :: usesSince key rest := by
          simp [usesSince, Ne.symm found]
        rw [List.take_succ_cons, List.lookup_cons, List.lookup_cons, missed, more, ih]
        simp

/-- One entry less may be left out before the entries that there is no room for are. -/
theorem take_filter_take {uses : List (κ × α)} (different : (uses.map Prod.fst).Nodup) (key : κ)
    (room : Nat) : ((uses.take (room + 1)).filter fun use => use.1 ≠ key).take room =
      (uses.filter fun use => use.1 ≠ key).take room := by
  induction uses generalizing room with
  | nil => rfl
  | cons use rest ih =>
    rw [List.map_cons, List.nodup_cons] at different
    by_cases found : use.1 = key
    · have others : ∀ other ∈ rest, other.1 ≠ key :=
        fun other member same => different.1 (List.mem_map.mpr ⟨other, member, same.trans found.symm⟩)
      have whole : (rest.filter fun use => use.1 ≠ key) = rest :=
        List.filter_eq_self.mpr (by simpa using others)
      have whole' : ((rest.take room).filter fun use => use.1 ≠ key) = rest.take room :=
        List.filter_eq_self.mpr fun other member =>
          decide_eq_true (others other (List.mem_of_mem_take member))
      simp only [List.take_succ_cons, List.filter_cons, found, ne_eq, not_true_eq_false,
        decide_false, Bool.false_eq_true, if_false]
      rw [whole, whole', List.take_take, Nat.min_self]
    · cases room with
      | zero => simp
      | succ room => simpa [found] using ih different.2 room

/-- What a cache with room for so many keys has after some uses, the latest first. -/
def ofUses (capacity : Nat) (uses : List (κ × α)) : RecentCache κ α :=
  ⟨(lastUses uses).take capacity⟩

theorem keep_ofUses {capacity : Nat} (positive : 0 < capacity) (key : κ) (value : α)
    (uses : List (κ × α)) :
    (ofUses capacity uses).keep capacity key value = ofUses capacity ((key, value) :: uses) := by
  obtain ⟨room, rfl⟩ := Nat.exists_eq_succ_of_ne_zero positive.ne'
  rw [keep, ofUses, ofUses, others, lastUses, List.take_succ_cons, List.take_succ_cons,
    take_filter_take (nodup_keys_lastUses uses)]

/-- A key is there as long as there is room for the different keys used since. -/
theorem find?_ofUses (capacity : Nat) (key : κ) (uses : List (κ × α)) :
    (ofUses capacity uses).find? key =
      if distinct (usesSince key uses) < capacity then uses.lookup key else none := by
  rw [find?, ofUses, lookup_take, usesSince_lastUses, length_lastUses, lookup_lastUses]

end AddressBook.Config.RecentCache
