import AddressBook.Json
import Mathlib.Data.List.Nodup

namespace AddressBook.Fields
variable {fields more : Fields} {name other : String} {value : Json}

section Lookup

theorem get?_singleton : get? [(other, value)] name = if name = other then some value else none := by
  rw [get?, List.lookup_cons]
  by_cases same : name = other
  · rw [if_pos same, beq_iff_eq.mpr same]
  · rw [if_neg same, beq_eq_false_iff_ne.mpr same]
    rfl

theorem get?_append : get? (fields ++ more) name = (fields.get? name).or (more.get? name) :=
  List.lookup_append

theorem get?_cons (field : String × Json) (rest : Fields) :
    get? (field :: rest) name = (get? [field] name).or (rest.get? name) :=
  @get?_append [field] rest name

theorem get?_eq_none_iff : fields.get? name = none ↔ name ∉ fields.map Prod.fst := by
  induction fields with
  | nil => exact iff_of_true rfl List.not_mem_nil
  | cons field rest ih =>
    rw [get?_cons, get?_singleton, List.map_cons, List.mem_cons, not_or, ← ih]
    by_cases same : name = field.1 <;> simp [same]

/-- What is set stands in front of what was there. -/
theorem get?_put : (fields.put name value).get? other =
    (get? [(name, value)] other).or (fields.get? other) := by
  rw [get?_singleton]
  split
  next same => rw [same, get?_put_self, Option.some_or]
  next different => rw [get?_put_of_ne different, Option.none_or]

/-- What is set where the name is free stands behind what was there. -/
theorem get?_putNew : (fields.putNew name value).get? other =
    (fields.get? other).or (get? [(name, value)] other) := by
  unfold putNew
  split
  next taken =>
    rw [get?_singleton]
    split
    next same => rw [same, Option.or_of_isSome taken]
    next => exact Option.or_none.symm
  next => exact get?_append

/-- Of several values for one name the last one is seen. -/
theorem get?_putAll : (fields.putAll more).get? name =
    (get? more.reverse name).or (fields.get? name) := by
  induction more generalizing fields with
  | nil => rfl
  | cons field rest ih =>
    rw [putAll, List.foldl_cons]
    refine ih.trans ?_
    rw [get?_put, List.reverse_cons, get?_append, Option.or_assoc]

/-- Of several values for one name the first one is seen. -/
theorem get?_putAllNew : (fields.putAllNew more).get? name =
    (fields.get? name).or (more.get? name) := by
  induction more generalizing fields with
  | nil => exact Option.or_none.symm
  | cons field rest ih =>
    rw [putAllNew, List.foldl_cons]
    refine ih.trans ?_
    rw [get?_putNew, Option.or_assoc, ← get?_cons]

theorem get?_putAll_of_not_mem (absent : name ∉ more.map Prod.fst) :
    (fields.putAll more).get? name = fields.get? name := by
  have none : get? more.reverse name = none := by
    rwa [get?_eq_none_iff, List.map_reverse, List.mem_reverse]
  rw [get?_putAll, none, Option.none_or]

theorem get?_filter {keep : String → Bool} (kept : keep name = true) :
    get? (fields.filter fun field => keep field.1) name = fields.get? name := by
  induction fields with
  | nil => rfl
  | cons field rest ih =>
    rw [get?_cons field rest, ← ih, List.filter_cons]
    split
    next => exact get?_cons _ _
    next dropped =>
      rw [get?_singleton, if_neg, Option.none_or]
      rintro rfl
      exact dropped kept

end Lookup

section Names

theorem nodup_put (distinct : (fields.map Prod.fst).Nodup) :
    ((fields.put name value).map Prod.fst).Nodup := by
  rw [map_fst_put]
  split
  next => exact distinct
  next new => exact List.nodup_append.mpr ⟨distinct, List.nodup_singleton name, by
      rintro _ member _ only rfl
      exact new (List.mem_singleton.mp only ▸ member)⟩

theorem nodup_putNew (distinct : (fields.map Prod.fst).Nodup) :
    ((fields.putNew name value).map Prod.fst).Nodup := by
  unfold putNew
  split
  next => exact distinct
  next free =>
    have new := get?_eq_none_iff.mp (Option.not_isSome_iff_eq_none.mp free)
    have same := map_fst_put fields name value
    rw [if_neg new] at same
    rw [List.map_append]
    exact same ▸ nodup_put distinct

theorem nodup_putAll (distinct : (fields.map Prod.fst).Nodup) :
    ((fields.putAll more).map Prod.fst).Nodup := by
  induction more generalizing fields with
  | nil => exact distinct
  | cons field rest ih => exact ih (nodup_put distinct)

theorem nodup_putAllNew (distinct : (fields.map Prod.fst).Nodup) :
    ((fields.putAllNew more).map Prod.fst).Nodup := by
  induction more generalizing fields with
  | nil => exact distinct
  | cons field rest ih => exact ih (nodup_putNew distinct)

end Names
end AddressBook.Fields
