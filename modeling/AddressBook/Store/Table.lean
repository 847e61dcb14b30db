namespace AddressBook

structure Table (α : Type) where
  rows : List α
  nextId : Nat

namespace Table

/-- Whether an integer has at most 64 bits, as those in a table do. -/
def fits (n : Int) : Bool := -9223372036854775808 ≤ n && n ≤ 9223372036854775807

def empty : Table α := ⟨[], 1⟩

def add (make : Nat → α) (t : Table α) : Nat × Table α :=
  (t.nextId, ⟨t.rows ++ [make t.nextId], t.nextId + 1⟩)

def remove (p : α → Bool) (t : Table α) : Nat × Table α :=
  (t.rows.countP p, { t with rows := t.rows.filter fun row => !p row })

@[simp] theorem rows_add (make : Nat → α) (t : Table α) :
    (t.add make).2.rows = t.rows ++ [make t.nextId] := rfl

@[simp] theorem nextId_add (make : Nat → α) (t : Table α) :
    (t.add make).2.nextId = t.nextId + 1 := rfl

@[simp] theorem rows_remove (p : α → Bool) (t : Table α) :
    (t.remove p).2.rows = t.rows.filter fun row => !p row := rfl

end Table
end AddressBook
