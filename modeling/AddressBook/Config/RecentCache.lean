namespace AddressBook.Config

/-- Keys with their values, the one used last in front. -/
structure RecentCache (κ α : Type) where
  entries : List (κ × α)

namespace RecentCache

variable {κ α : Type} [DecidableEq κ]

def empty : RecentCache κ α := ⟨[]⟩

def find? (key : κ) (cache : RecentCache κ α) : Option α := cache.entries.lookup key

def others (key : κ) (cache : RecentCache κ α) : List (κ × α) :=
  cache.entries.filter fun entry => entry.1 ≠ key

/-- Keeps a value as the one used last, and at most `capacity` values in all. -/
def keep (capacity : Nat) (key : κ) (value : α) (cache : RecentCache κ α) : RecentCache κ α :=
  ⟨((key, value) :: cache.others key).take capacity⟩

end RecentCache
end AddressBook.Config
