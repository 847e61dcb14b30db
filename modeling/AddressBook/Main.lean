import AddressBook.Listing.Command

open AddressBook

def main (arguments : List String) : IO UInt32 := do
  let scene : Scene := ⟨false, Address.defaultFormat, none⟩
  match (Session.run scene ⟨Store.empty, []⟩ (Listing.run arguments)).1 with
  | .ok text =>
    IO.print text
    return 0
  | .error failure =>
    IO.eprintln failure.text
    return 1
