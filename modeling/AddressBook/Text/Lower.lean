import AddressBook.Text.CaseTable
import AddressBook.Text.WordTable

namespace AddressBook.Text

def shiftedBy (runs : List CaseRun) (c : Char) : Char :=
  match runs.find? (·.contains c.toNat) with
  | some run => Char.ofNat (c.toNat + run.shift).toNat
  | none => c

/-- The lower case of one character; only the dotted capital I gives two. -/
def lowerChar (c : Char) : List Char :=
  if c.toNat = 0x130 then ['i', Char.ofNat 0x307] else [shiftedBy lowerRuns c]

def upperChar (c : Char) : List Char :=
  match upperExpansions.lookup c.toNat with
  | some points => points.map Char.ofNat
  | none => [shiftedBy upperRuns c]

def inRuns (runs : List (Nat × Nat)) (c : Char) : Bool :=
  runs.any fun (first, last) => first ≤ c.toNat && c.toNat ≤ last

def isCased (c : Char) : Bool := inRuns casedRuns c

def isIgnorable (c : Char) : Bool := inRuns ignorableRuns c

/-- The lower case of a text that stands behind another one, which may end in a letter. A capital
sigma that ends a word becomes the final form. -/
def lowerFrom (afterLetter : Bool) : List Char → List Char
  | [] => []
  | c :: rest =>
    let endsWord := afterLetter && !((rest.dropWhile isIgnorable).head?.any isCased)
    let lowered := if c == 'Σ' && endsWord then ['ς'] else lowerChar c
    lowered ++ lowerFrom (if isIgnorable c then afterLetter else isCased c) rest

def lower (text : String) : String := String.ofList (lowerFrom false text.toList)

def upper (text : String) : String := String.ofList (text.toList.flatMap upperChar)

end AddressBook.Text
