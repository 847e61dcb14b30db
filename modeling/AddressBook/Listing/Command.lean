import AddressBook.Events
import AddressBook.Json.Printer
import AddressBook.Listing.Arguments

namespace AddressBook.Listing

/-- A text with a line end, unless it has one. -/
def line (text : String) : String :=
  if text.toList.getLast? = some '\n' then text else text ++ "\n"

def alignRight (width : Nat) (text : String) : String :=
  String.ofList (List.replicate (width - text.length) ' ') ++ text

/-- An event as it is printed: its time in seconds, and its body. -/
def itemLine (item : Events.Item) : String :=
  line (alignRight 12 (toString item.seconds) ++ "  " ++ item.body)

def output (json : Bool) (items : List Events.Item) : String :=
  if json then line (Json.array (items.map (·.toJson))).render
  else if items.isEmpty then line "No events."
  else String.join (items.map itemLine)

def commandFailure (message : String) : Failure := .fault .command message

def ArgumentError.failure (e : ArgumentError) : Failure :=
  .fault (if e = .finished then .systemExit else .command) e.message

def run (arguments : List String) : Session String := do
  let options ← Session.ofExcept ((parse arguments).mapError ArgumentError.failure)
  let account ← Session.ofExcept
    ((Address.decode options.account).mapError fun e =>
      commandFailure ("Invalid account: " ++ e.message))
  let items ← Session.ofExcept ((← Events.list account).mapM (·.item))
  return output options.json items

end AddressBook.Listing
