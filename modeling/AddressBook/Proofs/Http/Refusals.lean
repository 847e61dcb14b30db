import AddressBook.Proofs.Http.Dispatch
import AddressBook.Proofs.Http.Events

namespace AddressBook

namespace Http

section
variable {scene : Scene} {world after : World} {request : Request} {route : Route}
  (host : request.namesHost = true) (reached : route? request.path = some route)
  (method : request.method ∈ route.methods)
include host reached method

end

/-- Whether the body of a request can be read: its length, as far as it is told, is a number that is
neither too great nor more than what there is. -/
def Request.IsReadable (request : Request) : Prop :=
  ∃ length : Int, request.length = .ok length ∧ length ≤ Request.maxLength ∧
    length ≤ request.body.length

variable {scene : Scene} {world : World} {request : Request}

section NotAsItShouldBe

end NotAsItShouldBe

end Http
end AddressBook
