import AddressBook.Failure

namespace AddressBook

structure Envelope where
  success : Bool
  message : Json
  data : Json
  extra : Json
  errors : Json
  code : Json
  requestId : String

namespace Envelope

/-- Whether a status tells of success: those from 200 to 399 do. -/
def isSuccess (status : Int) : Bool := 200 ≤ status && status < 400

/-- The envelope of a finished request; data that are missing are an empty object. -/
def answer (status : Int) (message data extra errors code : Json) (requestId : String) :
    Envelope :=
  ⟨isSuccess status, message, if data matches .null then .object [] else data,
    ApiError.orEmpty extra, errors, code, requestId⟩

/-- The envelope of a failed request, which has no data. -/
def failure (status : Int) (message code errors extra : Json) (requestId : String) :
    Envelope :=
  answer status message .null extra errors code requestId

def toJson (e : Envelope) : Json :=
  .object [("success", .bool e.success), ("message", e.message), ("data", e.data),
    ("extra", e.extra), ("errors", e.errors), ("code", e.code),
    ("request_id", .string e.requestId)]

end Envelope
end AddressBook
