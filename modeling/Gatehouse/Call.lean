import Gatehouse.Fault

/-! What passes between the client and the service: a call as it is asked for, the request that goes
    out, the reply that comes back, and the answer that the caller gets. -/

namespace Gatehouse

/-- A call to the service. A payload or parameters that are null are left out. -/
structure Call where
  method : String
  path : String
  payload : Json
  params : Json

/-- A request on its way to the service. -/
structure Request where
  method : String
  url : String
  /-- The bearer token that was stored when the request was made. -/
  credential : Option Json
  body : Option String
  params : Option (Record String)
  /-- The most seconds to wait for the reply. -/
  timeout : Float

/-- The headers of a request. The credential is sent if there is one. -/
def Request.headers (r : Request) : Record String :=
  [("Content-Type", "application/json"), ("Accept", "application/json")] ++
    (r.credential.map fun token => ("Authorization", "Bearer " ++ token.display)).toList

/-- What becomes of a request. -/
inductive Reply where
  /-- A status and a body, taken up where the stack has room for so many more levels of calls. -/
  | received (status : Int) (body : ByteArray) (room : Nat)
  | timedOut
  /-- The connection failed before the reply was complete. -/
  | disturbed (text : String)
  /-- Something broke that is not the business of the client. -/
  | broke (f : Foreign)

/-- The classified outcome of a call. -/
inductive Answer where
  | data (value : Json)
  | failure (f : Failure)

namespace Answer

/-- The failure of an answer. -/
def failure? : Answer → Option Failure
  | data _ => none
  | failure f => some f

/-- The data of an answer, or its failure as a fault. -/
def unwrap : Answer → Except Fault Json
  | data value => .ok value
  | failure f => .error (.failed f)

/-- Whether the credential was rejected. -/
def isRejection (a : Answer) : Bool := a.failure?.any (·.kind = .authentication)

/-- The description of the failure, if there is one. -/
def failureDescription (a : Answer) : String :=
  (a.failure?.map Failure.description).getD Json.null.quoted

end Answer

end Gatehouse
