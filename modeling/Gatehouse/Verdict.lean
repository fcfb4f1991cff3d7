import Gatehouse.Call
import Gatehouse.Route

/-! The verdict of the guard on one visit: the decision, and what it was based on. -/

namespace Gatehouse

/-- Why a visitor is sent elsewhere. -/
inductive Reason where
  | unauthenticated
  | alreadyAuthenticated
  | userLookupFailed
  | roleMismatch
  | credentialRejected
  | pinMissing
  deriving DecidableEq, Repr

/-- The name of a reason. -/
def Reason.name : Reason → String
  | unauthenticated => "unauthenticated"
  | alreadyAuthenticated => "already-authenticated"
  | userLookupFailed => "user-lookup-failed"
  | roleMismatch => "role-mismatch"
  | credentialRejected => "credential-rejected"
  | pinMissing => "security-pin-missing"

/-- The decision on a visit. -/
inductive Decision where
  | allow
  | redirect (target : String) (why : Reason)
  deriving DecidableEq, Repr

/-- The name of the reason for a decision. -/
def Decision.reason : Decision → String
  | allow => "allowed"
  | redirect _ why => why.name

/-- A decision and its grounds: the route, the token that was stored when the guard was asked, and
    the answers to the lookups that were made. -/
structure Verdict where
  route : Route
  token : Option Json
  user : Option Answer
  pin : Option Answer
  decision : Decision

end Gatehouse
