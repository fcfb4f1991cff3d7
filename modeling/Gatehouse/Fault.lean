import Gatehouse.Checked
import Gatehouse.Json.Display

/-! Everything that can go wrong. A failure is the classified outcome of a call to the service: it
    is announced, logged and handed to the caller as a value. A fault is what stops an operation: a
    failure that is not handled, a navigation that leads nowhere, data of the wrong shape, or a disk
    that does not do what it should. -/

namespace Gatehouse

/-- The kinds of failures of a call. -/
inductive FailureKind where
  /-- Not classified any further. -/
  | general
  | authentication
  | permission
  | notFound
  | server
  | timeout
  | network
  | application
  deriving DecidableEq, Repr

/-- The name of a kind of failure, as log rows and descriptions write it. -/
def FailureKind.name : FailureKind → String
  | general => "VaultClientError"
  | authentication => "AuthenticationError"
  | permission => "PermissionDeniedError"
  | notFound => "NotFoundError"
  | server => "ServerError"
  | timeout => "RequestTimeoutError"
  | network => "NetworkError"
  | application => "ApplicationError"

/-- A failed call: a message for the user, the status of the reply and the code of its envelope. -/
structure Failure where
  kind : FailureKind
  message : String
  status : Option Int
  code : Option Int
  deriving DecidableEq, Repr

/-- An optional number, as log rows and descriptions write it. -/
def shownOption (n : Option Int) : String := ((n.map Json.int).getD Json.null).quoted

/-- The description of a failure. -/
def Failure.description (f : Failure) : String :=
  f.kind.name ++ "(" ++ Text.quoted f.message ++ ", status=" ++ shownOption f.status ++ ", code=" ++
    shownOption f.code ++ ")"

/-- Why a navigation failed. -/
inductive NavigationFault where
  | unknownRoute (path : String)
  /-- The route with this path asked for one redirect too many. -/
  | tooManyRedirects (path : String)
  | other (message : String)
  deriving DecidableEq, Repr

namespace NavigationFault

/-- The name of a navigation fault, as descriptions write it. -/
def name : NavigationFault → String
  | unknownRoute _ => "RouteNotFound"
  | _ => "NavigationError"

/-- The message of a navigation fault. -/
def message : NavigationFault → String
  | unknownRoute path => "No route declared for path " ++ Text.quoted path
  | tooManyRedirects path => "Too many redirects while navigating to " ++ path
  | other message => message

/-- The description of a navigation fault. -/
def description (f : NavigationFault) : String := f.name ++ "(" ++ Text.quoted f.message ++ ")"

end NavigationFault

/-- The families that a fault may be caught as. -/
inductive Family where
  | failedCall
  | navigation
  | permission
  | timeout
  | system
  deriving DecidableEq, Repr

/-- The families of a failure. A missing permission and a timeout are faults of the system too. -/
def Failure.families (f : Failure) : List Family :=
  match f.kind with
  | .permission => [.failedCall, .permission, .system]
  | .timeout => [.failedCall, .timeout, .system]
  | _ => [.failedCall]

/-- The families of a navigation fault. -/
def NavigationFault.families (_ : NavigationFault) : List Family := [.navigation]

/-- What a disk can refuse. -/
inductive DiskFault where
  | missing
  | isDirectory
  | notDirectory
  | alreadyThere
  /-- A name or a path has too many bytes. -/
  | tooLong
  /-- A name has a zero character inside. -/
  | zeroInside
  /-- Something stands at the place that cannot be replaced. -/
  | busy
  deriving DecidableEq, Repr

/-- The message of a disk fault that has one. -/
def DiskFault.message? : DiskFault → Option String
  | zeroInside => some "embedded null byte"
  | _ => none

/-- The data that is checked as a whole. -/
inductive Model where
  | settings
  | route
  | user
  | pinStatus
  | envelope
  deriving DecidableEq, Repr

/-- A fault that is not one of the client's own: something else broke, and the client lets it
    pass. -/
structure Foreign where
  name : String
  text : String
  deriving DecidableEq, Repr

/-- What stops an operation. -/
inductive Fault where
  | failed (f : Failure)
  | navigation (f : NavigationFault)
  | invalid (what : Model) (mistakes : List Mistake)
  | emptyToken
  | duplicateRoute (path : String)
  | notNumber (text : String)
  | unknownHome
  | notOpen
  | connectionClosed
  /-- A value that has no written form; the text says why. -/
  | unwritable (reason : String)
  | foreign (f : Foreign)
  /-- A value that something else choked on. -/
  | rejected (text : String)
  /-- A value of a type that cannot be used there. -/
  | unfit
  /-- A value that is no record where one is needed. -/
  | notRecord
  /-- A value that is no text where a name is needed. -/
  | notName
  /-- There is no item where one is needed. -/
  | noItem
  /-- There is no entry where one is needed. -/
  | noEntry
  /-- A part of a value that cannot be replaced. -/
  | unchangeable
  /-- A part of a value that was made as a whole. -/
  | sealed
  /-- There is no connection. -/
  | unconnected
  /-- A way of writing texts as bytes that is not known. -/
  | unknownEncoding
  /-- A number beyond what another kind of numbers can hold. -/
  | outOfRange
  /-- Work on a value that leads back into itself. -/
  | endless
  /-- A value that cannot be shown. -/
  | unshown (o : Json.Obstacle)
  | disk (f : DiskFault)
  deriving DecidableEq, Repr

namespace Fault

/-- The message of a fault that has one. -/
def message? : Fault → Option String
  | failed f => some f.message
  | navigation f => some f.message
  | emptyToken => some "Bearer token cannot be empty"
  | duplicateRoute path => some ("Duplicate route path " ++ Text.quoted path)
  | notNumber text => some ("could not convert string to float: " ++ Text.quoted text)
  | unknownHome => some "Could not determine home directory."
  | notOpen => some "TransportClient is not open"
  | connectionClosed => some "Session is closed"
  | unwritable reason => some reason
  | foreign f => some f.text
  | rejected text => some text
  | endless => some "maximum recursion depth exceeded while calling a Python object"
  | unshown .tooDeep =>
    some "maximum recursion depth exceeded while getting the repr of an object"
  | unshown .tooLong =>
    some ("Exceeds the limit (" ++ toString Json.shownDigits ++ " digits) for integer string " ++
      "conversion; use sys.set_int_max_str_digits() to increase the limit")
  | disk f => f.message?
  | _ => none

end Fault

/-- The value of a check, or the fault of data of the wrong shape. -/
def Checked.orInvalid {α : Type} (what : Model) : Checked α → Except Fault α
  | .good a => .ok a
  | .bad mistakes => .error (.invalid what mistakes)

end Gatehouse
