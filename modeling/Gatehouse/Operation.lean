import Gatehouse.Visit

/-! The operations that a program can ask for, and the values that they give. -/

namespace Gatehouse

/-- What can be described. -/
inductive Subject where
  | session
  | context
  | router
  | storage
  deriving DecidableEq, Repr

/-- An operation. Data that has to be of some shape is checked when the operation runs. -/
inductive Operation where
  | call (c : Call) (notify : Bool)
  | send (c : Call)
  | endpoint (e : Endpoint) (args : List Json)
  | walk (path : String)
  | judgePath (path : String)
  | judgeRoute (data : Json)
  | signIn (username password : Json)
  | signOut
  | beginSession (token : Json)
  | endSession
  | setUser (data : Json)
  | clearUser
  | setToken (token : Json)
  | getToken
  | hasToken
  | removeToken
  | clearStore
  | start
  | close
  /-- Makes a connection without a word about it. -/
  | connect
  /-- Lets go of the connection without a word about it. -/
  | disconnect
  /-- The connection is closed by someone else; there must be one. -/
  | cut
  | current
  | settings
  | describe (subject : Subject)

/-- What an operation gives. -/
inductive Value where
  | data (v : Json)
  | answer (a : Answer)
  | decision (d : Decision)
  | route (r : Option Route)
  | user (u : Option User)
  | pinStatus (p : PinStatus)
  | settings (s : Settings)
  | session (s : Session)

namespace Value

/-- Nothing to tell. -/
def nothing : Value := data .null

/-- A text. -/
def text (s : String) : Value := data (.str s)

/-- A flag. -/
def flag (b : Bool) : Value := data (.bool b)

end Value

namespace Operation

variable (setup : Setup)

/-- The description of a subject. -/
def description (s : State) : Subject → String
  | .session => s.session.description
  | .context =>
    "<VaultContext base_url=" ++ Text.quoted setup.settings.baseUrl ++ " session=" ++
      s.session.description ++ ">"
  | .router => s.navigation.description
  | .storage => s.store.description

/-- The data of an endpoint as the value that it gives. -/
def valueOf (g : Gives) (v : Json) : Except Fault Value :=
  match g with
  | .data => .ok (.data v)
  | .user => ((User.check v).orInvalid .user).map fun u => .user (some u)
  | .pinStatus => ((PinStatus.check v).orInvalid .pinStatus).map .pinStatus

/-- Runs an operation. -/
def run : Operation → Job Value
  | call c notify => do return .answer (← setup.call c notify)
  | send c => do return .data (← setup.send c)
  | endpoint e args => do Flow.ofExcept (valueOf e.gives (← e.send setup args))
  | walk path => do return .route (← setup.walk path)
  | judgePath path => do return .decision (← setup.judge (← Walk.resolve setup path)).decision
  | judgeRoute data => do
    let route ← Flow.ofExcept ((Route.check data).orInvalid .route)
    return .decision (← setup.judge route).decision
  | signIn username password => do return .user (← Visit.signIn setup username password)
  | signOut => do
    Visit.signOut setup
    return .nothing
  | beginSession token => do
    Job.desk (Desk.signIn setup.tokenRoom token)
    return .nothing
  | endSession => do
    Job.desk Desk.signOut
    return .nothing
  | setUser data => do
    let user ← Flow.ofExcept ((User.check data).orInvalid .user)
    Job.desk (Desk.setUser user)
    return .nothing
  | clearUser => do
    Job.desk Desk.clearUser
    return .nothing
  | setToken token => do
    Job.desk (Desk.setToken setup.tokenRoom token)
    return .nothing
  | getToken => do return .data ((← Job.desk Desk.token).getD .null)
  | hasToken => do return .flag (← Job.desk Desk.hasToken)
  | removeToken => do
    Job.desk Desk.removeToken
    return .nothing
  | clearStore => do
    Job.desk (Desk.access Store.clear)
    return .nothing
  | start => do
    Visit.start
    return .flag true
  | close => do
    Visit.close
    return .nothing
  | connect => do
    Flow.change fun s => { s with connections := s.connections.opened }
    return .flag true
  | disconnect => do
    Flow.change fun s => { s with connections := s.connections.released }
    return .nothing
  | cut => do
    if (← Flow.read (·.connections.held)).isNone then Flow.stop .unconnected
    Flow.change fun s => { s with connections := s.connections.cut }
    return .nothing
  | current => do return .route (← Flow.read (·.navigation.current))
  | settings => return .settings setup.settings
  | describe subject => do return .text (← Flow.read (description setup · subject))

end Operation

end Gatehouse
