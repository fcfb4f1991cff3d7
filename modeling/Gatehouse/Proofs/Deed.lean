import Gatehouse.Operation
import Gatehouse.Proofs.Course
import Gatehouse.Proofs.Desk

/-! Everything that operations do to the shared state, in single deeds. A deed says when it can be
    done: which reply the turn began with, which verdict was reached just before, which operation is
    at work. All that is true of the state at all times is read off this list: it is enough that no
    deed breaks it. -/

namespace Gatehouse

namespace Reply

/-- What a reply amounts to: an answer, or the fault that breaks the work off. -/
def outcome : Reply → Except Fault Answer
  | received status body room => Service.classify status body room
  | timedOut => .ok (.failure ⟨.timeout, Service.timedOut, none, none⟩)
  | disturbed _ => .ok (.failure ⟨.network, Service.networkError, none, none⟩)
  | broke f => .error (.foreign f)

/-- The answer that a reply amounts to. There is none where the work is broken off. -/
def answer? (r : Reply) : Option Answer := r.outcome.toOption

/-- Whether a reply rejects the credential. -/
def isRejection (r : Reply) : Bool := r.answer?.any Answer.isRejection

theorem outcome_of_answer? {r : Reply} {a : Answer} (h : r.answer? = some a) :
    r.outcome = .ok a := by
  unfold answer? at h
  cases hr : r.outcome with
  | error f => simp [hr, Except.toOption] at h
  | ok b =>
    rw [hr] at h
    rw [Option.some.inj h]

theorem answer?_of_outcome {r : Reply} {f : Fault} (h : r.outcome = .error f) :
    r.answer? = none := by
  rw [answer?, h]
  rfl

theorem isRejection_of_answer? {r : Reply} {a : Answer} (h : r.answer? = some a) :
    r.isRejection = a.isRejection := by
  simp [isRejection, h]

theorem not_isRejection_of_outcome {r : Reply} {f : Fault} (h : r.outcome = .error f) :
    r.isRejection = false := by
  simp [isRejection, answer?_of_outcome h]

end Reply

/-- A request is the one that a call makes in the state `s`. -/
structure Request.IsFor (setup : Setup) (c : Call) (s : State) (q : Request) : Prop where
  method : q.method = Text.upper c.method
  url : q.url = Service.url setup.settings c.path
  credential : q.credential = s.stored
  body : Service.bodyOf c.payload = .ok q.body
  params : Service.paramsOf setup.room c.params = .ok q.params

/-- The call that looks the user up. -/
def Gate.userCall : Call := ⟨"GET", userPath, .null, .null⟩

/-- The call that looks up whether the security PIN is set. -/
def Gate.pinCall : Call := ⟨"GET", pinPath, .null, .null⟩

/-- The call of a login. -/
def Visit.loginCall (username password : Json) : Call :=
  ⟨"POST", "/v1/auth/login", .obj [("username", username), ("password", password)], .null⟩

/-- The call that tells the service about a sign out. -/
def Visit.logoutCall : Call := ⟨"POST", "/v1/auth/logout", .null, .null⟩

/-- A way of the gate from the state `begun` to a verdict on a visit, which it reaches in the state
    `done`: the exchanges on it are the lookups that it made. A walk that a rejection has started
    makes its lookups without leading on to the login route once more. -/
def Evaluation (setup : Setup) (v : Verdict) (begun : State) (lookups : List (Exchange State))
    (done : State) : Prop :=
  ∃ toLogin, (toLogin = setup.toLogin ∨ toLogin = pure ()) ∧
    (Gate.verdictOn setup (fun c => Service.call setup toLogin c false) v.route begun).Course
      lookups done (.ok v)

namespace State

/-- The state after a walk from a route with this path began. -/
def departing (s : State) (path : String) : State :=
  { s with
    navigation := { s.navigation with pending := s.navigation.pending ++ [path] }
    journal := .departed path :: s.journal }

/-- The state after the walk from a route with this path was over. -/
def settling (s : State) (path : String) : State :=
  { s with
    navigation := { s.navigation with pending := s.navigation.pending.filter (· ≠ path) }
    journal := .settled path :: s.journal }

/-- The state after a route was entered. -/
def entering (s : State) (route : Route) : State :=
  { s with
    navigation :=
      { s.navigation with current := some route, history := s.navigation.history ++ [route.path] }
    journal := .entered route.path s.stored :: s.journal }

end State

namespace Operation

/-- Whether an operation is one of a visit: a call, a walk, signing in or signing out. -/
def isVisit : Operation → Bool
  | call .. => true
  | send _ => true
  | endpoint .. => true
  | walk _ => true
  | signIn .. => true
  | signOut => true
  | _ => false

/-- What an operation does at the desk, if that is all it does. -/
def work? (setup : Setup) : Operation → Option (Work Unit)
  | beginSession token => some (Desk.signIn setup.tokenRoom token)
  | endSession => some Desk.signOut
  | setUser data => (User.check data).toOption.map Desk.setUser
  | clearUser => some Desk.clearUser
  | setToken token => some (Desk.setToken setup.tokenRoom token)
  | removeToken => some Desk.removeToken
  | clearStore => some (Desk.access Store.clear)
  | _ => none

end Operation

/-- The login of an operation was granted: the reply to its request has a token in its data. -/
structure Granted (setup : Setup) (op : Operation) (x : Exchange State) (data token : Json) :
    Prop where
  signIn : ∃ username password, op = .signIn username password ∧
    x.request.IsFor setup (Visit.loginCall username password) x.asked
  answer : x.reply.answer? = some (.data data)
  token : Visit.grantedToken? data = some token

/-- A user was looked up with the credential that was stored then, and was found. -/
structure Found (setup : Setup) (x : Exchange State) (data : Json) (user : User) : Prop where
  request : x.request.IsFor setup Gate.userCall x.asked
  credential : x.request.credential.isSome
  answer : x.reply.answer? = some (.data data)
  user : User.check data = .good user

/-- The deeds of an operation in a turn. Exchanges that took place are of kind `X`. -/
inductive Deed (setup : Setup) (X : Exchange State → Prop) (op : Operation) :
    Turn State → State → State → Prop
  | noted {turn s t} : Noted s t → Deed setup X op turn s t
  | requested {turn s c q} : q.IsFor setup c s → Deed setup X op turn s (s.noting [.requested q])
  | judged {turn v begun lookups done} :
      Evaluation setup v begun lookups done → (∀ x ∈ lookups, X x) →
      Deed setup X op turn done (done.noting [.judged v])
  | departed {turn s} (path) : Deed setup X op turn s (s.departing path)
  | settled {turn s} (path) : Deed setup X op turn s (s.settling path)
  /-- A route is entered when the gate has just let the visitor in. -/
  | entered {turn v begun lookups done} (origin) :
      Evaluation setup v begun lookups done → (∀ x ∈ lookups, X x) → v.decision = .allow →
      v.route ∈ setup.table.routes → v.route.redirect? = none →
      Deed setup X op turn ((done.noting [.judged v]).settling origin)
        (((done.noting [.judged v]).settling origin).entering v.route)
  /-- The session ends because the credential was rejected. -/
  | expired {x} : X x → x.reply.isRejection →
      Deed setup X op (.after x) x.resumed (x.resumed.after Desk.signOut)
  /-- The session ends because someone signs out. -/
  | left {turn s} : op = .signOut → Deed setup X op turn s (s.after Desk.signOut)
  /-- A session begins with the token of a login. -/
  | signedIn {x data token} : X x → Granted setup op x data token →
      Deed setup X op (.after x) x.resumed (x.resumed.after (Desk.signIn setup.tokenRoom token))
  /-- The user whom the login named becomes known. -/
  | welcomed {x data token user} : X x → Granted setup op x data token →
      x.resumed.result (Desk.signIn setup.tokenRoom token) = .ok () →
      Visit.grantedUser data = .ok (some user) →
      Deed setup X op (.after x) (x.resumed.after (Desk.signIn setup.tokenRoom token))
        ((x.resumed.after (Desk.signIn setup.tokenRoom token)).after (Desk.setUser user))
  /-- The user who was looked up becomes known. -/
  | recognised {x data user} : X x → Found setup x data user →
      Deed setup X op (.after x) x.resumed (x.resumed.after (Desk.setUser user))
  /-- An operation does its work at the desk at once. -/
  | worked {s work} : op.work? setup = some work → Deed setup X op (.first s) s (s.after work)
  | connected {s} (connections) : op.isVisit = false →
      Deed setup X op (.first s) s { s with connections := connections }

/-- The reply that a sign out waits for has come in. -/
def EndsVisit (setup : Setup) (op : Operation) (x : Exchange State) : Prop :=
  op = .signOut ∧ x.request.IsFor setup Visit.logoutCall x.asked

/-- A rule about what the turns of an operation leave behind, for each turn on its own: no deed
    breaks it, a turn that begins with a reply begins by it, and where the reply ends the session,
    it is enough that the end of the session is by the rule. -/
structure Rule (setup : Setup) (X : Exchange State → Prop) (op : Operation)
    (R : Turn State → State → Prop) : Prop where
  deed : ∀ {turn s t}, R turn s → Deed setup X op turn s t → R turn t
  resumed : ∀ {x}, X x → x.reply.isRejection = false → ¬EndsVisit setup op x →
    R (.after x) x.resumed
  expired : ∀ {x}, X x → x.reply.isRejection → R (.after x) (x.resumed.after Desk.signOut)
  left : ∀ {x t}, X x → x.reply.isRejection = false → EndsVisit setup op x → Noted x.resumed t →
    R (.after x) (t.after Desk.signOut)

end Gatehouse
