import Gatehouse.Operation
import Gatehouse.Proofs.Desk

/-! Operations and their parts. Many a property of work is settled part by part: work has it if it
    is put together from parts that have it. Such a property is shown for the smallest parts, for
    calls and for walks; all operations have it then. -/

namespace Gatehouse

/-- Whether an event is a step of a walk: it begins, it settles, or it arrives. -/
def Event.isStep : Event → Bool
  | .departed _ => true
  | .settled _ => true
  | .entered .. => true
  | _ => false

/-- Whether an event tells about something that happened elsewhere: a log row, a notice or a
    verdict. Nothing else is recorded but requests and the steps of walks. -/
def Event.isRemark : Event → Bool
  | .logged _ => true
  | .noticed _ => true
  | .judged _ => true
  | _ => false

/-- The work that operations do at the desk, apart from requests and the steps of walks. -/
inductive Chore : ∀ α : Type, Work α → Prop
  | record {e : Event} : e.isRemark → Chore Unit (Desk.record e)
  | token : Chore (Option Json) Desk.token
  | hasToken : Chore Bool Desk.hasToken
  | setToken (room : Nat) (token : Json) : Chore Unit (Desk.setToken room token)
  | removeToken : Chore Unit Desk.removeToken
  | clear : Chore Unit (Desk.access Store.clear)
  | signIn (room : Nat) (token : Json) : Chore Unit (Desk.signIn room token)
  | signOut : Chore Unit Desk.signOut
  | setUser (user : User) : Chore Unit (Desk.setUser user)
  | clearUser : Chore Unit Desk.clearUser

/-- Notes are remarks. -/
theorem Noted.remarks {s t u : State} (h : Noted t u) (hjournal : t.journal = s.journal) :
    ∃ es, u.journal = es ++ s.journal ∧ ∀ e ∈ es, e.isRemark := by
  obtain ⟨es, hes, rfl⟩ := h
  refine ⟨es, congrArg (es ++ ·) hjournal, fun e he => ?_⟩
  have hnote := hes e he
  cases e <;> first | rfl | cases hnote

/-- Chores leave nothing but remarks in the journal. -/
theorem Chore.remarks {α : Type} {work : Work α} (h : Chore α work) (s : State) :
    ∃ es, (s.after work).journal = es ++ s.journal ∧ ∀ e ∈ es, e.isRemark := by
  cases h with
  | @record e he => exact ⟨[e], rfl, List.forall_mem_singleton.2 he⟩
  | token => exact s.after_token.remarks rfl
  | hasToken => exact s.after_hasToken.remarks rfl
  | setToken room token => exact (s.after_access (·.setToken room s.slot token)).remarks rfl
  | removeToken => exact (s.after_access (·.removeToken s.slot)).remarks rfl
  | clear => exact (s.after_access Store.clear).remarks rfl
  | signIn room token => exact (s.after_signIn room token).remarks rfl
  | signOut => exact s.after_signOut.remarks rfl
  | setUser user => exact (s.after_setUser user).remarks rfl
  | clearUser => exact ⟨[], rfl, by simp⟩

namespace Gate

variable (setup : Setup) (route : Route)

/-- What the check of the role makes of the answer to its lookup. -/
def weighRole (role : Role) (answer : Answer) : Job (Answer × Option Decision) := do
  match ← readData "user information" User.check answer with
  | none =>
    Job.log .guard .error
      ("Role check for " ++ route.path ++ " failed: " ++ answer.failureDescription)
    if !answer.isRejection then setup.announce lookupFailed
    pure (answer, some (.redirect setup.settings.loginPath .userLookupFailed))
  | some user =>
    Job.desk (Desk.setUser user)
    if user.hasRole role then pure (answer, none)
    else
      Job.log .guard .info ("Role " ++ user.role.label ++ " denied for " ++ route.path ++
        " (requires " ++ role.label ++ ")")
      setup.announce noPermission
      pure (answer, some (.redirect setup.settings.landingPath .roleMismatch))

/-- What the check of the security PIN makes of the answer to its lookup. -/
def weighPin (answer : Answer) : Job (Answer × Option Decision) := do
  let status ← readData "security PIN status" PinStatus.check answer
  if answer.isRejection then
    pure (answer, some (.redirect setup.settings.loginPath .credentialRejected))
  else
    match status with
    | none =>
      Job.log .guard .warning ("Security PIN status unavailable, allowing navigation to " ++
        route.path ++ ": " ++ answer.failureDescription)
      pure (answer, none)
    | some status =>
      if !status.isSet && route.path ≠ setup.settings.enrollmentPath then
        pure (answer, some (.redirect setup.settings.enrollmentPath .pinMissing))
      else pure (answer, none)

/-- The check of the role is one call, and what is made of the answer to it. -/
theorem checkRole_eq (ask : Call → Job Answer) (role : Role) :
    checkRole setup ask route role =
      ask ⟨"GET", userPath, .null, .null⟩ >>= weighRole setup route role := rfl

/-- So is the check of the security PIN. -/
theorem checkPin_eq (ask : Call → Job Answer) :
    checkPin setup ask route = ask ⟨"GET", pinPath, .null, .null⟩ >>= weighPin setup route := rfl

end Gate

/-- A property that work has if its parts have it. -/
structure Modular (P : ∀ α : Type, Job α → Prop) : Prop where
  pure : ∀ {α} (a : α), P α (Pure.pure a)
  stop : ∀ {α} (f : Fault), P α (Flow.stop f)
  read : ∀ {α} (f : State → α), P α (Flow.read f)
  bind : ∀ {α β} {work : Job α} {next : α → Job β}, P α work → (∀ a, P β (next a)) →
    P β (work >>= next)
  outcome : ∀ {α} {work : Job α}, P α work → P _ work.outcome
  chore : ∀ {α} {work : Work α}, Chore α work → P α (Job.desk work)
  connect : ∀ f : Connections → Connections,
    P Unit (Flow.change fun s => { s with connections := f s.connections })

namespace Modular

variable {P : ∀ α : Type, Job α → Prop} (hP : Modular P)

include hP

theorem ofExcept {α : Type} (e : Except Fault α) : P α (Flow.ofExcept e) := by
  cases e with
  | ok a => exact hP.pure a
  | error f => exact hP.stop f

theorem followedBy {α : Type} {work : Job α} {last : Job Unit} (h : P α work)
    (hlast : P Unit last) : P α (work.followedBy last) :=
  hP.bind (hP.outcome h) fun r => hP.bind hlast fun _ => hP.ofExcept r

/-- A log row is a remark, so nothing has to be shown for it. -/
theorem log (source : Source) (level : Level) (text : String) :
    P Unit (Job.log source level text) :=
  hP.chore (.record rfl)

theorem announce (setup : Setup) (message : String) : P Unit (setup.announce message) := by
  refine hP.chore (.record ?_)
  split <;> rfl

variable {setup : Setup}

/-! ### Calls -/

section Service

variable {toLogin : Job Unit} (hlogin : P Unit toLogin)

theorem requestOf (c : Call) : P Request (Service.requestOf setup c) := by
  refine hP.bind (hP.read _) fun held => ?_
  have hrest : P Request (do
      let credential ← Job.desk Desk.token
      let body ← Flow.ofExcept (Service.bodyOf c.payload)
      let params ← Flow.ofExcept (Service.paramsOf setup.room c.params)
      Pure.pure ⟨c.method, Service.url setup.settings c.path, credential, body, params,
        setup.settings.timeout⟩) :=
    hP.bind (hP.chore .token) fun _ => hP.bind (hP.ofExcept _) fun _ =>
      hP.bind (hP.ofExcept _) fun _ => hP.pure _
  dsimp only
  split
  · exact hP.bind (hP.stop _) fun _ => hrest
  · exact hrest

/-- Only here are requests recorded and waited for, and both is left to the property. -/
theorem exchange (hrecord : ∀ q, P Unit (Job.record (.requested q)))
    (hask : ∀ q, P Reply (Flow.ask q)) (q : Request) : P Reply (Service.exchange q) := by
  refine hP.bind (hP.read _) fun isOpen => ?_
  split
  · exact hP.bind (hrecord q) fun _ => hask q
  · exact hP.stop _

include hlogin in
/-- An answer may end the session, which is a chore, and then the walk to the login route has to
    have the property. -/
theorem conclude (c : Call) (a : Answer) : P Answer (Service.conclude setup toLogin c a) := by
  have hexpire : P Unit (Service.expire setup toLogin) :=
    hP.bind (hP.chore .signOut) fun _ => hP.bind (hP.announce ..) fun _ => hlogin
  unfold Service.conclude
  split
  · exact hP.pure a
  · dsimp only
    split
    · exact hP.bind hexpire fun _ => hP.bind (hP.log ..) fun _ => hP.pure _
    · exact hP.bind (hP.log ..) fun _ => hP.pure _

theorem answerTo (c : Call) (r : Reply) : P Answer (Service.answerTo c r) := by
  cases r with
  | received status body room => exact hP.ofExcept _
  | disturbed text => exact hP.bind (hP.log ..) fun _ => hP.pure _
  | broke f => exact hP.stop _
  | _ => exact hP.pure _

theorem tell (notify : Bool) (a : Answer) : P Unit (Service.tell setup notify a) := by
  unfold Service.tell
  split
  · split
    · exact hP.announce ..
    · exact hP.pure _
  · exact hP.pure _

include hlogin

/-- Everything that a call does with its reply. -/
theorem finish (c : Call) (notify : Bool) (r : Reply) :
    P Answer (Service.finish setup toLogin c notify r) := by
  refine hP.bind (hP.answerTo ..) fun a => hP.bind (hP.conclude hlogin ..) fun a => ?_
  exact hP.bind (hP.tell ..) fun _ => hP.pure _

/-- A call has a property if its request, its wait and the walk to the login route have it. -/
theorem serviceCall (hexchange : ∀ q, P Reply (Service.exchange q)) (c : Call) (notify : Bool) :
    P Answer (Service.call setup toLogin c notify) :=
  hP.bind (hP.requestOf _) fun q => hP.bind (hexchange q) fun r => hP.finish hlogin _ notify r

end Service

/-- That walk makes no calls that lead on to the login route once more. -/
theorem toLogin (hwalk : ∀ path, P (Option Route) (setup.walkSignedOut path)) :
    P Unit setup.toLogin := by
  unfold Setup.toLogin
  split
  · refine hP.bind (hP.outcome (hwalk _)) fun r => ?_
    split
    · exact hP.pure _
    · exact hP.log ..
    · exact hP.stop _
  · exact hP.pure _

/-! ### Looks at a route -/

section Gate

variable {ask : Call → Job Answer} (hask : ∀ c, P Answer (ask c))

theorem readData {α : Type} (title : String) (check : Json → Checked α) (a : Answer) :
    P (Option α) (Gate.readData title check a) := by
  unfold Gate.readData
  split
  · exact hP.pure _
  · split
    · exact hP.pure _
    · exact hP.bind (hP.log ..) fun _ => hP.pure _

theorem weighRole (route : Route) (role : Role) (a : Answer) :
    P _ (Gate.weighRole setup route role a) := by
  refine hP.bind (hP.readData _ _ a) ?_
  rintro (_ | user)
  · refine hP.bind (hP.log ..) fun _ => ?_
    dsimp only
    split
    · exact hP.bind (hP.announce ..) fun _ => hP.pure _
    · exact hP.pure _
  · refine hP.bind (hP.chore (.setUser user)) fun _ => ?_
    split
    · exact hP.pure _
    · exact hP.bind (hP.log ..) fun _ => hP.bind (hP.announce ..) fun _ => hP.pure _

theorem weighPin (route : Route) (a : Answer) : P _ (Gate.weighPin setup route a) := by
  refine hP.bind (hP.readData _ _ a) fun status => ?_
  split
  · exact hP.pure _
  · split
    · exact hP.bind (hP.log ..) fun _ => hP.pure _
    · split
      · exact hP.pure _
      · exact hP.pure _

include hask

theorem checkRole (route : Route) (role : Role) :
    P _ (Gate.checkRole setup ask route role) :=
  hP.bind (hask _) (hP.weighRole route role)

theorem checkPin (route : Route) : P _ (Gate.checkPin setup ask route) :=
  hP.bind (hask _) (hP.weighPin route)

/-- An evaluation has a property if its lookups have it. -/
theorem verdictOn (route : Route) : P Verdict (Gate.verdictOn setup ask route) := by
  refine hP.bind (hP.chore .token) fun token => ?_
  split
  · dsimp only
    split
    · exact hP.bind (hP.log ..) fun _ => hP.pure _
    · exact hP.pure _
  · refine hP.bind ?_ fun a => ?_
    · unfold Gate.roleStep
      split
      · exact hP.bind (hP.checkRole hask ..) fun _ => hP.pure _
      · exact hP.pure _
    · dsimp only
      split
      · exact hP.pure _
      · refine hP.bind ?_ fun _ => hP.pure _
        unfold Gate.pinStep
        split
        · exact hP.bind (hP.checkPin hask ..) fun _ => hP.pure _
        · exact hP.pure _

theorem judge (route : Route) : P Verdict (Gate.judge setup ask route) :=
  hP.bind (hP.verdictOn hask route) fun _ => hP.bind (hP.chore (.record rfl)) fun _ => hP.pure _

theorem onward (route : Route) : P (Option String) (Walk.onward setup ask route) := by
  unfold Walk.onward
  split
  · exact hP.pure _
  · refine hP.bind (hP.judge hask route) fun verdict => ?_
    split
    · exact hP.pure _
    · exact hP.bind (hP.log ..) fun _ => hP.pure _

/-- However many redirects are followed, each look is one evaluation. -/
theorem follow (left : Nat) (route : Route) : P Route (Walk.follow setup ask left route) := by
  induction left generalizing route with
  | zero =>
    refine hP.bind (hP.onward hask route) ?_
    rintro (_ | target)
    · exact hP.pure _
    · exact hP.stop _
  | succ left ih =>
    refine hP.bind (hP.onward hask route) ?_
    rintro (_ | target)
    · exact hP.pure _
    · exact hP.bind (hP.ofExcept _) ih

/-- A walk has a property if its calls and its steps have it. -/
theorem go (hchange : ∀ f, P Unit (Walk.change f))
    (hstep : ∀ e : Event, e.isStep → P Unit (Job.record e)) (path : String) :
    P (Option Route) (Walk.go setup ask path) := by
  refine hP.bind (hP.ofExcept _) fun route => hP.bind (hP.read _) fun navigation => ?_
  split
  · exact hP.bind (hP.log ..) fun _ => hP.pure _
  · refine hP.bind (hP.bind (hchange _) fun _ => hstep _ rfl) fun _ => ?_
    have hsettle : P Unit (Walk.settle route) := hP.bind (hchange _) fun _ => hstep _ rfl
    refine hP.bind (hP.followedBy (hP.follow hask ..) hsettle) ?_
    intro target
    refine hP.bind (hP.bind (hP.read _) fun here => ?_) fun _ => hP.pure _
    split
    · exact hP.pure _
    · exact hP.bind (hchange _) fun _ => hP.bind (hP.read _) fun _ =>
        hP.bind (hstep _ rfl) fun _ => hP.log ..

end Gate

/-! ### Operations -/

section Operation

variable (hcall : ∀ c notify, P Answer (setup.call c notify))
  (hwalk : ∀ path, P (Option Route) (setup.walk path))

include hcall

theorem send (c : Call) : P Json (setup.send c) :=
  hP.bind (hcall c true) fun _ => hP.ofExcept _

theorem endpoint (e : Endpoint) (args : List Json) : P Json (e.send setup args) := by
  unfold Endpoint.send
  split
  · exact hP.send hcall _
  · exact hP.stop _

include hwalk

/-- Signing in is a call, two chores and a walk. -/
theorem visitSignIn (username password : Json) :
    P (Option User) (Visit.signIn setup username password) := by
  refine hP.bind (hP.endpoint hcall ..) fun data => ?_
  split
  · exact hP.stop _
  · refine hP.bind (hP.ofExcept _) fun user => hP.bind (hP.chore (.signIn _ _)) fun _ => ?_
    have hrest : P (Option User) (do
        let _ ← setup.walk setup.settings.landingPath
        Flow.read (·.session.currentUser)) := hP.bind (hwalk _) fun _ => hP.read _
    split
    · exact hP.bind (hP.chore (.setUser _)) fun _ => hrest
    · exact hrest

/-- Signing out is a call, a chore and a walk, whatever comes of the call. -/
theorem visitSignOut : P Unit (Visit.signOut setup) := by
  refine hP.followedBy (hP.bind (hP.outcome (hP.endpoint hcall ..)) fun r => ?_)
    (hP.bind (hP.chore .signOut) fun _ => hP.bind (hwalk _) fun _ => hP.pure _)
  split
  · exact hP.pure _
  · split
    · exact hP.log ..
    · exact hP.log ..
  · exact hP.stop _

/-- All operations have a property if calls and walks have it. -/
theorem run (op : Operation) : P Value (op.run setup) := by
  have hchore : ∀ {work : Work Unit}, Chore Unit work →
      P Value (Job.desk work >>= fun _ => Pure.pure .nothing) :=
    fun h => hP.bind (hP.chore h) fun _ => hP.pure _
  have hjudge : ∀ route, P Verdict (setup.judge route) :=
    fun route => hP.judge (fun c => hcall c false) route
  cases op with
  | call c notify => exact hP.bind (hcall c notify) fun _ => hP.pure _
  | send c => exact hP.bind (hP.send hcall c) fun _ => hP.pure _
  | endpoint e args => exact hP.bind (hP.endpoint hcall e args) fun _ => hP.ofExcept _
  | walk path => exact hP.bind (hwalk path) fun _ => hP.pure _
  | judgePath path =>
    exact hP.bind (hP.ofExcept _) fun route => hP.bind (hjudge route) fun _ => hP.pure _
  | judgeRoute data =>
    exact hP.bind (hP.ofExcept _) fun route => hP.bind (hjudge route) fun _ => hP.pure _
  | signIn username password =>
    exact hP.bind (hP.visitSignIn hcall hwalk ..) fun _ => hP.pure _
  | signOut => exact hP.bind (hP.visitSignOut hcall hwalk) fun _ => hP.pure _
  | beginSession token => exact hchore (.signIn _ token)
  | endSession => exact hchore .signOut
  | setUser data => exact hP.bind (hP.ofExcept _) fun user => hchore (.setUser user)
  | clearUser => exact hchore .clearUser
  | setToken token => exact hchore (.setToken _ token)
  | getToken => exact hP.bind (hP.chore .token) fun _ => hP.pure _
  | hasToken => exact hP.bind (hP.chore .hasToken) fun _ => hP.pure _
  | removeToken => exact hchore .removeToken
  | clearStore => exact hchore .clear
  | start =>
    refine hP.bind (hP.bind (hP.connect _) fun _ => ?_) fun _ => hP.pure _
    exact hP.bind (hP.read _) fun _ => hP.log ..
  | close =>
    exact hP.bind (hP.bind (hP.connect _) fun _ => hP.log ..) fun _ => hP.pure _
  | connect => exact hP.bind (hP.connect _) fun _ => hP.pure _
  | disconnect => exact hP.bind (hP.connect _) fun _ => hP.pure _
  | cut =>
    refine hP.bind (hP.read _) fun held => ?_
    dsimp only
    split
    · exact hP.bind (hP.stop _) fun _ => hP.bind (hP.connect _) fun _ => hP.pure _
    · exact hP.bind (hP.connect _) fun _ => hP.pure _
  | current => exact hP.bind (hP.read _) fun _ => hP.pure _
  | settings => exact hP.pure _
  | describe subject => exact hP.bind (hP.read _) fun _ => hP.pure _

end Operation

end Modular

end Gatehouse
