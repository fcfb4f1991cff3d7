import Gatehouse.Proofs.Twins

/-! Calls, the gate, walks and visits make twins of twins. None of them looks into a token or a
    payload, and of the replies only that to a login holds a token, which nobody but a sign in asks
    for; so whatever else depends on an answer is the same for both. -/

namespace Gatehouse

/-! ### Replies -/

namespace Record

variable {α : Type} {name key : String} (r : Record Json) (v : Json)

theorem required_put_of_ne (check : Json → Checked α) (h : name ≠ key) :
    (r.put key v).required name check = r.required name check := by
  simp only [required, get?_put_of_ne r v h]

theorem optional_put_of_ne (absent : α) (check : Json → Checked α) (h : name ≠ key) :
    (r.put key v).optional name absent check = r.optional name absent check := by
  simp only [optional, get?_put_of_ne r v h]

/-- The fields with other names do not show what was written under a name. -/
theorem without_put {names : List String} (h : key ∈ names) :
    (r.put key v).without names = r.without names := by
  induction r with
  | nil => simp [put, without, h]
  | cons e r ih =>
    obtain ⟨k, u⟩ := e
    by_cases hk : k = key
    · subst hk
      simp [put, without, h]
    · simp only [without] at ih ⊢
      rw [put, if_neg hk, List.filter_cons, List.filter_cons, ih]

end Record

/-- The data of an envelope is what stands there, and nothing else depends on it. -/
theorem Envelope.check_put_data (fields : Record Json) (v : Json) :
    check (.obj (fields.put "data" v)) =
      (check (.obj (fields.put "data" .null))).map fun e => { e with data := v } := by
  have hdata : ∀ v, (fields.put "data" v).optional "data" .null Checked.good = .good v := by
    intro v
    simp [Record.optional, Checked.within]
  simp only [check, Json.fields, Checked.andThen, hdata,
    Record.required_put_of_ne fields _ _ (show "code" ≠ "data" by decide),
    Record.optional_put_of_ne fields _ _ _ (show "message" ≠ "data" by decide),
    Record.without_put fields _ (show "data" ∈ fieldNames by decide)]
  cases fields.required "code" Field.whole <;>
    cases fields.optional "message" "" Field.text <;> rfl

namespace Service

section

variable {status : Int} {body body' : ByteArray} {fields : Record Json}

/-- Two envelopes that differ in the token of their data are both of the same kind, so both report a
    success or neither does. -/
theorem classifyEnvelope_twin {v w : Json} (hvw : v.GrantTwin w)
    (hbody : Json.Dialect.document.readBytes? body = some (.obj (fields.put "data" v)))
    (hbody' : Json.Dialect.document.readBytes? body' = some (.obj (fields.put "data" w))) :
    (classifyEnvelope status body).Twin (classifyEnvelope status body') := by
  unfold classifyEnvelope envelope?
  rw [hbody, hbody', Option.bind_some, Option.bind_some, Envelope.check_put_data fields v,
    Envelope.check_put_data fields w]
  cases Envelope.check (.obj (fields.put "data" .null)) with
  | bad found => exact .same _
  | good e =>
    -- whether the envelope reports a success does not depend on its data
    by_cases hok : e.isSuccess
    · have hok' : ∀ v, Envelope.isSuccess { e with data := v } := fun _ => hok
      simp only [Checked.map, Checked.toOption, hok', if_true]
      exact .data hvw
    · have hok' : ∀ v, ¬Envelope.isSuccess { e with data := v } := fun _ => hok
      simp only [Checked.map, Checked.toOption, hok']
      exact .same _

/-- The text of a failure does not come from the data. -/
theorem messageIn?_put_data {v w : Json}
    (hbody : Json.Dialect.document.readBytes? body = some (.obj (fields.put "data" v)))
    (hbody' : Json.Dialect.document.readBytes? body' = some (.obj (fields.put "data" w))) :
    messageIn? body' = messageIn? body := by
  simp only [messageIn?, hbody, hbody',
    Record.get?_put_of_ne fields _ (show "message" ≠ "data" by decide)]

end

/-- Replies that differ in the token of their data have answers that differ no more. -/
theorem classify_twin {status status' : Int} {body body' : ByteArray} {room room' : ℕ}
    (h : (Reply.received status body room).Twin (.received status' body' room')) :
    Outcome.Twin Answer.Twin (classify status body room) (classify status' body' room') := by
  obtain ⟨fields, data, ha, hb, hbody, hbody'⟩ := h
  unfold classify
  split
  · exact .ok (classifyEnvelope_twin (.tokens data ha hb) hbody hbody')
  · have hsame : classifyStatus status body' room = classifyStatus status body room := by
      rw [classifyStatus, bodyMessage, messageIn?_put_data hbody hbody']
      rfl
    rw [hsame]
    cases classifyStatus status body room with
    | error f => exact .error f
    | ok a => exact .ok (.same a)

end Service

variable {setup : Setup}

/-! ### Calls -/

theorem Call.Twin.refl (c : Call) : c.Twin c := ⟨rfl, rfl, .same _, rfl⟩

/-- Two answers to a call differ in no more than a token, and only where the method is that of a
    login. -/
structure Answer.TwinFor (method : String) (a a' : Answer) : Prop where
  twin : a.Twin a'
  same : method ≠ "POST" → a = a'

namespace Service

variable {toLogin : Job Unit} {c c' : Call} {a a' : Answer}

/-- Payloads that can be written both give a body, and the bodies are all that differs. -/
theorem bodyOf_twin {v w : Json} (h : v.PayloadTwin w) :
    Outcome.Twin (fun text text' => text'.isSome = text.isSome) (bodyOf v) (bodyOf w) := by
  cases h with
  | same =>
    cases bodyOf v with
    | error f => exact .error f
    | ok text => exact .ok rfl
  | written hv hw hvtext hwtext =>
    obtain ⟨text, hvtext⟩ := Option.isSome_iff_exists.1 hvtext
    obtain ⟨text', hwtext⟩ := Option.isSome_iff_exists.1 hwtext
    have hbody : ∀ {v text}, v ≠ .null → Json.document? v = some text →
        bodyOf v = .ok (some text) := by
      intro v text hv htext
      cases v <;> simp_all [bodyOf]
    rw [hbody hv hvtext, hbody hw hwtext]
    exact .ok rfl

/-- Calls that differ in their payloads ask with requests that differ in credential and body. -/
theorem requestOf_twin (h : c.Twin c') :
    Job.Twin setup (fun q q' : Request => q.Twin q' ∧ q.method = c.method) (requestOf setup c)
      (requestOf setup c') := by
  refine .bind_eq (.read fun s s' hs => by rw [hs.connections]) fun held => ?_
  dsimp only
  split
  · exact .stop_bind ..
  · rw [h.method, h.path, h.params]
    refine .bind .token fun credential credential' hcredential => ?_
    refine .bind (.ofExcept (bodyOf_twin h.payload)) fun body body' hbody => ?_
    exact .bind_eq (.ofExcept_self _) fun params =>
      .pure ⟨⟨rfl, rfl, hcredential, hbody, rfl, rfl⟩, rfl⟩

theorem exchange_twin {q q' : Request} (h : q.Twin q') :
    Job.Twin setup (Reply.TwinFor setup q) (exchange q) (exchange q') := by
  refine .bind_eq (.read fun s s' hs => by rw [hs.connections]) fun isOpen => ?_
  split
  · exact .bind_eq (.record (.requested h)) fun _ => .ask h
  · exact .stop _

/-- Only the reply to a login may differ, and there only in a token. -/
theorem answerTo_twin (h : c.Twin c') {q : Request} {r r' : Reply} (hr : r.TwinFor setup q r') :
    Job.Twin setup (Answer.TwinFor q.method) (answerTo c r) (answerTo c' r') := by
  rcases hr with rfl | ⟨⟨hmethod, -⟩, hr⟩
  · have hsame : ∀ a, Answer.TwinFor q.method a a := fun a => ⟨.same a, fun _ => rfl⟩
    cases r with
    | received status body room =>
      exact .ofExcept ((Outcome.Twin.refl _).mono fun a _ h => h ▸ hsame a)
    | timedOut => exact .pure (hsame _)
    | disturbed text =>
      simp only [answerTo, title, h.method, h.path]
      exact .bind_eq (.log ..) fun _ => .pure (hsame _)
    | broke f => exact .stop _
  · obtain ⟨fields, data, ha, hb, hbody, hbody'⟩ := hr
    refine .ofExcept ?_
    exact (classify_twin (.tokens fields data ha hb hbody hbody')).mono
      fun a a' h => ⟨h, (absurd hmethod ·)⟩

/-- What a call does with a failure is told by the failure, and failures hold no token. -/
theorem conclude_twin (hlogin : Job.Twin setup Eq toLogin toLogin) (h : c.Twin c')
    (ha : a.Twin a') {V : Answer → Answer → Prop} (hV : V a a') :
    Job.Twin setup V (conclude setup toLogin c a) (conclude setup toLogin c' a') := by
  have hexpire : Job.Twin setup Eq (expire setup toLogin) (expire setup toLogin) :=
    .bind_eq .signOut fun _ => .bind_eq (.announce _) fun _ => hlogin
  simp only [conclude, title, h.method, h.path, ha.failure?]
  split
  · exact .pure hV
  · split
    · exact .bind_eq hexpire fun _ => .bind_eq (.log ..) fun _ => .pure hV
    · exact .bind_eq (.log ..) fun _ => .pure hV

theorem tell_twin (notify : Bool) (ha : a.Twin a') :
    Job.Twin setup Eq (tell setup notify a) (tell setup notify a') := by
  simp only [tell, ha.failure?]
  split
  · split
    · exact .announce _
    · exact .pure rfl
  · exact .pure rfl

/-- Calls that differ in their payloads have answers that differ in no more than a token. -/
theorem call_twin (hlogin : Job.Twin setup Eq toLogin toLogin) (h : c.Twin c') (notify : Bool) :
    Job.Twin setup (Answer.TwinFor (Text.upper c.method)) (call setup toLogin c notify)
      (call setup toLogin c' notify) := by
  have hupper : Call.Twin { c with method := Text.upper c.method }
      { c' with method := Text.upper c'.method } :=
    ⟨congrArg Text.upper h.method, h.path, h.payload, h.params⟩
  refine .bind (requestOf_twin hupper) fun q q' hq => ?_
  refine .bind (exchange_twin hq.1) fun r r' hr => ?_
  refine .bind (answerTo_twin hupper hr) fun a a' ha => ?_
  refine .bind (conclude_twin hlogin hupper ha.twin ha) fun b b' hb => ?_
  rw [hq.2] at hb
  exact .bind_eq (tell_twin notify hb.twin) fun _ => .pure hb

end Service

/-! ### The gate and walks -/

/-- Lookups that are made twice have the same answers. -/
def LooksAlike (setup : Setup) (ask : Call → Job Answer) : Prop :=
  ∀ path, Job.Twin setup Eq (ask ⟨"GET", path, .null, .null⟩) (ask ⟨"GET", path, .null, .null⟩)

/-- A lookup is no login, so the answers to it hold no token that anyone would grant. -/
theorem Service.looksAlike {toLogin : Job Unit} (hlogin : Job.Twin setup Eq toLogin toLogin) :
    LooksAlike setup fun c => call setup toLogin c false := by
  refine fun path => (call_twin hlogin (.refl _) false).mono fun a a' ha => ha.same ?_
  rw [Text.upper_get]
  decide

namespace Gate

variable {ask : Call → Job Answer} (hask : LooksAlike setup ask)

theorem readData_twin {α : Type} (title : String) (check : Json → Checked α) (a : Answer) :
    Job.Twin setup Eq (readData title check a) (readData title check a) := by
  unfold readData
  split
  · exact .pure rfl
  · split
    · exact .pure rfl
    · exact .bind_eq (.log ..) fun _ => .pure rfl

include hask

theorem checkRole_twin (route : Route) (role : Role) :
    Job.Twin setup Eq (checkRole setup ask route role) (checkRole setup ask route role) := by
  refine .bind_eq (hask _) fun a => .bind_eq (readData_twin _ _ a) ?_
  rintro (_ | user)
  · refine .bind_eq (.log ..) fun _ => ?_
    dsimp only
    split
    · exact .bind_eq (.announce _) fun _ => .pure rfl
    · exact .pure rfl
  · refine .bind_eq (.setUser user) fun _ => ?_
    split
    · exact .pure rfl
    · exact .bind_eq (.log ..) fun _ => .bind_eq (.announce _) fun _ => .pure rfl

theorem checkPin_twin (route : Route) :
    Job.Twin setup Eq (checkPin setup ask route) (checkPin setup ask route) := by
  refine .bind_eq (hask _) fun a => .bind_eq (readData_twin _ _ a) fun status => ?_
  split
  · exact .pure rfl
  · split
    · exact .bind_eq (.log ..) fun _ => .pure rfl
    · split
      · exact .pure rfl
      · exact .pure rfl

theorem roleStep_twin (route : Route) (hasToken : Bool) :
    Job.Twin setup Eq (roleStep setup ask route hasToken) (roleStep setup ask route hasToken) := by
  unfold roleStep
  split
  · exact .bind_eq (checkRole_twin hask ..) fun _ => .pure rfl
  · exact .pure rfl

theorem pinStep_twin (route : Route) (hasToken : Bool) :
    Job.Twin setup Eq (pinStep setup ask route hasToken) (pinStep setup ask route hasToken) := by
  unfold pinStep
  split
  · exact .bind_eq (checkPin_twin hask ..) fun _ => .pure rfl
  · exact .pure rfl

/-- The gate asks whether there is a token, and never which one it is. -/
theorem verdictOn_twin (route : Route) :
    Job.Twin setup Verdict.Twin (verdictOn setup ask route) (verdictOn setup ask route) := by
  refine .bind .token fun token token' htoken => ?_
  have hsome := Json.TokenTwin.isSome htoken
  have hnone : token'.isNone = token.isNone := by
    rw [← Option.not_isSome, ← Option.not_isSome, hsome]
  rw [hsome, hnone]
  split
  · dsimp only
    split
    · exact .bind_eq (.log ..) fun _ => .pure ⟨rfl, htoken, rfl, rfl, rfl⟩
    · exact .pure ⟨rfl, htoken, rfl, rfl, rfl⟩
  · refine .bind_eq (roleStep_twin hask ..) ?_
    rintro ⟨user, _ | decision⟩
    · exact .bind_eq (pinStep_twin hask ..) fun _ => .pure ⟨rfl, htoken, rfl, rfl, rfl⟩
    · exact .pure ⟨rfl, htoken, rfl, rfl, rfl⟩

theorem judge_twin (route : Route) :
    Job.Twin setup Verdict.Twin (judge setup ask route) (judge setup ask route) :=
  .bind (verdictOn_twin hask route) fun _ _ h => .bind_eq (.record (.judged h)) fun _ => .pure h

end Gate

namespace Walk

variable {ask : Call → Job Answer}

theorem change_twin (f : Navigation → Navigation) : Job.Twin setup Eq (change f) (change f) :=
  .change fun _ _ h => ⟨h.store, h.slot, h.token, h.user, h.connections, congrArg f h.navigation,
    h.journal⟩

/-- The entry records what is stored, so the records are twins. -/
theorem enter_twin (route : Route) : Job.Twin setup Eq (enter route) (enter route) := by
  refine .bind_eq (.read fun s s' hs => by rw [hs.navigation]) fun here => ?_
  split
  · exact .pure rfl
  · refine .bind_eq (change_twin _) fun _ => .bind (.read fun _ _ hs => hs.stored) ?_
    exact fun _ _ hstored => .bind_eq (.record (.entered _ hstored)) fun _ => .log ..

variable (hask : LooksAlike setup ask)

include hask

theorem onward_twin (route : Route) :
    Job.Twin setup Eq (onward setup ask route) (onward setup ask route) := by
  unfold onward
  split
  · exact .pure rfl
  · refine .bind (Gate.judge_twin hask route) fun verdict verdict' h => ?_
    rw [h.decision]
    split
    · exact .pure rfl
    · exact .bind_eq (.log ..) fun _ => .pure rfl

/-- Redirects lead to the same route, and to the same fault if they lead nowhere. -/
theorem follow_twin (left : Nat) (route : Route) :
    Job.Twin setup Eq (follow setup ask left route) (follow setup ask left route) := by
  induction left generalizing route with
  | zero =>
    refine .bind_eq (onward_twin hask route) ?_
    rintro (_ | target)
    · exact .pure rfl
    · exact .stop _
  | succ left ih =>
    refine .bind_eq (onward_twin hask route) ?_
    rintro (_ | target)
    · exact .pure rfl
    · exact .bind_eq (.ofExcept_self _) ih

/-- Walks lead twins to the same place. -/
theorem go_twin (path : String) : Job.Twin setup Eq (go setup ask path) (go setup ask path) := by
  refine .bind_eq (.ofExcept_self _) fun route => ?_
  refine .bind_eq (.read fun s s' hs => hs.navigation.symm) fun navigation => ?_
  split
  · exact .bind_eq (.log ..) fun _ => .pure rfl
  · have hdepart : Job.Twin setup Eq (depart route) (depart route) :=
      .bind_eq (change_twin _) fun _ => .record (.same _)
    have hsettle : Job.Twin setup Eq (settle route) (settle route) :=
      .bind_eq (change_twin _) fun _ => .record (.same _)
    refine .bind_eq hdepart fun _ => ?_
    refine .bind_eq (.followedBy (follow_twin hask ..) hsettle) fun target => ?_
    exact .bind_eq (enter_twin target) fun _ => .pure rfl

end Walk

namespace Setup

/-- The walk to the login route is one of those, and tells its faults in the same words. -/
theorem toLogin_twin : Job.Twin setup Eq setup.toLogin setup.toLogin := by
  unfold toLogin
  split
  · refine .bind (Walk.go_twin (Service.looksAlike (.pure rfl)) _).outcome ?_
    rintro _ _ (f | ha)
    · split
      · exact .pure rfl
      · exact .log ..
      · exact .stop _
    · exact .pure rfl
  · exact .pure rfl

theorem call_twin {c c' : Call} (h : c.Twin c') (notify : Bool) :
    Job.Twin setup Answer.Twin (setup.call c notify) (setup.call c' notify) :=
  (Service.call_twin toLogin_twin h notify).mono fun _ _ ha => ha.twin

theorem judge_twin (route : Route) :
    Job.Twin setup Verdict.Twin (setup.judge route) (setup.judge route) :=
  Gate.judge_twin (Service.looksAlike toLogin_twin) route

theorem walk_twin (path : String) : Job.Twin setup Eq (setup.walk path) (setup.walk path) :=
  Walk.go_twin (Service.looksAlike toLogin_twin) path

/-- What a call gives is the same, or data that differ in a token. -/
theorem send_twin {c c' : Call} (h : c.Twin c') :
    Job.Twin setup Json.GrantTwin (setup.send c) (setup.send c') := by
  refine .bind (call_twin h true) ?_
  rintro a _ (_ | hdata)
  · cases a with
    | data v => exact .pure (.same v)
    | failure f => exact .stop _
  · exact .pure hdata

end Setup

/-! ### Visits -/

theorem Endpoint.send_twin {e : Endpoint} {args args' : List Json}
    (h : Option.Rel Call.Twin (e.call? args) (e.call? args')) :
    Job.Twin setup Json.GrantTwin (e.send setup args) (e.send setup args') := by
  unfold Endpoint.send
  generalize e.call? args = c, e.call? args' = c' at h
  cases h with
  | none => exact .stop _
  | some h => exact Setup.send_twin h

namespace Visit

/-- Tokens that are granted are twins, and there is one in both grants or in neither. -/
theorem grantedToken?_twin {v w : Json} (h : v.GrantTwin w) :
    Option.Rel Json.TokenTwin (grantedToken? v) (grantedToken? w) := by
  cases h with
  | same => exact Json.TokenTwin.option_refl _
  | tokens r ha hb =>
    simpa [grantedToken?] using (Json.TokenTwin.texts ha hb).present?

/-- The user that comes with a grant is the same. -/
theorem grantedUser_twin {v w : Json} (h : v.GrantTwin w) : grantedUser w = grantedUser v := by
  cases h with
  | same => rfl
  | tokens r =>
    simp only [grantedUser, Record.get?_put_of_ne r _ (show "user" ≠ "token" by decide)]

/-- Signing in with another password, for another token, is the same sign in to everybody else. -/
theorem signIn_twin {username password username' password' : Json}
    (h : (loginCall username password).Twin (loginCall username' password')) :
    Job.Twin setup Eq (signIn setup username password) (signIn setup username' password') := by
  refine .bind (Endpoint.send_twin (.some h)) fun v w hdata => ?_
  have htoken := grantedToken?_twin hdata
  rw [grantedUser_twin hdata]
  generalize grantedToken? v = token, grantedToken? w = token' at htoken
  cases htoken with
  | none => exact .stop _
  | some htoken =>
    refine .bind_eq (.ofExcept_self _) fun user => .bind_eq (.signIn htoken _) fun _ => ?_
    have hrest : Job.Twin setup Eq
        (do
          let _ ← setup.walk setup.settings.landingPath
          Flow.read (·.session.currentUser) : Job (Option User))
        (do
          let _ ← setup.walk setup.settings.landingPath
          Flow.read (·.session.currentUser)) :=
      .bind_eq (Setup.walk_twin _) fun _ => .read fun s s' hs => hs.currentUser.symm
    cases user with
    | some user => exact .bind_eq (.setUser user) fun _ => hrest
    | none => exact hrest

theorem signOut_twin : Job.Twin setup Eq (signOut setup) (signOut setup) := by
  refine .followedBy (.bind (Endpoint.send_twin (.some (.refl _))).outcome ?_)
    (.bind_eq .signOut fun _ => .bind_eq (Setup.walk_twin _) fun _ => .pure rfl)
  rintro _ _ (f | hdata)
  · split
    · exact .pure rfl
    · split
      · exact .log ..
      · exact .log ..
    · exact .stop _
  · exact .pure rfl

theorem start_twin : Job.Twin setup Eq start start :=
  .bind_eq (.connect _) fun _ =>
    .bind_eq (.read fun _ _ hs => hs.isAuthenticated.symm) fun _ => .log ..

theorem close_twin : Job.Twin setup Eq close close := .bind_eq (.connect _) fun _ => .log ..

end Visit

end Gatehouse
