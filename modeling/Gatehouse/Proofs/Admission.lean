import Gatehouse.Proofs.Answers
import Gatehouse.Proofs.Undisturbed

/-! Signing in. The reply to a login is read to its end, the token and the user alike, before
    anything is done with it; so a session begins completely or not at all. What begins it is in the
    store and in the session alike from then on, up to a rejection, and a memory keeps it as a
    text. -/

namespace Gatehouse

variable {setup : Setup} {s t : State} {xs ys : List (Exchange State)} {token : Json}

/-! ### Sessions that begin -/

/-- The state after a session has begun with a token, and with a user if the login named one. -/
def State.admitting (s : State) (room : ℕ) (token : Json) : Option User → State
  | some user => (s.after (Desk.signIn room token)).after (Desk.setUser user)
  | none => s.after (Desk.signIn room token)

namespace State

theorem untouched_admitting (s : State) (room : ℕ) (token : Json) (user : Option User) :
    Untouched (s.after (Desk.signIn room token)) (s.admitting room token user) := by
  cases user with
  | none => exact .refl _
  | some user => exact untouched_after_setUser ..

theorem result_signIn_memory (hs : s.store.InMemory) (htoken : token.isPresent) {room : ℕ}
    {text : String} (hshown : token.shown room = .ok text) :
    s.result (Desk.signIn room token) = .ok () := by
  have hset : s.result (Desk.setToken room token) = .ok () := by
    obtain ⟨slots, hstore⟩ := hs
    show (s.store.setToken room s.slot token).result = _
    rw [hstore, Store.setToken_memory htoken hshown]
  simp only [Desk.signIn, result_bind, hset, result_modify]
  rfl

/-- A session begins with its token as it is, and the store has the text of it. -/
theorem credential_admitting (hs : s.store.InMemory) (htoken : token.isPresent) {room : ℕ}
    {text : String} (hshown : token.shown room = .ok text) (user : Option User) :
    (s.admitting room token user).store.InMemory ∧
      (s.admitting room token user).stored = some (.str token.display) ∧
      (s.admitting room token user).session.token = some token := by
  have hsame := s.untouched_admitting room token user
  obtain ⟨hsession, hagrees⟩ := after_signIn_memory hs htoken hshown
  refine ⟨hsame.store ▸ hagrees.memory, ?_, ?_⟩
  · rw [hsame.stored, stored_after_signIn hs htoken hshown]
    simp [Json.present?, Json.isPresent, Json.display_ne_empty htoken]
  · rw [hsame.token, hsession]

theorem navigation_admitting (s : State) (room : ℕ) (token : Json) (user : Option User) :
    (s.admitting room token user).navigation = s.navigation := by
  have hsignedIn : (s.after (Desk.signIn room token)).navigation = s.navigation := by
    obtain ⟨es, -, hafter⟩ := s.after_signIn room token
    rw [hafter]
    rfl
  cases user with
  | none => exact hsignedIn
  | some user =>
    obtain ⟨es, -, hafter⟩ := (s.after (Desk.signIn room token)).after_setUser user
    rw [admitting, hafter, ← hsignedIn]
    rfl

end State

/-! ### Signing in, way by way -/

/-- A call that gives data has made one request, and the reply to it has changed nothing. -/
theorem Setup.send_data {c : Call} {data : Json} (hs : s.store.InMemory)
    (h : (setup.send c s).Course xs t (.ok data)) (hxs : ∀ x ∈ xs, x.resumed.store.InMemory) :
    ∃ x, xs = [x] ∧ x.request.IsFor setup c s ∧ x.asked = s.noting [.requested x.request] ∧
      x.reply.answer? = some (.data data) ∧ t = x.resumed := by
  have rule : Rule setup (fun _ => True) .current fun _ _ => True := .unruled
  have hholds : (setup.send c).Holds (fun _ => True) (fun _ _ => True) (.first s) s _ :=
    send_holds rule trivial fun x _ => Visit.not_endsVisit (by simp) x
  obtain ⟨-, hgives⟩ := hholds.of_course h fun _ _ => trivial
  obtain ⟨x, rfl, -, -, hanswer, ht⟩ := hgives data rfl
  obtain ⟨b, hhandled, hb⟩ := send_course hs h hxs
  cases hhandled with
  | broken => cases hb
  | answered hfor hasked => exact ⟨x, rfl, hfor, hasked, hanswer, ht⟩

theorem Service.finish_data {r : Reply} {data : Json} (h : r.answer? = some (.data data))
    {toLogin : Job Unit} {c : Call} {notify : Bool} :
    finish setup toLogin c notify r s = .ended s (.ok (.data data)) := by
  have hrej : r.isRejection = false := Reply.isRejection_of_answer? h
  rcases finish_apply setup toLogin c notify hrej s with
    ⟨f, hf, -⟩ | ⟨a, u, ha, hfinish, -, hsame⟩
  · simp [Reply.answer?_of_outcome hf] at h
  · obtain rfl : Answer.data data = a := by simpa [h] using ha
    rw [hfinish, hsame rfl]

/-- A request that has gone out is for its call still. -/
theorem Request.IsFor.noting {c : Call} {q : Request} {es : List Event}
    (h : q.IsFor setup c s) : q.IsFor setup c (s.noting es) :=
  ⟨h.method, h.url, h.credential, h.body, h.params⟩

namespace Visit

variable {username password : Json} {x : Exchange State} {admitted : State}
  {pushed : Except Fault (Option Route)}

/-- The token and the user that a reply to a login grants, if it grants a session: it has a token in
    its data that can be shown, and names nobody or a user who is well formed. -/
def grant? (room : ℕ) (r : Reply) : Option (Json × Option User) :=
  match r.answer? with
  | some (.data data) =>
    match grantedToken? data, grantedUser data with
    | some token, .ok user => if (token.shown room).isOk then some (token, user) else none
    | _, _ => none
  | _ => none

theorem grant?_eq_some_iff {room : ℕ} {r : Reply} {user : Option User} :
    grant? room r = some (token, user) ↔ ∃ data, r.answer? = some (.data data) ∧
      grantedToken? data = some token ∧ grantedUser data = .ok user ∧
        (token.shown room).isOk := by
  unfold grant?
  cases r.answer? with
  | none => simp
  | some a =>
    cases a with
    | failure f => simp
    | data v =>
      cases hu : grantedUser v with
      | error f => simp [hu]
      | ok user' =>
        cases ht : grantedToken? v with
        | none => simp [ht]
        | some token' => grind

theorem isPresent_of_grant? {room : ℕ} {r : Reply} {user : Option User}
    (h : grant? room r = some (token, user)) : token.isPresent := by
  obtain ⟨data, -, htoken, -⟩ := grant?_eq_some_iff.1 h
  exact isPresent_of_grantedToken? htoken

theorem shown_of_grant? {room : ℕ} {r : Reply} {user : Option User}
    (h : grant? room r = some (token, user)) : ∃ text, token.shown room = .ok text := by
  obtain ⟨data, -, -, -, hshown⟩ := grant?_eq_some_iff.1 h
  cases htext : token.shown room with
  | error o => simp [htext, Except.isOk, Except.toBool] at hshown
  | ok text => exact ⟨text, rfl⟩

/-- A sign in has been stopped by a fault before a session could begin. All is as it was, unless the
    login was itself rejected, which ends the session that there was. -/
structure Refused (setup : Setup) (username password : Json) (s : State)
    (xs : List (Exchange State)) (t : State) : Prop where
  once : xs.length ≤ 1
  login : ∀ x ∈ xs, x.request.IsFor setup (loginCall username password) s
  ungranted : ∀ x ∈ xs, grant? setup.tokenRoom x.reply = none
  kept : (∀ x ∈ xs, x.reply.isRejection = false) → t = { s with journal := t.journal }
  expired : ∀ x ∈ xs, x.reply.isRejection → Expired setup (s.noting [.requested x.request]) t

/-- A session has begun in the state `admitted`, with the token that the reply to a login granted,
    and this came of the walk to the landing route. -/
structure Admitted (setup : Setup) (username password : Json) (s : State) (x : Exchange State)
    (token : Json) (admitted : State) (ys : List (Exchange State)) (t : State)
    (pushed : Except Fault (Option Route)) : Prop where
  login : x.request.IsFor setup (loginCall username password) s
  asked : x.asked = s.noting [.requested x.request]
  grant : ∃ user, grant? setup.tokenRoom x.reply = some (token, user) ∧
    admitted = x.resumed.admitting setup.tokenRoom token user
  walk : (setup.walk setup.settings.landingPath admitted).Course ys t pushed

theorem refused_of_send {f : Fault} (hs : s.store.InMemory)
    (h : (setup.send (loginCall username password) s).Course xs t (.error f))
    (hxs : ∀ x ∈ xs, x.Alone) : Refused setup username password s xs t := by
  obtain ⟨b, hhandled, hb⟩ := Setup.send_course hs h fun x hx => (hxs x hx).memory
  cases hhandled with
  | stopped => exact ⟨by simp, by simp, by simp, fun _ => rfl, by simp⟩
  | @broken x g hfor hasked hbroke =>
    have hresumed : x.resumed = s.noting [.requested x.request] :=
      (hxs x (List.mem_singleton_self x)).same.trans hasked
    refine ⟨by simp, by simpa using hfor, ?_, fun _ => ?_, ?_⟩
    · simp [grant?, Reply.answer?_of_outcome hbroke]
    · rw [hresumed]
      rfl
    · simp [Reply.not_isRejection_of_outcome hbroke]
  | @answered x a _ hfor hasked ha hanswered =>
    have hresumed : x.resumed = s.noting [.requested x.request] :=
      (hxs x (List.mem_singleton_self x)).same.trans hasked
    have hrej := Reply.isRejection_of_answer? ha
    cases a with
    | data v => cases hb
    | failure g =>
      refine ⟨by simp, by simpa using hfor, by simp [grant?, ha], fun hno => ?_, ?_⟩
      · rw [hanswered.kept (hrej.symm.trans (hno x (List.mem_singleton_self x))), hresumed]
        rfl
      · rintro y hy hyes
        obtain rfl := List.mem_singleton.1 hy
        exact hresumed ▸ hanswered.expired (hrej ▸ hyes)

theorem refused_of_data {data : Json} (hx : x.Alone)
    (hfor : x.request.IsFor setup (loginCall username password) s)
    (hasked : x.asked = s.noting [.requested x.request])
    (hanswer : x.reply.answer? = some (.data data)) 
    (hno : grant? setup.tokenRoom x.reply = none) :
    Refused setup username password s [x] x.resumed := by
  have hrej : x.reply.isRejection = false := Reply.isRejection_of_answer? hanswer
  refine ⟨by simp, by simpa using hfor, by simpa using hno, fun _ => ?_, by simp [hrej]⟩
  rw [hx.same, hasked]
  rfl

/-- What a sign in does once a session has begun. -/
def land (setup : Setup) : Job (Option User) := do
  let _ ← setup.walk setup.settings.landingPath
  Flow.read (·.session.currentUser)

/-- What a sign in does with the data of its login. -/
def receive (setup : Setup) (data : Json) : Job (Option User) := do
  match grantedToken? data with
  | none => Flow.stop (.failed noToken)
  | some token =>
    let user ← Flow.ofExcept (grantedUser data)
    Job.desk (Desk.signIn setup.tokenRoom token)
    match user with
    | some user => Job.desk (Desk.setUser user)
    | none => pure ()
    land setup

theorem signIn_eq (setup : Setup) (username password : Json) :
    signIn setup username password =
      setup.send (loginCall username password) >>= receive setup := rfl

/-- A reply that grants a session begins it at once. -/
theorem receive_granted {r : Reply} {data : Json} {user : Option User} (hs : s.store.InMemory)
    (hanswer : r.answer? = some (.data data)) 
    (hgrant : grant? setup.tokenRoom r = some (token, user)) :
    receive setup data s = land setup (s.admitting setup.tokenRoom token user) := by
  obtain ⟨text, hshown⟩ := shown_of_grant? hgrant
  obtain ⟨data', hanswer', htoken, huser, -⟩ := grant?_eq_some_iff.1 hgrant
  obtain rfl : data = data' := by simpa [hanswer] using hanswer'
  have hbegins := State.result_signIn_memory hs (isPresent_of_grantedToken? htoken) hshown
  simp only [receive, htoken, huser]
  rw [Flow.bind_of_ok (t := s) (a := user) rfl, Job.desk_bind, hbegins]
  cases user with
  | none => rfl
  | some user =>
    dsimp only
    rw [Job.desk_bind, State.result_setUser]
    rfl

theorem receive_refused {r : Reply} {data : Json} (hs : s.store.InMemory)
    (hanswer : r.answer? = some (.data data)) (hno : grant? setup.tokenRoom r = none) :
    ∃ f, receive setup data s = .ended s (.error f) := by
  unfold receive
  cases htoken : grantedToken? data with
  | none => exact ⟨_, rfl⟩
  | some token =>
    cases huser : grantedUser data with
    | error f => exact ⟨f, rfl⟩
    | ok user =>
      cases hshown : token.shown setup.tokenRoom with
      | ok text => simp [grant?, hanswer, htoken, huser, hshown, Except.isOk, Except.toBool] at hno
      | error o =>
        obtain ⟨hresult, hafter⟩ :=
          State.signIn_memory_unshown hs (isPresent_of_grantedToken? htoken) hshown
        refine ⟨.unshown o, ?_⟩
        dsimp only
        rw [Flow.bind_of_ok (t := s) (a := user) rfl, Job.desk_bind, hresult, hafter]

/-- A sign in on its own is refused, or a session begins with the token that the login granted, and
    a walk to the landing route follows. The result is the user who is current in the end. -/
theorem signIn_course {r : Except Fault (Option User)} (hs : s.store.InMemory)
    (h : (signIn setup username password s).Course xs t r) (hxs : ∀ x ∈ xs, x.Alone) :
    (Refused setup username password s xs t ∧ ∃ f, r = .error f) ∨
      ∃ x token admitted ys pushed, xs = x :: ys ∧
        Admitted setup username password s x token admitted ys t pushed ∧
        r = pushed.map fun _ => t.session.currentUser := by
  rw [signIn_eq] at h
  rcases Flow.course_bind_iff.1 h with ⟨f, hsend, rfl⟩ | ⟨ys, zs, u, data, rfl, hsend, hrest⟩
  · exact .inl ⟨refused_of_send hs hsend hxs, f, rfl⟩
  have hys : ∀ x ∈ ys, x.Alone := (List.forall_mem_append.1 hxs).1
  obtain ⟨x, rfl, hfor, hasked, hanswer, rfl⟩ :=
    Setup.send_data hs hsend fun x hx => (hys x hx).memory
  have hx := hys x (List.mem_singleton_self x)
  cases hgrant : grant? setup.tokenRoom x.reply with
  | none =>
    obtain ⟨f, hstops⟩ : ∃ f, receive setup data x.resumed = .ended x.resumed (.error f) :=
      receive_refused hx.memory hanswer hgrant
    rw [hstops] at hrest
    obtain ⟨rfl, rfl, rfl⟩ := Progress.course_ended_iff.1 hrest
    exact .inl ⟨refused_of_data hx hfor hasked hanswer hgrant, f, rfl⟩
  | some grant =>
    obtain ⟨token, user⟩ := grant
    rw [receive_granted hx.memory hanswer hgrant] at hrest
    obtain ⟨pushed, hwalk, rfl⟩ := Flow.course_bind_read_iff.1 hrest
    exact .inr ⟨x, token, _, zs, pushed, rfl, ⟨hfor, hasked, ⟨user, hgrant, rfl⟩, hwalk⟩, rfl⟩

/-- When the reply to a login grants a session, the sign in goes on from where it has begun. -/
theorem signIn_granted {q : Request} {resume : Reply → State → Progress State (Except Fault Value)}
    {r : Reply} {user : Option User} (hs : s.store.InMemory)
    (hwaits : Operation.run setup (.signIn username password) s = .waits t q resume)
    (hgrant : grant? setup.tokenRoom r = some (token, user)) :
    t = s.noting [.requested q] ∧ resume r t =
      (do return .user (← land setup) : Job Value) (t.admitting setup.tokenRoom token user) := by
  obtain ⟨data, hanswer, -⟩ := grant?_eq_some_iff.1 hgrant
  rcases Service.call_memory setup hs (loginCall username password) true with
    ⟨f, -, hcall⟩ | ⟨q', -, hcall⟩
  · simp only [Operation.run, signIn_eq, Setup.send, Flow.bind_apply, hcall] at hwaits
    cases hwaits
  simp only [Operation.run, signIn_eq, Setup.send, Flow.bind_apply, hcall] at hwaits
  cases hwaits
  refine ⟨rfl, ?_⟩
  have hmemory : (s.noting [.requested q]).store.InMemory := hs
  simp only [Service.finish_data hanswer, Progress.andThen_ended]
  show (receive setup data (s.noting [.requested q])).andThen _ = _
  rw [receive_granted hmemory hanswer hgrant]
  rfl

namespace Admitted

variable (h : Admitted setup username password s x token admitted ys t pushed)

include h

theorem begins (hx : x.resumed.store.InMemory) :
    admitted.store.InMemory ∧ admitted.stored = some (.str token.display) ∧
      admitted.session.token = some token := by
  obtain ⟨user, hgrant, rfl⟩ := h.grant
  obtain ⟨text, hshown⟩ := shown_of_grant? hgrant
  exact State.credential_admitting hx (isPresent_of_grant? hgrant) hshown user

/-- The session goes on as it has begun, or a rejection has ended it. -/
theorem lasts (hx : x.resumed.store.InMemory) (hys : ∀ y ∈ ys, y.Alone) :
    ((∀ y ∈ ys, y.reply.isRejection = false) ∧ t.stored = some (.str token.display) ∧
      t.session.token = some token) ∨
    (∃ y ∈ ys, y.reply.isRejection) ∧ t.stored = none ∧ t.session = ⟨none, none⟩ := by
  obtain ⟨-, hstored, htoken⟩ := h.begins hx
  by_cases hrej : ∃ y ∈ ys, y.reply.isRejection
  · have hclosed := Setup.walk_closed h.walk hys hrej
    exact .inr ⟨hrej, hclosed.stored, hclosed.session⟩
  · have hno : ∀ y ∈ ys, y.reply.isRejection = false := by simpa using hrej
    have hsince := Setup.walk_since h.walk fun y hy => ⟨hys y hy, hno y hy⟩
    exact .inl ⟨hno, hsince.untouched.stored.trans hstored, hsince.untouched.token.trans htoken⟩

end Admitted

end Visit

namespace Pool

/-- A visitor with a token signs in anew, and is granted another one. -/
def grantedAnew : List Move :=
  [.start (.signIn (.str "alice") (.str "secret")), .reply 0 (.success "\x7b\"token\":\"b\"\x7d")]

/-- The status of the security PIN, which is set. -/
def pinIsSet : Move := .reply 0 (.success "\x7b\"has_security_pin\":true\x7d")

/-- The sign in waits for that status last, and then comes to its end. -/
theorem grantedAnew_over :
    Sequential .default (openedWith "a") (grantedAnew ++ [pinIsSet]) ∧
      ((openedWith "a").run .default grantedAnew).result? 0 = none ∧
      ∃ value, ((openedWith "a").run .default (grantedAnew ++ [pinIsSet])).result? 0 =
        some (.ok value) := by
  have horder : comesInOrder .default (openedWith "a") (grantedAnew ++ [pinIsSet]) := by
    decide +kernel
  have hwaits : (((openedWith "a").run .default grantedAnew).result? 0).isNone := by
    decide +kernel
  have hover : (((openedWith "a").run .default (grantedAnew ++ [pinIsSet])).result? 0).any
      Except.isOk := by decide +kernel
  refine ⟨sequential_of_comesInOrder horder, Option.isNone_iff_eq_none.1 hwaits, ?_⟩
  obtain ⟨r, hr, hok⟩ := (Option.any_eq_true ..).1 hover
  cases r with
  | error f => cases hok
  | ok value => exact ⟨value, hr⟩

/-- Work that lands the visitor leaves the credential alone in its first turn. -/
theorem untouched_landing (setup : Setup) (s : State) :
    Untouched s ((do return .user (← Visit.land setup) : Job Value) s).state := by
  have rule : Rule setup Exchange.Accepted (.walk setup.settings.landingPath) Forbears :=
    forbears_rule
  have hbegun : Forbears (.first s) s := fun _ => .refl s
  have hland : (Visit.land setup).Holds Exchange.Accepted Forbears (.first s) s
      fun _ _ _ => True :=
    .bind (Setup.walk_holds rule hbegun) fun _ _ _ hR _ => .read hR trivial
  have hholds : (do return .user (← Visit.land setup) : Job Value).Holds Exchange.Accepted Forbears
      (.first s) s fun _ _ _ => True :=
    .bind hland fun _ _ _ hR _ => .pure hR trivial
  exact (hholds.keeps.state id).untouched

theorem waits_of_request? {op : Operation}
    (h : (((fresh s).run setup [.start op]).request? 0).isSome) :
    ∃ u q resume, op.run setup s = .waits u q resume := by
  have hstart : (fresh s).run setup [.start op] = _ := start_eq (fresh s) op
  cases hrun : op.run setup s with
  | ended u result =>
    have hover : op.run setup (fresh s).state = .ended u result := hrun
    rw [hstart, hover] at h
    cases h
  | waits u q resume => exact ⟨u, q, resume, rfl⟩

/-- The first operation that waits goes on with the reply that comes in for it. -/
theorem state_of_reply {op : Operation} {q : Request}
    {resume : Reply → State → Progress State (Except Fault Value)}
    (h : op.run setup s = .waits t q resume) (r : Reply) :
    ((fresh s).run setup [.start op, .reply 0 r]).state = (resume r t).state := by
  have hstart : (fresh s).start setup op = ⟨t, [.waiting q resume]⟩ := by
    have hrun : op.run setup (fresh s).state = .waits t q resume := h
    rw [start_eq, hrun]
    rfl
  show (((fresh s).start setup op).reply 0 r).state = _
  rw [hstart]
  rcases reply_cases ⟨t, [.waiting q resume]⟩ 0 r with ⟨hnone, -⟩ | ⟨_, _, hstage, -, hnext⟩
  · simp [request?] at hnone
  · obtain ⟨rfl, rfl⟩ := Stage.waiting.inj (Option.some.inj hstage)
    rw [hnext]

/-- A session begins with the token as the service has granted it, whatever it is, and a memory
    keeps the text of it. So the two agree only where the token is a text. -/
theorem signIn_keeps_text (setup : Setup) (s : State) (hs : s.store.InMemory)
    (username password : Json) (r : Reply) (token : Json) (user : Option User)
    (hasks : (((fresh s).run setup [.start (.signIn username password)]).request? 0).isSome)
    (hgrant : Visit.grant? setup.tokenRoom r = some (token, user)) :
    let t := ((fresh s).run setup [.start (.signIn username password), .reply 0 r]).state
    t.session.token = some token ∧ t.stored = some (.str token.display) ∧
      (t.session.token = t.stored ↔ ∃ text, token = .str text) := by
  intro t
  obtain ⟨u, q, resume, hrun⟩ := waits_of_request? hasks
  obtain ⟨rfl, hresume⟩ := Visit.signIn_granted hs hrun hgrant
  have ht : t = ((do return .user (← Visit.land setup) : Job Value)
      ((s.noting [.requested q]).admitting setup.tokenRoom token user)).state := by
    rw [← hresume]
    exact state_of_reply hrun r
  have huntouched : Untouched ((s.noting [.requested q]).admitting setup.tokenRoom token user) t :=
    ht ▸ untouched_landing setup _
  have hmemory : (s.noting [.requested q]).store.InMemory := hs
  obtain ⟨text, hshown⟩ := Visit.shown_of_grant? hgrant
  obtain ⟨-, hstored, hsession⟩ :=
    State.credential_admitting hmemory (Visit.isPresent_of_grant? hgrant) hshown user
  rw [huntouched.stored, huntouched.token, hstored, hsession]
  refine ⟨rfl, rfl, fun heq => ⟨_, Option.some.inj heq⟩, ?_⟩
  rintro ⟨text, rfl⟩
  rfl

/-- A reply that grants the number five as a token. -/
def grantsFive : Reply := .success "\x7b\"token\":5\x7d"

theorem signIn_keeps_text_five :
    (((openedWith "a").run .default
      [.start (.signIn (.str "alice") (.str "secret"))]).request? 0).isSome ∧
    ∃ token user, Visit.grant? Setup.default.tokenRoom grantsFive = some (token, user) ∧
      let t := ((openedWith "a").run .default
        [.start (.signIn (.str "alice") (.str "secret")), .reply 0 grantsFive]).state
      t.session.token = some token ∧ t.stored = some (.str token.display) ∧
        (t.session.token = t.stored ↔ ∃ text, token = .str text) := by
  have hasks : (((openedWith "a").run .default
      [.start (.signIn (.str "alice") (.str "secret"))]).request? 0).isSome := by decide +kernel
  have hgrants : (Visit.grant? Setup.default.tokenRoom grantsFive).isSome := by decide +kernel
  obtain ⟨⟨token, user⟩, hgrant⟩ := Option.isSome_iff_exists.1 hgrants
  refine ⟨hasks, token, user, hgrant, ?_⟩
  unfold openedWith opened at hasks ⊢
  exact signIn_keeps_text .default _ (State.inMemory_opening ..) (.str "alice") (.str "secret")
    grantsFive token user hasks hgrant

/-- The session and the store do not agree about every token that a login grants. -/
theorem signIn_not_all_agreeing : ¬∀ (setup : Setup) (slots : Record Json) (slot : String)
    (rows : List LogRow) (connections : Connections) (username password : Json) (r : Reply),
    let house := opened (.memory slots) slot rows connections
    ((house.run setup [.start (.signIn username password)]).request? 0).isSome →
      (Visit.grant? setup.tokenRoom r).isSome →
      let t := (house.run setup [.start (.signIn username password), .reply 0 r]).state
      t.session.token = t.stored := by
  intro hall
  have hasks : (((openedWith "a").run .default
      [.start (.signIn (.str "alice") (.str "secret"))]).request? 0).isSome := by decide +kernel
  have hgrants : (Visit.grant? Setup.default.tokenRoom grantsFive).isSome := by decide +kernel
  have hstored : ((openedWith "a").run .default [.start (.signIn (.str "alice") (.str "secret")),
      .reply 0 grantsFive]).state.stored.bind Json.text? = some "5" := by decide +kernel
  have htoken : (((openedWith "a").run .default [.start (.signIn (.str "alice") (.str "secret")),
      .reply 0 grantsFive]).state.session.token.bind Json.text?).isNone := by decide +kernel
  unfold openedWith at hasks hstored htoken
  have hagree := hall .default _ _ _ _ _ _ grantsFive hasks hgrants
  rw [hagree, hstored] at htoken
  cases htoken

end Pool

end Gatehouse
