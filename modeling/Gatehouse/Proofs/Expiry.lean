import Gatehouse.Proofs.Stranger

/-! The end of a session that the service has rejected, in one step. When a call gets a reply that
    rejects the credential, it goes on to its answer without waiting for anything: the token is
    gone, so the walk to the login route is that of a stranger. Nobody else has a turn before the
    call has told its caller. -/

namespace Gatehouse

variable {setup : Setup} {s t u : State}

/-! ### Sessions that expire -/

/-- The event by which the user is told something. -/
def Setup.noticeOf (setup : Setup) (message : String) : Event :=
  if setup.showsNotices then .noticed ⟨.error, message⟩
  else .logged (Notice.row ⟨.error, message⟩)

theorem Setup.announce_apply (setup : Setup) (message : String) (s : State) :
    setup.announce message s = .ended (s.noting [setup.noticeOf message]) (.ok ()) := rfl

theorem Setup.isNotice_noticeOf (setup : Setup) (message : String) :
    (setup.noticeOf message).isNotice := by
  unfold noticeOf
  split <;> rfl

/-- A notice asks the service for nothing. -/
theorem Event.not_isRequest_of_isNotice {e : Event} (h : e.isNotice) : e.isRequest = false := by
  cases e <;> first | rfl | cases h

/-- Silent events hold no notice and no request. -/
theorem silent_events {es : List Event} (h : ∀ e ∈ es, e.isSilent) :
    es.filter Event.isNotice = [] ∧ ∀ e ∈ es, e.isRequest = false := by
  simp only [Event.isSilent, Bool.and_eq_true, Bool.not_eq_true'] at h
  exact ⟨List.filter_eq_nil_iff.2 fun e he => by simp [(h e he).1], fun e he => (h e he).2⟩

/-- The session of `s` has expired: no token is stored, and nobody is known any more. The user has
    been told so, and of nothing else, and the service has not been asked for anything. Where
    rejections lead on to the login route, the visitor has got to where that walk leads a stranger;
    apart from that nobody has moved. -/
structure Expired (setup : Setup) (s t : State) : Prop where
  store : t.store = (s.store.removeToken s.slot).store
  slot : t.slot = s.slot
  stored : t.stored = none
  session : t.session = ⟨none, none⟩
  connections : t.connections = s.connections
  journal : ∃ es, t.journal = es ++ s.journal ∧
    es.filter Event.isNotice = [setup.noticeOf Service.sessionExpired] ∧
    ∀ e ∈ es, e.isRequest = false
  navigation : if setup.leadsToLogin then
      Moves setup setup.settings.loginPath s.navigation t.navigation
    else t.navigation = s.navigation

namespace Expired

theorem inMemory (h : Expired setup s t) (hs : s.store.InMemory) : t.store.InMemory :=
  h.store ▸ hs.removeToken_store s.slot

theorem hushed (h : Expired setup s t) (htu : Hushed t u) : Expired setup s u := by
  obtain ⟨fs, hfs, rfl⟩ := htu
  obtain ⟨hquiet, hno⟩ := silent_events hfs
  obtain ⟨es, hes, hnotice, hrequest⟩ := h.journal
  refine ⟨h.store, h.slot, h.stored, h.session, h.connections, ⟨fs ++ es, ?_, ?_, ?_⟩, h.navigation⟩
  · simp [hes]
  · rw [List.filter_append, hquiet, hnotice, List.nil_append]
  · exact List.forall_mem_append.2 ⟨hno, hrequest⟩

end Expired

/-- The walk to the login route after a rejection is over at once, and its failure is only
    logged. -/
theorem Setup.toLogin_apply (setup : Setup) (hs : s.Strange) :
    ∃ t, setup.toLogin s = .ended t (.ok ()) ∧ Strolled s t ∧
      if setup.leadsToLogin then
        Moves setup setup.settings.loginPath s.navigation t.navigation
      else t.navigation = s.navigation := by
  unfold toLogin
  cases hleads : setup.leadsToLogin with
  | false => exact ⟨s, rfl, .refl s, rfl⟩
  | true =>
    obtain ⟨t, r, hst, hgo, hmoves, hr⟩ := Walk.go_stranger setup
      (fun c => Service.call setup (pure ()) c false) hs setup.settings.loginPath
    have houtcome : Flow.outcome (setup.walkSignedOut setup.settings.loginPath) s =
        .ended t (.ok r) := by
      rw [Flow.outcome, walkSignedOut, hgo]
      rfl
    simp only [if_true, Flow.bind_of_ok houtcome]
    rcases hr with ⟨route, rfl⟩ | ⟨f, rfl⟩
    · exact ⟨t, rfl, hst, hmoves⟩
    · exact ⟨_, rfl, hst.trans (.of_hushed (.logged t (by decide) ..)), hmoves⟩

theorem State.farewell_isSilent (s : State) : ∀ e ∈ s.farewell, e.isSilent := by
  unfold farewell
  split <;> simp [Event.isSilent, Event.isNotice, Event.isRequest]

/-! ### What cannot be shown -/

namespace Service

theorem shown_eq_error {room : ℕ} {v : Json} {o : Json.Obstacle} (h : v.shown room = .error o) :
    shown room v = .error (.unshown o) := by
  rw [shown, h]
  rfl

theorem shown_eq_ok {room : ℕ} {v : Json} {text : String} (h : v.shown room = .ok text) :
    shown room v = .ok text := by
  rw [shown, h]
  rfl

/-- The message of a reply is either shown, and the reply is classified by its status, or it cannot
    be. -/
theorem classifyStatus_cases (status : Int) (body : ByteArray) (room : ℕ) :
    (∃ v o, messageIn? body = some v ∧ v.shown room = .error o ∧
      classifyStatus status body room = .error (.unshown o)) ∨
    (∀ v o, messageIn? body = some v → v.shown room ≠ .error o) ∧
      ∃ message, classifyStatus status body room = .ok (failureOf status message) := by
  unfold classifyStatus bodyMessage
  cases hmessage : messageIn? body with
  | none => exact .inr ⟨by simp, "", rfl⟩
  | some v =>
    cases hshown : v.shown room with
    | error o =>
      refine .inl ⟨v, o, rfl, hshown, ?_⟩
      simp only [shown_eq_error hshown]
      rfl
    | ok text =>
      refine .inr ⟨?_, text, ?_⟩
      · rintro _ o ⟨⟩ hunshown
        cases hshown.symm.trans hunshown
      · simp only [shown_eq_ok hshown]
        rfl

theorem classify_error {status : Int} {body : ByteArray} {room : ℕ} {f : Fault}
    (h : classify status body room = .error f) : ∃ o, f = .unshown o := by
  unfold classify at h
  split at h
  · cases h
  · rcases classifyStatus_cases status body room with
      ⟨v, o, -, -, hunshown⟩ | ⟨-, message, hshown⟩
    · exact ⟨o, Except.error.inj (h.symm.trans hunshown)⟩
    · cases h.symm.trans hshown

theorem shownParam_error {room : ℕ} {v : Json} {f : Fault} (h : shownParam room v = .error f) :
    ∃ o, f = .unshown o := by
  unfold shownParam at h
  split at h
  · cases h
  · cases h
  · cases hshown : v.shown room with
    | error o =>
      rw [shown_eq_error hshown] at h
      exact ⟨o, (Except.error.inj h).symm⟩
    | ok text =>
      rw [shown_eq_ok hshown] at h
      cases h

/-- Parameters are shown unless one of them cannot be. -/
theorem shownParams_cases (room : ℕ) (params : Record Json) :
    ((∃ e ∈ params, ∃ f, shownParam room e.2 = .error f) ∧
      ∃ o, shownParams room params = .error (.unshown o)) ∨
    (¬∃ e ∈ params, ∃ f, shownParam room e.2 = .error f) ∧
      ∃ texts, shownParams room params = .ok texts := by
  induction params with
  | nil => exact .inr ⟨by simp, [], rfl⟩
  | cons e params ih =>
    obtain ⟨name, v⟩ := e
    cases hv : shownParam room v with
    | error f =>
      obtain ⟨o, rfl⟩ := shownParam_error hv
      exact .inl ⟨⟨(name, v), List.mem_cons_self, _, hv⟩, o, by
        simp only [shownParams, hv]
        rfl⟩
    | ok text =>
      rcases ih with ⟨⟨e, he, hunshown⟩, o, h⟩ | ⟨hno, texts, h⟩
      · refine .inl ⟨⟨e, List.mem_cons_of_mem _ he, hunshown⟩, o, ?_⟩
        simp only [shownParams, hv, h]
        rfl
      · refine .inr ⟨?_, ?_⟩
        · simpa [hv] using hno
        · simp only [shownParams, hv, h]
          exact ⟨_, rfl⟩

end Service

/-- A reply breaks a call off with a fault from outside, or because its message cannot be shown. -/
theorem Reply.outcome_error {r : Reply} {f : Fault} (h : r.outcome = .error f) :
    (∃ g, f = .foreign g) ∨ ∃ o, f = .unshown o := by
  cases r with
  | received status body room => exact .inr (Service.classify_error h)
  | broke g => exact .inl ⟨g, (Except.error.inj h).symm⟩
  | _ => cases h

/-! ### Calls over a memory -/

/-- A fault by which a call over a memory is stopped before it asks for anything. -/
inductive Fault.Hinders : Fault → Prop
  | notOpen : Hinders .notOpen
  | connectionClosed : Hinders .connectionClosed
  /-- The payload has no written form. -/
  | unfit : Hinders .unfit
  /-- The parameters have no names. -/
  | notRecord : Hinders .notRecord
  /-- A parameter cannot be shown. -/
  | unshown (o : Json.Obstacle) : Hinders (.unshown o)

namespace Service

/-- Over a memory, ending the session on a rejection takes one step. -/
theorem expire_apply (setup : Setup) (hs : s.store.InMemory) :
    ∃ t, expire setup setup.toLogin s = .ended t (.ok ()) ∧ Expired setup s t := by
  have hend : s.after Desk.signOut =
      (s.holding (s.store.removeToken s.slot).store ⟨none, none⟩).noting s.farewell :=
    State.after_signOut_memory hs
  obtain ⟨hmemory, hstored, -⟩ := State.vacant_after_signOut hs
  let told := (s.after Desk.signOut).noting [setup.noticeOf sessionExpired]
  have hstrange : told.Strange := ⟨hmemory, hstored⟩
  obtain ⟨t, hlogin, hstroll, hnavigation⟩ := setup.toLogin_apply hstrange
  refine ⟨t, ?_, ?_⟩
  · rw [expire, Job.desk_bind, State.result_signOut_memory hs]
    show (setup.announce sessionExpired >>= fun _ => setup.toLogin) (s.after Desk.signOut) = _
    rw [Flow.bind_of_ok (setup.announce_apply sessionExpired _)]
    exact hlogin
  · obtain ⟨navigation, es, hes, rfl⟩ := hstroll
    obtain ⟨hquiet, hno⟩ := silent_events hes
    obtain ⟨hquiet', hno'⟩ := silent_events s.farewell_isSilent
    have hnotice : (setup.noticeOf sessionExpired).isNotice := setup.isNotice_noticeOf _
    have htold : told.journal = setup.noticeOf sessionExpired :: s.farewell ++ s.journal := by
      simp [told, hend]
    refine ⟨?_, ?_, hstored, ?_, ?_,
      ⟨es ++ setup.noticeOf sessionExpired :: s.farewell, ?_, ?_, ?_⟩, ?_⟩
    · simp [told, hend]
    · simp [told, hend]
    · simp [told, hend]
    · show (s.after Desk.signOut).connections = _
      rw [hend]
      rfl
    · simp [htold]
    · rw [List.filter_append, hquiet, List.filter_cons_of_pos hnotice, hquiet', List.nil_append]
    · refine List.forall_mem_append.2 ⟨hno, List.forall_mem_cons.2 ⟨?_, hno'⟩⟩
      exact Event.not_isRequest_of_isNotice hnotice
    · simpa [told, hend] using hnavigation

/-- What a call over a memory has done when it has dealt with its reply. -/
inductive Concluded (setup : Setup) (r : Reply) (s : State) : State → Except Fault Answer → Prop
  | broken {f} : r.outcome = .error f → Concluded setup r s s (.error f)
  | answered {a t} : r.answer? = some a → a.isRejection = false → Noted s t →
      Concluded setup r s t (.ok a)
  | rejected {a t} : r.answer? = some a → a.isRejection → Expired setup s t →
      Concluded setup r s t (.ok a)

theorem Concluded.inMemory {r : Reply} {b : Except Fault Answer} (h : Concluded setup r s t b)
    (hs : s.store.InMemory) : t.store.InMemory := by
  cases h with
  | broken => exact hs
  | answered _ _ hn => exact hn.untouched.store ▸ hs
  | rejected _ _ hexpired => exact hexpired.inMemory hs

/-- A reply that rejects the credential is dealt with at once, over a memory. -/
theorem finish_rejected (setup : Setup) (hs : s.store.InMemory) (c : Call) (notify : Bool)
    {r : Reply} {a : Answer} (hr : r.answer? = some a) (ha : a.isRejection) :
    ∃ t, finish setup setup.toLogin c notify r s = .ended t (.ok a) ∧ Expired setup s t := by
  obtain ⟨f, rfl⟩ : ∃ f, a = .failure f := by
    cases a with
    | data v => cases ha
    | failure f => exact ⟨f, rfl⟩
  have hk : f.kind = .authentication := by simpa [Answer.isRejection, Answer.failure?] using ha
  have hanswer : answerTo c r s = .ended s (.ok (.failure f)) := by
    rcases answerTo_apply c r s with ⟨f, hf, -⟩ | ⟨b, t, hb, ht, -, hsame⟩
    · simp [Reply.answer?_of_outcome hf] at hr
    · obtain rfl := Option.some.inj (hr.symm.trans hb)
      obtain rfl := hsame (.inr ha)
      exact ht
  obtain ⟨t, hexpire, ht⟩ := expire_apply setup hs
  let row : Event := .logged ⟨.client, .warning, title c ++ " rejected the credential"⟩
  have hconclude : conclude setup setup.toLogin c (.failure f) s =
      .ended (t.noting [row]) (.ok (.failure f)) := by
    simp only [conclude, Answer.failure?, hk, if_true, Flow.bind_apply, hexpire]
    rfl
  have htell : tell setup notify (.failure f) (t.noting [row]) =
      .ended (t.noting [row]) (.ok ()) := by
    simp only [tell, Answer.failure?, hk, ne_eq, not_true, decide_false, Bool.and_false]
    rfl
  refine ⟨t.noting [row], ?_, ht.hushed (.one t (by rfl))⟩
  rw [finish, Flow.bind_of_ok hanswer, Flow.bind_of_ok hconclude, Flow.bind_of_ok htell]
  rfl

/-- Over a memory, every reply is dealt with at once. -/
theorem finish_memory (setup : Setup) (hs : s.store.InMemory) (c : Call) (notify : Bool)
    (r : Reply) :
    ∃ t b, finish setup setup.toLogin c notify r s = .ended t b ∧ Concluded setup r s t b := by
  cases hrej : r.isRejection with
  | true =>
    obtain ⟨a, hr, ha⟩ : ∃ a, r.answer? = some a ∧ a.isRejection := (Option.any_eq_true ..).1 hrej
    obtain ⟨t, hfinish, ht⟩ := finish_rejected setup hs c notify hr ha
    exact ⟨t, _, hfinish, .rejected hr ha ht⟩
  | false =>
    rcases finish_apply setup setup.toLogin c notify hrej s with
      ⟨f, hr, hf⟩ | ⟨a, t, hr, ht, hst, -⟩
    · exact ⟨s, _, hf, .broken hr⟩
    · refine ⟨t, _, ht, .answered hr ?_ hst⟩
      rw [← Reply.isRejection_of_answer? hr, hrej]

theorem hinders_of_bodyOf {payload : Json} {f : Fault} (h : bodyOf payload = .error f) :
    f.Hinders := by
  unfold bodyOf at h
  split at h
  · cases h
  · split at h
    · cases h
    · cases h
      exact .unfit

theorem hinders_of_paramsOf {room : ℕ} {params : Json} {f : Fault}
    (h : paramsOf room params = .error f) : f.Hinders := by
  unfold paramsOf at h
  split at h
  · cases h
  · rename_i fields _
    rcases shownParams_cases room fields with ⟨-, o, hunshown⟩ | ⟨-, texts, hshown⟩
    · rw [hunshown] at h
      cases h
      exact .unshown o
    · rw [hshown] at h
      cases h
  · cases h
    exact .notRecord

/-- The request of a call is made at once, over a memory, or the call is stopped. -/
theorem requestOf_memory (setup : Setup) (hs : s.store.InMemory) (c : Call) :
    (∃ f : Fault, f.Hinders ∧
      requestOf setup { c with method := Text.upper c.method } s = .ended s (.error f)) ∨
    ∃ q, q.IsFor setup c s ∧
      requestOf setup { c with method := Text.upper c.method } s = .ended s (.ok q) := by
  simp only [requestOf]
  rw [Flow.bind_of_ok (t := s) (a := s.connections.held) rfl]
  cases s.connections.held with
  | none => exact .inl ⟨.notOpen, .notOpen, rfl⟩
  | some place =>
    show (∃ f, _ ∧ (Job.desk Desk.token >>= _) s = _) ∨ ∃ q, _ ∧ (Job.desk Desk.token >>= _) s = _
    rw [Job.token_bind hs]
    cases hbody : bodyOf c.payload with
    | error f => exact .inl ⟨f, hinders_of_bodyOf hbody, rfl⟩
    | ok body =>
      cases hparams : paramsOf setup.room c.params with
      | error f => exact .inl ⟨f, hinders_of_paramsOf hparams, rfl⟩
      | ok params => exact .inr ⟨_, ⟨rfl, rfl, rfl, hbody, hparams⟩, rfl⟩

/-- A call over a memory is stopped before it asks for anything, or it waits for one reply. -/
theorem call_memory (setup : Setup) (hs : s.store.InMemory) (c : Call) (notify : Bool) :
    (∃ f : Fault, f.Hinders ∧ setup.call c notify s = .ended s (.error f)) ∨
      ∃ q, q.IsFor setup c s ∧ setup.call c notify s =
        .waits (s.noting [.requested q]) q
          (finish setup setup.toLogin { c with method := Text.upper c.method } notify) := by
  rw [Setup.call, call]
  rcases requestOf_memory setup hs c with ⟨f, hf, hrequest⟩ | ⟨q, hq, hrequest⟩
  · exact .inl ⟨f, hf, Flow.bind_of_error hrequest _⟩
  rw [Flow.bind_of_ok hrequest]
  rcases exchange_apply q s with hex | hex
  · exact .inr ⟨q, hq, by rw [Flow.bind_apply, hex]; rfl⟩
  · exact .inl ⟨.connectionClosed, .connectionClosed, Flow.bind_of_error hex _⟩

end Service

end Gatehouse
