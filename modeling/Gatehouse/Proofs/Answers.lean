import Gatehouse.Proofs.Expiry
import Gatehouse.Proofs.Kept
import Gatehouse.Proofs.Running

/-! One call, one request, one answer. A call that can be sent asks the service once, and almost
    whatever comes of that, it has one classified answer: data, or a failure of one kind. The kind
    follows from the status of the reply and from the code of its envelope alone. The user is told
    about a failure at most once, and nothing else is touched unless the credential was rejected.

    The exception is what cannot be shown, most of all what is nested too deeply. A message like
    that breaks the call off before its reply is classified: there is no answer, the user is told
    nothing, and a rejected credential stays. A parameter like that keeps the call from asking at
    all. -/

namespace Gatehouse

variable {setup : Setup} {s t u : State} {r : Reply} {a : Answer} {notify : Bool}

/-! ### What a reply says -/

/-- A reply with a status of success carries an envelope with this code. -/
inductive Reply.Carries (code : Int) : Reply → Prop
  | envelope {status body room e} : 200 ≤ status → status < 300 →
      Service.envelope? body = some e → e.code = code → Carries code (.received status body room)

/-- A reply without a status of success has a message that cannot be shown on the stack on which the
    reply is taken up. -/
inductive Reply.Unshown : Reply → Prop
  | message {status body room v o} : status < 200 ∨ 300 ≤ status →
      Service.messageIn? body = some v → v.shown room = .error o →
      Unshown (.received status body room)

namespace Reply

theorem carries_received_iff {code status : Int} {body : ByteArray} {room : ℕ} :
    (received status body room).Carries code ↔
      Service.isSuccess status ∧ ∃ e, Service.envelope? body = some e ∧ e.code = code := by
  constructor
  · rintro ⟨hlow, hhigh, he, hcode⟩
    exact ⟨by simp [Service.isSuccess, hlow, hhigh], _, he, hcode⟩
  · rintro ⟨hstatus, e, he, hcode⟩
    obtain ⟨hlow, hhigh⟩ : 200 ≤ status ∧ status < 300 := by simpa [Service.isSuccess] using hstatus
    exact .envelope hlow hhigh he hcode

theorem unshown_received_iff {status : Int} {body : ByteArray} {room : ℕ} :
    (received status body room).Unshown ↔ Service.isSuccess status = false ∧
      ∃ v o, Service.messageIn? body = some v ∧ v.shown room = .error o := by
  have hstatus : Service.isSuccess status = false ↔ status < 200 ∨ 300 ≤ status := by
    simp only [Service.isSuccess, Bool.and_eq_false_iff, decide_eq_false_iff_not]
    omega
  rw [hstatus]
  constructor
  · rintro ⟨hfailed, hmessage, hunshown⟩
    exact ⟨hfailed, _, _, hmessage, hunshown⟩
  · rintro ⟨hfailed, v, o, hmessage, hunshown⟩
    exact .message hfailed hmessage hunshown

end Reply

namespace Service

theorem isRejection_failureOf (status : Int) (message : String) :
    (failureOf status message).isRejection ↔ status = 401 := by
  unfold failureOf
  grind [Answer.isRejection, Answer.failure?]

theorem failure?_failureOf (status : Int) (message : String) :
    (failureOf status message).failure? ≠ none := by
  unfold failureOf
  grind [Answer.failure?]

/-- Under a status of success only the code of the envelope counts. -/
theorem classifyEnvelope_cases (status : Int) (body : ByteArray) :
    ((classifyEnvelope status body).isRejection ↔
      ∃ e, envelope? body = some e ∧ e.code = Envelope.rejectionCode) ∧
    ((classifyEnvelope status body).failure? = none ↔
      ∃ e, envelope? body = some e ∧ e.code = Envelope.successCode) := by
  unfold classifyEnvelope
  cases envelope? body with
  | none => simp [Answer.isRejection, Answer.failure?]
  | some e =>
    have hne : Envelope.successCode ≠ Envelope.rejectionCode := by decide
    grind [Answer.isRejection, Answer.failure?, Envelope.isSuccess, Envelope.isRejection]

/-- An answer is that of the envelope or that of the status. -/
theorem classify_cases {status : Int} {body : ByteArray} {room : ℕ}
    (h : classify status body room = .ok a) :
    (isSuccess status ∧ a = classifyEnvelope status body) ∨
      isSuccess status = false ∧ ∃ message, a = failureOf status message := by
  unfold classify at h
  split at h
  · rename_i hstatus
    exact .inl ⟨hstatus, (Except.ok.inj h).symm⟩
  · rename_i hstatus
    rcases classifyStatus_cases status body room with
      ⟨v, o, -, -, hunshown⟩ | ⟨-, message, hfailed⟩
    · cases h.symm.trans hunshown
    · exact .inr ⟨by simpa using hstatus, message, Except.ok.inj (h.symm.trans hfailed)⟩

/-- A failure has always been classified further. -/
theorem kind_of_classify {status : Int} {body : ByteArray} {room : ℕ} {f : Failure}
    (h : classify status body room = .ok (.failure f)) : f.kind ≠ .general := by
  rcases classify_cases h with ⟨-, h⟩ | ⟨-, message, h⟩
  · unfold classifyEnvelope at h
    grind
  · unfold failureOf at h
    grind

end Service

namespace Reply

/-- A reply that does not break the call off has an answer, unless its message cannot be shown. -/
theorem outcome_cases (hr : ∀ f, r ≠ .broke f) :
    (r.Unshown ∧ ∃ o, r.outcome = .error (.unshown o)) ∨
      ¬r.Unshown ∧ ∃ a, r.answer? = some a := by
  cases r with
  | received status body room =>
    rw [unshown_received_iff, answer?, outcome, Service.classify]
    cases hstatus : Service.isSuccess status with
    | true => exact .inr ⟨by simp, _, rfl⟩
    | false =>
      rcases Service.classifyStatus_cases status body room with
        ⟨v, o, hmessage, hunshown, h⟩ | ⟨hshown, message, h⟩
      · exact .inl ⟨⟨rfl, v, o, hmessage, hunshown⟩, o, h⟩
      · refine .inr ⟨?_, Service.failureOf status message, by rw [h]; rfl⟩
        rintro ⟨-, v, o, hmessage, hunshown⟩
        exact hshown v o hmessage hunshown
  | broke f => exact absurd rfl (hr f)
  | _ => exact .inr ⟨by rintro ⟨⟩, _, rfl⟩

/-- A reply that amounts to an answer rejects the credential by its status, or by the code of its
    envelope. -/
theorem isRejection_iff (h : r.answer? = some a) : a.isRejection ↔
    (∃ body room, r = .received 401 body room) ∨ r.Carries Envelope.rejectionCode := by
  cases r with
  | received status body room =>
    rw [carries_received_iff]
    rcases Service.classify_cases (outcome_of_answer? h) with ⟨hstatus, rfl⟩ | ⟨hstatus, m, rfl⟩
    · have hne : status ≠ 401 := by
        rintro rfl
        exact absurd hstatus (by decide)
      simp [hne, hstatus, (Service.classifyEnvelope_cases status body).1]
    · simp [hstatus, Service.isRejection_failureOf]
  | broke f => cases h
  | _ =>
    obtain rfl := Option.some.inj h
    constructor
    · intro hrej
      cases hrej
    · rintro (⟨body, room, hr⟩ | hr)
      · cases hr
      · cases hr

/-- A call succeeds by the status of the reply and the code of its envelope. -/
theorem failure?_eq_none_iff (h : r.answer? = some a) :
    a.failure? = none ↔ r.Carries Envelope.successCode := by
  cases r with
  | received status body room =>
    rw [carries_received_iff]
    rcases Service.classify_cases (outcome_of_answer? h) with ⟨hstatus, rfl⟩ | ⟨hstatus, m, rfl⟩
    · simp [hstatus, (Service.classifyEnvelope_cases status body).2]
    · simp [hstatus, Service.failure?_failureOf]
  | broke f => cases h
  | _ =>
    obtain rfl := Option.some.inj h
    simp only [Answer.failure?, reduceCtorEq, false_iff]
    intro hr
    cases hr

theorem kind_of_answer? {f : Failure} (h : r.answer? = some (.failure f)) : f.kind ≠ .general := by
  cases r with
  | received status body room => exact Service.kind_of_classify (outcome_of_answer? h)
  | broke f' => cases h
  | _ =>
    cases h
    simp

end Reply

/-! ### Messages that cannot be shown -/

/-- The empty list in so many other lists. -/
def Json.nested : ℕ → Json
  | 0 => .arr []
  | n + 1 => .arr [nested n]

namespace Json

/-- Every list takes one level of calls. -/
theorem obstacle?_nested {n room : ℕ} (h : room ≤ n) :
    (nested n).obstacle? room = some .tooDeep := by
  induction n generalizing room with
  | zero =>
    obtain rfl : room = 0 := by omega
    rw [obstacle?]
  | succ n ih =>
    cases room with
    | zero => rw [obstacle?]
    | succ room => simp [nested, obstacle?, obstacleInItems?, ih (by omega : room ≤ n)]

theorem shown_nested {n room : ℕ} (h : room ≤ n) : (nested n).shown room = .error .tooDeep := by
  have hobstacle := obstacle?_nested h
  obtain ⟨items, hitems⟩ : ∃ items, nested n = .arr items := by cases n <;> exact ⟨_, rfl⟩
  rw [hitems] at hobstacle ⊢
  simp only [shown, hobstacle]

/-- Lists in lists are read back from where they were written, inside fewer than so many containers
    as a document may have open. -/
theorem reread?_nested {n height : ℕ} (h : height + n < 1024) :
    Dialect.document.reread? Style.document height (nested n) = some (nested n) := by
  have hopen : ¬(Dialect.document.depth.any (· ≤ height)) := by
    simp [Dialect.document]
    omega
  induction n generalizing height with
  | zero => rw [nested, Dialect.reread?, if_neg hopen, Dialect.rereadItems?, Option.map_some]
  | succ n ih =>
    have hinner : Dialect.document.reread? Style.document (height + 1) (nested n) =
        some (nested n) := ih (by omega) (by simp [Dialect.document]; omega)
    rw [nested, Dialect.reread?, if_neg hopen, Dialect.rereadItems?, hinner]
    rfl

end Json

/-- The body of a reply that holds nothing but the empty list in so many other lists, as its
    message. -/
def Service.nestedMessage (n : ℕ) : ByteArray :=
  (String.ofList (Json.Style.document.write (.obj [("message", .nested n)]))).toUTF8

example : Service.nestedMessage 2 = "\x7b\"message\":[[[]]]\x7d".toUTF8 := by cbv

/-- Such a message is found, unless it is empty or has more containers around it than a document. -/
theorem Service.messageIn?_nestedMessage {n : ℕ} (hpos : 0 < n) (h : n < 1023) :
    messageIn? (nestedMessage n) = some (.nested n) := by
  have hfields : Json.Dialect.document.rereadFields? Json.Style.document 1
      [("message", .nested n)] = some [("message", .nested n)] := by
    rw [Json.Dialect.rereadFields?, Json.reread?_nested (by omega)]
    rfl
  have hread : Json.Dialect.document.readBytes? (nestedMessage n) =
      some (.obj [("message", .nested n)]) := by
    have htext : ∀ text : String, String.fromUTF8? text.toUTF8 = some text :=
      Store.fromUTF8_bytesOf
    rw [Json.Dialect.readBytes?, nestedMessage, htext, Option.bind_eq_bind, Option.bind_some,
      Json.read_written _ Json.Style.document_isReadable, Json.Dialect.reread?,
      if_neg (by decide), hfields]
    rfl
  rw [messageIn?, hread]
  cases n with
  | zero => cases hpos
  | succ n => rfl

/-- Where the status reports no success, a reply like that breaks the call off on a stack without
    the room for its message. -/
theorem Reply.outcome_nestedMessage {status : Int} {n room : ℕ}
    (hstatus : Service.isSuccess status = false) (hpos : 0 < n) (hn : n < 1023) (hroom : room ≤ n) :
    (received status (Service.nestedMessage n) room).outcome = .error (.unshown .tooDeep) := by
  have hmessage := Service.messageIn?_nestedMessage hpos hn
  have hunshown := Service.shown_eq_error (Json.shown_nested hroom)
  simp only [outcome, Service.classify, hstatus, Service.classifyStatus, Service.bodyMessage,
    hmessage, hunshown]
  rfl

/-! ### What the user is told -/

/-- What a call tells the user about its answer: that the session has expired, or the message of
    another failure if it is asked to. -/
def Setup.noticesOf (setup : Setup) (notify : Bool) : Answer → List Event
  | .data _ => []
  | .failure f =>
    if f.kind = .authentication then [setup.noticeOf Service.sessionExpired]
    else if notify then [setup.noticeOf f.message]
    else []

theorem Setup.isNotice_of_mem_noticesOf {e : Event} (h : e ∈ setup.noticesOf notify a) :
    e.isNotice := by
  unfold noticesOf at h
  split at h
  · cases h
  · split at h
    · exact List.mem_singleton.1 h ▸ setup.isNotice_noticeOf _
    · split at h
      · exact List.mem_singleton.1 h ▸ setup.isNotice_noticeOf _
      · cases h

/-- A call has answered, which took it from `s`, where its reply came in, to `t`. The user has been
    told just what the answer calls for, and the service has not been asked once more. Apart from
    the journal all is as it was, unless the credential was rejected. -/
structure Answered (setup : Setup) (notify : Bool) (a : Answer) (s t : State) : Prop where
  journal : ∃ es, t.journal = es ++ s.journal ∧
    es.filter Event.isNotice = setup.noticesOf notify a ∧ ∀ e ∈ es, e.isRequest = false
  kept : a.isRejection = false → t = { s with journal := t.journal }
  expired : a.isRejection → Expired setup s t

/-- An answer that is no rejection leaves its notices behind, and silent events before them. -/
theorem Hushed.answered (h : Hushed s t) (ha : a.isRejection = false) :
    Answered setup notify a s (t.noting (setup.noticesOf notify a)) := by
  obtain ⟨es, hes, rfl⟩ := h
  obtain ⟨hquiet, hno⟩ := silent_events hes
  have hnotice : ∀ e ∈ setup.noticesOf notify a, e.isNotice :=
    fun e he => Setup.isNotice_of_mem_noticesOf he
  refine ⟨⟨setup.noticesOf notify a ++ es, by simp, ?_, ?_⟩, fun _ => rfl, by simp [ha]⟩
  · rw [List.filter_append, hquiet, List.append_nil, List.filter_eq_self.2 hnotice]
  · exact List.forall_mem_append.2
      ⟨fun e he => Event.not_isRequest_of_isNotice (hnotice e he), hno⟩

theorem Expired.answered (h : Expired setup s t) (ha : a.isRejection) :
    Answered setup notify a s t := by
  refine ⟨?_, by simp [ha], fun _ => h⟩
  obtain ⟨es, hes, hnotice, hno⟩ := h.journal
  refine ⟨es, hes, ?_, hno⟩
  cases a with
  | data v => cases ha
  | failure f =>
    have hk : f.kind = .authentication := by simpa [Answer.isRejection, Answer.failure?] using ha
    simp [hnotice, Setup.noticesOf, hk]

namespace Service

theorem answerTo_hushed (c : Call) (hr : r.answer? = some a) (s : State) :
    ∃ t, answerTo c r s = .ended t (.ok a) ∧ Hushed s t := by
  cases r with
  | received status body room =>
    have h : classify status body room = .ok a := Reply.outcome_of_answer? hr
    exact ⟨s, by rw [answerTo, h]; rfl, .refl s⟩
  | disturbed text =>
    cases hr
    exact ⟨_, rfl, .logged s (by decide) ..⟩
  | broke f => cases hr
  | timedOut =>
    cases hr
    exact ⟨s, rfl, .refl s⟩

theorem conclude_hushed (setup : Setup) (toLogin : Job Unit) (c : Call)
    (ha : a.isRejection = false) (s : State) :
    ∃ t, conclude setup toLogin c a s = .ended t (.ok a) ∧ Hushed s t := by
  cases a with
  | data v => exact ⟨s, rfl, .refl s⟩
  | failure f =>
    have hk : f.kind ≠ .authentication := by simpa [Answer.isRejection, Answer.failure?] using ha
    simp only [conclude, Answer.failure?, hk, if_false]
    exact ⟨_, rfl, .logged s (by decide) ..⟩

theorem tell_noting (setup : Setup) (notify : Bool) (ha : a.isRejection = false) (s : State) :
    tell setup notify a s = .ended (s.noting (setup.noticesOf notify a)) (.ok ()) := by
  cases a with
  | data v => rfl
  | failure f =>
    have hk : f.kind ≠ .authentication := by simpa [Answer.isRejection, Answer.failure?] using ha
    cases notify with
    | true =>
      simp only [tell, Answer.failure?, hk, Setup.noticesOf, if_true, if_false, ne_eq,
        not_false_eq_true, decide_true, Bool.and_self]
      exact setup.announce_apply f.message s
    | false =>
      simp only [tell, Answer.failure?, hk, Setup.noticesOf]
      rfl

/-- A reply that breaks a call off leaves nothing behind. -/
theorem finish_broken (setup : Setup) (toLogin : Job Unit) (c : Call) (notify : Bool) {f : Fault}
    (hr : r.outcome = .error f) (s : State) :
    finish setup toLogin c notify r s = .ended s (.error f) := by
  rcases finish_apply setup toLogin c notify (Reply.not_isRejection_of_outcome hr) s with
    ⟨g, hg, hfinish⟩ | ⟨a, t, ha, -⟩
  · obtain rfl : f = g := Except.error.inj (hr.symm.trans hg)
    exact hfinish
  · simp [Reply.answer?_of_outcome hr] at ha

/-- Over a memory, every reply that amounts to an answer is answered at once. -/
theorem finish_answered (setup : Setup) (hs : s.store.InMemory) (c : Call) (notify : Bool)
    (hr : r.answer? = some a) :
    ∃ t, finish setup setup.toLogin c notify r s = .ended t (.ok a) ∧
      Answered setup notify a s t := by
  cases ha : a.isRejection with
  | true =>
    obtain ⟨t, hfinish, hexpired⟩ := finish_rejected setup hs c notify hr ha
    exact ⟨t, hfinish, hexpired.answered ha⟩
  | false =>
    obtain ⟨t, hanswer, hst⟩ := answerTo_hushed c hr s
    obtain ⟨u, hconclude, htu⟩ := conclude_hushed setup setup.toLogin c ha t
    have htell := tell_noting setup notify ha u
    refine ⟨_, ?_, (hst.trans htu).answered ha⟩
    rw [finish, Flow.bind_of_ok hanswer, Flow.bind_of_ok hconclude, Flow.bind_of_ok htell]
    rfl

end Service

/-! ### Calls, way by way -/

/-- How a call over a memory comes to its end: it is stopped before it asks for anything, its
    request is broken off, or it is answered. -/
inductive Service.Handled (setup : Setup) (c : Call) (notify : Bool) (s : State) :
    List (Exchange State) → State → Except Fault Answer → Prop
  | stopped {f : Fault} : f.Hinders → Handled setup c notify s [] s (.error f)
  | broken {x f} : x.request.IsFor setup c s → x.asked = s.noting [.requested x.request] →
      x.reply.outcome = .error f → Handled setup c notify s [x] x.resumed (.error f)
  | answered {x a t} : x.request.IsFor setup c s → x.asked = s.noting [.requested x.request] →
      x.reply.answer? = some a → Answered setup notify a x.resumed t →
      Handled setup c notify s [x] t (.ok a)

/-- A memory is one still when a call over it has come to its end. -/
theorem Service.Handled.inMemory {c : Call} {xs : List (Exchange State)} {b : Except Fault Answer}
    (h : Handled setup c notify s xs t b) (hs : s.store.InMemory)
    (hxs : ∀ x ∈ xs, x.resumed.store.InMemory) : t.store.InMemory := by
  cases h with
  | stopped => exact hs
  | broken => exact hxs _ (List.mem_singleton_self _)
  | @answered x a t _ _ _ hanswered =>
    have hx := hxs x (List.mem_singleton_self x)
    cases ha : a.isRejection with
    | false =>
      rw [hanswered.kept ha]
      exact hx
    | true => exact (hanswered.expired ha).inMemory hx

namespace Setup

variable {c : Call} {xs : List (Exchange State)}

theorem handled_of_course {b : Except Fault Answer} (hs : s.store.InMemory)
    (h : (setup.call c notify s).Course xs t b) (hxs : ∀ x ∈ xs, x.resumed.store.InMemory) :
    Service.Handled setup c notify s xs t b := by
  rcases Service.call_memory setup hs c notify with ⟨f, hf, hcall⟩ | ⟨q, hq, hcall⟩
  · rw [hcall] at h
    obtain ⟨rfl, rfl, rfl⟩ := Progress.course_ended_iff.1 h
    exact .stopped hf
  rw [hcall] at h
  obtain ⟨r, s', ys, rfl, hfinish⟩ := Progress.course_waits_iff.1 h
  cases hr : r.outcome with
  | error f =>
    rw [Service.finish_broken setup _ _ notify hr s'] at hfinish
    obtain ⟨rfl, rfl, rfl⟩ := Progress.course_ended_iff.1 hfinish
    exact .broken hq rfl hr
  | ok a =>
    have ha : r.answer? = some a := by rw [Reply.answer?, hr, Except.toOption]
    obtain ⟨u, hend, hanswered⟩ := Service.finish_answered setup (hxs _ List.mem_cons_self)
      { c with method := Text.upper c.method } notify ha
    rw [hend] at hfinish
    obtain ⟨rfl, rfl, rfl⟩ := Progress.course_ended_iff.1 hfinish
    exact .answered hq rfl ha hanswered

/-- A call that has to give data comes to its end as every call that tells the user about its
    failure does. -/
theorem send_course {r : Except Fault Json} (hs : s.store.InMemory)
    (h : (setup.send c s).Course xs t r) (hxs : ∀ x ∈ xs, x.resumed.store.InMemory) :
    ∃ b, Service.Handled setup c true s xs t b ∧ r = b.bind Answer.unwrap := by
  rcases Flow.course_bind_iff.1 h with ⟨f, hcall, rfl⟩ | ⟨ys, zs, u, a, rfl, hcall, hend⟩
  · exact ⟨_, handled_of_course hs hcall hxs, rfl⟩
  · have hunwrap : zs = [] ∧ t = u ∧ r = a.unwrap := by
      cases a with
      | data v => exact Progress.course_ended_iff.1 hend
      | failure f => exact Progress.course_ended_iff.1 hend
    obtain ⟨rfl, rfl, rfl⟩ := hunwrap
    rw [List.append_nil] at hxs ⊢
    exact ⟨_, handled_of_course hs hcall hxs, rfl⟩

end Setup

/-! ### Calls that can be sent -/

/-- A call that can be sent: its payload, if it has one, has a written form, and its parameters, if
    it has any, have names. -/
structure Call.Sendable (c : Call) : Prop where
  payload : c.payload = .null ∨ (Json.document? c.payload).isSome
  params : c.params = .null ∨ ∃ fields, c.params = .obj fields

/-- A parameter of a call cannot be shown. -/
def Call.Unshown (room : ℕ) (c : Call) : Prop :=
  ∃ fields, c.params = .obj fields ∧ ∃ e ∈ fields, ∃ f, Service.shownParam room e.2 = .error f

namespace Call.Sendable

variable {c : Call}

theorem bodyOf (hc : c.Sendable) : ∃ body, Service.bodyOf c.payload = .ok body := by
  unfold Service.bodyOf
  split
  · exact ⟨none, rfl⟩
  · rename_i hne
    obtain ⟨text, htext⟩ := Option.isSome_iff_exists.1 (hc.payload.resolve_left hne)
    exact ⟨some text, by rw [htext]⟩

theorem paramsOf (hc : c.Sendable) (room : ℕ) :
    (c.Unshown room ∧ ∃ o, Service.paramsOf room c.params = .error (.unshown o)) ∨
      ¬c.Unshown room ∧ ∃ params, Service.paramsOf room c.params = .ok params := by
  rcases hc.params with hnull | ⟨fields, hfields⟩
  · refine .inr ⟨?_, none, by simp [Service.paramsOf, hnull, Json.present?, Json.isPresent]⟩
    rintro ⟨fields, hfields, -⟩
    cases hnull.symm.trans hfields
  have hunshown : c.Unshown room ↔
      ∃ e ∈ fields, ∃ f, Service.shownParam room e.2 = .error f := by
    constructor
    · rintro ⟨fields', hfields', he⟩
      obtain rfl := Json.obj.inj (hfields.symm.trans hfields')
      exact he
    · exact fun he => ⟨fields, hfields, he⟩
  rw [hunshown, hfields]
  cases fields with
  | nil => exact .inr ⟨by simp, none, rfl⟩
  | cons e fields =>
    rcases Service.shownParams_cases room (e :: fields) with ⟨he, o, h⟩ | ⟨hno, texts, h⟩
    · refine .inl ⟨he, o, ?_⟩
      simp [Service.paramsOf, Json.present?, Json.isPresent, h, Except.map]
    · refine .inr ⟨hno, some texts, ?_⟩
      simp [Service.paramsOf, Json.present?, Json.isPresent, h, Except.map]

end Call.Sendable

namespace Service

/-- Over an open connection, the request of a call whose payload can be written is made at once,
    unless its parameters cannot be shown. -/
theorem requestOf_eq (setup : Setup) (hs : s.store.InMemory) (hopen : s.connections.isOpen)
    {c : Call} {body : Option String} (hbody : bodyOf c.payload = .ok body) :
    requestOf setup c s = .ended s ((paramsOf setup.room c.params).map fun params =>
      ⟨c.method, url setup.settings c.path, s.stored, body, params, setup.settings.timeout⟩) := by
  obtain ⟨place, hheld⟩ : ∃ place, s.connections.held = some place := by
    unfold Connections.isOpen at hopen
    obtain ⟨place, hheld, -⟩ := (Option.any_eq_true ..).1 hopen
    exact ⟨place, hheld⟩
  simp only [requestOf]
  rw [Flow.bind_of_ok (t := s) (a := s.connections.held) rfl, hheld]
  show (Job.desk Desk.token >>= _) s = _
  rw [Job.token_bind hs, hbody]
  cases paramsOf setup.room c.params with
  | error f => rfl
  | ok params => rfl

/-- A call with a written form asks the service over an open connection, and waits for the reply. -/
theorem call_eq (setup : Setup) (hs : s.store.InMemory) (hopen : s.connections.isOpen) {c : Call}
    {body : Option String} {params : Option (Record String)} (hbody : bodyOf c.payload = .ok body)
    (hparams : paramsOf setup.room c.params = .ok params) (notify : Bool) :
    let q : Request := ⟨Text.upper c.method, url setup.settings c.path, s.stored, body, params,
      setup.settings.timeout⟩
    setup.call c notify s = .waits (s.noting [.requested q]) q
      (finish setup setup.toLogin { c with method := Text.upper c.method } notify) := by
  intro q
  have hrequest : requestOf setup { c with method := Text.upper c.method } s =
      .ended s (.ok q) := by
    rw [requestOf_eq setup hs hopen (c := { c with method := Text.upper c.method }) hbody]
    simp only [hparams]
    rfl
  rw [Setup.call, call, Flow.bind_of_ok hrequest, Flow.bind_apply, exchange,
    Flow.bind_of_ok (t := s) (a := s.connections.isOpen) rfl, hopen]
  rfl

/-- A call that can be sent over an open connection asks the service and waits for the reply, unless
    a parameter cannot be shown: then it is stopped, and nothing has happened. -/
theorem call_cases (setup : Setup) (hs : s.store.InMemory) (hopen : s.connections.isOpen)
    {c : Call} (hc : c.Sendable) (notify : Bool) :
    (c.Unshown setup.room ∧ ∃ o, setup.call c notify s = .ended s (.error (.unshown o))) ∨
    ¬c.Unshown setup.room ∧ ∃ q, q.IsFor setup c s ∧ setup.call c notify s =
      .waits (s.noting [.requested q]) q
        (finish setup setup.toLogin { c with method := Text.upper c.method } notify) := by
  obtain ⟨body, hbody⟩ := hc.bodyOf
  rcases hc.paramsOf setup.room with ⟨hunshown, o, hparams⟩ | ⟨hno, params, hparams⟩
  · have hrequest :=
      requestOf_eq setup hs hopen (c := { c with method := Text.upper c.method }) hbody
    simp only [hparams] at hrequest
    exact .inl ⟨hunshown, o, Flow.bind_of_error hrequest _⟩
  · let q : Request := ⟨Text.upper c.method, url setup.settings c.path, s.stored, body, params,
      setup.settings.timeout⟩
    exact .inr ⟨hno, q, ⟨rfl, rfl, rfl, hbody, hparams⟩,
      call_eq setup hs hopen hbody hparams notify⟩

end Service

/-- What comes of a call that has the house to itself, from the state `s` to the state `t`: one
    request, one answer that is classified by the reply, and no notice but the one that the answer
    calls for. The rest is as it was, unless the credential was rejected. -/
structure Service.Once (setup : Setup) (notify : Bool) (q : Request) (r : Reply) (a : Answer)
    (s t : State) : Prop where
  classified : ∀ f, a = .failure f → f.kind ≠ .general
  rejection : a.isRejection ↔
    (∃ body room, r = .received 401 body room) ∨ r.Carries Envelope.rejectionCode
  success : a.failure? = none ↔ r.Carries Envelope.successCode
  journal : ∃ es, t.journal = es ++ s.journal ∧ es.filter Event.isRequest = [.requested q] ∧
    es.filter Event.isNotice = setup.noticesOf notify a
  kept : a.isRejection = false →
    t.store = s.store ∧ t.session = s.session ∧ t.navigation = s.navigation
  expired : a.isRejection → Expired setup (s.noting [.requested q]) t

end Gatehouse
