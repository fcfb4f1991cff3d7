import Gatehouse.Proofs.Deed

/-! Calls, told in deeds. A call that gets as far as its request waits for one reply, and all that
    it does then follows from that reply: the session ends if it rejects the credential, and
    otherwise nothing but notes are left behind. -/

namespace Gatehouse

variable {setup : Setup} {X : Exchange State → Prop} {op : Operation}
  {R : Turn State → State → Prop} {turn : Turn State} {s : State}

namespace Job

theorem desk_holds {α : Type} {work : Work α} (hR : R turn (s.after work)) :
    (Job.desk work).Holds X R turn s fun xs t a =>
      xs = [] ∧ t = s.after work ∧ s.result work = .ok a :=
  ⟨hR, fun _ ha => ⟨rfl, rfl, ha⟩⟩

theorem log_holds (rule : Rule setup X op R) (hR : R turn s) {source : Source} {level : Level}
    {text : String} :
    (Job.log source level text).Holds X R turn s fun xs t _ => xs = [] ∧ Noted s t := by
  have hn : Noted s (s.after (Desk.log source level text)) := Noted.one s rfl
  exact ⟨rule.deed hR (.noted hn), fun _ _ => ⟨rfl, hn⟩⟩

theorem token_holds (rule : Rule setup X op R) (hR : R turn s) :
    (Job.desk Desk.token).Holds X R turn s fun xs t token =>
      xs = [] ∧ Noted s t ∧ s.stored = token :=
  ⟨rule.deed hR (.noted s.after_token), fun _ ha =>
    ⟨rfl, s.after_token, State.stored_of_token ha⟩⟩

end Job

theorem announce_holds (rule : Rule setup X op R) (hR : R turn s) {message : String} :
    (setup.announce message).Holds X R turn s fun xs t _ => xs = [] ∧ Noted s t := by
  unfold Setup.announce
  split
  · exact ⟨rule.deed hR (.noted (Noted.one s rfl)), fun _ _ => ⟨rfl, Noted.one s rfl⟩⟩
  · exact ⟨rule.deed hR (.noted (Noted.one s rfl)), fun _ _ => ⟨rfl, Noted.one s rfl⟩⟩

namespace Service

theorem requestOf_holds (rule : Rule setup X op R) (hR : R turn s) {c : Call} :
    (requestOf setup { c with method := Text.upper c.method }).Holds X R turn s fun xs t q =>
      xs = [] ∧ Noted s t ∧ q.IsFor setup c t := by
  rw [requestOf, Flow.Holds.bind_read]
  split
  · exact .bind_stop hR
  · refine .bind_atOnce (Job.token_holds rule hR) ?_
    rintro t token hR ⟨hn, hs⟩
    refine .bind_ofExcept hR fun body hbody => .bind_ofExcept hR fun params hparams => ?_
    refine .pure hR ⟨rfl, hn, rfl, rfl, ?_, hbody, hparams⟩
    exact hs.symm.trans hn.stored.symm

/-- A request goes out with the credential that is stored when it goes out. -/
structure Sent (setup : Setup) (c : Call) (s : State) (x : Exchange State) : Prop where
  request : x.request.IsFor setup c x.asked
  asked : ∃ t, Noted s t ∧ x.asked = t.noting [.requested x.request]

/-- How a call ends that began in the state `s`: before its request went out, broken off by its
    reply, or with the answer that its reply amounts to. Where the reply rejects the credential, the
    rest of the call keeps to the rule `R`. -/
inductive Called (setup : Setup) (R : Turn State → State → Prop) (turn : Turn State) (c : Call)
    (s : State) : List (Exchange State) → State → Except Fault Answer → Prop
  | stopped {xs t f} : R (turn.through xs) t → Called setup R turn c s xs t (.error f)
  | broken {x f} : Sent setup c s x → x.reply.outcome = .error f →
      Called setup R turn c s [x] x.resumed (.error f)
  | answered {x a t} : Sent setup c s x → x.reply.answer? = some a → a.isRejection = false →
      Noted x.resumed t → (a.failure? = none → t = x.resumed) →
      Called setup R turn c s [x] t (.ok a)
  | rejected {x xs a t r} : Sent setup c s x → x.reply.answer? = some a → a.isRejection →
      R ((Turn.after x).through xs) t → (∀ b, r = .ok b → b = a) →
      Called setup R turn c s (x :: xs) t r

/-- A request goes out, and the work waits, unless the connection is closed. -/
theorem exchange_apply (q : Request) (s : State) :
    exchange q s = .waits (s.noting [.requested q]) q (fun r s' => .ended s' (.ok r)) ∨
      exchange q s = .ended s (.error .connectionClosed) := by
  simp only [exchange, Flow.bind_apply, Flow.read, Progress.andThen_ended]
  split
  · exact .inl rfl
  · exact .inr rfl

/-- The answer to a reply is there at once. -/
theorem answerTo_apply (c : Call) (r : Reply) (s : State) :
    (∃ f, r.outcome = .error f ∧ answerTo c r s = .ended s (.error f)) ∨
      ∃ a t, r.answer? = some a ∧ answerTo c r s = .ended t (.ok a) ∧ Noted s t ∧
        (a.failure? = none ∨ a.isRejection → t = s) := by
  cases r with
  | received status body room =>
    cases h : Service.classify status body room with
    | error f => exact .inl ⟨f, h, by rw [answerTo, h]; rfl⟩
    | ok a =>
      refine .inr ⟨a, s, ?_, by rw [answerTo, h]; rfl, .refl s, fun _ => rfl⟩
      rw [Reply.answer?, Reply.outcome, h]
      rfl
  | timedOut => exact .inr ⟨_, s, rfl, rfl, .refl s, fun _ => rfl⟩
  | disturbed text =>
    refine .inr ⟨_, _, rfl, rfl, Noted.one s rfl, ?_⟩
    rintro (h | h) <;> cases h
  | broke f => exact .inl ⟨.foreign f, rfl, rfl⟩

/-- An answer that does not reject the credential is passed on, with no more than notes about it. -/
theorem conclude_apply (setup : Setup) (toLogin : Job Unit) (c : Call) {a : Answer}
    (h : a.isRejection = false) (s : State) :
    ∃ t, conclude setup toLogin c a s = .ended t (.ok a) ∧ Noted s t ∧
      (a.failure? = none → t = s) := by
  cases a with
  | data v => exact ⟨s, rfl, .refl s, fun _ => rfl⟩
  | failure f =>
    have hk : f.kind ≠ .authentication := by simpa [Answer.isRejection, Answer.failure?] using h
    simp only [conclude, Answer.failure?, hk, if_false]
    exact ⟨_, rfl, Noted.one s rfl, by simp⟩

/-- An answer that rejects the credential ends the session and leads on to the login route first. -/
theorem conclude_holds (rule : Rule setup X op R) {toLogin : Job Unit}
    (hlead : toLogin.Respects X R) {c : Call} {a : Answer}
    (h : a.isRejection) (hR : R turn (s.after Desk.signOut)) :
    (conclude setup toLogin c a).Holds X R turn s fun _ _ b => b = a := by
  cases a with
  | data v => cases h
  | failure f =>
    have hk : f.kind = .authentication := by simpa [Answer.isRejection, Answer.failure?] using h
    simp only [conclude, Answer.failure?, hk, if_true]
    refine .bind (F := fun _ _ _ => True) ?_ fun xs t _ hR _ =>
      .bind_atOnce (Job.log_holds rule hR) fun t _ hR _ => .pure hR rfl
    refine .bind_atOnce (Job.desk_holds hR) fun t _ hR _ => ?_
    exact .bind_atOnce (announce_holds rule hR) fun t _ hR _ => hlead turn t hR

theorem tell_apply (setup : Setup) (notify : Bool) (a : Answer) (s : State) :
    ∃ t, tell setup notify a s = .ended t (.ok ()) ∧ Noted s t ∧ (a.failure? = none → t = s) := by
  cases a with
  | data v => exact ⟨s, rfl, .refl s, fun _ => rfl⟩
  | failure f =>
    simp only [tell, Answer.failure?, Setup.announce]
    split
    · split
      · exact ⟨_, rfl, Noted.one s rfl, by simp⟩
      · exact ⟨_, rfl, Noted.one s rfl, by simp⟩
    · exact ⟨s, rfl, .refl s, by simp⟩

/-- What a call does with a reply that does not reject the credential. -/
theorem finish_apply (setup : Setup) (toLogin : Job Unit) (c : Call) (notify : Bool) {r : Reply}
    (h : r.isRejection = false) (s : State) :
    (∃ f, r.outcome = .error f ∧ finish setup toLogin c notify r s = .ended s (.error f)) ∨
      ∃ a t, r.answer? = some a ∧ finish setup toLogin c notify r s = .ended t (.ok a) ∧
        Noted s t ∧ (a.failure? = none → t = s) := by
  simp only [finish]
  rcases answerTo_apply c r s with ⟨f, hr, hf⟩ | ⟨a, t, hr, ht, hst, hsame⟩
  · exact .inl ⟨f, hr, Flow.bind_of_error hf _⟩
  · have ha : a.isRejection = false := by rw [← Reply.isRejection_of_answer? hr, h]
    obtain ⟨u, hu, htu, hsame'⟩ := conclude_apply setup toLogin c ha t
    obtain ⟨v, hv, huv, hsame''⟩ := tell_apply setup notify a u
    refine .inr ⟨a, v, hr, ?_, (hst.trans htu).trans huv, fun hd => ?_⟩
    · rw [Flow.bind_of_ok ht, Flow.bind_of_ok hu, Flow.bind_of_ok hv]
      rfl
    · rw [hsame'' hd, hsame' hd, hsame (.inl hd)]

/-- What a call does with a reply that rejects the credential. -/
theorem finish_holds (rule : Rule setup X op R) {toLogin : Job Unit}
    (hlead : toLogin.Respects X R) {c : Call}
    {notify : Bool} {r : Reply} {a : Answer} (hr : r.answer? = some a) (ha : a.isRejection)
    (hR : R turn (s.after Desk.signOut)) :
    (finish setup toLogin c notify r).Holds X R turn s fun _ _ b => b = a := by
  rcases answerTo_apply c r s with ⟨f, hf, -⟩ | ⟨b, t, hb, ht, -, hsame⟩
  · rw [Reply.answer?_of_outcome hf] at hr
    cases hr
  obtain rfl : a = b := Option.some.inj (hr.symm.trans hb)
  obtain rfl : t = s := hsame (.inr ha)
  have hrest : (conclude setup toLogin c a >>= fun b => tell setup notify b >>= fun _ =>
      pure b : Job Answer).Holds X R turn t fun _ _ b => b = a := by
    refine .bind (conclude_holds rule hlead ha hR) ?_
    rintro xs u b hR rfl
    obtain ⟨v, hv, huv, -⟩ := tell_apply setup notify b u
    have hv' : (tell setup notify b).Holds X R (turn.through xs) u
        fun ys _ _ => ys = [] ∧ True := by
      rw [Flow.Holds, hv]
      exact ⟨rule.deed hR (.noted huv), fun _ _ => ⟨rfl, trivial⟩⟩
    exact .bind_atOnce hv' fun _ _ hR _ => .pure hR rfl
  rw [Flow.Holds, finish, Flow.bind_of_ok ht]
  exact hrest

/-- The end of every call. -/
theorem call_goes (rule : Rule setup X op R) {toLogin : Job Unit}
    (hlead : toLogin.Respects X R) (hR : R turn s)
    (c : Call) (notify : Bool) :
    (call setup toLogin c notify s).Goes X R turn (Called setup R turn c s) := by
  refine Flow.Holds.goes_bind (requestOf_holds rule hR) (fun xs t f hR => .stopped hR) ?_
  rintro xs t q hR ⟨rfl, hn, hq⟩
  rcases exchange_apply q t with hex | hex
  · rw [Flow.bind_apply, hex]
    refine ⟨rule.deed hR (.requested hq), fun r s' hx => ?_⟩
    have hsent : Sent setup c s ⟨t.noting [.requested q], q, r, s'⟩ :=
      ⟨⟨hq.1, hq.2, hq.3, hq.4, hq.5⟩, t, hn, rfl⟩
    show (finish setup toLogin { c with method := Text.upper c.method } notify r s').Goes X R _ _
    -- Only a rejection makes the call wait again, on the walk to the login route.
    cases hrej : r.isRejection with
    | false =>
      rcases finish_apply setup toLogin { c with method := Text.upper c.method } notify hrej s' with
        ⟨f, hr, hf⟩ | ⟨a, u, hr, hu, hsu, hdata⟩
      · rw [hf]
        exact .broken hsent hr
      · rw [hu]
        refine .answered hsent hr ?_ hsu hdata
        rw [← Reply.isRejection_of_answer? hr, hrej]
    | true =>
      obtain ⟨a, hr, ha⟩ : ∃ a, r.answer? = some a ∧ a.isRejection :=
        (Option.any_eq_true ..).1 hrej
      refine Progress.Goes.mono (finish_holds rule hlead hr ha (rule.expired hx hrej)) ?_
      rintro xs u b ⟨hR, hb⟩
      exact .rejected hsent hr ha hR hb
  · rw [Flow.bind_of_error hex]
    exact .stopped hR

end Service

end Gatehouse
