import Gatehouse.Proofs.Walking

/-! Operations, told in deeds. Whatever an operation does, in whichever of its turns, is on the list
    of deeds; so a rule that no deed breaks is kept by all operations, however their turns fall
    between those of others. -/

namespace Gatehouse

variable {setup : Setup} {X : Exchange State → Prop} {op : Operation}
  {R : Turn State → State → Prop} {turn : Turn State} {s : State}

namespace Setup

variable (rule : Rule setup X op R)

include rule

/-- The walk to the login route that a rejection starts. It makes no such walk in turn. -/
theorem toLogin_holds (hR : R turn s) : setup.toLogin.Holds X R turn s fun _ _ _ => True := by
  unfold toLogin
  split
  · have hwalk : (setup.walkSignedOut setup.settings.loginPath).Holds X R turn s
        fun _ _ _ => True :=
      Walk.go_holds rule (.inr rfl) (fun _ _ hR => .pure hR trivial) hR
    refine .bind (.outcome hwalk fun _ _ _ _ _ => trivial) fun xs t r hR _ => ?_
    split
    · exact .pure hR trivial
    · exact (Job.log_holds rule hR).mono fun _ _ _ _ _ => trivial
    · exact .stop hR
  · exact .pure hR trivial

/-- The end of a call that ends no visit. -/
theorem call_holds (hR : R turn s) {c : Call} {notify : Bool}
    (hvisit : ∀ x, Service.Sent setup c s x → ¬EndsVisit setup op x) :
    (setup.call c notify).Holds X R turn s fun xs t a =>
      ∃ x more, xs = x :: more ∧ X x ∧ Service.Sent setup c s x ∧ x.reply.answer? = some a ∧
        (a.isRejection = false → more = [] ∧ Noted x.resumed t ∧
          (a.failure? = none → t = x.resumed)) :=
  Service.call_holds rule (fun _ _ hR => toLogin_holds rule hR) hR hvisit

/-- A call that gives data has made one request, and the reply to it changed nothing. -/
theorem send_holds (hR : R turn s) {c : Call}
    (hvisit : ∀ x, Service.Sent setup c s x → ¬EndsVisit setup op x) :
    (setup.send c).Holds X R turn s fun xs t data =>
      ∃ x, xs = [x] ∧ X x ∧ Service.Sent setup c s x ∧ x.reply.answer? = some (.data data) ∧
        t = x.resumed := by
  refine .bind (call_holds rule hR hvisit) ?_
  rintro _ t a hR ⟨x, more, rfl, hx, hsent, hr, hkept⟩
  refine .ofExcept hR fun data hdata => ?_
  cases a with
  | failure f => cases hdata
  | data v =>
    cases hdata
    obtain ⟨rfl, -, ht⟩ := hkept rfl
    exact ⟨x, rfl, hx, hsent, hr, ht rfl⟩

theorem judge_holds (hR : R turn s) {route : Route} :
    (setup.judge route).Holds X R turn s fun _ _ _ => True :=
  (Gate.judge_holds rule (.inl rfl) (fun _ _ hR => toLogin_holds rule hR) hR).mono
    fun _ _ _ _ _ => trivial

theorem walk_holds (hR : R turn s) {path : String} :
    (setup.walk path).Holds X R turn s fun _ _ _ => True :=
  Walk.go_holds rule (.inl rfl) (fun _ _ hR => toLogin_holds rule hR) hR

end Setup

namespace Visit

/-- Only a sign out ends a visit. -/
theorem not_endsVisit (hop : op ≠ .signOut) (x : Exchange State) : ¬EndsVisit setup op x :=
  fun h => hop h.1

theorem signIn_holds {username password : Json}
    (rule : Rule setup X (.signIn username password) R) (hR : R turn s) :
    (signIn setup username password).Holds X R turn s fun _ _ _ => True := by
  have hsend : (Endpoint.login.send setup [username, password]).Holds X R turn s _ :=
    Setup.send_holds rule hR (c := loginCall username password)
      fun x _ => not_endsVisit (by simp) x
  refine .bind hsend ?_
  rintro _ _ data hR ⟨x, rfl, hx, hsent, hr, rfl⟩
  split
  · exact .stop hR
  rename_i token htoken
  have hgranted : Granted setup (.signIn username password) x data token :=
    ⟨⟨username, password, rfl, hsent.request⟩, hr, htoken⟩
  refine .bind_ofExcept hR fun user huser => ?_
  refine .bind_atOnce (Job.desk_holds (rule.deed hR (.signedIn hx hgranted))) ?_
  rintro _ _ hR ⟨rfl, hok⟩
  have hrest : ∀ t, R (.after x) t → (do
      let _ ← setup.walk setup.settings.landingPath
      Flow.read (·.session.currentUser) : Job (Option User)).Holds X R (.after x) t
        fun _ _ _ => True :=
    fun t hR => .bind (Setup.walk_holds rule hR) fun _ _ _ hR _ => .read hR trivial
  split
  · rename_i user
    refine .bind_atOnce (Job.desk_holds (rule.deed hR (.welcomed hx hgranted hok huser))) ?_
    rintro t _ hR -
    exact hrest t hR
  · exact hrest _ hR

/-- The end of telling the service: the rule has been kept, or nothing but notes are left behind
    since the reply came in. -/
def Told (setup : Setup) (X : Exchange State → Prop) (R : Turn State → State → Prop)
    (turn : Turn State) (xs : List (Exchange State)) (t : State) : Prop :=
  R (turn.through xs) t ∨ ∃ x, xs = [x] ∧ X x ∧ x.reply.isRejection = false ∧
    EndsVisit setup .signOut x ∧ Noted x.resumed t

theorem Told.noted (rule : Rule setup X .signOut R) {xs : List (Exchange State)} {t u : State}
    (h : Told setup X R turn xs t) (hn : Noted t u) : Told setup X R turn xs u := by
  rcases h with hR | ⟨x, hxs, hx, hrej, hvisit, ht⟩
  · exact .inl (rule.deed hR (.noted hn))
  · exact .inr ⟨x, hxs, hx, hrej, hvisit, ht.trans hn⟩

theorem call_told (rule : Rule setup X .signOut R) (hR : R turn s) :
    (setup.call logoutCall true s).Goes X R turn fun xs t _ => Told setup X R turn xs t := by
  have hcall : (setup.call logoutCall true s).Goes X R turn _ :=
    Service.call_goes rule (fun _ _ hR => Setup.toLogin_holds rule hR) hR logoutCall true
  refine Progress.Goes.mono hcall.course ?_
  rintro xs t r ⟨hc, -, hX⟩
  cases hc with
  | stopped hR => exact .inl hR
  | @broken x f hsent hr =>
    have hrej : x.reply.isRejection = false := Reply.not_isRejection_of_outcome hr
    exact .inr ⟨x, rfl, hX x (by simp), hrej, ⟨rfl, hsent.request⟩, .refl _⟩
  | @answered x a t hsent hr ha ht _ =>
    have hrej : x.reply.isRejection = false := (Reply.isRejection_of_answer? hr).trans ha
    exact .inr ⟨x, rfl, hX x (by simp), hrej, ⟨rfl, hsent.request⟩, ht⟩
  | rejected _ _ _ hR _ => exact .inl hR

theorem tellService_told (rule : Rule setup X .signOut R) (hR : R turn s) :
    (tellService setup s).Goes X R turn fun xs t _ => Told setup X R turn xs t := by
  have hsend : (Endpoint.logout.send setup [] s).Goes X R turn
      fun xs t _ => Told setup X R turn xs t := by
    refine .andThen_atOnce (call_told rule hR) ?_
    rintro xs t (f | a) htold
    · exact ⟨t, _, rfl, htold⟩
    · cases a <;> exact ⟨t, _, rfl, htold⟩
  refine .andThen_atOnce (Flow.outcome_goes hsend) ?_
  rintro xs t _ ⟨⟨r, rfl⟩, htold⟩
  have hlog : ∀ level text, ∃ u b,
      Job.log .context level text t = .ended u b ∧ Told setup X R turn xs u :=
    fun level text => ⟨_, _, rfl, htold.noted rule (Noted.one t rfl)⟩
  dsimp only
  split
  · exact ⟨t, _, rfl, htold⟩
  · split
    · exact hlog ..
    · exact hlog ..
  · exact ⟨t, _, rfl, htold⟩

/-- The session ends here, whatever came of telling the service. -/
theorem leave_holds (rule : Rule setup X .signOut R) {xs : List (Exchange State)} {t : State}
    (h : Told setup X R turn xs t) :
    (leave setup).Holds X R (turn.through xs) t fun _ _ _ => True := by
  have hend : R (turn.through xs) (t.after Desk.signOut) := by
    rcases h with hR | ⟨x, rfl, hx, hrej, hvisit, ht⟩
    · exact rule.deed hR (.left rfl)
    · exact rule.left hx hrej hvisit ht
  refine .bind_atOnce (Job.desk_holds hend) fun u _ hR _ => ?_
  exact .bind (Setup.walk_holds rule hR) fun _ _ _ hR _ => .pure hR trivial

theorem signOut_holds (rule : Rule setup X .signOut R) (hR : R turn s) :
    (signOut setup).Holds X R turn s fun _ _ _ => True := by
  refine .andThen (Flow.outcome_goes (tellService_told rule hR)) ?_
  rintro xs t _ ⟨⟨r, rfl⟩, htold⟩
  have hlast : (leave setup >>= fun _ => Flow.ofExcept r).Holds X R (turn.through xs) t
      fun _ _ _ => True :=
    .bind (leave_holds rule htold) fun _ _ _ hR _ => .ofExcept hR fun _ _ => trivial
  refine Progress.Goes.mono hlast ?_
  rintro ys u r ⟨hR, -⟩
  exact ⟨by simpa using hR, fun _ _ => trivial⟩

end Visit

namespace Operation

/-- An operation that does no more than some work at the desk. -/
theorem work_holds (rule : Rule setup X op R) (hR : R (.first s) s) {work : Work Unit}
    (hwork : op.work? setup = some work) {value : Value} :
    (Job.desk work >>= fun _ => pure value : Job Value).Holds X R (.first s) s fun _ _ _ => True :=
  .bind (Job.desk_holds (rule.deed hR (.worked hwork))) fun _ _ _ hR _ => .pure hR trivial

/-- An operation that changes the connection first. -/
theorem connections_holds (rule : Rule setup X op R) (hR : R (.first s) s)
    (hop : op.isVisit = false) {α : Type} {f : Connections → Connections} {work : Job α}
    (hwork : ∀ t, R (.first s) t → work.Holds X R (.first s) t fun _ _ _ => True) :
    (Flow.change (fun s : State => { s with connections := f s.connections }) >>= fun _ =>
      work).Holds X R (.first s) s fun _ _ _ => True :=
  hwork _ (rule.deed hR (.connected (f s.connections) hop))

/-- Every operation keeps to every rule that deeds keep to. -/
theorem run_holds (rule : Rule setup X op R) (hR : R (.first s) s) :
    (op.run setup).Holds X R (.first s) s fun _ _ _ => True := by
  cases op with
  | call c notify =>
    exact .bind (Setup.call_holds rule hR fun x _ => Visit.not_endsVisit (by simp) x)
      fun _ _ _ hR _ => .pure hR trivial
  | send c =>
    exact .bind (Setup.send_holds rule hR fun x _ => Visit.not_endsVisit (by simp) x)
      fun _ _ _ hR _ => .pure hR trivial
  | endpoint e args =>
    have hsend : (e.send setup args).Holds X R (.first s) s fun _ _ _ => True := by
      unfold Endpoint.send
      split
      · exact (Setup.send_holds rule hR fun x _ => Visit.not_endsVisit (by simp) x).mono
          fun _ _ _ _ _ => trivial
      · exact .stop hR
    exact .bind hsend fun _ _ _ hR _ => .ofExcept hR fun _ _ => trivial
  | walk path => exact .bind (Setup.walk_holds rule hR) fun _ _ _ hR _ => .pure hR trivial
  | judgePath path =>
    refine .bind_ofExcept hR fun route _ => ?_
    exact .bind (Setup.judge_holds rule hR) fun _ _ _ hR _ => .pure hR trivial
  | judgeRoute data =>
    refine .bind_ofExcept hR fun route _ => ?_
    exact .bind (Setup.judge_holds rule hR) fun _ _ _ hR _ => .pure hR trivial
  | signIn username password =>
    exact .bind (Visit.signIn_holds rule hR) fun _ _ _ hR _ => .pure hR trivial
  | signOut => exact .bind (Visit.signOut_holds rule hR) fun _ _ _ hR _ => .pure hR trivial
  | setUser data =>
    refine .bind_ofExcept hR fun user huser => work_holds rule hR ?_
    cases hcheck : User.check data with
    | bad mistakes => simp [hcheck, Checked.orInvalid] at huser
    | good u =>
      obtain rfl : u = user := by simpa [hcheck, Checked.orInvalid] using huser
      simp [work?, hcheck, Checked.toOption]
  | beginSession token => exact work_holds rule hR rfl
  | endSession => exact work_holds rule hR rfl
  | clearUser => exact work_holds rule hR rfl
  | setToken token => exact work_holds rule hR rfl
  | removeToken => exact work_holds rule hR rfl
  | clearStore => exact work_holds rule hR rfl
  | getToken => exact .bind (Job.token_holds rule hR) fun _ _ _ hR _ => .pure hR trivial
  | hasToken =>
    exact .bind (Job.desk_holds (rule.deed hR (.noted s.after_hasToken)))
      fun _ _ _ hR _ => .pure hR trivial
  | start =>
    have hstart : Visit.start.Holds X R (.first s) s fun _ _ _ => True :=
      connections_holds rule hR rfl fun t hR =>
        (Job.log_holds rule hR).mono fun _ _ _ _ _ => trivial
    exact .bind hstart fun _ _ _ hR _ => .pure hR trivial
  | close =>
    have hclose : Visit.close.Holds X R (.first s) s fun _ _ _ => True :=
      connections_holds rule hR rfl fun t hR =>
        (Job.log_holds rule hR).mono fun _ _ _ _ _ => trivial
    exact .bind hclose fun _ _ _ hR _ => .pure hR trivial
  | connect => exact connections_holds rule hR rfl fun t hR => .pure hR trivial
  | disconnect => exact connections_holds rule hR rfl fun t hR => .pure hR trivial
  | cut =>
    show Flow.Holds X R (.first s) s (if _ then _ else _) _
    split
    · exact .bind_stop hR
    · exact connections_holds rule hR rfl fun t hR => .pure hR trivial
  | current => exact .pure hR trivial
  | settings => exact .pure hR trivial
  | describe subject => exact .pure hR trivial

/-- So it keeps to the rule in all its turns. -/
theorem run_keeps (rule : Rule setup X op R) (hR : R (.first s) s) :
    (op.run setup s).Keeps X R (.first s) :=
  (run_holds rule hR).keeps

end Operation

end Gatehouse
