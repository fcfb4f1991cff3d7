import Gatehouse.Proofs.Calls

/-! The gate, told in deeds. Where it lets a visitor in, each rule has been met: those about the
    stored token by the token that was stored when the evaluation began, those about the user and
    about the security PIN by replies to lookups that the evaluation made itself. Nothing that it
    does on the way to such a verdict touches the store. -/

namespace Gatehouse

theorem Text.upper_get : Text.upper "GET" = "GET" := by decide +kernel

theorem Text.upper_post : Text.upper "POST" = "POST" := by decide +kernel

/-- Work that went on from one state to another through exchanges left the stored token alone. -/
def Kept : State → List (Exchange State) → State → Prop
  | s, [], t => t.stored = s.stored
  | s, x :: xs, t => x.asked.stored = s.stored ∧ Kept x.resumed xs t

theorem Kept.of_stored {s s' t : State} {xs : List (Exchange State)} (h : Kept s xs t)
    (hs : s.stored = s'.stored) : Kept s' xs t := by
  cases xs with
  | nil => exact h.trans hs
  | cons x xs => exact ⟨h.1.trans hs, h.2⟩

theorem Kept.append {s t u : State} {xs ys : List (Exchange State)} (h : Kept s xs t)
    (h' : Kept t ys u) : Kept s (xs ++ ys) u := by
  induction xs generalizing s with
  | nil => exact h'.of_stored h
  | cons x xs ih => exact ⟨h.1, ih h.2⟩

/-- An answer about the security PIN keeps nobody from a route: the status is not known, or the PIN
    is set, or the route is the one where it is set. -/
def PinClear (setup : Setup) (route : Route) (a : Answer) : Prop :=
  a.isRejection = false ∧ ∀ data status, a = .data data → PinStatus.check data = .good status →
    status.isSet ∨ route.path = setup.settings.enrollmentPath

/-- What has been found out when the gate lets a visitor in. -/
structure Admissible (setup : Setup) (v : Verdict) (lookups : List (Exchange State)) : Prop where
  authenticated : v.route.policy.requiresAuth → v.token.isSome
  anonymous : v.route.path = setup.settings.loginPath ∨ v.route.path = setup.settings.registerPath →
    v.token = none
  role : ∀ role, v.route.policy.role? = some role → v.token.isSome →
    ∃ x ∈ lookups, ∃ data user, Found setup x data user ∧ user.hasRole role
  pin : v.route.policy.checksPin → v.token.isSome →
    ∃ x ∈ lookups, x.request.IsFor setup Gate.pinCall x.asked ∧
      ∃ a, x.reply.answer? = some a ∧ PinClear setup v.route a

/-- A part of a verdict leaves it open only if `P`, and never lets a visitor in by itself. -/
def OpenOnly (P : Prop) (decision : Option Decision) : Prop :=
  decision ≠ some .allow ∧ (decision = none → P)

@[simp] theorem openOnly_none {P : Prop} : OpenOnly P none ↔ P := by simp [OpenOnly]

@[simp] theorem openOnly_redirect {P : Prop} (target : String) (why : Reason) :
    OpenOnly P (some (.redirect target why)) := by simp [OpenOnly]

variable {setup : Setup} {X : Exchange State → Prop} {op : Operation}
  {R : Turn State → State → Prop} {turn : Turn State} {s : State}

theorem Service.Sent.stored {c : Call} {x : Exchange State} (h : Service.Sent setup c s x) :
    x.asked.stored = s.stored := by
  obtain ⟨t, ht, hx⟩ := h.asked
  rw [hx, State.noting_stored, ht.stored]

namespace Service

/-- The end of a call that ends no visit. -/
theorem call_holds (rule : Rule setup X op R) {toLogin : Job Unit}
    (hlead : toLogin.Respects X R) (hR : R turn s)
    {c : Call} {notify : Bool} (hvisit : ∀ x, Sent setup c s x → ¬EndsVisit setup op x) :
    (call setup toLogin c notify).Holds X R turn s fun xs t a =>
      ∃ x more, xs = x :: more ∧ X x ∧ Sent setup c s x ∧ x.reply.answer? = some a ∧
        (a.isRejection = false → more = [] ∧ Noted x.resumed t ∧
          (a.failure? = none → t = x.resumed)) := by
  refine Progress.Goes.mono (call_goes rule hlead hR c notify).course ?_
  rintro xs t r ⟨hc, -, hX⟩
  cases hc with
  | stopped hR => exact ⟨hR, fun _ h => by cases h⟩
  | @broken x f hsent hr =>
    have hx : X x := hX x (by simp)
    have hrej : x.reply.isRejection = false := Reply.not_isRejection_of_outcome hr
    exact ⟨rule.resumed hx hrej (hvisit x hsent), fun _ h => by cases h⟩
  | @answered x a t hsent hr ha ht hdata =>
    have hx : X x := hX x (by simp)
    have hrej : x.reply.isRejection = false := (Reply.isRejection_of_answer? hr).trans ha
    refine ⟨rule.deed (rule.resumed hx hrej (hvisit x hsent)) (.noted ht), ?_⟩
    rintro _ ⟨⟩
    exact ⟨x, [], rfl, hx, hsent, hr, fun _ => ⟨rfl, ht, hdata⟩⟩
  | @rejected x more a t r hsent hr ha hR hb =>
    refine ⟨hR, ?_⟩
    rintro b rfl
    obtain rfl := hb b rfl
    exact ⟨x, more, rfl, hX x (by simp), hsent, hr, fun h => by simp [ha] at h⟩

end Service

namespace Gate

variable {toLogin : Job Unit}

/-- A lookup ends no visit, since it only asks. -/
theorem not_endsVisit {c : Call} (hc : c.method = "GET") {x : Exchange State}
    (h : Service.Sent setup c s x) : ¬EndsVisit setup op x := by
  rintro ⟨-, hout⟩
  have hm := h.request.method.symm.trans hout.method
  rw [hc, Text.upper_get, Visit.logoutCall, Text.upper_post] at hm
  exact absurd hm (by decide)

theorem readData_holds (rule : Rule setup X op R) (hR : R turn s) {α : Type} {title : String}
    {check : Json → Checked α} {a : Answer} :
    (readData title check a).Holds X R turn s fun xs t o =>
      xs = [] ∧ Noted s t ∧ match a with
        | .failure _ => o = none
        | .data v => o = (check v).toOption ∧ (o.isSome → t = s) := by
  cases a with
  | failure f => exact .pure hR ⟨rfl, .refl s, rfl⟩
  | data v =>
    simp only [readData]
    cases h : check v with
    | good a => exact .pure hR ⟨rfl, .refl s, rfl, fun _ => rfl⟩
    | bad mistakes =>
      refine .bind_atOnce (Job.log_holds rule hR) fun t _ hR hn => ?_
      exact .pure hR ⟨rfl, hn, rfl, fun h => by cases h⟩

/-- What comes of the check of the role, if it lets the visitor pass. -/
theorem checkRole_holds (rule : Rule setup X op R)
    (hlead : toLogin.Respects X R) (hR : R turn s)
    (hs : s.stored.isSome) {route : Route} {role : Role} :
    (checkRole setup (fun c => Service.call setup toLogin c false) route role).Holds X R turn s
      fun xs t p => OpenOnly (Kept s xs t ∧
        ∃ x ∈ xs, ∃ data user, Found setup x data user ∧ user.hasRole role) p.2 := by
  unfold checkRole
  refine .bind (Service.call_holds rule hlead hR fun x hx => not_endsVisit rfl hx) ?_
  rintro _ t a hR ⟨x, more, rfl, hx, hsent, hr, hkept⟩
  refine .bind_atOnce (readData_holds rule hR) fun u o hR ⟨hn, ho⟩ => ?_
  cases o with
  | none =>
    refine .bind_atOnce (Job.log_holds rule hR) fun v _ hR _ => ?_
    split
    · exact .bind_atOnce (announce_holds rule hR) fun w _ hR _ => .pure hR (by simp)
    · exact .pure hR (by simp)
  | some user =>
    cases a with
    | failure f => cases ho
    | data v =>
      obtain ⟨hcheck, hu⟩ := ho
      obtain rfl : u = t := hu rfl
      obtain ⟨rfl, -, ht⟩ := hkept rfl
      obtain rfl : u = x.resumed := ht rfl
      have hgood : User.check v = .good user := by
        cases h : User.check v <;> simp [h, Checked.toOption] at hcheck
        exact congrArg _ hcheck.symm
      have hcred : x.request.credential.isSome := by
        rw [hsent.request.credential, hsent.stored]
        exact hs
      have hfound : Found setup x v user := ⟨hsent.request, hcred, hr, hgood⟩
      refine .bind_atOnce (Job.desk_holds (rule.deed hR (.recognised hx hfound))) ?_
      rintro _ _ hR ⟨rfl, -⟩
      split
      · rename_i hrole
        have hkept : Kept s [x] (x.resumed.after (Desk.setUser user)) :=
          ⟨hsent.stored, State.stored_after_setUser ..⟩
        exact .pure hR (openOnly_none.2 ⟨hkept, x, by simp, v, user, hfound, hrole⟩)
      · refine .bind_atOnce (Job.log_holds rule hR) fun w _ hR _ => ?_
        exact .bind_atOnce (announce_holds rule hR) fun w _ hR _ => .pure hR (by simp)

/-- What comes of the check of the security PIN, if it lets the visitor pass. -/
theorem checkPin_holds (rule : Rule setup X op R)
    (hlead : toLogin.Respects X R) (hR : R turn s)
    {route : Route} :
    (checkPin setup (fun c => Service.call setup toLogin c false) route).Holds X R turn s
      fun xs t p => OpenOnly (Kept s xs t ∧
        ∃ x ∈ xs, x.request.IsFor setup pinCall x.asked ∧
          ∃ a, x.reply.answer? = some a ∧ PinClear setup route a) p.2 := by
  unfold checkPin
  refine .bind (Service.call_holds rule hlead hR fun x hx => not_endsVisit rfl hx) ?_
  rintro _ t a hR ⟨x, more, rfl, hx, hsent, hr, hkept⟩
  refine .bind_atOnce (readData_holds rule hR) fun u o hR ⟨hn, ho⟩ => ?_
  split
  · exact .pure hR (by simp)
  rename_i hrej
  obtain ⟨rfl, hxt, -⟩ := hkept (by simpa using hrej)
  have hclear : PinClear setup route a → ∀ v, Noted u v → Kept s [x] v ∧
      ∃ y ∈ [x], y.request.IsFor setup pinCall y.asked ∧
        ∃ b, y.reply.answer? = some b ∧ PinClear setup route b := by
    intro hpin v huv
    have hxv : v.stored = x.resumed.stored := ((hxt.trans hn).trans huv).stored
    exact ⟨⟨hsent.stored, hxv⟩, x, by simp, hsent.request, a, hr, hpin⟩
  cases o with
  | none =>
    refine .bind_atOnce (Job.log_holds rule hR) fun v _ hR huv => ?_
    refine .pure hR (openOnly_none.2 (hclear ⟨by simpa using hrej, ?_⟩ v huv))
    rintro data status rfl hstatus
    simp [hstatus, Checked.toOption] at ho
  | some status =>
    show (if _ then _ else _ : Job _).Holds X R _ u _
    split
    · exact .pure hR (by simp)
    rename_i hpass
    refine .pure hR (openOnly_none.2 (hclear ⟨by simpa using hrej, ?_⟩ u (.refl u)))
    rintro data status' rfl hstatus
    obtain rfl : status = status' := by simpa [hstatus, Checked.toOption] using ho.1
    cases hset : status.isSet <;> simp_all

/-- The part about the role, if it lets the visitor pass. -/
theorem roleStep_holds (rule : Rule setup X op R)
    (hlead : toLogin.Respects X R) (hR : R turn s)
    {route : Route} :
    (roleStep setup (fun c => Service.call setup toLogin c false) route s.stored.isSome).Holds
      X R turn s fun xs t p => OpenOnly (Kept s xs t ∧
        ∀ role, route.policy.role? = some role → s.stored.isSome →
          ∃ x ∈ xs, ∃ data user, Found setup x data user ∧ user.hasRole role) p.2 := by
  unfold roleStep
  split
  · rename_i role hrole hs
    refine .bind (checkRole_holds rule hlead hR hs) ?_
    rintro xs t ⟨a, decision⟩ hR hpass
    refine .pure hR (hpass.imp_right fun hopen hd => ?_)
    obtain ⟨hst, hfound⟩ := hopen hd
    simp only [List.append_nil]
    refine ⟨hst, fun role' hrole' _ => ?_⟩
    obtain rfl : role = role' := Option.some.inj (hrole.symm.trans hrole')
    exact hfound
  · rename_i hno
    refine .pure hR (openOnly_none.2 ⟨rfl, fun role hrole hs => ?_⟩)
    exact absurd hs (hno role hrole)

/-- The part about the security PIN, if it lets the visitor pass. -/
theorem pinStep_holds (rule : Rule setup X op R)
    (hlead : toLogin.Respects X R) (hR : R turn s)
    {route : Route} {hasToken : Bool} :
    (pinStep setup (fun c => Service.call setup toLogin c false) route hasToken).Holds X R turn s
      fun xs t p => OpenOnly (Kept s xs t ∧
        (route.policy.checksPin → hasToken → ∃ x ∈ xs, x.request.IsFor setup pinCall x.asked ∧
          ∃ a, x.reply.answer? = some a ∧ PinClear setup route a)) p.2 := by
  unfold pinStep
  split
  · refine .bind (checkPin_holds rule hlead hR) ?_
    rintro xs t ⟨a, decision⟩ hR hpass
    refine .pure hR (hpass.imp_right fun hopen hd => ?_)
    obtain ⟨hst, hfound⟩ := hopen hd
    simp only [List.append_nil]
    exact ⟨hst, fun _ _ => hfound⟩
  · rename_i hno
    refine .pure hR (openOnly_none.2 ⟨rfl, fun hpin hs => ?_⟩)
    exact absurd (by simp [hpin, hs]) hno

/-- The rules that need nothing but the token never let a visitor in by themselves. -/
theorem rule?_ne_allow {settings : Settings} {route : Route} {hasToken : Bool}
    {decision : Decision} (h : rule? settings route hasToken = some decision) :
    decision ≠ .allow := by
  rintro rfl
  unfold rule? at h
  split at h
  · cases h
  · split at h <;> cases h

/-- Where they leave the verdict open, they have been met. -/
theorem of_rule?_eq_none {settings : Settings} {route : Route} {token : Option Json}
    (h : rule? settings route token.isSome = none) :
    (route.policy.requiresAuth → token.isSome) ∧
      (route.path = settings.loginPath ∨ route.path = settings.registerPath → token = none) := by
  unfold rule? at h
  split at h
  · cases h
  rename_i hauth
  split at h
  · cases h
  rename_i hanonymous
  refine ⟨fun hr => ?_, fun hp => by simpa [hp] using hanonymous⟩
  simpa [hr, Option.isSome_iff_ne_none] using hauth

/-- What has been found out when the gate has reached a verdict. -/
theorem verdictOn_holds (rule : Rule setup X op R)
    (hlead : toLogin.Respects X R) (hR : R turn s)
    {route : Route} :
    (verdictOn setup (fun c => Service.call setup toLogin c false) route).Holds X R turn s
      fun xs t v => v.route = route ∧ v.token = s.stored ∧ (v.decision = .allow →
        Kept s xs t ∧ Admissible setup v xs) := by
  unfold verdictOn
  refine .bind_atOnce (Job.token_holds rule hR) ?_
  rintro t _ hR ⟨hst, rfl⟩
  split
  · rename_i decision hrule
    have hd : decision ≠ .allow := rule?_ne_allow hrule
    split
    · refine .bind_atOnce (Job.log_holds rule hR) fun u _ hR _ => .pure hR ?_
      exact ⟨rfl, rfl, fun h => absurd h hd⟩
    · exact .pure hR ⟨rfl, rfl, fun h => absurd h hd⟩
  rename_i hrule
  obtain ⟨hauth, hanonymous⟩ := of_rule?_eq_none hrule
  rw [← hst.stored] at hauth hanonymous ⊢
  refine .bind (roleStep_holds rule hlead hR) ?_
  rintro xs u ⟨user, decision⟩ hR hrole
  cases decision with
  | some decision => exact .pure hR ⟨rfl, rfl, fun h => absurd (congrArg some h) hrole.1⟩
  | none =>
    obtain ⟨hu, hfound⟩ := hrole.2 rfl
    refine .bind (pinStep_holds rule hlead hR) ?_
    rintro ys w ⟨pin, decision⟩ hR ⟨hne, hopen⟩
    refine .pure hR ⟨rfl, rfl, fun hallow => ?_⟩
    have hd : decision = none := by
      cases decision with
      | none => rfl
      | some d => exact absurd (congrArg some hallow) hne
    obtain ⟨hw, hclear⟩ := hopen hd
    simp only [List.append_nil]
    refine ⟨(hu.of_stored hst.stored).append hw, hauth, hanonymous, fun role hr hs => ?_,
      fun hp hs => ?_⟩
    · obtain ⟨x, hx, hx'⟩ := hfound role hr hs
      exact ⟨x, List.mem_append_left ys hx, hx'⟩
    · obtain ⟨x, hx, hx'⟩ := hclear hp hs
      exact ⟨x, List.mem_append_right xs hx, hx'⟩

end Gate

/-- Where no rule is laid down, none is broken. -/
theorem Rule.unruled : Rule setup X op fun _ _ => True :=
  ⟨fun _ _ => trivial, fun _ _ _ => trivial, fun _ _ => trivial, fun _ _ _ _ => trivial⟩

/-- An evaluation that lets the visitor in has found out all that it has to, and ends with the token
    stored that was stored when it went on last. -/
theorem Evaluation.admits {v : Verdict} {begun done : State} {lookups : List (Exchange State)}
    (h : Evaluation setup v begun lookups done) (hv : v.decision = .allow) :
    v.token = begun.stored ∧ Kept begun lookups done ∧
      Admissible setup v lookups := by
  obtain ⟨toLogin, -, hcourse⟩ := h
  -- The course is looked at on its own here, so the rule that allows everything will do.
  have hlead : ∀ turn (s : State), True → toLogin.Holds (fun _ => True) (fun _ _ => True) turn s
      fun _ _ _ => True :=
    fun turn s _ => (Progress.Goes.unruled (toLogin s) fun _ _ => trivial).mono
      fun _ _ _ _ => ⟨trivial, fun _ _ => trivial⟩
  have rule : Rule setup (fun _ => True) .current fun _ _ => True := .unruled
  have hend : (Gate.verdictOn setup (fun c => Service.call setup toLogin c false) v.route).Holds
      (fun _ => True) (fun _ _ => True) (.first begun) begun _ :=
    Gate.verdictOn_holds rule hlead trivial
  obtain ⟨-, hok⟩ := hend.of_course hcourse fun _ _ => trivial
  obtain ⟨-, htoken, hadmits⟩ := hok v rfl
  exact ⟨htoken, hadmits hv⟩

end Gatehouse
