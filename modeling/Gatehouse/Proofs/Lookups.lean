import Gatehouse.Proofs.Expiry

/-! The gate over a memory, way by way. On its way to a decision it makes lookups, between which
    others may do as they like. A lookup whose credential is rejected ends the session, and it is
    the last one. The grounds of a decision say what it was made for: what the route asks for, the
    token that was stored at first, and whether a lookup was rejected. -/

namespace Gatehouse

/-! ### Lookups -/

/-- Nothing has happened to the credential, nor to where the visitor is. -/
structure Calm (s t : State) : Prop where
  store : t.store = s.store
  slot : t.slot = s.slot
  navigation : t.navigation = s.navigation

namespace Calm

variable {s t u : State}

theorem refl (s : State) : Calm s s := ⟨rfl, rfl, rfl⟩

theorem trans (h : Calm s t) (h' : Calm t u) : Calm s u :=
  ⟨h'.store.trans h.store, h'.slot.trans h.slot, h'.navigation.trans h.navigation⟩

theorem stored (h : Calm s t) : t.stored = s.stored := by
  simp only [Desk.stored, h.store, h.slot]

theorem inMemory (h : Calm s t) (hs : s.store.InMemory) : t.store.InMemory := h.store ▸ hs

theorem noting (s : State) (es : List Event) : Calm s (s.noting es) := ⟨rfl, rfl, rfl⟩

theorem of_noted (h : Noted s t) : Calm s t := by
  obtain ⟨es, -, rfl⟩ := h
  exact .noting s es

theorem of_hushed (h : Hushed s t) : Calm s t := by
  obtain ⟨es, -, rfl⟩ := h
  exact .noting s es

theorem after_setUser (s : State) (user : User) : Calm s (s.after (Desk.setUser user)) :=
  Calm.trans (t := s.holding s.store (s.recognising user)) ⟨rfl, rfl, rfl⟩
    (.of_noted (s.after_setUser user))

end Calm

/-- Lookups are made, one after another. Only the last one may be rejected, which ends the session;
    apart from that, the work itself does nothing to the credential, nor to where the visitor is. -/
inductive Lookups (setup : Setup) : State → List (Exchange State) → State → Bool → Prop
  | done {s t} : Calm s t → Lookups setup s [] t false
  | rejected {s t u x} : Calm s x.asked → x.reply.isRejection → Expired setup x.resumed t →
      Calm t u → Lookups setup s [x] u true
  | passed {s t x xs rejected} : Calm s x.asked → x.reply.isRejection = false →
      Lookups setup x.resumed xs t rejected → Lookups setup s (x :: xs) t rejected

variable {setup : Setup} {s t u : State} {xs ys : List (Exchange State)} {rejected : Bool}

namespace Lookups

theorem after_calm (h : Calm s t) (h' : Lookups setup t xs u rejected) :
    Lookups setup s xs u rejected := by
  cases h' with
  | done hu => exact .done (h.trans hu)
  | rejected hx hrej hexpired hu => exact .rejected (h.trans hx) hrej hexpired hu
  | passed hx hrej hrest => exact .passed (h.trans hx) hrej hrest

theorem then_calm (h : Lookups setup s xs t rejected) (h' : Calm t u) :
    Lookups setup s xs u rejected := by
  induction h with
  | done ht => exact .done (ht.trans h')
  | rejected hx hrej hexpired ht => exact .rejected hx hrej hexpired (ht.trans h')
  | passed hx hrej _ ih => exact .passed hx hrej (ih h')

/-- More lookups are made where none has been rejected. -/
theorem append (h : Lookups setup s xs t false) (h' : Lookups setup t ys u rejected) :
    Lookups setup s (xs ++ ys) u rejected := by
  generalize hno : false = no at h
  induction h with
  | done ht => exact h'.after_calm ht
  | rejected => cases hno
  | passed hx hrej _ ih => exact .passed hx hrej (ih h' hno)

theorem inMemory (h : Lookups setup s xs t rejected) (hs : s.store.InMemory)
    (hxs : ∀ x ∈ xs, x.resumed.store.InMemory) : t.store.InMemory := by
  induction h with
  | done ht => exact ht.inMemory hs
  | rejected _ _ hexpired ht => exact ht.inMemory (hexpired.inMemory (hxs _ (by simp)))
  | passed _ _ _ ih =>
    obtain ⟨hx, hxs⟩ := List.forall_mem_cons.1 hxs
    exact ih hx hxs

/-- No token is stored after a lookup has been rejected. -/
theorem stored_eq_none (h : Lookups setup s xs t true) : t.stored = none := by
  generalize hyes : true = yes at h
  induction h with
  | done => cases hyes
  | rejected _ _ hexpired ht => exact ht.stored.trans hexpired.stored
  | passed _ _ _ ih => exact ih hyes

end Lookups

/-- A fault that has nothing to do with navigation. -/
def Fault.NoNavigation (f : Fault) : Prop := ∀ g, f ≠ .navigation g

theorem Reply.noNavigation_of_outcome {r : Reply} {f : Fault} (h : r.outcome = .error f) :
    f.NoNavigation := by
  rcases Reply.outcome_error h with ⟨g, rfl⟩ | ⟨o, rfl⟩
  · exact fun g => by simp
  · exact fun g => by simp

/-- A call makes one lookup, unless it is stopped before. -/
theorem Setup.call_course {c : Call} {notify : Bool} {r : Except Fault Answer}
    (hs : s.store.InMemory) (h : (setup.call c notify s).Course xs t r)
    (hxs : ∀ x ∈ xs, x.resumed.store.InMemory) :
    (∃ f, r = .error f ∧ f.NoNavigation ∧ Lookups setup s xs t false) ∨
      ∃ a, r = .ok a ∧ Lookups setup s xs t a.isRejection := by
  rcases Service.call_memory setup hs c notify with
    ⟨f, hf, hcall⟩ | ⟨q, -, hcall⟩
  · rw [hcall] at h
    obtain ⟨rfl, rfl, rfl⟩ := Progress.course_ended_iff.1 h
    refine .inl ⟨f, rfl, ?_, .done (.refl _)⟩
    rintro g rfl
    cases hf
  · rw [hcall] at h
    obtain ⟨r', s', ys, rfl, hfinish⟩ := Progress.course_waits_iff.1 h
    obtain ⟨v, b, hend, hconcluded⟩ := Service.finish_memory setup
      (hxs _ List.mem_cons_self) { c with method := Text.upper c.method } notify r'
    rw [hend] at hfinish
    obtain ⟨rfl, rfl, rfl⟩ := Progress.course_ended_iff.1 hfinish
    have hasked : Calm s (s.noting [.requested q]) := .noting s _
    cases hconcluded with
    | @broken f hr =>
      exact .inl ⟨f, rfl, Reply.noNavigation_of_outcome hr,
        .passed hasked (Reply.not_isRejection_of_outcome hr) (.done (.refl _))⟩
    | answered hr ha ht =>
      rw [← Reply.isRejection_of_answer? hr] at ha
      refine .inr ⟨_, rfl, ?_⟩
      rw [← Reply.isRejection_of_answer? hr, ha]
      exact .passed hasked ha (.done (.of_noted ht))
    | rejected hr ha hexpired =>
      refine .inr ⟨_, rfl, ?_⟩
      rw [ha]
      refine .rejected hasked ?_ hexpired (.refl _)
      rw [Reply.isRejection_of_answer? hr, ha]

/-- Work that begins with a lookup is stopped there, or goes on with the answer. -/
theorem Setup.lookup_bind_course {α : Type} {c : Call} {next : Answer → Job α} {r : Except Fault α}
    (hs : s.store.InMemory) (h : ((setup.lookup c >>= next) s).Course xs t r)
    (hxs : ∀ x ∈ xs, x.resumed.store.InMemory) :
    (∃ f, r = .error f ∧ f.NoNavigation ∧ Lookups setup s xs t false) ∨
      ∃ a ys zs u, xs = ys ++ zs ∧ Lookups setup s ys u a.isRejection ∧
        (next a u).Course zs t r := by
  rcases Flow.course_bind_iff.1 h with ⟨f, hcall, rfl⟩ | ⟨ys, zs, u, a, rfl, hcall, hnext⟩
  · rcases call_course hs hcall hxs with ⟨f', hf, hno, hlookups⟩ | ⟨a, ha, -⟩
    · cases hf
      exact .inl ⟨f, rfl, hno, hlookups⟩
    · cases ha
  · rcases call_course hs hcall (List.forall_mem_append.1 hxs).1 with
      ⟨f, hf, -⟩ | ⟨a', ha, hlookups⟩
    · cases hf
    · cases ha
      exact .inr ⟨a, ys, zs, u, rfl, hlookups, hnext⟩

/-! ### Grounds of decisions -/

/-- Where a decision sends the visitor. -/
def Decision.target? : Decision → Option String
  | allow => none
  | redirect target _ => some target

/-- What comes of lookups for a visit to a route: a fault, nothing against the visit, or the route
    to which the visitor is sent instead. -/
inductive Findings (setup : Setup) (route : Route) :
    Bool → Except Fault (Option String) → Prop
  | broken {f} : f.NoNavigation → Findings setup route false (.error f)
  | clear : Findings setup route false (.ok none)
  | userLookupFailed {rejected : Bool} : route.policy.role?.isSome →
      Findings setup route rejected (.ok (some setup.settings.loginPath))
  | roleMismatch : route.policy.role?.isSome →
      Findings setup route false (.ok (some setup.settings.landingPath))
  | credentialRejected : route.policy.checksPin →
      Findings setup route true (.ok (some setup.settings.loginPath))
  | pinMissing : route.policy.checksPin → route.path ≠ setup.settings.enrollmentPath →
      Findings setup route false (.ok (some setup.settings.enrollmentPath))

/-- What the gate decides on a visit to a route, and for what: the token that was stored at first
    decides, or the lookups do. -/
inductive Grounds (setup : Setup) (route : Route) (token : Option Json) :
    List (Exchange State) → Bool → Except Fault (Option String) → Prop
  | unauthenticated : route.policy.requiresAuth → token = none →
      Grounds setup route token [] false (.ok (some setup.settings.loginPath))
  | alreadyAuthenticated : token.isSome →
      route.path = setup.settings.loginPath ∨ route.path = setup.settings.registerPath →
      Grounds setup route token [] false (.ok (some setup.settings.landingPath))
  | looked {xs rejected target} : (route.policy.requiresAuth → token.isSome) →
      Findings setup route rejected target → Grounds setup route token xs rejected target

variable {route : Route} {target : Except Fault (Option String)}

/-- No evaluation is stopped by a fault of navigation. -/
theorem Grounds.noNavigation {token : Option Json} {f : Fault}
    (h : Grounds setup route token xs rejected (.error f)) : f.NoNavigation := by
  cases h with
  | looked _ hfindings =>
    cases hfindings with
    | broken hf => exact hf

/-- A lookup that is rejected speaks against the visit. -/
theorem Findings.not_rejected (h : Findings setup route rejected (.ok none)) :
    rejected = false := by
  cases h
  rfl

/-- What is read from the data of an answer, if it has any and they are as they should be. -/
def Answer.read {α : Type} (check : Json → Checked α) : Answer → Option α
  | .data v => (check v).toOption
  | .failure _ => none

theorem Answer.read_of_isRejection {α : Type} (check : Json → Checked α) {a : Answer}
    (h : a.isRejection) : a.read check = none := by
  cases a with
  | data v => cases h
  | failure f => rfl

namespace Gate

/-- Reading data leaves no more than a silent event behind. -/
theorem readData_apply {α : Type} (title : String) (check : Json → Checked α) (a : Answer)
    (s : State) : ∃ t, readData title check a s = .ended t (.ok (a.read check)) ∧ Hushed s t := by
  cases a with
  | failure f => exact ⟨s, rfl, .refl s⟩
  | data v =>
    simp only [readData, Answer.read]
    cases check v with
    | good a => exact ⟨s, rfl, .refl s⟩
    | bad mistakes => exact ⟨_, rfl, .logged s (by decide) ..⟩

/-- The outcome of the check of the role. -/
theorem checkRole_course {role : Role} {r : Except Fault (Answer × Option Decision)}
    (hs : s.store.InMemory) (h : (checkRole setup setup.lookup route role s).Course xs t r)
    (hxs : ∀ x ∈ xs, x.resumed.store.InMemory) (hrole : route.policy.role?.isSome) :
    ∃ rejected, Lookups setup s xs t rejected ∧
      Findings setup route rejected (r.map fun p => p.2.bind Decision.target?) := by
  rcases Setup.lookup_bind_course hs h hxs with
    ⟨f, rfl, hno, hlookups⟩ | ⟨a, ys, zs, u, rfl, hlookups, hrest⟩
  · exact ⟨false, hlookups, .broken hno⟩
  -- From here on the work goes to its end at once.
  obtain ⟨v, hread, hhushed⟩ := readData_apply "user information" User.check a u
  have hv : Lookups setup s ys v a.isRejection := hlookups.then_calm (.of_hushed hhushed)
  rw [Flow.bind_of_ok hread] at hrest
  cases huser : a.read User.check with
  | none =>
    rw [huser] at hrest
    dsimp only at hrest
    rw [Job.log_bind] at hrest
    obtain ⟨rfl, hcalm, rfl⟩ : zs = [] ∧ Calm v t ∧
        r = .ok (a, some (.redirect setup.settings.loginPath .userLookupFailed)) := by
      -- The failure is announced, unless it is a rejection, which has been announced before.
      cases hrej : a.isRejection with
      | true =>
        simp only [hrej] at hrest
        obtain ⟨rfl, rfl, rfl⟩ := Progress.course_ended_iff.1 hrest
        exact ⟨rfl, ⟨rfl, rfl, rfl⟩, rfl⟩
      | false =>
        simp only [hrej] at hrest
        obtain ⟨rfl, rfl, rfl⟩ := Progress.course_ended_iff.1 hrest
        exact ⟨rfl, ⟨rfl, rfl, rfl⟩, rfl⟩
    exact ⟨_, by simpa using hv.then_calm hcalm, .userLookupFailed hrole⟩
  | some user =>
    have hrej : a.isRejection = false :=
      Bool.eq_false_iff.2 fun h => by simp [Answer.read_of_isRejection User.check h] at huser
    rw [hrej] at hv
    have hw := hv.then_calm (.after_setUser v user)
    rw [huser] at hrest
    dsimp only at hrest
    rw [Job.desk_bind, State.result_setUser] at hrest
    dsimp only at hrest
    split at hrest
    · obtain ⟨rfl, rfl, rfl⟩ := Progress.course_ended_iff.1 hrest
      exact ⟨false, by simpa using hw, .clear⟩
    · rw [Job.log_bind] at hrest
      obtain ⟨rfl, rfl, rfl⟩ := Progress.course_ended_iff.1 hrest
      refine ⟨false, ?_, .roleMismatch hrole⟩
      rw [List.append_nil]
      exact hw.then_calm ⟨rfl, rfl, rfl⟩

/-- The outcome of the check of the security PIN. -/
theorem checkPin_course {r : Except Fault (Answer × Option Decision)} (hs : s.store.InMemory)
    (h : (checkPin setup setup.lookup route s).Course xs t r)
    (hxs : ∀ x ∈ xs, x.resumed.store.InMemory) (hpin : route.policy.checksPin) :
    ∃ rejected, Lookups setup s xs t rejected ∧
      Findings setup route rejected (r.map fun p => p.2.bind Decision.target?) := by
  rcases Setup.lookup_bind_course hs h hxs with
    ⟨f, rfl, hno, hlookups⟩ | ⟨a, ys, zs, u, rfl, hlookups, hrest⟩
  · exact ⟨false, hlookups, .broken hno⟩
  obtain ⟨v, hread, hhushed⟩ := readData_apply "security PIN status" PinStatus.check a u
  have hv : Lookups setup s ys v a.isRejection := hlookups.then_calm (.of_hushed hhushed)
  rw [Flow.bind_of_ok hread] at hrest
  cases hrej : a.isRejection with
  | true =>
    rw [hrej] at hv
    simp only [hrej, if_true] at hrest
    obtain ⟨rfl, rfl, rfl⟩ := Progress.course_ended_iff.1 hrest
    exact ⟨true, by simpa using hv, .credentialRejected hpin⟩
  | false =>
    rw [hrej] at hv
    simp only [hrej] at hrest
    cases hstatus : a.read PinStatus.check with
    | none =>
      rw [hstatus] at hrest
      obtain ⟨rfl, rfl, rfl⟩ := Progress.course_ended_iff.1 hrest
      refine ⟨false, ?_, .clear⟩
      rw [List.append_nil]
      exact hv.then_calm ⟨rfl, rfl, rfl⟩
    | some status =>
      rw [hstatus] at hrest
      by_cases hmissing : !status.isSet && route.path ≠ setup.settings.enrollmentPath
      · simp only [hmissing] at hrest
        obtain ⟨rfl, rfl, rfl⟩ := Progress.course_ended_iff.1 hrest
        refine ⟨false, by simpa using hv, .pinMissing hpin ?_⟩
        simp only [Bool.and_eq_true, decide_eq_true_eq] at hmissing
        exact hmissing.2
      · simp only [hmissing] at hrest
        obtain ⟨rfl, rfl, rfl⟩ := Progress.course_ended_iff.1 hrest
        exact ⟨false, by simpa using hv, .clear⟩

theorem roleStep_course {hasToken : Bool} {r : Except Fault (Option Answer × Option Decision)}
    (hs : s.store.InMemory) (h : (roleStep setup setup.lookup route hasToken s).Course xs t r)
    (hxs : ∀ x ∈ xs, x.resumed.store.InMemory) :
    ∃ rejected, Lookups setup s xs t rejected ∧
      Findings setup route rejected (r.map fun p => p.2.bind Decision.target?) := by
  cases hrole : route.policy.role? with
  | none =>
    simp only [roleStep, hrole] at h
    obtain ⟨rfl, rfl, rfl⟩ := Progress.course_ended_iff.1 h
    exact ⟨false, .done (.refl _), .clear⟩
  | some role =>
    cases hasToken with
    | false =>
      simp only [roleStep, hrole] at h
      obtain ⟨rfl, rfl, rfl⟩ := Progress.course_ended_iff.1 h
      exact ⟨false, .done (.refl _), .clear⟩
    | true =>
      have hrole' : route.policy.role?.isSome := by simp [hrole]
      simp only [roleStep, hrole] at h
      obtain ⟨r', hcheck, rfl⟩ := Flow.course_bind_pure_iff.1 h
      cases r' <;> exact checkRole_course hs hcheck hxs hrole'

theorem pinStep_course {hasToken : Bool} {r : Except Fault (Option Answer × Option Decision)}
    (hs : s.store.InMemory) (h : (pinStep setup setup.lookup route hasToken s).Course xs t r)
    (hxs : ∀ x ∈ xs, x.resumed.store.InMemory) :
    ∃ rejected, Lookups setup s xs t rejected ∧
      Findings setup route rejected (r.map fun p => p.2.bind Decision.target?) := by
  unfold pinStep at h
  by_cases hlook : (route.policy.checksPin && hasToken) = true
  · rw [if_pos hlook] at h
    obtain ⟨hpin, -⟩ := Bool.and_eq_true_iff.1 hlook
    obtain ⟨r', hcheck, rfl⟩ := Flow.course_bind_pure_iff.1 h
    cases r' <;> exact checkPin_course hs hcheck hxs hpin
  · rw [if_neg hlook] at h
    obtain ⟨rfl, rfl, rfl⟩ := Progress.course_ended_iff.1 h
    exact ⟨false, .done (.refl _), .clear⟩

/-- The rules that need nothing but the token decide on the grounds that they name. -/
theorem grounds_of_rule? {token : Option Json} {decision : Decision}
    (h : rule? setup.settings route token.isSome = some decision) :
    Grounds setup route token [] false (.ok decision.target?) := by
  unfold rule? at h
  split at h
  · rename_i hblocked
    cases h
    simp only [Bool.and_eq_true, Bool.not_eq_true', Option.isSome_eq_false_iff,
      Option.isNone_iff_eq_none] at hblocked
    exact .unauthenticated hblocked.1 hblocked.2
  · split at h
    · rename_i hsigned
      cases h
      simp only [Bool.and_eq_true, Bool.or_eq_true, decide_eq_true_eq] at hsigned
      exact .alreadyAuthenticated hsigned.1 hsigned.2
    · cases h

/-- The outcome of an evaluation. -/
theorem verdictOn_course {r : Except Fault Verdict} (hs : s.store.InMemory)
    (h : (verdictOn setup setup.lookup route s).Course xs t r)
    (hxs : ∀ x ∈ xs, x.resumed.store.InMemory) :
    ∃ rejected, Lookups setup s xs t rejected ∧
      Grounds setup route s.stored xs rejected (r.map (·.decision.target?)) := by
  rw [verdictOn, Job.token_bind hs] at h
  cases hrule : rule? setup.settings route s.stored.isSome with
  | some decision =>
    simp only [hrule] at h
    obtain ⟨rfl, hcalm, hr⟩ : xs = [] ∧ Calm s t ∧
        r = .ok ⟨route, s.stored, none, none, decision⟩ := by
      split at h
      · obtain ⟨rfl, rfl, rfl⟩ := Progress.course_ended_iff.1 h
        exact ⟨rfl, ⟨rfl, rfl, rfl⟩, rfl⟩
      · obtain ⟨rfl, rfl, rfl⟩ := Progress.course_ended_iff.1 h
        exact ⟨rfl, .refl _, rfl⟩
    exact ⟨false, .done hcalm, hr ▸ grounds_of_rule? hrule⟩
  | none =>
    simp only [hrule] at h
    have hauth := (of_rule?_eq_none hrule).1
    rcases Flow.course_bind_iff.1 h with ⟨f, hrole, rfl⟩ | ⟨ys, zs, u, p, rfl, hrole, hrest⟩
    · obtain ⟨rejected, hlookups, hfindings⟩ := roleStep_course hs hrole hxs
      exact ⟨rejected, hlookups, .looked hauth hfindings⟩
    obtain ⟨hys, hzs⟩ := List.forall_mem_append.1 hxs
    obtain ⟨rejected, hlookups, hfindings⟩ := roleStep_course hs hrole hys
    obtain ⟨user, decision⟩ := p
    cases decision with
    | some decision =>
      obtain ⟨rfl, rfl, rfl⟩ := Progress.course_ended_iff.1 hrest
      rw [List.append_nil]
      exact ⟨rejected, hlookups, .looked hauth hfindings⟩
    | none =>
      obtain rfl := hfindings.not_rejected
      obtain ⟨r', hpin, rfl⟩ := Flow.course_bind_pure_iff.1 hrest
      obtain ⟨rejected, hlookups', hfindings'⟩ := pinStep_course (hlookups.inMemory hs hys) hpin hzs
      refine ⟨rejected, hlookups.append hlookups', .looked hauth ?_⟩
      rcases r' with f | ⟨pin, _ | decision⟩
      · exact hfindings'
      · exact hfindings'
      · exact hfindings'

/-- A verdict that is entered in the journal is that of the evaluation. -/
theorem judge_course {r : Except Fault Verdict} (hs : s.store.InMemory)
    (h : (setup.judge route s).Course xs t r) (hxs : ∀ x ∈ xs, x.resumed.store.InMemory) :
    ∃ rejected, Lookups setup s xs t rejected ∧
      Grounds setup route s.stored xs rejected (r.map (·.decision.target?)) := by
  rcases Flow.course_bind_iff.1 h with ⟨f, hverdict, rfl⟩ | ⟨ys, zs, u, v, rfl, hverdict, hend⟩
  · exact verdictOn_course hs hverdict hxs
  · obtain ⟨rfl, rfl, rfl⟩ := Progress.course_ended_iff.1 hend
    rw [List.append_nil] at hxs ⊢
    obtain ⟨rejected, hlookups, hgrounds⟩ := verdictOn_course hs hverdict hxs
    exact ⟨rejected, hlookups.then_calm (.noting u [.judged v]), hgrounds⟩

end Gate

/-- Where a walk is led on to from a route that has no redirect of its own. -/
theorem Walk.onward_course {r : Except Fault (Option String)} (hs : s.store.InMemory)
    (h : (onward setup setup.lookup route s).Course xs t r)
    (hxs : ∀ x ∈ xs, x.resumed.store.InMemory) (hroute : route.redirect? = none) :
    ∃ rejected, Lookups setup s xs t rejected ∧ Grounds setup route s.stored xs rejected r := by
  simp only [onward, hroute] at h
  rcases Flow.course_bind_iff.1 h with ⟨f, hjudge, rfl⟩ | ⟨ys, zs, u, v, rfl, hjudge, hrest⟩
  · exact Gate.judge_course hs hjudge hxs
  · obtain ⟨hys, -⟩ := List.forall_mem_append.1 hxs
    obtain ⟨rejected, hlookups, hgrounds⟩ := Gate.judge_course hs hjudge hys
    obtain ⟨rfl, hcalm, rfl⟩ : zs = [] ∧ Calm u t ∧ r = .ok v.decision.target? := by
      cases hd : v.decision with
      | allow =>
        simp only [hd] at hrest
        obtain ⟨rfl, rfl, rfl⟩ := Progress.course_ended_iff.1 hrest
        exact ⟨rfl, ⟨rfl, rfl, rfl⟩, rfl⟩
      | redirect target why =>
        simp only [hd] at hrest
        obtain ⟨rfl, rfl, rfl⟩ := Progress.course_ended_iff.1 hrest
        exact ⟨rfl, ⟨rfl, rfl, rfl⟩, rfl⟩
    rw [List.append_nil]
    exact ⟨rejected, hlookups.then_calm hcalm, hgrounds⟩

/-- A memory is one still when a walk has looked at a route. -/
theorem Walk.inMemory_of_onward {r : Except Fault (Option String)} (hs : s.store.InMemory)
    (h : (onward setup setup.lookup route s).Course xs t r)
    (hxs : ∀ x ∈ xs, x.resumed.store.InMemory) : t.store.InMemory := by
  cases hroute : route.redirect? with
  | some target =>
    simp only [onward, hroute] at h
    obtain ⟨-, rfl, -⟩ := Progress.course_ended_iff.1 h
    exact hs
  | none =>
    obtain ⟨rejected, hlookups, -⟩ := onward_course hs h hxs hroute
    exact hlookups.inMemory hs hxs

end Gatehouse
