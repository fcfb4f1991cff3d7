import Gatehouse.Proofs.Clauses
import Gatehouse.Proofs.Rechecked
import Gatehouse.Proofs.Redirects

/-! The special routes, as the gate recognises them: by their paths as the settings write them. The
    table looks the same paths up in normal form, so the two agree on a path that is written so, and
    not always on others. Then the gate takes no notice of an entrance or sends a visitor from the
    enrollment back to it, and the settings let a landing route pass that is an entrance. -/

namespace Gatehouse

/-! ### The rulings of the policy -/

namespace Settings

/-- The path is written as that of the login route or of the registration route. -/
def IsEntry (s : Settings) (path : String) : Prop := path = s.loginPath ∨ path = s.registerPath

instance (s : Settings) (path : String) : Decidable (s.IsEntry path) :=
  inferInstanceAs (Decidable (_ ∨ _))

/-- Where the gate sends visitors for a reason. -/
def targetOf (s : Settings) : Reason → String
  | .unauthenticated => s.loginPath
  | .alreadyAuthenticated => s.landingPath
  | .userLookupFailed => s.loginPath
  | .roleMismatch => s.landingPath
  | .credentialRejected => s.loginPath
  | .pinMissing => s.enrollmentPath

theorem not_isEntry_of_checkLanding {s : Settings} (h : checkLanding s = .good s) :
    ¬s.IsEntry s.landingPath := by
  unfold checkLanding at h
  split at h
  case isTrue => cases h
  case isFalse apart => simpa [IsEntry] using apart

end Settings

theorem State.result_token_of_stored {s : State} {token : Json} (h : s.stored = some token) :
    s.result Desk.token = .ok (some token) := by
  show (s.store.token s.slot).result = _
  have join : (s.store.token s.slot).result.toOption.join = some token := h
  cases read : (s.store.token s.slot).result with
  | error f => simp [read, Except.toOption] at join
  | ok found => simpa [read, Except.toOption] using join

/-- What comes of work that ends at once when it has an answer. -/
theorem Flow.value_of_weighed {σ α β : Type} {work : Flow σ α} {weigh : α → Flow σ β} {g : α → β}
    {s t : σ} {xs : List (Exchange σ)} {b : β}
    (hweigh : ∀ a u, ∃ w, weigh a u = .ended w (.ok (g a)))
    (h : ((work >>= weigh) s).Course xs t (.ok b)) : ∃ a, b = g a := by
  rcases course_bind_iff.mp h with ⟨_, -, hfault⟩ | ⟨_, _, u, a, -, -, hend⟩
  · cases hfault
  · obtain ⟨w, hw⟩ := hweigh a u
    rw [hw] at hend
    exact ⟨a, Except.ok.inj (Progress.course_ended_iff.mp hend).2.2⟩

namespace Gate

namespace Facts

variable {f : Facts} {target : String} {why : Reason} {d : Decision}

/-- What a reason rests on. -/
def grounds (f : Facts) : Reason → Bool
  | .unauthenticated => f.route.policy.requiresAuth && !f.signedIn
  | .alreadyAuthenticated => f.signedIn &&
      (f.route.path = f.settings.loginPath || f.route.path = f.settings.registerPath)
  | .userLookupFailed => f.wantsRole && f.user?.isNone
  | .roleMismatch => f.wantsRole && f.mismatched
  | .credentialRejected => f.wantsPin && f.pin.isRejection
  | .pinMissing =>
      f.wantsPin && f.status?.any (!·.isSet) && f.route.path ≠ f.settings.enrollmentPath

/-- The clause that redirects for a reason. -/
def clauseOf (f : Facts) (why : Reason) : Clause :=
  ⟨f.grounds why, .redirect (f.settings.targetOf why) why⟩

theorem clauses_eq : f.tokenClauses ++ f.userClauses =
      [.unauthenticated, .alreadyAuthenticated, .userLookupFailed, .roleMismatch].map f.clauseOf ∧
    f.pinClauses = [.credentialRejected, .pinMissing].map f.clauseOf := ⟨rfl, rfl⟩

theorem of_first_clauseOf {reasons : List Reason} (h : first (reasons.map f.clauseOf) = some d) :
    ∃ why ∈ reasons, f.grounds why ∧ d = .redirect (f.settings.targetOf why) why := by
  obtain ⟨c, found, rfl⟩ := Option.map_eq_some_iff.mp h
  obtain ⟨why, listed, rfl⟩ := List.mem_map.mp (List.mem_of_find?_eq_some found)
  have applies := List.find?_some found
  exact ⟨why, listed, applies, rfl⟩

/-- A redirect has its grounds, and the reason tells the target. -/
theorem of_ruling (h : f.ruling = .redirect target why) :
    f.grounds why ∧ target = f.settings.targetOf why := by
  rw [ruling, clauses_eq.1, clauses_eq.2, ← List.map_append] at h
  cases decided : first (List.map f.clauseOf _) with
  | none =>
    rw [decided] at h
    cases h
  | some d =>
    obtain ⟨why', -, grounds, rfl⟩ := of_first_clauseOf decided
    rw [decided] at h
    obtain ⟨rfl, rfl⟩ := Decision.redirect.inj h
    exact ⟨grounds, rfl⟩

/-- Visitors who have signed in are sent on to the landing route from the routes that are written as
    entrances, and from no other for this reason. -/
theorem ruling_alreadyAuthenticated_iff :
    f.ruling = .redirect f.settings.landingPath .alreadyAuthenticated ↔
      f.signedIn ∧ f.settings.IsEntry f.route.path := by
  have same : f.grounds .alreadyAuthenticated ↔ f.signedIn ∧ f.settings.IsEntry f.route.path := by
    simp [grounds, Settings.IsEntry]
  rw [← same]
  constructor
  · exact fun h => (of_ruling h).1
  · intro grounds
    have signedIn : f.signedIn := (same.mp grounds).1
    refine (of_tokenClauses ?_).1
    rw [tokenClauses, first_cons, if_neg (by simp [signedIn]), first_cons]
    exact if_pos grounds

/-- A visitor is sent to set the security PIN if its status was asked for, it is not set, and the
    path of the route is not written as that of the enrollment. -/
theorem ruling_pinMissing_iff :
    f.ruling = .redirect f.settings.enrollmentPath .pinMissing ↔
      f.asksPin ∧ f.status?.any (!·.isSet) ∧ f.route.path ≠ f.settings.enrollmentPath := by
  have early : ∀ d, first (f.tokenClauses ++ f.userClauses) = some d →
      f.ruling = d ∧ d ≠ .redirect f.settings.enrollmentPath .pinMissing := by
    intro d decided
    refine ⟨by rw [ruling, first_append, decided]; rfl, ?_⟩
    rw [clauses_eq.1] at decided
    obtain ⟨why, listed, -, rfl⟩ := of_first_clauseOf decided
    rintro h
    obtain rfl := (Decision.redirect.inj h).2
    exact absurd listed (by decide)
  rw [asksPin, Bool.and_eq_true]
  cases decided : first (f.tokenClauses ++ f.userClauses) with
  | some d =>
    obtain ⟨rfl, other⟩ := early d decided
    exact iff_of_false other (by simp)
  | none =>
    constructor
    · intro h
      simpa [grounds, and_assoc] using (of_ruling h).1
    · rintro ⟨⟨wants, -⟩, missing, elsewhere⟩
      have accepted : f.pin.isRejection = false := by
        refine Bool.eq_false_iff.mpr fun rejected => ?_
        simp [status?, Answer.read_of_isRejection PinStatus.check rejected] at missing
      rw [ruling, first_append, decided, pinClauses, first_cons, first_cons]
      simp [accepted, wants, missing, elsewhere]

end Facts

/-! ### Verdicts -/

/-- A verdict is the ruling of the policy over some facts. The answers that it rests on are told by
    these facts, each if the policy asks for it. -/
structure Follows (v : Verdict) (f : Facts) : Prop where
  route : v.route = f.route
  signedIn : f.signedIn = v.token.isSome
  user : v.user = if f.asksUser then some f.user else none
  pin : v.pin = if f.asksPin then some f.pin else none
  decision : v.decision = f.ruling

variable {setup : Setup} {ask : Call → Job Answer} {f : Facts} {s t : State}
  {xs : List (Exchange State)} {route : Route} {v : Verdict}

namespace Follows

variable {token : Option Json} {d : Decision} (signedIn : f.signedIn = token.isSome)

include signedIn

theorem of_token (decided : first f.tokenClauses = some d) :
    Follows ⟨f.route, token, none, none, d⟩ f := by
  obtain ⟨ruling, user, pin⟩ := Facts.of_tokenClauses decided
  exact ⟨rfl, signedIn, by simp [user], by simp [pin], ruling.symm⟩

theorem of_user (passed : first f.tokenClauses = none) (decided : first f.userClauses = some d) :
    Follows ⟨f.route, token, if f.wantsRole then some f.user else none, none, d⟩ f := by
  obtain ⟨ruling, user, pin⟩ := Facts.of_userClauses passed decided
  exact ⟨rfl, signedIn, by rw [user], by simp [pin], ruling.symm⟩

theorem of_pin (passed : first f.tokenClauses = none) (passed' : first f.userClauses = none) :
    Follows ⟨f.route, token, if f.wantsRole then some f.user else none,
      if f.wantsPin then some f.pin else none, (first f.pinClauses).getD .allow⟩ f := by
  obtain ⟨ruling, user, pin⟩ := Facts.of_pinClauses passed passed'
  exact ⟨rfl, signedIn, by rw [user], by rw [pin], ruling.symm⟩

end Follows

theorem roleStep_decides {o : Option Answer} {d : Option Decision}
    (hf : f.settings = setup.settings)
    (h : (roleStep setup ask f.route f.signedIn s).Course xs t (.ok (o, d))) :
    ∃ user, o = (if f.wantsRole then some user else none) ∧
      d = first { f with user := user }.userClauses := by
  cases hrole : f.route.policy.role? with
  | none =>
    simp only [roleStep, hrole] at h
    obtain ⟨-, -, hend⟩ := Progress.course_ended_iff.mp h
    cases hend
    exact ⟨f.user, by simp [Facts.wantsRole, hrole],
      by simp [Facts.userClauses, first_cons, Facts.wantsRole, hrole]⟩
  | some role =>
    cases hsigned : f.signedIn with
    | false =>
      simp only [roleStep, hrole, hsigned] at h
      obtain ⟨-, -, hend⟩ := Progress.course_ended_iff.mp h
      cases hend
      exact ⟨f.user, by simp [Facts.wantsRole, hsigned],
        by simp [Facts.userClauses, first_cons, Facts.wantsRole]⟩
    | true =>
      simp only [roleStep, hrole, hsigned] at h
      obtain ⟨_ | ⟨answer, decision⟩, hcheck, hend⟩ := Flow.course_bind_pure_iff.mp h
      · cases hend
      cases hend
      rw [checkRole_eq] at hcheck
      obtain ⟨user, hweighed⟩ := Flow.value_of_weighed (fun a u => by
        obtain ⟨w, hw, -⟩ := weighRole_apply (f := { f with user := a }) hf hrole hsigned u
        exact ⟨w, hw⟩) hcheck
      cases hweighed
      exact ⟨user, by simp [Facts.wantsRole, hrole, hsigned], by simp only [hsigned]⟩

theorem pinStep_decides {o : Option Answer} {d : Option Decision}
    (hf : f.settings = setup.settings)
    (h : (pinStep setup ask f.route f.signedIn s).Course xs t (.ok (o, d))) :
    ∃ pin, o = (if f.wantsPin then some pin else none) ∧
      d = first { f with pin := pin }.pinClauses := by
  have hwants : f.wantsPin = (f.route.policy.checksPin && f.signedIn) := rfl
  rw [pinStep, ← hwants] at h
  split at h
  case isFalse hno =>
    obtain ⟨-, -, hend⟩ := Progress.course_ended_iff.mp h
    cases hend
    have hno' : { f with pin := f.pin }.wantsPin = false := by simpa using hno
    exact ⟨f.pin, by rw [if_neg hno], by simp [Facts.pinClauses, first_cons, hno']⟩
  case isTrue hyes =>
    obtain ⟨_ | ⟨answer, decision⟩, hcheck, hend⟩ := Flow.course_bind_pure_iff.mp h
    · cases hend
    cases hend
    rw [checkPin_eq] at hcheck
    obtain ⟨pin, hweighed⟩ := Flow.value_of_weighed (fun a u => by
      obtain ⟨w, hw, -⟩ := weighPin_apply (f := { f with pin := a }) hf hyes u
      exact ⟨w, hw⟩) hcheck
    cases hweighed
    exact ⟨pin, by rw [if_pos hyes], rfl⟩

/-- Whoever is asked and whatever is replied, a verdict is a ruling of the policy. -/
theorem verdictOn_follows (h : (verdictOn setup ask route s).Course xs t (.ok v)) :
    v.token = s.stored ∧
      ∃ f : Facts, f.settings = setup.settings ∧ f.route = route ∧ Follows v f := by
  rcases Flow.course_bind_iff.mp h with ⟨_, -, hfault⟩ | ⟨_, _, u, token, -, htoken, hrest⟩
  · cases hfault
  have hdesk : Job.desk Desk.token s = .ended (s.after Desk.token) (s.result Desk.token) := rfl
  rw [hdesk] at htoken
  have hread := (Progress.course_ended_iff.mp htoken).2.2
  have hstored : token = s.stored := (State.stored_of_token hread.symm).symm
  -- As long as nobody has been asked, the answers of the facts may be any.
  let f : Facts := ⟨setup.settings, route, token.isSome, .data .null, .data .null⟩
  have hfirst : rule? setup.settings route token.isSome = first f.tokenClauses := rule?_eq_first f
  rw [hfirst] at hrest
  cases hrule : first f.tokenClauses with
  | some decision =>
    rw [hrule] at hrest
    dsimp only at hrest
    obtain rfl : v = ⟨route, token, none, none, decision⟩ := by
      split at hrest
      · exact Except.ok.inj (Progress.course_ended_iff.mp hrest).2.2
      · exact Except.ok.inj (Progress.course_ended_iff.mp hrest).2.2
    exact ⟨hstored, f, rfl, rfl, .of_token rfl hrule⟩
  | none =>
    rw [hrule] at hrest
    rcases Flow.course_bind_iff.mp hrest with ⟨_, -, hfault⟩ | ⟨_, _, w, ⟨o, d⟩, -, hrole, hrest⟩
    · cases hfault
    obtain ⟨user, rfl, hd⟩ := roleStep_decides (f := f) rfl hrole
    cases d with
    | some decision =>
      obtain rfl := Except.ok.inj (Progress.course_ended_iff.mp hrest).2.2
      have follows := Follows.of_user (f := { f with user := user }) rfl hrule hd.symm
      exact ⟨hstored, _, rfl, rfl, follows⟩
    | none =>
      obtain ⟨_ | ⟨o, d⟩, hcheck, hend⟩ := Flow.course_bind_pure_iff.mp hrest
      · cases hend
      obtain rfl := Except.ok.inj hend
      obtain ⟨pin, rfl, rfl⟩ := pinStep_decides (f := { f with user := user }) rfl hcheck
      have follows := Follows.of_pin (f := { f with user := user, pin := pin }) rfl hrule hd.symm
      exact ⟨hstored, _, rfl, rfl, follows⟩

theorem judge_follows (h : (judge setup ask route s).Course xs t (.ok v)) :
    v.token = s.stored ∧
      ∃ f : Facts, f.settings = setup.settings ∧ f.route = route ∧ Follows v f := by
  rcases Flow.course_bind_iff.mp h with ⟨_, -, hfault⟩ | ⟨_, _, _, _, -, hverdict, hend⟩
  · cases hfault
  · obtain rfl := Except.ok.inj (Progress.course_ended_iff.mp hend).2.2
    exact verdictOn_follows hverdict

/-! ### Entrances -/

theorem judge_entry (ask : Call → Job Answer) (signedIn : s.stored.isSome)
    (entry : setup.settings.IsEntry route.path) :
    ∃ t v, judge setup ask route s = .ended t (.ok v) ∧ t.stored = s.stored ∧
      v.decision = .redirect setup.settings.landingPath .alreadyAuthenticated := by
  obtain ⟨token, hstored⟩ := Option.isSome_iff_exists.mp signedIn
  have hrule : rule? setup.settings route (some token).isSome =
      some (.redirect setup.settings.landingPath .alreadyAuthenticated) := by
    rw [rule?, if_neg (by simp), if_pos (by simpa [Settings.IsEntry] using entry)]
  let v : Verdict := ⟨route, some token, none, none,
    .redirect setup.settings.landingPath .alreadyAuthenticated⟩
  have hverdict : verdictOn setup ask route s = .ended (s.after Desk.token) (.ok v) := by
    rw [verdictOn, Job.desk_bind, State.result_token_of_stored hstored]
    simp only [hrule]
    rw [if_neg (by simp)]
    rfl
  refine ⟨(s.after Desk.token).noting [.judged v], v, ?_, s.after_token.stored, rfl⟩
  rw [judge, Flow.bind_of_ok hverdict, Job.record_bind]
  rfl

end Gate

namespace Walk

variable {setup : Setup} {ask : Call → Job Answer} {s : State} {route : Route} {target : String}

/-- A walk that is sent from a route back to it fails when it has followed all its redirects. -/
theorem follow_circles (back : setup.table.resolve target = .ok route)
    (round : ∀ s : State, s.stored.isSome →
      ∃ t, onward setup ask route s = .ended t (.ok (some target)) ∧ t.stored = s.stored)
    (left : ℕ) (signedIn : s.stored.isSome) :
    ∃ t, follow setup ask left route s =
      .ended t (.error (.navigation (.tooManyRedirects route.path))) := by
  -- The token stays stored on every round.
  induction left generalizing s with
  | zero =>
    obtain ⟨t, honward, -⟩ := round s signedIn
    rw [follow, Flow.bind_of_ok honward]
    exact ⟨t, rfl⟩
  | succ left ih =>
    obtain ⟨t, honward, same⟩ := round s signedIn
    rw [follow, Flow.bind_of_ok honward]
    simp only [resolve, back]
    exact ih (same ▸ signedIn)

/-- If the landing route is an entrance itself, nobody who has signed in can walk there. -/
theorem go_landing (landing : setup.table.resolve setup.settings.landingPath = .ok route)
    (entry : setup.settings.IsEntry route.path) (plain : route.redirect? = none)
    (signedIn : s.stored.isSome) (begun : ¬s.navigation.Ignores route) :
    ∃ t, go setup ask setup.settings.landingPath s =
      .ended t (.error (.navigation (.tooManyRedirects route.path))) := by
  have round (u : State) (hu : u.stored.isSome) : ∃ t, onward setup ask route u =
      .ended t (.ok (some setup.settings.landingPath)) ∧ t.stored = u.stored := by
    obtain ⟨t, v, hjudge, same, hdecision⟩ := Gate.judge_entry ask hu entry
    refine ⟨t.sending route setup.settings.landingPath .alreadyAuthenticated, ?_, same⟩
    simp only [onward, plain]
    rw [Flow.bind_of_ok hjudge]
    simp only [hdecision]
    rfl
  obtain ⟨t, hfollow⟩ := follow_circles (s := s.departing route.path) landing round
    setup.settings.maxRedirects signedIn
  rw [go_begun landing begun, hfollow]
  exact ⟨t.settling route.path, rfl⟩

end Walk

namespace Gate

variable {setup : Setup} {s t : State} {xs : List (Exchange State)} {route landing : Route}
  {v : Verdict} {path : String} {r : Record Json}

theorem alreadyAuthenticated_iff (h : (setup.judge route s).Course xs t (.ok v)) :
    v.decision = .redirect setup.settings.landingPath .alreadyAuthenticated ↔
      s.stored.isSome ∧ setup.settings.IsEntry route.path := by
  obtain ⟨token, f, settings, hroute, follows⟩ := judge_follows h
  rw [follows.decision, ← settings, ← hroute, Facts.ruling_alreadyAuthenticated_iff,
    follows.signedIn, token]

/-- A visitor is sent from a route to set the security PIN exactly if the service was asked, told
    that it is not set, and the path of the route is not written as that of the enrollment. -/
theorem pinMissing_iff (h : (setup.judge route s).Course xs t (.ok v)) :
    v.decision = .redirect setup.settings.enrollmentPath .pinMissing ↔
      route.path ≠ setup.settings.enrollmentPath ∧ ∃ answer status, v.pin = some answer ∧
        answer.read PinStatus.check = some status ∧ status.isSet = false := by
  obtain ⟨-, f, settings, hroute, follows⟩ := judge_follows h
  rw [follows.decision, ← settings, ← hroute, Facts.ruling_pinMissing_iff, follows.pin]
  simp only [Facts.status?, Option.any_eq_true, Bool.not_eq_true']
  constructor
  · rintro ⟨asked, ⟨status, read, missing⟩, elsewhere⟩
    exact ⟨elsewhere, f.pin, status, by rw [if_pos asked], read, missing⟩
  · rintro ⟨elsewhere, answer, status, told, read, missing⟩
    split at told
    case isTrue asked =>
      cases told
      exact ⟨asked, ⟨status, read, missing⟩, elsewhere⟩
    case isFalse => cases told

/-- The landing route is another one than the entrances, and nobody who has signed in is sent from
    it back to it, provided that its path and theirs are written in normal form. It is an entrance
    exactly if their paths have one normal form. If that is how the settings write the path of the
    entrance, whoever has signed in cannot walk to the landing route. -/
theorem landing_apart (checked : Settings.check r = .good setup.settings)
    (found : setup.table.resolve setup.settings.landingPath = .ok landing) :
    (∀ path, setup.settings.IsEntry path → ∀ route, setup.table.resolve path = .ok route →
      (route = landing ↔ Table.normal path = Table.normal setup.settings.landingPath) ∧
      (Table.IsNormal path → Table.IsNormal setup.settings.landingPath → route ≠ landing)) ∧
    (Table.IsNormal setup.settings.landingPath → ¬setup.settings.IsEntry landing.path) ∧
    (∀ s xs t v, (setup.judge landing s).Course xs t (.ok v) →
      (v.decision = .redirect setup.settings.landingPath .alreadyAuthenticated ↔
        s.stored.isSome ∧ setup.settings.IsEntry landing.path)) ∧
    (setup.settings.IsEntry landing.path → landing.redirect? = none → ∀ s : State,
      s.stored.isSome → ¬s.navigation.Ignores landing →
      ∃ t, setup.walk setup.settings.landingPath s =
        .ended t (.error (.navigation (.tooManyRedirects landing.path)))) := by
  have apart := Settings.not_isEntry_of_checkLanding (Settings.checkLanding_of_check checked)
  have there := Table.path_of_resolve found
  refine ⟨fun path entry route resolved => ?_, fun isNormal => ?_, fun s xs t v h => ?_,
    fun entry plain s signedIn begun => ?_⟩
  · have same : route = landing ↔ Table.normal path = Table.normal setup.settings.landingPath := by
      rw [← Table.path_of_resolve resolved, ← there]
      exact ⟨congrArg Route.path, Table.resolve_unique resolved found⟩
    refine ⟨same, fun isNormal isNormal' heq => ?_⟩
    have spelled := same.mp heq
    rw [Table.normal_eq_self_iff.mpr isNormal, Table.normal_eq_self_iff.mpr isNormal'] at spelled
    exact apart (spelled ▸ entry)
  · rwa [there, Table.normal_eq_self_iff.mpr isNormal]
  · exact alreadyAuthenticated_iff h
  · exact Walk.go_landing found entry plain signedIn begun

/-- In the default settings, nobody is sent from the vault back to the vault. -/
theorem landing_apart_vault :
    let vault := Table.closedRoute "/vault" "Vault"
    Settings.check [] = .good Setup.default.settings ∧
      Setup.default.table.resolve "/vault" = .ok vault ∧
      ∀ s xs t v, (Setup.default.judge vault s).Course xs t (.ok v) →
        v.decision ≠ .redirect "/vault" .alreadyAuthenticated := by
  intro vault
  have found : Setup.default.table.resolve Setup.default.settings.landingPath = .ok vault := by
    decide +kernel
  have checked : Settings.check [] = .good Setup.default.settings := rfl
  obtain ⟨-, apart, sent, -⟩ := landing_apart checked found
  refine ⟨checked, found, ?_⟩
  intro s xs t v h back
  exact apart (by decide +kernel) ((sent s xs t v h).mp back).2

/-- The settings take a landing path that is the login path with a slash behind it, and this path is
    looked up as the login path. -/
theorem landing_not_always_apart : ¬∀ (r : Record Json) (setup : Setup) (landing : Route),
    Settings.check r = .good setup.settings →
    setup.table.resolve setup.settings.landingPath = .ok landing →
    (∀ path, setup.settings.IsEntry path → setup.table.resolve path ≠ .ok landing) ∧
    ∀ (s : State) xs t v, s.stored.isSome → (setup.judge landing s).Course xs t (.ok v) →
      v.decision ≠ .redirect setup.settings.landingPath .alreadyAuthenticated := by
  intro all
  let setup : Setup :=
    { Setup.default with settings := { Settings.default with landingPath := "/login/" } }
  have written : Settings.checkRoutePath (.str "/login/") = .good "/login/" :=
    Settings.checkRoutePath_eq_good_iff.mpr ⟨rfl, by decide +kernel⟩
  have given : setup.settings.GivenBy [("landing_path", .str "/login/")] :=
    ⟨rfl, rfl, rfl, rfl, rfl, Record.optional_eq_good_iff.mpr (.inr ⟨_, rfl, written⟩), rfl, rfl⟩
  have checked := Settings.check_eq_good_iff.mpr ⟨given, by rfl⟩
  have found : setup.table.resolve "/login/" = .ok (Table.openRoute "/login" "Login") := by
    decide +kernel
  have login : setup.table.resolve "/login" = .ok (Table.openRoute "/login" "Login") := by
    decide +kernel
  exact (all _ setup _ checked found).1 "/login" (.inl rfl) login

/-- The gate recognises the special routes whose paths are written in normal form. From such an
    entrance it sends whoever has signed in on to the landing route, at once; from one that is
    written otherwise, only if its normal form is written as an entrance, too. From the enrollment
    it sends visitors back to set the security PIN only if its path is not in normal form, and then
    whenever it is told that the PIN is not set; for any other reason only if the enrollment is also
    the login route or the landing route. -/
theorem judge_recognises (setup : Setup) (s : State) :
    (∀ path, setup.settings.IsEntry path → ∀ route, setup.table.resolve path = .ok route →
      s.stored.isSome →
      (Table.IsNormal path → ∃ t v, setup.judge route s = .ended t (.ok v) ∧
        v.decision = .redirect setup.settings.landingPath .alreadyAuthenticated) ∧
      ∀ xs t v, (setup.judge route s).Course xs t (.ok v) →
        (v.decision = .redirect setup.settings.landingPath .alreadyAuthenticated ↔
          setup.settings.IsEntry (Table.normal path))) ∧
    ∀ route, setup.table.resolve setup.settings.enrollmentPath = .ok route →
      ∀ xs t v, (setup.judge route s).Course xs t (.ok v) →
      (v.decision = .redirect setup.settings.enrollmentPath .pinMissing ↔
        ¬Table.IsNormal setup.settings.enrollmentPath ∧ ∃ answer status, v.pin = some answer ∧
          answer.read PinStatus.check = some status ∧ status.isSet = false) ∧
      ∀ target why, v.decision = .redirect target why → setup.table.resolve target = .ok route →
        why = .pinMissing ∧ ¬Table.IsNormal setup.settings.enrollmentPath ∨
          setup.table.resolve setup.settings.loginPath = .ok route ∨
          setup.table.resolve setup.settings.landingPath = .ok route := by
  refine ⟨fun path entry route resolved signedIn => ⟨fun isNormal => ?_, fun xs t v h => ?_⟩,
    fun route resolved xs t v h => ⟨?_, fun target why decision back => ?_⟩⟩
  · have spelled : route.path = path :=
      (Table.path_of_resolve resolved).trans (Table.normal_eq_self_iff.mpr isNormal)
    obtain ⟨t, v, hjudge, -, decision⟩ :=
      judge_entry setup.lookup signedIn (spelled.symm ▸ entry)
    exact ⟨t, v, hjudge, decision⟩
  · rw [alreadyAuthenticated_iff h, Table.path_of_resolve resolved]
    exact and_iff_right signedIn
  · rw [pinMissing_iff h, Table.path_of_resolve resolved, ne_eq, Table.normal_eq_self_iff]
  · obtain ⟨-, f, settings, hroute, follows⟩ := judge_follows h
    rw [follows.decision] at decision
    obtain ⟨grounds, rfl⟩ := Facts.of_ruling decision
    rw [settings] at back
    cases why with
    | pinMissing =>
      refine .inl ⟨rfl, fun isNormal => ?_⟩
      have elsewhere : f.route.path ≠ f.settings.enrollmentPath :=
        of_decide_eq_true (Bool.and_eq_true_iff.mp grounds).2
      rw [hroute, settings, Table.path_of_resolve resolved] at elsewhere
      exact elsewhere (Table.normal_eq_self_iff.mpr isNormal)
    | unauthenticated => exact .inr (.inl back)
    | userLookupFailed => exact .inr (.inl back)
    | credentialRejected => exact .inr (.inl back)
    | alreadyAuthenticated => exact .inr (.inr back)
    | roleMismatch => exact .inr (.inr back)

/-- In the default settings, whoever has signed in is sent on from the login route to the vault. -/
theorem judge_recognises_login :
    let login := Table.openRoute "/login" "Login"
    Setup.default.table.resolve "/login" = .ok login ∧
      ∃ t v, Setup.default.judge login (Pool.openedWith "a").state = .ended t (.ok v) ∧
        v.decision = .redirect "/vault" .alreadyAuthenticated := by
  intro login
  have found : Setup.default.table.resolve "/login" = .ok login := by decide +kernel
  obtain ⟨entrances, -⟩ := judge_recognises .default (Pool.openedWith "a").state
  have signedIn : (Pool.openedWith "a").state.stored.isSome := by decide +kernel
  exact ⟨found, (entrances "/login" (.inl rfl) login found signedIn).1 (by decide +kernel)⟩

/-- The settings take a login path with a slash behind it, and the gate lets a visitor who has
    signed in pass at the login route then. -/
theorem judge_not_always_recognises : ¬∀ (r : Record Json) (setup : Setup),
    Settings.check r = .good setup.settings →
    (∀ path, setup.settings.IsEntry path → ∀ route, setup.table.resolve path = .ok route →
      ∀ (s : State) xs t v, s.stored.isSome → (setup.judge route s).Course xs t (.ok v) →
        ∃ why, v.decision = .redirect setup.settings.landingPath why) ∧
    ∀ route, setup.table.resolve setup.settings.enrollmentPath = .ok route →
      ∀ s xs t v, (setup.judge route s).Course xs t (.ok v) →
        ∀ why, v.decision ≠ .redirect setup.settings.enrollmentPath why := by
  intro all
  let setup : Setup :=
    { Setup.default with settings := { Settings.default with loginPath := "/login/" } }
  have written : Settings.checkRoutePath (.str "/login/") = .good "/login/" :=
    Settings.checkRoutePath_eq_good_iff.mpr ⟨rfl, by decide +kernel⟩
  have given : setup.settings.GivenBy [("login_path", .str "/login/")] :=
    ⟨rfl, rfl, rfl, Record.optional_eq_good_iff.mpr (.inr ⟨_, rfl, written⟩), rfl, rfl, rfl, rfl⟩
  have checked := Settings.check_eq_good_iff.mpr ⟨given, by rfl⟩
  let login := Table.openRoute "/login" "Login"
  have found : setup.table.resolve "/login/" = .ok login := by decide +kernel
  let s := (Pool.openedWith "a").state
  obtain ⟨t, passed⟩ : ∃ t, setup.judge login s =
      .ended t (.ok ⟨login, s.stored, none, none, .allow⟩) := ⟨_, rfl⟩
  have course : (setup.judge login s).Course [] t
      (.ok ⟨login, s.stored, none, none, .allow⟩) := passed ▸ .ended ..
  obtain ⟨why, sent⟩ := (all _ setup checked).1 "/login/" (.inl rfl) login found s [] t _
    (by decide +kernel) course
  cases sent

end Gate

end Gatehouse
