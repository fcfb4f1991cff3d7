import Gatehouse.Proofs.Answers
import Gatehouse.Proofs.Judging
import Gatehouse.Proofs.Lookups
import Gatehouse.Proofs.Parts

/-! The access policy as a list of clauses in their order, of which the first that applies decides.
    What a clause says depends on the settings, the route, whether a token is stored, and what the
    service answers about the user and about the security PIN. The gate decides as the list does. It
    looks up no more than the clauses which it comes to ask for, and it tells the user one thing at
    the most. -/

namespace Gatehouse

/-! ### Work that has the house to itself -/

namespace Progress

variable {σ α β : Type}

/-- What comes of work that has the house to itself while a service replies to its requests: the
    exchanges, the state and the result. -/
def served (service : Request → Reply) : Progress σ α → List (Exchange σ) × σ × α
  | ended s a => ([], s, a)
  | waits s request resume =>
    let rest := served service (resume (service request) s)
    (⟨s, request, service request, s⟩ :: rest.1, rest.2)

variable {service : Request → Reply}

theorem served_andThen {p : Progress σ α} {next : α → σ → Progress σ β}
    {xs ys : List (Exchange σ)} {t u : σ} {a : α} {b : β} (h : p.served service = (xs, t, a))
    (hnext : (next a t).served service = (ys, u, b)) :
    (p.andThen next).served service = (xs ++ ys, u, b) := by
  induction p generalizing xs with
  | ended s a =>
    cases h
    exact hnext
  | waits s request resume ih =>
    simp only [served, Prod.mk.injEq] at h
    obtain ⟨rfl, hend⟩ := h
    have hrest := ih (service request) s (Prod.ext rfl hend)
    simp only [andThen_waits, served, hrest, List.cons_append]

end Progress

theorem Flow.served_bind {σ α β : Type} {service : Request → Reply} {work : Flow σ α}
    {next : α → Flow σ β} {s t u : σ} {xs ys : List (Exchange σ)} {a : α} {r : Except Fault β}
    (h : (work s).served service = (xs, t, .ok a))
    (hnext : (next a t).served service = (ys, u, r)) :
    ((work >>= next) s).served service = (xs ++ ys, u, r) :=
  Progress.served_andThen h hnext

/-- What comes after may end at once. -/
theorem Flow.served_bind_atOnce {σ α β : Type} {service : Request → Reply} {work : Flow σ α}
    {next : α → Flow σ β} {s t u : σ} {xs : List (Exchange σ)} {a : α} {r : Except Fault β}
    (h : (work s).served service = (xs, t, .ok a)) (hnext : next a t = .ended u r) :
    ((work >>= next) s).served service = (xs, u, r) := by
  have hend : (next a t).served service = ([], u, r) := by rw [hnext, Progress.served]
  simpa using served_bind h hend

/-! ### What a part of an evaluation leaves behind -/

/-- From one state to the other the user was told these things. The credential was rejected, and
    then no token is left, or it is as it was, and so are the connection and where the visitor
    is. -/
structure Consulted (s t : State) (rejected : Bool) (notices : List Event) : Prop where
  told : ∃ es, t.journal = es ++ s.journal ∧ es.filter Event.isNotice = notices
  kept : rejected = false → Calm s t ∧ t.connections = s.connections
  ended : rejected → t.stored = none

variable {setup : Setup} {s t u : State} {service : Request → Reply} {path : String}
  {b b' : Bool} {ns ns' : List Event} {a : Answer}

namespace Consulted

theorem noting (s : State) (es : List Event) :
    Consulted s (s.noting es) false (es.filter Event.isNotice) :=
  ⟨⟨es, rfl, rfl⟩, fun _ => ⟨.noting s es, rfl⟩, by simp⟩

theorem refl (s : State) : Consulted s s false [] := noting s []

theorem of_hushed (h : Hushed s t) : Consulted s t false [] := by
  obtain ⟨es, hes, rfl⟩ := h
  exact (silent_events hes).1 ▸ noting s es

/-- One part comes after another; only one of them may be rejected. -/
theorem trans (h : Consulted s t b ns) (h' : Consulted t u b' ns') (hone : b = false ∨ b' = false) :
    Consulted s u (b || b') (ns' ++ ns) := by
  obtain ⟨es, ht, hes⟩ := h.told
  obtain ⟨fs, hu, hfs⟩ := h'.told
  refine ⟨⟨fs ++ es, ?_, ?_⟩, fun hno => ?_, fun hyes => ?_⟩
  · rw [hu, ht, List.append_assoc]
  · rw [List.filter_append, hes, hfs]
  · obtain ⟨hno, hno'⟩ := Bool.or_eq_false_iff.1 hno
    obtain ⟨hcalm, hsame⟩ := h.kept hno
    obtain ⟨hcalm', hsame'⟩ := h'.kept hno'
    exact ⟨hcalm.trans hcalm', hsame'.trans hsame⟩
  · rcases Bool.or_eq_true_iff.1 hyes with hyes | hyes
    · have hno' := hone.resolve_left (by simp [hyes])
      exact (h'.kept hno').1.stored.trans (h.ended hyes)
    · exact h'.ended hyes

/-- Work that tells nothing and leaves all as it is may follow. -/
theorem then_quiet (h : Consulted s t b ns) (h' : Consulted t u false []) :
    Consulted s u b ns := by
  simpa using h.trans h' (.inr rfl)

/-- A log row may follow that is no notice. -/
theorem then_logged (h : Consulted s t b ns) (source : Source) (hsource : source ≠ .notices)
    (level : Level) (text : String) :
    Consulted s (t.noting [.logged ⟨source, level, text⟩]) b ns :=
  h.then_quiet (.of_hushed (.logged t hsource level text))

/-- A notice may follow. -/
theorem then_announced (h : Consulted s t b ns) (setup : Setup) (message : String) :
    Consulted s (t.noting [setup.noticeOf message]) b (setup.noticeOf message :: ns) := by
  have htold : Consulted t (t.noting [setup.noticeOf message]) false [setup.noticeOf message] := by
    have hone := noting t [setup.noticeOf message]
    rwa [List.filter_cons_of_pos (setup.isNotice_noticeOf message)] at hone
  simpa using h.trans htold (.inr rfl)

theorem after_setUser (s : State) (user : User) :
    Consulted s (s.after (Desk.setUser user)) false [] := by
  have hheld : Consulted s (s.holding s.store (s.recognising user)) false [] :=
    ⟨⟨[], rfl, rfl⟩, fun _ => ⟨⟨rfl, rfl, rfl⟩, rfl⟩, by simp⟩
  refine hheld.then_quiet (.of_hushed ?_)
  simp only [Desk.setUser, State.after_bind, State.result_get, State.after_get,
    State.recognising]
  split
  · exact .refl _
  · exact .logged _ (by decide) ..

end Consulted

/-! ### Lookups -/

/-- The request by which the gate looks something up, with the token that is stored. -/
def Setup.inquiry (setup : Setup) (s : State) (path : String) : Request :=
  ⟨"GET", Service.url setup.settings path, s.stored, none, none, setup.settings.timeout⟩

theorem Calm.inquiry (h : Calm s t) (setup : Setup) (path : String) :
    setup.inquiry t path = setup.inquiry s path := by
  simp only [Setup.inquiry, h.stored]

/-- What a lookup tells the user: that the session has expired, if its credential was rejected. -/
def Gate.lookupNotices (a : Answer) : List String :=
  if a.isRejection then [Service.sessionExpired] else []

/-- A lookup is one exchange, and gives the answer to its reply. -/
theorem Setup.lookup_served (hs : s.store.InMemory) (hopen : s.connections.isOpen)
    (ha : (service (setup.inquiry s path)).answer? = some a) :
    ∃ x t, (setup.lookup ⟨"GET", path, .null, .null⟩ s).served service = ([x], t, .ok a) ∧
      x.request = setup.inquiry s path ∧
      Consulted s t a.isRejection ((Gate.lookupNotices a).map setup.noticeOf) := by
  let q := setup.inquiry s path
  let asked := s.noting [.requested q]
  have hcall : setup.lookup ⟨"GET", path, .null, .null⟩ s = .waits asked q
      (Service.finish setup setup.toLogin ⟨"GET", path, .null, .null⟩ false) := by
    have h := Service.call_eq setup hs hopen (c := ⟨"GET", path, .null, .null⟩) rfl rfl false
    rwa [Text.upper_get] at h
  obtain ⟨t, hfinish, hanswered⟩ := Service.finish_answered setup (s := asked) hs
    ⟨"GET", path, .null, .null⟩ false ha
  have hreplied : Consulted asked t a.isRejection
      ((Gate.lookupNotices a).map setup.noticeOf) := by
    obtain ⟨es, hjournal, hnotices, -⟩ := hanswered.journal
    refine ⟨⟨es, hjournal, hnotices.trans ?_⟩, fun hno => ?_, fun hyes => ?_⟩
    · cases a with
      | data v => rfl
      | failure f =>
        simp only [noticesOf, Gate.lookupNotices, Answer.isRejection, Answer.failure?,
          Option.any_some, decide_eq_true_eq]
        split <;> rfl
    · rw [hanswered.kept hno]
      exact ⟨⟨rfl, rfl, rfl⟩, rfl⟩
    · exact (hanswered.expired hyes).stored
  refine ⟨⟨asked, q, service q, asked⟩, t, ?_, rfl, ?_⟩
  · simp only [hcall, Progress.served, q, hfinish]
  · have hasked : Consulted s asked false [] := .noting s _
    simpa using hasked.trans hreplied (.inl rfl)

/-! ### The policy -/

namespace Gate

/-- A clause of the policy: whether it applies to a visit, and what it decides then. -/
structure Clause where
  applies : Bool
  decision : Decision

/-- The decision of the first clause that applies. -/
def first (clauses : List Clause) : Option Decision :=
  (clauses.find? (·.applies)).map (·.decision)

@[simp]
theorem first_nil : first [] = none := rfl

theorem first_cons (c : Clause) (cs : List Clause) :
    first (c :: cs) = if c.applies then some c.decision else first cs := by
  rw [first, first, List.find?_cons]
  cases c.applies <;> rfl

theorem first_append (xs ys : List Clause) : first (xs ++ ys) = (first xs).or (first ys) := by
  rw [first, List.find?_append, Option.map_or]
  rfl

/-- All that a decision depends on: what the service answers about the user and about the security
    PIN is told here, whether it is asked or not. -/
structure Facts where
  settings : Settings
  route : Route
  signedIn : Bool
  user : Answer
  pin : Answer

namespace Facts

variable (f : Facts)

/-- The user, if one is told of. -/
def user? : Option User := f.user.read User.check

/-- The status of the security PIN, if it is told. -/
def status? : Option PinStatus := f.pin.read PinStatus.check

/-- The route asks for a role, and there is a token to look the user up with. -/
def wantsRole : Bool := f.route.policy.role?.isSome && f.signedIn

/-- The route asks for the security PIN, and there is a token to look its status up with. -/
def wantsPin : Bool := f.route.policy.checksPin && f.signedIn

/-- The user has another role than the one that is asked for. -/
def mismatched : Bool := f.route.policy.role?.any fun role => f.user?.any (!·.hasRole role)

/-- The clauses about the token. -/
def tokenClauses : List Clause :=
  [⟨f.route.policy.requiresAuth && !f.signedIn,
      .redirect f.settings.loginPath .unauthenticated⟩,
    ⟨f.signedIn && (f.route.path = f.settings.loginPath || f.route.path = f.settings.registerPath),
      .redirect f.settings.landingPath .alreadyAuthenticated⟩]

/-- The clauses about the user. -/
def userClauses : List Clause :=
  [⟨f.wantsRole && f.user?.isNone, .redirect f.settings.loginPath .userLookupFailed⟩,
    ⟨f.wantsRole && f.mismatched, .redirect f.settings.landingPath .roleMismatch⟩]

/-- The clauses about the security PIN. -/
def pinClauses : List Clause :=
  [⟨f.wantsPin && f.pin.isRejection, .redirect f.settings.loginPath .credentialRejected⟩,
    ⟨f.wantsPin && f.status?.any (!·.isSet) && f.route.path ≠ f.settings.enrollmentPath,
      .redirect f.settings.enrollmentPath .pinMissing⟩]

/-- The decision of the policy. -/
def ruling : Decision := (first (f.tokenClauses ++ f.userClauses ++ f.pinClauses)).getD .allow

/-- The user has to be looked up: no clause before has decided. -/
def asksUser : Bool := f.wantsRole && (first f.tokenClauses).isNone

/-- The status of the security PIN has to be looked up: no clause before has decided. -/
def asksPin : Bool := f.wantsPin && (first (f.tokenClauses ++ f.userClauses)).isNone

/-- A lookup that has to be made is rejected. -/
def rejected : Bool := f.asksUser && f.user.isRejection || f.asksPin && f.pin.isRejection

/-- What the user is told: that the session has expired, if a lookup was rejected; that the user
    could not be looked up, for any other reason; or that the role is not the right one. -/
def notices : List String :=
  if f.rejected then [Service.sessionExpired]
  else if f.asksUser && f.user?.isNone then [lookupFailed]
  else if f.asksUser && f.mismatched then [noPermission]
  else []

end Facts

theorem first_eq_none_iff {clauses : List Clause} :
    first clauses = none ↔ ∀ c ∈ clauses, c.applies = false := by
  simp [first]

namespace Facts

variable {f : Facts} {d : Decision}

/-- What comes after a clause that decides is not asked for. -/
theorem of_tokenClauses (h : first f.tokenClauses = some d) :
    f.ruling = d ∧ f.asksUser = false ∧ f.asksPin = false := by
  simp [ruling, asksUser, asksPin, first_append, h]

theorem of_userClauses (htoken : first f.tokenClauses = none) (h : first f.userClauses = some d) :
    f.ruling = d ∧ f.asksUser = f.wantsRole ∧ f.asksPin = false := by
  simp [ruling, asksUser, asksPin, first_append, htoken, h]

theorem of_pinClauses (htoken : first f.tokenClauses = none) (h : first f.userClauses = none) :
    f.ruling = (first f.pinClauses).getD .allow ∧ f.asksUser = f.wantsRole ∧
      f.asksPin = f.wantsPin := by
  simp [ruling, asksUser, asksPin, first_append, htoken, h]

/-- If no clause about the user applies, the user is known and has the role. -/
theorem user_passed (h : first f.userClauses = none) (hwants : f.wantsRole) :
    f.user?.isSome ∧ f.mismatched = false ∧ f.user.isRejection = false := by
  obtain ⟨hknown, hrole⟩ : f.user?.isNone = false ∧ f.mismatched = false := by
    simpa [first_eq_none_iff, userClauses, hwants] using h
  refine ⟨by simpa using hknown, hrole, ?_⟩
  refine Bool.eq_false_iff.2 fun hrejected => ?_
  simp [user?, Answer.read_of_isRejection User.check hrejected] at hknown

end Facts

/-! ### The parts of an evaluation -/

/-- The first rules of the gate are the clauses about the token. -/
theorem rule?_eq_first (f : Facts) :
    rule? f.settings f.route f.signedIn = first f.tokenClauses := by
  rw [rule?, Facts.tokenClauses, first_cons, first_cons, first_nil]

/-- What the user is told once the answer about the user is there: that it is of no use, unless the
    end of the session has been told already, or that the role is not the right one. -/
def Facts.userNotices (f : Facts) : List String :=
  match f.user? with
  | none => if f.user.isRejection then [] else [lookupFailed]
  | some _ => if f.mismatched then [noPermission] else []

variable {f : Facts} {role : Role}

/-- What is told in the part that asks for the role is all that is told, if no other lookup is
    made. -/
theorem Facts.notices_of_user (huser : f.asksUser = f.wantsRole) (hpin : f.asksPin = false) :
    f.notices = if f.wantsRole then f.userNotices ++ lookupNotices f.user else [] := by
  cases hwants : f.wantsRole with
  | false => simp [notices, rejected, huser, hpin, hwants]
  | true =>
    cases hrejected : f.user.isRejection with
    | true =>
      have hnone : f.user? = none := Answer.read_of_isRejection User.check hrejected
      simp [notices, rejected, userNotices, lookupNotices, huser, hwants, hrejected, hnone]
    | false =>
      cases hknown : f.user? with
      | none =>
        simp [notices, rejected, userNotices, lookupNotices, huser, hpin, hwants, hrejected, hknown]
      | some user =>
        simp [notices, rejected, userNotices, lookupNotices, huser, hpin, hwants, hrejected, hknown]

/-- Where the user is known and has the role, nothing is told but that a lookup for the security PIN
    was rejected. -/
theorem Facts.notices_of_pin (hpassed : first f.userClauses = none)
    (huser : f.asksUser = f.wantsRole) (hpin : f.asksPin = f.wantsPin) :
    f.rejected = (f.wantsPin && f.pin.isRejection) ∧
      f.notices = if f.wantsPin then lookupNotices f.pin else [] := by
  have hknown : (f.wantsRole && f.user.isRejection) = false ∧
      (f.wantsRole && f.user?.isNone) = false ∧ (f.wantsRole && f.mismatched) = false := by
    cases hwants : f.wantsRole with
    | false => simp
    | true =>
      obtain ⟨hknown, hrole, hrejected⟩ := user_passed hpassed hwants
      rw [← Option.not_isNone, Bool.not_eq_true'] at hknown
      simp [hknown, hrole, hrejected]
  have hrejected : f.rejected = (f.wantsPin && f.pin.isRejection) := by
    rw [rejected, huser, hpin, hknown.1, Bool.false_or]
  refine ⟨hrejected, ?_⟩
  rw [notices, hrejected, huser, hknown.2.1, hknown.2.2, lookupNotices]
  cases f.wantsPin <;> simp

/-- The answer about the user is weighed as the clauses about the user say. -/
theorem weighRole_apply (hf : f.settings = setup.settings)
    (hrole : f.route.policy.role? = some role) (hsigned : f.signedIn) (s : State) :
    ∃ t, weighRole setup f.route role f.user s = .ended t (.ok (f.user, first f.userClauses)) ∧
      Consulted s t false (f.userNotices.map setup.noticeOf) := by
  have hwants : f.wantsRole := by simp [Facts.wantsRole, hrole, hsigned]
  obtain ⟨t, hread, hhushed⟩ := readData_apply "user information" User.check f.user s
  have ht : Consulted s t false [] := .of_hushed hhushed
  rw [weighRole, Flow.bind_of_ok hread, show f.user.read User.check = f.user? from rfl,
    Facts.userNotices, Facts.userClauses, first_cons, first_cons, first_nil, hwants,
    Bool.true_and, Bool.true_and, hf]
  cases huser : f.user? with
  | none =>
    simp only
    rw [Job.log_bind]
    have hlogged := ht.then_logged .guard (by decide) .error
      ("Role check for " ++ f.route.path ++ " failed: " ++ f.user.failureDescription)
    cases f.user.isRejection with
    | true => exact ⟨_, rfl, hlogged⟩
    | false => exact ⟨_, rfl, hlogged.then_announced setup lookupFailed⟩
  | some user =>
    have hknown : Consulted s (t.after (Desk.setUser user)) false [] :=
      ht.then_quiet (.after_setUser t user)
    have hmismatched : f.mismatched = !user.hasRole role := by
      simp [Facts.mismatched, hrole, huser]
    simp only [hmismatched]
    rw [Job.desk_bind, State.result_setUser]
    cases user.hasRole role with
    | true => exact ⟨_, rfl, hknown⟩
    | false =>
      exact ⟨_, rfl, (hknown.then_logged .guard (by decide) .info
        ("Role " ++ user.role.label ++ " denied for " ++ f.route.path ++ " (requires " ++
          role.label ++ ")")).then_announced setup noPermission⟩

/-- The answer about the security PIN is weighed as the clauses about it say. -/
theorem weighPin_apply (hf : f.settings = setup.settings) (hwants : f.wantsPin) (s : State) :
    ∃ t, weighPin setup f.route f.pin s = .ended t (.ok (f.pin, first f.pinClauses)) ∧
      Consulted s t false [] := by
  obtain ⟨t, hread, hhushed⟩ := readData_apply "security PIN status" PinStatus.check f.pin s
  have ht : Consulted s t false [] := .of_hushed hhushed
  rw [weighPin, Flow.bind_of_ok hread, show f.pin.read PinStatus.check = f.status? from rfl,
    Facts.pinClauses, first_cons, first_cons, first_nil, hwants, Bool.true_and, Bool.true_and, hf]
  cases f.pin.isRejection with
  | true => exact ⟨_, rfl, ht⟩
  | false =>
    cases f.status? with
    | none =>
      exact ⟨_, rfl, ht.then_logged .guard (by decide) .warning
        ("Security PIN status unavailable, allowing navigation to " ++ f.route.path ++ ": " ++
          f.pin.failureDescription)⟩
    | some status =>
      refine ⟨t, ?_, ht⟩
      simp only [Option.any_some, Bool.false_eq_true, if_false]
      split <;> rfl

section

variable (hs : s.store.InMemory) (hopen : s.connections.isOpen) (hf : f.settings = setup.settings)

include hs hopen hf

/-- The part of an evaluation that asks for the role: the user is looked up if the route and the
    token call for it, and the clauses about the user decide. -/
theorem roleStep_served (huser : (service (setup.inquiry s userPath)).answer? = some f.user) :
    ∃ xs t o, (roleStep setup setup.lookup f.route f.signedIn s).served service =
        (xs, t, .ok (o, first f.userClauses)) ∧
      xs.map (·.request) = (if f.wantsRole then [setup.inquiry s userPath] else []) ∧
      Consulted s t (f.wantsRole && f.user.isRejection)
        ((if f.wantsRole then f.userNotices ++ lookupNotices f.user else []).map
          setup.noticeOf) := by
  cases hwants : f.wantsRole with
  | false =>
    have hnone : roleStep setup setup.lookup f.route f.signedIn = pure (none, none) := by
      rw [Facts.wantsRole] at hwants
      unfold roleStep
      split
      · rename_i role hrole hsigned
        simp [hrole, hsigned] at hwants
      · rfl
    refine ⟨[], s, none, ?_, rfl, .refl s⟩
    simp only [hnone, first, Facts.userClauses, hwants, Bool.false_and]
    rfl
  | true =>
    obtain ⟨role, hrole⟩ : ∃ role, f.route.policy.role? = some role :=
      Option.isSome_iff_exists.1 (Bool.and_eq_true_iff.1 hwants).1
    have hsigned : f.signedIn := (Bool.and_eq_true_iff.1 hwants).2
    obtain ⟨x, t, hlookup, hx, ht⟩ := Setup.lookup_served hs hopen huser
    obtain ⟨u, hweigh, hu⟩ := weighRole_apply hf hrole hsigned t
    have hcheck : (checkRole setup setup.lookup f.route role s).served service =
        ([x], u, .ok (f.user, first f.userClauses)) := by
      rw [checkRole_eq]
      exact Flow.served_bind_atOnce hlookup hweigh
    refine ⟨[x], u, some f.user, ?_, by simp [hx], by simpa using ht.trans hu (.inr rfl)⟩
    simp only [roleStep, hrole, hsigned]
    exact Flow.served_bind_atOnce hcheck rfl

/-- The part of an evaluation that asks for the security PIN: its status is looked up if the route
    and the token call for it, and the clauses about it decide. -/
theorem pinStep_served (hpin : (service (setup.inquiry s pinPath)).answer? = some f.pin) :
    ∃ xs t o, (pinStep setup setup.lookup f.route f.signedIn s).served service =
        (xs, t, .ok (o, first f.pinClauses)) ∧
      xs.map (·.request) = (if f.wantsPin then [setup.inquiry s pinPath] else []) ∧
      Consulted s t (f.wantsPin && f.pin.isRejection)
        ((if f.wantsPin then lookupNotices f.pin else []).map setup.noticeOf) := by
  cases hwants : f.wantsPin with
  | false =>
    refine ⟨[], s, none, ?_, rfl, .refl s⟩
    simp only [first, Facts.pinClauses, hwants, Bool.false_and]
    rw [Facts.wantsPin] at hwants
    simp only [pinStep, hwants]
    rfl
  | true =>
    obtain ⟨x, t, hlookup, hx, ht⟩ := Setup.lookup_served hs hopen hpin
    obtain ⟨u, hweigh, hu⟩ := weighPin_apply hf hwants t
    have hcheck : (checkPin setup setup.lookup f.route s).served service =
        ([x], u, .ok (f.pin, first f.pinClauses)) := by
      rw [checkPin_eq]
      exact Flow.served_bind_atOnce hlookup hweigh
    refine ⟨[x], u, some f.pin, ?_, by simp [hx], by simpa using ht.then_quiet hu⟩
    rw [Facts.wantsPin] at hwants
    simp only [pinStep, hwants]
    exact Flow.served_bind_atOnce hcheck rfl

/-- An evaluation decides as the clauses do, and looks up and tells what they ask for. -/
theorem verdictOn_served (hsigned : f.signedIn = s.stored.isSome)
    (huser : (service (setup.inquiry s userPath)).answer? = some f.user)
    (hpin : (service (setup.inquiry s pinPath)).answer? = some f.pin) :
    ∃ xs t v, (verdictOn setup setup.lookup f.route s).served service = (xs, t, .ok v) ∧
      v.decision = f.ruling ∧
      xs.map (·.request) = (if f.asksUser then [setup.inquiry s userPath] else []) ++
        (if f.asksPin then [setup.inquiry s pinPath] else []) ∧
      Consulted s t f.rejected (f.notices.map setup.noticeOf) := by
  have hrule : rule? setup.settings f.route s.stored.isSome = first f.tokenClauses := by
    rw [← hf, ← hsigned]
    exact rule?_eq_first f
  rw [verdictOn, Job.token_bind hs, hrule]
  cases htoken : first f.tokenClauses with
  | some decision =>
    obtain ⟨hruling, hasksUser, hasksPin⟩ := Facts.of_tokenClauses htoken
    have hrejected : f.rejected = false := by simp [Facts.rejected, hasksUser, hasksPin]
    have hquiet : f.notices = [] := by simp [Facts.notices, hrejected, hasksUser]
    rw [hruling, hasksUser, hasksPin, hrejected, hquiet]
    dsimp only
    split
    · exact ⟨[], _, ⟨f.route, s.stored, none, none, decision⟩, rfl, rfl, rfl,
        (Consulted.refl s).then_logged .guard (by decide) .debug
          ("Blocking anonymous navigation to " ++ f.route.path)⟩
    · exact ⟨[], s, ⟨f.route, s.stored, none, none, decision⟩, rfl, rfl, rfl, .refl s⟩
  | none =>
    obtain ⟨xs, t, answer, hrole, hxs, ht⟩ := roleStep_served hs hopen hf huser
    rw [hsigned] at hrole
    cases hclauses : first f.userClauses with
    | some decision =>
      obtain ⟨hruling, hasksUser, hasksPin⟩ := Facts.of_userClauses htoken hclauses
      rw [hclauses] at hrole
      have hnotices := Facts.notices_of_user hasksUser hasksPin
      refine ⟨xs, t, ⟨f.route, s.stored, answer, none, decision⟩, ?_, hruling.symm, ?_, ?_⟩
      · exact Flow.served_bind_atOnce hrole rfl
      · simpa [hasksUser, hasksPin] using hxs
      · rw [hnotices, Facts.rejected, hasksUser, hasksPin, Bool.false_and, Bool.or_false]
        exact ht
    | none =>
      obtain ⟨hruling, hasksUser, hasksPin⟩ := Facts.of_pinClauses htoken hclauses
      obtain ⟨hrejected, hnotices⟩ := Facts.notices_of_pin hclauses hasksUser hasksPin
      -- The user is known or was not asked for, so all is as it was when the PIN is looked up.
      have hquiet : Consulted s t false [] := by
        cases hwants : f.wantsRole with
        | false => simpa [hwants] using ht
        | true =>
          obtain ⟨hknown, hmatches, hno⟩ := Facts.user_passed hclauses hwants
          obtain ⟨user, hknown⟩ := Option.isSome_iff_exists.1 hknown
          simpa [hwants, Facts.userNotices, hknown, hmatches, lookupNotices, hno] using ht
      obtain ⟨hcalm, hconnections⟩ := hquiet.kept rfl
      obtain ⟨ys, u, answer', hcheck, hys, hu⟩ := pinStep_served (hcalm.inMemory hs)
        (hconnections ▸ hopen) hf ((hcalm.inquiry setup pinPath).symm ▸ hpin)
      rw [hclauses] at hrole
      rw [hsigned] at hcheck
      refine ⟨xs ++ ys, u, ⟨f.route, s.stored, answer, answer', f.ruling⟩, ?_, rfl, ?_, ?_⟩
      · rw [hruling]
        exact Flow.served_bind hrole (Flow.served_bind_atOnce hcheck rfl)
      · rw [List.map_append, hxs, hys, hasksUser, hasksPin, hcalm.inquiry]
      · rw [hrejected, hnotices]
        simpa using hquiet.trans hu (.inl rfl)

end

/-- The gate is an ordered policy. An evaluation over a memory and an open connection, while nobody
    else does anything and every reply amounts to an answer, ends with a verdict, and its decision
    is that of the first clause that applies. The service is asked about the user and then about the
    security PIN, once each and only if a clause that asks for it is come to. The user is told one
    thing at the most. Unless a lookup is rejected, the credential and the place of the visitor stay
    as they were. -/
theorem judge_follows_clauses (setup : Setup) (s : State) (hs : s.store.InMemory)
    (hopen : s.connections.isOpen) (route : Route) (service : Request → Reply) (user pin : Answer)
    (huser : (service (setup.inquiry s userPath)).answer? = some user)
    (hpin : (service (setup.inquiry s pinPath)).answer? = some pin) :
    let f : Facts := ⟨setup.settings, route, s.stored.isSome, user, pin⟩
    ∃ xs t v, (setup.judge route s).served service = (xs, t, .ok v) ∧ v.decision = f.ruling ∧
      xs.map (·.request) = (if f.asksUser then [setup.inquiry s userPath] else []) ++
        (if f.asksPin then [setup.inquiry s pinPath] else []) ∧
      Consulted s t f.rejected (f.notices.map setup.noticeOf) := by
  intro f
  obtain ⟨xs, t, v, hverdict, hdecision, hxs, ht⟩ :=
    verdictOn_served (f := f) hs hopen rfl rfl huser hpin
  have hentered : Consulted t (t.noting [.judged v]) false [] := .of_hushed (.one t rfl)
  exact ⟨xs, t.noting [.judged v], v, Flow.served_bind_atOnce hverdict rfl, hdecision, hxs,
    ht.then_quiet hentered⟩

/-- The service does not reply in time while a visitor with a token asks for the system settings,
    for which a role is needed. -/
theorem judge_follows_clauses_unknown :
    let s := (Pool.openedWith "a").state
    let route : Route := ⟨"/system/config", none, ⟨true, some (.builtin .admin), false⟩, none⟩
    let answer : Answer := .failure ⟨.timeout, Service.timedOut, none, none⟩
    s.store.InMemory ∧ s.connections.isOpen ∧ Reply.timedOut.answer? = some answer ∧
      ∃ xs t v, (Setup.default.judge route s).served (fun _ => .timedOut) = (xs, t, .ok v) ∧
        v.decision = .redirect "/login" .userLookupFailed ∧
        xs.map (·.request) = [Setup.default.inquiry s userPath] ∧
        Consulted s t false [Setup.default.noticeOf lookupFailed] := by
  intro s route answer
  have hs : s.store.InMemory := State.inMemory_opening ..
  have hopen : s.connections.isOpen := by decide +kernel
  have hsigned : s.stored.isSome := by decide +kernel
  obtain ⟨xs, t, v, hserved, hdecision, hxs, ht⟩ :=
    judge_follows_clauses .default s hs hopen route (fun _ => .timedOut) answer answer rfl rfl
  rw [hsigned] at hdecision hxs ht
  exact ⟨hs, hopen, rfl, xs, t, v, hserved, hdecision.trans (by decide +kernel),
    hxs.trans (by rfl), ht⟩

end Gate

end Gatehouse
