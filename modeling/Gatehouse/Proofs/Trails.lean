import Gatehouse.Proofs.Lookups

/-! The trail of a walk, as far as it has come. A walk looks at one route after another. At a route
    that has a redirect of its own it follows that and asks nobody; at any other it has the gate
    judge the visit, once. So a walk that waits does so in the midst of an evaluation, and one that
    is over has ended at its last look. The redirects that it has followed are counted, and so are
    the evaluations that it has begun. -/

namespace Gatehouse

/-! ### Work on its way -/

namespace Progress

variable {σ α β : Type}

theorem leads_ended {s : σ} {a : α} {xs : List (Exchange σ)} {q : Progress σ α}
    (h : (ended s a).Leads xs q) : xs = [] ∧ q = ended s a := by
  induction h with
  | here => exact ⟨rfl, rfl⟩
  | on r s' _ ih => cases ih.2

theorem Leads.after {s s' : σ} {request : Request} {resume : Reply → σ → Progress σ α} {r : Reply}
    {xs : List (Exchange σ)} {q : Progress σ α} (h : (resume r s').Leads xs q) :
    (waits s request resume).Leads (⟨s, request, r, s'⟩ :: xs) q := by
  induction h with
  | here => exact .on r s' .here
  | on r s' _ ih => exact .on r s' ih

theorem Course.leads {p : Progress σ α} {xs : List (Exchange σ)} {t : σ} {a : α}
    (h : p.Course xs t a) : p.Leads xs (.ended t a) := by
  induction h with
  | ended s a => exact .here
  | waits _ ih => exact ih.after

/-- Work in two parts goes on with the second when it has gone through the first. -/
theorem Course.andThen_leads {p : Progress σ α} {next : α → σ → Progress σ β}
    {xs ys : List (Exchange σ)} {t : σ} {a : α} {q : Progress σ β} (h : p.Course xs t a)
    (hq : (next a t).Leads ys q) : (p.andThen next).Leads (xs ++ ys) q := by
  induction h with
  | ended s a => exact hq
  | waits _ ih => exact (ih hq).after

/-- Work in two parts waits in the first one, or it has come through that to the second. -/
theorem leads_andThen {p : Progress σ α} {next : α → σ → Progress σ β} {xs : List (Exchange σ)}
    {q : Progress σ β} (h : (p.andThen next).Leads xs q) :
    (∃ s request resume, p.Leads xs (.waits s request resume) ∧
      q = (waits s request resume).andThen next) ∨
    ∃ ys zs u a, xs = ys ++ zs ∧ p.Course ys u a ∧ (next a u).Leads zs q := by
  induction h with
  | here =>
    cases p with
    | ended s a => exact .inr ⟨[], [], s, a, rfl, .ended s a, .here⟩
    | waits s request resume => exact .inl ⟨s, request, resume, .here, rfl⟩
  | on r s' _ ih =>
    rcases ih with ⟨s, request, resume, hp, hq⟩ | ⟨ys, zs, u, a, rfl, hp, hnext⟩
    · cases hq
      have hresumed := hp.on r s'
      show (∃ _ _ _, _ ∧ (resume r s').andThen next = _) ∨
        ∃ _ _ _ _, _ ∧ _ ∧ Leads _ _ ((resume r s').andThen next)
      cases hp' : resume r s' with
      | ended u a =>
        rw [hp'] at hresumed
        exact .inr ⟨_, [], u, a, by simp, hresumed.course (.ended u a), .here⟩
      | waits t request' resume' =>
        rw [hp'] at hresumed
        exact .inl ⟨t, request', resume', hresumed, rfl⟩
    · exact .inr ⟨ys, zs ++ [_], u, a, by simp, hp, hnext.on r s'⟩

/-- Work whose result is put into another form. -/
def map (g : α → β) (p : Progress σ α) : Progress σ β := p.andThen fun a s => .ended s (g a)

theorem leads_map {p : Progress σ α} {g : α → β} {xs : List (Exchange σ)} {q : Progress σ β}
    (h : (p.map g).Leads xs q) : ∃ p', p.Leads xs p' ∧ q = p'.map g := by
  rcases leads_andThen h with ⟨s, request, resume, hp, rfl⟩ | ⟨ys, zs, u, a, rfl, hp, hend⟩
  · exact ⟨_, hp, rfl⟩
  · obtain ⟨rfl, rfl⟩ := leads_ended hend
    exact ⟨_, by simpa using hp.leads, rfl⟩

end Progress

namespace Flow

variable {σ α β : Type}

/-- Work in two parts waits in the first one, was stopped there, or has come to the second. -/
theorem leads_bind {work : Flow σ α} {next : α → Flow σ β} {s : σ} {xs : List (Exchange σ)}
    {q : Progress σ (Except Fault β)} (h : ((work >>= next) s).Leads xs q) :
    (∃ t request resume resume', (work s).Leads xs (.waits t request resume) ∧
      q = .waits t request resume') ∨
    (∃ t f, (work s).Course xs t (.error f) ∧ q = .ended t (.error f)) ∨
    ∃ ys zs u a, xs = ys ++ zs ∧ (work s).Course ys u (.ok a) ∧ (next a u).Leads zs q := by
  rw [bind_apply] at h
  rcases Progress.leads_andThen h with
    ⟨t, request, resume, hwork, rfl⟩ | ⟨ys, zs, u, f | a, rfl, hwork, hrest⟩
  · exact .inl ⟨t, request, resume, _, hwork, rfl⟩
  · obtain ⟨rfl, rfl⟩ := Progress.leads_ended hrest
    exact .inr (.inl ⟨u, f, by simpa using hwork, rfl⟩)
  · exact .inr (.inr ⟨ys, zs, u, a, rfl, hwork, hrest⟩)

end Flow

/-! ### Looks at routes -/

/-- The state after a walk was told by the gate to go on from a route to a target. -/
def State.sending (s : State) (route : Route) (target : String) (why : Reason) : State :=
  s.noting [.logged ⟨.router, .info, "Navigation to " ++ route.path ++ " redirected to " ++
    target ++ " (" ++ why.name ++ ")"⟩]

/-- A look of a walk at a route, from the state `s` to the state `t`, what comes of it, and how many
    evaluations it takes. A fault comes of it only if one stops the evaluation. -/
inductive Look (setup : Setup) (route : Route) (s : State) :
    List (Exchange State) → State → Except Fault (Option String) → Nat → Prop
  | redirected {target} : route.redirect? = some target →
      Look setup route s [] s (.ok (some target)) 0
  | allowed {xs t v} : route.redirect? = none → (setup.judge route s).Course xs t (.ok v) →
      v.decision = .allow → Look setup route s xs t (.ok none) 1
  | sent {xs t v target why} : route.redirect? = none →
      (setup.judge route s).Course xs t (.ok v) → v.decision = .redirect target why →
      Look setup route s xs (t.sending route target why) (.ok (some target)) 1
  | broken {xs t f} : route.redirect? = none → (setup.judge route s).Course xs t (.error f) →
      f.NoNavigation → Look setup route s xs t (.error f) 1

/-- A walk has come from one route to another, over so many redirects and with so many evaluations:
    it looked at each route on the way and was led on. -/
inductive Trail (setup : Setup) :
    Route → State → List (Exchange State) → Route → State → Nat → Nat → Prop
  | here {route s} : Trail setup route s [] route s 0 0
  | on {route s xs t target m next ys dest u k n} :
      Look setup route s xs t (.ok (some target)) m → setup.table.resolve target = .ok next →
      Trail setup next t ys dest u k n → Trail setup route s (xs ++ ys) dest u (k + 1) (m + n)

/-- What becomes of a walk at its last look, with so many redirects left. The target of a redirect
    that is one too many is not looked up: the walk fails, whatever the target is. -/
inductive Stops (setup : Setup) (left : Nat) (route : Route) :
    Except Fault (Option String) → Except Fault Route → Prop
  | broken (f) : Stops setup left route (.error f) (.error f)
  | arrived : Stops setup left route (.ok none) (.ok route)
  | tooMany (target) : left = 0 →
      Stops setup left route (.ok (some target))
        (.error (.navigation (.tooManyRedirects route.path)))
  | unknown {target f} : 0 < left → setup.table.resolve target = .error f →
      Stops setup left route (.ok (some target)) (.error (.navigation f))

/-- How far a walk has come that follows redirects from a route, so many at most, and how many
    evaluations it has begun. It waits in the midst of one, or it is over. -/
inductive Followed (setup : Setup) (most : Nat) (route : Route) (s : State) :
    List (Exchange State) → Progress State (Except Fault Route) → Nat → Prop
  | judging {ys dest u k n zs t request resume rest} : Trail setup route s ys dest u k n →
      k ≤ most → dest.redirect? = none →
      (setup.judge dest u).Leads zs (.waits t request resume) →
      Followed setup most route s (ys ++ zs) (.waits t request rest) (n + 1)
  | ended {ys dest u k n zs t decided m r} : Trail setup route s ys dest u k n → k ≤ most →
      Look setup dest u zs t decided m → Stops setup (most - k) dest decided r →
      Followed setup most route s (ys ++ zs) (.ended t r) (n + m)

variable {setup : Setup} {s t u : State} {xs ys zs : List (Exchange State)} {route dest : Route}
  {decided : Except Fault (Option String)} {k m n most : Nat}

namespace Look

theorem evaluations_le (h : Look setup route s xs t decided m) : m ≤ 1 := by
  cases h <;> omega

theorem course (h : Look setup route s xs t decided m) :
    (Walk.onward setup setup.lookup route s).Course xs t decided := by
  cases h with
  | redirected hroute =>
    simp only [Walk.onward, hroute]
    exact .ended s _
  | allowed hroute hjudge hv =>
    simp only [Walk.onward, hroute]
    refine Flow.course_bind_iff.2 (.inr ⟨_, [], _, _, (List.append_nil _).symm, hjudge, ?_⟩)
    simp only [hv]
    exact .ended ..
  | sent hroute hjudge hv =>
    simp only [Walk.onward, hroute]
    refine Flow.course_bind_iff.2 (.inr ⟨_, [], _, _, (List.append_nil _).symm, hjudge, ?_⟩)
    simp only [hv]
    exact .ended ..
  | broken hroute hjudge =>
    simp only [Walk.onward, hroute]
    exact Flow.course_bind_iff.2 (.inl ⟨_, hjudge, rfl⟩)

end Look

/-- A redirect takes one evaluation at the most. -/
theorem Trail.evaluations_le (h : Trail setup route s xs dest u k n) : n ≤ k := by
  induction h with
  | here => exact Nat.le_refl 0
  | on hlook _ _ ih =>
    have hm := hlook.evaluations_le
    omega

/-- Redirects are followed as long as there are some left: a walk goes on from the end of a trail
    with those that the trail has not taken. -/
theorem Trail.leads {q : Progress State (Except Fault Route)}
    (h : Trail setup route s xs dest u k n) (hk : k ≤ most)
    (hq : (Walk.follow setup setup.lookup (most - k) dest u).Leads zs q) :
    (Walk.follow setup setup.lookup most route s).Leads (xs ++ zs) q := by
  induction h generalizing most with
  | here => exact hq
  | @on route s xs t target m next ys dest u k n hlook hnext _ ih =>
    obtain ⟨most, rfl⟩ := Nat.exists_eq_succ_of_ne_zero (Nat.ne_zero_of_lt hk)
    rw [Nat.succ_eq_add_one, Nat.add_sub_add_right] at hq
    have hrest := ih (Nat.le_of_succ_le_succ hk) hq
    rw [List.append_assoc, Walk.follow, Flow.bind_apply]
    refine hlook.course.andThen_leads ?_
    simp only [Walk.resolve, hnext]
    exact hrest

/-- Where a walk has followed all the redirects that it may, another one stops it, whatever its
    target is. -/
theorem Trail.leads_tooMany {target : String} (h : Trail setup route s xs dest u most n)
    (hlook : Look setup dest u zs t (.ok (some target)) m) :
    (Walk.follow setup setup.lookup most route s).Leads (xs ++ zs)
      (.ended t (.error (.navigation (.tooManyRedirects dest.path)))) := by
  refine h.leads (Nat.le_refl most) ?_
  rw [Nat.sub_self, Walk.follow, Flow.bind_apply, ← List.append_nil zs]
  exact hlook.course.andThen_leads .here

/-- Where a walk has a redirect left, it goes on from the target of another one. -/
theorem Trail.leads_on {target : String} {next : Route} (h : Trail setup route s xs dest u k n)
    (hk : k < most) (hlook : Look setup dest u zs t (.ok (some target)) m)
    (hnext : setup.table.resolve target = .ok next) :
    (Walk.follow setup setup.lookup most route s).Leads (xs ++ zs)
      (Walk.follow setup setup.lookup (most - (k + 1)) next t) := by
  obtain ⟨left, hleft⟩ : ∃ left, most - k = left + 1 := ⟨most - (k + 1), by omega⟩
  refine h.leads (Nat.le_of_lt hk) ?_
  rw [show most - (k + 1) = left by omega, hleft, Walk.follow, Flow.bind_apply,
    ← List.append_nil zs]
  refine hlook.course.andThen_leads ?_
  simp only [Walk.resolve, hnext]
  exact .here

/-- A walk begins no more evaluations than there are redirects that it may follow, and one. -/
theorem Followed.evaluations_le {p : Progress State (Except Fault Route)}
    (h : Followed setup most route s xs p n) : n ≤ most + 1 := by
  cases h with
  | judging htrail hk =>
    have hn := htrail.evaluations_le
    omega
  | ended htrail hk hlook =>
    have hn := htrail.evaluations_le
    have hm := hlook.evaluations_le
    omega

theorem Followed.on {target : String} {next : Route} {p : Progress State (Except Fault Route)}
    (hlook : Look setup route s xs t (.ok (some target)) m)
    (hnext : setup.table.resolve target = .ok next) (h : Followed setup most next t ys p n) :
    Followed setup (most + 1) route s (xs ++ ys) p (m + n) := by
  cases h with
  | judging htrail hk hdest hwaits =>
    rw [← List.append_assoc, ← Nat.add_assoc]
    exact .judging (.on hlook hnext htrail) (by omega) hdest hwaits
  | ended htrail hk hlast hstops =>
    rw [← List.append_assoc, ← Nat.add_assoc]
    refine .ended (.on hlook hnext htrail) (by omega) hlast ?_
    rwa [Nat.add_sub_add_right]

namespace Walk

theorem look_of_course (hs : s.store.InMemory)
    (h : (onward setup setup.lookup route s).Course xs t decided)
    (hxs : ∀ x ∈ xs, x.resumed.store.InMemory) : ∃ m, Look setup route s xs t decided m := by
  cases hroute : route.redirect? with
  | some target =>
    simp only [onward, hroute] at h
    obtain ⟨rfl, rfl, rfl⟩ := Progress.course_ended_iff.1 h
    exact ⟨0, .redirected hroute⟩
  | none =>
    simp only [onward, hroute] at h
    refine ⟨1, ?_⟩
    rcases Flow.course_bind_iff.1 h with ⟨f, hjudge, rfl⟩ | ⟨ys, zs, u, v, rfl, hjudge, hrest⟩
    · obtain ⟨rejected, -, hgrounds⟩ := Gate.judge_course hs hjudge hxs
      exact .broken hroute hjudge hgrounds.noNavigation
    · cases hv : v.decision with
      | allow =>
        simp only [hv] at hrest
        obtain ⟨rfl, rfl, rfl⟩ := Progress.course_ended_iff.1 hrest
        rw [List.append_nil]
        exact .allowed hroute hjudge hv
      | redirect target why =>
        simp only [hv] at hrest
        obtain ⟨rfl, rfl, rfl⟩ := Progress.course_ended_iff.1 hrest
        rw [List.append_nil]
        exact .sent hroute hjudge hv

/-- A walk that waits while it looks at a route has the gate judge the visit. -/
theorem judging_of_leads {request : Request}
    {resume : Reply → State → Progress State (Except Fault (Option String))}
    (h : (onward setup setup.lookup route s).Leads xs (.waits t request resume)) :
    route.redirect? = none ∧ ∃ rest, (setup.judge route s).Leads xs (.waits t request rest) := by
  cases hroute : route.redirect? with
  | some target =>
    simp only [onward, hroute] at h
    cases (Progress.leads_ended h).2
  | none =>
    simp only [onward, hroute] at h
    refine ⟨rfl, ?_⟩
    rcases Flow.leads_bind h with
      ⟨t, request, rest, resume, hjudge, heq⟩ | ⟨t, f, -, heq⟩ | ⟨ys, zs, u, v, rfl, -, hrest⟩
    · cases heq
      exact ⟨rest, hjudge⟩
    · cases heq
    · cases hv : v.decision with
      | allow =>
        simp only [hv] at hrest
        cases (Progress.leads_ended hrest).2
      | redirect target why =>
        simp only [hv] at hrest
        cases (Progress.leads_ended hrest).2

/-- A walk that begins with a look at a route is there still, or it has been stopped there, or it
    goes on with what came of the look. -/
theorem followed_or_looked {next : Option String → Job Route}
    {q : Progress State (Except Fault Route)} (hs : s.store.InMemory)
    (h : ((onward setup setup.lookup route >>= next) s).Leads xs q)
    (hxs : ∀ x ∈ xs, x.resumed.store.InMemory) :
    (∃ n, Followed setup most route s xs q n) ∨
      ∃ ys zs u o m, xs = ys ++ zs ∧ Look setup route s ys u (.ok o) m ∧ u.store.InMemory ∧
        (next o u).Leads zs q := by
  rcases Flow.leads_bind h with
    ⟨t, request, resume, rest, hwaits, rfl⟩ | ⟨t, f, hlast, rfl⟩ | ⟨ys, zs, u, o, rfl, hlook, hrest⟩
  · obtain ⟨hroute, resume, hjudge⟩ := judging_of_leads hwaits
    exact .inl ⟨_, .judging .here (Nat.zero_le _) hroute hjudge⟩
  · obtain ⟨m, hlook⟩ := look_of_course hs hlast hxs
    exact .inl ⟨_, .ended .here (Nat.zero_le _) hlook (.broken f)⟩
  · have hys := (List.forall_mem_append.1 hxs).1
    obtain ⟨m, hm⟩ := look_of_course hs hlook hys
    exact .inr ⟨ys, zs, u, o, m, rfl, hm, inMemory_of_onward hs hlook hys, hrest⟩

/-- Wherever a walk has come to, there is a trail to it. -/
theorem follow_leads {q : Progress State (Except Fault Route)} (hs : s.store.InMemory)
    (h : (follow setup setup.lookup most route s).Leads xs q)
    (hxs : ∀ x ∈ xs, x.resumed.store.InMemory) : ∃ n, Followed setup most route s xs q n := by
  -- Each redirect that is followed takes one away from those that are left, and adds one to the
  -- trail.
  induction most generalizing route s xs with
  | zero =>
    rcases followed_or_looked hs h hxs with hfollowed | ⟨ys, zs, u, o, m, rfl, hlook, -, hrest⟩
    · exact hfollowed
    cases o with
    | none =>
      obtain ⟨rfl, rfl⟩ := Progress.leads_ended hrest
      rw [List.append_nil]
      exact ⟨_, .ended .here (Nat.zero_le _) hlook .arrived⟩
    | some target =>
      obtain ⟨rfl, rfl⟩ := Progress.leads_ended hrest
      rw [List.append_nil]
      exact ⟨_, .ended .here (Nat.zero_le _) hlook (.tooMany target rfl)⟩
  | succ most ih =>
    rcases followed_or_looked hs h hxs with hfollowed | ⟨ys, zs, u, o, m, rfl, hlook, hu, hrest⟩
    · exact hfollowed
    cases o with
    | none =>
      obtain ⟨rfl, rfl⟩ := Progress.leads_ended hrest
      rw [List.append_nil]
      exact ⟨_, .ended .here (Nat.zero_le _) hlook .arrived⟩
    | some target =>
      simp only [resolve] at hrest
      cases hnext : setup.table.resolve target with
      | error f =>
        rw [hnext] at hrest
        obtain ⟨rfl, rfl⟩ := Progress.leads_ended hrest
        rw [List.append_nil]
        exact ⟨_, .ended .here (Nat.zero_le _) hlook (.unknown (Nat.succ_pos most) hnext)⟩
      | ok next =>
        rw [hnext] at hrest
        obtain ⟨n, hfollowed⟩ := ih hu hrest (List.forall_mem_append.1 hxs).2
        exact ⟨_, hfollowed.on hlook hnext⟩

end Walk

end Gatehouse
