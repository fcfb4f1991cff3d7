import Gatehouse.Proofs.Memory

/-! Walks of strangers: of visitors for whom no token is stored. Without a token the gate has
    nothing to look up, so a stranger's walk is over at once, whatever the routes are: either it
    arrives at the route to which the redirects lead, those of the routes and those of the gate to
    the login route, or there is no such route within the bound and nobody has moved. It asks the
    service for nothing and tells the user nothing. -/

namespace Gatehouse

/-! ### Silent events -/

/-- Whether an event tells the user something. Where nobody shows notices, they are log rows. -/
def Event.isNotice : Event → Bool
  | .noticed _ => true
  | .logged row => row.source = .notices
  | _ => false

/-- Whether an event is a request to the service. -/
def Event.isRequest : Event → Bool
  | .requested _ => true
  | _ => false

/-- Whether an event neither tells the user something nor asks the service for something. -/
def Event.isSilent (e : Event) : Bool := !e.isNotice && !e.isRequest

/-- Two states differ by no more than silent events. -/
def Hushed (s t : State) : Prop := ∃ es, (∀ e ∈ es, e.isSilent) ∧ t = s.noting es

namespace Hushed

variable {s t u : State}

theorem refl (s : State) : Hushed s s := ⟨[], by simp, rfl⟩

theorem one (s : State) {e : Event} (he : e.isSilent) : Hushed s (s.noting [e]) :=
  ⟨[e], by simpa using he, rfl⟩

theorem logged (s : State) {source : Source} (h : source ≠ .notices) (level : Level)
    (text : String) : Hushed s (s.noting [.logged ⟨source, level, text⟩]) :=
  one s (by simp [Event.isSilent, Event.isNotice, Event.isRequest, h])

theorem trans (h : Hushed s t) (h' : Hushed t u) : Hushed s u := by
  obtain ⟨es, hes, rfl⟩ := h
  obtain ⟨fs, hfs, rfl⟩ := h'
  exact ⟨fs ++ es, List.forall_mem_append.2 ⟨hfs, hes⟩, by simp⟩

end Hushed

/-- Between two states lies no more than a walk in silence: they differ in where the visitor is, and
    in silent events. -/
def Strolled (s t : State) : Prop :=
  ∃ navigation es, (∀ e ∈ es, e.isSilent) ∧
    t = { s with navigation := navigation, journal := es ++ s.journal }

namespace Strolled

variable {s t u : State}

theorem refl (s : State) : Strolled s s := ⟨s.navigation, [], by simp, rfl⟩

theorem trans (h : Strolled s t) (h' : Strolled t u) : Strolled s u := by
  obtain ⟨navigation, es, hes, rfl⟩ := h
  obtain ⟨navigation', fs, hfs, rfl⟩ := h'
  exact ⟨navigation', fs ++ es, List.forall_mem_append.2 ⟨hfs, hes⟩, by simp⟩

theorem of_hushed (h : Hushed s t) : Strolled s t := by
  obtain ⟨es, hes, rfl⟩ := h
  exact ⟨s.navigation, es, hes, rfl⟩

theorem departing (path : String) : Strolled s (s.departing path) :=
  ⟨_, [.departed path], by simp [Event.isSilent, Event.isNotice, Event.isRequest], rfl⟩

theorem settling (path : String) : Strolled s (s.settling path) :=
  ⟨_, [.settled path], by simp [Event.isSilent, Event.isNotice, Event.isRequest], rfl⟩

theorem entering (route : Route) : Strolled s (s.entering route) :=
  ⟨_, [.entered route.path s.stored], by simp [Event.isSilent, Event.isNotice, Event.isRequest],
    rfl⟩

end Strolled

/-- A memory keeps no token. -/
structure State.Strange (s : State) : Prop where
  memory : s.store.InMemory
  stored : s.stored = none

/-- Who is a stranger stays one in silence. -/
theorem Hushed.strange {s t : State} (h : Hushed s t) (hs : s.Strange) : t.Strange := by
  obtain ⟨es, -, rfl⟩ := h
  exact ⟨hs.memory, hs.stored⟩

/-! ### Walks in steps -/

namespace State

/-- The state after a walk has arrived at a route: it is entered, unless the visitor is there. -/
def arriving (s : State) (route : Route) : State :=
  if s.navigation.currentPath = some route.path then s
  else (s.entering route).noting [.logged ⟨.router, .debug, "Navigated to " ++ route.path⟩]

/-- The state after a walk was not begun. -/
def ignoring (s : State) (route : Route) : State :=
  s.noting [.logged ⟨.router, .debug, "Navigation to " ++ route.path ++ " ignored"⟩]

end State

namespace Navigation

/-- Whether a walk from a route is not begun: the visitor is there, or another walk is on its way
    from there. -/
def Ignores (n : Navigation) (route : Route) : Prop :=
  n.currentPath = some route.path ∨ route.path ∈ n.pending

/-- The navigation after the visitor has got to a route. -/
def reaching (n : Navigation) (route : Route) : Navigation :=
  { n with current := some route, history := n.history ++ [route.path] }

end Navigation

namespace State

theorem arriving_navigation (s : State) (route : Route) :
    (s.arriving route).navigation = if s.navigation.currentPath = some route.path then s.navigation
      else s.navigation.reaching route := by
  unfold arriving
  split <;> rfl

/-- What a walk that was begun adds to the pending ones, it takes away again. -/
theorem settling_navigation {s u : State} {route : Route} (h : ¬s.navigation.Ignores route)
    (hu : Hushed (s.departing route.path) u) :
    (u.settling route.path).navigation = s.navigation := by
  obtain ⟨es, -, rfl⟩ := hu
  have hpending : route.path ∉ s.navigation.pending := fun hmem => h (.inr hmem)
  have hfilter : s.navigation.pending.filter (· ≠ route.path) = s.navigation.pending :=
    List.filter_eq_self.2 fun path hpath => by
      simpa using fun heq : path = route.path => hpending (heq ▸ hpath)
  simp only [settling, noting_navigation, departing, List.filter_append, hfilter]
  simp

end State

theorem Strolled.arriving {s : State} (route : Route) : Strolled s (s.arriving route) := by
  unfold State.arriving
  split
  · exact .refl s
  · exact (Strolled.entering route).trans (.of_hushed (.logged _ (by decide) ..))

namespace Walk

variable {setup : Setup} {ask : Call → Job Answer} {s : State}

/-- To enter a route takes no time, and changes nothing if the visitor is there. -/
theorem enter_apply (route : Route) (s : State) :
    enter route s = .ended (s.arriving route) (.ok ()) := by
  unfold State.arriving
  show (if _ then _ else _ : Job Unit) s = _
  split <;> rfl

/-- A walk to a path that nothing is declared for is none. -/
theorem go_unknown {path : String} {f : NavigationFault} (h : setup.table.resolve path = .error f) :
    go setup ask path s = .ended s (.error (.navigation f)) := by
  simp only [go, resolve, h]
  rfl

/-- A walk that is ignored ends where the visitor is. -/
theorem go_ignored {path : String} {route : Route} (h : setup.table.resolve path = .ok route)
    (hs : s.navigation.Ignores route) : go setup ask path s =
      .ended (s.ignoring route) (.ok s.navigation.current) := by
  have hif : (s.navigation.currentPath = some route.path ||
      s.navigation.pending.contains route.path) = true := by simpa [Navigation.Ignores] using hs
  simp only [go, resolve, h]
  show (if _ then _ else _ : Job (Option Route)) s = _
  rw [if_pos hif]
  rfl

/-- A walk that is begun follows the redirects, settles in any case, and enters the route to which
    they lead. -/
theorem go_begun {path : String} {route : Route} (h : setup.table.resolve path = .ok route)
    (hs : ¬s.navigation.Ignores route) : go setup ask path s =
      (follow setup ask setup.settings.maxRedirects route (s.departing route.path)).andThen
        fun r u => match r with
          | .error f => .ended (u.settling route.path) (.error f)
          | .ok dest => .ended ((u.settling route.path).arriving dest) (.ok (some dest)) := by
  have hif : ¬(s.navigation.currentPath = some route.path ||
      s.navigation.pending.contains route.path) = true := by simpa [Navigation.Ignores] using hs
  simp only [go, resolve, h]
  show (if _ then _ else _ : Job (Option Route)) s = _
  rw [if_neg hif]
  show ((Flow.followedBy _ (settle route) >>= _) (s.departing route.path)) = _
  simp only [Flow.followedBy, Flow.outcome, Flow.andThen, Flow.bind_apply, Progress.andThen_assoc]
  congr
  funext r u
  rcases r with f | dest
  · rfl
  · show (enter dest >>= fun _ => pure (some dest) : Job _) (u.settling route.path) = _
    exact Flow.bind_of_ok (enter_apply ..) _

end Walk

/-! ### Where strangers get to -/

/-- Where a route leads a stranger on to, if it does: by its own redirect, or to the login route if
    it asks for a token. -/
def Setup.strangerTarget? (setup : Setup) (route : Route) : Option String :=
  match route.redirect? with
  | some target => some target
  | none => if route.policy.requiresAuth then some setup.settings.loginPath else none

/-- A stranger is led from one route to another, over so many redirects at most. -/
inductive LedOn (setup : Setup) : Nat → Route → Route → Prop
  | here {left route} : setup.strangerTarget? route = none → LedOn setup left route route
  | on {left route target next dest} : setup.strangerTarget? route = some target →
      setup.table.resolve target = .ok next → LedOn setup left next dest →
      LedOn setup (left + 1) route dest

/-- A stranger who walks to a path gets to a route: the walk is begun and leads there within the
    bound on redirects, and the visitor is not there yet. -/
structure Reaches (setup : Setup) (n : Navigation) (path : String) (dest : Route) : Prop where
  ledOn : ∃ route, setup.table.resolve path = .ok route ∧ ¬n.Ignores route ∧
    LedOn setup setup.settings.maxRedirects route dest
  new : n.currentPath ≠ some dest.path

/-- A stranger's walk to a path leads from where the visitor is to the route that it gets to, or
    nowhere if there is none. -/
def Moves (setup : Setup) (path : String) (n n' : Navigation) : Prop :=
  (∃ dest, Reaches setup n path dest ∧ n' = n.reaching dest) ∨
    (∀ dest, ¬Reaches setup n path dest) ∧ n' = n

section

variable {setup : Setup} {left : Nat} {route dest dest' : Route} {target : String}

/-- A stranger stays at a route that leads on to nowhere. -/
theorem ledOn_iff_of_none (h : setup.strangerTarget? route = none) :
    LedOn setup left route dest ↔ dest = route := by
  constructor
  · rintro (_ | htarget)
    · rfl
    · simp [h] at htarget
  · rintro rfl
    exact .here h

/-- Where no redirect is left, a route that leads on leads nowhere. -/
theorem not_ledOn_zero (h : setup.strangerTarget? route = some target) :
    ¬LedOn setup 0 route dest := by
  rintro (hhere | _)
  simp [h] at hhere

/-- Otherwise it leads where the next route does, with one redirect less. -/
theorem ledOn_succ_iff (h : setup.strangerTarget? route = some target) :
    LedOn setup (left + 1) route dest ↔
      ∃ next, setup.table.resolve target = .ok next ∧ LedOn setup left next dest := by
  constructor
  · rintro (hhere | ⟨htarget, hnext, hled⟩)
    · simp [h] at hhere
    · obtain rfl := Option.some.inj (h.symm.trans htarget)
      exact ⟨_, hnext, hled⟩
  · rintro ⟨next, hnext, hled⟩
    exact .on h hnext hled

/-- The redirects lead to one route only. -/
theorem LedOn.unique (h : LedOn setup left route dest) (h' : LedOn setup left route dest') :
    dest = dest' := by
  induction h with
  | here hhere => exact ((ledOn_iff_of_none hhere).1 h').symm
  | on htarget hnext _ ih =>
    obtain ⟨next', hnext', hled'⟩ := (ledOn_succ_iff htarget).1 h'
    obtain rfl := Except.ok.inj (hnext.symm.trans hnext')
    exact ih hled'

end

theorem Reaches.eq_of_ledOn {setup : Setup} {n : Navigation} {path : String}
    {route dest dest' : Route} (h : Reaches setup n path dest')
    (hroute : setup.table.resolve path = .ok route)
    (hled : LedOn setup setup.settings.maxRedirects route dest) : dest = dest' := by
  obtain ⟨⟨route', hroute', -, hled'⟩, -⟩ := h
  obtain rfl := Except.ok.inj (hroute.symm.trans hroute')
  exact hled.unique hled'

namespace Gate

variable (setup : Setup) (ask : Call → Job Answer) {s : State}

/-- The verdict on a stranger. -/
def strangerVerdict (route : Route) : Verdict :=
  ⟨route, none, none, none, if route.policy.requiresAuth then
    .redirect setup.settings.loginPath .unauthenticated else .allow⟩

/-- The gate needs no lookup to decide on a stranger. -/
theorem verdictOn_stranger (hs : s.Strange) (route : Route) :
    ∃ t, Hushed s t ∧
      verdictOn setup ask route s = .ended t (.ok (strangerVerdict setup route)) := by
  rw [verdictOn, Job.token_bind hs.memory, hs.stored]
  unfold strangerVerdict
  cases h : route.policy.requiresAuth with
  | true =>
    simp only [rule?, h]
    exact ⟨_, .logged s (by decide) .debug ("Blocking anonymous navigation to " ++ route.path), rfl⟩
  | false =>
    refine ⟨s, .refl s, ?_⟩
    simp [rule?, h, roleStep, pinStep]
    rfl

theorem judge_stranger (hs : s.Strange) (route : Route) :
    ∃ t, Hushed s t ∧ judge setup ask route s = .ended t (.ok (strangerVerdict setup route)) := by
  obtain ⟨t, ht, hv⟩ := verdictOn_stranger setup ask hs route
  have he : (Event.judged (strangerVerdict setup route)).isSilent := rfl
  refine ⟨_, ht.trans (.one t he), ?_⟩
  rw [judge, Flow.bind_of_ok hv, Job.record_bind]
  rfl

end Gate

namespace Walk

variable (setup : Setup) (ask : Call → Job Answer) {s : State}

/-- What a route does with a stranger is known beforehand. -/
theorem onward_stranger (hs : s.Strange) (route : Route) :
    ∃ t, Hushed s t ∧ onward setup ask route s = .ended t (.ok (setup.strangerTarget? route)) := by
  unfold onward Setup.strangerTarget?
  cases route.redirect? with
  | some target => exact ⟨s, .refl s, rfl⟩
  | none =>
    obtain ⟨t, ht, hv⟩ := Gate.judge_stranger setup ask hs route
    simp only [Flow.bind_of_ok hv, Gate.strangerVerdict]
    split
    · exact ⟨_, ht.trans (.logged t (by decide) ..), rfl⟩
    · exact ⟨t, ht, rfl⟩

/-- A stranger is led to the route at the end of the redirects, if there is one. -/
theorem follow_stranger (left : Nat) (hs : s.Strange) (route : Route) :
    ∃ t r, Hushed s t ∧ follow setup ask left route s = .ended t r ∧
      ((∃ dest, LedOn setup left route dest ∧ r = .ok dest) ∨
        (∀ dest, ¬LedOn setup left route dest) ∧ ∃ f, r = .error (.navigation f)) := by
  -- Every look at a route is that of a stranger again, since no silent event stores a token.
  induction left generalizing s route with
  | zero =>
    obtain ⟨t, ht, honward⟩ := onward_stranger setup ask hs route
    rw [follow, Flow.bind_of_ok honward]
    cases htarget : setup.strangerTarget? route with
    | none => exact ⟨t, _, ht, rfl, .inl ⟨route, .here htarget, rfl⟩⟩
    | some target => exact ⟨t, _, ht, rfl, .inr ⟨fun _ => not_ledOn_zero htarget, _, rfl⟩⟩
  | succ left ih =>
    obtain ⟨t, ht, honward⟩ := onward_stranger setup ask hs route
    rw [follow, Flow.bind_of_ok honward]
    cases htarget : setup.strangerTarget? route with
    | none => exact ⟨t, _, ht, rfl, .inl ⟨route, .here htarget, rfl⟩⟩
    | some target =>
      simp only [resolve, ledOn_succ_iff htarget]
      cases hnext : setup.table.resolve target with
      | error f => exact ⟨t, _, ht, rfl, .inr ⟨by simp, f, rfl⟩⟩
      | ok next =>
        obtain ⟨u, r, hu, hfollow, hr⟩ := ih (ht.strange hs) next
        exact ⟨u, r, ht.trans hu, hfollow, by simpa using hr⟩

/-- How a stranger's walk ends: at once, where the redirects lead to, or nowhere else. -/
theorem go_stranger (hs : s.Strange) (path : String) :
    ∃ t r, Strolled s t ∧ go setup ask path s = .ended t r ∧
      Moves setup path s.navigation t.navigation ∧
      ((∃ route, r = .ok route) ∨ ∃ f, r = .error (.navigation f)) := by
  cases hroute : setup.table.resolve path with
  | error f =>
    refine ⟨s, _, .refl s, go_unknown hroute, .inr ⟨?_, rfl⟩, .inr ⟨f, rfl⟩⟩
    rintro dest ⟨⟨route, hroute', -⟩, -⟩
    simp [hroute] at hroute'
  | ok route =>
    by_cases hignored : s.navigation.Ignores route
    · refine ⟨_, _, .of_hushed (.logged s (by decide) ..), go_ignored hroute hignored,
        .inr ⟨?_, rfl⟩, .inl ⟨_, rfl⟩⟩
      rintro dest ⟨⟨route', hroute', hbegun, -⟩, -⟩
      obtain rfl := Except.ok.inj (hroute.symm.trans hroute')
      exact hbegun hignored
    · obtain ⟨u, r, hu, hfollow, hr⟩ := follow_stranger setup ask
        setup.settings.maxRedirects (s := s.departing route.path) ⟨hs.memory, hs.stored⟩ route
      rw [go_begun hroute hignored, hfollow, Progress.andThen_ended]
      have hback := State.settling_navigation hignored hu
      have hstrolled : Strolled s (u.settling route.path) :=
        (Strolled.departing _).trans ((Strolled.of_hushed hu).trans (.settling _))
      rcases hr with ⟨dest, hled, rfl⟩ | ⟨hnowhere, f, rfl⟩
      · refine ⟨_, _, hstrolled.trans (.arriving dest), rfl, ?_, .inl ⟨_, rfl⟩⟩
        rw [State.arriving_navigation, hback]
        split
        · rename_i hhere
          exact .inr ⟨fun dest' hreaches => hreaches.new (hreaches.eq_of_ledOn hroute hled ▸ hhere),
            rfl⟩
        · rename_i hnew
          exact .inl ⟨dest, ⟨⟨route, hroute, hignored, hled⟩, hnew⟩, rfl⟩
      · refine ⟨_, _, hstrolled, rfl, .inr ⟨?_, hback⟩, .inr ⟨f, rfl⟩⟩
        rintro dest ⟨⟨route', hroute', -, hled⟩, -⟩
        obtain rfl := Except.ok.inj (hroute.symm.trans hroute')
        exact hnowhere dest hled

end Walk

end Gatehouse
