import Gatehouse.Proofs.Trails
import Gatehouse.Proofs.Turns

/-! How many redirects a walk follows. With routes and settings that are well formed, the policy of
    the gate never sends a visitor round in circles, whatever the service replies and whatever
    others do in the meantime. Every route has a rank, and a redirect leads to a route of a lower
    one. The rank of the login route depends on whether a token is stored: it is the lowest without
    one, since the gate lets a stranger in there, and no lookup comes between the redirect and the
    gate at the login route in which a token could be stored. -/

namespace Gatehouse

/-! ### Redirects of a walk -/

/-- A walk that looks at a route has been redirected so many times, after these exchanges, when it
    looks at another. -/
inductive Redirected (setup : Setup) :
    Route → State → List (Exchange State) → Route → State → Nat → Prop
  | here {route s} : Redirected setup route s [] route s 0
  | on {route s xs t target next ys dest u k} :
      (Walk.onward setup setup.lookup route s).Course xs t (.ok (some target)) →
      setup.table.resolve target = .ok next → Redirected setup next t ys dest u k →
      Redirected setup route s (xs ++ ys) dest u (k + 1)

variable {setup : Setup} {s t u : State} {xs : List (Exchange State)} {route dest : Route} {k : Nat}

theorem Trail.redirected {n : Nat} (h : Trail setup route s xs dest u k n) :
    Redirected setup route s xs dest u k := by
  induction h with
  | here => exact .here
  | on hlook hnext _ ih => exact .on hlook.course hnext ih

/-- A walk follows redirects to the route at which it comes to its end. -/
theorem Walk.follow_course {left : Nat} {r : Except Fault Route} (hs : s.store.InMemory)
    (h : (follow setup setup.lookup left route s).Course xs t r)
    (hxs : ∀ x ∈ xs, x.resumed.store.InMemory) :
    ∃ ys zs dest u k decided, xs = ys ++ zs ∧ Redirected setup route s ys dest u k ∧ k ≤ left ∧
      (onward setup setup.lookup dest u).Course zs t decided ∧
      Stops setup (left - k) dest decided r := by
  obtain ⟨n, hfollowed⟩ := follow_leads hs h.leads hxs
  cases hfollowed with
  | ended htrail hk hlook hstops =>
    exact ⟨_, _, _, _, _, _, rfl, htrail.redirected, hk, hlook.course, hstops⟩

/-! ### Ranks -/

/-- A path is declared as it is written, and its route leads on to nowhere by itself. -/
structure Setup.Declares (setup : Setup) (path : String) (route : Route) : Prop where
  resolve : setup.table.resolve path = .ok route
  path : route.path = path
  redirect : route.redirect? = none

/-- The routes to which the gate sends visitors are declared, lead on to nowhere by themselves and
    ask for no role, and nobody needs a token for the login route. The landing route is as the
    settings demand it, and so is the route where the security PIN is set. -/
structure Setup.WellFormed (setup : Setup) : Prop where
  login : ∃ route, setup.Declares setup.settings.loginPath route ∧
    route.policy.requiresAuth = false ∧ route.policy.role? = none
  landing : ∃ route, setup.Declares setup.settings.landingPath route ∧ route.policy.role? = none
  enrollment : ∃ route, setup.Declares setup.settings.enrollmentPath route ∧
    route.policy.role? = none
  checked : Settings.checkLanding setup.settings = .good setup.settings
  enrollment_ne_login : setup.settings.enrollmentPath ≠ setup.settings.loginPath
  enrollment_ne_register : setup.settings.enrollmentPath ≠ setup.settings.registerPath

theorem Settings.checkLanding_of_check {r : Record Json} {settings : Settings}
    (h : check r = .good settings) : checkLanding settings = .good settings := by
  unfold check Checked.andThen at h
  dsimp only at h
  split at h
  · rename_i parts _
    have hsame : parts = settings := by
      unfold checkLanding at h
      split at h
      · cases h
      · simpa using h
    rwa [hsame] at h
  · cases h

theorem Setup.WellFormed.default : Setup.default.WellFormed where
  login := ⟨Table.openRoute "/login" "Login", ⟨by decide +kernel, rfl, by decide⟩, rfl, rfl⟩
  landing := ⟨Table.closedRoute "/vault" "Vault", ⟨by decide +kernel, rfl, by decide⟩, rfl⟩
  enrollment := ⟨⟨"/setup-security-pin", some "SetupSecurityPin", ⟨true, none, true⟩, none⟩,
    ⟨by decide +kernel, rfl, by decide⟩, rfl⟩
  checked := Settings.checkLanding_of_check (r := []) rfl
  enrollment_ne_login := by decide
  enrollment_ne_register := by decide

/-- What a path resolves to has that path, in its normal form. -/
theorem Table.path_of_resolve {table : Table} {path : String} {route : Route}
    (h : table.resolve path = .ok route) : route.path = normal path := by
  unfold resolve get? at h
  split at h
  · rename_i found hfound
    cases h
    simpa using List.find?_some hfound
  · cases h

theorem Table.resolve_unique {table : Table} {path path' : String} {route route' : Route}
    (h : table.resolve path = .ok route) (h' : table.resolve path' = .ok route')
    (heq : route.path = route'.path) : route = route' := by
  have hnormal : normal path = normal path' := by
    rw [← path_of_resolve h, ← path_of_resolve h', heq]
  unfold resolve at h h'
  rw [hnormal] at h
  split at h
  · rename_i found hfound
    rw [hfound] at h'
    cases h
    cases h'
    rfl
  · cases h

namespace Setup

variable {token : Option Json} {path : String}

/-- The rank of a route. It bounds the redirects that a walk follows from there. -/
def rank (setup : Setup) (route : Route) (token : Option Json) : Nat :=
  if route.path = setup.settings.loginPath then if token.isSome then 3 else 0
  else if route.path = setup.settings.enrollmentPath then 1
  else if route.path = setup.settings.landingPath then 2
  else 4

theorem rank_le_four (setup : Setup) (route : Route) (token : Option Json) :
    setup.rank route token ≤ 4 := by
  unfold rank
  grind

/-- A visitor without a token is let in at the login route, and with one is sent on from there. -/
theorem rank_login (h : route.path = setup.settings.loginPath) :
    setup.rank route token = if token.isSome then 3 else 0 := by
  simp [rank, h]

theorem rank_pos (h : route.path ≠ setup.settings.loginPath) : 0 < setup.rank route token := by
  unfold rank
  grind

namespace WellFormed

variable (hw : setup.WellFormed)

include hw

theorem landing_ne_login : setup.settings.landingPath ≠ setup.settings.loginPath := by
  have h := hw.checked
  unfold Settings.checkLanding at h
  split at h
  · cases h
  · simp_all

theorem landing_ne_register : setup.settings.landingPath ≠ setup.settings.registerPath := by
  have h := hw.checked
  unfold Settings.checkLanding at h
  split at h
  · cases h
  · simp_all

/-- There is one login route, and it is open to all. -/
theorem of_path_eq_login (hroute : setup.table.resolve path = .ok route)
    (h : route.path = setup.settings.loginPath) :
    setup.Declares setup.settings.loginPath route ∧ route.policy.requiresAuth = false := by
  obtain ⟨login, hlogin, hopen, -⟩ := hw.login
  obtain rfl := Table.resolve_unique hroute hlogin.resolve (h.trans hlogin.path.symm)
  exact ⟨hlogin, hopen⟩

theorem path_ne_login (hroute : setup.table.resolve path = .ok route)
    (h : route.policy.requiresAuth) : route.path ≠ setup.settings.loginPath := by
  intro heq
  simp [(hw.of_path_eq_login hroute heq).2] at h

/-- A route that asks for a role is none to which the gate sends visitors. -/
theorem rank_eq_four (token : Option Json) (hroute : setup.table.resolve path = .ok route)
    (h : route.policy.role?.isSome) : setup.rank route token = 4 := by
  obtain ⟨login, hlogin, -, hlogin'⟩ := hw.login
  obtain ⟨landing, hlanding, hlanding'⟩ := hw.landing
  obtain ⟨enrollment, henrollment, henrollment'⟩ := hw.enrollment
  have hne : ∀ {special : Route} {target : String}, setup.Declares target special →
      special.policy.role? = none → route.path ≠ target := by
    intro special target hspecial hno heq
    obtain rfl := Table.resolve_unique hroute hspecial.resolve (heq.trans hspecial.path.symm)
    simp [hno] at h
  unfold rank
  rw [if_neg (hne hlogin hlogin'), if_neg (hne henrollment henrollment'),
    if_neg (hne hlanding hlanding')]

/-- The landing route has a lower rank than all from which the gate sends visitors there. -/
theorem rank_landing_le (token : Option Json) {landing : Route}
    (h : landing.path = setup.settings.landingPath) :
    setup.rank landing token ≤ 2 := by
  unfold rank
  rw [if_neg (h ▸ hw.landing_ne_login)]
  grind

theorem rank_enrollment {enrollment : Route}
    (h : enrollment.path = setup.settings.enrollmentPath) : setup.rank enrollment token = 1 := by
  unfold rank
  rw [if_neg (h ▸ hw.enrollment_ne_login), if_pos h]

end WellFormed

end Setup

/-- Every redirect of the gate leads to a route of a lower rank, and after a rejection to the login
    route. -/
theorem Grounds.descends (hw : setup.WellFormed) {path target : String} {rejected : Bool}
    (hroute : setup.table.resolve path = .ok route) (hlookups : Lookups setup s xs t rejected)
    (h : Grounds setup route s.stored xs rejected (.ok (some target))) :
    (∃ next, setup.Declares target next ∧
      setup.rank next t.stored < setup.rank route s.stored) ∧
      (rejected → target = setup.settings.loginPath) := by
  obtain ⟨login, hlogin, -⟩ := hw.login
  obtain ⟨landing, hlanding, -⟩ := hw.landing
  obtain ⟨enrollment, henrollment, -⟩ := hw.enrollment
  cases h with
  | unauthenticated hauth htoken =>
    refine ⟨⟨login, hlogin, ?_⟩, fun _ => rfl⟩
    -- Nothing was looked up, so there is still no token when the gate looks at the login route.
    cases hlookups with
    | done hcalm =>
      rw [Setup.rank_login hlogin.path, hcalm.stored, htoken]
      exact Setup.rank_pos (hw.path_ne_login hroute hauth)
  | alreadyAuthenticated htoken hpath =>
    refine ⟨⟨landing, hlanding, ?_⟩, by simp⟩
    have hlow := hw.rank_landing_le t.stored hlanding.path
    have hhigh : 3 ≤ setup.rank route s.stored := by
      unfold Setup.rank
      have := hw.enrollment_ne_register
      have := hw.landing_ne_register
      grind
    omega
  | looked hauth hfindings =>
    cases hfindings with
    | userLookupFailed hrole =>
      -- Here a token may be left, and then the login route is not the end.
      refine ⟨⟨login, hlogin, ?_⟩, fun _ => rfl⟩
      rw [hw.rank_eq_four s.stored hroute hrole, Setup.rank_login hlogin.path]
      split <;> omega
    | roleMismatch hrole =>
      refine ⟨⟨landing, hlanding, ?_⟩, by simp⟩
      have hlow := hw.rank_landing_le t.stored hlanding.path
      have hhigh := hw.rank_eq_four s.stored hroute hrole
      omega
    | credentialRejected hpin =>
      -- The rejection itself has removed the token.
      refine ⟨⟨login, hlogin, ?_⟩, fun _ => rfl⟩
      rw [Setup.rank_login hlogin.path, hlookups.stored_eq_none]
      refine Setup.rank_pos (hw.path_ne_login hroute ?_)
      exact (Bool.and_eq_true_iff.1 hpin).1
    | pinMissing hpin hpath =>
      refine ⟨⟨enrollment, henrollment, ?_⟩, by simp⟩
      have hlogin := hw.path_ne_login hroute (Bool.and_eq_true_iff.1 hpin).1
      rw [hw.rank_enrollment henrollment.path]
      unfold Setup.rank
      grind

/-- A walk that begins at a route without a redirect of its own goes down the ranks. -/
theorem Redirected.rank_le (hw : setup.WellFormed) (h : Redirected setup route s xs dest u k)
    (hs : s.store.InMemory) (hxs : ∀ x ∈ xs, x.resumed.store.InMemory)
    (hroute : ∃ path, setup.table.resolve path = .ok route) (hredirect : route.redirect? = none) :
    u.store.InMemory ∧ (∃ path, setup.table.resolve path = .ok dest) ∧ dest.redirect? = none ∧
      k + setup.rank dest u.stored ≤ setup.rank route s.stored := by
  induction h with
  | here => exact ⟨hs, hroute, hredirect, by omega⟩
  | on honward hnext _ ih =>
    obtain ⟨hxs, hys⟩ := List.forall_mem_append.1 hxs
    obtain ⟨path, hpath⟩ := hroute
    obtain ⟨rejected, hlookups, hgrounds⟩ := Walk.onward_course hs honward hxs hredirect
    obtain ⟨⟨next, hdeclares, hlower⟩, -⟩ := hgrounds.descends hw hpath hlookups
    obtain rfl := Except.ok.inj (hnext.symm.trans hdeclares.resolve)
    obtain ⟨hu, hdest, hplain, hle⟩ :=
      ih (hlookups.inMemory hs hxs) hys ⟨_, hdeclares.resolve⟩ hdeclares.redirect
    exact ⟨hu, hdest, hplain, by omega⟩

/-- A walk with four redirects at its disposal does not fail for want of a route. -/
theorem Walk.noNavigation_of_follow (hw : setup.WellFormed) {left : Nat} {r : Except Fault Route}
    {f : Fault} (h : (follow setup setup.lookup left route s).Course xs t r) (hr : r = .error f)
    (hs : s.store.InMemory) (hxs : ∀ x ∈ xs, x.resumed.store.InMemory)
    (hroute : ∃ path, setup.table.resolve path = .ok route) (hredirect : route.redirect? = none)
    (hleft : 4 ≤ left) : f.NoNavigation := by
  obtain ⟨ys, zs, dest, u, k, decided, rfl, hredirected, -, honward, hstops⟩ :=
    follow_course hs h hxs
  obtain ⟨hys, hzs⟩ := List.forall_mem_append.1 hxs
  obtain ⟨hu, ⟨path, hpath⟩, hplain, hle⟩ :=
    hredirected.rank_le hw hs hys hroute hredirect
  obtain ⟨rejected, hlookups, hgrounds⟩ := onward_course hu honward hzs hplain
  have hfour := setup.rank_le_four route s.stored
  cases hstops with
  | broken f' =>
    cases hr
    cases hgrounds with
    | looked _ hfindings =>
      cases hfindings with
      | broken hno => exact hno
  | arrived => cases hr
  | tooMany target hnone =>
    obtain ⟨⟨next, -, hlower⟩, -⟩ := hgrounds.descends hw hpath hlookups
    omega
  | unknown _ hunknown =>
    obtain ⟨⟨next, hnext, -⟩, -⟩ := hgrounds.descends hw hpath hlookups
    simp [hnext.resolve] at hunknown

/-- The ways of a walk are those of following the redirects, if it is begun at all. -/
theorem Walk.go_course {path : String} {r : Except Fault (Option Route)}
    (h : (go setup setup.lookup path s).Course xs t r)
    (hroute : setup.table.resolve path = .ok route) :
    (s.navigation.Ignores route ∧ xs = [] ∧ t = s.ignoring route ∧ r = .ok s.navigation.current) ∨
      ¬s.navigation.Ignores route ∧ ∃ u r',
        (follow setup setup.lookup setup.settings.maxRedirects route
          (s.departing route.path)).Course xs u r' ∧
        ((∃ f, r' = .error f ∧ r = .error f ∧ t = u.settling route.path) ∨
          ∃ dest, r' = .ok dest ∧ r = .ok (some dest) ∧
            t = (u.settling route.path).arriving dest) := by
  by_cases hignored : s.navigation.Ignores route
  · rw [go_ignored hroute hignored] at h
    obtain ⟨rfl, rfl, rfl⟩ := Progress.course_ended_iff.1 h
    exact .inl ⟨hignored, rfl, rfl, rfl⟩
  · rw [go_begun hroute hignored] at h
    obtain ⟨ys, zs, u, r', rfl, hfollow, hend⟩ := Progress.course_andThen_iff.1 h
    refine .inr ⟨hignored, u, r', ?_⟩
    cases r' with
    | error f =>
      obtain ⟨rfl, rfl, rfl⟩ := Progress.course_ended_iff.1 hend
      exact ⟨by simpa using hfollow, .inl ⟨f, rfl, rfl, rfl⟩⟩
    | ok dest =>
      obtain ⟨rfl, rfl, rfl⟩ := Progress.course_ended_iff.1 hend
      exact ⟨by simpa using hfollow, .inr ⟨dest, rfl, rfl, rfl⟩⟩

namespace Pool

/-- The policy sends nobody round in circles. A walk to a route without a redirect of its own is
    redirected four times at most, whatever the service replies, and whatever becomes of the token
    while the walk waits. So with four redirects to follow it never fails for want of a route. -/
theorem policy_never_loops (setup : Setup) (hw : setup.WellFormed) (path : String) (route : Route)
    (hroute : setup.table.resolve path = .ok route) (hredirect : route.redirect? = none) :
    (∀ s xs dest t k, s.store.InMemory → (∀ x ∈ xs, x.resumed.store.InMemory) →
      Redirected setup route s xs dest t k → k ≤ 4) ∧
    ∀ (s : State) (moves : List Move) (i : Nat) (f : NavigationFault), s.store.InMemory →
      4 ≤ setup.settings.maxRedirects → (Move.operations moves)[i]? = some (.walk path) →
      ((fresh s).run setup moves).result? i ≠ some (.error (.navigation f)) := by
  refine ⟨fun s xs dest t k hs hxs h => ?_, fun s moves i f hs hmax hop hresult => ?_⟩
  · obtain ⟨-, -, -, hle⟩ := h.rank_le hw hs hxs ⟨path, hroute⟩ hredirect
    have hfour := setup.rank_le_four route s.stored
    omega
  · obtain ⟨before, xs, t, -, hcourse, hxs⟩ := course_of_result hop hresult
    have hmemory : ∀ done, ((fresh s).run setup done).state.store.InMemory := inMemory_of_run hs
    have hresumed : ∀ x ∈ xs, x.resumed.store.InMemory := by
      intro x hx
      obtain ⟨done, -, hdone⟩ := (hxs x hx).exists_resumed
      exact hdone ▸ hmemory done
    obtain ⟨r, hwalk, hr⟩ := Flow.course_bind_pure_iff.1 hcourse
    rcases Walk.go_course hwalk hroute with
      ⟨-, -, -, rfl⟩ | ⟨-, u, r', hfollow, ⟨f', rfl, rfl, -⟩ | ⟨dest, -, rfl, -⟩⟩
    · cases hr
    · cases hr
      exact Walk.noNavigation_of_follow hw hfollow rfl (s := State.departing _ route.path)
        (hmemory before) hresumed ⟨path, hroute⟩ hredirect hmax f rfl
    · cases hr

/-- A walk to the vault waits for the status of the security PIN, and the credential is rejected. -/
def rejectedWalk : List Move := [.start (.walk "/vault"), .reply 0 .rejection]

/-- A stranger is redirected from the vault once, and a walk there does not fail when the visitor
    becomes a stranger on the way. -/
theorem policy_never_loops_vault :
    let house := (openedWith "a").run .default rejectedWalk
    Setup.default.WellFormed ∧ (∃ s dest t, Redirected .default
      (Table.closedRoute "/vault" "Vault") s [] dest t 1 ∧ 1 ≤ 4) ∧
    house.state.navigation.currentPath = some "/login" ∧ (house.result? 0).isSome ∧
    ∀ f, house.result? 0 ≠ some (.error (.navigation f)) := by
  have hroute : Setup.default.table.resolve "/vault" =
      .ok (Table.closedRoute "/vault" "Vault") := by decide +kernel
  obtain ⟨hfour, hfails⟩ :=
    policy_never_loops .default .default "/vault" _ hroute (by decide)
  refine ⟨.default, ?_, by decide +kernel, by decide +kernel, fun f => ?_⟩
  · let empty := State.opening (.memory []) Store.tokenSlot [] .borrowed
    have hempty : empty.Strange := ⟨State.inMemory_opening .., by decide +kernel⟩
    obtain ⟨t, -, honward⟩ := Walk.onward_stranger .default
      Setup.default.lookup hempty (Table.closedRoute "/vault" "Vault")
    have hcourse : (Walk.onward .default Setup.default.lookup
        (Table.closedRoute "/vault" "Vault") empty).Course [] t (.ok (some "/login")) := by
      rw [honward]
      exact .ended t _
    have hlogin : Setup.default.table.resolve "/login" =
        .ok (Table.openRoute "/login" "Login") := by decide +kernel
    have hled : Redirected .default (Table.closedRoute "/vault" "Vault") empty [] _ t 1 :=
      .on hcourse hlogin .here
    exact ⟨empty, _, t, hled, hfour _ _ _ _ _ hempty.memory (by simp) hled⟩
  · unfold openedWith
    exact hfails _ _ 0 f (State.inMemory_opening ..) (by decide) rfl

end Pool

end Gatehouse
