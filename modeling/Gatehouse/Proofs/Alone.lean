import Gatehouse.Proofs.Mirror
import Gatehouse.Proofs.Redirects

/-! Operations of a visit that are on their own, so that nothing happens between a request and its
    reply. Whatever ends the session then leads the visitor away from a route that asks for a token,
    at once or by the walk that is on its way. The one walk to the login route that is not begun is
    that in the midst of another one from there; that other one comes to its end at the login route
    instead, and has enough redirects left to get there. -/

namespace Gatehouse

/-- Nobody did anything between a request and its reply. -/
structure Exchange.Alone (x : Exchange State) : Prop where
  same : x.resumed = x.asked
  memory : x.resumed.store.InMemory

/-- A house over a memory, where walks from these routes are on their way, and the visitor is at a
    declared route if anywhere. -/
structure State.Tidy (setup : Setup) (pending : List String) (s : State) : Prop where
  memory : s.store.InMemory
  pending : s.navigation.pending = pending
  current : ∀ route, s.navigation.current = some route →
    ∃ path, setup.table.resolve path = .ok route

/-- A visitor at a route that asks for a token has one. -/
def State.Guarded (s : State) : Prop :=
  ∀ route, s.navigation.current = some route → route.policy.requiresAuth → s.stored.isSome

variable {setup : Setup} {s t u : State} {xs : List (Exchange State)} {route dest : Route}
  {pending : List String} {path origin : String} {rejected : Bool}

namespace Calm

theorem tidy (h : Calm s t) (hs : s.Tidy setup pending) : t.Tidy setup pending :=
  ⟨h.inMemory hs.memory, h.navigation ▸ hs.pending, h.navigation ▸ hs.current⟩

theorem guarded (h : Calm s t) (hs : s.Guarded) : t.Guarded := by
  intro route hroute hauth
  rw [h.stored]
  exact hs route (h.navigation ▸ hroute) hauth

end Calm

/-! ### Sessions that end -/

/-- A stranger who is led to the login route is there in the end, unless the way there was already
    taken. -/
theorem Moves.guarded (hw : setup.WellFormed)
    (h : Moves setup setup.settings.loginPath s.navigation t.navigation)
    (hs : s.Tidy setup pending) (ht : t.store.InMemory) :
    t.Tidy setup pending ∧ (setup.settings.loginPath ∉ pending → t.Guarded) := by
  obtain ⟨login, hlogin, hopen, -⟩ := hw.login
  have htarget : setup.strangerTarget? login = none := by
    simp [Setup.strangerTarget?, hlogin.redirect, hopen]
  have hled : LedOn setup setup.settings.maxRedirects login login := .here htarget
  rcases h with ⟨dest, hreaches, ht'⟩ | ⟨hnowhere, ht'⟩
  · obtain rfl := hreaches.eq_of_ledOn hlogin.resolve hled
    have hcurrent : t.navigation.current = some login := by rw [ht']; rfl
    refine ⟨⟨ht, by rw [ht']; exact hs.pending, ?_⟩, fun _ => ?_⟩
    · rintro route hroute
      obtain rfl := Option.some.inj (hcurrent.symm.trans hroute)
      exact ⟨_, hlogin.resolve⟩
    · rintro route hroute hauth
      obtain rfl := Option.some.inj (hcurrent.symm.trans hroute)
      simp [hopen] at hauth
  · refine ⟨⟨ht, ht' ▸ hs.pending, ht' ▸ hs.current⟩, fun hfree => ?_⟩
    rintro route hroute hauth
    rw [ht'] at hroute
    -- The walk was not begun, so the visitor is at the login route.
    have hhere : s.navigation.currentPath = some login.path := by
      by_contra hnew
      refine hnowhere login ⟨⟨login, hlogin.resolve, ?_, hled⟩, hnew⟩
      rintro (hhere | hpending)
      · exact hnew hhere
      · rw [hs.pending, hlogin.path] at hpending
        exact hfree hpending
    obtain ⟨path, hpath⟩ := hs.current route hroute
    have heq : route.path = login.path := by simpa [Navigation.currentPath, hroute] using hhere
    simp [(hw.of_path_eq_login hpath (heq.trans hlogin.path)).2] at hauth

namespace Lookups

theorem calm_of_alone (h : Lookups setup s xs t false) (hxs : ∀ x ∈ xs, x.Alone) : Calm s t := by
  generalize hno : false = no at h
  induction h with
  | done ht => exact ht
  | rejected => cases hno
  | passed hx _ _ ih =>
    obtain ⟨halone, hxs⟩ := List.forall_mem_cons.1 hxs
    exact (halone.same ▸ hx).trans (ih hxs hno)

/-- After a rejection the visitor has been led to the login route, unless a walk from there is on
    its way. -/
theorem guarded_of_alone (hw : setup.WellFormed) (hleads : setup.leadsToLogin)
    (h : Lookups setup s xs t true) (hxs : ∀ x ∈ xs, x.Alone) (hs : s.Tidy setup pending) :
    t.Tidy setup pending ∧ (setup.settings.loginPath ∉ pending → t.Guarded) := by
  generalize hyes : true = yes at h
  induction h with
  | done => cases hyes
  | rejected hx _ hexpired ht =>
    have halone := hxs _ (List.mem_singleton_self _)
    have hresumed := (halone.same ▸ hx).tidy hs
    have hmoves := hexpired.navigation
    rw [if_pos hleads] at hmoves
    obtain ⟨htidy, hguarded⟩ :=
      hmoves.guarded hw hresumed (hexpired.inMemory hresumed.memory)
    exact ⟨ht.tidy htidy, fun hfree => ht.guarded (hguarded hfree)⟩
  | passed hx _ _ ih =>
    obtain ⟨halone, hxs⟩ := List.forall_mem_cons.1 hxs
    exact ih hxs ((halone.same ▸ hx).tidy hs) hyes

end Lookups

/-! ### Walks -/

/-- Where the visitor is on a walk that began at the route with the path `origin`, when it looks at
    another: guarded, or on the way to the login route from there, without a token. -/
def OnWalk (setup : Setup) (origin : String) (path : String) (s : State) : Prop :=
  s.Guarded ∨ origin = setup.settings.loginPath ∧ path = setup.settings.loginPath ∧ s.stored = none

/-- A visitor without a token who is on the way from the login route to itself is let in there. -/
theorem Walk.onward_login (hw : setup.WellFormed) (hroute : setup.table.resolve path = .ok route)
    (hpath : route.path = setup.settings.loginPath) (hs : s.Strange)
    {r : Except Fault (Option String)} (h : (onward setup setup.lookup route s).Course xs t r) :
    xs = [] ∧ Hushed s t ∧ r = .ok none ∧ route.policy.requiresAuth = false := by
  obtain ⟨hlogin, hopen⟩ := hw.of_path_eq_login hroute hpath
  obtain ⟨u, hu, honward⟩ := onward_stranger setup setup.lookup hs route
  rw [honward] at h
  obtain ⟨rfl, rfl, rfl⟩ := Progress.course_ended_iff.1 h
  exact ⟨rfl, hu, by simp [Setup.strangerTarget?, hlogin.redirect, hopen], hopen⟩

/-- One look at a route: where the visitor is after it, and why. -/
theorem Walk.onward_alone (hw : setup.WellFormed) (hleads : setup.leadsToLogin)
    (hroute : setup.table.resolve path = .ok route) (hs : s.Tidy setup [origin])
    (hwalk : OnWalk setup origin route.path s) {r : Except Fault (Option String)}
    (h : (onward setup setup.lookup route s).Course xs t r) (hxs : ∀ x ∈ xs, x.Alone) :
    t.Tidy setup [origin] ∧ (∀ f, r = .error f → t.Guarded) ∧
      (r = .ok none → route.policy.requiresAuth → t.stored.isSome) ∧
      ∀ target, r = .ok (some target) → OnWalk setup origin target t := by
  rcases hwalk with hguarded | ⟨horigin, hpath, hnone⟩
  · cases hredirect : route.redirect? with
    | some target =>
      simp only [onward, hredirect] at h
      obtain ⟨rfl, rfl, rfl⟩ := Progress.course_ended_iff.1 h
      exact ⟨hs, by simp, by simp, fun _ _ => .inl hguarded⟩
    | none =>
      obtain ⟨rejected, hlookups, hgrounds⟩ :=
        onward_course hs.memory h (fun x hx => (hxs x hx).memory) hredirect
      cases rejected with
      | false =>
        have hcalm := hlookups.calm_of_alone hxs
        have hguarded' := hcalm.guarded hguarded
        refine ⟨hcalm.tidy hs, fun _ _ => hguarded', fun hr hauth => ?_, fun _ _ => .inl hguarded'⟩
        rw [hr] at hgrounds
        rw [hcalm.stored]
        cases hgrounds with
        | looked htoken _ => exact htoken hauth
      | true =>
        -- After a rejection the gate sends the visitor to the login route, whatever else it finds.
        obtain ⟨htidy, hfree⟩ := hlookups.guarded_of_alone hw hleads hxs hs
        have hstored := hlookups.stored_eq_none
        have hr : r = .ok (some setup.settings.loginPath) := by
          cases hgrounds with
          | looked _ hfindings => cases hfindings <;> rfl
        refine ⟨htidy, by simp [hr], by simp [hr], ?_⟩
        rintro target htarget
        obtain rfl : setup.settings.loginPath = target := by simpa [hr] using htarget
        by_cases horigin : origin = setup.settings.loginPath
        · exact .inr ⟨horigin, rfl, hstored⟩
        · exact .inl (hfree (by simpa using Ne.symm horigin))
  · obtain ⟨rfl, hhushed, rfl, hopen⟩ := onward_login hw hroute hpath ⟨hs.memory, hnone⟩ h
    obtain ⟨es, -, rfl⟩ := hhushed
    exact ⟨(Calm.noting s es).tidy hs, by simp, by simp [hopen], by simp⟩

/-- On a walk that is redirected, the visitor stays guarded or is on the way to the login route. -/
theorem Redirected.alone (hw : setup.WellFormed) (hleads : setup.leadsToLogin) {k : Nat}
    (h : Redirected setup route s xs dest u k) (hxs : ∀ x ∈ xs, x.Alone)
    (hroute : ∃ path, setup.table.resolve path = .ok route) (hs : s.Tidy setup [origin])
    (hwalk : OnWalk setup origin route.path s) :
    (∃ path, setup.table.resolve path = .ok dest) ∧ u.Tidy setup [origin] ∧
      OnWalk setup origin dest.path u := by
  induction h with
  | here => exact ⟨hroute, hs, hwalk⟩
  | @on route s xs t target next ys dest u k honward hnext _ ih =>
    obtain ⟨hxs, hys⟩ := List.forall_mem_append.1 hxs
    obtain ⟨path, hpath⟩ := hroute
    obtain ⟨ht, -, -, htarget⟩ := Walk.onward_alone hw hleads hpath hs hwalk honward hxs
    refine ih hys ⟨_, hnext⟩ ht ?_
    rcases htarget target rfl with hguarded | ⟨horigin, rfl, hnone⟩
    · exact .inl hguarded
    · obtain ⟨login, hlogin, -⟩ := hw.login
      obtain rfl := Except.ok.inj (hnext.symm.trans hlogin.resolve)
      exact .inr ⟨horigin, hlogin.path, hnone⟩

/-- A walk that comes to a route leaves a visitor without a token only at one that asks for none. A
    walk that fails leaves the visitor guarded. -/
theorem Walk.follow_alone (hw : setup.WellFormed) (hleads : setup.leadsToLogin) {left : Nat}
    (hleft : 4 ≤ left) (hroute : setup.table.resolve path = .ok route)
    (hs : s.Tidy setup [route.path]) (hguarded : s.Guarded) {r : Except Fault Route}
    (h : (follow setup setup.lookup left route s).Course xs t r) (hxs : ∀ x ∈ xs, x.Alone) :
    t.Tidy setup [route.path] ∧ (∀ f, r = .error f → t.Guarded) ∧
      ∀ dest, r = .ok dest → (∃ path, setup.table.resolve path = .ok dest) ∧
        (dest.policy.requiresAuth → t.stored.isSome) := by
  obtain ⟨ys, zs, dest, u, k, decided, rfl, hredirected, -, honward, hstops⟩ :=
    follow_course hs.memory h fun x hx => (hxs x hx).memory
  obtain ⟨hys, hzs⟩ := List.forall_mem_append.1 hxs
  obtain ⟨hdest, hu, hwalk⟩ := hredirected.alone hw hleads hys ⟨path, hroute⟩ hs (.inl hguarded)
  obtain ⟨path', hpath'⟩ := hdest
  obtain ⟨ht, hfault, harrived, htarget⟩ := onward_alone hw hleads hpath' hu hwalk honward hzs
  -- Where a walk from the login route is to go back there, it has a redirect left for that.
  have hlast : ∀ target, decided = .ok (some target) →
      t.Guarded ∨ target = setup.settings.loginPath ∧ k < left := by
    rintro target rfl
    refine (htarget target rfl).imp_right ?_
    rintro ⟨horigin, rfl, -⟩
    have hlogin := (hw.of_path_eq_login hroute horigin).1
    have hmemory : ∀ x ∈ ys, x.resumed.store.InMemory := fun x hx => (hys x hx).memory
    obtain ⟨hu', -, hplain, hle⟩ :=
      hredirected.rank_le hw hs.memory hmemory ⟨path, hroute⟩ hlogin.redirect
    obtain ⟨rejected, hlookups, hgrounds⟩ :=
      onward_course hu' honward (fun x hx => (hzs x hx).memory) hplain
    obtain ⟨⟨next, -, hlower⟩, -⟩ := hgrounds.descends hw hpath' hlookups
    have hfour := setup.rank_le_four route s.stored
    exact ⟨rfl, by omega⟩
  cases hstops with
  | broken f => exact ⟨ht, fun _ _ => hfault f rfl, by simp⟩
  | arrived =>
    refine ⟨ht, by simp, ?_⟩
    rintro _ ⟨⟩
    exact ⟨⟨path', hpath'⟩, harrived rfl⟩
  | tooMany target hnone =>
    refine ⟨ht, fun _ _ => ?_, by simp⟩
    rcases hlast target rfl with hguarded' | ⟨-, hlt⟩
    · exact hguarded'
    · omega
  | unknown _ hunknown =>
    refine ⟨ht, fun _ _ => ?_, by simp⟩
    rcases hlast _ rfl with hguarded' | ⟨rfl, -⟩
    · exact hguarded'
    · obtain ⟨login, hlogin, -⟩ := hw.login
      simp [hlogin.resolve] at hunknown

/-- Between two operations the visitor is guarded, and no walk is on its way. -/
structure State.Settled (setup : Setup) (s : State) : Prop where
  tidy : s.Tidy setup []
  guarded : s.Guarded

theorem Calm.settled (h : Calm s t) (hs : s.Settled setup) : t.Settled setup :=
  ⟨h.tidy hs.tidy, h.guarded hs.guarded⟩

/-- A visitor who arrives where no token is asked for without one is guarded there. -/
theorem State.Tidy.arriving (hs : s.Tidy setup pending)
    (hdest : ∃ path, setup.table.resolve path = .ok dest)
    (htoken : dest.policy.requiresAuth → s.stored.isSome) :
    (s.arriving dest).Tidy setup pending ∧ (s.arriving dest).Guarded := by
  unfold State.arriving
  split
  · rename_i hhere
    refine ⟨hs, fun route hroute hauth => htoken ?_⟩
    obtain ⟨path, hpath⟩ := hs.current route hroute
    obtain ⟨path', hpath'⟩ := hdest
    have heq : route.path = dest.path := by simpa [Navigation.currentPath, hroute] using hhere
    exact Table.resolve_unique hpath hpath' heq ▸ hauth
  · refine ⟨⟨hs.memory, hs.pending, fun route hroute => ?_⟩, fun route hroute hauth => ?_⟩
    · obtain rfl : dest = route := Option.some.inj hroute
      exact hdest
    · obtain rfl : dest = route := Option.some.inj hroute
      exact htoken hauth

/-- A walk on its own leaves the visitor guarded, however it ends. -/
theorem Setup.walk_alone (hw : setup.WellFormed) (hleads : setup.leadsToLogin)
    (hmax : 4 ≤ setup.settings.maxRedirects) (hs : s.Settled setup)
    {r : Except Fault (Option Route)} (h : (setup.walk path s).Course xs t r)
    (hxs : ∀ x ∈ xs, x.Alone) : t.Settled setup := by
  cases hroute : setup.table.resolve path with
  | error f =>
    rw [walk, Walk.go_unknown hroute] at h
    obtain ⟨rfl, rfl, rfl⟩ := Progress.course_ended_iff.1 h
    exact hs
  | ok route =>
    rcases Walk.go_course h hroute with ⟨-, rfl, rfl, rfl⟩ | ⟨-, u, r', hfollow, hend⟩
    · exact (Calm.noting s _).settled hs
    have hdeparting : (s.departing route.path).Tidy setup [route.path] :=
      ⟨hs.tidy.memory, by simp [State.departing, hs.tidy.pending], hs.tidy.current⟩
    obtain ⟨hu, hfault, harrived⟩ := Walk.follow_alone hw hleads hmax hroute hdeparting
      (s := s.departing route.path) hs.guarded hfollow hxs
    have hsettling : (u.settling route.path).Tidy setup [] :=
      ⟨hu.memory, by simp [State.settling, hu.pending], hu.current⟩
    rcases hend with ⟨f, rfl, rfl, rfl⟩ | ⟨dest, rfl, rfl, rfl⟩
    · exact ⟨hsettling, hfault f rfl⟩
    · obtain ⟨hdest, htoken⟩ := harrived dest rfl
      obtain ⟨htidy, hguarded⟩ := hsettling.arriving hdest htoken
      exact ⟨htidy, hguarded⟩

/-! ### Signing in and out -/

/-- No format writes a magnitude as nothing. -/
theorem Decimal.Layout.magnitude_ne_nil (f : Layout) (d : Magnitude) : f.magnitude d ≠ [] := by
  unfold magnitude
  dsimp only
  split
  · split
    · simp
    · split <;> simp
  · simp

/-- The text of a value that counts as present is not empty. -/
theorem Json.display_ne_empty {v : Json} (h : v.isPresent) : v.display ≠ "" := by
  cases v with
  | null => cases h
  | bool b =>
    cases b with
    | false => cases h
    | true => simp [display, quoted]
  | int n =>
    cases n with
    | ofNat m => exact Nat.repr_ne_empty
    | negSucc m =>
      show "-" ++ Nat.repr (m + 1) ≠ ""
      simp
  | float x =>
    simp only [display, quoted, Decimal.Layout.render]
    split
    · split
      · simp [shownNumber]
      · split <;> simp [shownNumber]
    · rename_i b _
      have hbody : (if b.units = 0 then ['0', '.', '0']
          else shownNumber.magnitude b.shortest) ≠ [] := by
        split
        · simp
        · exact shownNumber.magnitude_ne_nil _
      simp only [ne_eq, String.ofList_eq_empty_iff]
      split
      · simp
      · exact hbody
  | str s => simpa [isPresent, display] using h
  | arr items => simp [display, quoted]
  | obj fields => simp [display, quoted]

/-- Whoever has signed in with a token that counts as present has one stored. A token that cannot be
    shown changes nothing. -/
theorem State.settled_after_signIn (hs : s.Settled setup) (room : ℕ) {token : Json}
    (h : token.isPresent) : (s.after (Desk.signIn room token)).Settled setup := by
  cases hshown : token.shown room with
  | error o => rwa [(signIn_memory_unshown hs.tidy.memory h hshown).2]
  | ok text =>
    have hstored : (s.after (Desk.signIn room token)).stored.isSome := by
      rw [stored_after_signIn hs.tidy.memory h hshown]
      simp [Json.present?, Json.isPresent, Json.display_ne_empty h]
    have hmemory := inMemory_after_signIn hs.tidy.memory room token
    obtain ⟨es, -, hafter⟩ := s.after_signIn room token
    have hnavigation : (s.after (Desk.signIn room token)).navigation = s.navigation := by
      rw [hafter]
      rfl
    exact ⟨⟨hmemory, hnavigation ▸ hs.tidy.pending, hnavigation ▸ hs.tidy.current⟩,
      fun _ _ _ => hstored⟩

/-- Work that leaves the house settled if it is on its own, however it ends. -/
structure Job.Settles (setup : Setup) {α : Type} (work : Job α) : Prop where
  settled : ∀ {s t : State} {xs : List (Exchange State)} {r : Except Fault α}, s.Settled setup →
    (work s).Course xs t r → (∀ x ∈ xs, x.Alone) → t.Settled setup

namespace Job.Settles

variable {α β : Type} {work : Job α}

theorem desk {work : Work α} (h : ∀ s : State, s.Settled setup → (s.after work).Settled setup) :
    (Job.desk work).Settles setup where
  settled hs hcourse _ := by
    obtain ⟨rfl, rfl, rfl⟩ := Progress.course_ended_iff.1 hcourse
    exact h _ hs

theorem log (source : Source) (level : Level) (text : String) :
    (Job.log source level text).Settles setup :=
  desk fun s hs => (Calm.noting s [.logged ⟨source, level, text⟩]).settled hs

theorem setUser (user : User) : (Job.desk (Desk.setUser user)).Settles setup :=
  desk fun s hs => (Calm.after_setUser s user).settled hs

theorem read (f : State → α) : Job.Settles setup (Flow.read f) where
  settled hs hcourse _ := by
    obtain ⟨rfl, rfl, rfl⟩ := Progress.course_ended_iff.1 hcourse
    exact hs

theorem ofExcept (e : Except Fault α) : Job.Settles setup (Flow.ofExcept e) where
  settled hs hcourse _ := by
    cases e with
    | ok a => exact (Progress.course_ended_iff.1 hcourse).2.1 ▸ hs
    | error f => exact (Progress.course_ended_iff.1 hcourse).2.1 ▸ hs

theorem pure (a : α) : Job.Settles setup (Pure.pure a) := ofExcept (.ok a)

theorem stop (f : Fault) : Job.Settles setup (Flow.stop f : Job α) := ofExcept (.error f)

theorem bind {next : α → Job β} (h : work.Settles setup) (hnext : ∀ a, (next a).Settles setup) :
    (work >>= next).Settles setup where
  settled hs hcourse hxs := by
    rcases Flow.course_bind_iff.1 hcourse with ⟨f, hwork, rfl⟩ | ⟨ys, zs, u, a, rfl, hwork, hrest⟩
    · exact h.settled hs hwork hxs
    · obtain ⟨hys, hzs⟩ := List.forall_mem_append.1 hxs
      exact (hnext a).settled (h.settled hs hwork hys) hrest hzs

theorem outcome (h : work.Settles setup) : Job.Settles setup (Flow.outcome work) where
  settled hs hcourse hxs := by
    obtain ⟨ys, zs, u, r, rfl, hwork, hend⟩ := Progress.course_andThen_iff.1 hcourse
    obtain ⟨rfl, rfl, rfl⟩ := Progress.course_ended_iff.1 hend
    exact h.settled hs hwork fun x hx => hxs x (by simpa using hx)

theorem followedBy {last : Job Unit} (h : work.Settles setup) (hlast : last.Settles setup) :
    Job.Settles setup (work.followedBy last) :=
  bind h.outcome fun r => bind hlast fun _ => ofExcept r

end Job.Settles

section

variable (hw : setup.WellFormed) (hleads : setup.leadsToLogin)
  (hmax : 4 ≤ setup.settings.maxRedirects)

include hw

/-- Whatever came of telling the service, the session ends here, and the walk to the login route is
    that of a stranger. -/
theorem Visit.leave_settles : (leave setup).Settles setup where
  settled {s t xs r} hs hcourse _ := by
    have hmemory := hs.tidy.memory
    obtain ⟨hmemory', hnone, -⟩ := State.vacant_after_signOut hmemory
    have hnavigation : (s.after Desk.signOut).navigation = s.navigation := by
      rw [State.after_signOut_memory hmemory]
      rfl
    have htidy : (s.after Desk.signOut).Tidy setup [] :=
      ⟨hmemory', hnavigation ▸ hs.tidy.pending, hnavigation ▸ hs.tidy.current⟩
    have hstrange : (s.after Desk.signOut).Strange := ⟨hmemory', hnone⟩
    obtain ⟨u, r', hstroll, hgo, hmoves, -⟩ :=
      Walk.go_stranger setup setup.lookup hstrange setup.settings.loginPath
    rw [leave, Job.desk_bind, State.result_signOut_memory hmemory] at hcourse
    dsimp only at hcourse
    have ht : t = u := by
      rw [Setup.walk, Flow.bind_apply, hgo, Progress.andThen_ended] at hcourse
      cases r' with
      | ok a => exact (Progress.course_ended_iff.1 hcourse).2.1
      | error f => exact (Progress.course_ended_iff.1 hcourse).2.1
    obtain ⟨navigation, es, -, hu⟩ := hstroll
    have humemory : u.store.InMemory := by rw [hu]; exact hmemory'
    obtain ⟨htidy', hguarded⟩ := hmoves.guarded hw htidy humemory
    exact ht ▸ ⟨htidy', hguarded (by simp)⟩

include hleads

namespace Setup

theorem call_settles (c : Call) (notify : Bool) : (setup.call c notify).Settles setup where
  settled {s t xs r} hs hcourse hxs := by
    have hsettled : ∀ rejected, Lookups setup s xs t rejected → t.Settled setup := by
      intro rejected hlookups
      cases rejected with
      | false => exact (hlookups.calm_of_alone hxs).settled hs
      | true =>
        obtain ⟨htidy, hguarded⟩ := hlookups.guarded_of_alone hw hleads hxs hs.tidy
        exact ⟨htidy, hguarded (by simp)⟩
    rcases call_course hs.tidy.memory hcourse fun x hx => (hxs x hx).memory with
      ⟨f, -, -, hlookups⟩ | ⟨a, -, hlookups⟩
    · exact hsettled _ hlookups
    · exact hsettled _ hlookups

theorem send_settles (c : Call) : (setup.send c).Settles setup :=
  .bind (call_settles hw hleads c true) fun _ => .ofExcept _

end Setup

theorem Endpoint.send_settles (e : Endpoint) (args : List Json) :
    (e.send setup args).Settles setup := by
  unfold send
  split
  · exact Setup.send_settles hw hleads _
  · exact .stop _

namespace Visit

theorem signOut_settles : (signOut setup).Settles setup := by
  refine .followedBy (.bind (.outcome (Endpoint.send_settles hw hleads ..)) fun r => ?_)
    (leave_settles hw)
  split
  · exact .pure _
  · split
    · exact .log ..
    · exact .log ..
  · exact .stop _

end Visit

include hmax

theorem Setup.walk_settles (path : String) : (setup.walk path).Settles setup where
  settled hs hcourse hxs := walk_alone hw hleads hmax hs hcourse hxs

theorem Visit.signIn_settles (username password : Json) :
    (signIn setup username password).Settles setup := by
  refine .bind (Endpoint.send_settles hw hleads ..) fun data => ?_
  split
  · exact .stop _
  rename_i token htoken
  have hpresent : token.isPresent := isPresent_of_grantedToken? htoken
  refine .bind (.ofExcept _) fun user => .bind (.desk fun s hs => ?_) fun _ => ?_
  · exact State.settled_after_signIn hs _ hpresent
  · have hwalk := Setup.walk_settles hw hleads hmax setup.settings.landingPath
    split
    · exact .bind (.setUser _) fun _ => .bind hwalk fun _ => .read _
    · exact .bind hwalk fun _ => .read _

/-- Every operation of a visit leaves the house settled if it is on its own. -/
theorem Operation.run_settles {op : Operation} (hop : op.isVisit) :
    Job.Settles setup (op.run setup) := by
  cases op with
  | call c notify => exact .bind (Setup.call_settles hw hleads c notify) fun _ => .pure _
  | send c => exact .bind (Setup.send_settles hw hleads c) fun _ => .pure _
  | endpoint e args => exact .bind (Endpoint.send_settles hw hleads e args) fun _ => .ofExcept _
  | walk path => exact .bind (Setup.walk_settles hw hleads hmax path) fun _ => .pure _
  | signIn username password =>
    exact .bind (Visit.signIn_settles hw hleads hmax ..) fun _ => .pure _
  | signOut => exact .bind (Visit.signOut_settles hw hleads) fun _ => .pure _
  | _ => cases hop

end

end Gatehouse
