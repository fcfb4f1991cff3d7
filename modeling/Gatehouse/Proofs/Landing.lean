import Gatehouse.Proofs.Admission
import Gatehouse.Proofs.Secrecy
import Gatehouse.Proofs.Whereabouts

/-! Where a sign in lands. A session that has begun is put before the gate by the walk to the
    landing route: the route at which the visitor is in the end has been allowed by an evaluation
    that began after the session, and that asked with its credential. A visitor who is at the
    landing route already goes nowhere, and nobody asks the gate for him; so this holds only of
    those who come from elsewhere. -/

namespace Gatehouse

variable {setup : Setup} {s t : State} {xs : List (Exchange State)} {route : Route} {path : String}

/-- Lookups that nobody disturbed, and that left the stored token alone, were all made with it. -/
theorem Kept.asked (h : Kept s xs t) (hxs : ∀ x ∈ xs, x.Alone) :
    ∀ x ∈ xs, x.asked.stored = s.stored := by
  induction xs generalizing s with
  | nil => simp
  | cons x xs ih =>
    obtain ⟨hasked, hrest⟩ := h
    obtain ⟨hx, hxs⟩ := List.forall_mem_cons.1 hxs
    refine List.forall_mem_cons.2 ⟨hasked, fun y hy => ?_⟩
    rw [ih hrest hxs y hy, hx.same, hasked]

/-- When the gate has judged a visit, it has made an evaluation, and noted the verdict. -/
theorem Setup.evaluation_of_judge {v : Verdict} (h : (setup.judge route s).Course xs t (.ok v)) :
    v.route = route ∧ ∃ done, Evaluation setup v s xs done ∧ t = done.noting [.judged v] := by
  have rule : Rule setup (fun _ => True) .current fun _ _ => True := .unruled
  have hlead : setup.toLogin.Respects (fun _ => True) (fun _ _ => True) :=
    fun turn s hR => Setup.toLogin_holds rule hR
  have hholds : (Gate.verdictOn setup setup.lookup route).Holds (fun _ => True) (fun _ _ => True)
      (.first s) s _ :=
    Gate.verdictOn_holds rule hlead trivial
  rcases Flow.course_bind_iff.1 h with ⟨f, -, hf⟩ | ⟨ys, zs, done, w, rfl, hverdict, hend⟩
  · cases hf
  · obtain ⟨rfl, rfl, hw⟩ := Progress.course_ended_iff.1 hend
    cases hw
    obtain ⟨-, hok⟩ := hholds.of_course hverdict fun _ _ => trivial
    obtain ⟨rfl, -⟩ := hok v rfl
    rw [List.append_nil]
    exact ⟨rfl, done, ⟨setup.toLogin, .inl rfl, hverdict⟩, rfl⟩

theorem State.current_arriving (h : (s.arriving route).navigation.Sound setup.table)
    (hroute : setup.table.get? route.path = some route) :
    (s.arriving route).navigation.current = some route := by
  unfold State.arriving at h ⊢
  split
  · rename_i hhere
    rw [if_pos hhere] at h
    obtain ⟨there, hcurrent, hthere⟩ := h.somewhere route.path (h.currentPath.symm.trans hhere)
    rw [hcurrent, ← hthere, hroute]
  · rfl

/-- Work that has led from one state to another has put the visitor before the gate on the way. An
    evaluation that began after the first state let him in, and all that it found out it found out
    with the credential of that state. -/
structure Screened (setup : Setup) (s : State) (xs : List (Exchange State)) (v : Verdict)
    (begun : State) (lookups : List (Exchange State)) (done t : State) : Prop where
  evaluation : Evaluation setup v begun lookups done
  allowed : v.decision = .allow
  admissible : Admissible setup v lookups
  after : Since s begun
  before : Since (done.noting [.judged v]) t
  own : ∀ x ∈ lookups, x ∈ xs
  token : v.token = s.stored
  asked : ∀ x ∈ lookups, x.asked.stored = s.stored

/-- A walk that is begun and not rejected brings the visitor to where the gate has let him in. -/
theorem Setup.walk_screened {dest : Option Route} (hs : s.store.InMemory)
    (h : (setup.walk path s).Course xs t (.ok dest)) (hxs : ∀ x ∈ xs, x.Accepted)
    (hroute : setup.table.resolve path = .ok route) (hnew : ¬s.navigation.Ignores route)
    (ht : t.navigation.Sound setup.table) :
    ∃ v begun lookups done, Screened setup s xs v begun lookups done t ∧
      t.navigation.current = some v.route := by
  rcases Walk.go_course h hroute with
    ⟨hignored, -⟩ | ⟨-, u, _, hfollow, ⟨f, -, hf, -⟩ | ⟨dest, rfl, -, rfl⟩⟩
  · exact absurd hignored hnew
  · cases hf
  have hmemory : (s.departing route.path).store.InMemory := hs
  have hget : setup.table.get? dest.path = some dest :=
    Walk.get?_of_follow (Table.get?_of_resolve hroute) hfollow
  -- The walk stops where it has been let in, and that was the last thing that it has found out.
  obtain ⟨ys, zs, dest', begun, k, decided, rfl, hredirected, -, honward, hstops⟩ :=
    Walk.follow_course hmemory hfollow fun x hx => (hxs x hx).alone.memory
  cases hstops
  obtain ⟨hys, hzs⟩ := List.forall_mem_append.1 hxs
  have hbegun : Since s begun := (Since.departing s route.path).trans (hredirected.since hys)
  have hbegun' : begun.store.InMemory := hbegun.untouched.store ▸ hs
  obtain ⟨m, hlook⟩ :=
    Walk.look_of_course hbegun' honward fun x hx => (hzs x hx).alone.memory
  cases hlook with
  | @allowed _ _ v _ hjudge hallow =>
    obtain ⟨rfl, done, hev, rfl⟩ := Setup.evaluation_of_judge hjudge
    obtain ⟨htoken, hkept, hadmits⟩ := hev.admits hallow
    have hasked := hkept.asked fun x hx => (hzs x hx).alone
    refine ⟨v, begun, zs, done, ⟨hev, hallow, hadmits, hbegun, ?_, ?_, ?_, ?_⟩, ?_⟩
    · exact (Since.settling _ _).trans (.arriving _ _)
    · exact fun x hx => List.mem_append_right ys hx
    · rw [htoken, hbegun.untouched.stored]
    · exact fun x hx => (hasked x hx).trans hbegun.untouched.stored
    · exact State.current_arriving ht hget

namespace Visit.Admitted

variable {username password token : Json} {x : Exchange State} {admitted : State}
  {ys : List (Exchange State)} {dest : Option Route}
  (h : Admitted setup username password s x token admitted ys t (.ok dest))

include h

theorem navigation (hx : x.Alone) : admitted.navigation = s.navigation := by
  obtain ⟨user, -, rfl⟩ := h.grant
  rw [State.navigation_admitting, hx.same, h.asked, State.noting_navigation]

theorem accepted (hx : x.Alone) (hys : ∀ y ∈ ys, y.Alone) (hopen : t.session.isAuthenticated) :
    ∀ y ∈ ys, y.Accepted := by
  rcases h.lasts hx.memory hys with ⟨hno, -⟩ | ⟨-, -, hclosed⟩
  · exact fun y hy => ⟨hys y hy, hno y hy⟩
  · simp [hclosed, Session.isAuthenticated] at hopen

theorem landing : ∃ landing, setup.table.resolve setup.settings.landingPath = .ok landing := by
  cases hlanding : setup.table.resolve setup.settings.landingPath with
  | ok landing => exact ⟨landing, rfl⟩
  | error f =>
    have hwalk := h.walk
    rw [Setup.walk, Walk.go_unknown hlanding] at hwalk
    obtain ⟨-, -, hfault⟩ := Progress.course_ended_iff.1 hwalk
    cases hfault

/-- A visitor who is at the landing route already goes nowhere. -/
theorem ignored (hlanding : setup.table.resolve setup.settings.landingPath = .ok route)
    (hhere : admitted.navigation.currentPath = some route.path) :
    ys = [] ∧ t = admitted.ignoring route := by
  have hwalk := h.walk
  rw [Setup.walk, Walk.go_ignored hlanding (.inl hhere)] at hwalk
  obtain ⟨hnone, ht, -⟩ := Progress.course_ended_iff.1 hwalk
  exact ⟨hnone, ht⟩

/-- Anybody else is put before the gate, if nothing keeps the walk from being begun. -/
theorem screened (hx : x.Alone) (hys : ∀ y ∈ ys, y.Accepted)
    (hlanding : setup.table.resolve setup.settings.landingPath = .ok route)
    (hnew : admitted.navigation.currentPath ≠ some route.path)
    (hidle : s.navigation.pending = []) (ht : t.navigation.Sound setup.table) :
    ∃ v begun lookups judged, Screened setup admitted ys v begun lookups judged t ∧
      t.navigation.current = some v.route := by
  obtain ⟨hmemory, -⟩ := h.begins hx.memory
  have hbegun : ¬admitted.navigation.Ignores route := by
    rintro (hhere | hmem)
    · exact hnew hhere
    · rw [h.navigation hx, hidle] at hmem
      cases hmem
  exact Setup.walk_screened hmemory h.walk hys hlanding hbegun ht

end Visit.Admitted

namespace Pool

/-- An operation that does not wait has no walks under way. -/
theorem Watched.ownWalks_eq_nil {p : Pool} {walks : List (Nat × String)} {i : Nat}
    (h : Watched setup.table p walks) (hidle : p.request? i = none) : ownWalks i walks = [] := by
  rcases hstage : p.stages[i]? with _ | ⟨result⟩ | ⟨request, resume⟩
  · exact h.unstarted i hstage
  · exact h.carries i _ hstage
  · simp [request?, hstage] at hidle

theorem Watched.pending_of_idle {p : Pool} {walks : List (Nat × String)}
    (h : Watched setup.table p walks) (hidle : ∀ i, p.request? i = none) :
    p.state.navigation.pending = [] := by
  rw [h.accounted.paths, List.map_eq_nil_iff, List.eq_nil_iff_forall_not_mem]
  rintro ⟨i, path⟩ hwalk
  have hown := mem_ownWalks.2 hwalk
  simp [h.ownWalks_eq_nil (hidle i)] at hown

/-- Signing in puts the visitor before the gate, unless he is at the landing route already. Where
    operations come one after another, and a sign in comes to its end with the session open, the
    visitor is at a route that an evaluation has allowed which began after the session, and which
    asked with its credential. If he was at the landing route when the session began, the walk there
    has been ignored, and he is there still. -/
theorem signIn_screened (setup : Setup) (slots : Record Json) (slot : String) (rows : List LogRow)
    (connections : Connections) (done : List Move) (move : Move)
    (hseq : Sequential setup (opened (.memory slots) slot rows connections) (done ++ [move]))
    (i : Nat) (username password : Json) (value : Value)
    (hop : (Move.operations (done ++ [move]))[i]? = some (.signIn username password))
    (hbefore : ((opened (.memory slots) slot rows connections).run setup done).result? i = none)
    (hr : ((opened (.memory slots) slot rows connections).run setup (done ++ [move])).result? i =
      some (.ok value))
    (hopen : ((opened (.memory slots) slot rows connections).run setup
      (done ++ [move])).state.session.isAuthenticated) :
    let house := opened (.memory slots) slot rows connections
    let t := (house.run setup (done ++ [move])).state
    ∃ before x token admitted ys dest landing,
      before ++ [.start (.signIn username password)] <+: done ++ [move] ∧
      (∀ y ∈ x :: ys, house.Exchanged setup (done ++ [move]) i y) ∧
      Visit.Admitted setup username password (house.run setup before).state x token admitted ys t
        (.ok dest) ∧
      setup.table.resolve setup.settings.landingPath = .ok landing ∧
      (admitted.navigation.currentPath = some landing.path ∧ ys = [] ∧
          t = admitted.ignoring landing ∨
        admitted.navigation.currentPath ≠ some landing.path ∧
          ∃ v begun lookups judged, Screened setup admitted ys v begun lookups judged t ∧
            t.navigation.current = some v.route) := by
  intro house t
  have hs : (State.opening (.memory slots) slot rows connections).store.InMemory :=
    State.inMemory_opening ..
  have hwatched : ∀ moves,
      Watched setup.table (house.run setup moves) (house.underWay setup moves) :=
    watched_of_run (State.navigation_opening ..)
  obtain ⟨before, xs, hprefix, hidle, hcourse, hxs, halone⟩ :=
    hseq.course_of_finish hs hop hbefore hr
  obtain ⟨r, hsignIn, hr⟩ := Flow.course_bind_pure_iff.1 hcourse
  rcases Visit.signIn_course (inMemory_of_run hs before) hsignIn halone with
    ⟨-, f, rfl⟩ | ⟨x, token, admitted, ys, pushed, rfl, hadmitted, rfl⟩
  · cases hr
  obtain ⟨hx, hys⟩ := List.forall_mem_cons.1 halone
  cases pushed with
  | error f => cases hr
  | ok dest =>
    obtain ⟨landing, hlanding⟩ := hadmitted.landing
    refine ⟨before, x, token, admitted, ys, dest, landing, hprefix, hxs, hadmitted, hlanding, ?_⟩
    by_cases hhere : admitted.navigation.currentPath = some landing.path
    · exact .inl ⟨hhere, hadmitted.ignored hlanding hhere⟩
    · have haccepted := hadmitted.accepted hx hys hopen
      have hpending := (hwatched before).pending_of_idle hidle
      exact .inr ⟨hhere, hadmitted.screened hx haccepted hlanding hhere hpending
        (hwatched (done ++ [move])).sound⟩

theorem signIn_screened_anew :
    Sequential .default (openedWith "a") (grantedAnew ++ [pinIsSet]) ∧
      ((openedWith "a").run .default grantedAnew).result? 0 = none ∧
      (∃ value, ((openedWith "a").run .default (grantedAnew ++ [pinIsSet])).result? 0 =
        some (.ok value)) ∧
      ((openedWith "a").run .default (grantedAnew ++ [pinIsSet])).state.session.isAuthenticated ∧
      let t := ((openedWith "a").run .default (grantedAnew ++ [pinIsSet])).state
      ∃ admitted ys landing,
        Setup.default.table.resolve Setup.default.settings.landingPath = .ok landing ∧
        (admitted.navigation.currentPath = some landing.path ∧ ys = [] ∧
            t = admitted.ignoring landing ∨
          admitted.navigation.currentPath ≠ some landing.path ∧
            ∃ v begun lookups judged, Screened .default admitted ys v begun lookups judged t ∧
              t.navigation.current = some v.route) := by
  have hopen : ((openedWith "a").run .default
      (grantedAnew ++ [pinIsSet])).state.session.isAuthenticated := by decide +kernel
  obtain ⟨hseq, hbefore, value, hr⟩ := grantedAnew_over
  refine ⟨hseq, hbefore, ⟨value, hr⟩, hopen, ?_⟩
  unfold openedWith at hseq hbefore hr hopen ⊢
  obtain ⟨_, _, _, admitted, ys, _, landing, -, -, -, hlanding, hcases⟩ :=
    signIn_screened .default _ _ _ _ grantedAnew pinIsSet hseq 0 (.str "alice") (.str "secret")
      value rfl hbefore hr hopen
  exact ⟨admitted, ys, landing, hlanding, hcases⟩

/-- A visitor at the vault signs in once more. The walk to the vault is ignored. -/
def signedInAtVault : List Move :=
  [.start (.walk "/vault"), pinIsSet, .start (.signIn (.str "alice") (.str "secret"))]

/-- The login is granted. -/
def grantsAnother : Move := .reply 1 (.success "\x7b\"token\":\"b\"\x7d")

/-- Not every visitor who has signed in has been put before the gate since. -/
theorem signIn_not_always_screened : ¬∀ (setup : Setup) (slots : Record Json) (slot : String)
    (rows : List LogRow) (connections : Connections) (before done : List Move) (move : Move)
    (username password : Json) (value : Value),
    let house := opened (.memory slots) slot rows connections
    let i := (Move.operations before).length
    let begun := (house.run setup before).state
    let t := (house.run setup (done ++ [move])).state
    Sequential setup house (done ++ [move]) →
      before ++ [.start (.signIn username password)] <+: done ++ [move] →
      (house.run setup done).result? i = none →
      (house.run setup (done ++ [move])).result? i = some (.ok value) →
      t.session.isAuthenticated →
      ∃ route, (route, .allow) ∈ t.journal.decisions.drop begun.journal.decisions.length ∧
        t.navigation.current = some route := by
  intro hall
  have horder : comesInOrder .default (openedWith "a") (signedInAtVault ++ [grantsAnother]) := by
    decide +kernel
  have hwaits : (((openedWith "a").run .default signedInAtVault).result? 1).isNone := by
    decide +kernel
  have hover : (((openedWith "a").run .default (signedInAtVault ++ [grantsAnother])).result? 1).any
      Except.isOk := by decide +kernel
  have hopen : ((openedWith "a").run .default
      (signedInAtVault ++ [grantsAnother])).state.session.isAuthenticated := by decide +kernel
  -- No decision has been added since the sign in began.
  have hnone : ((openedWith "a").run .default
      (signedInAtVault ++ [grantsAnother])).state.journal.decisions.length =
        ((openedWith "a").run .default
          [.start (.walk "/vault"), pinIsSet]).state.journal.decisions.length := by decide +kernel
  have hseq := sequential_of_comesInOrder horder
  have hbefore := Option.isNone_iff_eq_none.1 hwaits
  obtain ⟨r, hr, hok⟩ := (Option.any_eq_true ..).1 hover
  cases r with
  | error f => cases hok
  | ok value =>
    unfold openedWith at hseq hbefore hr hopen hnone
    obtain ⟨route, hmem, -⟩ := hall .default _ _ _ _ [.start (.walk "/vault"), pinIsSet]
      signedInAtVault grantsAnother (.str "alice") (.str "secret") value hseq
      (List.prefix_append _ [grantsAnother]) hbefore hr hopen
    rw [← hnone, List.drop_length] at hmem
    cases hmem

end Pool

end Gatehouse
