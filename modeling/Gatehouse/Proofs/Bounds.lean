import Gatehouse.Proofs.Redirects
import Gatehouse.Proofs.Waiting

/-! The bound on navigation. However the routes are linked, whatever the service replies and whoever
    else is at work, a walk begins no more evaluations than it may follow redirects, and one; and
    each of them asks the service for two things at the most. So the walk is over when so many
    replies have come in. The walk to the login route that a rejection leads on to asks for nothing:
    its visitor is a stranger. It is over at once, and within the same bound. -/

namespace Gatehouse

variable {setup : Setup} {s t u : State} {xs : List (Exchange State)} {route dest : Route}
  {decided : Except Fault (Option String)} {k m n : Nat}

/-! ### Counting requests -/

namespace Progress

variable {α β : Type}

/-- The number of requests that are waited for. -/
def outstanding {σ : Type} : Progress σ α → Nat
  | ended .. => 0
  | waits .. => 1

/-- Work that makes so many requests at most, as long as it is done over a memory, which is one
    still when the work has ended. -/
inductive Sparing : Nat → Progress State α → Prop
  | ended {n s a} : s.store.InMemory → Sparing n (.ended s a)
  | waits {n s q resume} : (∀ r t, t.store.InMemory → Sparing n (resume r t)) →
      Sparing (n + 1) (.waits s q resume)

namespace Sparing

variable {p q : Progress State α}

theorem mono (h : p.Sparing m) (hmn : m ≤ n) : p.Sparing n := by
  induction h generalizing n with
  | ended hs => exact .ended hs
  | waits _ ih =>
    obtain ⟨n, rfl⟩ := Nat.exists_eq_succ_of_ne_zero (Nat.ne_zero_of_lt hmn)
    exact .waits fun r t ht => ih r t ht (Nat.le_of_succ_le_succ hmn)

theorem andThen {next : α → State → Progress State β} (h : p.Sparing m)
    (hnext : ∀ a t, t.store.InMemory → (next a t).Sparing n) :
    (p.andThen next).Sparing (m + n) := by
  induction h with
  | ended hs => exact (hnext _ _ hs).mono (Nat.le_add_left ..)
  | waits _ ih =>
    rw [Nat.succ_add]
    exact .waits ih

theorem outstanding_le (h : p.Sparing n) : p.outstanding ≤ n := by
  cases h with
  | ended => exact Nat.zero_le _
  | waits => exact Nat.le_add_left ..

/-- Each exchange takes one request away from those that work may still make. -/
theorem leads (h : p.Sparing n) (hq : p.Leads xs q) (hxs : ∀ x ∈ xs, x.resumed.store.InMemory) :
    ∃ left, xs.length + left = n ∧ q.Sparing left := by
  induction hq with
  | here => exact ⟨n, Nat.zero_add n, h⟩
  | on r s' _ ih =>
    obtain ⟨hxs, hx⟩ := List.forall_mem_append.1 hxs
    obtain ⟨left, hleft, hwaits⟩ := ih hxs
    cases hwaits with
    | @waits left _ _ _ hresume =>
      refine ⟨left, ?_, hresume r s' (hx _ (List.mem_singleton_self _))⟩
      rw [List.length_append, List.length_singleton]
      omega

/-- Sparing work makes no more requests on the way than it may. -/
theorem requests_le (h : p.Sparing n) (hq : p.Leads xs q)
    (hxs : ∀ x ∈ xs, x.resumed.store.InMemory) : xs.length + q.outstanding ≤ n := by
  obtain ⟨left, hleft, hspares⟩ := h.leads hq hxs
  have hout := hspares.outstanding_le
  omega

end Sparing

end Progress

/-- Work that makes so many requests at most whenever it is done over a memory. -/
structure Job.Spares {α : Type} (n : Nat) (work : Job α) : Prop where
  sparing : ∀ s : State, s.store.InMemory → (work s).Sparing n

namespace Job.Spares

variable {α β : Type} {work : Job α}

theorem mono (h : work.Spares m) (hmn : m ≤ n) : work.Spares n :=
  ⟨fun s hs => (h.sparing s hs).mono hmn⟩

theorem bind {next : α → Job β} (h : work.Spares m) (hnext : ∀ a, (next a).Spares n) :
    (work >>= next).Spares (m + n) := by
  refine ⟨fun s hs => (h.sparing s hs).andThen ?_⟩
  rintro (f | a) t ht
  · exact .ended ht
  · exact (hnext a).sparing t ht

/-- Work makes no request if none of its parts does. -/
theorem modular : Modular fun _ work => Job.Spares 0 work where
  pure _ := ⟨fun _ hs => .ended hs⟩
  stop _ := ⟨fun _ hs => .ended hs⟩
  read _ := ⟨fun _ hs => .ended hs⟩
  bind h hnext := h.bind hnext
  outcome h := ⟨fun s hs => (h.sparing s hs).andThen (n := 0) fun _ _ ht => .ended ht⟩
  chore h := ⟨fun _ hs => .ended (h.inMemory hs)⟩
  connect _ := ⟨fun _ hs => .ended hs⟩

/-- A call makes one request, and what follows a rejection makes none. -/
theorem call (c : Call) (notify : Bool) : (setup.call c notify).Spares 1 := by
  refine ⟨fun s hs => ?_⟩
  rcases Service.call_memory setup hs c notify with ⟨f, -, hcall⟩ | ⟨q, -, hcall⟩
  · rw [hcall]
    exact .ended hs
  · rw [hcall]
    refine .waits fun r t ht => ?_
    obtain ⟨u, b, hfinish, hconcluded⟩ := Service.finish_memory setup ht
      { c with method := Text.upper c.method } notify r
    rw [hfinish]
    exact .ended (hconcluded.inMemory ht)

/-- An evaluation makes two requests at the most, one for each of the two lookups. -/
theorem judge (route : Route) : (setup.judge route).Spares 2 := by
  have hparts := Job.Spares.modular
  have hcall (c : Call) : (setup.lookup c).Spares 1 := .call c false
  have hrole (hasToken : Bool) : (Gate.roleStep setup setup.lookup route hasToken).Spares 1 := by
    unfold Gate.roleStep
    split
    · exact ((hcall _).bind (hparts.weighRole route _)).bind fun _ => hparts.pure _
    · exact (hparts.pure _).mono (Nat.zero_le _)
  have hpin (hasToken : Bool) : (Gate.pinStep setup setup.lookup route hasToken).Spares 1 := by
    unfold Gate.pinStep
    split
    · exact ((hcall _).bind (hparts.weighPin route)).bind fun _ => hparts.pure _
    · exact (hparts.pure _).mono (Nat.zero_le _)
  have hverdict : (Gate.verdictOn setup setup.lookup route).Spares 2 := by
    refine .bind (m := 0) (n := 2) (hparts.chore .token) fun token => ?_
    split
    · refine .mono ?_ (Nat.zero_le _)
      dsimp only
      split
      · exact hparts.bind (hparts.log ..) fun _ => hparts.pure _
      · exact hparts.pure _
    · refine (hrole _).bind (n := 1) fun p => ?_
      dsimp only
      split
      · exact (hparts.pure _).mono (Nat.zero_le _)
      · exact (hpin _).bind fun _ => hparts.pure _
  exact hverdict.bind fun v => hparts.bind (hparts.chore (.record rfl)) fun _ => hparts.pure _

end Job.Spares

/-- A look makes two requests at the most for each evaluation that it takes. -/
theorem Look.requests_le (h : Look setup route s xs t decided m) (hs : s.store.InMemory)
    (hxs : ∀ x ∈ xs, x.resumed.store.InMemory) : xs.length ≤ 2 * m := by
  have judged {r : Except Fault Verdict} {t : State}
      (hjudge : (setup.judge route s).Course xs t r) : xs.length ≤ 2 :=
    ((Job.Spares.judge route).sparing s hs).requests_le hjudge.leads hxs
  cases h with
  | redirected => exact Nat.le_refl 0
  | allowed _ hjudge => exact judged hjudge
  | sent _ hjudge => exact judged hjudge
  | broken _ hjudge => exact judged hjudge

theorem Trail.requests_le (h : Trail setup route s xs dest u k n) (hs : s.store.InMemory)
    (hxs : ∀ x ∈ xs, x.resumed.store.InMemory) : u.store.InMemory ∧ xs.length ≤ 2 * n := by
  induction h with
  | here => exact ⟨hs, Nat.zero_le _⟩
  | on hlook _ _ ih =>
    obtain ⟨hxs, hys⟩ := List.forall_mem_append.1 hxs
    obtain ⟨hu, hrest⟩ := ih (Walk.inMemory_of_onward hs hlook.course hxs) hys
    have hfirst := hlook.requests_le hs hxs
    rw [List.length_append]
    exact ⟨hu, by omega⟩

/-- A walk makes two requests at the most for each evaluation that it begins. -/
theorem Followed.requests_le {p : Progress State (Except Fault Route)} {most : Nat}
    (h : Followed setup most route s xs p n) (hs : s.store.InMemory)
    (hxs : ∀ x ∈ xs, x.resumed.store.InMemory) : xs.length + p.outstanding ≤ 2 * n := by
  cases h with
  | @judging ys dest u k n zs t request resume rest htrail _ _ hjudge =>
    obtain ⟨hys, hzs⟩ := List.forall_mem_append.1 hxs
    obtain ⟨hu, hbefore⟩ := htrail.requests_le hs hys
    have hlast := ((Job.Spares.judge dest).sparing u hu).requests_le hjudge hzs
    rw [List.length_append]
    simp only [Progress.outstanding] at hlast ⊢
    omega
  | ended htrail _ hlook =>
    obtain ⟨hys, hzs⟩ := List.forall_mem_append.1 hxs
    obtain ⟨hu, hbefore⟩ := htrail.requests_le hs hys
    have hlast := hlook.requests_le hu hzs
    rw [List.length_append]
    simp only [Progress.outstanding]
    omega

/-! ### Walks from their beginning -/

namespace Walk

/-- What a walk does when it has followed the redirects: it settles, and enters the route to which
    they led. -/
def arrive (route : Route) (r : Except Fault Route) (u : State) :
    Progress State (Except Fault (Option Route)) :=
  match r with
  | .error f => .ended (u.settling route.path) (.error f)
  | .ok dest => .ended ((u.settling route.path).arriving dest) (.ok (some dest))

theorem outstanding_arrive (route : Route) (p : Progress State (Except Fault Route)) :
    (p.andThen (arrive route)).outstanding = p.outstanding := by
  cases p with
  | ended u r => cases r <;> rfl
  | waits => rfl

end Walk

/-- How far a walk to a path has come, and how many evaluations it has begun: there is no such path,
    or it is not begun, or it follows the redirects from its route. -/
inductive Pursued (setup : Setup) (path : String) (s : State) :
    List (Exchange State) → Progress State (Except Fault (Option Route)) → Nat → Prop
  | unknown {f} : setup.table.resolve path = .error f →
      Pursued setup path s [] (.ended s (.error (.navigation f))) 0
  | ignored {route : Route} : setup.table.resolve path = .ok route → s.navigation.Ignores route →
      Pursued setup path s [] (.ended (s.ignoring route) (.ok s.navigation.current)) 0
  | begun {route : Route} {xs p n} : setup.table.resolve path = .ok route →
      ¬s.navigation.Ignores route →
      Followed setup setup.settings.maxRedirects route (s.departing route.path) xs p n →
      Pursued setup path s xs (p.andThen (Walk.arrive route)) n

/-- A walk to a path has come so far, and it has kept to its bound. -/
structure Bounded (setup : Setup) (path : String) (s : State) (xs : List (Exchange State))
    (p : Progress State (Except Fault (Option Route))) (n : Nat) : Prop where
  pursued : Pursued setup path s xs p n
  evaluations : n ≤ setup.settings.maxRedirects + 1
  requests : xs.length + p.outstanding ≤ 2 * n

/-- Every walk keeps to its bound, as far as it has come. -/
theorem Setup.walk_bounded {path : String} {p : Progress State (Except Fault (Option Route))}
    (hs : s.store.InMemory) (h : (setup.walk path s).Leads xs p)
    (hxs : ∀ x ∈ xs, x.resumed.store.InMemory) : ∃ n, Bounded setup path s xs p n := by
  cases hroute : setup.table.resolve path with
  | error f =>
    rw [walk, Walk.go_unknown hroute] at h
    obtain ⟨rfl, rfl⟩ := Progress.leads_ended h
    exact ⟨0, .unknown hroute, Nat.zero_le _, Nat.le_refl 0⟩
  | ok route =>
    by_cases hignored : s.navigation.Ignores route
    · rw [walk, Walk.go_ignored hroute hignored] at h
      obtain ⟨rfl, rfl⟩ := Progress.leads_ended h
      exact ⟨0, .ignored hroute hignored, Nat.zero_le _, Nat.le_refl 0⟩
    · rw [walk, Walk.go_begun hroute hignored] at h
      obtain ⟨p', hfollow, rfl⟩ : ∃ p', (Walk.follow setup setup.lookup
          setup.settings.maxRedirects route (s.departing route.path)).Leads xs p' ∧
          p = p'.andThen (Walk.arrive route) := by
        rcases Progress.leads_andThen h with
          ⟨t, request, resume, hfollow, rfl⟩ | ⟨ys, zs, u, r, rfl, hfollow, hend⟩
        · exact ⟨_, hfollow, rfl⟩
        · cases r with
          | error f =>
            obtain ⟨rfl, rfl⟩ := Progress.leads_ended hend
            exact ⟨_, by simpa using hfollow.leads, rfl⟩
          | ok dest =>
            obtain ⟨rfl, rfl⟩ := Progress.leads_ended hend
            exact ⟨_, by simpa using hfollow.leads, rfl⟩
      obtain ⟨n, hfollowed⟩ := Walk.follow_leads (s := s.departing route.path) hs hfollow hxs
      refine ⟨n, .begun hroute hignored hfollowed, hfollowed.evaluations_le, ?_⟩
      rw [Walk.outstanding_arrive]
      exact hfollowed.requests_le (s := s.departing route.path) hs hxs

/-! ### Walks after a rejection -/

section

variable (setup : Setup) (ask ask' : Call → Job Answer)

/-- An evaluation for a stranger is the same whatever its lookups would be, since it makes none. -/
theorem Gate.judge_strange (hs : s.Strange) (route : Route) :
    judge setup ask route s = judge setup ask' route s := by
  have hverdict : verdictOn setup ask route s = verdictOn setup ask' route s := by
    simp only [verdictOn]
    rw [Job.token_bind hs.memory, Job.token_bind hs.memory, hs.stored]
    cases rule? setup.settings route (none : Option Json).isSome with
    | some decision => rfl
    | none => simp [roleStep, pinStep]
  simp only [judge, Flow.bind_apply, hverdict]

namespace Walk

theorem onward_strange (hs : s.Strange) (route : Route) :
    onward setup ask route s = onward setup ask' route s := by
  unfold onward
  cases route.redirect? with
  | some target => rfl
  | none => simp only [Flow.bind_apply, Gate.judge_strange setup ask ask' hs route]

theorem follow_strange (left : Nat) (hs : s.Strange) (route : Route) :
    follow setup ask left route s = follow setup ask' left route s := by
  -- A look leaves a stranger a stranger, so the next look is the same again.
  induction left generalizing s route with
  | zero =>
    rw [follow, follow, Flow.bind_apply, Flow.bind_apply, onward_strange setup ask ask' hs route]
  | succ left ih =>
    obtain ⟨t, ht, honward⟩ := onward_stranger setup ask' hs route
    rw [follow, follow, Flow.bind_apply, Flow.bind_apply, onward_strange setup ask ask' hs route,
      honward, Progress.andThen_ended, Progress.andThen_ended]
    cases setup.strangerTarget? route with
    | none => rfl
    | some target =>
      simp only [resolve]
      cases setup.table.resolve target with
      | error f => rfl
      | ok next => exact ih (ht.strange hs) next

/-- A stranger's walk is the same whatever its lookups would be. -/
theorem go_strange (hs : s.Strange) (path : String) :
    go setup ask path s = go setup ask' path s := by
  cases hroute : setup.table.resolve path with
  | error f => rw [go_unknown hroute, go_unknown hroute]
  | ok route =>
    by_cases hignored : s.navigation.Ignores route
    · rw [go_ignored hroute hignored, go_ignored hroute hignored]
    · rw [go_begun hroute hignored, go_begun hroute hignored,
        follow_strange setup ask ask' _ (s := s.departing route.path) ⟨hs.memory, hs.stored⟩]

end Walk

end

/-- The state in which a rejection has ended the session and the user has been told so. -/
def State.dismissed (s : State) (setup : Setup) : State :=
  (s.after Desk.signOut).noting [setup.noticeOf Service.sessionExpired]

theorem State.dismissed_strange (hs : s.store.InMemory) (setup : Setup) :
    (s.dismissed setup).Strange := by
  obtain ⟨hmemory, hstored, -⟩ := vacant_after_signOut hs
  exact ⟨hmemory, hstored⟩

/-- A rejection ends the session, tells the user, and leads on to the login route. -/
theorem Service.expire_memory (setup : Setup) (hs : s.store.InMemory) :
    expire setup setup.toLogin s = setup.toLogin (s.dismissed setup) := by
  rw [expire, Job.desk_bind, State.result_signOut_memory hs]
  exact Flow.bind_of_ok (setup.announce_apply sessionExpired _) _

/-- The walk to the login route after a rejection is one like any other, but it waits for nothing,
    so no other rejection comes in between. -/
theorem Setup.walkSignedOut_bounded (setup : Setup) (hs : s.Strange) (path : String) :
    setup.walkSignedOut path s = setup.walk path s ∧
      ∃ t r n, setup.walk path s = .ended t r ∧ Bounded setup path s [] (.ended t r) n := by
  refine ⟨Walk.go_strange setup _ _ hs path, ?_⟩
  obtain ⟨t, r, -, hgo, -⟩ := Walk.go_stranger setup setup.lookup hs path
  have hleads : (setup.walk path s).Leads [] (.ended t r) := hgo ▸ .here
  obtain ⟨n, hbounded⟩ := walk_bounded hs.memory hleads (by simp)
  exact ⟨t, r, n, hgo, hbounded⟩

namespace Pool

/-- Every operation that was started is led by exchanges, and these took place over a memory. -/
theorem led_of_number (setup : Setup) {moves : List Move} {i : Nat} {op : Operation}
    (hs : s.store.InMemory) (hop : (Move.operations moves)[i]? = some op) :
    ∃ begun xs p, Led setup (fresh s) moves moves i op begun xs p ∧ begun.store.InMemory ∧
      ∀ x ∈ xs, x.resumed.store.InMemory := by
  have hall : AllLed setup (fresh s) moves moves := allLed_of_run (List.prefix_refl moves)
  have hlength : i < ((fresh s).run setup moves).stages.length :=
    hall.length ▸ (List.getElem?_eq_some_iff.1 hop).1
  obtain ⟨op', before, xs, p, -, hled⟩ := hall.led i _ (List.getElem?_eq_getElem hlength)
  obtain rfl := Option.some.inj (hled.number.symm.trans hop)
  exact ⟨_, xs, p, hled, inMemory_of_run hs before, fun x hx => (hled.exchanged x hx).inMemory hs⟩

/-- Navigation ends within its bound. Wherever a walk has come to, it has left a trail: it has
    followed no more redirects than it may, begun one evaluation more than these at the most, and
    asked for no more than two things in each. This holds of every walk over a memory, in whatever
    state it begins and goes on; so it holds of each one that is an operation in a course of events.
    A redirect that is not one too many is followed, and one that is stops the walk at the route
    that asked for it, whatever its target is. The walk to the login route after a rejection is one
    like any other, and over at once. -/
theorem walks_bounded (setup : Setup) :
    (∀ s path xs p, s.store.InMemory → (∀ x ∈ xs, x.resumed.store.InMemory) →
      (setup.walk path s).Leads xs p → ∃ n, Bounded setup path s xs p n) ∧
    (∀ s moves i path, s.store.InMemory → (Move.operations moves)[i]? = some (.walk path) →
      ∃ begun xs p n, Bounded setup path begun xs p n ∧
        Led setup (fresh s) moves moves i (.walk path) begun xs (p.map (Except.map .route))) ∧
    (∀ route s xs dest u k n ys t target m, Trail setup route s xs dest u k n →
      Look setup dest u ys t (.ok (some target)) m →
      let most := setup.settings.maxRedirects
      let walk := Walk.follow setup setup.lookup most route s
      (k = most → walk.Leads (xs ++ ys)
        (.ended t (.error (.navigation (.tooManyRedirects dest.path))))) ∧
      ∀ next, k < most → setup.table.resolve target = .ok next → walk.Leads (xs ++ ys)
        (Walk.follow setup setup.lookup (most - (k + 1)) next t)) ∧
    ∀ s, s.store.InMemory →
      let told := s.dismissed setup
      let path := setup.settings.loginPath
      Service.expire setup setup.toLogin s = setup.toLogin told ∧
        setup.walkSignedOut path told = setup.walk path told ∧
        ∃ t r n, setup.walk path told = .ended t r ∧
          Bounded setup path told [] (.ended t r) n := by
  refine ⟨fun s path xs p hs hxs h => Setup.walk_bounded hs h hxs, fun s moves i path hs hop => ?_,
    fun route s xs dest u k n ys t target m htrail hlook => ⟨?_, ?_⟩, fun s hs => ?_⟩
  · obtain ⟨begun, xs, p, hled, hbegun, hxs⟩ := led_of_number setup hs hop
    have hrun : (Operation.walk path).run setup begun =
        (setup.walk path begun).map (Except.map .route) := by
      show ((setup.walk path >>= fun r => pure (Value.route r)) begun) = _
      rw [Flow.bind_apply, Progress.map]
      congr
      funext r t
      cases r <;> rfl
    have hleads := hled.leads
    rw [hrun] at hleads
    obtain ⟨p', hwalk, rfl⟩ := Progress.leads_map hleads
    obtain ⟨n, hbounded⟩ := Setup.walk_bounded hbegun hwalk hxs
    exact ⟨begun, xs, p', n, hbounded, hled⟩
  · rintro rfl
    exact htrail.leads_tooMany hlook
  · exact fun next hk hnext => htrail.leads_on hk hlook hnext
  · exact ⟨Service.expire_memory setup hs,
      Setup.walkSignedOut_bounded setup (State.dismissed_strange hs setup) _⟩

/-- The fault that stopped an operation, if one did. -/
def fault? (p : Pool) (i : Nat) : Option Fault :=
  match p.result? i with
  | some (.error f) => some f
  | _ => none

theorem result?_of_fault? {p : Pool} {i : Nat} {f : Fault} (h : p.fault? i = some f) :
    p.result? i = some (.error f) := by
  unfold fault? at h
  split at h
  · rename_i hresult
    rw [hresult, Option.some.inj h]
  · cases h

/-- Two routes, of which the first leads on to the second and the second to nowhere, where a walk
    may follow one redirect. -/
def astray : Setup :=
  { Setup.default with
    settings := { Settings.default with maxRedirects := 1 }
    table := ⟨[⟨"/first", none, .none, some "/second"⟩,
      ⟨"/second", none, .none, some "/nowhere"⟩]⟩ }

/-- A walk from the first of the two fails at its second redirect, for which there is no route, but
    for the number of redirects. -/
theorem walks_bounded_astray :
    ((openedWith "a").run astray [.start (.walk "/first")]).result? 0 =
      some (.error (.navigation (.tooManyRedirects "/second"))) ∧
    (∃ begun xs p n, Bounded astray "/first" begun xs p n ∧ n ≤ 2 ∧
      Led astray (openedWith "a") [.start (.walk "/first")] [.start (.walk "/first")] 0
        (.walk "/first") begun xs (p.map (Except.map .route))) ∧
    astray.table.resolve "/nowhere" = .error (.unknownRoute "/nowhere") := by
  refine ⟨result?_of_fault? (by decide +kernel), ?_, by decide +kernel⟩
  obtain ⟨-, hoperations, -⟩ := walks_bounded astray
  unfold openedWith opened
  obtain ⟨begun, xs, p, n, hbounded, hled⟩ :=
    hoperations _ [.start (.walk "/first")] 0 "/first" (State.inMemory_opening ..) rfl
  exact ⟨begun, xs, p, n, hbounded, hbounded.evaluations, hled⟩

end Pool

end Gatehouse
