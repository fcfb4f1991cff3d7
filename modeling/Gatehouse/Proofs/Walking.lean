import Gatehouse.Proofs.Judging

/-! Walks, told in deeds. A walk ends at a declared route without a redirect of its own, and the
    gate has let the visitor in there right before the walk settles and the route is entered. That
    holds for every number of redirects on the way, and for the walks that a rejection starts in the
    midst of another. -/

namespace Gatehouse

/-- The gate has just let the visitor in to a route that leads on to nowhere by itself. -/
def Welcome (setup : Setup) (X : Exchange State → Prop) (s : State) (route : Route) : Prop :=
  route.redirect? = none ∧ ∃ v begun lookups done, Evaluation setup v begun lookups done ∧
    (∀ x ∈ lookups, X x) ∧ v.decision = .allow ∧ v.route = route ∧ s = done.noting [.judged v]

/-- What a path resolves to is declared. -/
theorem Table.mem_of_resolve {table : Table} {path : String} {route : Route}
    (h : (table.resolve path).mapError Fault.navigation = .ok route) : route ∈ table.routes := by
  unfold resolve at h
  split at h
  · rename_i r hr
    cases h
    exact List.mem_of_find?_eq_some hr
  · cases h

variable {setup : Setup} {X : Exchange State → Prop} {op : Operation}
  {R : Turn State → State → Prop} {turn : Turn State} {s : State}

namespace Walk

/-- A route is entered only where the gate has just let the visitor in. -/
theorem enter_holds (rule : Rule setup X op R) {route : Route} {origin : String}
    (hroute : route ∈ setup.table.routes) (hwelcome : Welcome setup X s route)
    (hR : R turn (s.settling origin)) :
    (enter route).Holds X R turn (s.settling origin) fun _ _ _ => True := by
  obtain ⟨hredirect, v, begun, lookups, done, hev, hxs, hallow, rfl, rfl⟩ := hwelcome
  rw [enter, Flow.Holds.bind_read]
  split
  · exact .pure hR trivial
  have hR' := rule.deed hR (.entered origin hev hxs hallow hroute hredirect)
  exact (Job.log_holds rule hR').mono fun _ _ _ _ _ => trivial

end Walk

section

variable {toLogin : Job Unit} (rule : Rule setup X op R)
  (hlogin : toLogin = setup.toLogin ∨ toLogin = pure ())
  (hlead : toLogin.Respects X R)

include rule hlogin hlead

theorem Gate.judge_holds (hR : R turn s) {route : Route} :
    (judge setup (fun c => Service.call setup toLogin c false) route).Holds X R turn s
      fun _ t v => v.route = route ∧ ∃ begun lookups done, Evaluation setup v begun lookups done ∧
        (∀ x ∈ lookups, X x) ∧ t = done.noting [.judged v] := by
  unfold judge
  refine .bind (verdictOn_holds rule hlead hR).course ?_
  rintro xs t v hR ⟨⟨rfl, -⟩, hcourse, hxs⟩
  have hev : Evaluation setup v s xs t := ⟨toLogin, hlogin, hcourse⟩
  refine .bind_atOnce (Job.desk_holds (rule.deed hR (.judged hev hxs))) ?_
  rintro _ _ hR ⟨rfl, -⟩
  exact .pure hR ⟨rfl, s, xs, t, hev, hxs, rfl⟩

namespace Walk

theorem onward_holds (hR : R turn s) {route : Route} :
    (onward setup (fun c => Service.call setup toLogin c false) route).Holds X R turn s
      fun _ t target => target = none → Welcome setup X t route := by
  unfold onward
  split
  · exact .pure hR (by simp)
  rename_i hredirect
  refine .bind (Gate.judge_holds rule hlogin hlead hR) ?_
  rintro xs t v hR ⟨rfl, begun, lookups, done, hev, hxs, rfl⟩
  split
  · rename_i hallow
    exact .pure hR fun _ => ⟨hredirect, v, begun, lookups, done, hev, hxs, hallow, rfl, rfl⟩
  · refine .bind_atOnce (Job.log_holds rule hR) fun u _ hR _ => ?_
    exact .pure hR (by simp)

/-- Wherever redirects lead, the gate lets the visitor in at the end. -/
theorem follow_holds (left : Nat) (hR : R turn s) {route : Route}
    (hroute : route ∈ setup.table.routes) :
    (follow setup (fun c => Service.call setup toLogin c false) left route).Holds X R turn s
      fun _ t target => target ∈ setup.table.routes ∧ Welcome setup X t target := by
  induction left generalizing turn s route with
  | zero =>
    unfold follow
    refine .bind (onward_holds rule hlogin hlead hR) ?_
    rintro xs t (_ | target) hR hend
    · exact .pure hR ⟨hroute, hend rfl⟩
    · exact .stop hR
  | succ left ih =>
    unfold follow
    refine .bind (onward_holds rule hlogin hlead hR) ?_
    rintro xs t (_ | target) hR hend
    · exact .pure hR ⟨hroute, hend rfl⟩
    · exact .bind_ofExcept hR fun next hnext => ih hR (Table.mem_of_resolve hnext)

/-- A walk keeps to every rule that deeds keep to. -/
theorem go_holds (hR : R turn s) {path : String} :
    (go setup (fun c => Service.call setup toLogin c false) path).Holds X R turn s
      fun _ _ _ => True := by
  unfold go
  refine .bind_ofExcept hR fun route hresolve => ?_
  have hroute : route ∈ setup.table.routes := Table.mem_of_resolve hresolve
  rw [Flow.Holds.bind_read]
  split
  · exact .bind_atOnce (Job.log_holds rule hR) fun t _ hR _ => .pure hR trivial
  have hdepart : (depart route).Holds X R turn s fun xs t _ =>
      xs = [] ∧ t = s.departing route.path :=
    ⟨rule.deed hR (.departed route.path), fun _ _ => ⟨rfl, rfl⟩⟩
  have hsettle : ∀ xs t, R (turn.through xs) t → (settle route).Holds X R (turn.through xs) t
      fun ys u _ => ys = [] ∧ u = t.settling route.path :=
    fun xs t hR => ⟨rule.deed hR (.settled route.path), fun _ _ => ⟨rfl, rfl⟩⟩
  refine .bind_atOnce hdepart ?_
  rintro _ _ hR rfl
  refine .bind (F := fun _ t target =>
    ∃ u, t = u.settling route.path ∧ target ∈ setup.table.routes ∧ Welcome setup X u target) ?_ ?_
  · exact .followedBy (follow_holds rule hlogin hlead _ hR hroute) hsettle
      fun _ t u _ hend hu => ⟨t, hu, hend⟩
  · rintro xs _ target hR ⟨u, rfl, htarget, hwelcome⟩
    exact .bind (enter_holds rule htarget hwelcome hR) fun ys t _ hR _ => .pure hR trivial

end Walk

end

end Gatehouse
