import Gatehouse.Proofs.Parts
import Gatehouse.Proofs.Stranger

/-! What walks do to the navigation, step by step. Within its turns an operation begins walks and
    lets them settle, the innermost first, and a walk that has settled may enter a route. All else
    that operations do leaves the navigation alone. So each operation carries the walks along that
    it has under way, from turn to turn, whatever others do in between. -/

namespace Gatehouse

/-! ### Steps -/

/-- Nobody walks from one state to the other. -/
structure Still (s t : State) : Prop where
  navigation : t.navigation = s.navigation
  journal : ∃ es, t.journal = es ++ s.journal ∧ ∀ e ∈ es, e.isStep = false

namespace Still

theorem noting (s : State) {es : List Event} (h : ∀ e ∈ es, e.isStep = false) :
    Still s (s.noting es) := ⟨rfl, es, rfl, h⟩

end Still

/-- The steps of an operation within a turn. It leads from one state to another, and from the walks
    that the operation has under way in the one to those that it has under way in the other. A walk
    stands for the path from which it began; the innermost comes last. -/
inductive Steps (table : Table) (mine : List String) (s : State) : List String → State → Prop
  | here : Steps table mine s mine s
  | still {mine' t u} : Steps table mine s mine' t → Still t u → Steps table mine s mine' u
  | depart {mine' t path} : Steps table mine s mine' t → path ∉ t.navigation.pending →
      Steps table mine s (mine' ++ [path]) (t.departing path)
  | settle {mine' t path} : Steps table mine s (mine' ++ [path]) t →
      Steps table mine s mine' (t.settling path)
  | enter {mine' t route} : Steps table mine s mine' t →
      t.navigation.currentPath ≠ some route.path → table.get? route.path = some route →
      Steps table mine s mine' (t.entering route)

theorem Steps.trans {table : Table} {mine mine' mine'' : List String} {s t u : State}
    (h : Steps table mine s mine' t) (h' : Steps table mine' t mine'' u) :
    Steps table mine s mine'' u := by
  induction h' with
  | here => exact h
  | still _ hstill ih => exact ih.still hstill
  | depart _ hnew ih => exact ih.depart hnew
  | settle _ ih => exact ih.settle
  | enter _ hnew hget ih => exact ih.enter hnew hget

/-- Work of an operation that goes step by step, in a turn that began in the state `s`. Where it
    waits, it has some walks under way, and goes on with those when the reply comes in; where it
    ends, those are left that are listed first. -/
inductive Progress.Paces (table : Table) {α : Type} (left : List String) :
    List String → State → Progress State α → Prop
  | ended {mine s t a} : Steps table mine s left t → Paces table left mine s (.ended t a)
  | waits {mine s mine' t q resume} : Steps table mine s mine' t →
      (∀ r u, Paces table left mine' u (resume r u)) → Paces table left mine s (.waits t q resume)

/-- Work that settles the walks that it begins. -/
structure Job.Paces (table : Table) {α : Type} (work : Job α) : Prop where
  paces : ∀ mine s, (work s).Paces table mine mine s

namespace Progress.Paces

variable {table : Table} {α β : Type} {left left' mine mine' : List String} {s t : State}
  {p : Progress State α}

theorem after (h : Steps table mine s mine' t) (hp : p.Paces table left mine' t) :
    p.Paces table left mine s := by
  cases hp with
  | ended hsteps => exact .ended (h.trans hsteps)
  | waits hsteps hresume => exact .waits (h.trans hsteps) hresume

/-- Goes on at the ends of the ways that the first part takes. -/
theorem andThen {next : α → State → Progress State β} (h : p.Paces table left mine s)
    (hnext : ∀ xs t a, p.Course xs t a → (next a t).Paces table left' left t) :
    (p.andThen next).Paces table left' mine s := by
  induction h with
  | ended hsteps => exact .after hsteps (hnext [] _ _ (.ended ..))
  | waits hsteps _ ih =>
    exact .waits hsteps fun r u => ih r u fun xs t a h => hnext _ t a (.waits h)

end Progress.Paces

/-- A remark is no step of a walk. -/
theorem Event.not_isStep_of_isRemark {e : Event} (h : e.isRemark) : e.isStep = false := by
  cases e <;> first | rfl | cases h

theorem Chore.still {α : Type} {work : Work α} (h : Chore α work) (s : State) :
    Still s (s.after work) := by
  obtain ⟨es, hjournal, hes⟩ := h.remarks s
  exact ⟨rfl, es, hjournal, fun e he => Event.not_isStep_of_isRemark (hes e he)⟩

namespace Job.Paces

variable {table : Table} {α β : Type} {work : Job α}

/-- Work settles all its walks if its parts do. -/
theorem modular (table : Table) : Modular fun _ work => Job.Paces table work where
  pure _ := ⟨fun _ _ => .ended .here⟩
  stop _ := ⟨fun _ _ => .ended .here⟩
  read _ := ⟨fun _ _ => .ended .here⟩
  bind hwork hnext := by
    refine ⟨fun mine s => (hwork.paces mine s).andThen ?_⟩
    rintro - t (f | a) -
    · exact .ended .here
    · exact (hnext a).paces mine t
  outcome hwork := ⟨fun mine s => (hwork.paces mine s).andThen fun _ _ _ _ => .ended .here⟩
  chore h := ⟨fun _ s => .ended (.still .here (h.still s))⟩
  connect _ := ⟨fun _ _ => .ended (.still .here ⟨rfl, [], rfl, by simp⟩)⟩

theorem exchange (q : Request) : Job.Paces table (Service.exchange q) := by
  refine (modular table).exchange (fun q => ⟨fun mine s => ?_⟩) (fun q => ⟨fun mine s => ?_⟩) q
  · exact .ended (.still .here (.noting s (List.forall_mem_singleton.2 rfl)))
  · exact .waits .here fun _ _ => .ended .here

end Job.Paces

/-! ### Walks -/

variable {setup : Setup} {ask : Call → Job Answer}

/-- What a path resolves to is declared under its own path. -/
theorem Table.get?_of_resolve {table : Table} {path : String} {route : Route}
    (h : table.resolve path = .ok route) : table.get? route.path = some route := by
  unfold resolve at h
  split at h
  · rename_i r hr
    cases h
    have hpath : route.path = normal path := by simpa using List.find?_some hr
    rw [hpath, hr]
  · cases h

namespace Walk

/-- Redirects lead to routes that are declared. -/
theorem get?_of_follow {left : Nat} {route dest : Route} {s t : State} {xs : List (Exchange State)}
    (hroute : setup.table.get? route.path = some route)
    (h : (follow setup ask left route s).Course xs t (.ok dest)) :
    setup.table.get? dest.path = some dest := by
  have hstay : ∀ {route : Route} {u : State} {zs : List (Exchange State)},
      setup.table.get? route.path = some route →
      (Progress.ended u (.ok route : Except Fault Route)).Course zs t (.ok dest) →
      setup.table.get? dest.path = some dest := by
    intro route u zs hroute hend
    obtain ⟨-, -, hdest⟩ := Progress.course_ended_iff.1 hend
    cases hdest
    exact hroute
  induction left generalizing route s xs with
  | zero =>
    rcases Flow.course_bind_iff.1 h with ⟨f, -, hf⟩ | ⟨ys, zs, u, _ | target, -, -, hend⟩
    · cases hf
    · exact hstay hroute hend
    · obtain ⟨-, -, hdest⟩ := Progress.course_ended_iff.1 hend
      cases hdest
  | succ left ih =>
    rcases Flow.course_bind_iff.1 h with ⟨f, -, hf⟩ | ⟨ys, zs, u, _ | target, -, -, hend⟩
    · cases hf
    · exact hstay hroute hend
    · simp only [resolve] at hend
      cases hnext : setup.table.resolve target with
      | error f =>
        rw [hnext] at hend
        obtain ⟨-, -, hdest⟩ := Progress.course_ended_iff.1 hend
        cases hdest
      | ok next =>
        rw [hnext] at hend
        exact ih (Table.get?_of_resolve hnext) hend

/-- A walk goes step by step if its calls do, and it settles in any case. -/
theorem go_paces (hask : ∀ c, Job.Paces setup.table (ask c)) (path : String) :
    Job.Paces setup.table (go setup ask path) := by
  refine ⟨fun mine s => ?_⟩
  cases hroute : setup.table.resolve path with
  | error f =>
    rw [go_unknown hroute]
    exact .ended .here
  | ok route =>
    by_cases hignored : s.navigation.Ignores route
    · rw [go_ignored hroute hignored]
      exact .ended (.still .here (.noting s (by simp [Event.isStep])))
    · rw [go_begun hroute hignored]
      have hget := Table.get?_of_resolve hroute
      have hfollow : Job.Paces setup.table (follow setup ask setup.settings.maxRedirects route) :=
        (Job.Paces.modular setup.table).follow hask _ route
      refine .after (.depart .here fun h => hignored (.inr h)) ?_
      refine (hfollow.paces (mine ++ [route.path]) _).andThen fun xs u r hcourse => ?_
      cases r with
      | error f => exact .ended (.settle .here)
      | ok dest =>
        refine .ended ?_
        unfold State.arriving
        split
        · exact .settle .here
        · rename_i hnew
          refine .still (.enter (.settle .here) hnew (get?_of_follow hget hcourse)) (.noting _ ?_)
          simp [Event.isStep]

end Walk

/-- Every operation goes step by step, and settles the walks that it begins. -/
theorem Operation.run_paces (setup : Setup) (op : Operation) :
    Job.Paces setup.table (op.run setup) := by
  have hparts := Job.Paces.modular setup.table
  have hlogin : Job.Paces setup.table setup.toLogin :=
    hparts.toLogin fun path => Walk.go_paces
      (fun c => hparts.serviceCall (hparts.pure ()) .exchange c false) path
  have hcall : ∀ c notify, Job.Paces setup.table (setup.call c notify) :=
    fun c notify => hparts.serviceCall hlogin .exchange c notify
  exact hparts.run hcall (fun path => Walk.go_paces (fun c => hcall c false) path) op

end Gatehouse
