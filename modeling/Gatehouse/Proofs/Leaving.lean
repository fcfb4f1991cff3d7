import Gatehouse.Proofs.Alone
import Gatehouse.Proofs.Answers

/-! Signing out. A visitor who signs out tells the service first and waits for one reply at most.
    Whatever comes of that, the session that there is by then ends in the same turn, whoever has
    begun it, and the walk to the login route is that of a stranger and over at once. So the sign
    out is over before anyone else has a turn, and it leaves nobody signed in behind. A failure of
    the service is told to the user, once, and never handed on. -/

namespace Gatehouse

variable {setup : Setup} {s t u : State} {xs : List (Exchange State)}

/-! ### What the user is told on the way -/

/-- On the way from one state to another the user was told just these things, the latest first. -/
def Informed (notices : List Event) (s t : State) : Prop :=
  ∃ es, t.journal = es ++ s.journal ∧ es.filter Event.isNotice = notices

namespace Informed

theorem refl (s : State) : Informed [] s s := ⟨[], rfl, rfl⟩

theorem trans {ns ms : List Event} (h : Informed ns s t) (h' : Informed ms t u) :
    Informed (ms ++ ns) s u := by
  obtain ⟨es, hes, rfl⟩ := h
  obtain ⟨fs, hfs, rfl⟩ := h'
  exact ⟨fs ++ es, by simp [hes, hfs], List.filter_append ..⟩

theorem of_silent {es : List Event} (hes : ∀ e ∈ es, e.isSilent)
    (ht : t.journal = es ++ s.journal) : Informed [] s t := ⟨es, ht, (silent_events hes).1⟩

theorem of_hushed (h : Hushed s t) : Informed [] s t := by
  obtain ⟨es, hes, rfl⟩ := h
  exact of_silent hes rfl

theorem of_strolled (h : Strolled s t) : Informed [] s t := by
  obtain ⟨navigation, es, hes, rfl⟩ := h
  exact of_silent hes rfl

/-- A request is no notice. -/
theorem requested (s : State) (q : Request) : Informed [] s (s.noting [.requested q]) :=
  ⟨[.requested q], rfl, rfl⟩

/-- The end of a session is only logged. -/
theorem after_signOut (hs : s.store.InMemory) : Informed [] s (s.after Desk.signOut) := by
  rw [State.after_signOut_memory hs]
  exact of_silent s.farewell_isSilent rfl

end Informed

/-- What the user is told about a failure of a call that is to be announced. -/
def Failure.announcement (f : Failure) : String :=
  if f.kind = .authentication then Service.sessionExpired else f.message

theorem Setup.noticesOf_failure (setup : Setup) (f : Failure) :
    setup.noticesOf true (.failure f) = [setup.noticeOf f.announcement] := by
  simp only [noticesOf, Failure.announcement]
  split
  · rfl
  · rfl

/-- A call on its own tells the user about its failure, once, and about nothing else. -/
theorem Setup.send_informed {c : Call} {r : Except Fault Json} (hs : s.store.InMemory)
    (h : (setup.send c s).Course xs t r) (hxs : ∀ x ∈ xs, x.Alone) :
    (∀ f, r = .error (.failed f) → Informed [setup.noticeOf f.announcement] s t) ∧
      ((∀ f, r ≠ .error (.failed f)) → Informed [] s t) := by
  obtain ⟨b, hhandled, rfl⟩ := send_course hs h fun x hx => (hxs x hx).memory
  cases hhandled with
  | stopped hf =>
    refine ⟨fun f hr => ?_, fun _ => .refl s⟩
    cases hr
    cases hf
  | @broken x f _ hasked hbroke =>
    have halone := hxs x (List.mem_singleton_self x)
    refine ⟨fun g hr => ?_, fun _ => ?_⟩
    · obtain rfl : f = .failed g := Except.error.inj hr
      rcases Reply.outcome_error hbroke with ⟨g', hg⟩ | ⟨o, ho⟩
      · cases hg
      · cases ho
    · rw [halone.same, hasked]
      exact .requested s _
  | @answered x a t _ hasked ha hanswered =>
    have halone := hxs x (List.mem_singleton_self x)
    obtain ⟨es, hes, hnotices, -⟩ := hanswered.journal
    have htold : Informed (setup.noticesOf true a) s t := by
      refine ⟨es ++ [.requested x.request], ?_, ?_⟩
      · rw [hes, halone.same, hasked]
        simp
      · rw [List.filter_append, hnotices]
        exact List.append_nil _
    cases a with
    | data v => exact ⟨fun f hr => (by cases hr), fun _ => htold⟩
    | failure f =>
      rw [noticesOf_failure] at htold
      refine ⟨fun g hr => ?_, fun hno => absurd rfl (hno f)⟩
      cases hr
      exact htold

/-! ### Signing out, way by way -/

namespace Visit

/-- What is left of the outcome of telling the service: a failure of the call counts for nothing. -/
def pardon : Except Fault Json → Except Fault Unit
  | .ok _ => .ok ()
  | .error (.failed _) => .ok ()
  | .error f => .error f

/-- Telling the service is the call, and a row of the log if it has failed. -/
theorem tellService_course {r : Except Fault Unit} (h : (tellService setup s).Course xs t r) :
    ∃ told outcome, (Endpoint.logout.send setup [] s).Course xs told outcome ∧ Hushed told t ∧
      r = pardon outcome := by
  obtain ⟨ys, zs, told, outcome, rfl, hsend, hrest⟩ := Flow.course_outcome_bind_iff.1 h
  have hend : zs = [] ∧ Hushed told t ∧ r = pardon outcome := by
    rcases outcome with f | data
    · cases f with
      | failed f =>
        dsimp only at hrest
        split at hrest
        · obtain ⟨rfl, rfl, rfl⟩ := Progress.course_ended_iff.1 hrest
          exact ⟨rfl, .logged told (by decide) .., rfl⟩
        · obtain ⟨rfl, rfl, rfl⟩ := Progress.course_ended_iff.1 hrest
          exact ⟨rfl, .logged told (by decide) .., rfl⟩
      | _ =>
        obtain ⟨rfl, rfl, rfl⟩ := Progress.course_ended_iff.1 hrest
        exact ⟨rfl, .refl _, rfl⟩
    · obtain ⟨rfl, rfl, rfl⟩ := Progress.course_ended_iff.1 hrest
      exact ⟨rfl, .refl _, rfl⟩
  obtain ⟨rfl, hhushed, rfl⟩ := hend
  rw [List.append_nil]
  exact ⟨told, outcome, hsend, hhushed, rfl⟩

/-- Leaving takes one step, over a memory: the session ends, and the walk to the login route is that
    of a stranger. It can only fail for want of a route. -/
theorem leave_memory (setup : Setup) (hs : s.store.InMemory) :
    ∃ t pushed, setup.walk setup.settings.loginPath (s.after Desk.signOut) = .ended t pushed ∧
      Strolled (s.after Desk.signOut) t ∧
      ((∃ route, pushed = .ok route) ∨ ∃ f, pushed = .error (.navigation f)) ∧
      leave setup s = .ended t (pushed.map fun _ => ()) := by
  obtain ⟨hmemory, hnone, -⟩ := State.vacant_after_signOut hs
  have hstrange : (s.after Desk.signOut).Strange := ⟨hmemory, hnone⟩
  obtain ⟨t, pushed, hstrolled, hgo, -, hpushed⟩ :=
    Walk.go_stranger setup setup.lookup hstrange setup.settings.loginPath
  have hwalk : setup.walk setup.settings.loginPath (s.after Desk.signOut) = .ended t pushed := hgo
  refine ⟨t, pushed, hwalk, hstrolled, hpushed, ?_⟩
  rw [leave, Job.desk_bind, State.result_signOut_memory hs]
  dsimp only
  rw [Flow.bind_apply, hwalk]
  cases pushed with
  | ok route => rfl
  | error f => rfl

/-- A sign out from `s` has come to its end in `t`: this came of telling the service, then the
    session was ended, and this came of the walk to the login route. -/
structure Parted (setup : Setup) (s : State) (xs : List (Exchange State))
    (outcome : Except Fault Json) (pushed : Except Fault (Option Route)) (t : State) : Prop where
  way : ∃ told u, (Endpoint.logout.send setup [] s).Course xs told outcome ∧ Hushed told u ∧
    u.store.InMemory ∧ setup.walk setup.settings.loginPath (u.after Desk.signOut) = .ended t pushed

/-- A sign out tells the service, then leaves, and is stopped by what stopped it from leaving, or
    else by what stopped it from telling. -/
theorem parted_of_course {r : Except Fault Unit} (hs : s.store.InMemory)
    (h : (signOut setup s).Course xs t r) (hxs : ∀ x ∈ xs, x.resumed.store.InMemory) :
    ∃ outcome pushed, Parted setup s xs outcome pushed t ∧
      r = pushed.bind fun _ => pardon outcome := by
  obtain ⟨ys, zs, u, r', rfl, htell, hrest⟩ := Flow.course_outcome_bind_iff.1 h
  obtain ⟨told, outcome, hsend, hhushed, rfl⟩ := tellService_course htell
  have hsend' : (setup.send logoutCall s).Course ys told outcome := hsend
  have hys : ∀ x ∈ ys, x.resumed.store.InMemory := (List.forall_mem_append.1 hxs).1
  obtain ⟨b, hhandled, -⟩ := Setup.send_course hs hsend' hys
  have hu : u.store.InMemory := by
    obtain ⟨es, -, rfl⟩ := hhushed
    exact hhandled.inMemory hs hys
  obtain ⟨v, pushed, hwalk, -, -, hleave⟩ := leave_memory setup hu
  have hlast : (leave setup >>= fun _ => Flow.ofExcept (pardon outcome)) u =
      .ended v (pushed.bind fun _ => pardon outcome) := by
    rw [Flow.bind_apply, hleave]
    cases pushed with
    | error f => rfl
    | ok route => cases pardon outcome <;> rfl
  have hrest' : ((leave setup >>= fun _ => Flow.ofExcept (pardon outcome)) u).Course zs t r := hrest
  rw [hlast] at hrest'
  obtain ⟨rfl, rfl, rfl⟩ := Progress.course_ended_iff.1 hrest'
  rw [List.append_nil]
  exact ⟨outcome, pushed, ⟨told, u, hsend, hhushed, hu, hwalk⟩, rfl⟩

namespace Parted

variable {outcome : Except Fault Json} {pushed : Except Fault (Option Route)}

/-- The end of a session and the walk to the login route leave no more behind than a walk in
    silence, and the walk can only fail for want of a route. -/
theorem strolled (h : Parted setup s xs outcome pushed t) :
    ∃ told u, (Endpoint.logout.send setup [] s).Course xs told outcome ∧ Hushed told u ∧
      u.store.InMemory ∧ Strolled (u.after Desk.signOut) t ∧
      ((∃ route, pushed = .ok route) ∨ ∃ f, pushed = .error (.navigation f)) := by
  obtain ⟨told, u, hsend, hhushed, hu, hwalk⟩ := h.way
  obtain ⟨v, pushed', hwalk', hstrolled, hpushed, -⟩ := leave_memory setup hu
  obtain ⟨rfl, rfl⟩ : v = t ∧ pushed' = pushed := by simpa [hwalk'] using hwalk
  exact ⟨told, u, hsend, hhushed, hu, hstrolled, hpushed⟩

/-- Nobody is signed in any more. -/
theorem nobody (h : Parted setup s xs outcome pushed t) :
    t.stored = none ∧ t.session = ⟨none, none⟩ := by
  obtain ⟨told, u, -, -, hu, ⟨navigation, es, -, rfl⟩, -⟩ := h.strolled
  exact ⟨(State.vacant_after_signOut hu).2.1, State.session_after_signOut (hu.removeToken u.slot)⟩

/-- Nothing stops a sign out where the service was told, or the call has failed, and the walk has
    come to a route. -/
theorem pardoned_iff (outcome : Except Fault Json) (pushed : Except Fault (Option Route)) :
    (∃ a, (pushed.bind fun _ => pardon outcome) = .ok a) ↔
      ((∃ data, outcome = .ok data) ∨ ∃ f, outcome = .error (.failed f)) ∧
        ∃ route, pushed = .ok route := by
  rcases pushed with f | route
  · simp [Except.bind]
  · rcases outcome with f | data
    · cases f <;> simp [Except.bind, pardon]
    · simp [Except.bind, pardon]

/-- No failure of a call stops it. -/
theorem ne_failed (h : Parted setup s xs outcome pushed t) (f : Failure) :
    (pushed.bind fun _ => pardon outcome) ≠ .error (.failed f) := by
  obtain ⟨-, -, -, -, -, -, ⟨route, rfl⟩ | ⟨g, rfl⟩⟩ := h.strolled
  · rcases outcome with g | data
    · cases g <;> simp [Except.bind, pardon]
    · simp [Except.bind, pardon]
  · simp [Except.bind]

/-- On its own it tells the user about a failure of the call, once, and about nothing else. -/
theorem informed (h : Parted setup s xs outcome pushed t) (hs : s.store.InMemory)
    (hxs : ∀ x ∈ xs, x.Alone) :
    (∀ f, outcome = .error (.failed f) → Informed [setup.noticeOf f.announcement] s t) ∧
      ((∀ f, outcome ≠ .error (.failed f)) → Informed [] s t) := by
  obtain ⟨told, u, hsend, hhushed, hu, hstrolled, -⟩ := h.strolled
  have hquiet : Informed [] told t :=
    (Informed.of_hushed hhushed).trans
      ((Informed.after_signOut hu).trans (Informed.of_strolled hstrolled))
  have hsend' : (setup.send logoutCall s).Course xs told outcome := hsend
  obtain ⟨hfailed, hno⟩ := Setup.send_informed hs hsend' hxs
  exact ⟨fun f hf => (hfailed f hf).trans hquiet, fun hf => (hno hf).trans hquiet⟩

end Parted

end Visit

namespace Pool

/-- Signing out always ends the session that there is, whoever has begun it, whatever else goes on
    and however the service is told. The move with which a sign out comes to its end, with a value
    or with a fault, leaves no token in the store and an empty session. It gives a value just where
    the call to the service has given data or failed, and the walk to the login route has come to a
    route; and no failure of a call stops it. On its own it tells the user about a failure of the
    call, once, and about nothing else. -/
theorem signOut_ends_session (setup : Setup) (s : State) (hs : s.store.InMemory)
    (done : List Move) (move : Move) (i : Nat) (r : Except Fault Value)
    (hop : (Move.operations (done ++ [move]))[i]? = some .signOut)
    (hbefore : ((fresh s).run setup done).result? i = none)
    (hr : ((fresh s).run setup (done ++ [move])).result? i = some r) :
    let t := ((fresh s).run setup (done ++ [move])).state
    t.stored = none ∧ t.session = ⟨none, none⟩ ∧
      ∃ before xs outcome pushed, before ++ [.start .signOut] <+: done ++ [move] ∧
        (∀ x ∈ xs, (fresh s).Exchanged setup (done ++ [move]) i x) ∧
        let begun := ((fresh s).run setup before).state
        Visit.Parted setup begun xs outcome pushed t ∧
        ((∃ v, r = .ok v) ↔ ((∃ data, outcome = .ok data) ∨ ∃ f, outcome = .error (.failed f)) ∧
          ∃ route, pushed = .ok route) ∧
        (∀ f, r ≠ .error (.failed f)) ∧
        ((∀ x ∈ xs, x.Alone) →
          (∀ f, outcome = .error (.failed f) →
            Informed [setup.noticeOf f.announcement] begun t) ∧
          ((∀ f, outcome ≠ .error (.failed f)) → Informed [] begun t)) := by
  intro t
  obtain ⟨before, xs, hprefix, hcourse, hxs⟩ := course_of_finish hop hbefore hr
  have hbegun : ((fresh s).run setup before).state.store.InMemory := inMemory_of_run hs before
  have hresumed : ∀ x ∈ xs, x.resumed.store.InMemory := fun x hx => (hxs x hx).inMemory hs
  obtain ⟨r', hsignOut, rfl⟩ := Flow.course_bind_pure_iff.1 hcourse
  obtain ⟨outcome, pushed, hparted, rfl⟩ := Visit.parted_of_course hbegun hsignOut hresumed
  obtain ⟨hstored, hsession⟩ := hparted.nobody
  refine ⟨hstored, hsession, before, xs, outcome, pushed, hprefix, hxs, hparted, ?_, fun f hf => ?_,
    hparted.informed hbegun⟩
  · rw [← Visit.Parted.pardoned_iff]
    cases pushed.bind fun _ => Visit.pardon outcome <;> simp [Except.map]
  · cases hfault : pushed.bind fun _ => Visit.pardon outcome with
    | ok a => simp [hfault, Except.map] at hf
    | error g =>
      obtain rfl : g = .failed f := by simpa [hfault, Except.map] using hf
      exact hparted.ne_failed f hfault

/-- The service fails while a visitor signs out. The session ends all the same. -/
theorem signOut_ends_session_failing :
    let done : List Move := [.start .signOut]
    let move : Move := .reply 0 (.received 500 .empty Json.usualRoom)
    ((openedWith "a").run .default done).result? 0 = none ∧
    ∃ r, ((openedWith "a").run .default (done ++ [move])).result? 0 = some r ∧
      let t := ((openedWith "a").run .default (done ++ [move])).state
      t.stored = none ∧ t.session = ⟨none, none⟩ := by
  intro done move
  have hwaits : (((openedWith "a").run .default done).result? 0).isNone := by decide +kernel
  have hbefore := Option.isNone_iff_eq_none.1 hwaits
  have hover : (((openedWith "a").run .default (done ++ [move])).result? 0).isSome := by
    decide +kernel
  obtain ⟨r, hr⟩ := Option.isSome_iff_exists.1 hover
  refine ⟨hbefore, r, hr, ?_⟩
  unfold openedWith at hbefore hr ⊢
  obtain ⟨hstored, hsession, -⟩ := signOut_ends_session .default _ (State.inMemory_opening ..) done
    move 0 r rfl hbefore hr
  exact ⟨hstored, hsession⟩

end Pool

end Gatehouse
