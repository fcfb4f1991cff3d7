import Gatehouse.Proofs.Expiry
import Gatehouse.Proofs.Parts
import Gatehouse.Proofs.Turns

/-! What operations wait for. Over a memory, nothing waits but calls: wherever an operation waits,
    it is in the midst of a call, and it goes on when the call has told its caller. So whatever is
    true of a call and its reply is true of all replies in a course of events. -/

namespace Gatehouse

variable {setup : Setup}

/-- Work over a memory that waits only in calls. -/
inductive Calling (setup : Setup) {α : Type} : Progress State α → Prop
  | ended {s a} : s.store.InMemory → Calling setup (.ended s a)
  | waits {c notify begun s q resume} {rest : Except Fault Answer → State → Progress State α} :
      begun.store.InMemory → setup.call c notify begun = .waits s q resume →
      (∀ b t, t.store.InMemory → Calling setup (rest b t)) →
      Calling setup (.waits s q fun r t => (resume r t).andThen rest)

/-- Work that waits only in calls whenever it is done over a memory. -/
structure Job.Calls (setup : Setup) {α : Type} (work : Job α) : Prop where
  calling : ∀ s : State, s.store.InMemory → Calling setup (work s)

/-- A call that waits deals with its reply as calls do. -/
theorem Service.resume_eq_finish {c : Call} {notify : Bool} {begun s : State} {q : Request}
    {resume : Reply → State → Progress State (Except Fault Answer)} (hbegun : begun.store.InMemory)
    (h : setup.call c notify begun = .waits s q resume) :
    resume = finish setup setup.toLogin { c with method := Text.upper c.method } notify := by
  rcases call_memory setup hbegun c notify with ⟨f, -, hcall⟩ | ⟨q', -, hcall⟩
  · simp [h] at hcall
  · rw [h] at hcall
    cases hcall
    rfl

namespace Calling

variable {α β : Type}

theorem andThen {p : Progress State α} {next : α → State → Progress State β}
    (h : Calling setup p) (hnext : ∀ a t, t.store.InMemory → Calling setup (next a t)) :
    Calling setup (p.andThen next) := by
  induction h with
  | ended hs => exact hnext _ _ hs
  | waits hbegun hcall _ ih =>
    simp only [Progress.andThen_waits, Progress.andThen_assoc]
    exact .waits hbegun hcall ih

/-- What work has come to waits only in calls, too, as long as the replies come in over a memory. -/
theorem leads {p q : Progress State α} {xs : List (Exchange State)} (h : Calling setup p)
    (hq : p.Leads xs q) (hxs : ∀ x ∈ xs, x.resumed.store.InMemory) : Calling setup q := by
  -- A call does not wait twice, so after its reply only the rest of the work may wait.
  induction hq with
  | here => exact h
  | on r s' _ ih =>
    obtain ⟨hxs, hx⟩ := List.forall_mem_append.1 hxs
    have hs' : s'.store.InMemory := hx _ (List.mem_singleton_self _)
    cases ih hxs with
    | @waits c notify begun _ _ resume rest hbegun hcall hrest =>
      obtain ⟨t, b, hfinish, hconcluded⟩ := Service.finish_memory setup hs'
        { c with method := Text.upper c.method } notify r
      show Calling setup ((resume r s').andThen rest)
      rw [Service.resume_eq_finish hbegun hcall, hfinish]
      exact hrest b t (hconcluded.inMemory hs')

end Calling

theorem Chore.inMemory {α : Type} {work : Work α} (h : Chore α work) {s : State}
    (hs : s.store.InMemory) : (s.after work).store.InMemory := by
  cases h with
  | record => exact hs
  | token => exact s.after_token.untouched.store ▸ hs
  | hasToken => exact s.after_hasToken.untouched.store ▸ hs
  | setToken room token =>
    exact State.inMemory_after_access (f := (·.setToken room s.slot token)) (hs.setToken_store ..)
  | removeToken =>
    exact State.inMemory_after_access (f := (·.removeToken s.slot)) (hs.removeToken_store ..)
  | clear => exact State.inMemory_after_access (f := Store.clear) hs.clear_store
  | signIn => exact State.inMemory_after_signIn hs ..
  | signOut => exact (State.vacant_after_signOut hs).1
  | setUser user => exact (State.untouched_after_setUser s user).store ▸ hs
  | clearUser => exact hs

namespace Job.Calls

/-- Work waits only in calls if its parts do. -/
theorem modular (setup : Setup) : Modular fun _ work => Job.Calls setup work where
  pure _ := ⟨fun _ hs => .ended hs⟩
  stop _ := ⟨fun _ hs => .ended hs⟩
  read _ := ⟨fun _ hs => .ended hs⟩
  bind hwork hnext := by
    refine ⟨fun s hs => (hwork.calling s hs).andThen ?_⟩
    rintro (f | a) t ht
    · exact .ended ht
    · exact (hnext a).calling t ht
  outcome hwork := ⟨fun s hs => (hwork.calling s hs).andThen fun _ _ ht => .ended ht⟩
  chore hchore := ⟨fun _ hs => .ended (hchore.inMemory hs)⟩
  connect _ := ⟨fun _ hs => .ended hs⟩

theorem call (c : Call) (notify : Bool) : Job.Calls setup (setup.call c notify) := by
  constructor
  intro s hs
  cases h : setup.call c notify s with
  | ended t b =>
    rcases Service.call_memory setup hs c notify with ⟨f, -, hcall⟩ | ⟨q, -, hcall⟩
    · rw [h] at hcall
      cases hcall
      exact .ended hs
    · simp [h] at hcall
  | waits t q resume =>
    have hrest : ∀ (b : Except Fault Answer) (t : State), t.store.InMemory →
        Calling setup (.ended t b) := fun _ _ ht => .ended ht
    simpa only [Progress.andThen_nothing] using Calling.waits hs h hrest

end Job.Calls

/-- Every operation over a memory waits only in calls. -/
theorem Operation.run_calls (op : Operation) : Job.Calls setup (op.run setup) := by
  have hparts := Job.Calls.modular setup
  have hwalk : ∀ path, Job.Calls setup (setup.walk path) :=
    hparts.go (fun c => .call c false) (fun _ => ⟨fun _ hs => .ended hs⟩)
      fun _ _ => ⟨fun _ hs => .ended hs⟩
  exact hparts.run .call hwalk op

namespace Pool

variable {s : State} {moves : List Move} {i : Nat}

/-- An operation that waits, waits in a call, at all times. -/
theorem waits_in_call (hs : s.store.InMemory) {request : Request}
    (h : ((fresh s).run setup moves).request? i = some request) :
    ∃ c notify begun asked resume rest, begun.store.InMemory ∧
      setup.call c notify begun = .waits asked request resume ∧
      ((fresh s).run setup moves).stages[i]? =
        some (.waiting request fun r t => (resume r t).andThen rest) := by
  unfold request? at h
  split at h
  · rename_i request' resume' hstage
    cases h
    obtain ⟨op, before, xs, progress, -, hled⟩ :=
      (allLed_of_run (List.prefix_refl moves)).led i _ hstage
    have hcalling : Calling setup progress :=
      (op.run_calls.calling _ (inMemory_of_run hs before)).leads hled.leads fun x hx =>
        (hled.exchanged x hx).inMemory hs
    have hsplit := Option.some.inj (hled.stage.symm.trans hstage)
    cases hcalling with
    | ended => cases hsplit
    | waits hbegun hcall =>
      cases hsplit
      exact ⟨_, _, _, _, _, _, hbegun, hcall, hstage⟩
  · cases h

/-- A reply that rejects the credential is dealt with in one step, over a memory. The operation that
    waits for it does so in a call, and the call ends at once: the session has expired, and the
    caller is told so. The operation goes on from there before anybody else has a turn. -/
theorem rejection_indivisible (setup : Setup) (s : State) (hs : s.store.InMemory)
    (moves : List Move) (i : Nat) (request : Request) (r : Reply)
    (hwaits : ((fresh s).run setup moves).request? i = some request) (hrej : r.isRejection) :
    let p := (fresh s).run setup moves
    ∃ c notify begun asked resume rest f t,
      setup.call c notify begun = .waits asked request resume ∧
      p.stages[i]? = some (.waiting request fun r u => (resume r u).andThen rest) ∧
      resume r p.state = .ended t (.ok (.failure f)) ∧ f.kind = .authentication ∧
      Expired setup p.state t ∧
      p.reply i r = ⟨(rest (.ok (.failure f)) t).state,
        p.stages.set i (split (rest (.ok (.failure f)) t)).2⟩ := by
  intro p
  obtain ⟨c, notify, begun, asked, resume, rest, hbegun, hcall, hstage⟩ :=
    waits_in_call hs hwaits
  obtain ⟨a, hr, ha⟩ : ∃ a, r.answer? = some a ∧ a.isRejection := (Option.any_eq_true ..).1 hrej
  have hmemory : p.state.store.InMemory := inMemory_of_run hs moves
  obtain ⟨t, hfinish, hexpired⟩ := Service.finish_rejected setup hmemory
    { c with method := Text.upper c.method } notify hr ha
  rw [← Service.resume_eq_finish hbegun hcall] at hfinish
  cases a with
  | data v => cases ha
  | failure f =>
    refine ⟨c, notify, begun, asked, resume, rest, f, t, hcall, hstage, hfinish, ?_, hexpired, ?_⟩
    · simpa [Answer.isRejection, Answer.failure?] using ha
    · rcases reply_cases p i r with ⟨hnone, -⟩ | ⟨request', resume', hstage', -, hreply⟩
      · simp [p, hwaits] at hnone
      · obtain ⟨rfl, rfl⟩ : request' = request ∧
            resume' = fun r u => (resume r u).andThen rest := by
          simpa [p, hstage] using hstage'.symm
        have hend : (resume r p.state).andThen rest = rest (.ok (.failure f)) t := by
          rw [hfinish, Progress.andThen_ended]
        simpa only [hend] using hreply

/-- A call waits, and its credential is rejected. -/
theorem rejection_indivisible_call :
    let p := (openedWith "a").run .default
      [.start (.call ⟨"GET", "/v1/secrets", .null, .null⟩ false)]
    ∃ request, p.request? 0 = some request ∧ Reply.rejection.isRejection ∧
      ∃ resume : Reply → State → Progress State (Except Fault Answer), ∃ rest f t,
        p.stages[0]? = some (.waiting request fun r u => (resume r u).andThen rest) ∧
        resume .rejection p.state = .ended t (.ok (.failure f)) ∧
        Expired .default p.state t := by
  have hwaits : (((openedWith "a").run .default
      [.start (.call ⟨"GET", "/v1/secrets", .null, .null⟩ false)]).request? 0).isSome := by
    decide +kernel
  have hrej : Reply.rejection.isRejection := by decide +kernel
  obtain ⟨request, hwaits⟩ := Option.isSome_iff_exists.1 hwaits
  unfold openedWith at hwaits ⊢
  obtain ⟨c, notify, begun, asked, resume, rest, f, t, -, hstage, hresume, -, hexpired, -⟩ :=
    rejection_indivisible .default _ (State.inMemory_opening ..) _ 0 request _ hwaits hrej
  exact ⟨request, hwaits, hrej, resume, rest, f, t, hstage, hresume, hexpired⟩

end Pool

end Gatehouse
