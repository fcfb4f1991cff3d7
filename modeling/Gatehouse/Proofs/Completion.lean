import Gatehouse.Proofs.Answers
import Gatehouse.Proofs.Turns

/-! Calls that are completed in any order. Each of several calls has asked the service before any
    of them hears from it; then the replies come in. What a reply does depends on nothing that the
    other replies do: the result of the call and its notices follow from the reply alone, and a
    forced logout that comes after another one finds nothing left to do. So the order in which the
    calls are completed shows only in the order of what the user is told. -/

namespace Gatehouse

variable {setup : Setup} {s s' t t' u : State}

/-! ### Forced logouts, one after another -/

/-- A state without its journal. -/
def State.core (s : State) : State := { s with journal := [] }

theorem State.core_ext (hstore : s.store = t.store) (hslot : s.slot = t.slot)
    (hsession : s.session = t.session) (hconnections : s.connections = t.connections)
    (hnavigation : s.navigation = t.navigation) : s.core = t.core := by
  obtain ⟨⟨store, slot, session, journal⟩, connections, navigation⟩ := s
  subst hstore hslot hsession hconnections hnavigation
  rfl

/-- The state to which a forced logout leads. -/
def State.expelled (setup : Setup) (s : State) : State :=
  (Service.expire setup setup.toLogin s).state

/-- There is one way at most that a stranger's walk goes. -/
theorem Moves.unique {path : String} {n n' n'' : Navigation} (h : Moves setup path n n')
    (h' : Moves setup path n n'') : n' = n'' := by
  rcases h with ⟨dest, hreaches, rfl⟩ | ⟨hnowhere, rfl⟩
  · rcases h' with ⟨dest', hreaches', rfl⟩ | ⟨hnowhere', -⟩
    · obtain ⟨⟨route, hroute, -, hled⟩, -⟩ := hreaches
      rw [hreaches'.eq_of_ledOn hroute hled]
    · exact absurd hreaches (hnowhere' dest)
  · rcases h' with ⟨dest', hreaches', -⟩ | ⟨-, rfl⟩
    · exact absurd hreaches' (hnowhere dest')
    · rfl

/-- A stranger who walks the same way once more gets nowhere else. -/
theorem Moves.again {path : String} {n n' n'' : Navigation} (h : Moves setup path n n')
    (h' : Moves setup path n' n'') : n'' = n' := by
  rcases h with ⟨dest, hreaches, rfl⟩ | ⟨hnowhere, rfl⟩
  · rcases h' with ⟨dest', hreaches', -⟩ | ⟨-, rfl⟩
    · -- The redirects lead to where the visitor is by now.
      obtain ⟨⟨route, hroute, -, hled⟩, -⟩ := hreaches
      obtain rfl : dest = dest' := hreaches'.eq_of_ledOn hroute hled
      exact absurd rfl hreaches'.new
    · rfl
  · rcases h' with ⟨dest', hreaches', -⟩ | ⟨-, rfl⟩
    · exact absurd hreaches' (hnowhere dest')
    · rfl

theorem Moves.history {path : String} {n n' : Navigation} (h : Moves setup path n n') :
    n'.history = n.history ∨ ∃ entry, n'.history = n.history ++ [entry] := by
  rcases h with ⟨dest, -, rfl⟩ | ⟨-, rfl⟩
  · exact .inr ⟨dest.path, rfl⟩
  · exact .inl rfl

/-- A memory that has given up its token has nothing more to give up. -/
theorem Store.InMemory.removeToken_again {store : Store} (h : store.InMemory) (slot : String) :
    ((store.removeToken slot).store.removeToken slot).store = (store.removeToken slot).store := by
  obtain ⟨slots, rfl⟩ := h
  obtain ⟨slots', hnone, hremoved⟩ := removeToken_memory slots slot
  rw [hremoved]
  simp [Store.removeToken, remove, load, Record.has, hnone]

namespace Expired

/-- Where the expiry of a session leads is settled by where it comes from. -/
theorem core_eq (h : Expired setup s t) (h' : Expired setup s' t') (hs : s.core = s'.core) :
    t.core = t'.core := by
  have hstore : s.store = s'.store := congrArg (·.store) hs
  have hslot : s.slot = s'.slot := congrArg (·.slot) hs
  have hconnections : s.connections = s'.connections := congrArg (·.connections) hs
  have hnavigation : s.navigation = s'.navigation := congrArg (·.navigation) hs
  refine State.core_ext ?_ ?_ (h.session.trans h'.session.symm) ?_ ?_
  · rw [h.store, h'.store, hstore, hslot]
  · rw [h.slot, h'.slot, hslot]
  · rw [h.connections, h'.connections, hconnections]
  · have hmoves := h.navigation
    have hmoves' := h'.navigation
    rw [← hnavigation] at hmoves'
    split at hmoves
    · rw [if_pos ‹_›] at hmoves'
      exact hmoves.unique hmoves'
    · rw [if_neg ‹_›] at hmoves'
      exact hmoves.trans hmoves'.symm

/-- A session that has expired has nothing to lose when it expires once more. -/
theorem again (h : Expired setup s t) (h' : Expired setup t u) (hs : s.store.InMemory) :
    u.core = t.core := by
  refine State.core_ext ?_ h'.slot (h'.session.trans h.session.symm) h'.connections ?_
  · rw [h'.store, h.slot, h.store]
    exact hs.removeToken_again s.slot
  · have hmoves := h.navigation
    have hmoves' := h'.navigation
    split at hmoves
    · rw [if_pos ‹_›] at hmoves'
      exact hmoves.again hmoves'
    · rwa [if_neg ‹_›] at hmoves'

end Expired

/-- A forced logout ends the session. -/
theorem State.expired_expelled (setup : Setup) (hs : s.store.InMemory) :
    Expired setup s (s.expelled setup) := by
  obtain ⟨t, hexpire, ht⟩ := Service.expire_apply setup hs
  rwa [expelled, hexpire]

theorem Expired.core_expelled (h : Expired setup s t) (hs : s.store.InMemory) :
    t.core = (s.expelled setup).core :=
  h.core_eq (State.expired_expelled setup hs) rfl

/-- A forced logout adds one entry to the history, if any. -/
theorem State.history_expelled (setup : Setup) (hs : s.store.InMemory) :
    (s.expelled setup).navigation.history = s.navigation.history ∨
      ∃ entry, (s.expelled setup).navigation.history = s.navigation.history ++ [entry] := by
  have hmoves := (expired_expelled setup hs).navigation
  split at hmoves
  · exact hmoves.history
  · exact .inl (congrArg Navigation.history hmoves)

/-! ### What comes of a call -/

/-- What comes of a call when a reply comes in: its result, what the user is told, and whether the
    session expires. None of this depends on the state that the reply finds. -/
structure Upshot where
  result : Except Fault Value
  notices : List Event
  expires : Bool

/-- What an upshot makes of a state. -/
structure Upshot.Leads (setup : Setup) (o : Upshot) (s t : State) : Prop where
  notices : t.journal.filter Event.isNotice = o.notices ++ s.journal.filter Event.isNotice
  kept : o.expires = false → t.core = s.core
  expired : o.expires → Expired setup s t

theorem Upshot.Leads.inMemory {o : Upshot} (h : o.Leads setup s t) (hs : s.store.InMemory) :
    t.store.InMemory := by
  cases ho : o.expires with
  | true => exact (h.expired ho).inMemory hs
  | false => exact (congrArg (·.store) (h.kept ho) : t.store = s.store) ▸ hs

theorem Answered.leads {notify : Bool} {a : Answer} (h : Answered setup notify a s t)
    (result : Except Fault Value) :
    Upshot.Leads setup ⟨result, setup.noticesOf notify a, a.isRejection⟩ s t := by
  obtain ⟨es, hes, hnotices, -⟩ := h.journal
  refine ⟨?_, fun hno => ?_, h.expired⟩
  · rw [hes, List.filter_append, hnotices]
  · rw [h.kept hno]
    rfl

/-- A reply has this upshot for an operation, in whichever state it comes in. -/
inductive Stage.Yields (setup : Setup) (r : Reply) : Stage → Upshot → Prop
  | ended (result) : Yields setup r (.over result) ⟨result, [], false⟩
  | waiting {request resume o} : o.expires = r.isRejection →
      (∀ s : State, s.store.InMemory → ∃ t, resume r s = .ended t o.result ∧ o.Leads setup s t) →
      Yields setup r (.waiting request resume) o

theorem Service.finish_leads (setup : Setup) (c : Call) (notify : Bool)
    (value : Except Fault Answer → Except Fault Value) (r : Reply) :
    ∃ o : Upshot, o.expires = r.isRejection ∧ ∀ s : State, s.store.InMemory → ∃ t b,
      finish setup setup.toLogin c notify r s = .ended t b ∧ value b = o.result ∧
        o.Leads setup s t := by
  cases hr : r.outcome with
  | error f =>
    exact ⟨⟨value (.error f), [], false⟩, (Reply.not_isRejection_of_outcome hr).symm, fun s _ =>
      ⟨s, _, finish_broken setup _ c notify hr s, rfl, rfl, fun _ => rfl, fun h => by cases h⟩⟩
  | ok a =>
    have ha : r.answer? = some a := by rw [Reply.answer?, hr, Except.toOption]
    refine ⟨⟨value (.ok a), setup.noticesOf notify a, a.isRejection⟩,
      (Reply.isRejection_of_answer? ha).symm, fun s hs => ?_⟩
    obtain ⟨t, hfinish, hanswered⟩ := finish_answered setup hs c notify ha
    exact ⟨t, _, hfinish, rfl, hanswered.leads _⟩

namespace Operation

variable {op : Operation}

/-- Whether an operation is a call and nothing else. -/
def isCall : Operation → Bool
  | call .. => true
  | send _ => true
  | endpoint .. => true
  | _ => false

/-- Such an operation makes its call and then has its value, or it makes none. -/
theorem run_of_isCall (setup : Setup) (h : op.isCall) :
    (∃ f, ∀ s, op.run setup s = .ended s (.error f)) ∨
      ∃ c notify, ∃ value : Except Fault Answer → Except Fault Value, ∀ s,
        op.run setup s = (setup.call c notify s).andThen fun b t => .ended t (value b) := by
  have hsend : ∀ (c : Call) (f : Json → Except Fault Value) (s : State),
      (setup.send c >>= fun v => Flow.ofExcept (f v)) s =
        (setup.call c true s).andThen fun b t => .ended t (b >>= fun a => a.unwrap >>= f) := by
    intro c f s
    simp only [Setup.send, Flow.bind_apply, Progress.andThen_assoc]
    congr
    funext b t
    rcases b with f | (v | failure)
    · rfl
    · exact Flow.ofExcept_apply (f v) t
    · rfl
  cases op with
  | call c notify =>
    refine .inr ⟨c, notify, fun b => b.map .answer, fun s => ?_⟩
    simp only [run, Flow.bind_apply]
    congr
    funext b t
    cases b <;> rfl
  | send c => exact .inr ⟨c, true, _, hsend c fun v => .ok (.data v)⟩
  | endpoint e args =>
    cases hc : e.call? args with
    | none =>
      refine .inl ⟨.unfit, fun s => ?_⟩
      simp only [run, Endpoint.send, hc]
      rfl
    | some c =>
      refine .inr ⟨c, true, fun b => b >>= fun a => a.unwrap >>= valueOf e.gives, fun s => ?_⟩
      simp only [run, Endpoint.send, hc]
      exact hsend c (valueOf e.gives) s
  | _ => cases h

/-- When such an operation is started, no more has happened than that it may have asked the service.
    Whichever reply comes in for it, its upshot is settled by then. -/
theorem start_of_isCall (setup : Setup) (h : op.isCall) (hs : s.store.InMemory) :
    ∃ es, (∀ e ∈ es, e.isNotice = false) ∧ (op.run setup s).state = s.noting es ∧
      ∀ r, ∃ o, (Pool.split (op.run setup s)).2.Yields setup r o := by
  rcases run_of_isCall setup h with ⟨f, hrun⟩ | ⟨c, notify, value, hrun⟩
  · rw [hrun]
    exact ⟨[], by simp, rfl, fun _ => ⟨_, .ended _⟩⟩
  rw [hrun]
  rcases Service.call_memory setup hs c notify with ⟨f, -, hcall⟩ | ⟨q, -, hcall⟩
  · rw [hcall]
    exact ⟨[], by simp, rfl, fun _ => ⟨_, .ended _⟩⟩
  · rw [hcall]
    refine ⟨[.requested q], by simp [Event.isNotice], rfl, fun r => ?_⟩
    obtain ⟨o, hexpires, ho⟩ := Service.finish_leads setup
      { c with method := Text.upper c.method } notify value r
    refine ⟨o, .waiting hexpires fun t ht => ?_⟩
    obtain ⟨u, b, hfinish, hb, hleads⟩ := ho t ht
    refine ⟨u, ?_, hleads⟩
    rw [hfinish, Progress.andThen_ended, hb]

end Operation

namespace Pool

/-! ### Calls that have been made, and no reply yet -/

/-- Calls have been made, one after another, and nobody has heard from the service yet. -/
structure Asked (setup : Setup) (s : State) (n : Nat) (p : Pool) : Prop where
  core : p.state.core = s.core
  notices : p.state.journal.filter Event.isNotice = s.journal.filter Event.isNotice
  length : p.stages.length = n
  yields : ∀ stage ∈ p.stages, ∀ r, ∃ o, stage.Yields setup r o

theorem asked_of_starts (hs : s.store.InMemory) {ops : List Operation}
    (hops : ∀ op ∈ ops, op.isCall) :
    Asked setup s ops.length ((fresh s).run setup (ops.map .start)) := by
  induction ops using List.reverseRecOn with
  | nil => exact ⟨rfl, rfl, rfl, by simp [run, fresh]⟩
  | append_singleton ops op ih =>
    obtain ⟨hcalls, hop⟩ := List.forall_mem_append.1 hops
    obtain ⟨hcore, hnotices, hlength, hyields⟩ := ih hcalls
    have hmemory : ((fresh s).run setup (ops.map .start)).state.store.InMemory :=
      inMemory_of_run hs _
    obtain ⟨es, hes, hstate, hstage⟩ :=
      Operation.start_of_isCall setup (hop op (List.mem_singleton_self op)) hmemory
    rw [List.map_append, List.map_singleton, run_concat, step, start_eq, hstate]
    refine ⟨hcore, ?_, by simp [hlength], List.forall_mem_append.2 ⟨hyields, by simpa using hstage⟩⟩
    rw [State.noting_journal, List.filter_append, hnotices,
      List.filter_eq_nil_iff.2 fun e he => by simp [hes e he], List.nil_append]

/-! ### Replies, one after another -/

variable {p : Pool} {replies : Nat → Reply} {o : Nat → Upshot} {order : List Nat}

theorem reply_of_yields {i : Nat} {stage : Stage} {r : Reply} {o : Upshot}
    (hp : p.state.store.InMemory) (hstage : p.stages[i]? = some stage)
    (ho : stage.Yields setup r o) :
    ∃ t, p.reply i r = ⟨t, p.stages.set i (.over o.result)⟩ ∧ o.Leads setup p.state t := by
  cases ho with
  | ended result =>
    obtain ⟨hi, hget⟩ := List.getElem?_eq_some_iff.1 hstage
    refine ⟨p.state, ?_, rfl, fun _ => rfl, fun h => by cases h⟩
    rw [← hget, List.set_getElem_self]
    simp [reply, hstage]
  | waiting _ hresume =>
    obtain ⟨t, ht, hleads⟩ := hresume _ hp
    exact ⟨t, by simp [reply, hstage, ht, split], hleads⟩

/-- Replies have come in for the operations of a list, in its order. Each operation has the result
    of its upshot, and the user has been told what the upshots are. If any session has expired, all
    the rest is as after one forced logout; otherwise it is as it was. -/
structure Completed (setup : Setup) (o : Nat → Upshot) (order : List Nat) (p t : Pool) : Prop where
  results : ∀ i ∈ order, t.stages[i]? = some (.over (o i).result)
  others : ∀ i, i ∉ order → t.stages[i]? = p.stages[i]?
  notices : (t.state.journal.filter Event.isNotice).Perm
    (order.flatMap (fun i => (o i).notices) ++ p.state.journal.filter Event.isNotice)
  core : t.state.core =
    if ∃ i ∈ order, (o i).expires then (p.state.expelled setup).core else p.state.core

theorem completed_of_replies (hp : p.state.store.InMemory) (hnodup : order.Nodup)
    (ho : ∀ i ∈ order, ∃ stage, p.stages[i]? = some stage ∧ stage.Yields setup (replies i) (o i)) :
    Completed setup o order p (p.run setup (order.map fun i => .reply i (replies i))) := by
  -- The induction goes from the first reply on. What the others find is the state after it.
  induction order generalizing p with
  | nil => exact ⟨by simp, fun _ _ => rfl, .refl _, by simp [run]⟩
  | cons i order ih =>
    obtain ⟨hi, hnodup⟩ := List.nodup_cons.1 hnodup
    obtain ⟨⟨stage, hstage, hyields⟩, ho⟩ := List.forall_mem_cons.1 ho
    obtain ⟨t, hreply, hleads⟩ := reply_of_yields hp hstage hyields
    have hrun : p.run setup ((i :: order).map fun j => .reply j (replies j)) =
        (p.reply i (replies i)).run setup (order.map fun j => .reply j (replies j)) := rfl
    have hne : ∀ j ∈ order, i ≠ j := fun j hj hij => hi (hij ▸ hj)
    have hrest := ih (p := p.reply i (replies i)) (hreply ▸ hleads.inMemory hp) hnodup
      fun j hj => by simpa only [hreply, List.getElem?_set_ne (hne j hj)] using ho j hj
    rw [hreply] at hrun hrest
    rw [hrun]
    refine ⟨List.forall_mem_cons.2 ⟨?_, hrest.results⟩, fun j hj => ?_, ?_, ?_⟩
    · rw [hrest.others i hi]
      exact List.getElem?_set_self (List.getElem?_eq_some_iff.1 hstage).1
    · obtain ⟨hij, hj⟩ : j ≠ i ∧ j ∉ order := by simpa using hj
      rw [hrest.others j hj]
      exact List.getElem?_set_ne hij.symm
    · refine hrest.notices.trans ?_
      rw [hleads.notices, ← List.append_assoc, List.flatMap_cons]
      exact (List.perm_append_comm).append_right _
    · rw [hrest.core]
      cases hexpires : (o i).expires with
      | true =>
        have hexpired := hleads.expired hexpires
        have ht := hexpired.inMemory hp
        have hagain := hexpired.again (State.expired_expelled setup ht) hp
        simp [hexpires, hagain, hexpired.core_expelled hp]
      | false =>
        have hkept := hleads.kept hexpires
        have ht := hleads.inMemory hp
        have hexpelled : (t.expelled setup).core = (p.state.expelled setup).core :=
          (State.expired_expelled setup ht).core_eq (State.expired_expelled setup hp) hkept
        simp [hexpires, hkept, hexpelled]

/-- Some operation waits, and the reply to it rejects the credential. -/
def SomeRejected (p : Pool) (replies : Nat → Reply) : Prop :=
  ∃ i, (p.request? i).isSome ∧ (replies i).isRejection

/-- A reply has an upshot that ends the session if an operation waits for it and it rejects the
    credential. -/
theorem expires_iff {i : Nat} {stage : Stage} {r : Reply} {o : Upshot}
    (hstage : p.stages[i]? = some stage) (ho : stage.Yields setup r o) :
    o.expires ↔ (p.request? i).isSome ∧ r.isRejection := by
  cases ho with
  | ended => simp [request?, hstage]
  | waiting hexpires _ => simp [request?, hstage, hexpires]

namespace Asked

variable {n : Nat}

/-- What will come of the calls is settled when they have been made. -/
theorem exists_upshots (h : Asked setup s n p) (replies : Nat → Reply) :
    ∃ o : Nat → Upshot, ∀ i (stage : Stage), p.stages[i]? = some stage →
      stage.Yields setup (replies i) (o i) := by
  have hone : ∀ i, ∃ o, ∀ stage : Stage, p.stages[i]? = some stage →
      stage.Yields setup (replies i) o := by
    intro i
    cases hstage : p.stages[i]? with
    | none => exact ⟨⟨.ok .nothing, [], false⟩, by simp⟩
    | some stage =>
      obtain ⟨o, ho⟩ := h.yields stage (List.mem_of_getElem? hstage) (replies i)
      exact ⟨o, fun _ h => Option.some.inj h ▸ ho⟩
  choose o ho using hone
  exact ⟨o, ho⟩

theorem mem_order (h : Asked setup s n p) (horder : order.Perm (List.range n)) {i : Nat} :
    i ∈ order ↔ i < p.stages.length := by
  rw [horder.mem_iff, List.mem_range, h.length]

theorem completed (h : Asked setup s n p) (hp : p.state.store.InMemory)
    (ho : ∀ i (stage : Stage), p.stages[i]? = some stage → stage.Yields setup (replies i) (o i))
    (horder : order.Perm (List.range n)) :
    Completed setup o order p (p.run setup (order.map fun i => .reply i (replies i))) := by
  refine completed_of_replies hp (horder.nodup_iff.2 List.nodup_range) fun i hi => ?_
  have hstage := List.getElem?_eq_getElem ((h.mem_order horder).1 hi)
  exact ⟨_, hstage, ho i _ hstage⟩

/-- When all replies have come in, the session has expired if some credential was rejected. -/
theorem core_of_completed (h : Asked setup s n p) (hs : s.store.InMemory)
    (hp : p.state.store.InMemory)
    (ho : ∀ i (stage : Stage), p.stages[i]? = some stage → stage.Yields setup (replies i) (o i))
    (horder : order.Perm (List.range n)) {t : Pool} (ht : Completed setup o order p t) :
    (¬p.SomeRejected replies → t.state.core = s.core) ∧
      (p.SomeRejected replies → t.state.core = (s.expelled setup).core) := by
  have hexpelled : (p.state.expelled setup).core = (s.expelled setup).core :=
    (State.expired_expelled setup hp).core_eq (State.expired_expelled setup hs) h.core
  have hrejected : (∃ i ∈ order, (o i).expires) ↔ p.SomeRejected replies := by
    constructor
    · rintro ⟨i, hi, hexpires⟩
      have hstage := List.getElem?_eq_getElem ((h.mem_order horder).1 hi)
      exact ⟨i, (expires_iff hstage (ho i _ hstage)).1 hexpires⟩
    · rintro ⟨i, hi⟩
      obtain ⟨stage, hstage⟩ : ∃ stage, p.stages[i]? = some stage := by
        cases hstage : p.stages[i]? with
        | none => simp [request?, hstage] at hi
        | some stage => exact ⟨stage, rfl⟩
      exact ⟨i, (h.mem_order horder).2 (List.getElem?_eq_some_iff.1 hstage).1,
        (expires_iff hstage (ho i _ hstage)).2 hi⟩
  have hcore := ht.core
  rw [hexpelled, h.core] at hcore
  exact ⟨fun hno => hcore.trans (if_neg (mt hrejected.1 hno)),
    fun hyes => hcore.trans (if_pos (hrejected.2 hyes))⟩

end Asked

/-! ### Calls in any order -/

/-- Replies have come in, in one order and in another, and it makes no difference, but for the order
    of what the user was told. -/
structure Concurs (p q : Pool) : Prop where
  core : p.state.core = q.state.core
  results : ∀ i, p.result? i = q.result? i
  notices : (p.state.journal.filter Event.isNotice).Perm (q.state.journal.filter Event.isNotice)

theorem Completed.concurs {order' : List Nat} {t t' : Pool} (h : Completed setup o order p t)
    (h' : Completed setup o order' p t') (horder : order.Perm order') : Concurs t t' := by
  refine ⟨?_, fun i => ?_, ?_⟩
  · simp only [h.core, h'.core, horder.mem_iff]
  · have hstages : t.stages[i]? = t'.stages[i]? := by
      by_cases hi : i ∈ order
      · rw [h.results i hi, h'.results i (horder.mem_iff.1 hi)]
      · rw [h.others i hi, h'.others i fun hi' => hi (horder.mem_iff.2 hi')]
    rw [result?, result?, hstages]
  · refine h.notices.trans (.trans ?_ h'.notices.symm)
    exact (horder.flatMap_right _).append_right _

/-- Calls that wait side by side may be completed in any order. All of them are over then. If no
    credential was rejected, nothing but the journal has changed; otherwise all is as after a single
    forced logout, which has led to one more place at most. -/
theorem calls_commute (setup : Setup) (s : State) (hs : s.store.InMemory) (ops : List Operation)
    (hops : ∀ op ∈ ops, op.isCall) (replies : Nat → Reply) (order order' : List Nat)
    (horder : order.Perm (List.range ops.length))
    (horder' : order'.Perm (List.range ops.length)) :
    let asked := (fresh s).run setup (ops.map .start)
    let answered := fun order : List Nat =>
      asked.run setup (order.map fun i => .reply i (replies i))
    let t := (answered order).state
    Concurs (answered order) (answered order') ∧
      (∀ i < ops.length, ((answered order).result? i).isSome) ∧
      (¬asked.SomeRejected replies → t.core = s.core) ∧
      (asked.SomeRejected replies →
        t.core = (s.expelled setup).core ∧ Expired setup s (s.expelled setup)) ∧
      (t.navigation.history = s.navigation.history ∨
        ∃ entry, t.navigation.history = s.navigation.history ++ [entry]) := by
  intro asked answered t
  have hasked : Asked setup s ops.length asked := asked_of_starts hs hops
  have hp : asked.state.store.InMemory := inMemory_of_run hs _
  obtain ⟨o, ho⟩ := hasked.exists_upshots replies
  have hcompleted : Completed setup o order asked (answered order) :=
    hasked.completed hp ho horder
  have hcompleted' : Completed setup o order' asked (answered order') :=
    hasked.completed hp ho horder'
  obtain ⟨hkept, hexpelled⟩ := hasked.core_of_completed hs hp ho horder hcompleted
  refine ⟨hcompleted.concurs hcompleted' (horder.trans horder'.symm), fun i hi => ?_, hkept,
    fun hyes => ⟨hexpelled hyes, State.expired_expelled setup hs⟩, ?_⟩
  · have hover := hcompleted.results i ((hasked.mem_order horder).2 (hasked.length ▸ hi))
    simp [result?, hover]
  · by_cases h : asked.SomeRejected replies
    · rw [show t.navigation = _ from congrArg (·.navigation) (hexpelled h)]
      exact State.history_expelled setup hs
    · exact .inl (congrArg (·.navigation.history) (hkept h))

/-- Two calls wait, and both replies reject the credential. -/
theorem calls_commute_rejected :
    let s := (openedWith "a").state
    let c : Call := ⟨"GET", "/v1/secrets", .null, .null⟩
    let asked := (fresh s).run .default [.start (.call c true), .start (.send c)]
    let t := asked.run .default [.reply 0 .rejection, .reply 1 .rejection]
    let t' := asked.run .default [.reply 1 .rejection, .reply 0 .rejection]
    s.store.InMemory ∧ Concurs t t' ∧ t.state.core = (s.expelled .default).core := by
  intro s c asked t t'
  have hs : s.store.InMemory := State.inMemory_opening ..
  have hrej : Reply.rejection.isRejection := by decide +kernel
  have hasked : (asked.request? 0).isSome := by decide +kernel
  obtain ⟨hconcurs, -, -, hexpired, -⟩ := calls_commute .default s hs [.call c true, .send c]
    (by simp [Operation.isCall]) (fun _ => .rejection) [0, 1] [1, 0] (by decide)
    (by decide)
  exact ⟨hs, hconcurs, (hexpired ⟨0, hasked, hrej⟩).1⟩

end Pool

end Gatehouse
