import Gatehouse.Proofs.Slots
import Gatehouse.Proofs.Steps

/-! Which credential goes out with a request. A request is made in the moment in which the token is
    read, since nothing that waits stands between the two; so it carries the token that is stored
    when it goes out, whatever its operation has read before. And a token that was removed comes
    back to the store in no other way than that a turn stores it again. So no operation sends a
    token that was removed, however long ago the operation began. -/

namespace Gatehouse

/-! ### Requests -/

/-- Nobody has asked the service for anything from one state to the other. -/
def Unasked (s t : State) : Prop :=
  ∃ es, t.journal = es ++ s.journal ∧ ∀ e ∈ es, e.isRequest = false

namespace Unasked

variable {s t u : State}

theorem refl (s : State) : Unasked s s := ⟨[], rfl, by simp⟩

theorem trans (h : Unasked s t) (h' : Unasked t u) : Unasked s u := by
  obtain ⟨es, ht, hes⟩ := h
  obtain ⟨fs, hu, hfs⟩ := h'
  refine ⟨fs ++ es, by rw [hu, ht, List.append_assoc], ?_⟩
  exact List.forall_mem_append.2 ⟨hfs, hes⟩

theorem of_remarks {es : List Event} (h : t.journal = es ++ s.journal)
    (hes : ∀ e ∈ es, e.isRemark) : Unasked s t := by
  refine ⟨es, h, fun e he => ?_⟩
  have hremark := hes e he
  cases e <;> first | rfl | cases hremark

theorem of_noted (h : Noted s t) : Unasked s t := by
  obtain ⟨es, hjournal, hes⟩ := h.remarks rfl
  exact of_remarks hjournal hes

/-- The steps of walks ask for nothing. -/
theorem step (s : State) {e : Event} (h : e.isStep) : Unasked s (s.noting [e]) := by
  refine ⟨[e], rfl, List.forall_mem_singleton.2 ?_⟩
  cases e <;> first | rfl | cases h

end Unasked

/-- Work, begun in the state `s`, each turn of which asks for one thing at the most. It does so at
    its end, with the token that is stored then. -/
inductive Progress.Asks {α : Type} : State → Progress State α → Prop
  | ended {s t a} : Unasked s t → Asks s (.ended t a)
  | waits {s t q resume} : Unasked s t → q.credential = t.stored →
      (∀ r u, Asks u (resume r u)) → Asks s (.waits (t.noting [.requested q]) q resume)

/-- Work that asks with the token that is stored, whenever it is done. -/
structure Job.Asks {α : Type} (work : Job α) : Prop where
  asks : ∀ s, (work s).Asks s

namespace Progress.Asks

variable {α β : Type} {s t : State} {p : Progress State α}

theorem after (h : Unasked s t) (hp : p.Asks t) : p.Asks s := by
  cases hp with
  | ended ht => exact .ended (h.trans ht)
  | waits ht hq hresume => exact .waits (h.trans ht) hq hresume

theorem andThen {next : α → State → Progress State β} (h : p.Asks s)
    (hnext : ∀ a t, (next a t).Asks t) : (p.andThen next).Asks s := by
  induction h with
  | ended ht => exact .after ht (hnext _ _)
  | waits ht hq _ ih => exact .waits ht hq ih

/-- What work has come to asks with the token that is stored, too. -/
theorem leads {q : Progress State α} {xs : List (Exchange State)} (h : p.Asks s)
    (hq : p.Leads xs q) : q.Asks ((Turn.first s).through xs).state := by
  induction hq with
  | here => exact h
  | on r u _ ih =>
    rw [Turn.through_append]
    cases ih with
    | waits _ _ hresume => exact hresume r u

end Progress.Asks

namespace Job.Asks

/-- Work asks with the token that is stored if its parts do. -/
theorem modular : Modular fun _ work => Job.Asks work where
  pure _ := ⟨fun s => .ended (.refl s)⟩
  stop _ := ⟨fun s => .ended (.refl s)⟩
  read _ := ⟨fun s => .ended (.refl s)⟩
  bind hwork hnext := by
    refine ⟨fun s => (hwork.asks s).andThen ?_⟩
    rintro (f | a) t
    · exact .ended (.refl t)
    · exact (hnext a).asks t
  outcome hwork := ⟨fun s => (hwork.asks s).andThen fun _ t => .ended (.refl t)⟩
  chore h := by
    refine ⟨fun s => .ended ?_⟩
    obtain ⟨es, hjournal, hes⟩ := h.remarks s
    exact .of_remarks hjournal hes
  connect _ := ⟨fun _ => .ended ⟨[], rfl, by simp⟩⟩

end Job.Asks

/-- The request of a call is made at once, or the call is stopped. -/
theorem Service.requestOf_apply (setup : Setup) (c : Call) (s : State) :
    ∃ t r, requestOf setup { c with method := Text.upper c.method } s = .ended t r ∧ Noted s t ∧
      ∀ q, r = .ok q → q.IsFor setup c t := by
  have stopped (t : State) (f : Fault) (h : Noted s t) :
      ∃ u r, (Progress.ended t (.error f) : Progress State (Except Fault Request)) = .ended u r ∧
        Noted s u ∧ ∀ q, r = .ok q → q.IsFor setup c u :=
    ⟨t, _, rfl, h, fun _ h => by cases h⟩
  rw [requestOf, Flow.bind_of_ok (t := s) (a := s.connections.held) rfl]
  cases s.connections.held with
  | none => exact stopped s .notOpen (.refl s)
  | some place =>
    show ∃ t r, (Job.desk Desk.token >>= _) s = .ended t r ∧ _
    rw [Job.desk_bind]
    have noted := s.after_token
    cases htoken : s.result Desk.token with
    | error f => exact stopped _ f noted
    | ok token =>
      cases hbody : bodyOf c.payload with
      | error f => exact stopped _ f noted
      | ok body =>
        cases hparams : paramsOf setup.room c.params with
        | error f => exact stopped _ f noted
        | ok params =>
          refine ⟨_, _, rfl, noted, ?_⟩
          rintro q ⟨⟩
          have hstored : token = (s.after Desk.token).stored :=
            (State.stored_of_token htoken).symm.trans noted.stored.symm
          exact ⟨rfl, rfl, hstored, hbody, hparams⟩

/-- A call asks with the token that is stored, if what follows a rejection does. -/
theorem Service.call_asks_stored {setup : Setup} {toLogin : Job Unit} (h : Job.Asks toLogin)
    (c : Call) (notify : Bool) : Job.Asks (Service.call setup toLogin c notify) := by
  refine ⟨fun s => ?_⟩
  have finish : ∀ c r u, (Service.finish setup toLogin c notify r u).Asks u :=
    fun c r u => (Job.Asks.modular.finish h c notify r).asks u
  obtain ⟨t, r, made, noted, hr⟩ := requestOf_apply setup c s
  cases r with
  | error f =>
    rw [Service.call, Flow.bind_of_error made]
    exact .ended (.of_noted noted)
  | ok q =>
    rw [Service.call, Flow.bind_of_ok made]
    rcases exchange_apply q t with hex | hex
    · rw [Flow.bind_apply, hex]
      exact .waits (.of_noted noted) (hr q rfl).credential fun r u => finish _ r u
    · rw [Flow.bind_of_error hex]
      exact .ended (.of_noted noted)

/-- Every operation asks with the token that is stored. -/
theorem Operation.run_asks (setup : Setup) (op : Operation) : Job.Asks (op.run setup) := by
  have hparts := Job.Asks.modular
  have hchange : ∀ f, Job.Asks (Walk.change f) := fun _ => ⟨fun _ => .ended ⟨[], rfl, by simp⟩⟩
  have hstep : ∀ e : Event, e.isStep → Job.Asks (Job.record e) :=
    fun _ he => ⟨fun s => .ended (.step s he)⟩
  have hlogin : Job.Asks setup.toLogin :=
    hparts.toLogin fun path => hparts.go
      (fun c => Service.call_asks_stored (hparts.pure ()) c false) hchange hstep path
  have hcall : ∀ c notify, Job.Asks (setup.call c notify) := Service.call_asks_stored hlogin
  exact hparts.run hcall (hparts.go (fun c => hcall c false) hchange hstep) op

/-! ### Tokens that are stored again -/

/-- The text of the token that is stored. -/
def State.bearer (s : State) : Option String := s.stored.map Json.display

/-- A turn stores a token with this text: it begins with the reply to a login that grants one, or it
    is the turn of an operation that is given one. -/
inductive Stores (setup : Setup) (op : Operation) : Turn State → String → Prop
  | granted {x data token} : Granted setup op x data token →
      Stores setup op (.after x) token.display
  | begun {s token} : op = .beginSession token → Stores setup op (.first s) token.display
  | given {s token} : op = .setToken token → Stores setup op (.first s) token.display

variable {setup : Setup} {X : Exchange State → Prop} {op : Operation} {turn : Turn State}
  {s t : State}

/-- What deeds make of the store: they leave it as it is, or they remove the token, or it is written
    by a turn that stores it. -/
inductive Handles (setup : Setup) (op : Operation) (turn : Turn State) (s t : State) : Prop
  | kept : Untouched s t → Handles setup op turn s t
  | removed : t.slot = s.slot → t.store = (s.store.removeToken s.slot).store →
      Handles setup op turn s t
  | cleared : t.slot = s.slot → t.store = s.store.clear.store → Handles setup op turn s t
  | stored {token} : t.slot = s.slot →
      t.store = (s.store.setToken setup.tokenRoom s.slot token).store →
      Stores setup op turn token.display → Handles setup op turn s t

theorem Handles.signOut (s : State) : Handles setup op turn s (s.after Desk.signOut) := by
  obtain ⟨es, -, hafter⟩ := s.after_signOut
  rw [hafter]
  exact .removed rfl rfl

theorem Handles.signIn {token : Json} (h : Stores setup op turn token.display) :
    Handles setup op turn s (s.after (Desk.signIn setup.tokenRoom token)) := by
  obtain ⟨es, -, hafter⟩ := s.after_signIn setup.tokenRoom token
  rw [hafter]
  exact .stored rfl rfl h

theorem Operation.handles {work : Work Unit} (h : op.work? setup = some work) (s : State) :
    Handles setup op (.first s) s (s.after work) := by
  cases op with
  | beginSession token =>
    cases h
    exact .signIn (.begun rfl)
  | endSession =>
    cases h
    exact .signOut s
  | setUser data =>
    obtain ⟨user, -, rfl⟩ := Option.map_eq_some_iff.1 h
    exact .kept (s.untouched_after_setUser user)
  | clearUser =>
    cases h
    exact .kept ⟨rfl, rfl, rfl⟩
  | setToken token =>
    cases h
    exact .stored rfl rfl (.given rfl)
  | removeToken =>
    cases h
    exact .removed rfl rfl
  | clearStore =>
    cases h
    exact .cleared rfl rfl
  | _ => cases h

theorem Deed.handles (h : Deed setup X op turn s t) : Handles setup op turn s t := by
  cases h with
  | noted hn => exact .kept hn.untouched
  | requested => exact .kept ⟨rfl, rfl, rfl⟩
  | judged => exact .kept ⟨rfl, rfl, rfl⟩
  | departed => exact .kept ⟨rfl, rfl, rfl⟩
  | settled => exact .kept ⟨rfl, rfl, rfl⟩
  | entered => exact .kept ⟨rfl, rfl, rfl⟩
  | expired => exact .signOut _
  | left => exact .signOut s
  | signedIn _ hgranted => exact .signIn (.granted hgranted)
  | welcomed => exact .kept (State.untouched_after_setUser _ _)
  | recognised => exact .kept (State.untouched_after_setUser _ _)
  | worked hwork => exact Operation.handles hwork s
  | connected => exact .kept ⟨rfl, rfl, rfl⟩

/-- A turn that began over a steady store: the store is steady still, and the token in it is the one
    that was there before, or there is none, or the turn has stored it. -/
def Retains (setup : Setup) (op : Operation) (turn : Turn State) (t : State) : Prop :=
  turn.state.store.IsSteady → t.store.IsSteady ∧
    (t.stored = turn.state.stored ∨ t.stored = none ∨
      ∃ text, Stores setup op turn text ∧ t.stored = some (.str text))

theorem Retains.handles (hR : Retains setup op turn s) (h : Handles setup op turn s t) :
    Retains setup op turn t := by
  intro hsteady
  obtain ⟨hs, hstored⟩ := hR hsteady
  -- What is shown afterwards is what was shown before, or none, or what this deed has written.
  have passed {new : Option Json} (hslot : t.slot = s.slot)
      (hturns : Store.Turns s.slot s.store t.store new)
      (hnew : new = none ∨ ∃ text, Stores setup op turn text ∧ new = some (.str text)) :
      t.store.IsSteady ∧ (t.stored = turn.state.stored ∨ t.stored = none ∨
        ∃ text, Stores setup op turn text ∧ t.stored = some (.str text)) := by
    refine ⟨hturns.steady, ?_⟩
    have ht : t.stored = t.store.shown s.slot := by rw [← hslot]; rfl
    rw [ht]
    rcases hturns.shown with h | h | h
    · rw [h]
      exact hstored
    · exact .inr (.inl h)
    · rw [h]
      exact .inr hnew
  cases h with
  | kept h => exact ⟨h.store ▸ hs, h.stored ▸ hstored⟩
  | removed hslot hstore =>
    exact passed hslot (hstore ▸ Store.turns_removeToken hs s.slot) (.inl rfl)
  | cleared hslot hstore => exact passed hslot (hstore ▸ Store.turns_clear hs s.slot) (.inl rfl)
  | stored hslot hstore hstores =>
    exact passed hslot (hstore ▸ Store.turns_setToken hs _ s.slot _) (.inr ⟨_, hstores, rfl⟩)

theorem retains_rule : Rule setup X op (Retains setup op) where
  deed hR h := hR.handles h.handles
  resumed _ _ _ := fun hs => ⟨hs, .inl rfl⟩
  expired _ _ := Retains.handles (fun hs => ⟨hs, .inl rfl⟩) (.signOut _)
  left {x t} _ _ _ hn := by
    have hnoted : Retains setup op (.after x) t :=
      Retains.handles (fun hs => ⟨hs, .inl rfl⟩) (.kept hn.untouched)
    exact hnoted.handles (.signOut t)

namespace Pool

variable {moves done : List Move} {move : Move} {i : Nat} {q : Request}

/-- A move makes a request. That is the last thing that happens in the turn, and the operation whose
    turn it is waits for the reply. -/
structure Issues (setup : Setup) (p : Pool) (done : List Move) (move : Move) (i : Nat)
    (q : Request) : Prop where
  turn : (p.run setup done).IsTurn i move
  journal : ∃ es, (∀ e ∈ es, e.isRequest = false) ∧
    (p.run setup (done ++ [move])).state.journal =
      .requested q :: es ++ (p.run setup done).state.journal
  waits : (p.run setup (done ++ [move])).request? i = some q

/-- A move goes on with work that asks with the token that is stored, or nobody takes notice of
    it. -/
theorem asks_of_move (setup : Setup) (s : State) (done : List Move) (move : Move) :
    (fresh s).run setup (done ++ [move]) = (fresh s).run setup done ∨
      ∃ i progress, ((fresh s).run setup done).IsTurn i move ∧
        progress.Asks ((fresh s).run setup done).state ∧
        ((fresh s).run setup (done ++ [move])).state = progress.state ∧
        ((fresh s).run setup (done ++ [move])).stages[i]? = some (split progress).2 := by
  rw [run_concat]
  cases move with
  | start op =>
    refine .inr ⟨_, _, rfl, (op.run_asks setup).asks _, ?_, ?_⟩
    · rw [step, start_eq]
    · rw [step, start_eq]
      exact List.getElem?_concat_length
  | reply i r =>
    rcases reply_cases ((fresh s).run setup done) i r with
      ⟨-, hsame⟩ | ⟨request, resume, hstage, -, hnext⟩
    · exact .inl hsame
    · right
      have hall : AllLed setup (fresh s) done done := allLed_of_run (List.prefix_refl done)
      obtain ⟨op, before, xs, progress, -, hled⟩ := hall.led i _ hstage
      have hasks := ((op.run_asks setup).asks _).leads hled.leads
      have hsplit := Option.some.inj (hled.stage.symm.trans hstage)
      cases progress with
      | ended t result => cases hsplit
      | waits t request' resume' =>
        cases hsplit
        cases hasks with
        | waits _ _ hresume =>
          refine ⟨i, _, rfl, hresume r _, by rw [step, hnext], ?_⟩
          rw [step, hnext]
          exact List.getElem?_set_self (List.getElem?_eq_some_iff.1 hstage).1

/-- Every move asks for one thing at the most, with the token that is stored then. -/
theorem issues_of_move (setup : Setup) (s : State) (done : List Move) (move : Move) :
    Unasked ((fresh s).run setup done).state ((fresh s).run setup (done ++ [move])).state ∨
      ∃ i q, (fresh s).Issues setup done move i q ∧
        q.credential = ((fresh s).run setup (done ++ [move])).state.stored := by
  rcases asks_of_move setup s done move with hsame | ⟨i, progress, hturn, hasks, hstate, hstage⟩
  · rw [hsame]
    exact .inl (.refl _)
  · cases hasks with
    | ended h => exact .inl (hstate ▸ h)
    | @waits _ t q resume h hq =>
      obtain ⟨es, hjournal, hes⟩ := h
      refine .inr ⟨i, q, ⟨hturn, ⟨es, hes, ?_⟩, ?_⟩, ?_⟩
      · rw [hstate]
        exact congrArg (Event.requested q :: ·) hjournal
      · exact request?_of_stage hstage rfl
      · rw [hstate, hq]
        rfl

/-- The credential of a request is told by its headers. -/
theorem headers_authorization (q : Request) :
    Record.get? q.headers "Authorization" =
      q.credential.map fun token => "Bearer " ++ token.display := by
  rw [Request.headers]
  cases q.credential <;> rfl

/-- The request that a move makes is the only one, and it carries the token that is stored. -/
theorem Issues.bearer {text : String} (h : (fresh s).Issues setup done move i q)
    (hsent : Record.get? q.headers "Authorization" = some ("Bearer " ++ text)) :
    ((fresh s).run setup (done ++ [move])).state.bearer = some text := by
  obtain ⟨es, -, hjournal⟩ := h.journal
  rcases issues_of_move setup s done move with ⟨fs, hnone, hfs⟩ | ⟨j, q', h', hq'⟩
  · rw [hjournal, List.append_left_inj] at hnone
    have hfalse := hfs (.requested q) (hnone ▸ List.mem_cons_self)
    cases hfalse
  · obtain ⟨es', -, hjournal'⟩ := h'.journal
    rw [hjournal, List.append_left_inj, List.cons.injEq] at hjournal'
    obtain ⟨⟨rfl⟩, -⟩ := hjournal'
    rw [headers_authorization, hq'] at hsent
    obtain ⟨token, hstored, htext⟩ := Option.map_eq_some_iff.1 hsent
    rw [State.bearer, hstored, Option.map_some, (String.append_right_inj _).1 htext]

/-- No turn but one that stores a token changes the store from one that shows another token, or
    none, to one that shows this token. -/
theorem turn_stores (text : String) (hdone : done ++ [move] <+: moves)
    (hsteady : ((fresh s).run setup done).state.store.IsSteady) :
    ((fresh s).run setup (done ++ [move])).state.store.IsSteady ∧
      (((fresh s).run setup done).state.bearer ≠ some text →
        ((fresh s).run setup (done ++ [move])).state.bearer = some text →
        ∃ i op turn, Takes setup (fresh s) moves done move i op turn ∧
          Stores setup op turn text) := by
  have hrun : ∀ j op u, (Move.operations moves)[j]? = some op →
      (Operation.run setup op u).Keeps ((fresh s).Exchanged setup moves j)
        (Retains setup op) (.first u) :=
    fun _ _ _ _ => Operation.run_keeps retains_rule fun hs => ⟨hs, .inl rfl⟩
  rcases turn_of_move (R := fun _ => Retains setup) hrun hdone with
    ⟨i, r, -, -, hsame⟩ | ⟨i, op, turn, htakes, hretains⟩
  · rw [hsame]
    exact ⟨hsteady, fun hne h => absurd h hne⟩
  · obtain ⟨hsteady', hstored⟩ := hretains (htakes.state ▸ hsteady)
    rw [htakes.state] at hstored
    refine ⟨hsteady', fun hne h => ⟨i, op, turn, htakes, ?_⟩⟩
    rcases hstored with hsame | hnone | ⟨text', hstores, hnew⟩
    · rw [State.bearer, hsame] at h
      exact absurd h hne
    · rw [State.bearer, hnone] at h
      cases h
    · rw [State.bearer, hnew] at h
      cases h
      exact hstores

/-- A store that has shown a token stays steady. -/
theorem steady_of_run {earlier : List Move} {token : Json} (hdone : done <+: moves)
    (hearlier : earlier <+: done)
    (hshown : ((fresh s).run setup earlier).state.stored = some token) :
    ((fresh s).run setup done).state.store.IsSteady := by
  obtain ⟨rest, rfl⟩ := hearlier
  induction rest using List.reverseRecOn with
  | nil =>
    rw [List.append_nil]
    exact Store.isSteady_of_shown hshown
  | append_singleton rest move ih =>
    rw [← List.append_assoc] at hdone ⊢
    have hsteady := ih ((List.prefix_append _ _).trans hdone)
    exact (turn_stores "" hdone hsteady).1

/-- A token that is shown again has been stored again. -/
theorem stored_again {later : List Move} {text : String} (hdone : done <+: moves)
    (hlater : later <+: done)
    (hsteady : ∀ between, later <+: between → between <+: moves →
      ((fresh s).run setup between).state.store.IsSteady)
    (hgone : ((fresh s).run setup later).state.bearer ≠ some text)
    (hback : ((fresh s).run setup done).state.bearer = some text) :
    ∃ before again i op turn, later <+: before ∧ before ++ [again] <+: done ∧
      Takes setup (fresh s) moves before again i op turn ∧ Stores setup op turn text ∧
      ((fresh s).run setup before).state.bearer ≠ some text ∧
      ((fresh s).run setup (before ++ [again])).state.bearer = some text := by
  obtain ⟨rest, rfl⟩ := hlater
  -- The last move before which the token is not shown is the one that stores it.
  induction rest using List.reverseRecOn with
  | nil =>
    rw [List.append_nil] at hback
    exact absurd hback hgone
  | append_singleton rest move ih =>
    rw [← List.append_assoc] at hdone hback ⊢
    have hrest := (List.prefix_append (later ++ rest) [move]).trans hdone
    by_cases hshown : ((fresh s).run setup (later ++ rest)).state.bearer = some text
    · obtain ⟨before, again, i, op, turn, hfrom, hto, hfound⟩ := ih hrest hshown
      exact ⟨before, again, i, op, turn, hfrom, hto.trans (List.prefix_append _ _), hfound⟩
    · have hs := hsteady (later ++ rest) (List.prefix_append later rest) hrest
      obtain ⟨i, op, turn, htakes, hstores⟩ := (turn_stores text hdone hs).2 hshown hback
      exact ⟨later ++ rest, move, i, op, turn, List.prefix_append later rest,
        List.prefix_refl _, htakes, hstores, hshown, hback⟩

/-- Whatever is done by whomever and in whatever order, a request carries the token that is stored
    at the moment in which it goes out, and no token if there is none: each move asks for one thing
    at the most, at its very end. So a token that was stored once and is not stored any more is sent
    again only after a turn has stored it again. -/
theorem requests_carry_stored_token (setup : Setup) (s : State) (moves : List Move) :
    let house := fresh s
    (∀ done move, done ++ [move] <+: moves →
      let before := (house.run setup done).state
      let after := (house.run setup (done ++ [move])).state
      Unasked before after ∨
        ∃ i q, house.Issues setup done move i q ∧
          Record.get? q.headers "Authorization" = after.bearer.map ("Bearer " ++ ·)) ∧
    ∀ earlier later done move i q text, earlier <+: later → later <+: done →
      done ++ [move] <+: moves → (house.run setup earlier).state.bearer = some text →
      (house.run setup later).state.bearer ≠ some text → house.Issues setup done move i q →
      Record.get? q.headers "Authorization" = some ("Bearer " ++ text) →
      ∃ before again j op turn, later <+: before ∧ before ++ [again] <+: done ++ [move] ∧
        Takes setup house moves before again j op turn ∧ Stores setup op turn text ∧
        (house.run setup before).state.bearer ≠ some text ∧
        (house.run setup (before ++ [again])).state.bearer = some text := by
  intro house
  refine ⟨fun done move _ => ?_, ?_⟩
  · intro before after
    rcases issues_of_move setup s done move with h | ⟨i, q, hissues, hq⟩
    · exact .inl h
    · refine .inr ⟨i, q, hissues, ?_⟩
      rw [headers_authorization, hq, State.bearer, Option.map_map]
      rfl
  · intro earlier later done move i q text hlater hdone hmoves hstored hgone hissues hsent
    obtain ⟨token, hstored, -⟩ := Option.map_eq_some_iff.1 hstored
    have hback := hissues.bearer hsent
    refine stored_again hmoves (hdone.trans (List.prefix_append done [move])) ?_ hgone hback
    exact fun between hfrom hto => steady_of_run hto (hlater.trans hfrom) hstored

/-- The token is removed and stored again, and then a call is made. -/
def storedAgain : List Move :=
  [.start .removeToken, .start (.setToken (.str "a")),
    .start (.call ⟨"GET", "/v1/secrets", .null, .null⟩ false)]

/-- The request of that call carries the token, since a turn has stored it again. -/
theorem requests_carry_stored_token_again :
    let house := openedWith "a"
    (house.run .default []).state.bearer = some "a" ∧
      (house.run .default (storedAgain.take 1)).state.bearer ≠ some "a" ∧
      ∃ i q, house.Issues .default (storedAgain.take 2) storedAgain[2] i q ∧
        Record.get? q.headers "Authorization" = some ("Bearer " ++ "a") ∧
        ∃ before again j op turn, storedAgain.take 1 <+: before ∧
          before ++ [again] <+: storedAgain ∧
          Takes .default house storedAgain before again j op turn ∧
          Stores .default op turn "a" := by
  intro house
  have hstored : (house.run .default []).state.bearer = some "a" := by decide +kernel
  have hgone : (house.run .default (storedAgain.take 1)).state.bearer ≠ some "a" := by
    decide +kernel
  have hback : (house.run .default storedAgain).state.bearer = some "a" := by decide +kernel
  have hasked : ((house.run .default storedAgain).state.journal.any Event.isRequest) := by
    decide +kernel
  have hquiet : ((house.run .default (storedAgain.take 2)).state.journal.any Event.isRequest) =
      false := by decide +kernel
  unfold house openedWith opened at hstored hgone hback hasked hquiet ⊢
  obtain ⟨hcarry, hagain⟩ := requests_carry_stored_token .default _ storedAgain
  rcases hcarry (storedAgain.take 2) storedAgain[2] (List.prefix_refl _) with
    ⟨es, hjournal, hes⟩ | ⟨i, q, hissues, hsent⟩
  · have hsame : storedAgain.take 2 ++ [storedAgain[2]] = storedAgain := rfl
    rw [hsame] at hjournal
    rw [hjournal, List.any_append, hquiet, Bool.or_false] at hasked
    obtain ⟨e, he, hrequest⟩ := List.any_eq_true.1 hasked
    rw [hes e he] at hrequest
    cases hrequest
  · rw [show storedAgain.take 2 ++ [storedAgain[2]] = storedAgain from rfl, hback] at hsent
    refine ⟨hstored, hgone, i, q, hissues, hsent, ?_⟩
    obtain ⟨before, again, j, op, turn, hfrom, hto, htakes, hstores, -⟩ :=
      hagain [] (storedAgain.take 1) (storedAgain.take 2) storedAgain[2] i q "a"
        (List.nil_prefix) ⟨[.start (.setToken (.str "a"))], rfl⟩ (List.prefix_refl _) hstored hgone
        hissues hsent
    exact ⟨before, again, j, op, turn, hfrom, hto, htakes, hstores⟩

end Pool

end Gatehouse
