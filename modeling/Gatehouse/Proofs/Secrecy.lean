import Gatehouse.Proofs.Running
import Gatehouse.Proofs.Twinning

/-! Secrets stay secret. Two courses of events that differ in nothing but bearer tokens and payloads
    cannot be told apart by what the user is shown, by what is logged, by how the gate decides, or
    by where the visitor comes; and their requests differ in the credential and the body only. Every
    move keeps both sides twins, so they are twins at all times. -/

namespace Gatehouse

variable {setup : Setup}

/-! ### Operations -/

/-- Two operations that are the same, or that differ in a token or in the payload of a call. -/
inductive Operation.Twin : Operation → Operation → Prop
  | same (op : Operation) : Twin op op
  | call {c c'} (notify : Bool) : c.Twin c' → Twin (.call c notify) (.call c' notify)
  | send {c c'} : c.Twin c' → Twin (.send c) (.send c')
  | endpoint (e : Endpoint) {args args'} : Option.Rel Call.Twin (e.call? args) (e.call? args') →
      Twin (.endpoint e args) (.endpoint e args')
  | signIn {username password username' password'} :
      (Visit.loginCall username password).Twin (Visit.loginCall username' password') →
      Twin (.signIn username password) (.signIn username' password')
  | beginSession {v w} : v.TokenTwin w → Twin (.beginSession v) (.beginSession w)
  | setToken {v w} : v.TokenTwin w → Twin (.setToken v) (.setToken w)

/-- Work that makes twins of twins, whatever it gives: its caller may well be given a token. -/
structure Job.Alike (setup : Setup) {α : Type} (work work' : Job α) : Prop where
  twin : ∀ s s', s.Twin s' → (work s).Twin setup (fun _ _ => True) (work' s')

namespace Job.Alike

variable {α β : Type} {V : α → α → Prop} {work work' : Job α}

/-- What the caller is given need not be compared any more. -/
theorem of_twin (h : Job.Twin setup V work work') : Job.Alike setup work work' :=
  ⟨fun s s' hs => (h.twin s s' hs).mono fun _ _ _ => trivial⟩

/-- Nor need what is made of it, even where that is a fault. -/
theorem thenGives (h : Job.Twin setup V work work') (give give' : α → Except Fault β) :
    Job.Alike setup (work >>= fun a => Flow.ofExcept (give a))
      (work' >>= fun a => Flow.ofExcept (give' a)) := by
  refine ⟨fun s s' hs => (h.twin s s' hs).andThen ?_⟩
  rintro _ _ t t' (f | ha) ht
  · exact .ended ht trivial
  · simp only [Flow.ofExcept_apply]
    exact .ended ht trivial

theorem giving (h : Job.Twin setup V work work') (give give' : α → β) :
    Job.Alike setup (work >>= fun a => pure (give a)) (work' >>= fun a => pure (give' a)) :=
  thenGives h (fun a => .ok (give a)) fun a => .ok (give' a)

end Job.Alike

namespace Operation

variable {c c' : Call}

theorem call_alike (notify : Bool) (h : c.Twin c') :
    Job.Alike setup (run setup (.call c notify)) (run setup (.call c' notify)) :=
  .giving (Setup.call_twin h notify) ..

theorem send_alike (h : c.Twin c') :
    Job.Alike setup (run setup (.send c)) (run setup (.send c')) :=
  .giving (Setup.send_twin h) ..

theorem endpoint_alike (e : Endpoint) {args args' : List Json}
    (h : Option.Rel Call.Twin (e.call? args) (e.call? args')) :
    Job.Alike setup (run setup (.endpoint e args)) (run setup (.endpoint e args')) :=
  .thenGives (Endpoint.send_twin h) ..

/-- An operation makes twins of twins. -/
theorem same_alike (op : Operation) : Job.Alike setup (run setup op) (run setup op) := by
  have hjudge : ∀ e : Except Fault Route, Job.Twin setup Eq
      (do
        let route ← Flow.ofExcept e
        return Value.decision (← setup.judge route).decision)
      (do
        let route ← Flow.ofExcept e
        return Value.decision (← setup.judge route).decision) :=
    fun e => .bind_eq (.ofExcept_self e) fun route =>
      .bind (Setup.judge_twin route) fun _ _ h => .pure (congrArg _ h.decision.symm)
  cases op with
  | call c notify => exact call_alike notify (.refl c)
  | send c => exact send_alike (.refl c)
  | endpoint e args =>
    refine endpoint_alike e ?_
    cases e.call? args with
    | none => exact .none
    | some c => exact .some (.refl c)
  | walk path => exact .giving (Setup.walk_twin path) ..
  | judgePath path => exact .of_twin (hjudge _)
  | judgeRoute data => exact .of_twin (hjudge _)
  | signIn username password => exact .giving (Visit.signIn_twin (.refl _)) ..
  | signOut => exact .giving Visit.signOut_twin ..
  | beginSession token => exact .giving (.signIn (.same token) _) ..
  | endSession => exact .giving .signOut ..
  | setUser data =>
    exact .of_twin (.bind_eq (.ofExcept_self _) fun user => .bind_eq (.setUser user) fun _ =>
      .pure rfl)
  | clearUser => exact .giving .clearUser ..
  | setToken token => exact .giving (.setToken (.same token) _) ..
  | getToken => exact .giving .token ..
  | hasToken => exact .giving .hasToken ..
  | removeToken => exact .giving .removeToken ..
  | clearStore => exact .giving .clear ..
  | start => exact .giving Visit.start_twin ..
  | close => exact .giving Visit.close_twin ..
  | connect => exact .giving (.connect _) ..
  | disconnect => exact .giving (.connect _) ..
  | cut =>
    refine .of_twin (V := Eq) (.bind_eq (.read fun s s' hs => by rw [hs.connections]) ?_)
    intro held
    dsimp only
    split
    · exact .stop_bind ..
    · exact .bind_eq (.connect _) fun _ => .pure rfl
  | current => exact .giving (V := Eq) (.read fun s s' hs => by rw [hs.navigation]) ..
  | settings => exact .of_twin (.pure rfl)
  | describe subject => exact .giving (V := fun _ _ => True) (.read fun _ _ _ => trivial) ..

/-- Operations that differ in no more than a token or a payload make twins of twins. -/
theorem run_alike {op op' : Operation} (h : op.Twin op') :
    Job.Alike setup (op.run setup) (op'.run setup) := by
  cases h with
  | same => exact same_alike op
  | call notify h => exact call_alike notify h
  | send h => exact send_alike h
  | endpoint e h => exact endpoint_alike e h
  | signIn h => exact .giving (Visit.signIn_twin h) ..
  | beginSession h => exact .giving (.signIn h _) ..
  | setToken h => exact .giving (.setToken h _) ..

end Operation

/-! ### Operations side by side -/

/-- Two operations that have come equally far. -/
inductive Stage.Twin (setup : Setup) : Stage → Stage → Prop
  | ended (result result' : Except Fault Value) : Twin setup (.over result) (.over result')
  | waiting {q q' resume resume'} : q.Twin q' →
      (∀ r r' t t', r.TwinFor setup q r' → t.Twin t' →
        (resume r t).Twin setup (fun _ _ => True) (resume' r' t')) →
      Twin setup (.waiting q resume) (.waiting q' resume')

/-- Two pools that are the same but for secrets. -/
structure Pool.Twin (setup : Setup) (p p' : Pool) : Prop where
  state : p.state.Twin p'.state
  stages : List.Forall₂ (Stage.Twin setup) p.stages p'.stages

/-- Two moves that are the same but for secrets: they start operations that differ in no more than a
    token or a payload, or let replies come in that differ in no more than the token of a login. -/
inductive Move.Twin (setup : Setup) (p : Pool) : Move → Move → Prop
  | start {op op'} : op.Twin op' → Twin setup p (.start op) (.start op')
  | reply (i : Nat) {r r'} : (∀ q, p.request? i = some q → r.TwinFor setup q r') →
      Twin setup p (.reply i r) (.reply i r')

/-- Two courses of events from a pool on, the second from a twin of it, that are move by move the
    same but for secrets. -/
inductive TwinCourses (setup : Setup) : Pool → List Move → List Move → Prop
  | nil (p : Pool) : TwinCourses setup p [] []
  | cons {p move move' moves moves'} : move.Twin setup p move' →
      TwinCourses setup (p.step setup move) moves moves' →
      TwinCourses setup p (move :: moves) (move' :: moves')

/-- Where work comes to a stop the states are twins, and what is waited for are replies to twin
    requests. -/
theorem Progress.Twin.split {p p' : Progress State (Except Fault Value)}
    (h : p.Twin setup (fun _ _ => True) p') :
    (Pool.split p).1.Twin (Pool.split p').1 ∧ (Pool.split p).2.Twin setup (Pool.split p').2 := by
  cases h with
  | ended hs => exact ⟨hs, .ended ..⟩
  | waits hs hq hresume => exact ⟨hs, .waiting hq hresume⟩

section Lists

variable {α β : Type} {R : α → β → Prop} {l : List α} {l' : List β}

theorem forall₂_getElem? (h : List.Forall₂ R l l') (i : Nat) : Option.Rel R l[i]? l'[i]? := by
  induction h generalizing i with
  | nil => exact .none
  | cons hab _ ih =>
    cases i with
    | zero => exact .some hab
    | succ i => exact ih i

theorem forall₂_set (h : List.Forall₂ R l l') (i : Nat) {a : α} {b : β} (hab : R a b) :
    List.Forall₂ R (l.set i a) (l'.set i b) := by
  induction h generalizing i with
  | nil => exact .nil
  | cons hcd hrest ih =>
    cases i with
    | zero => exact .cons hab hrest
    | succ i => exact .cons hcd (ih i)

end Lists

namespace Pool.Twin

variable {p p' : Pool}

/-- Every move keeps twins twins. -/
theorem step (h : p.Twin setup p') {move move' : Move} (hmove : move.Twin setup p move') :
    (p.step setup move).Twin setup (p'.step setup move') := by
  cases hmove with
  | start hop =>
    obtain ⟨hstate, hstage⟩ := ((Operation.run_alike hop).twin _ _ h.state).split
    exact ⟨hstate, List.rel_append h.stages (.cons hstage .nil)⟩
  | @reply i r r' hr =>
    have hstages := forall₂_getElem? h.stages i
    simp only [Pool.step, Pool.reply]
    generalize hp : p.stages[i]? = stage, p'.stages[i]? = stage' at hstages
    -- nobody but a waiting operation takes notice of a reply
    rcases hstages with (⟨_, _⟩ | @⟨q, q', resume, resume', -, hresume⟩) | _
    · exact h
    · have hr := hr q (by simp [request?, hp])
      obtain ⟨hstate, hstage⟩ := (hresume r r' _ _ hr h.state).split
      exact ⟨hstate, forall₂_set h.stages i hstage⟩
    · exact h

/-- Twins are twins at all times. -/
theorem run (h : p.Twin setup p') {moves moves' : List Move}
    (hmoves : TwinCourses setup p moves moves') :
    (p.run setup moves).Twin setup (p'.run setup moves') := by
  induction hmoves generalizing p' with
  | nil => exact h
  | cons hmove _ ih => exact ih (h.step hmove)

end Pool.Twin

/-! ### What is shown -/

namespace Journal

/-- The log rows and the notices in their common order, the earliest first. -/
def notes (j : Journal) : List (LogRow ⊕ Notice) :=
  j.reverse.filterMap fun
    | .logged row => some (.inl row)
    | .noticed notice => some (.inr notice)
    | _ => none

/-- The decisions of the gate, each with the route that it is about, the earliest first. -/
def decisions (j : Journal) : List (Route × Decision) :=
  j.reverse.filterMap fun
    | .judged verdict => some (verdict.route, verdict.decision)
    | _ => none

variable {j j' : Journal} (h : List.Forall₂ Event.Twin j j')

include h

/-- What shows no secret of an event shows none of a journal. -/
theorem filterMap_twin {α : Type} {f : Event → Option α} (hf : ∀ e e', e.Twin e' → f e' = f e) :
    j'.reverse.filterMap f = j.reverse.filterMap f := by
  have hreverse := List.rel_reverse h
  generalize j.reverse = es, j'.reverse = es' at hreverse
  induction hreverse with
  | nil => rfl
  | cons he _ ih => simp only [List.filterMap_cons, hf _ _ he, ih]

theorem notes_twin : j'.notes = j.notes := filterMap_twin h fun _ _ he => by cases he <;> rfl

theorem rows_twin : j'.rows = j.rows := filterMap_twin h fun _ _ he => by cases he <;> rfl

theorem notices_twin : j'.notices = j.notices := filterMap_twin h fun _ _ he => by cases he <;> rfl

theorem decisions_twin : j'.decisions = j.decisions := by
  refine filterMap_twin h fun _ _ he => ?_
  cases he with
  | judged hv => simp only [hv.route, hv.decision]
  | _ => rfl

theorem requests_twin : List.Forall₂ Request.Twin j.requests j'.requests := by
  refine List.rel_filterMap (fun {e e'} he => ?_) (List.rel_reverse h)
  cases he with
  | same =>
    cases e with
    | requested q => exact .some (.refl q)
    | _ => exact .none
  | requested hq => exact .some hq
  | _ => exact .none

end Journal

namespace Pool

/-- Houses that are opened over memories with the same token, or each with some token, are twins. -/
theorem twin_opened {slots slots' : Record Json} {slot : String}
    (hslots : Option.Rel Json.TokenTwin (slots.get? slot) (slots'.get? slot))
    (rows : List LogRow) (connections : Connections) :
    (opened (.memory slots) slot rows connections).Twin setup
      (opened (.memory slots') slot rows connections) := by
  refine ⟨State.Twin.after_seed ?_, .nil⟩
  exact ⟨⟨slots, slots', rfl, rfl, hslots⟩, rfl, rfl, rfl, rfl, rfl,
    List.forall₂_same.2 fun e _ => .same e⟩

/-- Tokens and payloads reach neither the log nor the user. Two courses of events from houses over
    memories on, which differ in nothing but bearer tokens and payloads, lead to the same log rows
    and notices, to the same decisions of the gate, and to the same place; and their requests differ
    in nothing but the credential and the text of the body. -/
theorem secrets_stay_secret {slots slots' : Record Json} {slot : String} {rows : List LogRow}
    {connections : Connections} {moves moves' : List Move}
    (hslots : Option.Rel Json.TokenTwin (slots.get? slot) (slots'.get? slot))
    (hmoves : TwinCourses setup (opened (.memory slots) slot rows connections) moves moves') :
    let s := ((opened (.memory slots) slot rows connections).run setup moves).state
    let s' := ((opened (.memory slots') slot rows connections).run setup moves').state
    s'.journal.rows = s.journal.rows ∧ s'.journal.notices = s.journal.notices ∧
      s'.journal.notes = s.journal.notes ∧ s'.journal.decisions = s.journal.decisions ∧
      s'.navigation = s.navigation ∧
      List.Forall₂ Request.Twin s.journal.requests s'.journal.requests := by
  intro s s'
  have hs : s.Twin s' := ((twin_opened hslots rows connections).run hmoves).state
  exact ⟨Journal.rows_twin hs.journal, Journal.notices_twin hs.journal,
    Journal.notes_twin hs.journal, Journal.decisions_twin hs.journal, hs.navigation,
    Journal.requests_twin hs.journal⟩

/-- Someone signs in and is granted a token. -/
def signingIn (username password token : String) : List Move :=
  [.start (.signIn (.str username) (.str password)),
    .reply 0 (.success ("\x7b\"token\":\"" ++ token ++ "\"\x7d"))]

theorem twinCourses_signingIn :
    TwinCourses .default (openedWith "a") (signingIn "u" "p" "c") (signingIn "v" "q" "d") := by
  have hlogin : Operation.Twin (.signIn (.str "u") (.str "p")) (.signIn (.str "v") (.str "q")) := by
    refine .signIn ⟨rfl, rfl, .written ?_ ?_ ?_ ?_, rfl⟩
    · simp [Visit.loginCall]
    · simp [Visit.loginCall]
    · decide +kernel
    · decide +kernel
  have hreply : Reply.Twin (.success "\x7b\"token\":\"c\"\x7d")
      (.success "\x7b\"token\":\"d\"\x7d") := by
    refine .tokens [("code", .int 200)] [] (show "c" ≠ "" by decide) (show "d" ≠ "" by decide) ?_ ?_
    · rfl
    · rfl
  have hasked : (((openedWith "a").step .default (.start (.signIn (.str "u") (.str "p")))).request?
      0).map (fun q => (q.method, q.url)) =
        some ("POST", Service.url Setup.default.settings "/v1/auth/login") := by decide +kernel
  refine .cons (.start hlogin) (.cons (.reply 0 fun q hq => .inr ⟨?_, hreply⟩) (.nil _))
  rw [hq] at hasked
  exact Prod.mk.inj (Option.some.inj hasked)

/-- Two visitors sign in at two houses, each with a password and for a token of their own; the log
    does not tell which is which. -/
theorem secrets_stay_secret_signingIn :
    let moves := signingIn "u" "p" "c"
    let moves' := signingIn "v" "q" "d"
    let s := ((openedWith "a").run .default moves).state
    let s' := ((openedWith "b").run .default moves').state
    TwinCourses .default (openedWith "a") moves moves' ∧
      s.stored.bind Json.text? = some "c" ∧ s'.stored.bind Json.text? = some "d" ∧
      s'.journal.rows = s.journal.rows ∧ s'.journal.notices = s.journal.notices ∧
      s'.journal.notes = s.journal.notes ∧ s'.journal.decisions = s.journal.decisions ∧
      s'.navigation = s.navigation ∧
      List.Forall₂ Request.Twin s.journal.requests s'.journal.requests := by
  have hslots : Option.Rel Json.TokenTwin
      (Record.get? [(Store.tokenSlot, .str "a")] Store.tokenSlot)
      (Record.get? [(Store.tokenSlot, .str "b")] Store.tokenSlot) :=
    .some (.texts (by decide) (by decide))
  have hstored : (((openedWith "a").run .default (signingIn "u" "p" "c")).state.stored.bind
      Json.text?) = some "c" := by decide +kernel
  have hstored' : (((openedWith "b").run .default (signingIn "v" "q" "d")).state.stored.bind
      Json.text?) = some "d" := by decide +kernel
  have hsame := secrets_stay_secret hslots twinCourses_signingIn
  refine ⟨twinCourses_signingIn, hstored, hstored', ?_⟩
  -- opened by hand: to see that both are the same houses, Lean would run them
  unfold openedWith
  exact hsame

end Pool

end Gatehouse
