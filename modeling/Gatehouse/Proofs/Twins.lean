import Mathlib.Data.List.Forall2
import Gatehouse.Proofs.Memory

/-! Two runs beside each other. They are twins as long as they differ in nothing but secrets: in the
    texts of bearer tokens and in payloads. Twins take the same way whatever they do: work that does
    not look into a secret makes twins of twins, and one lemma for each way of putting work together
    carries that from the parts to the whole. -/

namespace Gatehouse

/-! ### Secrets -/

/-- Two values of which nobody knows more than that they are the same, or both a text with something
    in it. -/
inductive Json.TokenTwin : Json → Json → Prop
  | same (v : Json) : TokenTwin v v
  | texts {a b : String} : a ≠ "" → b ≠ "" → TokenTwin (.str a) (.str b)

/-- Two payloads that are the same, or are both there and can be written. -/
inductive Json.PayloadTwin : Json → Json → Prop
  | same (v : Json) : PayloadTwin v v
  | written {v w : Json} : v ≠ .null → w ≠ .null → (Json.document? v).isSome →
      (Json.document? w).isSome → PayloadTwin v w

/-- Two values that are the same, or records that differ in a token. -/
inductive Json.GrantTwin : Json → Json → Prop
  | same (v : Json) : GrantTwin v v
  | tokens (r : Record Json) {a b : String} : a ≠ "" → b ≠ "" →
      GrantTwin (.obj (r.put "token" (.str a))) (.obj (r.put "token" (.str b)))

/-! ### What passes between the client and the service -/

/-- Two calls that differ in their payloads only. -/
structure Call.Twin (c c' : Call) : Prop where
  method : c'.method = c.method
  path : c'.path = c.path
  payload : c.payload.PayloadTwin c'.payload
  params : c'.params = c.params

/-- Two requests that differ in the credential and in the body only; neither is in one and not in
    the other. -/
structure Request.Twin (q q' : Request) : Prop where
  method : q'.method = q.method
  url : q'.url = q.url
  credential : Option.Rel Json.TokenTwin q.credential q'.credential
  body : q'.body.isSome = q.body.isSome
  params : q'.params = q.params
  timeout : q'.timeout = q.timeout

/-- Whether a request is that of a login. -/
def Request.IsLogin (setup : Setup) (q : Request) : Prop :=
  q.method = "POST" ∧ q.url = Service.url setup.settings "/v1/auth/login"

/-- Two replies with the same status and with documents that differ in the token of their data. -/
inductive Reply.Twin : Reply → Reply → Prop
  | tokens {status : Int} {body body' : ByteArray} {room : ℕ} (fields data : Record Json)
      {a b : String} : a ≠ "" → b ≠ "" →
      Json.Dialect.document.readBytes? body =
        some (.obj (fields.put "data" (.obj (data.put "token" (.str a))))) →
      Json.Dialect.document.readBytes? body' =
        some (.obj (fields.put "data" (.obj (data.put "token" (.str b))))) →
      Twin (.received status body room) (.received status body' room)

/-- Two replies to a request are the same, or the request is that of a login and they differ in the
    token. -/
def Reply.TwinFor (setup : Setup) (q : Request) (r r' : Reply) : Prop :=
  r = r' ∨ q.IsLogin setup ∧ r.Twin r'

/-- Two answers that are the same, or both data that differ in a token. -/
inductive Answer.Twin : Answer → Answer → Prop
  | same (a : Answer) : Twin a a
  | data {v w : Json} : v.GrantTwin w → Twin (.data v) (.data w)

theorem Answer.Twin.failure? {a a' : Answer} (h : a.Twin a') : a'.failure? = a.failure? := by
  cases h <;> rfl

/-! ### What has happened -/

/-- Two verdicts with the same decision on the same route, for the same reasons. -/
structure Verdict.Twin (v v' : Verdict) : Prop where
  route : v'.route = v.route
  token : Option.Rel Json.TokenTwin v.token v'.token
  user : v'.user = v.user
  pin : v'.pin = v.pin
  decision : v'.decision = v.decision

/-- Two events that are the same but for secrets. -/
inductive Event.Twin : Event → Event → Prop
  | same (e : Event) : Twin e e
  | requested {q q'} : q.Twin q' → Twin (.requested q) (.requested q')
  | judged {v v'} : v.Twin v' → Twin (.judged v) (.judged v')
  | entered (path) {t t'} : Option.Rel Json.TokenTwin t t' →
      Twin (.entered path t) (.entered path t')

/-- Two stores in memory whose slots for the token are the same but for the token. -/
def Store.Twin (slot : String) (store store' : Store) : Prop :=
  ∃ slots slots', store = .memory slots ∧ store' = .memory slots' ∧
    Option.Rel Json.TokenTwin (slots.get? slot) (slots'.get? slot)

/-- Two states that are the same but for secrets. -/
structure State.Twin (s s' : State) : Prop where
  store : Store.Twin s.slot s.store s'.store
  slot : s'.slot = s.slot
  token : s'.session.token.isSome = s.session.token.isSome
  user : s'.session.user = s.session.user
  connections : s'.connections = s.connections
  navigation : s'.navigation = s.navigation
  journal : List.Forall₂ Event.Twin s.journal s'.journal

namespace Json.TokenTwin

variable {v w : Json}

/-- A secret text is never empty, so both tokens count as present or neither does. -/
theorem isPresent (h : v.TokenTwin w) : w.isPresent = v.isPresent := by
  cases h with
  | same => rfl
  | @texts a b ha hb =>
    show (b != "") = (a != "")
    rw [bne_iff_ne.2 ha, bne_iff_ne.2 hb]

theorem present? (h : v.TokenTwin w) : Option.Rel TokenTwin v.present? w.present? := by
  unfold Json.present?
  rw [h.isPresent]
  split
  · exact .some h
  · exact .none

/-- Twin tokens are stored as twin texts. -/
theorem display (h : v.TokenTwin w) : (str v.display).TokenTwin (str w.display) := by
  cases h with
  | same => exact .same _
  | texts ha hb => exact .texts ha hb

/-- Texts can always be shown, so the same stands in the way of both tokens if anything does. -/
theorem shown_error (h : v.TokenTwin w) {room : ℕ} {o : Json.Obstacle}
    (hv : v.shown room = .error o) : w.shown room = .error o := by
  cases h with
  | same => exact hv
  | texts => cases hv

theorem shown_ok (h : v.TokenTwin w) {room : ℕ} {text : String} (hv : v.shown room = .ok text) :
    ∃ text', w.shown room = .ok text' := by
  cases h with
  | same => exact ⟨text, hv⟩
  | @texts a b => exact ⟨b, rfl⟩

theorem option_refl (t : Option Json) : Option.Rel TokenTwin t t := by
  cases t with
  | none => exact .none
  | some v => exact .some (.same v)

/-- Whether there is a token is no secret. -/
theorem isSome {t t' : Option Json} (h : Option.Rel TokenTwin t t') : t'.isSome = t.isSome := by
  cases h <;> rfl

end Json.TokenTwin

theorem Request.Twin.refl (q : Request) : q.Twin q :=
  ⟨rfl, rfl, Json.TokenTwin.option_refl _, rfl, rfl, rfl⟩

/-! ### Twin states -/

namespace Store.Twin

variable {slot : String} {store store' : Store}

theorem inMemory (h : store.Twin slot store') : store.InMemory ∧ store'.InMemory := by
  obtain ⟨slots, slots', rfl, rfl, -⟩ := h
  exact ⟨⟨slots, rfl⟩, ⟨slots', rfl⟩⟩

theorem removeToken (h : store.Twin slot store') :
    (store.removeToken slot).store.Twin slot (store'.removeToken slot).store := by
  obtain ⟨slots, slots', rfl, rfl, -⟩ := h
  obtain ⟨left, hleft, hremoved⟩ := removeToken_memory slots slot
  obtain ⟨left', hleft', hremoved'⟩ := removeToken_memory slots' slot
  rw [hremoved, hremoved']
  exact ⟨left, left', rfl, rfl, by rw [hleft, hleft']; exact .none⟩

/-- A store refuses both tokens or neither. -/
theorem setToken (h : store.Twin slot store') {v w : Json} (hvw : v.TokenTwin w) (room : ℕ) :
    (store.setToken room slot v).store.Twin slot (store'.setToken room slot w).store ∧
      (store'.setToken room slot w).result = (store.setToken room slot v).result := by
  obtain ⟨slots, slots', rfl, rfl, hslots⟩ := h
  cases hv : v.isPresent with
  | true =>
    have hw := hvw.isPresent.trans hv
    cases hshown : v.shown room with
    | error o =>
      rw [setToken_memory_unshown hv hshown, setToken_memory_unshown hw (hvw.shown_error hshown)]
      exact ⟨⟨_, _, rfl, rfl, hslots⟩, rfl⟩
    | ok text =>
      obtain ⟨text', hshown'⟩ := hvw.shown_ok hshown
      rw [setToken_memory hv hshown, setToken_memory hw hshown']
      exact ⟨⟨_, _, rfl, rfl, by simpa using Option.Rel.some hvw.display⟩, rfl⟩
  | false =>
    have hw := hvw.isPresent.trans hv
    simp only [Store.setToken, hv, hw]
    exact ⟨⟨_, _, rfl, rfl, hslots⟩, rfl⟩

end Store.Twin

namespace State.Twin

variable {s s' : State}

theorem inMemory (h : s.Twin s') : s.store.InMemory ∧ s'.store.InMemory := h.store.inMemory

/-- What is stored in twin states are twin tokens, or none in both. -/
theorem stored (h : s.Twin s') : Option.Rel Json.TokenTwin s.stored s'.stored := by
  obtain ⟨slots, slots', hs, hs', hslots⟩ := h.store
  rw [stored_memory hs, stored_memory hs', h.slot]
  generalize slots.get? s.slot = found, slots'.get? s.slot = found' at hslots
  cases hslots with
  | none => exact .none
  | some htwin => exact htwin.present?

theorem isAuthenticated (h : s.Twin s') :
    s'.session.isAuthenticated = s.session.isAuthenticated := h.token

/-- The user may be shown: there is one where a session holds some token, whichever it is. -/
theorem currentUser (h : s.Twin s') : s'.session.currentUser = s.session.currentUser := by
  simp only [Session.currentUser, h.isAuthenticated, h.user]

theorem noting (h : s.Twin s') {es es' : List Event} (hes : List.Forall₂ Event.Twin es es') :
    (s.noting es).Twin (s'.noting es') :=
  ⟨h.store, h.slot, h.token, h.user, h.connections, h.navigation,
    List.rel_append hes h.journal⟩

/-- Events that hold no secret may be added to both journals. -/
theorem noting_same (h : s.Twin s') (es : List Event) : (s.noting es).Twin (s'.noting es) :=
  h.noting (List.forall₂_same.2 fun e _ => .same e)

/-- A new store and a new session are all that work at the desk leaves behind, apart from events. -/
theorem holding (h : s.Twin s') {store store' : Store} {session session' : Session}
    (hstore : store.Twin s.slot store') (htoken : session'.token.isSome = session.token.isSome)
    (huser : session'.user = session.user) :
    (s.holding store session).Twin (s'.holding store' session') :=
  ⟨hstore, h.slot, htoken, huser, h.connections, h.navigation, h.journal⟩

theorem after_removeToken (h : s.Twin s') :
    (s.after Desk.removeToken).Twin (s'.after Desk.removeToken) := by
  rw [after_removeToken_memory h.inMemory.1, after_removeToken_memory h.inMemory.2, h.slot]
  exact h.holding h.store.removeToken h.token h.user

/-- The end of a session is told in the same row in both states, for either both had one or none. -/
theorem after_signOut (h : s.Twin s') :
    (s.after Desk.signOut).Twin (s'.after Desk.signOut) := by
  rw [after_signOut_memory h.inMemory.1, after_signOut_memory h.inMemory.2, h.slot]
  have hfarewell : s'.farewell = s.farewell := by
    simp only [farewell, h.isAuthenticated]
  rw [hfarewell]
  exact (h.holding h.store.removeToken rfl rfl).noting_same _

theorem after_setToken (h : s.Twin s') {v w : Json} (hvw : v.TokenTwin w) (room : ℕ) :
    (s.after (Desk.setToken room v)).Twin (s'.after (Desk.setToken room w)) ∧
      s'.result (Desk.setToken room w) = s.result (Desk.setToken room v) := by
  obtain ⟨hstore, hresult⟩ := h.store.setToken hvw room
  rw [after_setToken_memory h.inMemory.1, after_setToken_memory h.inMemory.2, h.slot]
  refine ⟨h.holding hstore h.token h.user, ?_⟩
  show (s'.store.setToken room s'.slot w).result = (s.store.setToken room s.slot v).result
  rw [h.slot, hresult]

/-- A session that begins with one of two twin tokens is a twin of the other, and both begin or none
    does. -/
theorem after_signIn (h : s.Twin s') {v w : Json} (hvw : v.TokenTwin w) (room : ℕ) :
    (s.after (Desk.signIn room v)).Twin (s'.after (Desk.signIn room w)) ∧
      s'.result (Desk.signIn room w) = s.result (Desk.signIn room v) := by
  obtain ⟨htwin, hresult⟩ := h.after_setToken hvw room
  simp only [Desk.signIn, after_bind, result_bind, after_modify, result_modify, hresult]
  cases s.result (Desk.setToken room v) with
  | error f => exact ⟨htwin, rfl⟩
  | ok u =>
    have hbegun : ((s.after (Desk.setToken room v)).holding _ ⟨some v, none⟩).Twin
        ((s'.after (Desk.setToken room w)).holding _ ⟨some w, none⟩) :=
      htwin.holding htwin.store rfl rfl
    exact ⟨hbegun.noting_same [.logged ⟨.session, .info, "Session started"⟩], rfl⟩

theorem after_setUser (h : s.Twin s') (user : User) :
    (s.after (Desk.setUser user)).Twin (s'.after (Desk.setUser user)) := by
  simp only [Desk.setUser, after_bind, result_get, after_get]
  rw [h.isAuthenticated]
  split
  · exact h.holding h.store h.token rfl
  · exact h.noting_same
      [.logged ⟨.session, .debug, "Ignoring user snapshot for an anonymous session"⟩]

/-- A session that is read off the store has some token in both states or none. -/
theorem after_seed (h : s.Twin s') : (s.after Desk.seed).Twin (s'.after Desk.seed) := by
  obtain ⟨hs, hs'⟩ := h.inMemory
  simp only [Desk.seed, after_bind, after_modify, after_token_memory hs, after_token_memory hs',
    result_token_memory hs, result_token_memory hs']
  exact h.holding h.store (Json.TokenTwin.isSome h.stored) rfl

theorem after_clear (h : s.Twin s') :
    (s.after (Desk.access Store.clear)).Twin (s'.after (Desk.access Store.clear)) := by
  rw [after_clear_memory h.inMemory.1, after_clear_memory h.inMemory.2]
  exact h.holding ⟨[], [], rfl, rfl, .none⟩ h.token h.user

end State.Twin

/-! ### Twin work -/

/-- Two outcomes: the same fault, or two values of which more is known. -/
inductive Outcome.Twin {α : Type} (V : α → α → Prop) : Except Fault α → Except Fault α → Prop
  | error (f : Fault) : Twin V (.error f) (.error f)
  | ok {a a' : α} : V a a' → Twin V (.ok a) (.ok a')

theorem Outcome.Twin.refl {α : Type} (r : Except Fault α) : Outcome.Twin Eq r r := by
  cases r with
  | error f => exact .error f
  | ok a => exact .ok rfl

theorem Outcome.Twin.mono {α : Type} {V W : α → α → Prop} {r r' : Except Fault α}
    (h : Outcome.Twin V r r') (hVW : ∀ a a', V a a' → W a a') : Outcome.Twin W r r' := by
  cases h with
  | ok hV => exact .ok (hVW _ _ hV)
  | error f => exact .error f

/-- Work that has come equally far in twin states, with results of which more is known. Where it
    waits, it does so for the replies to twin requests, and goes on with those that may differ no
    more than the requests allow. -/
inductive Progress.Twin (setup : Setup) {α : Type} (W : α → α → Prop) :
    Progress State α → Progress State α → Prop
  | ended {s s' a a'} : s.Twin s' → W a a' → Twin setup W (.ended s a) (.ended s' a')
  | waits {s s' q q' resume resume'} : s.Twin s' → q.Twin q' →
      (∀ r r' t t', r.TwinFor setup q r' → t.Twin t' → Twin setup W (resume r t) (resume' r' t')) →
      Twin setup W (.waits s q resume) (.waits s' q' resume')

/-- Work that makes twins of twins, with values of which more is known. -/
structure Job.Twin (setup : Setup) {α : Type} (V : α → α → Prop) (work work' : Job α) : Prop where
  twin : ∀ s s', s.Twin s' → (work s).Twin setup (Outcome.Twin V) (work' s')

namespace Progress.Twin

variable {setup : Setup} {α β : Type} {W : α → α → Prop} {p p' : Progress State α}

theorem mono {W' : α → α → Prop} (h : p.Twin setup W p') (hW : ∀ a a', W a a' → W' a a') :
    p.Twin setup W' p' := by
  induction h with
  | ended hs ha => exact .ended hs (hW _ _ ha)
  | waits hs hq _ ih => exact .waits hs hq ih

/-- Work in two parts comes equally far where both parts do. -/
theorem andThen {W' : β → β → Prop} {next next' : α → State → Progress State β}
    (h : p.Twin setup W p')
    (hnext : ∀ a a' t t', W a a' → t.Twin t' → (next a t).Twin setup W' (next' a' t')) :
    (p.andThen next).Twin setup W' (p'.andThen next') := by
  induction h with
  | ended hs ha => exact hnext _ _ _ _ ha hs
  | waits hs hq _ ih => exact .waits hs hq ih

end Progress.Twin

namespace Job.Twin

variable {setup : Setup} {α β : Type} {V V' : α → α → Prop} {U : β → β → Prop}
  {work work' : Job α}

theorem mono (h : Job.Twin setup V work work') (hV : ∀ a a', V a a' → V' a a') :
    Job.Twin setup V' work work' := by
  refine ⟨fun s s' hs => (h.twin s s' hs).mono ?_⟩
  rintro _ _ (f | ha)
  · exact .error f
  · exact .ok (hV _ _ ha)

theorem pure {a a' : α} (h : V a a') : Job.Twin setup V (Pure.pure a) (Pure.pure a') :=
  ⟨fun _ _ hs => .ended hs (.ok h)⟩

theorem stop (f : Fault) : Job.Twin setup V (Flow.stop f) (Flow.stop f) :=
  ⟨fun _ _ hs => .ended hs (.error f)⟩

/-- Nothing comes after a fault. -/
theorem stop_bind (f : Fault) (next next' : α → Job β) :
    Job.Twin setup U (Flow.stop f >>= next) (Flow.stop f >>= next') :=
  ⟨fun _ _ hs => .ended hs (.error f)⟩

theorem read {f : State → α} (h : ∀ s s', s.Twin s' → V (f s) (f s')) :
    Job.Twin setup V (Flow.read f) (Flow.read f) :=
  ⟨fun s s' hs => .ended hs (.ok (h s s' hs))⟩

theorem ofExcept {e e' : Except Fault α} (h : Outcome.Twin V e e') :
    Job.Twin setup V (Flow.ofExcept e) (Flow.ofExcept e') := by
  cases h with
  | error f => exact stop f
  | ok h => exact pure h

theorem ofExcept_self (e : Except Fault α) :
    Job.Twin setup Eq (Flow.ofExcept e) (Flow.ofExcept e) := ofExcept (.refl e)

theorem change {f f' : State → State} (h : ∀ s s', s.Twin s' → (f s).Twin (f' s')) :
    Job.Twin setup Eq (Flow.change f) (Flow.change f') :=
  ⟨fun s s' hs => .ended (h s s' hs) (.ok rfl)⟩

/-- Work at the desk takes no time, so it is enough to compare the states and the results after
    it. -/
theorem desk {work work' : Work α} (h : ∀ s s' : State, s.Twin s' →
    (s.after work).Twin (s'.after work') ∧ Outcome.Twin V (s.result work) (s'.result work')) :
    Job.Twin setup V (Job.desk work) (Job.desk work') :=
  ⟨fun s s' hs => .ended (h s s' hs).1 (h s s' hs).2⟩

theorem record {e e' : Event} (h : e.Twin e') :
    Job.Twin setup Eq (Job.record e) (Job.record e') :=
  desk fun _ _ hs => ⟨hs.noting (.cons h .nil), .ok rfl⟩

theorem log (source : Source) (level : Level) (text : String) :
    Job.Twin setup Eq (Job.log source level text) (Job.log source level text) :=
  record (.same _)

theorem announce (message : String) :
    Job.Twin setup Eq (setup.announce message) (setup.announce message) :=
  record (.same _)

/-- While both wait, the replies may differ as the requests allow. -/
theorem ask {q q' : Request} (h : q.Twin q') :
    Job.Twin setup (Reply.TwinFor setup q) (Flow.ask q) (Flow.ask q') :=
  ⟨fun _ _ hs => .waits hs h fun _ _ _ _ hr ht => .ended ht (.ok hr)⟩

/-- Twin work may go on differently with values that differ, as long as the rest is twin work
    again. -/
theorem bind {next next' : α → Job β} (h : Job.Twin setup V work work')
    (hnext : ∀ a a', V a a' → Job.Twin setup U (next a) (next' a')) :
    Job.Twin setup U (work >>= next) (work' >>= next') := by
  refine ⟨fun s s' hs => (h.twin s s' hs).andThen ?_⟩
  rintro _ _ t t' (f | ha) ht
  · exact .ended ht (.error f)
  · exact (hnext _ _ ha).twin t t' ht

/-- Goes on with the same value. -/
theorem bind_eq {next next' : α → Job β} (h : Job.Twin setup Eq work work')
    (hnext : ∀ a, Job.Twin setup U (next a) (next' a)) :
    Job.Twin setup U (work >>= next) (work' >>= next') :=
  bind h fun a _ ha => ha ▸ hnext a

/-- A fault is no secret, so its value may be looked at. -/
theorem outcome (h : Job.Twin setup V work work') :
    Job.Twin setup (Outcome.Twin V) work.outcome work'.outcome :=
  ⟨fun s s' hs => (h.twin s s' hs).andThen fun _ _ _ _ hr ht => .ended ht (.ok hr)⟩

/-- What is done in any case is done in both. -/
theorem followedBy {last last' : Job Unit} (h : Job.Twin setup V work work')
    (hlast : Job.Twin setup Eq last last') :
    Job.Twin setup V (work.followedBy last) (work'.followedBy last') :=
  bind h.outcome fun _ _ hr => bind_eq hlast fun _ => ofExcept hr

/-! Work at the desk -/

/-- Reading the token gives twins, and that is where work on them begins to differ. -/
theorem token : Job.Twin setup (Option.Rel Json.TokenTwin) (Job.desk Desk.token)
    (Job.desk Desk.token) := by
  refine desk fun s s' hs => ?_
  obtain ⟨h, h'⟩ := hs.inMemory
  rw [State.after_token_memory h, State.after_token_memory h', State.result_token_memory h,
    State.result_token_memory h']
  exact ⟨hs, .ok hs.stored⟩

theorem signOut : Job.Twin setup Eq (Job.desk Desk.signOut) (Job.desk Desk.signOut) := by
  refine desk fun s s' hs => ⟨hs.after_signOut, ?_⟩
  rw [State.result_signOut_memory hs.inMemory.1, State.result_signOut_memory hs.inMemory.2]
  exact .ok rfl

theorem signIn {v w : Json} (h : v.TokenTwin w) (room : ℕ) :
    Job.Twin setup Eq (Job.desk (Desk.signIn room v)) (Job.desk (Desk.signIn room w)) := by
  refine desk fun s s' hs => ?_
  obtain ⟨htwin, hresult⟩ := hs.after_signIn h room
  refine ⟨htwin, ?_⟩
  rw [hresult]
  exact .refl _

theorem setToken {v w : Json} (h : v.TokenTwin w) (room : ℕ) :
    Job.Twin setup Eq (Job.desk (Desk.setToken room v)) (Job.desk (Desk.setToken room w)) := by
  refine desk fun s s' hs => ?_
  obtain ⟨htwin, hresult⟩ := hs.after_setToken h room
  refine ⟨htwin, ?_⟩
  rw [hresult]
  exact .refl _

theorem hasToken : Job.Twin setup Eq (Job.desk Desk.hasToken) (Job.desk Desk.hasToken) := by
  refine desk fun s s' hs => ?_
  obtain ⟨h, h'⟩ := hs.inMemory
  rw [State.after_hasToken_memory h, State.after_hasToken_memory h',
    State.result_hasToken_memory h, State.result_hasToken_memory h',
    Json.TokenTwin.isSome hs.stored]
  exact ⟨hs, .ok rfl⟩

theorem removeToken :
    Job.Twin setup Eq (Job.desk Desk.removeToken) (Job.desk Desk.removeToken) := by
  refine desk fun s s' hs => ⟨hs.after_removeToken, ?_⟩
  rw [State.result_removeToken_memory hs.inMemory.1, State.result_removeToken_memory hs.inMemory.2]
  exact .ok rfl

theorem clear : Job.Twin setup Eq (Job.desk (Desk.access Store.clear))
    (Job.desk (Desk.access Store.clear)) := by
  refine desk fun s s' hs => ⟨hs.after_clear, ?_⟩
  rw [State.result_clear_memory hs.inMemory.1, State.result_clear_memory hs.inMemory.2]
  exact .ok rfl

theorem clearUser : Job.Twin setup Eq (Job.desk Desk.clearUser) (Job.desk Desk.clearUser) :=
  desk fun _ _ hs => ⟨hs.holding hs.store hs.token rfl, .ok rfl⟩

/-- Connections know nothing of tokens. -/
theorem connect (f : Connections → Connections) :
    Job.Twin setup Eq (Flow.change fun s => { s with connections := f s.connections })
      (Flow.change fun s => { s with connections := f s.connections }) :=
  change fun _ _ hs => ⟨hs.store, hs.slot, hs.token, hs.user, congrArg f hs.connections,
    hs.navigation, hs.journal⟩

theorem setUser (user : User) :
    Job.Twin setup Eq (Job.desk (Desk.setUser user)) (Job.desk (Desk.setUser user)) := by
  refine desk fun s s' hs => ⟨hs.after_setUser user, ?_⟩
  rw [State.result_setUser, State.result_setUser]
  exact .ok rfl

end Job.Twin

end Gatehouse
