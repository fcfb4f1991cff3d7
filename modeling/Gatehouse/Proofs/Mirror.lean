import Gatehouse.Proofs.Snapshot

/-! The session as a mirror of the store. Signing in and out changes the store first and the session
    right after it, and nothing else touches the token; so the session has the token that is stored
    whenever anyone can look, also where an operation was stopped by a fault half-way. It takes that
    tokens are texts: another value would be stored as the text that it is shown as. -/

namespace Gatehouse

/-- The session has the token that a memory keeps, and no user where there is none. -/
structure State.Mirrors (s : State) : Prop where
  memory : s.store.InMemory
  token : s.session.token = s.stored
  user : s.session.token = none → s.session.user = none

/-- An empty token is never found in a memory. -/
theorem State.stored_ne_empty {s : State} (h : s.store.InMemory) : s.stored ≠ some (.str "") := by
  obtain ⟨slots, hs⟩ := h
  rw [stored_memory hs]
  intro hempty
  obtain ⟨v, -, hv⟩ := Option.bind_eq_some_iff.1 hempty
  unfold Json.present? at hv
  split at hv
  · rename_i hpresent
    cases hv
    exact absurd hpresent (by decide)
  · cases hv

/-- What a memory shows of a token that was just stored. -/
theorem State.stored_after_signIn {s : State} (h : s.store.InMemory) {room : ℕ} {token : Json}
    (htoken : token.isPresent) {text : String} (hshown : token.shown room = .ok text) :
    (s.after (Desk.signIn room token)).stored = (Json.str token.display).present? := by
  obtain ⟨slots, hs⟩ := h
  obtain ⟨es, -, hafter⟩ := s.after_signIn room token
  rw [hafter, noting_stored, hs, Store.setToken_memory htoken hshown, stored_memory rfl,
    holding_slot, Record.get?_put_self]
  rfl

namespace State.Mirrors

variable {s t : State}

/-- What leaves the credential and the user alone keeps the mirror as it is. -/
theorem of_untouched (hs : s.Mirrors) (h : Untouched s t)
    (huser : t.session.user = s.session.user) : t.Mirrors := by
  refine ⟨h.store ▸ hs.memory, ?_, fun hnone => ?_⟩
  · rw [h.token, h.stored, hs.token]
  · rw [huser, hs.user (h.token ▸ hnone)]

theorem signOut (hs : s.Mirrors) : (s.after Desk.signOut).Mirrors := by
  obtain ⟨hmemory, hstored, -⟩ := vacant_after_signOut hs.memory
  have hsession := session_after_signOut (hs.memory.removeToken s.slot)
  exact ⟨hmemory, by rw [hsession, hstored], fun _ => by rw [hsession]⟩

/-- A session that begins with a text mirrors it. With an empty text it does not begin. -/
theorem signIn (hs : s.Mirrors) (room : ℕ) (text : String) :
    (s.after (Desk.signIn room (.str text))).Mirrors := by
  by_cases htext : (Json.str text).isPresent
  · have hshown : (Json.str text).shown room = .ok text := rfl
    obtain ⟨hsession, hagrees⟩ := after_signIn_memory hs.memory htext hshown
    have hstored := stored_after_signIn hs.memory htext hshown
    refine ⟨hagrees.memory, ?_, fun hnone => ?_⟩
    · rw [hsession, hstored]
      simp [Json.present?, Json.display, htext]
    · rw [hsession] at hnone
      cases hnone
  · obtain ⟨es, hes, hafter⟩ := s.after_signIn room (.str text)
    have hkept : s.holding (s.store.setToken room s.slot (.str text)).store
        (s.signedIn room (.str text)) = s := by
      simp [Store.setToken, signedIn, htext, holding]
    rw [hkept] at hafter
    refine hs.of_untouched (Noted.untouched ⟨es, hes, hafter⟩) ?_
    rw [hafter]
    rfl

/-- A user becomes known only to a session that has a token. -/
theorem setUser (hs : s.Mirrors) (user : User) : (s.after (Desk.setUser user)).Mirrors := by
  have huntouched := s.untouched_after_setUser user
  refine ⟨huntouched.store ▸ hs.memory, ?_, fun hnone => ?_⟩
  · rw [huntouched.token, huntouched.stored, hs.token]
  · obtain ⟨es, -, hafter⟩ := s.after_setUser user
    have hanonymous : s.session.token = none := huntouched.token ▸ hnone
    rw [hafter]
    simpa [recognising, Session.isAuthenticated, hanonymous] using hs.user hanonymous

end State.Mirrors

/-- Whether an operation changes the slot of the token only through the session, and gives it
    nothing but texts. -/
def Operation.throughSession : Operation → Bool
  | beginSession (.str _) => true
  | beginSession _ => false
  | setToken _ => false
  | removeToken => false
  | clearStore => false
  | _ => true

variable {setup : Setup} {X : Exchange State → Prop} {op : Operation} {turn : Turn State}
  {s t : State}

theorem Operation.mirrors_after_work {work : Work Unit} (h : op.work? setup = some work)
    (hop : op.throughSession) (hs : s.Mirrors) : (s.after work).Mirrors := by
  cases op with
  | beginSession token =>
    cases h
    cases token with
    | str text => exact hs.signIn _ text
    | _ => cases hop
  | endSession => cases h; exact hs.signOut
  | setUser data =>
    obtain ⟨user, -, rfl⟩ := Option.map_eq_some_iff.1 h
    exact hs.setUser user
  | clearUser => cases h; exact ⟨hs.memory, hs.token, fun _ => rfl⟩
  | setToken token => cases hop
  | removeToken => cases hop
  | clearStore => cases hop
  | _ => cases h

/-- No deed of such an operation breaks the mirror, as long as logins grant texts. -/
theorem Deed.mirrors (h : Deed setup X op turn s t) (hop : op.throughSession)
    (htext : ∀ x data token, X x → Granted setup op x data token → ∃ text, token = .str text)
    (hs : s.Mirrors) : t.Mirrors := by
  cases h with
  | noted hn =>
    obtain ⟨es, hes, rfl⟩ := hn
    exact hs.of_untouched (Noted.untouched ⟨es, hes, rfl⟩) rfl
  | requested => exact hs.of_untouched ⟨rfl, rfl, rfl⟩ rfl
  | judged => exact hs.of_untouched ⟨rfl, rfl, rfl⟩ rfl
  | departed => exact hs.of_untouched ⟨rfl, rfl, rfl⟩ rfl
  | settled => exact hs.of_untouched ⟨rfl, rfl, rfl⟩ rfl
  | entered => exact hs.of_untouched ⟨rfl, rfl, rfl⟩ rfl
  | expired => exact hs.signOut
  | left => exact hs.signOut
  | signedIn hx hgranted =>
    obtain ⟨text, rfl⟩ := htext _ _ _ hx hgranted
    exact hs.signIn _ text
  | welcomed => exact hs.setUser _
  | recognised => exact hs.setUser _
  | worked hwork => exact Operation.mirrors_after_work hwork hop hs
  | connected => exact hs.of_untouched ⟨rfl, rfl, rfl⟩ rfl

namespace Pool

variable {slots : Record Json} {slot : String} {rows : List LogRow} {connections : Connections}
  {moves : List Move}

theorem mirrors_of_opening : (State.opening (.memory slots) slot rows connections).Mirrors := by
  obtain ⟨es, hes, hopening⟩ := State.opening_noted (.memory slots) slot rows connections
  refine State.Mirrors.of_untouched (s := ⟨⟨.memory slots, slot,
    ⟨((Store.memory slots).token slot).result.toOption.join, none⟩, []⟩, connections, .start⟩)
    ⟨⟨slots, rfl⟩, rfl, fun _ => rfl⟩ (Noted.untouched ⟨es, hes, hopening⟩) ?_
  rw [hopening]
  rfl

/-- The session has the token that is stored, at all times. -/
theorem session_mirrors_store (setup : Setup) (slots : Record Json) (slot : String)
    (rows : List LogRow) (connections : Connections) (moves : List Move)
    (hops : ∀ op ∈ Move.operations moves, op.throughSession)
    (htext : ∀ i op x data token, (Move.operations moves)[i]? = some op →
      (opened (.memory slots) slot rows connections).Exchanged setup moves i x →
      Granted setup op x data token → ∃ text, token = .str text) :
    let s := ((opened (.memory slots) slot rows connections).run setup moves).state
    s.session.token = s.stored ∧ s.session.token ≠ some (.str "") ∧
      (s.session.token = none → s.session.user = none) := by
  intro s
  have hs : s.Mirrors := invariant_of_deeds mirrors_of_opening fun i op _ _ _ hi hs h =>
    h.mirrors (hops op (List.mem_of_getElem? hi))
      (fun x data token => htext i op x data token hi) hs
  refine ⟨hs.token, ?_, hs.user⟩
  rw [hs.token]
  exact State.stored_ne_empty hs.memory

/-- A session with an empty token is refused, and then someone signs in. -/
def signedInAfterRefusal : List Move :=
  [.start (.beginSession (.str "")), .start (.signIn (.str "alice") (.str "secret")),
    .reply 1 (.success "\x7b\"token\":\"b\",\"user\":\x7b\"role\":\"user\"\x7d\x7d")]

/-- Whether the token of a login, if a move is a reply that carries one, is a text. -/
def grantsText : Move → Bool
  | .reply _ r => match r.answer? with
    | some (.data data) => (Visit.grantedToken? data).all fun token => token.text?.isSome
    | _ => true
  | _ => true

theorem session_mirrors_store_signedIn :
    let s := ((openedWith "a").run .default signedInAfterRefusal).state
    s.session.token = some (.str "b") ∧ s.session.user.isSome ∧ s.session.token = s.stored ∧
      s.session.token ≠ some (.str "") ∧ (s.session.token = none → s.session.user = none) := by
  have htoken : ((openedWith "a").run .default signedInAfterRefusal).state.session.token.bind
      Json.text? = some "b" := by decide +kernel
  have huser : ((openedWith "a").run .default
      signedInAfterRefusal).state.session.user.isSome := by decide +kernel
  have hops : ∀ op ∈ Move.operations signedInAfterRefusal, op.throughSession := by
    simp [Move.operations, signedInAfterRefusal, Operation.throughSession]
  have htexts : signedInAfterRefusal.all grantsText = true := by decide +kernel
  have hgrants : ∀ i op x data token, (Move.operations signedInAfterRefusal)[i]? = some op →
      (openedWith "a").Exchanged .default signedInAfterRefusal i x →
      Granted .default op x data token → ∃ text, token = .str text := by
    intro i op x data token _ hx hgranted
    have h := List.all_eq_true.1 htexts _ hx.mem
    simp only [grantsText, hgranted.answer, hgranted.token, Option.all_some] at h
    obtain ⟨text, htext⟩ := Option.isSome_iff_exists.1 h
    exact ⟨text, Option.some.inj (Json.eq_str_of_text? htext)⟩
  unfold openedWith at htoken huser hgrants ⊢
  exact ⟨Json.eq_str_of_text? htoken, huser,
    session_mirrors_store .default _ _ _ _ signedInAfterRefusal hops hgrants⟩

end Pool

end Gatehouse
