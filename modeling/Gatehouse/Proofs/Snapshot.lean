import Gatehouse.Proofs.Memory

/-! Where the user of a session comes from. A session shows a user whom the login named that began
    it, or one who was looked up. A lookup is answered for the token that was stored when it was
    made; what is noted about it goes to the session that there is when the answer comes in, and
    that may be a later one. -/

namespace Gatehouse

/-! ### The store and the session agree -/

/-- The store is a memory, and a token that it keeps reads like the token of the session. -/
structure State.Agrees (s : State) : Prop where
  memory : s.store.InMemory
  token : ∀ bearer, s.stored = some bearer →
    ∃ held, s.session.token = some held ∧ bearer.display = held.display

theorem Untouched.agrees {s t : State} (h : Untouched s t) (hs : s.Agrees) : t.Agrees := by
  refine ⟨h.store ▸ hs.memory, fun bearer hb => ?_⟩
  obtain ⟨held, hheld, hsame⟩ := hs.token bearer (h.stored ▸ hb)
  exact ⟨held, h.token.trans hheld, hsame⟩

theorem State.Vacant.agrees {s : State} (h : s.Vacant) : s.Agrees := by
  refine ⟨h.1, fun bearer hb => ?_⟩
  rw [h.2.1] at hb
  cases hb

/-- A token that a login grants counts as present. -/
theorem Visit.isPresent_of_grantedToken? {data token : Json} (h : grantedToken? data = some token) :
    token.isPresent := by
  unfold grantedToken? at h
  split at h
  · obtain ⟨v, -, hv⟩ := Option.bind_eq_some_iff.1 h
    unfold Json.present? at hv
    split at hv
    · cases hv
      assumption
    · cases hv
  · cases h

namespace State

/-- A session begins in agreement with the store, and without a user. -/
theorem after_signIn_memory {s : State} (h : s.store.InMemory) {room : ℕ} {token : Json}
    (htoken : token.isPresent) {text : String} (hshown : token.shown room = .ok text) :
    (s.after (Desk.signIn room token)).session = ⟨some token, none⟩ ∧
      (s.after (Desk.signIn room token)).Agrees := by
  obtain ⟨slots, hstore⟩ := h
  have hset := Store.setToken_memory htoken hshown slots s.slot
  obtain ⟨es, -, hafter⟩ := s.after_signIn room token
  rw [hafter, signedIn, hstore, hset]
  refine ⟨rfl, ⟨_, rfl⟩, fun bearer hb => ⟨token, rfl, ?_⟩⟩
  rw [stored_memory rfl, noting_slot, holding_slot, Record.get?_put_self] at hb
  obtain ⟨v, hv, hpresent⟩ := Option.bind_eq_some_iff.1 hb
  obtain rfl := Option.some.inj hv
  unfold Json.present? at hpresent
  split at hpresent
  · cases hpresent
    rfl
  · cases hpresent

end State

/-! ### What a session shows -/

/-- Where a user is from that a session with this token shows: the login that granted the token
    named the user, or a lookup found the user whose answer came in while the session had the token.
    The lookup went out with the token of the session that there was then. -/
inductive Origin (setup : Setup) (house : Pool) (moves : List Move) (token : Json) (user : User) :
    Prop
  | login {i op x data} : (Move.operations moves)[i]? = some op →
      house.Exchanged setup moves i x → Granted setup op x data token →
      Visit.grantedUser data = .ok (some user) → Origin setup house moves token user
  | lookup {i x data bearer held} : house.Exchanged setup moves i x → Found setup x data user →
      x.resumed.session.token = some token → x.request.credential = some bearer →
      x.asked.session.token = some held → bearer.display = held.display →
      Origin setup house moves token user

/-- Whoever a session shows is from somewhere. -/
def Believed (setup : Setup) (house : Pool) (moves : List Move) (s : State) : Prop :=
  ∀ user, s.session.user = some user →
    ∃ token, s.session.token = some token ∧ Origin setup house moves token user

variable {setup : Setup} {house : Pool} {moves : List Move} {i : Nat} {op : Operation}
  {turn : Turn State} {s t : State}

theorem Believed.of_session (h : Believed setup house moves s)
    (htoken : t.session.token = s.session.token) (huser : t.session.user = s.session.user) :
    Believed setup house moves t := by
  intro user hu
  obtain ⟨token, ht, horigin⟩ := h user (huser ▸ hu)
  exact ⟨token, htoken.trans ht, horigin⟩

theorem Believed.of_none (h : s.session.user = none) : Believed setup house moves s := by
  intro user hu
  rw [h] at hu
  cases hu

/-- A visit keeps the store and the session in agreement. -/
theorem Deed.agrees {X : Exchange State → Prop} (h : Deed setup X op turn s t) (hop : op.isVisit)
    (hs : s.Agrees) : t.Agrees := by
  rcases h.untouched_or with huntouched | ⟨x, -, -, -, rfl⟩ | ⟨-, rfl⟩ |
    ⟨x, data, token, -, hgranted, rfl⟩ | ⟨first, -, hno⟩
  · exact huntouched.agrees hs
  · exact (State.vacant_after_signOut hs.memory).agrees
  · exact (State.vacant_after_signOut hs.memory).agrees
  · have hpresent := Visit.isPresent_of_grantedToken? hgranted.token
    cases hshown : token.shown setup.tokenRoom with
    | error o => rwa [(State.signIn_memory_unshown hs.memory hpresent hshown).2]
    | ok text => exact (State.after_signIn_memory hs.memory hpresent hshown).2
  · simp [hop] at hno

/-- A visit shows nobody who is not from somewhere. -/
theorem Deed.believed (h : Deed setup (house.Exchanged setup moves i) op turn s t)
    (hi : (Move.operations moves)[i]? = some op) (hop : op.isVisit) (hs : s.Agrees)
    (hasked : ∀ x, house.Exchanged setup moves i x → x.asked.Agrees)
    (hbelieved : Believed setup house moves s) : Believed setup house moves t := by
  cases h with
  | noted hn =>
    obtain ⟨es, -, rfl⟩ := hn
    exact hbelieved.of_session rfl rfl
  | requested => exact hbelieved.of_session rfl rfl
  | judged => exact hbelieved.of_session rfl rfl
  | departed => exact hbelieved.of_session rfl rfl
  | settled => exact hbelieved.of_session rfl rfl
  | entered => exact hbelieved.of_session rfl rfl
  | expired => exact .of_none (by rw [State.session_after_signOut (hs.memory.removeToken _)])
  | left => exact .of_none (by rw [State.session_after_signOut (hs.memory.removeToken _)])
  | @signedIn x data token hx hgranted =>
    have hpresent := Visit.isPresent_of_grantedToken? hgranted.token
    cases hshown : token.shown setup.tokenRoom with
    | error o => rwa [(State.signIn_memory_unshown hs.memory hpresent hshown).2]
    | ok text =>
      exact .of_none (by rw [(State.after_signIn_memory hs.memory hpresent hshown).1])
  | @welcomed x data token user hx hgranted hok huser =>
    have hsession := State.session_after_signIn hok
    obtain ⟨es, -, hafter⟩ :=
      (x.resumed.after (Desk.signIn setup.tokenRoom token)).after_setUser user
    rw [hafter]
    simp only [Believed, State.noting_session, State.holding_session, State.recognising, hsession]
    rintro _ ⟨⟩
    exact ⟨token, rfl, .login hi hx hgranted huser⟩
  | @recognised x data user hx hfound =>
    obtain ⟨es, -, hafter⟩ := x.resumed.after_setUser user
    rw [hafter]
    simp only [Believed, State.noting_session, State.holding_session, State.recognising]
    -- The user is noted for the session of the moment, which need not be the one that asked.
    split
    · rename_i hauthenticated
      obtain ⟨token, htoken⟩ := Option.isSome_iff_exists.1 hauthenticated
      obtain ⟨bearer, hbearer⟩ := Option.isSome_iff_exists.1 hfound.credential
      have hstored : x.asked.stored = some bearer := hfound.request.credential.symm.trans hbearer
      obtain ⟨held, hheld, hsame⟩ := (hasked x hx).token bearer hstored
      rintro _ ⟨⟩
      exact ⟨token, htoken, .lookup hx hfound htoken hbearer hheld hsame⟩
    · exact hbelieved
  | worked hwork => simp [Operation.isVisit_of_work? hwork] at hop
  | connected _ hno => simp [hop] at hno

namespace Pool

variable {slots : Record Json} {slot : String} {rows : List LogRow} {connections : Connections}

theorem agrees_of_opening : (State.opening (.memory slots) slot rows connections).Agrees := by
  refine (State.opening_noted (.memory slots) slot rows connections).untouched.agrees ⟨⟨_, rfl⟩, ?_⟩
  intro bearer hb
  exact ⟨bearer, hb, rfl⟩

theorem agrees_of_run (hvisits : ∀ op ∈ Move.operations moves, op.isVisit) :
    ((opened (.memory slots) slot rows connections).run setup moves).state.Agrees := by
  refine invariant_of_deeds agrees_of_opening fun i op turn s t hi hs h => ?_
  exact h.agrees (hvisits op (List.mem_of_getElem? hi)) hs

/-- Whenever a request is made, the store and the session agree. -/
theorem agrees_of_exchanged (hvisits : ∀ op ∈ Move.operations moves, op.isVisit)
    {x : Exchange State}
    (hx : (opened (.memory slots) slot rows connections).Exchanged setup moves i x) :
    x.asked.Agrees := by
  obtain ⟨done, hdone, hs⟩ := hx.exists_asked
  refine hs ▸ agrees_of_run fun op hop => hvisits op ?_
  obtain ⟨j, hj⟩ := List.getElem?_of_mem hop
  exact List.mem_of_getElem? (Move.operations_of_prefix hdone hj)

theorem believed_of_run (hvisits : ∀ op ∈ Move.operations moves, op.isVisit)
    (hhouse : house = opened (.memory slots) slot rows connections) :
    (house.run setup moves).state.Agrees ∧
      Believed setup house moves (house.run setup moves).state := by
  subst hhouse
  refine invariant_of_deeds (I := fun s => s.Agrees ∧ Believed setup _ moves s) ?_ ?_
  · obtain ⟨es, -, hopening⟩ := State.opening_noted (.memory slots) slot rows connections
    refine ⟨agrees_of_opening, .of_none ?_⟩
    rw [hopening]
    rfl
  · intro i op turn s t hi ⟨hagrees, hbelieved⟩ h
    have hop := hvisits op (List.mem_of_getElem? hi)
    exact ⟨h.agrees hop hagrees,
      h.believed hi hop hagrees (fun x hx => agrees_of_exchanged hvisits hx) hbelieved⟩

/-- Whoever is shown is from somewhere. -/
theorem currentUser_believed (setup : Setup) (slots : Record Json) (slot : String)
    (rows : List LogRow) (connections : Connections) (moves : List Move)
    (hvisits : ∀ op ∈ Move.operations moves, op.isVisit) (user : User) :
    let house := opened (.memory slots) slot rows connections
    let session := (house.run setup moves).state.session
    session.currentUser = some user →
      ∃ token, session.token = some token ∧ Origin setup house moves token user := by
  intro house session h
  unfold Session.currentUser at h
  split at h
  · exact (believed_of_run hvisits rfl).2 user h
  · cases h

/-- Someone signs in, and the reply names the user. -/
def signedIn : List Move :=
  [.start (.signIn (.str "alice") (.str "secret")),
    .reply 0 (.success "\x7b\"token\":\"b\",\"user\":\x7b\"role\":\"user\"\x7d\x7d")]

theorem currentUser_believed_signedIn :
    ∃ user token, ((openedWith "a").run .default signedIn).state.session.currentUser = some user ∧
      ((openedWith "a").run .default signedIn).state.session.token = some token ∧
      Origin .default (openedWith "a") signedIn token user := by
  have hshown : ((openedWith "a").run .default signedIn).state.session.currentUser.isSome := by
    decide +kernel
  unfold openedWith at hshown ⊢
  have hvisits : ∀ op ∈ Move.operations signedIn, op.isVisit := by
    simp [Move.operations, signedIn, Operation.isVisit]
  obtain ⟨user, huser⟩ := Option.isSome_iff_exists.1 hshown
  obtain ⟨token, htoken, horigin⟩ :=
    currentUser_believed .default _ _ _ _ signedIn hvisits user huser
  exact ⟨user, token, huser, htoken, horigin⟩

/-- While a walk waits for the user, the visitor signs out and someone else signs in; then the first
    user is found. -/
def relievedMeanwhile : List Move :=
  [.start (.walk "/system/config"), .start .signOut, .reply 1 (.success "null"),
    .start (.signIn (.str "bob") (.str "secret")), .reply 2 (.success "\x7b\"token\":\"b\"\x7d"),
    .reply 0 (.success "\x7b\"role\":\"admin\"\x7d")]

/-- Whether a move is a reply that names a user as that of a login does. -/
def namesUser : Move → Bool
  | .reply _ r => match r.answer? with
    | some (.data data) => match Visit.grantedUser data with
      | .ok (some _) => true
      | _ => false
    | _ => false
  | _ => false

/-- A session can show a user whom no login named, and for whom nobody asked with its token. -/
theorem users_not_all_of_session : ¬∀ (setup : Setup) (slots : Record Json) (slot : String)
    (rows : List LogRow) (connections : Connections) (moves : List Move),
    (∀ op ∈ Move.operations moves, op.isVisit) → ∀ (user : User) (token : Json),
      let t := ((opened (.memory slots) slot rows connections).run setup moves).state
      t.session.currentUser = some user → t.session.token = some token →
      (∃ i r data, .reply i r ∈ moves ∧ r.answer? = some (.data data) ∧
        Visit.grantedToken? data = some token ∧ Visit.grantedUser data = .ok (some user)) ∨
      ∃ request ∈ t.journal.requests, request.url = Service.url setup.settings Gate.userPath ∧
        request.credential.map Json.display = some token.display := by
  intro hall
  have hshown : ((openedWith "a").run .default
      relievedMeanwhile).state.session.currentUser.isSome := by decide +kernel
  have htoken : ((openedWith "a").run .default relievedMeanwhile).state.session.token.bind
      Json.text? = some "b" := by decide +kernel
  -- No reply names a user of a login, and no lookup goes out with the token of the new session.
  have hnobody : relievedMeanwhile.all (fun m => !namesUser m) = true := by decide +kernel
  have hnowhere : ((openedWith "a").run .default relievedMeanwhile).state.journal.requests.all
      (fun request => !(request.url = Service.url Setup.default.settings Gate.userPath &&
        request.credential.map Json.display = some "b")) = true := by decide +kernel
  have hvisits : ∀ op ∈ Move.operations relievedMeanwhile, op.isVisit := by
    simp [Move.operations, relievedMeanwhile, Operation.isVisit]
  unfold openedWith at hshown htoken hnowhere
  obtain ⟨user, huser⟩ := Option.isSome_iff_exists.1 hshown
  have hb := Json.eq_str_of_text? htoken
  rcases hall _ _ _ _ _ _ hvisits user (.str "b") huser hb with
    ⟨i, r, data, hmem, hr, -, hnamed⟩ | ⟨request, hmem, hurl, hcredential⟩
  · have h := List.all_eq_true.1 hnobody _ hmem
    simp [namesUser, hr, hnamed] at h
  · have h := List.all_eq_true.1 hnowhere _ hmem
    have hd : request.credential.map Json.display = some "b" := hcredential
    rw [hurl, hd] at h
    simp at h

end Pool

end Gatehouse
