import Gatehouse.Proofs.Running

/-! How a reply ends a session. A reply that rejects the credential, and the reply that a sign out
    waits for, end whichever session there is when they come in; nobody asks for which one the
    request was made. Any other reply, but that of a login which grants a token, leaves the
    credential alone, both in the store and in the session. -/

namespace Gatehouse

/-! ### What deeds do to the credential -/

/-- The credential is the same, in the store and in the session. -/
structure Untouched (s t : State) : Prop where
  store : t.store = s.store
  slot : t.slot = s.slot
  token : t.session.token = s.session.token

namespace Untouched

theorem refl (s : State) : Untouched s s := ⟨rfl, rfl, rfl⟩

theorem trans {s t u : State} (h : Untouched s t) (h' : Untouched t u) : Untouched s u :=
  ⟨h'.store.trans h.store, h'.slot.trans h.slot, h'.token.trans h.token⟩

theorem stored {s t : State} (h : Untouched s t) : t.stored = s.stored := by
  simp only [Desk.stored, h.store, h.slot]

end Untouched

theorem Noted.untouched {s t : State} (h : Noted s t) : Untouched s t := by
  obtain ⟨es, -, rfl⟩ := h
  exact ⟨rfl, rfl, rfl⟩

/-- A user may become known without the credential being touched. -/
theorem State.untouched_after_setUser (s : State) (user : User) :
    Untouched s (s.after (Desk.setUser user)) := by
  have hsame : Untouched s (s.holding s.store (s.recognising user)) := by
    refine ⟨rfl, rfl, ?_⟩
    simp only [State.holding_session, State.recognising]
    split <;> rfl
  exact hsame.trans (s.after_setUser user).untouched

/-- A memory keeps no token, and no session goes on without one. -/
def State.Vacant (s : State) : Prop :=
  s.store.InMemory ∧ s.stored = none ∧ s.session.token = none

theorem Untouched.vacant {s t : State} (h : Untouched s t) (hs : s.Vacant) : t.Vacant :=
  ⟨h.store ▸ hs.1, h.stored.trans hs.2.1, h.token.trans hs.2.2⟩

/-- The session `s` has come to its end in `t`. A store on a disk may refuse, and then the session
    goes on; a memory never refuses. -/
structure Ended (s t : State) : Prop where
  session : (s.store.removeToken s.slot).result = .ok () → t.session.token = none
  memory : s.store.InMemory → t.Vacant

/-- A session that has ended stays so while the credential is left alone. -/
theorem Untouched.ended {r s t : State} (h : Untouched s t) (hs : Ended r s) : Ended r t :=
  ⟨fun hok => h.token.trans (hs.session hok), fun hmem => h.vacant (hs.memory hmem)⟩

theorem Ended.of_untouched {r s t : State} (h : Ended s t) (hs : Untouched r s) : Ended r t :=
  ⟨fun hok => h.session (by rwa [hs.store, hs.slot]), fun hmem => h.memory (hs.store ▸ hmem)⟩

namespace State

/-- A memory never refuses to give up the token. -/
theorem vacant_after_signOut {s : State} (h : s.store.InMemory) :
    (s.after Desk.signOut).Vacant := by
  obtain ⟨slots, hstore⟩ := h
  obtain ⟨slots', hnone, hremoved⟩ := Store.removeToken_memory slots s.slot
  obtain ⟨es, -, hafter⟩ := s.after_signOut
  rw [hafter, signedOut, hstore, hremoved]
  refine ⟨⟨slots', rfl⟩, ?_, rfl⟩
  rw [stored_memory rfl, State.noting_slot, State.holding_slot, hnone]
  rfl

theorem ended_after_signOut (s : State) : Ended s (s.after Desk.signOut) := by
  refine ⟨fun hok => ?_, vacant_after_signOut⟩
  rw [session_after_signOut hok]

end State

/-- Ending a session once more changes nothing about that it has ended. -/
theorem Ended.signOut {r s : State} (h : Ended r s) : Ended r (s.after Desk.signOut) := by
  refine ⟨fun hok => ?_, fun hmem => State.vacant_after_signOut (h.memory hmem).1⟩
  obtain ⟨es, -, hafter⟩ := s.after_signOut
  have hnone := h.session hok
  rw [hafter]
  simp only [State.noting_session, State.holding_session, State.signedOut]
  split
  · rfl
  · exact hnone

variable {setup : Setup} {X : Exchange State → Prop} {op : Operation} {turn : Turn State}
  {s t : State}

theorem Operation.isVisit_of_work? {work : Work Unit} (h : op.work? setup = some work) :
    op.isVisit = false := by
  cases op <;> first | rfl | cases h

/-- Few deeds touch the credential. -/
theorem Deed.untouched_or (h : Deed setup X op turn s t) : Untouched s t ∨
    (∃ x, turn = .after x ∧ x.reply.isRejection ∧ s = x.resumed ∧ t = s.after Desk.signOut) ∨
    (op = .signOut ∧ t = s.after Desk.signOut) ∨
    (∃ x data token, turn = .after x ∧ Granted setup op x data token ∧
      t = s.after (Desk.signIn setup.tokenRoom token)) ∨
    ∃ first, turn = .first first ∧ op.isVisit = false := by
  cases h with
  | noted hn => exact .inl hn.untouched
  | requested => exact .inl ⟨rfl, rfl, rfl⟩
  | judged => exact .inl ⟨rfl, rfl, rfl⟩
  | departed => exact .inl ⟨rfl, rfl, rfl⟩
  | settled => exact .inl ⟨rfl, rfl, rfl⟩
  | entered => exact .inl ⟨rfl, rfl, rfl⟩
  | expired _ hrej => exact .inr (.inl ⟨_, rfl, hrej, rfl, rfl⟩)
  | left hop => exact .inr (.inr (.inl ⟨hop, rfl⟩))
  | signedIn _ hgranted => exact .inr (.inr (.inr (.inl ⟨_, _, _, rfl, hgranted, rfl⟩)))
  | welcomed => exact .inl (State.untouched_after_setUser _ _)
  | recognised => exact .inl (State.untouched_after_setUser _ _)
  | worked hwork =>
    exact .inr (.inr (.inr (.inr ⟨_, rfl, Operation.isVisit_of_work? hwork⟩)))
  | connected _ hop => exact .inr (.inr (.inr (.inr ⟨_, rfl, hop⟩)))

/-! ### What a reply does to the session -/

/-- What a turn that begins with a reply does to the session: a rejection, or the reply that a sign
    out waits for, ends it, and another reply that grants no token leaves the credential alone. -/
def Settles (setup : Setup) (op : Operation) : Turn State → State → Prop
  | .first _, _ => True
  | .after x, t =>
    (x.reply.isRejection ∨ EndsVisit setup op x → Ended x.resumed t) ∧
      (x.reply.isRejection = false → op ≠ .signOut →
        (∀ data token, ¬Granted setup op x data token) → Untouched x.resumed t)

/-- A grant is an answer with data, so it is no rejection. -/
theorem Granted.not_rejection {x : Exchange State} {data token : Json}
    (h : Granted setup op x data token) : x.reply.isRejection = false := by
  simp [Reply.isRejection, h.answer, Answer.isRejection, Answer.failure?]

theorem Granted.not_endsVisit {x : Exchange State} {data token : Json}
    (h : Granted setup op x data token) : ¬EndsVisit setup op x := by
  rintro ⟨rfl, -⟩
  obtain ⟨username, password, hop, -⟩ := h.signIn
  cases hop

/-- What holds right after a reply is kept by all deeds of the turn that follows. -/
theorem settles_of_deed (hR : Settles setup op turn s) (h : Deed setup X op turn s t) :
    Settles setup op turn t := by
  cases turn with
  | first _ => trivial
  | after x =>
    obtain ⟨hends, hkeeps⟩ := hR
    rcases h.untouched_or with huntouched | ⟨y, ⟨⟩, hrej, rfl, rfl⟩ | ⟨rfl, rfl⟩ |
      ⟨y, data, token, ⟨⟩, hgranted, -⟩ | ⟨first, ⟨⟩, -⟩
    · refine ⟨fun hx => huntouched.ended (hends hx), fun hrej hop hgrants => ?_⟩
      exact (hkeeps hrej hop hgrants).trans huntouched
    · exact ⟨fun _ => State.ended_after_signOut _, fun hno => by simp [hrej] at hno⟩
    -- The session that a sign out ends may have ended already, when its reply was a rejection.
    · exact ⟨fun hx => (hends hx).signOut, fun _ hop => absurd rfl hop⟩
    · refine ⟨fun hx => ?_, fun _ _ hgrants => absurd hgranted (hgrants data token)⟩
      rcases hx with hrej | hvisit
      · simp [hgranted.not_rejection] at hrej
      · exact absurd hvisit hgranted.not_endsVisit

/-- And it holds there: a rejection is acted on at once, before anything else is done. -/
theorem settles_rule : Rule setup X op (Settles setup op) where
  deed := settles_of_deed
  resumed := fun _ hrej hvisit => by
    refine ⟨fun hx => ?_, fun _ _ _ => .refl _⟩
    rcases hx with hx | hx
    · simp [hrej] at hx
    · exact absurd hx hvisit
  expired := fun _ hrej => ⟨fun _ => State.ended_after_signOut _, fun hno => by simp [hrej] at hno⟩
  left := fun _ _ hvisit hn =>
    ⟨fun _ => (State.ended_after_signOut _).of_untouched hn.untouched,
      fun _ hop => absurd hvisit.1 hop⟩

namespace Pool

/-- Every reply that somebody waits for either ends the session that there is, whichever it is, or
    leaves the credential alone, unless it grants a new one. -/
theorem reply_settles (setup : Setup) (store : Store) (slot : String) (rows : List LogRow)
    (connections : Connections) (moves : List Move) (i : Nat) (r : Reply) :
    let house := opened store slot rows connections
    let s := (house.run setup moves).state
    let t := (house.run setup (moves ++ [.reply i r])).state
    ((house.run setup moves).request? i = none ∧ t = s) ∨
      ∃ op x, (Move.operations moves)[i]? = some op ∧
        house.Exchanged setup (moves ++ [.reply i r]) i x ∧
        (house.run setup moves).request? i = some x.request ∧ x.reply = r ∧ x.resumed = s ∧
        (r.isRejection ∨ EndsVisit setup op x → Ended s t) ∧
        (r.isRejection = false → op ≠ .signOut → (∀ data token, ¬Granted setup op x data token) →
          Untouched s t) := by
  intro house s t
  have hrun : ∀ j op u, (Move.operations (moves ++ [.reply i r]))[j]? = some op →
      (Operation.run setup op u).Keeps (house.Exchanged setup (moves ++ [.reply i r]) j)
        (Settles setup op) (.first u) :=
    fun _ _ _ _ => Operation.run_keeps settles_rule trivial
  rcases turn_of_move (R := fun _ => Settles setup) hrun (List.prefix_refl _) with
    ⟨j, r', hmove, hnone, hsame⟩ | ⟨j, op, turn, htakes, hsettles⟩
  · cases hmove
    exact .inl ⟨hnone, congrArg Pool.state hsame⟩
  · cases htakes with
    | @reply _ _ x hop hx hq hs =>
      refine .inr ⟨op, x, hop, hx, hq, rfl, hs.symm, ?_⟩
      have hs' : x.resumed = s := hs.symm
      exact hs' ▸ hsettles

/-- While a call waits, the visitor signs out and signs in again. -/
def signedInAgain : List Move :=
  [.start (.call ⟨"GET", "/v1/secrets", .null, .null⟩ false), .start .signOut,
    .reply 1 (.success "null"), .start (.signIn (.str "alice") (.str "secret")),
    .reply 2 (.success "\x7b\"token\":\"b\"\x7d")]

/-- The rejection of a credential can end a session that began with another one. -/
theorem rejections_end_newer_sessions : ¬∀ (setup : Setup) (slots : Record Json) (slot : String)
    (rows : List LogRow) (connections : Connections) (moves : List Move) (i : Nat) (r : Reply)
    (request : Request) (token : Json), (∀ op ∈ Move.operations moves, op.isVisit) →
      let house := opened (.memory slots) slot rows connections
      (house.run setup moves).request? i = some request → r.isRejection →
      (house.run setup moves).state.stored = some token → request.credential ≠ some token →
      let t := (house.run setup (moves ++ [.reply i r])).state
      t.stored = some token ∧ t.session.token = some token := by
  intro hall
  have hasked : (((openedWith "a").run .default signedInAgain).request? 0).bind
      (·.credential.bind Json.text?) = some "a" := by decide +kernel
  have hstored : ((openedWith "a").run .default signedInAgain).state.stored.bind Json.text? =
      some "b" := by decide +kernel
  have hended : ((openedWith "a").run .default
      (signedInAgain ++ [.reply 0 .rejection])).state.stored.isNone := by decide +kernel
  have hrej : Reply.rejection.isRejection := by decide +kernel
  have hvisits : ∀ op ∈ Move.operations signedInAgain, op.isVisit := by
    simp [Move.operations, signedInAgain, Operation.isVisit]
  unfold openedWith at hasked hstored hended
  obtain ⟨request, hq, hcredential⟩ := Option.bind_eq_some_iff.1 hasked
  have hb := Json.eq_str_of_text? hstored
  have hother : request.credential ≠ some (.str "b") := by
    rw [Json.eq_str_of_text? hcredential]
    simp
  obtain ⟨hkept, -⟩ := hall _ _ _ _ _ _ 0 _ request (.str "b") hvisits hq hrej hb hother
  rw [hkept] at hended
  cases hended

end Pool

end Gatehouse
