import Gatehouse.Proofs.Ending

/-! Houses over a memory. A memory refuses nothing and logs nothing: reading the token leaves the
    state as it is, and the end of a session is known to the last row of the log. Nothing that is
    done makes anything else of a memory, so it is one at all times. -/

namespace Gatehouse

/-! ### Steps of work that does not wait -/

namespace Job

variable {α β : Type} (s : State)

/-- Work at the desk is done at once, and what follows begins in the state that it leaves. -/
theorem desk_bind (work : Work α) (next : α → Job β) :
    (Job.desk work >>= next) s = match s.result work with
      | .ok a => next a (s.after work)
      | .error f => .ended (s.after work) (.error f) := by
  have h : Job.desk work s = .ended (s.after work) (s.result work) := rfl
  rw [Flow.bind_apply, h, Progress.andThen_ended]
  cases s.result work <;> rfl

theorem log_bind (source : Source) (level : Level) (text : String) (next : Unit → Job β) :
    (Job.log source level text >>= next) s = next () (s.noting [.logged ⟨source, level, text⟩]) :=
  rfl

theorem record_bind (e : Event) (next : Unit → Job β) :
    (Job.record e >>= next) s = next () (s.noting [e]) := rfl

end Job

/-! ### The desk over a memory -/

namespace Store

theorem InMemory.removeToken_store {s : Store} (h : s.InMemory) (slot : String) :
    (s.removeToken slot).store.InMemory := by
  obtain ⟨slots, rfl⟩ := h
  obtain ⟨slots', -, hremoved⟩ := removeToken_memory slots slot
  exact ⟨slots', by rw [hremoved]⟩

theorem InMemory.setToken_store {s : Store} (h : s.InMemory) (room : ℕ) (slot : String)
    (token : Json) : (s.setToken room slot token).store.InMemory := by
  obtain ⟨slots, rfl⟩ := h
  by_cases htoken : token.isPresent
  · cases hshown : token.shown room with
    | error o => exact ⟨slots, by rw [setToken_memory_unshown htoken hshown]⟩
    | ok text => exact ⟨_, by rw [setToken_memory htoken hshown]⟩
  · exact ⟨slots, by simp [setToken, htoken]⟩

theorem InMemory.clear_store {s : Store} (h : s.InMemory) : s.clear.store.InMemory := by
  obtain ⟨slots, rfl⟩ := h
  exact ⟨[], rfl⟩

end Store

namespace State

variable {s : State}

/-- An access that logs nothing shows nowhere but in the store. -/
theorem after_access_of_rows {α : Type} {f : Store → Access α} (h : (f s.store).rows = []) :
    s.after (Desk.access f) = s.holding (f s.store).store s.session := by
  show (s.holding (f s.store).store s.session).noting ((f s.store).rows.map .logged).reverse = _
  rw [h]
  rfl

theorem inMemory_after_access {α : Type} {f : Store → Access α}
    (h : (f s.store).store.InMemory) : (s.after (Desk.access f)).store.InMemory := by
  obtain ⟨es, -, hafter⟩ := s.after_access f
  rwa [hafter]

/-- Reading the token leaves everything as it is, the journal too. -/
theorem after_token_memory (h : s.store.InMemory) : s.after Desk.token = s := by
  have hrows : (s.store.token s.slot).rows = [] := by
    obtain ⟨slots, hs⟩ := h
    rw [hs]
    rfl
  refine (after_access_of_rows (f := (·.token s.slot)) hrows).trans ?_
  rw [Store.token_store]
  rfl

/-- What is read is what is stored, for a memory is always read. -/
theorem result_token_memory (h : s.store.InMemory) : s.result Desk.token = .ok s.stored := by
  obtain ⟨slots, hs⟩ := h
  have hr : s.result Desk.token = (s.store.token s.slot).result := rfl
  rw [hr, stored_memory hs, hs, Store.token_memory]

theorem after_hasToken_memory (h : s.store.InMemory) : s.after Desk.hasToken = s :=
  after_token_memory h

theorem result_hasToken_memory (h : s.store.InMemory) :
    s.result Desk.hasToken = .ok s.stored.isSome := by
  have htoken : (s.store.token s.slot).result = .ok s.stored := result_token_memory h
  show (s.store.token s.slot).result.map Option.isSome = _
  rw [htoken]
  rfl

/-- A token is written without a row in the log, or refused without one. -/
theorem after_setToken_memory (h : s.store.InMemory) (room : ℕ) (token : Json) :
    s.after (Desk.setToken room token) =
      s.holding (s.store.setToken room s.slot token).store s.session := by
  obtain ⟨slots, hs⟩ := h
  refine after_access_of_rows (f := (·.setToken room s.slot token)) ?_
  rw [hs, Store.setToken]
  split
  · cases token.shown room <;> rfl
  · rfl

/-- A session that begins is over the same store in memory, whether its token was taken or not. -/
theorem inMemory_after_signIn (h : s.store.InMemory) (room : ℕ) (token : Json) :
    (s.after (Desk.signIn room token)).store.InMemory := by
  obtain ⟨es, -, hafter⟩ := s.after_signIn room token
  rw [hafter]
  exact h.setToken_store room s.slot token

/-- A token that cannot be shown begins no session, and leaves everything as it is. -/
theorem signIn_memory_unshown (h : s.store.InMemory) {room : ℕ} {token : Json}
    (htoken : token.isPresent) {o : Json.Obstacle} (hunshown : token.shown room = .error o) :
    s.result (Desk.signIn room token) = .error (.unshown o) ∧
      s.after (Desk.signIn room token) = s := by
  have hafter := after_setToken_memory h room token
  obtain ⟨slots, hs⟩ := h
  have hrefused := Store.setToken_memory_unshown htoken hunshown slots s.slot
  rw [hs, hrefused, ← hs] at hafter
  have hresult : s.result (Desk.setToken room token) = .error (.unshown o) := by
    show (s.store.setToken room s.slot token).result = _
    rw [hs, hrefused]
  simp only [Desk.signIn, result_bind, after_bind, hresult, hafter]
  exact ⟨trivial, rfl⟩

theorem after_removeToken_memory (h : s.store.InMemory) :
    s.after Desk.removeToken = s.holding (s.store.removeToken s.slot).store s.session := by
  obtain ⟨slots, hs⟩ := h
  obtain ⟨slots', -, hremoved⟩ := Store.removeToken_memory slots s.slot
  exact after_access_of_rows (f := (·.removeToken s.slot)) (by rw [hs, hremoved])

theorem result_removeToken_memory (h : s.store.InMemory) : s.result Desk.removeToken = .ok () :=
  h.removeToken s.slot

theorem after_clear_memory (h : s.store.InMemory) :
    s.after (Desk.access Store.clear) = s.holding (.memory []) s.session := by
  obtain ⟨slots, hs⟩ := h
  rw [after_access_of_rows (f := Store.clear) (by rw [hs]; rfl), hs]
  rfl

theorem result_clear_memory (h : s.store.InMemory) :
    s.result (Desk.access Store.clear) = .ok () := by
  obtain ⟨slots, hs⟩ := h
  show s.store.clear.result = _
  rw [hs]
  rfl

/-- The row that tells of the end of a session, if there was one. -/
def farewell (s : State) : List Event :=
  if s.session.isAuthenticated then [.logged ⟨.session, .info, "Session closed"⟩] else []

theorem result_signOut_memory (h : s.store.InMemory) : s.result Desk.signOut = .ok () := by
  simp only [Desk.signOut, result_bind, result_get, after_get, result_modify,
    result_removeToken_memory h]
  split <;> rfl

/-- All that the end of a session leaves behind: no token, an empty session, and a row if there was
    one. -/
theorem after_signOut_memory (h : s.store.InMemory) :
    s.after Desk.signOut =
      (s.holding (s.store.removeToken s.slot).store ⟨none, none⟩).noting s.farewell := by
  simp only [Desk.signOut, after_bind, result_get, after_get, after_modify, result_modify,
    result_removeToken_memory h, after_removeToken_memory h]
  unfold farewell
  split <;> rfl

end State

/-- Over a memory, work that begins by reading the token goes on from the same state. -/
theorem Job.token_bind {β : Type} {s : State} (h : s.store.InMemory)
    (next : Option Json → Job β) : (Job.desk Desk.token >>= next) s = next s.stored s := by
  rw [desk_bind, State.result_token_memory h, State.after_token_memory h]

/-! ### A memory at all times -/

variable {setup : Setup} {X : Exchange State → Prop} {op : Operation} {turn : Turn State}
  {s t : State}

/-- No work of an operation at the desk opens a document. -/
theorem Operation.inMemory_after_work {work : Work Unit} (h : op.work? setup = some work)
    (hs : s.store.InMemory) : (s.after work).store.InMemory := by
  cases op with
  | beginSession token => cases h; exact State.inMemory_after_signIn hs ..
  | endSession => cases h; exact (State.vacant_after_signOut hs).1
  | setUser data =>
    obtain ⟨user, -, rfl⟩ := Option.map_eq_some_iff.1 h
    exact (State.untouched_after_setUser s user).store ▸ hs
  | clearUser => cases h; exact hs
  | setToken token =>
    cases h
    exact State.inMemory_after_access (f := (·.setToken _ s.slot token)) (hs.setToken_store ..)
  | removeToken =>
    cases h
    exact State.inMemory_after_access (f := (·.removeToken s.slot)) (hs.removeToken_store ..)
  | clearStore =>
    cases h
    exact State.inMemory_after_access (f := Store.clear) hs.clear_store
  | _ => cases h

/-- No deed makes anything else of a memory. -/
theorem Deed.inMemory (h : Deed setup X op turn s t) (hs : s.store.InMemory) :
    t.store.InMemory := by
  cases h with
  | noted hn => exact hn.untouched.store ▸ hs
  | requested => exact hs
  | judged => exact hs
  | departed => exact hs
  | settled => exact hs
  | entered => exact hs
  | expired => exact (State.vacant_after_signOut hs).1
  | left => exact (State.vacant_after_signOut hs).1
  | signedIn => exact State.inMemory_after_signIn hs ..
  | welcomed => rwa [(State.untouched_after_setUser _ _).store]
  | recognised => rwa [(State.untouched_after_setUser _ _).store]
  | worked hwork => exact Operation.inMemory_after_work hwork hs
  | connected => exact hs

/-- A house that is opened over a memory is over one. -/
theorem State.inMemory_opening (slots : Record Json) (slot : String) (rows : List LogRow)
    (connections : Connections) :
    (opening (.memory slots) slot rows connections).store.InMemory :=
  ⟨slots, (opening_noted (.memory slots) slot rows connections).untouched.store⟩

/-- The house is over a memory in every state of a run. -/
theorem Pool.inMemory_of_run (hs : s.store.InMemory) (moves : List Move) :
    ((fresh s).run setup moves).state.store.InMemory :=
  invariant_of_deeds hs fun _ _ _ _ _ _ hs h => h.inMemory hs

/-- So every reply comes in over one. -/
theorem Pool.Exchanged.inMemory {moves : List Move} {i : Nat} {x : Exchange State}
    (h : (fresh s).Exchanged setup moves i x) (hs : s.store.InMemory) :
    x.resumed.store.InMemory := by
  obtain ⟨done, -, hdone⟩ := h.exists_resumed
  exact hdone ▸ inMemory_of_run hs done

end Gatehouse
