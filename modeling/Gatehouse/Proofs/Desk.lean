import Gatehouse.State

/-! What work at the desk leaves behind. Every piece of it has a normal form: the store and the
    session that follow from those before it, and some notes in the journal on top of those that
    were there. Reading the token changes nothing but the journal. -/

namespace Gatehouse

/-- Whether an event is a log row or a notice. -/
def Event.isNote : Event → Bool
  | .logged _ => true
  | .noticed _ => true
  | _ => false

namespace State

variable {α : Type}

/-- The state with events on top of its journal. -/
def noting (s : State) (es : List Event) : State := { s with journal := es ++ s.journal }

/-- The state with another store and another session. -/
def holding (s : State) (store : Store) (session : Session) : State :=
  { s with store := store, session := session }

/-- The state after work at the desk. -/
def after (s : State) (work : Work α) : State := { s with toDesk := (work.run.run s.toDesk).2 }

/-- What work at the desk gives. -/
def result (s : State) (work : Work α) : Except Fault α := (work.run.run s.toDesk).1

@[simp] theorem noting_nil (s : State) : s.noting [] = s := rfl

/-- Later events are on top. -/
@[simp] theorem noting_noting (s : State) (es fs : List Event) :
    (s.noting es).noting fs = s.noting (fs ++ es) := by
  simp [noting]

@[simp] theorem noting_store (s : State) (es : List Event) : (s.noting es).store = s.store := rfl

@[simp] theorem noting_session (s : State) (es : List Event) :
    (s.noting es).session = s.session := rfl

@[simp] theorem noting_slot (s : State) (es : List Event) : (s.noting es).slot = s.slot := rfl

@[simp] theorem noting_stored (s : State) (es : List Event) : (s.noting es).stored = s.stored := rfl

@[simp] theorem noting_navigation (s : State) (es : List Event) :
    (s.noting es).navigation = s.navigation := rfl

@[simp] theorem noting_journal (s : State) (es : List Event) :
    (s.noting es).journal = es ++ s.journal := rfl

@[simp] theorem holding_store (s : State) (store : Store) (session : Session) :
    (s.holding store session).store = store := rfl

@[simp] theorem holding_session (s : State) (store : Store) (session : Session) :
    (s.holding store session).session = session := rfl

@[simp] theorem holding_slot (s : State) (store : Store) (session : Session) :
    (s.holding store session).slot = s.slot := rfl

@[simp] theorem holding_navigation (s : State) (store : Store) (session : Session) :
    (s.holding store session).navigation = s.navigation := rfl

@[simp] theorem holding_journal (s : State) (store : Store) (session : Session) :
    (s.holding store session).journal = s.journal := rfl

end State

/-- Two states differ by no more than some notes. -/
def Noted (s t : State) : Prop := ∃ es, (∀ e ∈ es, e.isNote) ∧ t = s.noting es

namespace Noted

theorem refl (s : State) : Noted s s := ⟨[], by simp, rfl⟩

theorem trans {s t u : State} : Noted s t → Noted t u → Noted s u := by
  rintro ⟨es, hes, rfl⟩ ⟨fs, hfs, rfl⟩
  refine ⟨fs ++ es, fun e he => ?_, by simp⟩
  rcases List.mem_append.1 he with he | he
  · exact hfs e he
  · exact hes e he

theorem one (s : State) {e : Event} (he : e.isNote) : Noted s (s.noting [e]) :=
  ⟨[e], by simpa using he, rfl⟩

theorem stored {s t : State} (h : Noted s t) : t.stored = s.stored := by
  obtain ⟨es, -, rfl⟩ := h
  rfl

end Noted

/-- The log rows of an access, as notes. -/
theorem rows_isNote (rows : List LogRow) : ∀ e ∈ (rows.map Event.logged).reverse, e.isNote := by
  intro e he
  obtain ⟨row, -, rfl⟩ := List.mem_map.1 (List.mem_reverse.1 he)
  rfl

namespace Store

/-- Reading a slot leaves the store as it is. -/
theorem get_store (s : Store) (key : String) : (s.get key).store = s := by
  unfold get
  split <;> rfl

theorem token_store (s : Store) (slot : String) : (s.token slot).store = s := get_store s slot

theorem hasToken_store (s : Store) (slot : String) : (s.hasToken slot).store = s :=
  get_store s slot

/-! ### Stores in memory -/

/-- The store keeps its slots in memory. -/
def InMemory (s : Store) : Prop := ∃ slots, s = .memory slots

/-- A memory gives up the token. -/
theorem removeToken_memory (slots : Record Json) (slot : String) :
    ∃ slots', Record.get? slots' slot = none ∧
      (memory slots).removeToken slot = ⟨.ok (), .memory slots', []⟩ := by
  by_cases h : Record.has slots slot
  · refine ⟨Record.erase slots slot, by simp, ?_⟩
    simp [removeToken, remove, load, h, saveLogged, save, slotRow, Except.toOption]
  · exact ⟨slots, by simpa [Record.has] using h, by simp [removeToken, remove, load, h]⟩

theorem InMemory.removeToken {s : Store} (h : s.InMemory) (slot : String) :
    (s.removeToken slot).result = .ok () := by
  obtain ⟨slots, rfl⟩ := h
  obtain ⟨slots', -, hremoved⟩ := removeToken_memory slots slot
  rw [hremoved]

/-- A memory takes every token that counts as present, as a text, if that can be shown. -/
theorem setToken_memory {room : Nat} {token : Json} (h : token.isPresent) {text : String}
    (hshown : token.shown room = .ok text) (slots : Record Json) (slot : String) :
    (memory slots).setToken room slot token =
      ⟨.ok (), .memory (Record.put slots slot (.str token.display)), []⟩ := by
  obtain rfl := Json.display_of_shown hshown
  simp [setToken, h, hshown, write, load, saveLogged, save, slotRow, Except.toOption]

/-- It refuses one that cannot be shown, and stays as it is. -/
theorem setToken_memory_unshown {room : Nat} {token : Json} (h : token.isPresent)
    {o : Json.Obstacle} (hunshown : token.shown room = .error o) (slots : Record Json)
    (slot : String) :
    (memory slots).setToken room slot token = ⟨.error (.unshown o), .memory slots, []⟩ := by
  simp [setToken, h, hunshown, write, load]

/-- In memory a token is whatever is in the slot, as long as it counts as present. -/
theorem token_memory (slots : Record Json) (slot : String) :
    ((memory slots).token slot).result =
      .ok ((Record.get? slots slot).bind Json.present?) := by
  simp only [token, get, load, Except.map]
  rcases Record.get? slots slot with _ | v
  · rfl
  · cases v <;> rfl

end Store

namespace State

section Work

variable {α β : Type} (s : State)

theorem run_bind (work : Work α) (next : α → Work β) (d : Desk) :
    (work >>= next).run.run d = match work.run.run d with
      | (.ok a, d) => (next a).run.run d
      | (.error f, d) => (.error f, d) := by
  rw [ExceptT.run_bind, StateT.run_bind]
  rcases work.run.run d with ⟨_ | _, _⟩ <;> rfl

/-- Work that goes on does so from the state that the first part leaves, and a fault ends it
    there. -/
theorem after_bind (work : Work α) (next : α → Work β) :
    s.after (work >>= next) = match s.result work with
      | .ok a => (s.after work).after (next a)
      | .error _ => s.after work := by
  simp only [after, result, run_bind]
  rcases work.run.run s.toDesk with ⟨_ | _, _⟩ <;> rfl

theorem result_bind (work : Work α) (next : α → Work β) :
    s.result (work >>= next) = match s.result work with
      | .ok a => (s.after work).result (next a)
      | .error f => .error f := by
  simp only [after, result, run_bind]
  rcases work.run.run s.toDesk with ⟨_ | _, _⟩ <;> rfl

@[simp] theorem after_get : s.after get = s := rfl

@[simp] theorem result_get : s.result get = .ok s.toDesk := rfl

@[simp] theorem after_modify (f : Desk → Desk) :
    s.after (modify f) = { s with toDesk := f s.toDesk } := rfl

@[simp] theorem result_modify (f : Desk → Desk) : s.result (modify f) = .ok () := rfl

/-- Using the store leaves the session as it is and adds the rows that the store logs. -/
theorem after_access (f : Store → Access α) :
    Noted (s.holding (f s.store).store s.session) (s.after (Desk.access f)) :=
  ⟨_, rows_isNote (f s.store).rows, rfl⟩

end Work

/-- Reading the token changes nothing but the journal. -/
theorem after_token (s : State) : Noted s (s.after Desk.token) := by
  have h := s.after_access (·.token s.slot)
  rwa [Store.token_store] at h

theorem after_hasToken (s : State) : Noted s (s.after Desk.hasToken) := by
  have h := s.after_access (·.hasToken s.slot)
  rwa [Store.hasToken_store] at h

/-- What is stored in a memory can be read off its slots. -/
theorem stored_memory {s : State} {slots : Record Json} (h : s.store = .memory slots) :
    s.stored = (Record.get? slots s.slot).bind Json.present? := by
  simp [Desk.stored, h, Store.token_memory, Except.toOption]

/-- What is read is what is stored. -/
theorem stored_of_token {s : State} {token : Option Json} (h : s.result Desk.token = .ok token) :
    s.stored = token := by
  have hr : (s.store.token s.slot).result = .ok token := h
  simp [Desk.stored, hr, Except.toOption]

/-- The session after a removal of the token: it ends, unless the store refuses. -/
def signedOut (s : State) : Session :=
  match (s.store.removeToken s.slot).result with
  | .ok _ => ⟨none, none⟩
  | .error _ => s.session

/-- The session after a token was stored: a new one, unless the store refuses. -/
def signedIn (s : State) (room : Nat) (token : Json) : Session :=
  match (s.store.setToken room s.slot token).result with
  | .ok _ => ⟨some token, none⟩
  | .error _ => s.session

/-- The session after a user became known: nobody is noted where nobody has signed in. -/
def recognising (s : State) (user : User) : Session :=
  if s.session.isAuthenticated then { s.session with user := some user } else s.session

/-- The store gives up the token before the session ends, and both are told in the log only. -/
theorem after_signOut (s : State) :
    Noted (s.holding (s.store.removeToken s.slot).store s.signedOut) (s.after Desk.signOut) := by
  have hr : s.result Desk.removeToken = (s.store.removeToken s.slot).result := rfl
  obtain ⟨es, hes, ha⟩ : Noted _ (s.after Desk.removeToken) := s.after_access (·.removeToken s.slot)
  simp only [Desk.signOut, after_bind, result_get, after_get, after_modify, result_modify, hr, ha]
  cases h : (s.store.removeToken s.slot).result with
  | error f => exact ⟨es, hes, by simp [signedOut, h]⟩
  | ok u =>
    refine Noted.trans (t := (s.holding (s.store.removeToken s.slot).store s.signedOut).noting es)
      ⟨es, hes, rfl⟩ ?_
    simp only [signedOut, h]
    split
    · exact Noted.one _ rfl
    · exact Noted.refl _

/-- The store takes the token before the session begins. -/
theorem after_signIn (s : State) (room : Nat) (token : Json) :
    Noted (s.holding (s.store.setToken room s.slot token).store (s.signedIn room token))
      (s.after (Desk.signIn room token)) := by
  have hr : s.result (Desk.setToken room token) = (s.store.setToken room s.slot token).result := rfl
  obtain ⟨es, hes, ha⟩ : Noted _ (s.after (Desk.setToken room token)) :=
    s.after_access (·.setToken room s.slot token)
  simp only [Desk.signIn, after_bind, after_modify, result_modify, hr, ha]
  cases h : (s.store.setToken room s.slot token).result with
  | error f => exact ⟨es, hes, by simp [signedIn, h]⟩
  | ok u =>
    refine Noted.trans (t := (s.holding (s.store.setToken room s.slot token).store
      (s.signedIn room token)).noting es) ⟨es, hes, rfl⟩ ?_
    simp only [signedIn, h]
    exact Noted.one _ rfl

/-- A session that ends is empty. -/
theorem session_after_signOut {s : State} (h : (s.store.removeToken s.slot).result = .ok ()) :
    (s.after Desk.signOut).session = ⟨none, none⟩ := by
  obtain ⟨es, -, hafter⟩ := s.after_signOut
  rw [hafter, signedOut, h]
  rfl

/-- A session that begins has the token and no user. -/
theorem session_after_signIn {s : State} {room : Nat} {token : Json}
    (h : s.result (Desk.signIn room token) = .ok ()) :
    (s.after (Desk.signIn room token)).session = ⟨some token, none⟩ := by
  obtain ⟨es, -, hafter⟩ := s.after_signIn room token
  have hset : s.result (Desk.setToken room token) =
      (s.store.setToken room s.slot token).result := rfl
  rw [hafter, signedIn]
  cases hr : (s.store.setToken room s.slot token).result with
  | ok u => rfl
  | error f =>
    rw [Desk.signIn, result_bind, hset, hr] at h
    cases h

/-- A user is noted in a session; without one there is a row in the log instead. -/
theorem after_setUser (s : State) (user : User) :
    Noted (s.holding s.store (s.recognising user)) (s.after (Desk.setUser user)) := by
  simp only [Desk.setUser, after_bind, result_get, after_get, recognising]
  split
  · exact Noted.refl _
  · exact Noted.one _ rfl

theorem result_setUser (s : State) (user : User) : s.result (Desk.setUser user) = .ok () := by
  simp only [Desk.setUser, result_bind, result_get, after_get]
  split <;> rfl

@[simp] theorem stored_after_setUser (s : State) (user : User) :
    (s.after (Desk.setUser user)).stored = s.stored := (s.after_setUser user).stored

end State

end Gatehouse
