import Gatehouse.Journal
import Gatehouse.Store

/-! The session: what is known in memory about the visitor who has signed in. It is seeded once from
    the store; from then on signing in and out changes the store first and the session after it, so
    that a store that refuses leaves the session as it was. A snapshot of a user is never shown
    without a token. -/

namespace Gatehouse

/-- The session. Its token, if there is one, counts as present. -/
structure Session where
  token : Option Json
  user : Option User

namespace Session

/-- Whether someone has signed in. -/
def isAuthenticated (s : Session) : Bool := s.token.isSome

/-- The current user. -/
def currentUser (s : Session) : Option User := if s.isAuthenticated then s.user else none

/-- The description of a session: the token itself is never shown. -/
def description (s : Session) : String :=
  "<VaultHub-Session [authenticated:" ++ (Json.bool s.isAuthenticated).quoted ++ "] user=" ++
    User.quotedOption User.description s.currentUser ++ ">"

end Session

/-- A store, the slot of it that holds the credential, the session over it and the journal of
    both. -/
structure Desk where
  store : Store
  slot : String
  session : Session
  journal : Journal

/-- Work at a desk that may be stopped by a fault. What was done before the fault stays done. -/
abbrev Work (α : Type) := ExceptT Fault (StateM Desk) α

namespace Desk

/-- The token that is stored at this moment. A store that cannot be read shows none. -/
def stored (d : Desk) : Option Json := (d.store.token d.slot).result.toOption.join

/-- Records an event. -/
def record (e : Event) : Work Unit := modify fun d => { d with journal := e :: d.journal }

/-- Writes a log row. -/
def log (source : Source) (level : Level) (text : String) : Work Unit :=
  record (.logged ⟨source, level, text⟩)

/-- Uses the store. -/
def access {α : Type} (f : Store → Access α) : Work α := fun d =>
  let a := f d.store
  (a.result, { d with store := a.store, journal := d.journal.addRows a.rows })

/-- The stored token. -/
def token : Work (Option Json) := do access (·.token (← get).slot)

/-- Stores a token without a session. -/
def setToken (room : Nat) (token : Json) : Work Unit := do
  access (·.setToken room (← get).slot token)

/-- Removes the stored token without regard to the session. -/
def removeToken : Work Unit := do access (·.removeToken (← get).slot)

/-- Whether a token is stored. -/
def hasToken : Work Bool := do access (·.hasToken (← get).slot)

/-- Seeds the session from the store. -/
def seed : Work Unit := do
  let token ← token
  modify fun d => { d with session := ⟨token, none⟩ }

/-- Starts a session with a token, which is stored first. -/
def signIn (room : Nat) (token : Json) : Work Unit := do
  setToken room token
  modify fun d => { d with session := ⟨some token, none⟩ }
  log .session .info "Session started"

/-- Ends the session; the stored token is removed first. Ending a session twice is no fault. -/
def signOut : Work Unit := do
  let before := (← get).session
  removeToken
  modify fun d => { d with session := ⟨none, none⟩ }
  if before.isAuthenticated then log .session .info "Session closed"

/-- Takes note of a user, if someone has signed in. -/
def setUser (user : User) : Work Unit := do
  if (← get).session.isAuthenticated then
    modify fun d => { d with session := { d.session with user := some user } }
  else log .session .debug "Ignoring user snapshot for an anonymous session"

/-- Forgets the user. -/
def clearUser : Work Unit := modify fun d => { d with session := { d.session with user := none } }

end Desk

end Gatehouse
