import Gatehouse.Endpoint

/-! Signing in and out as a visitor does: with the service, the session and a walk to follow. -/

namespace Gatehouse.Visit

variable (setup : Setup)

/-- The failure of a login whose reply grants nothing. -/
def noToken : Failure := ⟨.application, "Login response did not include a token", none, none⟩

/-- The token that the data of a login grants. -/
def grantedToken? : Json → Option Json
  | .obj fields => (Record.get? fields "token").bind Json.present?
  | _ => none

/-- The user that the data of a login names, if it names one. -/
def grantedUser : Json → Except Fault (Option User)
  | .obj fields =>
    match (Record.get? fields "user").bind Json.present? with
    | some data => ((User.check data).orInvalid .user).map some
    | none => .ok none
  | _ => .ok none

/-- Signs in: asks the service for a token, starts the session with it, and walks to the landing
    route. The result is the user that is current then. -/
def signIn (username password : Json) : Job (Option User) := do
  let data ← Endpoint.login.send setup [username, password]
  match grantedToken? data with
  | none => Flow.stop (.failed noToken)
  | some token =>
    let user ← Flow.ofExcept (grantedUser data)
    Job.desk (Desk.signIn setup.tokenRoom token)
    match user with
    | some user => Job.desk (Desk.setUser user)
    | none => pure ()
    let _ ← setup.walk setup.settings.landingPath
    Flow.read (·.session.currentUser)

/-- Tells the service. That it fails is only logged, since the session here ends in any case. -/
def tellService : Job Unit := do
  match ← Flow.outcome (Endpoint.logout.send setup []) with
  | .ok _ => pure ()
  | .error (.failed f) =>
    if f.kind = .authentication then Job.log .context .debug "Logout with a rejected credential"
    else Job.log .context .warning ("Remote logout failed: " ++ f.message)
  | .error f => Flow.stop f

/-- Ends the session here and walks to the login route. -/
def leave : Job Unit := do
  Job.desk Desk.signOut
  let _ ← setup.walk setup.settings.loginPath

/-- Signs out: tells the service and then, whatever came of it, ends the session here. -/
def signOut : Job Unit := Flow.followedBy (tellService setup) (leave setup)

/-- Opens the house: from now on calls can be made. -/
def start : Job Unit := do
  Flow.change fun s => { s with connections := s.connections.opened }
  let authenticated ← Flow.read (·.session.isAuthenticated)
  Job.log .context .info
    ("VaultHub context started (authenticated=" ++ (Json.bool authenticated).quoted ++ ")")

/-- Closes the house. -/
def close : Job Unit := do
  Flow.change fun s => { s with connections := s.connections.released }
  Job.log .context .debug "VaultHub context closed"

end Gatehouse.Visit
