import Gatehouse.State

/-! The gate: the access policy that is evaluated before every transition. Rules that need nothing
    but the stored token come first; then the user is looked up for a route that asks for a role,
    and the status of the security PIN for a route that asks for it. A failed look at the user keeps
    visitors out. A failed look at the PIN does not, since the service itself asks for the PIN
    again. -/

namespace Gatehouse.Gate

/-- The notice of a user who could not be looked up. -/
def lookupFailed : String := "Failed to load user information"

/-- The notice of a user without the role that is asked for. -/
def noPermission : String := "You do not have permission to access this page"

/-- The path of the service that tells about the current user. -/
def userPath : String := "/v1/auth/current"

/-- The path of the service that tells about the security PIN. -/
def pinPath : String := "/v1/auth/security-pin-status"

/-- The rules that need nothing but the stored token. -/
def rule? (settings : Settings) (route : Route) (hasToken : Bool) : Option Decision :=
  if route.policy.requiresAuth && !hasToken then
    some (.redirect settings.loginPath .unauthenticated)
  else if hasToken && (route.path = settings.loginPath || route.path = settings.registerPath) then
    some (.redirect settings.landingPath .alreadyAuthenticated)
  else none

variable (setup : Setup) (ask : Call → Job Answer)

/-- Reads the data of a successful answer. Data that cannot be read is logged under a title. -/
def readData {α : Type} (title : String) (check : Json → Checked α) : Answer → Job (Option α)
  | .failure _ => pure none
  | .data v =>
    match check v with
    | .good a => pure (some a)
    | .bad _ => do
      Job.log .guard .error ("Malformed " ++ title ++ ": ValidationError")
      pure none

/-- Looks the user up and compares the roles. -/
def checkRole (route : Route) (role : Role) : Job (Answer × Option Decision) := do
  let answer ← ask ⟨"GET", userPath, .null, .null⟩
  match ← readData "user information" User.check answer with
  | none =>
    Job.log .guard .error
      ("Role check for " ++ route.path ++ " failed: " ++ answer.failureDescription)
    if !answer.isRejection then setup.announce lookupFailed
    pure (answer, some (.redirect setup.settings.loginPath .userLookupFailed))
  | some user =>
    Job.desk (Desk.setUser user)
    if user.hasRole role then pure (answer, none)
    else
      Job.log .guard .info ("Role " ++ user.role.label ++ " denied for " ++ route.path ++
        " (requires " ++ role.label ++ ")")
      setup.announce noPermission
      pure (answer, some (.redirect setup.settings.landingPath .roleMismatch))

/-- Looks up whether the security PIN is set. -/
def checkPin (route : Route) : Job (Answer × Option Decision) := do
  let answer ← ask ⟨"GET", pinPath, .null, .null⟩
  let status ← readData "security PIN status" PinStatus.check answer
  if answer.isRejection then
    pure (answer, some (.redirect setup.settings.loginPath .credentialRejected))
  else
    match status with
    | none =>
      Job.log .guard .warning ("Security PIN status unavailable, allowing navigation to " ++
        route.path ++ ": " ++ answer.failureDescription)
      pure (answer, none)
    | some status =>
      if !status.isSet && route.path ≠ setup.settings.enrollmentPath then
        pure (answer, some (.redirect setup.settings.enrollmentPath .pinMissing))
      else pure (answer, none)

/-- The part of a verdict that asks for the role, if the route and the token call for it. -/
def roleStep (route : Route) (hasToken : Bool) : Job (Option Answer × Option Decision) :=
  match route.policy.role?, hasToken with
  | some role, true => do
    let (answer, decision) ← checkRole setup ask route role
    pure (some answer, decision)
  | _, _ => pure (none, none)

/-- The part of a verdict that asks for the security PIN, if the route and the token call for it. -/
def pinStep (route : Route) (hasToken : Bool) : Job (Option Answer × Option Decision) :=
  if route.policy.checksPin && hasToken then do
    let (answer, decision) ← checkPin setup ask route
    pure (some answer, decision)
  else pure (none, none)

/-- The verdict on a visit to a route. Each rule is only asked if none before it has decided. -/
def verdictOn (route : Route) : Job Verdict := do
  let token ← Job.desk Desk.token
  match rule? setup.settings route token.isSome with
  | some decision =>
    if route.policy.requiresAuth && token.isNone then
      Job.log .guard .debug ("Blocking anonymous navigation to " ++ route.path)
    pure ⟨route, token, none, none, decision⟩
  | none =>
    let (user, decision) ← roleStep setup ask route token.isSome
    match decision with
    | some decision => pure ⟨route, token, user, none, decision⟩
    | none =>
      let (pin, decision) ← pinStep setup ask route token.isSome
      pure ⟨route, token, user, pin, decision.getD .allow⟩

/-- Decides on a visit to a route, and enters the verdict in the journal. -/
def judge (route : Route) : Job Verdict := do
  let verdict ← verdictOn setup ask route
  Job.record (.judged verdict)
  pure verdict

end Gatehouse.Gate
