import Gatehouse.Service
import Gatehouse.Walk

/-! The house: calls and walks tied together. A rejected credential ends the session and starts a
    walk to the login route, and a walk makes calls of its own. This does not go round in circles:
    when that walk starts, no token is stored, so its gate decides without a call. It is given calls
    that would not lead on to anywhere. -/

namespace Gatehouse.Setup

variable (setup : Setup)

/-- A walk of a visitor whose session has just ended. -/
def walkSignedOut (path : String) : Job (Option Route) :=
  Walk.go setup (fun c => Service.call setup (pure ()) c false) path

/-- Leads on to the login route after a rejection. That the route cannot be reached is only
    logged. -/
def toLogin : Job Unit := do
  if setup.leadsToLogin then
    match ← Flow.outcome (walkSignedOut setup setup.settings.loginPath) with
    | .ok _ => pure ()
    | .error (.navigation f) =>
      Job.log .client .error ("Navigation to login after expiry failed: " ++ f.message)
    | .error f => Flow.stop f

/-- Makes a call and gives its classified answer. -/
def call (c : Call) (notify : Bool) : Job Answer := Service.call setup (toLogin setup) c notify

/-- Makes a call and gives its data, or stops with its failure. -/
def send (c : Call) : Job Json := do
  let answer ← call setup c true
  Flow.ofExcept answer.unwrap

/-- A call that the gate makes: its failure is not announced. -/
def lookup (c : Call) : Job Answer := call setup c false

/-- Decides on a visit to a route. -/
def judge (route : Route) : Job Verdict := Gate.judge setup (lookup setup) route

/-- Walks to a path. -/
def walk (path : String) : Job (Option Route) := Walk.go setup (lookup setup) path

end Gatehouse.Setup
