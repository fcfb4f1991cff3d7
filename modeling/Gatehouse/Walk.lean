import Gatehouse.Gate

/-! Walks from route to route. A walk starts at the route that a path is declared for and follows
    its redirects, and those of the gate, until the gate lets the visitor in; then that route
    becomes the current one. Walks cannot be called off, and several may be on their way at once:
    the last to arrive decides where the visitor is. -/

namespace Gatehouse.Walk

variable (setup : Setup) (ask : Call → Job Answer)

/-- Where a route leads on to, if it does: by its own redirect, without asking the gate, or by the
    decision of the gate. -/
def onward (route : Route) : Job (Option String) :=
  match route.redirect? with
  | some target => pure (some target)
  | none => do
    let verdict ← Gate.judge setup ask route
    match verdict.decision with
    | .allow => pure none
    | .redirect target why =>
      Job.log .router .info ("Navigation to " ++ route.path ++ " redirected to " ++ target ++
        " (" ++ why.name ++ ")")
      pure (some target)

/-- The route that is declared for a path. -/
def resolve (path : String) : Job Route :=
  Flow.ofExcept ((setup.table.resolve path).mapError .navigation)

/-- Follows redirects from a route to the one where the visitor is let in. The redirect that is one
    too many is not looked up any more. -/
def follow : Nat → Route → Job Route
  | 0, route => do
    match ← onward setup ask route with
    | none => pure route
    | some _ => Flow.stop (.navigation (.tooManyRedirects route.path))
  | left + 1, route => do
    match ← onward setup ask route with
    | none => pure route
    | some target =>
      let next ← resolve setup target
      follow left next

/-- Changes the navigation. -/
def change (f : Navigation → Navigation) : Job Unit :=
  Flow.change fun s => { s with navigation := f s.navigation }

/-- A walk from this route begins. -/
def depart (route : Route) : Job Unit := do
  change fun n => { n with pending := n.pending ++ [route.path] }
  Job.record (.departed route.path)

/-- The walk that began at this route is over. -/
def settle (route : Route) : Job Unit := do
  change fun n => { n with pending := n.pending.filter (· ≠ route.path) }
  Job.record (.settled route.path)

/-- Makes a route the current one, unless it is already. -/
def enter (route : Route) : Job Unit := do
  let here ← Flow.read (·.navigation.currentPath)
  if here = some route.path then pure ()
  else
    change fun n => { n with current := some route, history := n.history ++ [route.path] }
    Job.record (.entered route.path (← Flow.read (·.stored)))
    Job.log .router .debug ("Navigated to " ++ route.path)

/-- Walks to the route that a path is declared for. A walk to the current route, or from where
    another walk is on its way, is not begun. The result is the route that was entered. -/
def go (path : String) : Job (Option Route) := do
  let route ← resolve setup path
  let navigation ← Flow.read (·.navigation)
  if navigation.currentPath = some route.path || navigation.pending.contains route.path then
    Job.log .router .debug ("Navigation to " ++ route.path ++ " ignored")
    pure navigation.current
  else
    depart route
    let target ← Flow.followedBy (follow setup ask setup.settings.maxRedirects route) (settle route)
    enter target
    pure (some target)

end Gatehouse.Walk
