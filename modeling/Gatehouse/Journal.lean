import Gatehouse.Log
import Gatehouse.Verdict

/-! The journal of a run: log rows, notices and requests in the order in which they happened. It
    also keeps the verdicts of the guard and the course of each navigation, which nobody is shown,
    so that statements about a whole run can be made about its journal. -/

namespace Gatehouse

/-- Something that happened. -/
inductive Event where
  | logged (row : LogRow)
  | noticed (notice : Notice)
  | requested (request : Request)
  | judged (verdict : Verdict)
  /-- A navigation began to look for its target; the path is that of the route it was asked for. -/
  | departed (path : String)
  /-- The navigation that began there has found its target or failed. -/
  | settled (path : String)
  /-- The route with this path became the current one while this token, if any, was stored. -/
  | entered (path : String) (token : Option Json)

/-- What happened, the latest first. -/
abbrev Journal := List Event

namespace Journal

/-- The journal with log rows added in their order. -/
def addRows (j : Journal) (rows : List LogRow) : Journal := (rows.map Event.logged).reverse ++ j

/-- The log rows, the earliest first. -/
def rows (j : Journal) : List LogRow :=
  j.reverse.filterMap fun
    | .logged row => some row
    | _ => none

/-- The notices, the earliest first. -/
def notices (j : Journal) : List Notice :=
  j.reverse.filterMap fun
    | .noticed notice => some notice
    | _ => none

/-- The requests, the earliest first. -/
def requests (j : Journal) : List Request :=
  j.reverse.filterMap fun
    | .requested request => some request
    | _ => none

end Journal

end Gatehouse
