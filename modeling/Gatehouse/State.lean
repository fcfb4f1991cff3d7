import Gatehouse.Connection
import Gatehouse.Flow
import Gatehouse.Session
import Gatehouse.Settings

/-! The state that all operations share, and what does not change while they run. -/

namespace Gatehouse

/-- Where the visitor is and was. -/
structure Navigation where
  current : Option Route
  /-- The paths of the routes that navigations were asked for and have not settled yet. -/
  pending : List String
  /-- The paths of the routes that were entered, the earliest first. -/
  history : List String
  deriving DecidableEq, Repr

namespace Navigation

/-- Nowhere. -/
def start : Navigation := ⟨none, [], []⟩

/-- The path of the current route. -/
def currentPath (n : Navigation) : Option String := n.current.map (·.path)

/-- The pending paths in the order of their texts. -/
def sortedPending (n : Navigation) : List String := n.pending.mergeSort

/-- The description of a navigation. -/
def description (n : Navigation) : String :=
  "<Router current=" ++ User.quotedOption Text.quoted n.currentPath ++ " pending=" ++
    (Json.arr (n.sortedPending.map .str)).quoted ++ ">"

end Navigation

/-- The shared state. -/
structure State extends Desk where
  connections : Connections
  navigation : Navigation

/-- What is fixed while operations run. -/
structure Setup where
  settings : Settings
  table : Table
  /-- A rejected credential leads on to the login route. -/
  leadsToLogin : Bool
  /-- Notices are shown to the user; otherwise they are logged. -/
  showsNotices : Bool
  /-- How many levels of calls the stack has room for where a call shows its parameters. -/
  room : Nat
  /-- How many it has room for where the text of a token is stored. -/
  tokenRoom : Nat

/-- Work on the shared state. -/
abbrev Job (α : Type) := Flow State α

namespace Job

variable {α : Type}

/-- Work at the desk. -/
def desk (work : Work α) : Job α := fun s =>
  let (result, d) := work.run.run s.toDesk
  .ended { s with toDesk := d } result

/-- Writes a log row. -/
def log (source : Source) (level : Level) (text : String) : Job Unit :=
  desk (Desk.log source level text)

/-- Records an event. -/
def record (e : Event) : Job Unit := desk (Desk.record e)

end Job

/-- Tells the user about an error. -/
def Setup.announce (setup : Setup) (message : String) : Job Unit :=
  let notice : Notice := ⟨.error, message⟩
  Job.record (if setup.showsNotices then .noticed notice else .logged notice.row)

end Gatehouse
