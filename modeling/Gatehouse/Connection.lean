/-! Connections to the service. The client holds at most one; it may have been handed to it, and
    then it is never closed by the client. Connections are numbered in the order in which they were
    made. -/

namespace Gatehouse

/-- The connections that were ever made, and the one that is held. -/
structure Connections where
  /-- Whether each connection has been closed. -/
  closed : List Bool
  /-- The place of the held connection among them. -/
  held : Option Nat
  /-- Whether the client made the held connection itself. -/
  owns : Bool
  deriving DecidableEq, Repr

namespace Connections

/-- No connection. -/
def none : Connections := ⟨[], .none, true⟩

/-- One connection, handed over from outside. -/
def borrowed : Connections := ⟨[false], some 0, false⟩

/-- Whether a connection has been closed. -/
def isClosed (c : Connections) (i : Nat) : Bool := c.closed[i]?.getD true

/-- Whether a usable connection is held. -/
def isOpen (c : Connections) : Bool := c.held.any fun i => !c.isClosed i

/-- Makes a connection, unless the held one is still usable. -/
def opened (c : Connections) : Connections :=
  if c.isOpen then c else ⟨c.closed ++ [false], some c.closed.length, true⟩

/-- The held connection is closed by someone else. -/
def cut (c : Connections) : Connections :=
  match c.held with
  | some i => { c with closed := c.closed.set i true }
  | .none => c

/-- Lets go of the held connection, and closes it if the client made it. -/
def released (c : Connections) : Connections :=
  { (if c.owns then c.cut else c) with held := .none }

/-- The number of the held connection, and whether it has been closed. -/
def current? (c : Connections) : Option (Nat × Bool) := c.held.map fun i => (i + 1, c.isClosed i)

end Connections

end Gatehouse
