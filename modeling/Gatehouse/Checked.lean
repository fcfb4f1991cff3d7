import Gatehouse.Record
import Gatehouse.Json.Basic

/-! Checked values. Data that arrives from outside is looked over field by field, and every mistake
    is reported with the place where it was found, so two checks are combined by keeping the
    mistakes of both. A check of the whole comes after the checks of its parts and only if they
    found nothing. -/

namespace Gatehouse

/-- One step on the way to a value: a field, or one of the two readings of a role. -/
inductive Place where
  | field (name : String)
  | builtinRole
  | roleText
  deriving DecidableEq, Repr

/-- What can be wrong with a value. -/
inductive Problem where
  | missing
  | notObject
  | notText
  | notPath
  | notBuiltinRole
  /-- The value is of a kind that cannot be a whole number. -/
  | notWhole
  | unreadableWhole
  | fractionalWhole
  | oversizedWhole
  | notFinite
  /-- The value is of a kind that cannot be a number. -/
  | notNumber
  | unreadableNumber
  /-- The value is of a kind that cannot be a flag. -/
  | notFlag
  | unreadableFlag
  /-- The value is of a kind that cannot be a moment. -/
  | notMoment
  | unreadableMoment
  | momentOutOfRange
  | notAbove
  | below
  | above
  /-- The value may not be changed. -/
  | fixed
  | refused (reason : String)
  deriving DecidableEq, Repr

/-- A problem and the way to it from the outermost value. -/
structure Mistake where
  place : List Place
  problem : Problem
  deriving DecidableEq, Repr

/-- A value that was found in order, or the mistakes that were found in it. -/
inductive Checked (α : Type) where
  | good (value : α)
  | bad (mistakes : List Mistake)
  deriving DecidableEq, Repr

namespace Checked

variable {α β : Type}

/-- A single problem with the value at hand. -/
def fail (problem : Problem) : Checked α := .bad [⟨[], problem⟩]

/-- Moves the mistakes one step outwards. -/
def within (place : Place) : Checked α → Checked α
  | good a => good a
  | bad mistakes => bad (mistakes.map fun m => ⟨place :: m.place, m.problem⟩)

/-- Two checks side by side: the mistakes of both are kept. -/
def both : Checked α → Checked β → Checked (α × β)
  | good a, good b => good (a, b)
  | good _, bad found => bad found
  | bad found, good _ => bad found
  | bad first, bad second => bad (first ++ second)

/-- A change of a good value. -/
def map (f : α → β) : Checked α → Checked β
  | good a => good (f a)
  | bad mistakes => bad mistakes

/-- A further check of a good value. -/
def andThen (c : Checked α) (f : α → Checked β) : Checked β :=
  match c with
  | good a => f a
  | bad mistakes => bad mistakes

/-- The value, if it was found in order. -/
def toOption : Checked α → Option α
  | good a => some a
  | bad _ => none

instance : Applicative Checked where
  pure := good
  seq f a := (f.both (a ())).map fun p => p.1 p.2

end Checked

/-- The fields of an object; anything else is no object. -/
def Json.fields : Json → Checked (Record Json)
  | .obj fields => .good fields
  | _ => .fail .notObject

namespace Record

variable {α : Type}

/-- Checks a field that must be there. -/
def required (r : Record Json) (name : String) (check : Json → Checked α) : Checked α :=
  match r.get? name with
  | some v => (check v).within (.field name)
  | none => (Checked.fail .missing).within (.field name)

/-- Checks a field that may be left out; the value that stands for it then is not checked. -/
def optional (r : Record Json) (name : String) (absent : α) (check : Json → Checked α) :
    Checked α :=
  match r.get? name with
  | some v => (check v).within (.field name)
  | none => .good absent

/-- The fields with other names. -/
def without (r : Record Json) (names : List String) : Record Json :=
  r.filter fun e => !names.contains e.1

end Record

end Gatehouse
