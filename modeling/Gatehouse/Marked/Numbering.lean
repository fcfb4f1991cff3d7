import Gatehouse.Fault
import Gatehouse.Marked.Draft

/-! Work on the numbered containers. It either goes on or is refused, and a refusal may be met on
    the way: data of a type that cannot be used is not always the end. -/

namespace Gatehouse.Marked

/-- Why a value cannot be restored. -/
inductive Refusal where
  /-- The text was not written as a value; it stands for itself. -/
  | unwritten
  | refused (fault : Fault)

/-- Work on the numbered containers. They stay as they are when a value is refused. -/
abbrev Restoring := ExceptT Refusal (StateM Table)

/-- Refuses a value because of a fault. -/
def refuse {α : Type} (fault : Fault) : Restoring α := throw (.refused fault)

/-- Goes on without a result where a value of the wrong type was met. -/
def ifFit {α : Type} (work : Restoring α) : Restoring (Option α) :=
  tryCatch (some <$> work) fun refusal =>
    match refusal with
    | .refused .unfit => pure none
    | refusal => throw refusal

/-- Gives the next number to a container that begins as `d`. -/
def enter (d : Option Draft) : Restoring Nat := modifyGet fun t => (t.size, t.push d)

/-- What a container is from now on. -/
def complete (number : Nat) (d : Draft) : Restoring Draft := do
  modify fun t => t.setIfInBounds number (some d)
  pure d

/-- Gives the next number to something that is there from the beginning. -/
def register (d : Draft) : Restoring Draft := do
  discard (enter (some d))
  pure d

/-- Gives a number to something unchangeable, unless it has one. -/
def registerOnce (d : Draft) : Restoring Draft := do
  if (← get).any fun known => known.any d.isSame then pure d else register d

/-- The number under the key of a reference. -/
def number? : Json → Option Int
  | .int n => some n
  | .bool b => some (if b then 1 else 0)
  | _ => none

/-- Refers to a container. What is no number refers to nothing. -/
def refer (v : Json) : Restoring Draft := do
  let t ← get
  match number? v with
  | none => pure (.plain .null)
  | some number =>
    match t.place? number with
    | none => pure (.awaited number)
    | some place => pure (if (t.draft? place).isSome then .shared place else .pending place)

/-- The things that come out of a draft; it must be one that gives any. -/
def itemsOf (d : Draft) : Restoring (List Draft) := do
  match (← get).items? d with
  | some items => pure items
  | none => refuse .unfit

/-- The two parts of a pair. -/
def pairOf (d : Draft) : Restoring (Draft × Draft) := do
  match ← itemsOf d with
  | [a, b] => pure (a, b)
  | _ => throw .unwritten

end Gatehouse.Marked
