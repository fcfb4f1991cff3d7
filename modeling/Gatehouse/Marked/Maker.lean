import Gatehouse.Form
import Gatehouse.Marked.Shape

/-! Makers. A name inside of a slot may stand for something that makes values: a kind of values,
    such as lists or records, or something that is only called, such as a form check. -/

namespace Gatehouse.Marked

/-- Something that makes values. -/
inductive Maker where
  | list
  /-- Lists that cannot be changed. -/
  | fixedList
  | object
  | set
  /-- Sets that cannot be changed. -/
  | fixedSet
  | text
  /-- Whole numbers. -/
  | whole
  /-- Binary numbers. -/
  | number
  | flag
  | bytes
  | null
  /-- Things with nothing in them. -/
  | bare
  /-- The built-in roles. -/
  | role
  | path
  | moment
  | record (s : Shape)
  /-- Tells how many items there are in something. -/
  | size
  | check (c : Form.Check)
  deriving DecidableEq, Repr

end Gatehouse.Marked
