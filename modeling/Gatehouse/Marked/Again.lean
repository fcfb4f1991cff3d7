import Gatehouse.Marked.Numbering

/-! Restoring again. What has been restored already can be restored once more, and then each of its
    containers is made anew, with a number of its own. A container that is still being read is made
    anew as far as it goes. -/

namespace Gatehouse.Marked

mutual

/-- Restores a draft again, where `follow` does so with the container that has a number. -/
def Draft.again (follow : Nat → Restoring Draft) : Draft → Restoring Draft
  | .list items => do
    let number ← enter (some (.list []))
    complete number (.list (← againItems follow items))
  | .object fields => do
    let number ← enter (some (.object []))
    againFields follow number [] fields
  | .shared number => follow number
  | d => pure d

/-- Restores items again, one after another. -/
def againItems (follow : Nat → Restoring Draft) : List Draft → Restoring (List Draft)
  | [] => pure []
  | d :: items => do
    let d ← d.again follow
    pure (d :: (← againItems follow items))

/-- Restores the fields of the object with a number again, those in `done` being done in reverse. -/
def againFields (follow : Nat → Restoring Draft) (number : Nat)
    (done : List (String × Draft)) : List (String × Draft) → Restoring Draft
  | [] => complete number (.object done.reverse)
  | (k, d) :: fields => do
    let done := (k, ← d.again follow) :: done
    discard (complete number (.object done.reverse))
    againFields follow number done fields

end

/-- Restores the container with a number again. At most `depth` containers are entered one inside
    another; where more are asked for, one of them leads back into itself. -/
def againAt : Nat → Nat → Restoring Draft
  | 0, _ => refuse .endless
  | depth + 1, number => do ((← get).behind (.shared number)).again (againAt depth)

/-- Restores a draft again. -/
def again (d : Draft) : Restoring Draft := do d.again (againAt (← get).size)

end Gatehouse.Marked
