import Gatehouse.Marked.Again
import Gatehouse.Marked.Instance

/-! Calls inside of a slot. A call has up to five parts: what is called, what it is given, the state
    of what came out, and the items and the pairs that are put into it. -/

namespace Gatehouse.Marked

/-- Makes something new without a call: the first thing says of which kind, and the others are what
    it is made of. A first thing that is no kind is restored again before it is refused. -/
def makeNew : List Draft → Restoring Draft
  | .maker m :: args => m.fresh args
  | d :: _ => do
    discard (again d)
    refuse .unfit
  | [] => refuse .noItem

/-- Makes something new of a draft, which must have a first item. -/
def makeNewFrom (d : Draft) : Restoring Draft := do
  match (← get).behind d with
  | .plain (.str _) | .plain (.arr _) | .list _ | .fixedList _ | .bytes _ =>
    match ← itemsOf d with
    | first :: args => makeNew ((← get).behind first :: args)
    | [] => makeNew []
  | .plain (.obj _) | .object _ => refuse .noEntry
  | _ => refuse .unfit

/-- What came out of a call, with a state. Only records can take one; to anything else it must say
    nothing. -/
def withCallState (made state : Draft) : Restoring Draft := do
  let t ← get
  if !(t.behind state).isPresent then pure made
  else
    let refuseState := do
      let (a, b) ← pairOf state
      if (t.behind a).isPresent || (t.behind b).isPresent then refuse .unchangeable else pure made
    match made with
    | .record s .. => if s.hasState then recordFrom s state else refuseState
    | _ => refuseState

/-- Puts items behind those of a list; nothing else takes any. -/
def withItems (made items : Draft) : Restoring Draft := do
  if ((← get).behind items).isPresent then
    let items ← itemsOf items
    match made with
    | .list done => pure (.list (done ++ items))
    | made => if items.isEmpty then pure made else refuse .unchangeable
  else pure made

/-- Puts an item into its place in a list. -/
def withItemAt (items : List Draft) (key value : Draft) : Restoring Draft := do
  match index? key with
  | none => refuse .unfit
  | some n =>
    let place := if n < 0 then n + items.length else n
    if 0 ≤ place && place < items.length then pure (.list (items.set place.toNat value))
    else refuse .noItem

/-- Puts pairs into an object, or into the places of a list. -/
def withEntries (made pairs : Draft) : Restoring Draft := do
  if ((← get).behind pairs).isPresent then
    (← itemsOf pairs).foldlM
      (fun made d => do
        let (key, value) ← pairOf d
        match made with
        | .object fields => return .object (← withField fields key value)
        | .list items => withItemAt items ((← get).behind key) value
        | _ => refuse .unchangeable)
      made
  else pure made

/-- The end of the call with a number, all parts of which have been read. What cannot be called
    leaves an empty list behind. -/
def called (number : Nat) (parts : List Draft) : Restoring Draft := do
  let t ← get
  let part := fun place : Nat => parts[place]?.getD (.plain .null)
  let finish := fun made => do
    let made ← withCallState made (part 2)
    let made ← withItems made (part 3)
    complete number (← withEntries made (part 4))
  if 5 < parts.length then throw .unwritten
  else
    match t.behind (part 0) with
    | .plain (.str "py/newobj") => finish (← makeNewFrom (part 1))
    | .maker m => finish (← m.make (← itemsOf (part 1)))
    | _ => complete number (.list [])

end Gatehouse.Marked
