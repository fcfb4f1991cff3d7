import Gatehouse.Marked.Finished
import Gatehouse.Marked.Reading

/-! What makers make of what they are given. The wrong number of things and things of a wrong type
    are unfit. -/

namespace Gatehouse.Marked

/-- Fields that stand for themselves. -/
def drafts (fields : Record Json) : List (String × Draft) := fields.map fun e => (e.1, .plain e.2)

/-- Puts a member into a set. It must not be able to change, and is in there only once. -/
def withMember (members : List Draft) (d : Draft) : Restoring (List Draft) := do
  if (← get).isFixed d then pure (if members.any d.isSame then members else members ++ [d])
  else refuse .unfit

/-- The members of a set of some things. -/
def membersOf (items : List Draft) : Restoring (List Draft) := items.foldlM withMember []

/-- Puts a field into an object. What names it must not be able to change, and counts as a text. -/
def withField (fields : List (String × Draft)) (key value : Draft) :
    Restoring (List (String × Draft)) := do
  let t ← get
  if t.isFixed key then pure (Record.put fields ((t.shown? key).getD "") value) else refuse .unfit

/-- Puts pairs as fields into an object. -/
def withPairs (fields : List (String × Draft)) (items : List Draft) :
    Restoring (List (String × Draft)) :=
  items.foldlM
    (fun fields d => do
      let (key, value) ← pairOf d
      withField fields key value)
    fields

/-- The fields that an object is made of: those of another one, or pairs. -/
def fieldsFrom : Draft → Restoring (List (String × Draft))
  | .object fields => pure (fields.map fun e => (e.1, e.2.copied))
  | .plain (.obj fields) => pure (drafts fields)
  | d => do withPairs [] (← itemsOf d)

/-- The most zeros that are written out. -/
def mostZeros : Nat := 1000000

/-- The bytes that something gives: as many zeros as a number says, or one byte for each item. -/
def bytesFrom (d : Draft) : Restoring Draft :=
  match d, index? d with
  | .bytes content, _ => pure (.bytes content)
  | .plain (.str _), _ => refuse .unfit
  | _, some n =>
    if n < 0 then throw .unwritten
    else if Nat.pow 2 63 ≤ n then refuse .outOfRange
    else pure (if n ≤ mostZeros then .bytes (List.replicate n.toNat 0) else .formless)
  | d, none => do return .bytes (← (← itemsOf d).mapM byteFrom)

/-- The names of the way in which texts are written as bytes everywhere here. -/
def encodingNames : List String := ["utf-8", "utf8", "utf_8", "UTF-8", "UTF8"]

/-- Writes a text as bytes, or reads one from them, by the name of the way to do so. -/
def recoded (m : Maker) (d name : Draft) : Restoring Draft := do
  let check : Restoring Unit := match name with
    | .plain (.str name) =>
      if encodingNames.contains name then pure () else refuse .unknownEncoding
    | _ => refuse .unfit
  match m, d with
  | .text, .bytes content => do
    check
    return .text (← written (String.fromUTF8? ⟨content.toArray⟩))
  | .bytes, .plain (.str s) => do
    check
    pure (.bytes s.toUTF8.data.toList)
  | _, _ => refuse .unfit

/-- Adds a part to a path. -/
def withPart (base : Path) : Draft → Restoring Path
  | .plain (.str s) => pure ((Path.ofText s).within base)
  | .path p => pure (p.within base)
  | _ => refuse .unfit

/-- The moment with some parts: a day, and as much of a time as is given. No offset may follow. -/
def momentOf (parts : List Draft) : Restoring Moment := do
  let parts := match parts[7]? with
    | some (.plain .null) => parts.eraseIdx 7
    | _ => parts
  match ← parts.mapM partFrom with
  | year :: month :: day :: rest =>
    let part := fun place : Nat => rest[place]?.getD 0
    if 4 < rest.length then refuse .unfit
    else written (Moment.ofParts? year month day (part 0) (part 1) (part 2) (part 3))
  | _ => refuse .unfit

/-- A record with some things as its first fields. Only decisions and outcomes of calls are made in
    this way; other records are made of nothing, as far as they can be. -/
def recordOf (s : Shape) (args : List Draft) : Restoring Draft := do
  if s.hasState || args.isEmpty then
    if !args.isEmpty || s = .decision then refuse .unfit
    else return .record s (drafts (← written s.default?)) []
  else if s.fieldNames.length < args.length then refuse .unfit
  else
    let given := s.fieldNames.zip args
    pure (.record s (given.foldl (fun r e => Record.put r e.1 e.2) (drafts s.initial)) [])

/-- How many items there are in something. -/
def countIn (d : Draft) : Restoring Nat := do
  match d with
  | .iteration _ => refuse .unfit
  | d => return (← itemsOf d).length

/-- Whether something passes a form check. What counts as missing is checked as the empty text. -/
def passes (c : Form.Check) (d : Draft) : Restoring Bool :=
  match d.isPresent, d with
  | false, _ => pure (c.accepts "")
  | true, .plain (.str s) => pure (c.accepts s)
  | true, _ => refuse .unfit

/-- What is made of nothing. -/
def Maker.empty : Maker → Restoring Draft
  | .list => pure (.list [])
  | .fixedList => pure (.fixedList [])
  | .object => pure (.object [])
  | .set => pure (.set false [])
  | .fixedSet => pure (.set true [])
  | .text => pure (.text "")
  | .whole => pure (.whole 0)
  | .number => pure (.plain (.float 0.0))
  | .flag => pure (.plain (.bool false))
  | .bytes => pure (.bytes [])
  | .null => pure (.plain .null)
  | .bare => pure .formless
  | .path => pure (.path (Path.ofText ""))
  | .record s => recordOf s []
  | .role | .moment | .size | .check _ => refuse .unfit

/-- What is made of a single thing. -/
def Maker.ofOne (m : Maker) (d : Draft) : Restoring Draft := do
  match m with
  | .list => return .list (← itemsOf d)
  | .fixedList => return .fixedList (← itemsOf d)
  | .set => return .set false (← membersOf (← itemsOf d))
  | .fixedSet => return .set true (← membersOf (← itemsOf d))
  | .object => return .object (← fieldsFrom d)
  | .text => return (((← get).shown? d).map Draft.text).getD .formless
  | .whole => return .whole (← wholeFrom d)
  | .number => return .plain (.float (← numberFrom d))
  | .flag => pure (.plain (.bool d.isPresent))
  | .bytes => bytesFrom d
  | .role =>
    match d with
    | .plain (.str s) => return .text (← written (BuiltinRole.ofName? s)).name
    | _ => throw .unwritten
  | .path => return .path (← withPart (Path.ofText "") d)
  | .moment =>
    match d with
    | .bytes content => (Moment.packed? content).elim (refuse .unfit) fun m => pure (.moment m)
    | _ => refuse .unfit
  | .record s => recordOf s [d]
  | .size => return .whole (← countIn d)
  | .check c => return .plain (.bool (← passes c d))
  | .null | .bare => refuse .unfit

/-- What a maker makes when it is called. -/
def Maker.make (m : Maker) (args : List Draft) : Restoring Draft := do
  let t ← get
  match m, args with
  | .record s, args => recordOf s args
  | m, [] => m.empty
  | m, [d] => m.ofOne (t.behind d)
  | m, args =>
    match m, args.map t.behind with
    | .whole, [d, base] => return .whole (← wholeInBase d base)
    | .text, [d, name] | .bytes, [d, name] => recoded m d name
    | .path, parts => return .path (← parts.foldlM withPart (Path.ofText ""))
    | .moment, [d, .plain .null] => m.ofOne d
    | .moment, parts => return .moment (← momentOf parts)
    | _, _ => refuse .unfit

/-- A record with nothing but its first fields. -/
def blank (s : Shape) : Draft := .record s (drafts s.initial) []

/-- What a value of a kind begins with, without a call; what is only called has no values.
    Containers that can change begin empty and records with their first fields, whatever they are
    given. -/
def Maker.fresh (m : Maker) (args : List Draft) : Restoring Draft :=
  match m with
  | .size | .check _ => refuse .unfit
  | .list | .object | .set => m.empty
  | .record s => pure (blank s)
  | m => m.make args

end Gatehouse.Marked
