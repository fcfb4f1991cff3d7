import Gatehouse.Marked.Calling
import Gatehouse.Marked.Instance
import Gatehouse.Marked.Names
import Gatehouse.Text.Armour

/-! Restoring what a slot holds: the marks are followed from the outside to the inside, and the
    containers are numbered on the way. Names are looked up in a table, and what is not there is
    missing. Most marks make do with data of a type that they cannot use: they come out empty. -/

namespace Gatehouse.Marked

variable (names : Names)

/-- What two names with a slash between them stand for: a module, and something inside of it. What
    is missing is null. It is numbered like a container, but only once. -/
def inModule (text : String) : Restoring Draft :=
  match text.toList.splitOn '/' with
  | [[], _] => throw .unwritten
  | [moduleName, name] =>
    let found := names.within? (String.ofList moduleName) (String.ofList name)
    registerOnce (found.getD (.plain .null))
  | _ => throw .unwritten

/-- The items of a value that is no list: the characters of a text, the keys of an object. -/
def looseItems (v : Json) : List Draft := (Table.items? #[] (.plain v)).getD []

/-- Follows a mark whose value is no list. -/
def follow (mark : Mark) (object : Json) (v : Json) : Restoring Draft :=
  match mark, v with
  | .fixedList, v => pure (.fixedList (looseItems v))
  | .set, v => return .set false (← membersOf (looseItems v))
  | .bytes64, .str s => pure (.bytes ((Text.bytes64? s.toList).getD []))
  | .bytes85, .str s => pure (.bytes ((Text.bytes85? s.toList).getD []))
  | .bytes64, _ | .bytes85, _ => pure (.bytes [])
  | .reference, v => refer v
  | .iteration, v => return .iteration (← enter (some (.list (looseItems v))))
  | .instanceOf, .str _ => register (.plain object)
  | .named, .str name => pure ((names.find? name).getD (.plain object))
  | .call, .str s => do called (← enter none) (Draft.characters s)
  | .call, .obj fields => do called (← enter none) (fields.map fun e => .text e.1)
  | .call, _ => do complete (← enter none) (.list [])
  | .function, .str name => pure ((names.find? name).getD (.plain .null))
  | .inModule, .str text => inModule names text
  | _, _ => refuse .notName

/-- What the name of the class of an object stands for. -/
def classOf? (mark : Mark) (fields : List (String × Json)) : Option Draft :=
  match mark, Record.get? fields "py/object" with
  | .instanceOf, some (.str name) => names.find? name
  | _, _ => none

/-- The key of what a packed thing is made of. -/
def packedKey : String := "__reduce__"

mutual

/-- Restores a value. -/
def restore : Json → Restoring Draft
  | .arr items => do
    let number ← enter (some (.list []))
    complete number (.list (← restoreItems items))
  | .obj fields =>
    match mark? fields with
    | none => do
      let number ← enter (some (.object []))
      restoreFields number [] fields
    | some (key, mark) =>
      match classOf? names mark fields with
      | none => restoreMark key mark (.obj fields) fields
      | some (.maker .moment) => do
        let number ← enter none
        complete number (← restorePacked fields)
      | some named => do
        let number ← enter none
        let factory ← restoreUnder factoryKey fields
        let args ← match Arguments.key? fields with
          | some key => restoreArguments key fields
          | none => pure .nothing
        match ← instance? named (factory.filter Draft.isPresent) args with
        | none => register (.plain (.obj (Record.erase fields factoryKey)))
        | some made => do
          discard (complete number made)
          match made with
          | .fixedList _ => pure made
          | made => do
            restoreParts made fields
            let made ← restoreSeries number made fields
            match ← restoreUnder "py/state" fields with
            | some state => withState made state
            | none => pure made
  | v => pure (.plain v)

/-- Restores items one after another. -/
def restoreItems : List Json → Restoring (List Draft)
  | [] => pure []
  | v :: items => do
    let d ← restore v
    pure (d :: (← restoreItems items))

/-- Restores things one after another, except those that say nothing. -/
def restorePresent : List Json → Restoring (List Draft)
  | [] => pure []
  | v :: items => do
    let d ← if v.isPresent then restore v else pure (.plain v)
    pure (d :: (← restorePresent items))

/-- Restores the fields of the object with a number one after another, those in `done` being done in
    reverse. The object has them at once. -/
def restoreFields (number : Nat) (done : List (String × Draft)) :
    List (String × Json) → Restoring Draft
  | [] => complete number (.object done.reverse)
  | (k, v) :: fields => do
    let done := (k, ← restore v) :: done
    discard (complete number (.object done.reverse))
    restoreFields number done fields

/-- Restores the members of a set one after another, those in `done` being done; they must be
    fixed. -/
def restoreMembers (done : List Draft) : List Json → Restoring (List Draft)
  | [] => pure done
  | v :: items => do
    let done ← withMember done (← restore v)
    restoreMembers done items

/-- Restores the value under a key. -/
def restoreUnder (key : String) : List (String × Json) → Restoring (Option Draft)
  | [] => pure none
  | (k, v) :: fields =>
    if k = key then do
      let d ← restore v
      pure (some d)
    else restoreUnder key fields

/-- Restores the arguments of an instance under a key: a row of things, or a pair of a row and of
    things with names. -/
def restoreArguments (key : String) : List (String × Json) → Restoring Arguments
  | [] => pure .nothing
  | (k, v) :: fields =>
    if k ≠ key then restoreArguments key fields
    else if key ≠ "py/newargsex" then do
      let row ← if v.isPresent then restore v else pure (.plain v)
      pure ⟨row, .object []⟩
    else
      match v with
      | .arr items =>
        if items.length = 2 then do
          let items ← restorePresent items
          Arguments.ofPair items
        else throw .unwritten
      | v => do Arguments.ofPair (← itemsOf (.plain v))

/-- Restores the fields of an instance one after another, and puts them into it. -/
def restoreParts (made : Draft) : List (String × Json) → Restoring Unit
  | [] => pure ()
  | (k, v) :: fields =>
    if reservedKeys.contains k || k = factoryKey then restoreParts made fields
    else do
      discard (restore v)
      setField made k
      restoreParts made fields

/-- Restores something that is packed: a kind, the bytes that are written in a text, and what else
    it is made of. -/
def restorePacked : List (String × Json) → Restoring Draft
  | [] => refuse .noEntry
  | (k, v) :: fields =>
    if k ≠ packedKey then restorePacked fields
    else
      match v with
      | .arr [kind, .arr (.str s :: rest)] => do
        let kind ← restore kind
        let rest ← restoreItems rest
        match kind, Text.bytes64? s.toList with
        | .maker m, some content => m.fresh (.bytes content :: rest)
        | _, none => throw .unwritten
        | _, _ => refuse .unfit
      | .arr [_, _] => refuse .unfit
      | .arr _ => throw .unwritten
      | _ => refuse .unfit

/-- Restores the items of an instance, and puts them into it. -/
def restoreSeries (number : Nat) (made : Draft) : List (String × Json) → Restoring Draft
  | [] => pure made
  | (k, v) :: fields =>
    if k ≠ "py/seq" then restoreSeries number made fields
    else if !takesItems made then pure made
    else
      match v with
      | .arr items => restoreInto number made items
      | v => do
        let made ← (← itemsOf (.plain v)).foldlM withItem made
        complete number made

/-- Restores items one after another, and puts each into the instance with a number. -/
def restoreInto (number : Nat) (made : Draft) : List Json → Restoring Draft
  | [] => pure made
  | v :: items => do
    let d ← restore v
    let made ← withItem made d
    discard (complete number made)
    restoreInto number made items

/-- Restores a marked object: finds the value under the key and does what the mark asks for. -/
def restoreMark (key : String) (mark : Mark) (object : Json) :
    List (String × Json) → Restoring Draft
  | [] => pure (.plain object)
  | (k, v) :: fields =>
    if k ≠ key then restoreMark key mark object fields
    else
      match mark, v with
      | .fixedList, .arr items => do
        return .fixedList ((← ifFit (restoreItems items)).getD [])
      | .set, .arr items => do
        return .set false ((← ifFit (restoreMembers [] items)).getD [])
      | .iteration, .arr items => do
        let number ← enter (some (.list []))
        discard (ifFit do complete number (.list (← restoreItems items)))
        pure (.iteration number)
      | .call, .arr items => do
        let number ← enter none
        match ← ifFit (restoreItems items) with
        | some parts => called number parts
        | none => complete number (.list [])
      | mark, v => follow names mark object v

end

/-- What a value stands for that was read from a slot. -/
def restored (v : Json) : Except Refusal Json :=
  match (restore names v).run.run #[] with
  | (.error refusal, _) => .error refusal
  | (.ok d, t) =>
    match d.finished? t with
    | some v => .ok v
    | none => .error (.refused .unfit)

end Gatehouse.Marked
