import Gatehouse.Marked.Basic
import Gatehouse.Marked.Making

/-! Instances of what a name stands for. An instance is made of arguments, then items are put into
    it, and a state may take its place. Nothing that is known here takes fields one by one. -/

namespace Gatehouse.Marked

/-- What an instance is made of: things in a row, and things with names. -/
structure Arguments where
  row : Draft
  named : Draft

namespace Arguments

/-- Nothing to make an instance of. -/
def nothing : Arguments := ⟨.list [], .object []⟩

/-- The arguments in a pair of things. -/
def ofPair : List Draft → Restoring Arguments
  | [row, named] => pure ⟨row, named⟩
  | _ => throw .unwritten

/-- The keys of an object that hold the arguments, the strongest first. -/
def keys : List String := ["py/newargsex", "py/newargs", "py/initargs"]

/-- The key that holds the arguments of an object. -/
def key? (fields : List (String × Json)) : Option String :=
  keys.find? fun key => Record.has fields key

end Arguments

/-- The key of a maker for what an instance lacks; it comes before all arguments. -/
def factoryKey : String := "default_factory"

/-- The fields of a draft, if it is an object. -/
def fieldsOf? : Draft → Option (List (String × Draft))
  | .object fields => some fields
  | .plain (.obj fields) => some (drafts fields)
  | _ => none

/-- Puts a field with a name into an instance, which is refused or leaves no trace. -/
def setField (made : Draft) (name : String) : Restoring Unit :=
  match made with
  | .record s .. =>
    match s.setField name with
    | .ok () => pure ()
    | .error (.invalid ..) | .error (.rejected _) => throw .unwritten
    | .error fault => refuse fault
  | _ => refuse (if name = "__class__" then .unfit else .unchangeable)

/-- Puts the fields of a state into an instance. Reserved ones say nothing. -/
def setFields (made : Draft) (fields : List (String × Draft)) : Restoring Unit :=
  fields.forM fun e => if reservedKeys.contains e.1 then pure () else setField made e.1

/-- Whether a kind passes over arguments with names. -/
def ignoresNames : Maker → Bool
  | .list | .object | .set | .path | .record _ => true
  | _ => false

/-- Makes an instance of a kind without a call. -/
def freshInstance (m : Maker) (factory : Option Draft) (args : Arguments) : Restoring Draft := do
  let row ← itemsOf args.row
  let made ← match fieldsOf? ((← get).behind args.named) with
    | some named =>
      if named.isEmpty || ignoresNames m then m.fresh (factory.toList ++ row)
      else refuse .unfit
    | none => refuse .unfit
  if factory.isSome then setField made factoryKey
  pure made

/-- Makes an instance by a call. -/
def calledInstance (m : Maker) (args : Arguments) : Restoring Draft := do
  m.make (← itemsOf args.row)

/-- An instance that is made where all else fails. -/
def lastResort? : Maker → Option Draft
  | .record s => if s.hasState then none else some (blank s)
  | _ => none

/-- An instance of what a name stands for; none if there is no way to make one. -/
def instance? (named : Draft) (factory : Option Draft) (args : Arguments) :
    Restoring (Option Draft) := do
  match named with
  | .maker m => do
    let fresh ← ifFit (freshInstance m factory args)
    let made ← if fresh.isSome then pure fresh else ifFit (calledInstance m args)
    pure (made <|> lastResort? m)
  | _ => pure none

/-- Puts an item into an instance. -/
def withItem (made item : Draft) : Restoring Draft := do
  match made with
  | .list items => pure (.list (items ++ [item.copied]))
  | .set false members => return .set false (← withMember members item)
  | made => pure made

/-- Whether items can be put into an instance. -/
def takesItems : Draft → Bool
  | .list _ | .set false _ => true
  | _ => false

/-- Whether all that an instance is was said by its arguments. -/
def isWhole : Draft → Bool
  | .plain (.str _) | .plain (.int _) | .plain (.float _) | .plain (.bool _) | .bytes _ => true
  | _ => false

/-- The record that a state holds: its fields, and those with other names. -/
def recordFrom (s : Shape) (state : Draft) : Restoring Draft := do
  let t ← get
  let part := fun (parts : List (String × Draft)) name => (Record.get? parts name).map t.behind
  match fieldsOf? (t.behind state) with
  | none => refuse .notRecord
  | some parts =>
    match fieldsOf? ((part parts "__dict__").getD (.object [])) with
    | none => refuse .unfit
    | some fields =>
      let others := ((part parts "__pydantic_extra__").bind fieldsOf?).getD []
      pure (.record s fields others)

/-- What an instance becomes with a state. A record is taken from it. Otherwise, fields are for the
    instance, and a pair may hold them too; any other state takes the place of an instance that has
    no content of its own. -/
def withState (made state : Draft) : Restoring Draft := do
  let t ← get
  let other := if isWhole made then made else state
  if let .record s .. := made then
    if s.hasState then return ← recordFrom s state
  match t.behind state with
  | .fixedList [first, second] =>
    match fieldsOf? (t.behind second) with
    | some fields => do
      setFields made fields
      setFields made ((fieldsOf? (t.behind first)).getD [])
      pure made
    | none => pure other
  | d =>
    match fieldsOf? d with
    | some fields => do
      setFields made fields
      pure made
    | none => pure other

end Gatehouse.Marked
