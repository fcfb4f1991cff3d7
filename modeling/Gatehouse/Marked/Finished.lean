import Gatehouse.Json.Display
import Gatehouse.Marked.Draft

/-! What becomes of a draft. In the end its references are followed and it is written as a value;
    before that it can be shown as a text, with what is known at that moment. -/

namespace Gatehouse.Marked

mutual

/-- The value that a draft writes, where `look` gives the values of numbers. Sets, bytes,
    iterations and makers write none. What was not there when it was referred to can still be put
    into a list or an object, and into nothing else. -/
def Draft.value? (look : Int → Option Json) : Draft → Option Json
  | .plain v => some v
  | .list items => (itemValues? look items).map .arr
  | .object fields => (fieldValues? look fields).map .obj
  | .fixedList items => (fixedValues? look items).map .arr
  | .path p => some (.str p.text)
  | .moment m => some (.str m.text)
  | .record s fields others => do
    s.write? (← fieldValues? look fields) (← fieldValues? look others)
  | .shared number => look number
  | .set .. | .bytes _ | .iteration _ | .maker _ | .formless | .awaited _ | .pending _ => none

/-- The values of the items of a list. A call that never ended gives null. -/
def itemValues? (look : Int → Option Json) : List Draft → Option (List Json)
  | [] => some []
  | .awaited number :: items => do return (← look number) :: (← itemValues? look items)
  | .pending number :: items => do
    return (look number).getD .null :: (← itemValues? look items)
  | d :: items => do return (← d.value? look) :: (← itemValues? look items)

/-- The values of the fields of an object. A call that never ended gives null. -/
def fieldValues? (look : Int → Option Json) :
    List (String × Draft) → Option (List (String × Json))
  | [] => some []
  | (k, .awaited number) :: fields => do
    return (k, ← look number) :: (← fieldValues? look fields)
  | (k, .pending number) :: fields => do
    return (k, (look number).getD .null) :: (← fieldValues? look fields)
  | (k, d) :: fields => do return (k, ← d.value? look) :: (← fieldValues? look fields)

/-- The values of the items of a fixed list. -/
def fixedValues? (look : Int → Option Json) : List Draft → Option (List Json)
  | [] => some []
  | d :: items => do return (← d.value? look) :: (← fixedValues? look items)

end

/-- The value of a number in the end; null where there is no container, and none for a call that
    never ended. At most `depth` containers are entered one inside another: more of them than there
    are lead nowhere. -/
def Table.value? (t : Table) (depth : Nat) (number : Int) : Option Json :=
  match t.place? number, depth with
  | none, _ => some .null
  | some _, 0 => none
  | some place, depth + 1 => (t.draft? place).bind (Draft.value? (t.value? depth))

/-- The value that a draft writes in the end. -/
def Draft.finished? (d : Draft) (t : Table) : Option Json := d.value? (t.value? t.size)

mutual

/-- The quoted form of a draft, if it has one, where `look` gives those of numbers. -/
def Draft.quoted? (look : Nat → Option String) : Draft → Option String
  | .plain v => some v.quoted
  | .list items => (quotedItems? look items).map fun l => "[" ++ ", ".intercalate l ++ "]"
  | .fixedList [d] => (d.quoted? look).map fun s => "(" ++ s ++ ",)"
  | .fixedList items => (quotedItems? look items).map fun l => "(" ++ ", ".intercalate l ++ ")"
  | .object fields =>
    (quotedFields? look fields).map fun l => "\x7b" ++ ", ".intercalate l ++ "\x7d"
  | .bytes content => some (Text.quotedBytes content)
  | .set isFixed [] => some (if isFixed then "frozenset()" else "set()")
  | .set isFixed items =>
    (quotedItems? look items).map fun l =>
      let body := "\x7b" ++ ", ".intercalate l ++ "\x7d"
      if isFixed then "frozenset(" ++ body ++ ")" else body
  | .shared number => look number
  | _ => none

/-- The quoted forms of items. -/
def quotedItems? (look : Nat → Option String) : List Draft → Option (List String)
  | [] => some []
  | d :: items => do return (← d.quoted? look) :: (← quotedItems? look items)

/-- The quoted forms of fields. -/
def quotedFields? (look : Nat → Option String) :
    List (String × Draft) → Option (List String)
  | [] => some []
  | (k, d) :: fields => do
    return (Text.quoted k ++ ": " ++ (← d.quoted? look)) :: (← quotedFields? look fields)

end

namespace Table

/-- The quoted form of the container with a number. At most `depth` containers are entered one
    inside another. -/
def quoted? (t : Table) : Nat → Nat → Option String
  | 0, _ => none
  | depth + 1, number => (t.draft? number).bind (Draft.quoted? (t.quoted? depth))

/-- A draft as a text, if it can be shown: a text is itself, paths and moments are written as
    such, and anything else has its quoted form. -/
def shown? (t : Table) (d : Draft) : Option String :=
  match t.behind d with
  | .plain v => some v.display
  | .path p => some p.text
  | .moment m => some (m.textWith " ")
  | d => d.quoted? (t.quoted? t.size)

end Table

end Gatehouse.Marked
