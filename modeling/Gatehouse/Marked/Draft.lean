import Gatehouse.Calendar
import Gatehouse.Json.Basic
import Gatehouse.Marked.Maker
import Gatehouse.Path

/-! Drafts of values. While a value is being restored, its containers are numbered in the order in
    which they are begun; the outermost one has the number zero. A draft may refer to a container by
    its number. The references are followed when everything has been read, and so one may stand
    before the container that it means, or inside of it. -/

namespace Gatehouse.Marked

/-- A value that has been read, but whose references have not been followed. -/
inductive Draft where
  /-- A value that stands for itself. -/
  | plain (v : Json)
  | list (items : List Draft)
  | object (fields : List (String × Draft))
  /-- A list that cannot be changed. -/
  | fixedList (items : List Draft)
  | set (isFixed : Bool) (members : List Draft)
  | bytes (content : List UInt8)
  /-- A running iteration over the items of the list with a number. -/
  | iteration (number : Nat)
  | path (p : Path)
  | moment (m : Moment)
  | record (s : Shape) (fields others : List (String × Draft))
  | maker (m : Maker)
  /-- Something of which no more is known. -/
  | formless
  /-- The container with a number. -/
  | shared (number : Nat)
  /-- A container that was not there when it was referred to. -/
  | awaited (number : Int)
  /-- A call that had not ended when it was referred to. -/
  | pending (number : Nat)

namespace Draft

/-- A text. -/
def text (s : String) : Draft := .plain (.str s)

/-- A whole number. -/
def whole (n : Int) : Draft := .plain (.int n)

/-- A text for each character of a text. -/
def characters (s : String) : List Draft := s.toList.map fun c => text (String.singleton c)

/-- What a copy takes over. A container that is not there yet is lost by it, since only its first
    place is filled in later. -/
def copied : Draft → Draft
  | awaited _ | pending _ => formless
  | d => d

/-- Whether two drafts are one and the same unchangeable thing. -/
def isSame : Draft → Draft → Bool
  | plain .null, plain .null => true
  | plain (.bool a), plain (.bool b) => a == b
  | plain (.int m), plain (.int n) => m == n
  | plain (.float x), plain (.float y) => x.toBits == y.toBits
  | plain (.str s), plain (.str t) => s == t
  | bytes b, bytes c => b == c
  | path p, path q => p == q
  | moment m, moment n => m == n
  | maker m, maker n => m == n
  | _, _ => false

/-- Whether there is anything in a draft. A container that is not there yet counts as something. -/
def isPresent : Draft → Bool
  | plain v => v.isPresent
  | list items | fixedList items | set _ items => !items.isEmpty
  | object fields => !fields.isEmpty
  | bytes content => !content.isEmpty
  | _ => true

end Draft

/-- The numbered containers, each as far as it has been read; a call that has not ended has no
    draft. -/
abbrev Table := Array (Option Draft)

namespace Table

/-- The place of a number; numbers below zero count from the end. -/
def place? (t : Table) (number : Int) : Option Nat :=
  let place := if number < 0 then number + t.size else number
  if 0 ≤ place ∧ place < t.size then some place.toNat else none

/-- The draft at a place, if it has been begun as one. -/
def draft? (t : Table) (place : Nat) : Option Draft := (t[place]?).join

/-- The draft itself instead of a reference to it. -/
def behind (t : Table) : Draft → Draft
  | .shared number => (t.draft? number).getD (.plain .null)
  | d => d

/-- The things that come out of a draft one after another, if it is one that gives any: items,
    members, characters, bytes, keys or roles. -/
def items? (t : Table) (d : Draft) : Option (List Draft) :=
  match t.behind d with
  | .plain (.str s) => some (Draft.characters s)
  | .plain (.arr items) => some (items.map .plain)
  | .plain (.obj fields) => some (fields.map fun e => Draft.text e.1)
  | .list items | .fixedList items | .set _ items => some (items.map Draft.copied)
  | .object fields => some (fields.map fun e => Draft.text e.1)
  | .bytes content => some (content.map fun b => Draft.whole b.toNat)
  | .iteration number =>
    match t.draft? number with
    | some (.list items) => some (items.map Draft.copied)
    | _ => some []
  | .maker .role => some (BuiltinRole.all.map fun r => Draft.text r.name)
  | _ => none

end Table

mutual

/-- Whether nothing inside of a draft can change, as a set demands of its members. -/
def Draft.isFixed (look : Nat → Bool) : Draft → Bool
  | .plain (.obj _) | .plain (.arr _) | .list _ | .object _ => false
  | .record s .. => s.isFixed
  | .set isFixed _ => isFixed
  | .fixedList items => areFixed look items
  | .shared number => look number
  | _ => true

/-- Whether nothing inside of some drafts can change. -/
def areFixed (look : Nat → Bool) : List Draft → Bool
  | [] => true
  | d :: items => d.isFixed look && areFixed look items

end

namespace Table

/-- Whether nothing inside of the container with a number can change. At most `depth` references are
    followed one inside another. -/
def isFixedAt (t : Table) : Nat → Nat → Bool
  | 0, _ => false
  | depth + 1, number => ((t.draft? number).map (Draft.isFixed (t.isFixedAt depth))).getD true

/-- Whether nothing inside of a draft can change. -/
def isFixed (t : Table) (d : Draft) : Bool := d.isFixed (t.isFixedAt t.size)

end Table

end Gatehouse.Marked
