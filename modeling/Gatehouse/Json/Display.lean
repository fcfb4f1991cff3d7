import Gatehouse.Json.Basic
import Gatehouse.Json.Writer

/-! Values as messages, query parameters and slots show them: a text is itself at the top and quoted
    inside a container, and the three literals are capitalised. Quoting a value takes one call
    inside another for every level of nesting, and a stack has room for so many only; whole numbers
    are quoted up to so many digits. Messages of replies, tokens and query parameters, which may
    come from anywhere, are shown within these limits. -/

namespace Gatehouse

/-- The shown numbers: laid out as in a slot, with lower-case words for what is not finite. -/
def shownNumber : Decimal.Layout :=
  { Json.slotNumber with nan := "nan", infinity := "inf", minusInfinity := "-inf" }

namespace Json

mutual

/-- The quoted form of a value. -/
def quoted : Json → String
  | .null => "None"
  | .bool true => "True"
  | .bool false => "False"
  | .int n => toString n
  | .float x => shownNumber.render x
  | .str s => Text.quoted s
  | .arr items => "[" ++ ", ".intercalate (quotedItems items) ++ "]"
  | .obj fields => "\x7b" ++ ", ".intercalate (quotedFields fields) ++ "\x7d"

/-- The quoted forms of the items of a list. -/
def quotedItems : List Json → List String
  | [] => []
  | v :: items => quoted v :: quotedItems items

/-- The quoted forms of the fields of an object. -/
def quotedFields : List (String × Json) → List String
  | [] => []
  | (k, v) :: fields => (Text.quoted k ++ ": " ++ quoted v) :: quotedFields fields

end

/-- A value as a text: a text is itself, anything else its quoted form. No limit is heeded here:
    this is for what is meant to be a text already, such as an argument in a path, the credential
    in a header and a value that is written to a slot. -/
def display : Json → String
  | .str s => s
  | v => quoted v

/-- What can stand in the way of showing a value. -/
inductive Obstacle where
  /-- It is nested too deeply for the stack. -/
  | tooDeep
  /-- A whole number in it has too many digits. -/
  | tooLong
  deriving DecidableEq, Repr

/-- The most digits of a whole number that is shown. -/
def shownDigits : Nat := 4300

/-- The room that there usually is: a stack takes a thousand calls, and few of them are open. -/
def usualRoom : Nat := 980

mutual

/-- What is met first that cannot be quoted, on a stack with room for so many levels of calls. -/
def obstacle? : Json → Nat → Option Obstacle
  | _, 0 => some .tooDeep
  | .int n, _ + 1 =>
    if (Decimal.digitsOf n.natAbs).length ≤ shownDigits then none else some .tooLong
  | .arr items, room + 1 => obstacleInItems? items room
  | .obj fields, room + 1 => obstacleInFields? fields room
  | _, _ + 1 => none

/-- What is met first in the items of a list. -/
def obstacleInItems? : List Json → Nat → Option Obstacle
  | [], _ => none
  | v :: items, room => obstacle? v room <|> obstacleInItems? items room

/-- What is met first in the values of an object. A key takes no more room than its value. -/
def obstacleInFields? : List (String × Json) → Nat → Option Obstacle
  | [], _ => none
  | (_, v) :: fields, room => obstacle? v room <|> obstacleInFields? fields room

end

/-- A value as a text, on a stack with room for so many levels of calls, or what stands in the way.
    What is a text already takes no room. -/
def shown (room : Nat) : Json → Except Obstacle String
  | .str s => .ok s
  | v =>
    match obstacle? v room with
    | none => .ok (quoted v)
    | some o => .error o

/-- What is shown does not depend on the room there is for it. -/
theorem display_of_shown {room : Nat} {v : Json} {text : String} (h : v.shown room = .ok text) :
    text = v.display := by
  unfold shown at h
  split at h
  · exact (Except.ok.inj h).symm
  · split at h
    · cases v <;> simp_all [display]
    · cases h

end Json

end Gatehouse
