import Gatehouse.Json.Basic

/-! Marked values. Inside a slot, an object with one of some keys does not stand for itself: it
    marks something that plain data cannot say, such as a fixed list, bytes, or a container that was
    read before. Writing drops the reserved keys at any depth. -/

namespace Gatehouse.Marked

/-- The keys that are never written. -/
def reservedKeys : List String :=
  ["py/bytes", "py/function", "py/id", "py/initargs", "py/iterator", "py/mod", "py/newargs",
    "py/newargsex", "py/newobj", "py/object", "py/property", "py/reduce", "py/ref", "py/repr",
    "py/seq", "py/set", "py/state", "py/tuple", "py/type"]

mutual

/-- A value without reserved keys at any depth. -/
def unmarked : Json → Json
  | .arr items => .arr (unmarkedItems items)
  | .obj fields => .obj (unmarkedFields fields)
  | v => v

/-- Items without reserved keys. -/
def unmarkedItems : List Json → List Json
  | [] => []
  | v :: items => unmarked v :: unmarkedItems items

/-- Fields without reserved keys. -/
def unmarkedFields : List (String × Json) → List (String × Json)
  | [] => []
  | (k, v) :: fields =>
    if reservedKeys.contains k then unmarkedFields fields
    else (k, unmarked v) :: unmarkedFields fields

end

/-- What a marked object may be. -/
inductive Mark where
  /-- A list that cannot be changed. -/
  | fixedList
  | set
  /-- Bytes in base sixty-four. -/
  | bytes64
  /-- Bytes in base eighty-five. -/
  | bytes85
  /-- A container, by its number. -/
  | reference
  /-- A running iteration over items. -/
  | iteration
  /-- An object of a named class. -/
  | instanceOf
  /-- A class, by its name. -/
  | named
  /-- The result of calling the first of the items. -/
  | call
  /-- A function, by its name. -/
  | function
  /-- Something inside a module, by the names of both. -/
  | inModule
  deriving DecidableEq, Repr

/-- The keys that mark an object, the strongest first. -/
def keys : List (String × Mark) :=
  [("py/tuple", .fixedList), ("py/set", .set), ("py/b64", .bytes64), ("py/b85", .bytes85),
    ("py/id", .reference), ("py/iterator", .iteration), ("py/object", .instanceOf),
    ("py/type", .named), ("py/reduce", .call), ("py/function", .function), ("py/mod", .inModule),
    ("py/repr", .inModule)]

/-- The strongest mark of an object, and the key that carries it. -/
def mark? (fields : List (String × Json)) : Option (String × Mark) :=
  keys.find? fun k => fields.any fun e => e.1 = k.1

end Gatehouse.Marked
