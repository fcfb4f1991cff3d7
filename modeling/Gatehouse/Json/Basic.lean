import Gatehouse.Record

/-! JSON values. Whole numbers and numbers with a fraction or an exponent are different things, the
    first unbounded and the second binary; objects are records, so they keep their order. -/

namespace Gatehouse

/-- A JSON value. -/
inductive Json where
  | null
  | bool (b : Bool)
  | int (n : Int)
  | float (x : Float)
  | str (s : String)
  | arr (items : List Json)
  | obj (fields : List (String × Json))
  deriving Inhabited

namespace Json

/-- A value counts as present unless it is null, false, zero or empty. -/
def isPresent : Json → Bool
  | null => false
  | bool b => b
  | int n => n != 0
  | float x => x != 0.0
  | str s => s != ""
  | arr items => !items.isEmpty
  | obj fields => !fields.isEmpty

/-- The value, if it counts as present. -/
def present? (v : Json) : Option Json := if v.isPresent then some v else none

end Json

end Gatehouse
