import Gatehouse.Decimal.Numeral
import Gatehouse.Text.Blank
import Gatehouse.Text.Digit

/-! Numbers as people write them: with digits of any script, single underscores between digits and
    blanks around the whole. Whole numbers may be written in other bases than ten, and then a mark
    may stand before the digits that tells the base. -/

namespace Gatehouse.Decimal

/-- A number without blanks around it and with ASCII digits. -/
def inAscii (text : String) : List Char :=
  let digit? := fun c => (Text.digitValue? c).map fun d => Char.ofNat ('0'.toNat + d)
  (Text.trim Text.isBlank text.toList).map fun c => (digit? c).getD c

/-- Reads a number. -/
def writtenNumber? (text : String) : Option Float :=
  (withoutUnderscores? Char.isDigit (inAscii text)).bind float?

/-- The value of a digit; letters go on behind the nine, in any case. -/
def digitValue? (c : Char) : Option Nat :=
  if c.isDigit then some (c.toNat - '0'.toNat)
  else if c.isAlpha then some (c.toLower.toNat - 'a'.toNat + 10)
  else none

/-- The marks of bases. -/
def baseMarks : List (Char × Nat) := [('b', 2), ('o', 8), ('x', 16)]

/-- Splits off the mark of a base, which must be the given one; the given base zero stands for the
    one that is marked, and for ten where none is. An underscore may follow a mark. -/
def takeMark (base : Nat) : List Char → Nat × List Char
  | '0' :: c :: rest =>
    match baseMarks.lookup c.toLower with
    | some marked =>
      if base = 0 || base = marked then (marked, if rest.head? = some '_' then rest.tail else rest)
      else (base, '0' :: c :: rest)
    | none => (if base = 0 then 1 else base, '0' :: c :: rest)
  | cs => (if base = 0 then 10 else base, cs)

/-- The most digits of a whole number, unless its base is a power of two. -/
def mostDigits : Nat := 4300

/-- Reads a whole number that is written in a base. Without a mark, a number in the base that is
    marked must not begin with zero, unless it is zero. -/
def writtenWhole? (base : Nat) (text : String) : Option Int := do
  let (sign, body) := Numeral.takeSign (inAscii text)
  let (base, body) := takeMark base body
  let value? := fun c => (digitValue? c).filter (· < base)
  let digits ← withoutUnderscores? (fun c => (value? c).isSome) body
  let n ← digits.foldlM (fun n c => (value? c).map (base * n + ·)) 0
  if digits.isEmpty || !([2, 4, 8, 16, 32].contains base) && mostDigits < digits.length then none
  else some (if sign = some '-' then -(n : Int) else n)

end Gatehouse.Decimal
