import Gatehouse.Decimal.Shortest

/-! How a number is laid out once its digits are known. Everything a format decides is in one
    record; the layout itself has three positional cases (the point after, inside or before the
    digits) and one case with an exponent. -/

namespace Gatehouse.Decimal

/-- The decisions of a number format. -/
structure Layout where
  /-- The least exponent of the leading digit that is written positionally. -/
  plainFrom : Int
  /-- The first exponent beyond those written positionally. -/
  plainBelow : Int
  /-- The least number of digits of an exponent. -/
  exponentWidth : Nat
  nan : String
  infinity : String
  minusInfinity : String

/-- The decimal digits of a natural number. -/
def digitsOf (n : Nat) : List Char := Nat.toDigits 10 n

/-- Zeros in front of a text up to a width. -/
def padded (width : Nat) (cs : List Char) : List Char :=
  List.replicate (width - cs.length) '0' ++ cs

namespace Layout

/-- The text of a non-zero magnitude. -/
def magnitude (f : Layout) (d : Magnitude) : List Char :=
  let digits := digitsOf d.digits
  let leading : Int := (digits.length : Int) - 1 + d.exponent
  if f.plainFrom ≤ leading ∧ leading < f.plainBelow then
    if 0 ≤ d.exponent then digits ++ List.replicate d.exponent.toNat '0' ++ ['.', '0']
    else if 0 ≤ leading then
      digits.take (leading + 1).toNat ++ '.' :: digits.drop (leading + 1).toNat
    else ['0', '.'] ++ List.replicate (-leading - 1).toNat '0' ++ digits
  else
    let mantissa := match digits with
      | first :: second :: rest => first :: '.' :: second :: rest
      | short => short
    mantissa ++ ['e', if leading < 0 then '-' else '+'] ++
      padded f.exponentWidth (digitsOf leading.natAbs)

/-- The text of a number. -/
def render (f : Layout) (x : Float) : String :=
  match Binary.ofFloat? x with
  | none => if x.isNaN then f.nan else if isNegative x then f.minusInfinity else f.infinity
  | some b =>
    let body := if b.units = 0 then ['0', '.', '0'] else f.magnitude b.shortest
    String.ofList (if isNegative x then '-' :: body else body)

end Layout

end Gatehouse.Decimal
