import Gatehouse.Decimal.Numeral

/-! Numerals with very many digits. Not all of them are weighed: behind the first 768 it only counts
    that there are more, and a numeral whose point stands behind those is settled by an estimate
    from its first nineteen digits. An estimate knows how far it may be off; where it cannot tell
    which of two neighbouring binary numbers is nearer, the greater one is taken. -/

namespace Gatehouse.Decimal

/-- An estimated magnitude, `units * 2 ^ scale`, off by at most `slack` eighths of a unit. -/
structure Estimate where
  units : Nat
  scale : Int
  slack : Nat
  deriving DecidableEq, Repr

namespace Estimate

/-- The same estimate with sixty-four binary digits. -/
def normal (e : Estimate) : Estimate :=
  let shift := 63 - e.units.log2
  ⟨e.units * Nat.pow 2 shift, e.scale - shift, e.slack * Nat.pow 2 shift⟩

/-- A power of ten with sixty-four binary digits, off by half a unit at most. -/
def powerOfTen (exponent : Int) : Estimate :=
  let power := Nat.pow 10 exponent.natAbs
  let scale : Int := if 0 ≤ exponent then power.log2 - 63 else -power.log2 - 64
  let numerator := Nat.pow 10 exponent.toNat * Nat.pow 2 (-scale).toNat
  let denominator := Nat.pow 10 (-exponent).toNat * Nat.pow 2 scale.toNat
  ⟨(2 * numerator + denominator) / (2 * denominator), scale, 4⟩

/-- The upper half of a product of two estimates with sixty-four binary digits. It is off by what
    both are off, by half a unit because it is rounded, and by an eighth for the product of the
    two errors. -/
def times (a b : Estimate) : Estimate :=
  ⟨(a.units * b.units + Nat.pow 2 63) / Nat.pow 2 64, a.scale + b.scale + 64,
    a.slack + b.slack + 5⟩

/-- The estimate from the first nineteen of some digits, the last of which has the given exponent.
    The twentieth rounds them. -/
def ofDigits (digits : List Char) (exponent : Int) : Estimate :=
  let up := if (digits[19]?).any ('5' ≤ ·) then 1 else 0
  let first : Estimate := ⟨natOf (digits.take 19) + up, 0, 4⟩
  (first.normal.times (powerOfTen (exponent + digits.length - 19))).normal

/-- The lower of the neighbouring binary numbers if it is certainly the nearer one, and else the
    upper. -/
def toFloat (e : Estimate) : Float :=
  let unit := max (e.scale + 11) (-1074)
  let gap := 8 * Nat.pow 2 (unit - e.scale).toNat
  let units := 8 * e.units / gap
  let units := if 8 * e.units % gap + e.slack ≤ gap / 2 then units else units + 1
  nearest ⟨units * Nat.pow 2 unit.toNat * Nat.pow 5 (-unit).toNat, min unit 0⟩

end Estimate

namespace Numeral

/-- How many digits are weighed. No number between two neighbouring binary numbers and as far from
    both has more. -/
def weighedDigits : Nat := 768

/-- The binary number that a numeral gives when it may have too many digits to be weighed. -/
def estimated (n : Numeral) : Float :=
  let fraction := n.fraction.getD []
  let digits := (n.whole ++ fraction).dropWhile (· = '0')
  let exponent : Int := n.exponent.getD 0 - fraction.length
  let top : Int := digits.length + exponent
  if digits.length ≤ weighedDigits || (digits.drop 19).all (· = '0') || 400 < top.natAbs then
    n.toFloat
  else
    let magnitude :=
      if n.fraction.isSome && weighedDigits + 1 < n.whole.length then
        (Estimate.ofDigits digits exponent).toFloat
      else
        nearest ⟨natOf (digits.take weighedDigits ++ ['1']), top - (weighedDigits + 1)⟩
    if n.sign = some '-' then -magnitude else magnitude

end Numeral

end Gatehouse.Decimal
