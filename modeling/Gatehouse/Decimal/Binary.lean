/-! Binary floating-point numbers as exact numbers. A finite value is a natural number of units,
    each unit a power of two; a decimal is a natural number of units, each a power of ten. Comparing
    the two is cross-multiplication of naturals, so nothing here rounds. Powers are written as those
    of the naturals by name, so that they mean the same wherever else powers are defined. -/

namespace Gatehouse.Decimal

/-- A finite magnitude, `units * 2 ^ scale`. -/
structure Binary where
  units : Nat
  scale : Int
  /-- The gap to the value below is half the gap to the value above. -/
  narrowBelow : Bool
  deriving DecidableEq, Repr

/-- The magnitude of a finite number. Infinities and non-numbers have none. -/
def Binary.ofFloat? (x : Float) : Option Binary :=
  let bits : Nat := x.toBits.toNat
  let exponent : Nat := bits / Nat.pow 2 52 % Nat.pow 2 11
  let fraction : Nat := bits % Nat.pow 2 52
  if exponent = 2047 then none
  else if exponent = 0 then some ⟨fraction, -1074, false⟩
  else some ⟨Nat.pow 2 52 + fraction, (exponent : Int) - 1075, fraction = 0 && exponent > 1⟩

/-- Whether the sign bit is set, also for zero and infinity. -/
def isNegative (x : Float) : Bool := x.toBits.toNat / Nat.pow 2 63 = 1

/-- The integer that a number equals, if there is one. -/
def toInt? (x : Float) : Option Int :=
  match Binary.ofFloat? x with
  | none => none
  | some b =>
    let sign : Int := if isNegative x then -1 else 1
    if 0 ≤ b.scale then some (sign * (b.units * Nat.pow 2 b.scale.toNat : Nat))
    else
      let unit := Nat.pow 2 (-b.scale).toNat
      if b.units % unit = 0 then some (sign * (b.units / unit : Nat)) else none

/-- The whole part of a finite number. -/
def wholePart? (x : Float) : Option Int :=
  (Binary.ofFloat? x).map fun b =>
    let sign : Int := if isNegative x then -1 else 1
    sign * (b.units * Nat.pow 2 b.scale.toNat / Nat.pow 2 (-b.scale).toNat : Nat)

/-- A decimal magnitude, `digits * 10 ^ exponent`. -/
structure Magnitude where
  digits : Nat
  exponent : Int
  deriving DecidableEq, Repr

/-- How many decimal digits a number has; zero has none. -/
def digitCount (n : Nat) : Nat := if n = 0 then 0 else (Nat.toDigits 10 n).length

/-- The binary number nearest to a decimal one, ties to even; infinite where the decimal is too
    large. The position of the leading digit alone settles the far ends of the range, so no huge
    power of ten is ever computed. -/
def nearest (d : Magnitude) : Float :=
  let top : Int := digitCount d.digits + d.exponent
  if d.digits = 0 || top < -400 then 0.0
  else if top > 400 then 1.0 / 0.0
  else Float.ofScientific d.digits (d.exponent < 0) d.exponent.natAbs

/-- Compares a decimal magnitude with `n * 2 ^ j`. -/
def Magnitude.compareTo (d : Magnitude) (n : Nat) (j : Int) : Ordering :=
  compare (d.digits * Nat.pow 10 d.exponent.toNat * Nat.pow 2 (-j).toNat)
    (n * Nat.pow 2 j.toNat * Nat.pow 10 (-d.exponent).toNat)

end Gatehouse.Decimal
