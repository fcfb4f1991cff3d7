import Gatehouse.Decimal.Binary

/-! The fewest digits that identify a binary number. The reals that round to a value form an
    interval around it; on the grids of one, two, three … digits the value's two neighbours are
    tried, and the first grid with a neighbour inside the interval gives the digits, the nearer
    neighbour winning and an even digit winning a tie. -/

namespace Gatehouse.Decimal

/-- Whether a decimal lies among the reals that round to the value. The ends of the interval round
    to the value exactly when its count of units is even. -/
def Binary.identifiedBy (b : Binary) (d : Magnitude) : Bool :=
  let low := if b.narrowBelow then 4 * b.units - 1 else 4 * b.units - 2
  let high := 4 * b.units + 2
  let closed := b.units % 2 == 0
  let below := d.compareTo low (b.scale - 2)
  let above := d.compareTo high (b.scale - 2)
  (below == .gt || (closed && below == .eq)) && (above == .lt || (closed && above == .eq))

/-- The value divided by `10 ^ e`, rounded down. -/
def Binary.quotient (b : Binary) (e : Int) : Nat :=
  b.units * Nat.pow 2 b.scale.toNat * Nat.pow 10 (-e).toNat /
    (Nat.pow 2 (-b.scale).toNat * Nat.pow 10 e.toNat)

/-- The number of places before the point: the value lies below `10 ^ places` and not below a tenth
    of it. -/
def Binary.places (b : Binary) : Int :=
  if b.scale ≥ 0 then digitCount (b.units * Nat.pow 2 b.scale.toNat)
  else
    let shift := (-b.scale).toNat
    (digitCount (b.units * Nat.pow 10 shift / Nat.pow 2 shift) : Int) - shift

/-- The better of the two neighbours on the grid of `10 ^ e`, if either identifies the value. -/
def Binary.onGrid? (b : Binary) (e : Int) : Option Magnitude :=
  let floor := b.quotient e
  let lower : Magnitude := ⟨floor, e⟩
  let upper : Magnitude := ⟨floor + 1, e⟩
  match b.identifiedBy lower, b.identifiedBy upper with
  | false, false => none
  | true, false => some lower
  | false, true => some upper
  | true, true =>
    match Magnitude.compareTo ⟨2 * floor + 1, e⟩ (2 * b.units) b.scale with
    | .gt => some lower
    | .lt => some upper
    | .eq => some (if floor % 2 == 0 then lower else upper)

/-- Moves trailing zeros of the digits into the exponent, at most `fuel` of them. -/
def Magnitude.strip (fuel : Nat) (d : Magnitude) : Magnitude :=
  match fuel with
  | 0 => d
  | fuel + 1 =>
    if d.digits % 10 = 0 && d.digits ≠ 0 then strip fuel ⟨d.digits / 10, d.exponent + 1⟩ else d

/-- The shortest decimal that identifies a non-zero value. Seventeen digits always suffice; were
    they not to, the exact value would be given. -/
def Binary.shortest (b : Binary) : Magnitude :=
  let places := b.places
  let found := (List.range 17).findSome? fun (n : Nat) => b.onGrid? (places - (n + 1 : Nat))
  let exact : Magnitude :=
    ⟨b.units * Nat.pow 2 b.scale.toNat * Nat.pow 5 (-b.scale).toNat, min b.scale 0⟩
  Magnitude.strip 400 (found.getD exact)

end Gatehouse.Decimal
