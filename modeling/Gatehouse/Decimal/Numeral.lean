import Gatehouse.Decimal.Binary

/-! Number texts. A numeral is taken apart into its sign, its digits before and after the point and
    its exponent; a grammar is then a condition on the parts, and the value is the binary number
    nearest to the decimal that the parts write. -/

namespace Gatehouse.Decimal

/-- The natural number that a row of ASCII digits writes. -/
def natOf (digits : List Char) : Nat := digits.foldl (fun n c => 10 * n + (c.toNat - '0'.toNat)) 0

/-- The parts of a number text. -/
structure Numeral where
  sign : Option Char
  whole : List Char
  fraction : Option (List Char)
  exponent : Option Int

namespace Numeral

/-- Splits off a leading sign. -/
def takeSign : List Char → Option Char × List Char
  | '+' :: rest => (some '+', rest)
  | '-' :: rest => (some '-', rest)
  | cs => (none, cs)

/-- Reads what may follow the digits: nothing, or a mark and an exponent with digits. -/
def exponent? : List Char → Option (Option Int)
  | [] => some none
  | mark :: rest =>
    let (sign, digits) := takeSign rest
    if (mark = 'e' || mark = 'E') && !digits.isEmpty && digits.all Char.isDigit then
      let n : Int := natOf digits
      some (some (if sign = some '-' then -n else n))
    else none

/-- Takes a text apart, if it has the parts of a number in their order and nothing else. -/
def ofChars? (cs : List Char) : Option Numeral :=
  let (sign, body) := takeSign cs
  let whole := body.takeWhile Char.isDigit
  match body.dropWhile Char.isDigit with
  | '.' :: rest =>
    (exponent? (rest.dropWhile Char.isDigit)).map
      fun e => ⟨sign, whole, some (rest.takeWhile Char.isDigit), e⟩
  | rest => (exponent? rest).map fun e => ⟨sign, whole, none, e⟩

/-- Whether there is a digit before or after the point. -/
def hasDigits (n : Numeral) : Bool := !n.whole.isEmpty || !(n.fraction.getD []).isEmpty

/-- Whether the text has neither a point nor an exponent. -/
def isWhole (n : Numeral) : Bool := n.fraction.isNone && n.exponent.isNone

/-- The integer that the digits before the point write. -/
def toInt (n : Numeral) : Int := if n.sign = some '-' then -natOf n.whole else natOf n.whole

/-- The nearest binary number. -/
def toFloat (n : Numeral) : Float :=
  let fraction := n.fraction.getD []
  let magnitude := nearest ⟨natOf (n.whole ++ fraction), n.exponent.getD 0 - fraction.length⟩
  if n.sign = some '-' then -magnitude else magnitude

end Numeral

/-- The words for infinity and for a value that is no number, in any case of letters. -/
def special? (word : List Char) : Option Float :=
  let lower := word.map Char.toLower
  if lower = "inf".toList || lower = "infinity".toList then some (1.0 / 0.0)
  else if lower = "nan".toList then some (0.0 / 0.0)
  else none

/-- Reads a number with an optional sign, an optional point with digits on at least one side, and an
    optional exponent; or a signed special word. -/
def float? (cs : List Char) : Option Float :=
  match Numeral.ofChars? cs with
  | some n => if n.hasDigits then some n.toFloat else none
  | none =>
    let (sign, word) := Numeral.takeSign cs
    (special? word).map fun x => if sign = some '-' then -x else x

/-- Removes single underscores that have a kept character on both sides; none if one stands
    elsewhere. -/
def withoutUnderscores? (keeps : Char → Bool) (cs : List Char) : Option (List Char) :=
  go none cs
where
  /-- Goes on after the character `before`. -/
  go (before : Option Char) : List Char → Option (List Char)
    | [] => some []
    | '_' :: c :: rest =>
      if before.any keeps && keeps c then (go (some c) rest).map (c :: ·) else none
    | ['_'] => none
    | c :: rest => (go (some c) rest).map (c :: ·)

end Gatehouse.Decimal
