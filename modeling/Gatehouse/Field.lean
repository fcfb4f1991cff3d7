import Gatehouse.Checked
import Gatehouse.Calendar
import Gatehouse.Decimal.Numeral
import Gatehouse.Text.Blank

/-! The kinds of fields. Texts and paths are taken only from texts; numbers, flags and moments are
    also read from texts and from each other where nothing is lost. -/

namespace Gatehouse.Field

open Decimal

/-- A field that may also be null. -/
def nullable {α : Type} (check : Json → Checked α) : Json → Checked (Option α)
  | .null => .good none
  | v => (check v).map some

/-- A text. -/
def text : Json → Checked String
  | .str s => .good s
  | _ => .fail .notText

/-- The most digits of a whole number. -/
def wholeDigits : Nat := 4300

/-- The digits behind a minus sign, if there is one. -/
def behindMinus : List Char → Bool × List Char
  | '-' :: digits => (true, digits)
  | digits => (false, digits)

/-- Reads a plain whole number: digits behind an optional minus sign, without needless zeros. -/
def plainWhole? (cs : List Char) : Option Int :=
  let (isNegative, digits) := behindMinus cs
  if digits.isEmpty || !digits.all Char.isDigit || wholeDigits < digits.length then none
  else if digits.head? = some '0' && 1 < digits.length then none
  else some (if isNegative then -natOf digits else natOf digits)

/-- Whether a text begins with a plain whole number of too many digits. -/
def isOversized (cs : List Char) : Bool :=
  let digits := (behindMinus cs).2.takeWhile Char.isDigit
  digits.head? ≠ some '0' && wholeDigits < digits.length

/-- Goes past the zeros in front of a number, and past underscores among them, after the character
    `last`, which stays if no digit follows. -/
def pastZeros? (last : Char) : List Char → Option (List Char)
  | [] => some [last]
  | c :: rest =>
    if c = '0' || c = '_' then pastZeros? c rest
    else if c = '.' then some (last :: c :: rest)
    else if c.isDigit || c = '-' then some (c :: rest)
    else none

/-- A number without needless zeros in front. It must begin with a digit; behind zeros it may begin
    once more with a minus sign. -/
def significant? : List Char → Option (List Char)
  | '0' :: rest => pastZeros? '0' rest
  | c :: rest => if c.isDigit then some (c :: rest) else none
  | [] => none

/-- A number without a fraction that is nothing but zeros. -/
def withoutZeroFraction (cs : List Char) : List Char :=
  let zeros := (cs.dropWhile (· ≠ '.')).tail
  if !zeros.isEmpty && zeros.all (· = '0') then cs.takeWhile (· ≠ '.') else cs

/-- The plain form of a whole number that is written with blanks around it, a sign, needless zeros,
    single underscores or a fraction of zeros. -/
def plainForm? (cs : List Char) : Option (List Char) := do
  let (sign, body) := Numeral.takeSign (Text.trim Text.isBlank cs)
  let body ← significant? body
  let body ← withoutUnderscores? (· ≠ '_') (withoutZeroFraction body)
  pure (if sign = some '-' then '-' :: body else body)

/-- Reads a whole number, plain or in another form that has a plain one. -/
def wholeOfText (s : String) : Checked Int :=
  let cs := s.toList
  match plainWhole? cs with
  | some n => .good n
  | none =>
    if isOversized cs then .fail .oversizedWhole
    else
      match (plainForm? cs).bind plainWhole? with
      | some n => .good n
      | none => .fail .unreadableWhole

/-- The bound of the whole numbers that are taken from binary ones; the bound itself is not
    taken. -/
def wholeBound : Nat := Nat.pow 2 63

/-- Takes a binary number without a fraction as a whole one. -/
def wholeOfFloat (x : Float) : Checked Int :=
  if x.isNaN || x.isInf then .fail .notFinite
  else
    match toInt? x with
    | none => .fail .fractionalWhole
    | some n => if n.natAbs < wholeBound then .good n else .fail .oversizedWhole

/-- A whole number. -/
def whole : Json → Checked Int
  | .int n => .good n
  | .bool b => .good (if b then 1 else 0)
  | .float x => wholeOfFloat x
  | .str s => wholeOfText s
  | _ => .fail .notWhole

/-- The binary number nearest to a whole one. -/
def floatOfInt (n : Int) : Float :=
  let magnitude := nearest ⟨n.natAbs, 0⟩
  if n < 0 then -magnitude else magnitude

/-- Reads a number. Blanks around it or single underscores inside it are allowed, but not both. -/
def numberOfText? (s : String) : Option Float :=
  (float? (Text.trim Text.isBlank s.toList)).or
    ((withoutUnderscores? (· ≠ '_') s.toList).bind float?)

/-- A number. -/
def number : Json → Checked Float
  | .int n => if (floatOfInt n).isInf then .fail .notNumber else .good (floatOfInt n)
  | .bool b => .good (if b then 1.0 else 0.0)
  | .float x => .good x
  | .str s =>
    match numberOfText? s with
    | some x => .good x
    | none => .fail .unreadableNumber
  | _ => .fail .notNumber

/-- The words for yes. -/
def yesWords : List String := ["true", "t", "yes", "y", "on", "1"]

/-- The words for no. -/
def noWords : List String := ["false", "f", "no", "n", "off", "0"]

/-- Reads a flag; the case of letters does not matter. -/
def flagOfText (s : String) : Checked Bool :=
  let word := String.ofList (s.toList.map Char.toLower)
  if yesWords.contains word then .good true
  else if noWords.contains word then .good false
  else .fail .unreadableFlag

/-- Takes a whole number as a flag: zero is no and one is yes. -/
def flagOfWhole (n : Int) : Checked Bool :=
  if n = 0 then .good false
  else if n = 1 then .good true
  else if -wholeBound ≤ n && n < wholeBound then .fail .unreadableFlag
  else .fail .notFlag

/-- A flag. -/
def flag : Json → Checked Bool
  | .bool b => .good b
  | .int n => flagOfWhole n
  | .float x =>
    match wholeOfFloat x with
    | .good n => flagOfWhole n
    | .bad _ => .fail .notFlag
  | .str s => flagOfText s
  | _ => .fail .notFlag

/-- Takes a moment, unless it lies in the year zero, which can be written but is not taken. -/
def dated (m : Moment) : Checked Moment :=
  if m.year = 0 then .fail .momentOutOfRange else .good m

/-- Takes a moment that was counted, if the count is in range. -/
def counted : Option Moment → Checked Moment
  | some m => dated m
  | none => .fail .momentOutOfRange

/-- A moment. -/
def moment : Json → Checked Moment
  | .str s =>
    match Moment.ofText? s with
    | some m => dated m
    | none => .fail .unreadableMoment
  | .int n => if (floatOfInt n).isInf then .fail .notMoment else counted (Moment.ofInt? n)
  | .float x => counted (Moment.ofFloat? x)
  | _ => .fail .notMoment

end Gatehouse.Field
