import Gatehouse.Decimal.Numeral

/-! Moments of the calendar: a day and a time of day to the microsecond, with or without an offset
    from universal time. A moment is read from its written form or from a count since the epoch, and
    written with a `T` in the middle. -/

namespace Gatehouse

/-- A day and a time of day. The offset is in minutes east of universal time. -/
structure Moment where
  year : Nat
  month : Nat
  day : Nat
  hour : Nat
  minute : Nat
  second : Nat
  microsecond : Nat
  offset : Option Int
  deriving DecidableEq, Repr

namespace Moment

/-- Whether a year has a twenty-ninth of February. -/
def isLeap (year : Nat) : Bool := year % 4 = 0 && (year % 100 ≠ 0 || year % 400 = 0)

/-- The number of days of a month. -/
def daysIn (year month : Nat) : Nat :=
  if month = 2 then (if isLeap year then 29 else 28)
  else if month = 4 || month = 6 || month = 9 || month = 11 then 30
  else 31

/-- The moment with given parts, if there is one; the years begin with the first. -/
def ofParts? (year month day hour minute second microsecond : Int) : Option Moment :=
  let m : Moment := ⟨year.toNat, month.toNat, day.toNat, hour.toNat, minute.toNat, second.toNat,
    microsecond.toNat, none⟩
  let isDay := 1 ≤ year && year ≤ 9999 && 1 ≤ month && month ≤ 12 && 1 ≤ day &&
    day ≤ daysIn m.year m.month
  let isTime := 0 ≤ hour && hour < 24 && 0 ≤ minute && minute < 60 && 0 ≤ second && second < 60 &&
    0 ≤ microsecond && microsecond < 1000000
  if isDay && isTime then some m else none

/-- The moment that ten bytes write: two for the year, one for each part down to the second, and
    three for the microseconds. Only the month is checked. -/
def packed? : List UInt8 → Option Moment
  | [y, y', month, day, hour, minute, second, u, u', u''] =>
    if 1 ≤ month && month ≤ 12 then
      some ⟨y.toNat * 256 + y'.toNat, month.toNat, day.toNat, hour.toNat, minute.toNat,
        second.toNat, (u.toNat * 256 + u'.toNat) * 256 + u''.toNat, none⟩
    else none
  | _ => none

/-- Reads exactly `count` ASCII digits. -/
def digits? (count : Nat) (cs : List Char) : Option (Nat × List Char) :=
  let first := cs.take count
  if first.length = count && first.all Char.isDigit then some (Decimal.natOf first, cs.drop count)
  else none

/-- Reads one given character. -/
def expect? (c : Char) : List Char → Option (List Char)
  | x :: rest => if x = c then some rest else none
  | [] => none

/-- Reads a day, `YYYY-MM-DD`. -/
def day? (cs : List Char) : Option ((Nat × Nat × Nat) × List Char) := do
  let (year, cs) ← digits? 4 cs
  let cs ← expect? '-' cs
  let (month, cs) ← digits? 2 cs
  let cs ← expect? '-' cs
  let (day, cs) ← digits? 2 cs
  if 1 ≤ month && month ≤ 12 && 1 ≤ day && day ≤ daysIn year month then
    some ((year, month, day), cs)
  else none

/-- The microseconds that the digits of a fraction write; digits beyond the sixth are cut off. -/
def microseconds (fraction : List Char) : Nat :=
  let kept := fraction.take 6
  Decimal.natOf kept * Nat.pow 10 (6 - kept.length)

/-- Reads the seconds and their fraction, if there are any. -/
def seconds? : List Char → Option ((Nat × Nat) × List Char)
  | ':' :: cs => do
    let (second, cs) ← digits? 2 cs
    if 60 ≤ second then none
    else match cs with
      | [] => some ((second, 0), [])
      | mark :: rest =>
        if mark = '.' || mark = ',' then
          let fraction := rest.takeWhile Char.isDigit
          if fraction.isEmpty then none
          else some ((second, microseconds fraction), rest.dropWhile Char.isDigit)
        else some ((second, 0), mark :: rest)
  | cs => some ((0, 0), cs)

/-- Reads an offset from universal time up to the end of the text, if there is one. -/
def offset? : List Char → Option (Option Int)
  | [] => some none
  | ['Z'] => some (some 0)
  | ['z'] => some (some 0)
  | sign :: cs => do
    let (hours, cs) ← digits? 2 cs
    let cs := match cs with
      | ':' :: rest => rest
      | cs => cs
    let (minutes, cs) ← digits? 2 cs
    let total : Int := 60 * hours + minutes
    if !cs.isEmpty || 24 ≤ hours || 60 ≤ minutes then none
    else if sign = '+' then some (some total)
    else if sign = '-' || sign = '\u2212' then some (some (-total))
    else none

/-- Reads a day and a time of day. -/
def written? (cs : List Char) : Option Moment := do
  let ((year, month, day), cs) ← day? cs
  match cs with
  | [] => none
  | mark :: cs =>
    if mark = 'T' || mark = 't' || mark = ' ' || mark = '_' then do
      let (hour, cs) ← digits? 2 cs
      let cs ← expect? ':' cs
      let (minute, cs) ← digits? 2 cs
      let ((second, micro), cs) ← seconds? cs
      let offset ← offset? cs
      if hour < 24 && minute < 60 then some ⟨year, month, day, hour, minute, second, micro, offset⟩
      else none
    else none

/-- Reads a day alone as its first moment. -/
def dayOnly? (cs : List Char) : Option Moment := do
  let ((year, month, day), cs) ← day? cs
  if cs.isEmpty then some ⟨year, month, day, 0, 0, 0, 0, none⟩ else none

/-- The day that lies a number of days after the first of March of the year zero. -/
def civil (days : Nat) : Nat × Nat × Nat :=
  let era := days / 146097
  let dayOfEra := days % 146097
  let yearOfEra := (dayOfEra - dayOfEra / 1460 + dayOfEra / 36524 - dayOfEra / 146096) / 365
  let dayOfYear := dayOfEra - (365 * yearOfEra + yearOfEra / 4 - yearOfEra / 100)
  let shifted := (5 * dayOfYear + 2) / 153
  let day := dayOfYear - (153 * shifted + 2) / 5 + 1
  let month := if shifted < 10 then shifted + 3 else shifted - 9
  let year := era * 400 + yearOfEra
  (if month ≤ 2 then year + 1 else year, month, day)

/-- The first second of the year 0 and the last one of the year 9999, since the epoch. -/
def epochRange : Int × Int := (-62167219200, 253402300799)

/-- The moment a number of seconds and microseconds after the epoch, in universal time. The days are
    counted from four hundred years before the first of March of the year zero. -/
def afterEpoch? (seconds : Int) (micros : Nat) : Option Moment :=
  let seconds := seconds + (micros / 1000000 : Nat)
  if seconds < epochRange.1 || epochRange.2 < seconds then none
  else
    let days := (seconds / 86400 + (719468 + 146097)).toNat
    let rest := (seconds % 86400).toNat
    let (year, month, day) := civil days
    some ⟨year - 400, month, day, rest / 3600, rest / 60 % 60, rest % 60, micros % 1000000, some 0⟩

/-- The moment a number of milliseconds and microseconds after the epoch. -/
def afterEpochMillis? (millis : Int) (micros : Nat) : Option Moment :=
  afterEpoch? (millis / 1000) ((millis % 1000).toNat * 1000 + micros)

/-- The greatest magnitude of a count of seconds; a greater one counts milliseconds. -/
def mostSeconds : Nat := 20000000000

/-- A whole count since the epoch. -/
def ofInt? (count : Int) : Option Moment :=
  if count.natAbs ≤ mostSeconds then afterEpoch? count 0 else afterEpochMillis? count 0

/-- A number that is not negative, rounded to a whole one. -/
def rounded (x : Float) : Nat := x.round.toUInt64.toNat

/-- A count since the epoch with a fraction, which is rounded to microseconds. -/
def ofFloat? (x : Float) : Option Moment := do
  let whole ← Decimal.toInt? x.floor
  let fraction := x - x.floor
  if x.abs ≤ Float.ofNat mostSeconds then afterEpoch? whole (rounded (fraction * 1000000.0))
  else afterEpochMillis? whole (rounded (fraction * 1000.0))

/-- Reads a count since the epoch: a whole number, or one with a point that has digits on at least
    one side. Only a number with a point may have an exponent. -/
def counted? (cs : List Char) : Option Moment := do
  let n ← Decimal.Numeral.ofChars? cs
  if !n.hasDigits || (n.fraction.isNone && n.exponent.isSome) then none
  else if n.isWhole then ofInt? n.toInt
  else ofFloat? n.toFloat

/-- Reads a moment in any of its written forms. -/
def ofText? (s : String) : Option Moment :=
  let cs := s.toList
  (written? cs).or ((counted? cs).or (dayOnly? cs))

/-- A number in a fixed number of digits. -/
def fixed (width n : Nat) : String :=
  let digits := Nat.toDigits 10 n
  String.ofList (List.replicate (width - digits.length) '0' ++ digits)

/-- The written form of an offset. -/
def offsetText (offset : Int) : String :=
  let minutes := offset.natAbs
  (if offset < 0 then "-" else "+") ++ fixed 2 (minutes / 60) ++ ":" ++ fixed 2 (minutes % 60)

/-- The written form with a mark between the day and the time: microseconds only where they are not
    zero, the offset where there is one. -/
def textWith (mark : String) (m : Moment) : String :=
  fixed 4 m.year ++ "-" ++ fixed 2 m.month ++ "-" ++ fixed 2 m.day ++ mark ++
    fixed 2 m.hour ++ ":" ++ fixed 2 m.minute ++ ":" ++ fixed 2 m.second ++
    (if m.microsecond = 0 then "" else "." ++ fixed 6 m.microsecond) ++
    (m.offset.map offsetText).getD ""

/-- The written form. -/
def text (m : Moment) : String := m.textWith "T"

end Moment

end Gatehouse
