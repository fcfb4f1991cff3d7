import Gatehouse.Json.Basic
import Gatehouse.Json.Token
import Gatehouse.Decimal.Estimate

/-! The second half of reading JSON: the tokens are folded into a value over a stack of the
    containers that are still open, so the depth of nesting is the height of the stack. A dialect
    says what is accepted beyond plain JSON. -/

namespace Gatehouse.Json

/-- What a reader accepts and where it stops. -/
structure Dialect where
  /-- The greatest depth of nesting. -/
  depth : Option Nat
  /-- Integers outside the signed and unsigned sixty-four bits become binary numbers. -/
  machineIntegers : Bool
  /-- The most digits of an integer. -/
  integerDigits : Option Nat
  /-- The words for infinity and for no number are read, and numbers beyond the range are
      infinite. -/
  specials : Bool
  /-- Half of a pair of escaped units reads as the replacement character instead of being
      refused. -/
  mends : Bool
  /-- Of a numeral with very many digits, not all are weighed. -/
  estimates : Bool

/-- The documents of the service and of the store on disk. -/
def Dialect.document : Dialect := ⟨some 1024, true, none, false, false, true⟩

/-- The values that are kept inside a single slot. Any depth of nesting is read: where a reader
    would run out of stack is left open here. -/
def Dialect.slot : Dialect := ⟨none, false, some 4300, true, true, false⟩

/-- Whether an integer fits into sixty-four bits, signed or unsigned. -/
def fitsMachine (n : Int) : Bool := -Nat.pow 2 63 ≤ n && n < Nat.pow 2 64

/-- Whether a numeral is one of plain JSON: no plus sign, no needless zero in front, and digits on
    both sides of a point. -/
def isPlainNumeral (n : Decimal.Numeral) : Bool :=
  n.sign ≠ some '+' && n.fraction ≠ some [] &&
    match n.whole with
    | [] => false
    | '0' :: _ :: _ => false
    | _ => true

namespace Dialect

/-- A number as a binary number. -/
def toFloat (d : Dialect) (n : Decimal.Numeral) : Float :=
  if d.estimates then n.estimated else n.toFloat

/-- A whole number as a value of the dialect. -/
def whole? (d : Dialect) (n : Decimal.Numeral) : Option Json :=
  if d.integerDigits.any (· < n.whole.length) then none
  else if d.machineIntegers && !fitsMachine n.toInt then
    if (d.toFloat n).isInf then none else some (.float (d.toFloat n))
  else some (.int n.toInt)

/-- A number that is not a whole one as a value of the dialect. -/
def fractional? (d : Dialect) (n : Decimal.Numeral) : Option Json :=
  if (d.toFloat n).isInf && !d.specials then none else some (.float (d.toFloat n))

/-- The value of a word. -/
def word? (d : Dialect) (cs : List Char) : Option Json :=
  if cs = "null".toList then some .null
  else if cs = "true".toList then some (.bool true)
  else if cs = "false".toList then some (.bool false)
  else if d.specials && cs = "NaN".toList then some (.float (0.0 / 0.0))
  else if d.specials && cs = "Infinity".toList then some (.float (1.0 / 0.0))
  else if d.specials && cs = "-Infinity".toList then some (.float (-1.0 / 0.0))
  else do
    let n ← Decimal.Numeral.ofChars? cs
    if isPlainNumeral n then (if n.isWhole then d.whole? n else d.fractional? n) else none

end Dialect

/-- A container that is still open. The items of a list are kept in reverse. -/
inductive Frame where
  | list (items : List Json)
  | object (fields : Record Json)
  | entry (fields : Record Json) (key : String)

/-- What may come next. -/
inductive Next where
  | value
  | valueOrEnd
  | key
  | keyOrEnd
  | colon (key : String)
  | separator (value : Json)

/-- Opens a container, unless the stack is as high as it may be. -/
def Dialect.opened? (d : Dialect) (stack : List Frame) (f : Frame) : Option (List Frame) :=
  if d.depth.any (· ≤ stack.length) then none else some (f :: stack)

/-- Takes one token where a value is expected. -/
def Dialect.value? (d : Dialect) (stack : List Frame) : Token → Option (List Frame × Next)
  | .text s => some (stack, .separator (.str s))
  | .word cs => (d.word? cs).map fun v => (stack, .separator v)
  | .openList => (d.opened? stack (.list [])).map (·, .valueOrEnd)
  | .openObject => (d.opened? stack (.object [])).map (·, .keyOrEnd)
  | _ => none

/-- Takes one token. -/
def Dialect.step? (d : Dialect) : List Frame → Next → Token → Option (List Frame × Next)
  | stack, .value, t => d.value? stack t
  | .list [] :: stack, .valueOrEnd, .closeList => some (stack, .separator (.arr []))
  | stack, .valueOrEnd, t => d.value? stack t
  | stack, .key, .text k => some (stack, .colon k)
  | stack, .keyOrEnd, .text k => some (stack, .colon k)
  | .object [] :: stack, .keyOrEnd, .closeObject => some (stack, .separator (.obj []))
  | .object fields :: stack, .colon k, .colon => some (.entry fields k :: stack, .value)
  | .list items :: stack, .separator v, .comma => some (.list (v :: items) :: stack, .value)
  | .list items :: stack, .separator v, .closeList =>
    some (stack, .separator (.arr (v :: items).reverse))
  | .entry fields k :: stack, .separator v, .comma =>
    some (.object (Record.put fields k v) :: stack, .key)
  | .entry fields k :: stack, .separator v, .closeObject =>
    some (stack, .separator (.obj (Record.put fields k v)))
  | _, _, _ => none

/-- Folds the tokens into a value. -/
def Dialect.build? (d : Dialect) : List Frame → Next → List Token → Option Json
  | [], .separator v, [] => some v
  | _, _, [] => none
  | stack, next, t :: rest => do
    let (stack, next) ← d.step? stack next t
    d.build? stack next rest

/-- Reads a text as one value. -/
def Dialect.read? (d : Dialect) (text : String) : Option Json := do
  let tokens ← scan d.mends .between text.toList
  d.build? [] .value tokens

/-- Reads bytes as one value; they must be well-formed text. -/
def Dialect.readBytes? (d : Dialect) (bytes : ByteArray) : Option Json := do
  let text ← String.fromUTF8? bytes
  d.read? text

end Gatehouse.Json
