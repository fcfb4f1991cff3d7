/-! The first half of reading JSON: a text becomes a list of tokens in one pass over its characters.
    Brackets, commas and colons stand for themselves, a quoted text is read with its escapes, and
    any other run of characters is a word, whose meaning (number or literal) is settled later. -/

namespace Gatehouse.Json

/-- A piece of JSON text. -/
inductive Token where
  | openList
  | closeList
  | openObject
  | closeObject
  | comma
  | colon
  | text (s : String)
  | word (cs : List Char)
  deriving DecidableEq, Repr

/-- The token that a single character stands for. -/
def mark? (c : Char) : Option Token :=
  if c = '[' then some .openList
  else if c = ']' then some .closeList
  else if c = '\x7b' then some .openObject
  else if c = '\x7d' then some .closeObject
  else if c = ',' then some .comma
  else if c = ':' then some .colon
  else none

/-- The white space that may stand between tokens. -/
def isSpace (c : Char) : Bool := c = ' ' || c = '\t' || c = '\n' || c = '\r'

/-- The value of a digit in base sixteen. -/
def hexValue? (c : Char) : Option Nat :=
  if c.isDigit then some (c.toNat - '0'.toNat)
  else if 'a' ≤ c ∧ c ≤ 'f' then some (c.toNat - 'a'.toNat + 10)
  else if 'A' ≤ c ∧ c ≤ 'F' then some (c.toNat - 'A'.toNat + 10)
  else none

/-- The number that four digits in base sixteen write. -/
def unit? (a b c d : Char) : Option Nat := do
  let a ← hexValue? a
  let b ← hexValue? b
  let c ← hexValue? c
  let d ← hexValue? d
  pure (((a * 16 + b) * 16 + c) * 16 + d)

/-- The character that a letter after a backslash stands for. -/
def unescape? (c : Char) : Option Char :=
  if c = '"' || c = '\\' || c = '/' then some c
  else if c = 'b' then some '\x08'
  else if c = 'f' then some '\x0c'
  else if c = 'n' then some '\n'
  else if c = 'r' then some '\r'
  else if c = 't' then some '\t'
  else none

/-- Whether a sixteen-bit unit opens a pair. -/
def isHigh (unit : Nat) : Bool := 0xd800 ≤ unit && unit < 0xdc00

/-- Whether a sixteen-bit unit closes a pair. -/
def isLow (unit : Nat) : Bool := 0xdc00 ≤ unit && unit < 0xe000

/-- The character that a pair of units writes. -/
def pairChar (high low : Nat) : Char :=
  Char.ofNat (0x10000 + (high - 0xd800) * 0x400 + (low - 0xdc00))

/-- Where a scan stands. The characters read so far are kept in reverse; inside a quoted text the
    unit that opens a pair waits for its partner. -/
inductive Place where
  | between
  | inWord (read : List Char)
  | inText (read : List Char) (half : Option Nat)

/-- The word that ends here, if the scan stands in one. -/
def Place.ended : Place → List Token
  | .inWord read => [.word read.reverse]
  | _ => []

/-- The characters of the word that the scan stands in. -/
def Place.pending : Place → List Char
  | .inWord read => read
  | _ => []

/-- What has been read once it is known that no partner follows: half a pair is refused, or taken
    for the replacement character where `mends` says so. -/
def settled? (mends : Bool) (read : List Char) : Option Nat → Option (List Char)
  | none => some read
  | some _ => if mends then some ('\ufffd' :: read) else none

/-- What has been read after one more escaped unit. -/
def joined? (mends : Bool) (read : List Char) (half : Option Nat) (unit : Nat) : Option Place :=
  match half, isLow unit with
  | some high, true => some (.inText (pairChar high unit :: read) none)
  | _, low =>
    (settled? mends read half).bind fun read =>
      if isHigh unit then some (.inText read (some unit))
      else if low then (settled? mends read (some unit)).map (.inText · none)
      else some (.inText (Char.ofNat unit :: read) none)

/-- The tokens of a text, none if a quoted text is malformed or left open. -/
def scan (mends : Bool) : Place → List Char → Option (List Token)
  | .inText _ _, [] => none
  | place, [] => some place.ended
  | .inText read half, '"' :: rest => do
    let read ← settled? mends read half
    let tokens ← scan mends .between rest
    pure (.text (String.ofList read.reverse) :: tokens)
  | .inText read half, '\\' :: 'u' :: a :: b :: c :: d :: rest => do
    let unit ← unit? a b c d
    let place ← joined? mends read half unit
    scan mends place rest
  | .inText read half, '\\' :: c :: rest => do
    let read ← settled? mends read half
    let x ← unescape? c
    scan mends (.inText (x :: read) none) rest
  | .inText read half, c :: rest => do
    let read ← settled? mends read half
    if c.toNat < 0x20 || c = '\\' then none else scan mends (.inText (c :: read) none) rest
  | place, c :: rest =>
    if c = '"' then (scan mends (.inText [] none) rest).map (place.ended ++ ·)
    else if isSpace c then (scan mends .between rest).map (place.ended ++ ·)
    else match mark? c with
      | some token => (scan mends .between rest).map (place.ended ++ token :: ·)
      | none => scan mends (.inWord (c :: place.pending)) rest

end Gatehouse.Json
