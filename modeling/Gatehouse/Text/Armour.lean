/-! Bytes written as plain characters, in base sixty-four or eighty-five. In base sixty-four other
    characters are passed over, and padding ends a text early; in base eighty-five every character
    counts. -/

namespace Gatehouse.Text

/-- The sixty-four digits in their order. -/
def digits64 : List Char :=
  "ABCDEFGHIJKLMNOPQRSTUVWXYZabcdefghijklmnopqrstuvwxyz0123456789+/".toList

/-- The digits that a text in base sixty-four writes, after those in `done`, which are in reverse,
    and `pads` signs of padding behind the last of them. Padding that fills a group of four ends the
    text, and without it the last group must be full. -/
def sextets? (done : List Nat) (pads : Nat) : List Char → Option (List Nat)
  | [] => if done.length % 4 = 0 then some done.reverse else none
  | c :: rest =>
    if c = '=' then
      if done.length % 4 < 2 then sextets? done pads rest
      else if 4 ≤ done.length % 4 + pads + 1 then some done.reverse
      else sextets? done (pads + 1) rest
    else
      match digits64.idxOf? c with
      | some digit => sextets? (digit :: done) 0 rest
      | none => sextets? done pads rest

/-- The low eight bits of a number. -/
def byte (n : Nat) : UInt8 := n.toUInt8

/-- The bytes that digits in base sixty-four write, four digits for three bytes. -/
def joined64 : List Nat → List UInt8
  | a :: b :: c :: d :: rest =>
    byte (a * 4 + b / 16) :: byte (b * 16 + c / 4) :: byte (c * 64 + d) :: joined64 rest
  | [a, b, c] => [byte (a * 4 + b / 16), byte (b * 16 + c / 4)]
  | [a, b] => [byte (a * 4 + b / 16)]
  | _ => []

/-- The bytes that a text in base sixty-four writes. -/
def bytes64? (cs : List Char) : Option (List UInt8) := (sextets? [] 0 cs).map joined64

/-- The eighty-five digits in their order. -/
def digits85 : List Char :=
  ("0123456789ABCDEFGHIJKLMNOPQRSTUVWXYZabcdefghijklmnopqrstuvwxyz" ++
    "!#$%&()*+-;<=>?@^_\x60\x7b|\x7d~").toList

/-- The four bytes that a group of five digits in base eighty-five writes, if they fit. -/
def quad85? (group : List Char) : Option (List UInt8) := do
  let n ← group.foldlM (fun n c => (digits85.idxOf? c).map (85 * n + ·)) 0
  if n < Nat.pow 2 32 then
    some [byte (n / Nat.pow 2 24), byte (n / Nat.pow 2 16), byte (n / Nat.pow 2 8), byte n]
  else none

/-- The bytes that a text in base eighty-five writes. The last group is filled up with the greatest
    digit, and has one byte less for each digit that it lacks. -/
def bytes85? : List Char → Option (List UInt8)
  | [] => some []
  | a :: b :: c :: d :: e :: rest => do
    return (← quad85? [a, b, c, d, e]) ++ (← bytes85? rest)
  | group => do
    let missing := 5 - group.length
    return (← quad85? (group ++ List.replicate missing '~')).take (4 - missing)

end Gatehouse.Text
