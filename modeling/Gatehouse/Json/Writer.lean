import Gatehouse.Json.Basic
import Gatehouse.Json.Token
import Gatehouse.Json.Reader
import Gatehouse.Decimal.Layout
import Gatehouse.Text.Quoted

/-! Writing JSON. Documents are compact and keep every character that need not be escaped; values
    inside a slot are spaced and pure ASCII. Both are one writer with two styles. -/

namespace Gatehouse.Json

/-- How a text of JSON looks. -/
structure Style where
  comma : List Char
  colon : List Char
  /-- Characters outside ASCII, and the last one of ASCII, are escaped. -/
  ascii : Bool
  number : Decimal.Layout

/-- Numbers of a document: positional where the exponent of the leading digit is at least -5 and
    below 16, otherwise with an unpadded exponent; what is not finite is null. -/
def documentNumber : Decimal.Layout := ⟨-5, 16, 1, "null", "null", "null"⟩

/-- Numbers of a slot: positional where the exponent of the leading digit is at least -4 and below
    16, otherwise with an exponent of at least two digits. -/
def slotNumber : Decimal.Layout := ⟨-4, 16, 2, "NaN", "Infinity", "-Infinity"⟩

/-- The documents sent to the service and kept on disk. -/
def Style.document : Style := ⟨[','], [':'], false, documentNumber⟩

/-- The values that are kept inside a single slot. -/
def Style.slot : Style := ⟨[',', ' '], [':', ' '], true, slotNumber⟩

/-- An escaped sixteen-bit unit. -/
def escapedUnit (n : Nat) : List Char := '\\' :: 'u' :: Text.hex 4 n

/-- One character of a quoted text. -/
def Style.char (s : Style) (c : Char) : List Char :=
  if c = '"' || c = '\\' then ['\\', c]
  else if c = '\x08' then ['\\', 'b']
  else if c = '\x0c' then ['\\', 'f']
  else if c = '\n' then ['\\', 'n']
  else if c = '\r' then ['\\', 'r']
  else if c = '\t' then ['\\', 't']
  else if c.toNat < 0x20 then escapedUnit c.toNat
  else if c.toNat < 0x7f || !s.ascii then [c]
  else if c.toNat < 0x10000 then escapedUnit c.toNat
  else
    escapedUnit (0xd800 + (c.toNat - 0x10000) / 0x400) ++
      escapedUnit (0xdc00 + (c.toNat - 0x10000) % 0x400)

/-- A quoted text. -/
def Style.text (s : Style) (t : String) : List Char := '"' :: t.toList.flatMap s.char ++ ['"']

mutual

/-- The text of a value. -/
def Style.write (s : Style) : Json → List Char
  | .null => "null".toList
  | .bool true => "true".toList
  | .bool false => "false".toList
  | .int n => (toString n).toList
  | .float x => (s.number.render x).toList
  | .str t => s.text t
  | .arr [] => ['[', ']']
  | .arr (v :: items) => '[' :: s.write v ++ s.writeItems items ++ [']']
  | .obj [] => ['\x7b', '\x7d']
  | .obj ((k, v) :: fields) =>
    '\x7b' :: s.text k ++ s.colon ++ s.write v ++ s.writeFields fields ++ ['\x7d']

/-- The items after the first one, each behind a comma. -/
def Style.writeItems (s : Style) : List Json → List Char
  | [] => []
  | v :: items => s.comma ++ s.write v ++ s.writeItems items

/-- The fields after the first one, each behind a comma. -/
def Style.writeFields (s : Style) : List (String × Json) → List Char
  | [] => []
  | (k, v) :: fields => s.comma ++ s.text k ++ s.colon ++ s.write v ++ s.writeFields fields

end

mutual

/-- Whether a value can be part of a document: its integers fit into sixty-four bits, and its
    containers are nested at most `depth` deep. -/
def fitsDocument (depth : Nat) : Json → Bool
  | .int n => fitsMachine n
  | .arr items => 0 < depth && itemsFit (depth - 1) items
  | .obj fields => 0 < depth && fieldsFit (depth - 1) fields
  | _ => true

/-- Whether each of the values can be part of a document. -/
def itemsFit (depth : Nat) : List Json → Bool
  | [] => true
  | v :: items => fitsDocument depth v && itemsFit depth items

/-- Whether each of the values can be part of a document. -/
def fieldsFit (depth : Nat) : List (String × Json) → Bool
  | [] => true
  | (_, v) :: fields => fitsDocument depth v && fieldsFit depth fields

end

/-- The greatest depth of nesting of a document that is written. -/
def documentDepth : Nat := 254

/-- The text of a document, if the value can be one. -/
def document? (v : Json) : Option String :=
  if fitsDocument documentDepth v then some (String.ofList (Style.document.write v)) else none

/-- The text of a value inside a slot. -/
def slotText (v : Json) : String := String.ofList (Style.slot.write v)

end Gatehouse.Json
