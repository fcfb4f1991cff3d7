import Gatehouse.Decimal.Written
import Gatehouse.Marked.Numbering

/-! Numbers that are read from other things: from numbers of another kind, from flags, and from
    texts or bytes in which a number is written. What writes none means that the whole text was not
    written as a value. -/

namespace Gatehouse.Marked

/-- Something that was read from a text, if it was written there. -/
def written {α : Type} : Option α → Restoring α
  | some a => pure a
  | none => throw .unwritten

/-- The text that a number is read from. A byte beyond ASCII is no digit. -/
def numeralIn? : Draft → Option String
  | .plain (.str s) => some s
  | .bytes content =>
    some (String.ofList (content.map fun b => if b < 0x80 then Char.ofNat b.toNat else '\ufffd'))
  | _ => none

/-- A number that counts something, or a flag, which counts as zero or one. -/
def index? : Draft → Option Int
  | .plain v => number? v
  | _ => none

/-- The whole number that something is read as. -/
def wholeFrom (d : Draft) : Restoring Int :=
  match d, index? d, numeralIn? d with
  | _, some n, _ => pure n
  | _, _, some s => written (Decimal.writtenWhole? 10 s)
  | .plain (.float x), _, _ =>
    match Decimal.wholePart? x with
    | some n => pure n
    | none => if x.isNaN then throw .unwritten else refuse .outOfRange
  | _, _, _ => refuse .unfit

/-- The whole number that a text is read as in a base. -/
def wholeInBase (d base : Draft) : Restoring Int :=
  match index? base, numeralIn? d with
  | some n, text? =>
    if n ≠ 0 && (n < 2 || 36 < n) then throw .unwritten
    else
      match text? with
      | some s => written (Decimal.writtenWhole? n.toNat s)
      | none => refuse .unfit
  | none, _ => refuse .unfit

/-- The binary number nearest to a whole one. -/
def nearestTo (n : Int) : Restoring Float :=
  let x := Decimal.nearest ⟨n.natAbs, 0⟩
  if x.isInf then refuse .outOfRange else pure (if n < 0 then -x else x)

/-- The binary number that something is read as. -/
def numberFrom (d : Draft) : Restoring Float :=
  match d, index? d, numeralIn? d with
  | .plain (.float x), _, _ => pure x
  | _, some n, _ => nearestTo n
  | _, _, some s => written (Decimal.writtenNumber? s)
  | _, _, _ => refuse .unfit

/-- The byte that a number gives. -/
def byteFrom (d : Draft) : Restoring UInt8 :=
  match index? d with
  | some n => if 0 ≤ n && n < 256 then pure n.toNat.toUInt8 else throw .unwritten
  | none => refuse .unfit

/-- A part of a moment. -/
def partFrom (d : Draft) : Restoring Int :=
  match index? d with
  | some n => if n.natAbs < Nat.pow 2 31 then pure n else refuse .outOfRange
  | none => refuse .unfit

end Gatehouse.Marked
