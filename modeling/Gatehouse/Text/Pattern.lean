/-! Patterns over characters. A pattern is matched against a whole text from left to right: before
    each character there is a set of patterns of which one must match the rest, and reading a
    character replaces each of them by what it leaves behind. Nothing is ever tried twice. -/

namespace Gatehouse.Text

/-- A set of characters, as closed ranges. -/
abbrev CharSet := List (Char × Char)

/-- Whether a character is in a set. -/
def CharSet.has (s : CharSet) (c : Char) : Bool := s.any fun r => r.1 ≤ c && c ≤ r.2

/-- The set of the given characters. -/
def CharSet.of (cs : List Char) : CharSet := cs.map fun c => (c, c)

/-- A set of texts. -/
inductive Pattern where
  /-- The empty text. -/
  | empty
  /-- One character of a set. -/
  | one (s : CharSet)
  | seq (p q : Pattern)
  | either (p q : Pattern)
  /-- Any number of texts in a row. -/
  | many (p : Pattern)
  deriving DecidableEq, Repr

namespace Pattern

/-- Exactly `n` in a row. -/
def times : Nat → Pattern → Pattern
  | 0, _ => empty
  | n + 1, p => seq p (times n p)

/-- At most `n` in a row. -/
def upTo : Nat → Pattern → Pattern
  | 0, _ => empty
  | n + 1, p => either empty (seq p (upTo n p))

/-- At least `low` and at most `high` in a row. -/
def between (low high : Nat) (p : Pattern) : Pattern := seq (times low p) (upTo (high - low) p)

/-- At least `n` in a row. -/
def atLeast (n : Nat) (p : Pattern) : Pattern := seq (times n p) (many p)

/-- Possibly nothing. -/
def optional (p : Pattern) : Pattern := either empty p

/-- A given text. -/
def text (s : String) : Pattern := s.toList.foldr (fun c p => seq (one [(c, c)]) p) empty

/-- One after another. -/
def all : List Pattern → Pattern
  | [] => empty
  | [p] => p
  | p :: rest => seq p (all rest)

/-- Whether the empty text matches. -/
def acceptsEmpty : Pattern → Bool
  | empty => true
  | one _ => false
  | seq p q => p.acceptsEmpty && q.acceptsEmpty
  | either p q => p.acceptsEmpty || q.acceptsEmpty
  | many _ => true

/-- What may follow when one part of a sequence has been read. -/
def before (p q : Pattern) : Pattern :=
  match p with
  | empty => q
  | p => seq p q

/-- The patterns of which one must match what follows a first character. -/
def rests (c : Char) : Pattern → List Pattern
  | empty => []
  | one s => if s.has c then [empty] else []
  | seq p q => (rests c p).map (before · q) ++ (if p.acceptsEmpty then rests c q else [])
  | either p q => rests c p ++ rests c q
  | many p => (rests c p).map (before · (many p))

/-- One step of a match: each pattern is replaced by what it leaves behind, without repetitions. -/
def advance (ps : List Pattern) (c : Char) : List Pattern := (ps.flatMap (rests c)).eraseDups

/-- Whether a whole text matches. -/
def accepts (p : Pattern) (cs : List Char) : Bool := (cs.foldl advance [p]).any acceptsEmpty

end Pattern

end Gatehouse.Text
