/-! Paths of files in normal form: a root of no, one or two slashes, and parts that are neither
    empty nor a single dot. Two dots stay, since what they mean depends on the disk. -/

namespace Gatehouse

/-- A path. -/
structure Path where
  /-- The slashes in front: none, one, or exactly two. -/
  root : String
  parts : List String
  deriving DecidableEq, Repr

namespace Path

/-- The parts between the slashes of a text, without the empty ones and the single dots. -/
def partsOf (cs : List Char) : List String :=
  ((cs.splitOn '/').map String.ofList).filter fun part => part ≠ "" && part ≠ "."

/-- The path that a text writes. -/
def ofText (s : String) : Path :=
  let cs := s.toList
  let slashes := (cs.takeWhile (· = '/')).length
  ⟨if slashes = 0 then "" else if slashes = 2 then "//" else "/", partsOf cs⟩

/-- The normal form of a path; the empty path is a single dot. -/
def text (p : Path) : String :=
  if p.root = "" && p.parts.isEmpty then "." else p.root ++ "/".intercalate p.parts

/-- A path as seen from another one; a path with a root stays what it is. -/
def within (p base : Path) : Path :=
  if p.root = "" then { base with parts := base.parts ++ p.parts } else p

/-- The home directories that are known by the names of their owners. The empty name is the owner of
    the running program. -/
abbrev Homes := List (String × Path)

/-- Replaces a leading tilde and the name behind it by the home directory of that name; none if
    there is no such home. -/
def expanded? (homes : Homes) (p : Path) : Option Path :=
  match p.root, p.parts with
  | "", first :: rest =>
    match first.toList with
    | '~' :: name =>
      (homes.lookup (String.ofList name)).map fun h => { h with parts := h.parts ++ rest }
    | _ => some p
  | _, _ => some p

end Path

end Gatehouse
