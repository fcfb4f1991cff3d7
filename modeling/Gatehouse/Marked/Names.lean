import Gatehouse.Marked.Draft
import Gatehouse.Record

/-! Names. A name is a row of parts with dots between them: first those of a module, then those of
    something inside of it. What is not in the table of names is missing. -/

namespace Gatehouse.Marked

/-- What the known names stand for; modules are among them. -/
abbrev Names := Record Draft

namespace Names

/-- The old names of a module, and its name. -/
def renamed : List (String × String) := [("__builtin__", "builtins"), ("exceptions", "builtins")]

/-- The parts of a name. -/
def parts (name : String) : List String := (name.toList.splitOn '.').map String.ofList

/-- A name with the present name of its module. -/
def present (name : String) : String :=
  match parts name with
  | first :: rest => ".".intercalate ((renamed.lookup first).getD first :: rest)
  | [] => name

/-- What a name stands for. It needs a module in front. -/
def find? (names : Names) (name : String) : Option Draft :=
  if (parts name).length < 2 then none else names.get? (present name)

/-- What a name inside of a module stands for. The name begins with the module or with the package
    that it is in. -/
def within? (names : Names) (moduleName name : String) : Option Draft :=
  if names.has moduleName && (parts moduleName).head? = (parts name).head? then names.get? name
  else none

end Names

end Gatehouse.Marked
