import Gatehouse.Fault

/-! A small disk: files with their bytes and permissions, and directories. Writing is a list of
    single actions, each of which leaves a disk behind, so that what others can see between two of
    them can be named. Permissions are kept and not enforced: whoever runs the program may read and
    write it all. -/

namespace Gatehouse

-- There may be more than one comparison of bytes to choose from: nodes are compared with this one.
local instance instDecidableEqBytes : DecidableEq ByteArray := ByteArray.instDecidableEq

/-- What stands at a place of a disk. Permissions are numbers of nine bits. -/
inductive Node where
  | file (bytes : ByteArray) (mode : Nat)
  | directory (mode : Nat)
  deriving DecidableEq

/-- The permissions of a node. -/
def Node.mode : Node → Nat
  | file _ mode => mode
  | directory mode => mode

/-- The nodes of a disk by their places. The top is a directory that is always there; it is only
    listed here once its permissions have been changed. -/
abbrev Disk := List (List String × Node)

namespace Disk

/-- The permissions of new directories on the way to a new one. -/
def directoryMode : Nat := 0o755

/-- The permissions of new files that anybody may read. -/
def fileMode : Nat := 0o644

/-- The permissions of what only its owner may use: a directory and a file. -/
def ownerOnly : Nat × Nat := (0o700, 0o600)

/-- The most bytes of a name, and of a path with the slashes between its names. -/
def longest : Nat × Nat := (255, 4095)

/-- The node at a place. -/
def at? (d : Disk) (place : List String) : Option Node :=
  (d.lookup place).or (if place.isEmpty then some (.directory ownerOnly.1) else none)

/-- The disk with a node at a place. -/
def put (d : Disk) (place : List String) (node : Node) : Disk :=
  if (d.lookup place).isSome then d.map fun e => if e.1 = place then (place, node) else e
  else d ++ [(place, node)]

/-- The disk without the node at a place. -/
def erase (d : Disk) (place : List String) : Disk := d.filter fun e => e.1 ≠ place

/-- One step down, or up for two dots, from a place that must be a directory. -/
def stepInto (d : Disk) (place : List String) (name : String) : Except DiskFault (List String) :=
  match d.at? place with
  | none => .error .missing
  | some (.file _ _) => .error .notDirectory
  | some (.directory _) =>
    if longest.1 < name.utf8ByteSize then .error .tooLong
    else .ok (if name = ".." then place.dropLast else place ++ [name])

/-- The bytes of a path, a slash counted with each name. -/
def pathBytes : List String → Nat
  | [] => 0
  | name :: rest => name.utf8ByteSize + 1 + pathBytes rest

/-- Whether a path can be a path at all: a zero character ends the name of a file, so none can be
    inside it, and there is an end to the length of a path. -/
def checkPath (path : List String) : Except DiskFault Unit :=
  if path.any fun name => name.toList.contains '\x00' then .error .zeroInside
  else if longest.2 < pathBytes path then .error .tooLong
  else .ok ()

/-- The place that a path leads to; all that it passes through must be directories. -/
def locate (d : Disk) (path : List String) : Except DiskFault (List String) := do
  checkPath path
  path.foldlM d.stepInto []

/-- The node that a path leads to. -/
def node (d : Disk) (path : List String) : Except DiskFault Node := do
  let place ← d.locate path
  match d.at? place with
  | some n => .ok n
  | none => .error .missing

/-- Whether a path leads to anything. A path that cannot be one, or that passes through a file,
    leads nowhere; one that is too long is a fault. -/
def has (d : Disk) (path : List String) : Except DiskFault Bool :=
  match d.node path with
  | .ok _ => .ok true
  | .error .missing | .error .notDirectory | .error .zeroInside => .ok false
  | .error fault => .error fault

/-- Whether a path leads to a directory. -/
def hasDirectory (d : Disk) (path : List String) : Bool :=
  match d.node path with
  | .ok (.directory _) => true
  | _ => false

/-- The bytes of the file that a path leads to. -/
def read (d : Disk) (path : List String) : Except DiskFault ByteArray := do
  match ← d.node path with
  | .file bytes _ => .ok bytes
  | .directory _ => .error .isDirectory

/-- Makes a directory. -/
def makeDirectory (d : Disk) (path : List String) (mode : Nat) : Except DiskFault Disk := do
  let place ← d.locate path
  if (d.at? place).isSome then .error .alreadyThere else .ok (d.put place (.directory mode))

/-- Makes a directory and, before it, those on the way that are missing, up to the first that is
    refused: the disk with those that were made, and the fault of that one. A directory that is
    there stays as it is. The path is given from its end. -/
def layDirectories (d : Disk) (mode : Nat) : List String → Disk × Option DiskFault
  | [] => (d, none)
  | name :: above =>
    let path := (name :: above).reverse
    match d.makeDirectory path mode with
    | .ok d => (d, none)
    | .error .missing =>
      match layDirectories d directoryMode above with
      | (d, some fault) => (d, some fault)
      | (d, none) =>
        if d.hasDirectory path then (d, none)
        else
          match d.makeDirectory path mode with
          | .ok d => (d, none)
          | .error fault => (d, some fault)
    | .error fault => (d, if d.hasDirectory path then none else some fault)

/-- Makes a directory and those on the way to it, or none of them. -/
def makeDirectories (d : Disk) (mode : Nat) (path : List String) : Except DiskFault Disk :=
  match d.layDirectories mode path with
  | (d, none) => .ok d
  | (_, some fault) => .error fault

/-- A single action of a write. -/
inductive Action where
  /-- Opens a file and empties it; a new file has the given permissions, one that is there its
      own. -/
  | openEmpty (path : List String) (mode : Nat)
  | setMode (path : List String) (mode : Nat)
  | write (path : List String) (bytes : ByteArray)
  /-- Puts a file in the place of whatever file is there. -/
  | move (source target : List String)

/-- The disk after an action. -/
def act (d : Disk) : Action → Except DiskFault Disk
  | .openEmpty path mode => do
    let place ← d.locate path
    match d.at? place with
    | some (.directory _) => .error .isDirectory
    | some (.file _ old) => .ok (d.put place (.file .empty old))
    | none => .ok (d.put place (.file .empty mode))
  | .setMode path mode => do
    let place ← d.locate path
    match d.at? place with
    | some (.directory _) => .ok (d.put place (.directory mode))
    | some (.file bytes _) => .ok (d.put place (.file bytes mode))
    | none => .error .missing
  | .write path bytes => do
    let place ← d.locate path
    match d.at? place with
    | some (.directory _) => .error .isDirectory
    | some (.file _ mode) => .ok (d.put place (.file bytes mode))
    | none => .error .missing
  | .move source target => do
    let here ← d.locate source
    let there ← d.locate target
    match d.at? here, d.at? there with
    | none, _ => .error .missing
    | some _, some (.directory _) =>
      .error (if target.getLast? = some ".." then .busy else .isDirectory)
    | some n, _ => .ok ((d.erase here).put there n)

/-- The disk after the actions up to the first that is refused, and the fault of that one. -/
def perform (d : Disk) : List Action → Disk × Option DiskFault
  | [] => (d, none)
  | a :: rest =>
    match d.act a with
    | .ok d => perform d rest
    | .error fault => (d, some fault)

/-- The disks that the actions leave behind one after another. -/
def stages (d : Disk) : List Action → List Disk
  | [] => []
  | a :: rest =>
    match d.act a with
    | .ok d => d :: stages d rest
    | .error _ => []

/-- The paths of everything on a disk, in the order of their texts. -/
def listing (d : Disk) : List String :=
  ((d.filter fun e => !e.1.isEmpty).map fun e => "/".intercalate e.1).mergeSort

end Disk

end Gatehouse
