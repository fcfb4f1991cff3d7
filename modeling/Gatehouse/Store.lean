import Gatehouse.Disk
import Gatehouse.Fault
import Gatehouse.Json.Reader
import Gatehouse.Json.Writer
import Gatehouse.Log
import Gatehouse.Marked.Restoring
import Gatehouse.Text.Blank

/-! Stores: named slots that outlive a single session. A store keeps its slots in memory or as one
    document on a disk, which is read again on every access. A document is written to a temporary
    file beside it, which only its owner may read from the first byte on, and then put in its place;
    so the document is always either the old one or the new one. -/

namespace Gatehouse

/-- A store. The document has its place on the disk and a path that messages name it by. -/
inductive Store where
  | memory (slots : Record Json)
  | file (disk : Disk) (place : List String) (path : String)

/-- What an access leaves behind: its result, the store, and what it logged. -/
structure Access (α : Type) where
  result : Except Fault α
  store : Store
  rows : List LogRow

namespace Store

/-- The bytes of a text. -/
def bytesOf (text : String) : ByteArray := text.toUTF8

/-- Whether bytes are nothing but blanks. -/
def isBlankBytes (bytes : ByteArray) : Bool := bytes.data.toList.all Text.isBlankByte

/-- The slots that a document holds. One that cannot be read, or is not an object, holds none, and
    that is logged. -/
def slotsOf (path : String) (bytes : ByteArray) : Record Json × List LogRow :=
  if isBlankBytes bytes then ([], [])
  else
    match Json.Dialect.document.readBytes? bytes with
    | some (.obj fields) => (fields, [])
    | some _ => ([], [⟨.storage, .error, "Storage file " ++ path ++ " does not hold an object"⟩])
    | none => ([], [⟨.storage, .error, "Corrupted storage file " ++ path ++ ": JSONDecodeError"⟩])

/-- All slots of a store. A document that is not there holds none. -/
def load : Store → Except Fault (Record Json) × List LogRow
  | memory slots => (.ok slots, [])
  | file disk place path =>
    match disk.read place with
    | .ok bytes => let (slots, rows) := slotsOf path bytes; (.ok slots, rows)
    | .error .missing => (.ok [], [])
    | .error fault => (.error (.disk fault), [])

/-- The place of the temporary file beside a document. There is nothing beside the top of a disk. -/
def temporary (place : List String) : List String :=
  place.dropLast ++ (place.getLast?.map (· ++ ".tmp")).toList

/-- The actions that write a document. Slots that have no document stop the write when the temporary
    file has just been emptied. -/
def writing (place : List String) (bytes? : Option ByteArray) : List Disk.Action :=
  [.openEmpty (temporary place) Disk.ownerOnly.2, .setMode (temporary place) Disk.ownerOnly.2] ++
    match bytes? with
    | some bytes => [.write (temporary place) bytes, .move (temporary place) place]
    | none => []

/-- Writes a document anew. Slots that have no document leave what was made on the way. -/
def renew (disk : Disk) (place : List String) (bytes? : Option ByteArray) :
    Except Fault Unit × Disk :=
  match disk.layDirectories Disk.ownerOnly.1 place.dropLast.reverse with
  | (disk, some fault) => (.error (.disk fault), disk)
  | (disk, none) =>
    match disk.perform (writing place bytes?) with
    | (disk, some fault) => (.error (.disk fault), disk)
    | (disk, none) => (if bytes?.isSome then .ok () else .error .unfit, disk)

/-- Writes all slots. -/
def save (s : Store) (slots : Record Json) : Except Fault Unit × Store :=
  match s with
  | memory _ => (.ok (), memory slots)
  | file disk place path =>
    let (result, disk) := renew disk place ((Json.document? (.obj slots)).map bytesOf)
    (result, file disk place path)

/-- The log row of a write to one slot; only slots on a disk are logged. -/
def slotRow (s : Store) (verb key : String) : List LogRow :=
  match s with
  | memory _ => []
  | file .. => [⟨.storage, .debug, "Storage " ++ verb ++ ": slot=" ++ key⟩]

/-- Writes all slots and logs it under a verb and the name of a slot. -/
def saveLogged (s : Store) (slots : Record Json) (rows : List LogRow) (verb key : String) :
    Access Unit :=
  let (result, after) := s.save slots
  ⟨result, after, rows ++ if result.toOption.isSome then s.slotRow verb key else []⟩

/-- The value of a slot. A slot that holds null counts as missing. -/
def get (s : Store) (key : String) : Access (Option Json) :=
  match s.load with
  | (.error fault, rows) => ⟨.error fault, s, rows⟩
  | (.ok slots, rows) =>
    let value := match slots.get? key with
      | some .null => none
      | v => v
    ⟨.ok value, s, rows⟩

/-- Writes a text to a slot. That a value cannot be shown, and so has no text, is found out when the
    slots have been loaded. -/
def write (s : Store) (key : String) (text : Except Json.Obstacle String) : Access Unit :=
  match s.load with
  | (.error fault, rows) => ⟨.error fault, s, rows⟩
  | (.ok slots, rows) =>
    match text with
    | .ok text => s.saveLogged (Record.put slots key (.str text)) rows "set" key
    | .error o => ⟨.error (.unshown o), s, rows⟩

/-- Writes the text of a value to a slot. -/
def set (s : Store) (key : String) (value : Json) : Access Unit := s.write key (.ok value.display)

/-- Removes a slot; a slot that is not there is left alone. -/
def remove (s : Store) (key : String) : Access Unit :=
  match s.load with
  | (.error fault, rows) => ⟨.error fault, s, rows⟩
  | (.ok slots, rows) =>
    if Record.has slots key then s.saveLogged (Record.erase slots key) rows "remove" key
    else ⟨.ok (), s, rows⟩

/-- Removes all slots; a document that is not there is not made. -/
def clear (s : Store) : Access Unit :=
  match s with
  | memory _ => ⟨.ok (), memory [], []⟩
  | file disk place _ =>
    match disk.has place with
    | .error fault => ⟨.error (.disk fault), s, []⟩
    | .ok false => ⟨.ok (), s, []⟩
    | .ok true =>
      let (result, after) := s.save []
      ⟨result, after, []⟩

/-- The value that a text inside a slot writes; a text that writes none stands for itself. -/
def decoded (names : Marked.Names) (text : String) : Except Fault Json :=
  match Json.Dialect.slot.read? text with
  | some v =>
    match Marked.restored names v with
    | .ok v => .ok v
    | .error .unwritten => .ok (.str text)
    | .error (.refused fault) => .error fault
  | none => .ok (.str text)

/-- The value that a slot was given with `setValue`. The names that it may speak of are given. -/
def getValue (s : Store) (names : Marked.Names) (key : String) : Access Json :=
  let found := s.get key
  let result := match found.result with
    | .error fault => .error fault
    | .ok none => .ok .null
    | .ok (some (.str text)) => decoded names text
    | .ok (some _) => .error .unfit
  ⟨result, found.store, found.rows⟩

/-- Writes a value to a slot in such a form that `getValue` gives it back. -/
def setValue (s : Store) (key : String) (value : Json) : Access Unit :=
  s.set key (.str (Json.slotText (Marked.unmarked value)))

/-- Refuses a value that has no written form; no slot is touched. -/
def setUnwritable (s : Store) (reason : String) : Access Unit :=
  ⟨.error (.unwritable reason), s, []⟩

/-- The description of a store: where it keeps its slots, and never what is in them. -/
def description : Store → String
  | memory slots =>
    "<MemoryStorage slots=" ++ (Json.arr ((Record.keys slots).mergeSort.map .str)).quoted ++ ">"
  | file _ _ path => "<FileStorage path=" ++ Text.quoted path ++ ">"

/-- The slot that holds the credential, unless another one is chosen. -/
def tokenSlot : String := "vaulthub_token"

/-- The bearer token in a slot, if it counts as present. -/
def token (s : Store) (slot : String) : Access (Option Json) :=
  let found := s.get slot
  ⟨found.result.map fun v => v.bind Json.present?, found.store, found.rows⟩

/-- Stores the text of a bearer token, which must count as present. The stack has room for so many
    levels of calls. -/
def setToken (s : Store) (room : Nat) (slot : String) (token : Json) : Access Unit :=
  if token.isPresent then s.write slot (token.shown room) else ⟨.error .emptyToken, s, []⟩

/-- Removes the bearer token. -/
def removeToken (s : Store) (slot : String) : Access Unit := s.remove slot

/-- Whether there is a bearer token. -/
def hasToken (s : Store) (slot : String) : Access Bool :=
  let found := s.token slot
  ⟨found.result.map Option.isSome, found.store, found.rows⟩

end Store

end Gatehouse
