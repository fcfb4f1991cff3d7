import Gatehouse.KnownNames
import Gatehouse.Operation

/-! A bench for stores: the accesses to one store one after another, with a session over it if one
    is wanted, and a look at the disk beneath it from outside. -/

namespace Gatehouse

/-- A store on the bench. Where the store has been opened anew, the session still uses the old
    one. -/
structure Bench where
  desk : Desk
  /-- The store that the session uses, where it is another one. -/
  old : Option Store
  /-- The slots that a store in memory is opened with. -/
  initial : Record Json

/-- An access to what is on the bench. -/
inductive BenchOperation where
  | get (key : String)
  | set (key : String) (value : Json)
  | remove (key : String)
  | clear
  | getValue (key : String)
  | setValue (key : String) (value : Json)
  | setUnwritable (key : String) (reason : String)
  | getToken
  | setToken (token : Json)
  | removeToken
  | hasToken
  /-- Opens the store anew. -/
  | reopen
  | describe
  /-- Writes the document from outside. -/
  | overwrite (bytes : ByteArray)
  | readBack
  | mode (path : List String)
  | setMode (path : List String) (mode : Nat)
  | listing
  | beginSession (token : Json)
  | endSession
  | setUser (data : Json)
  | clearUser
  | session

namespace Bench

variable {α : Type}

/-- Works with the store. -/
def onStore (b : Bench) (work : Work α) : Except Fault α × Bench :=
  let (result, desk) := work.run.run b.desk
  (result, { b with desk := desk })

/-- Works with the session and the store that it uses. -/
def onSession (b : Bench) (work : Work α) : Except Fault α × Bench :=
  match b.old with
  | none => b.onStore work
  | some store =>
    let (result, desk) := work.run.run { b.desk with store := store }
    (result, { b with desk := { desk with store := b.desk.store }, old := some desk.store })

/-- Opens the store anew: a store in memory begins again, and one on a disk finds its document. -/
def reopened (b : Bench) : Bench :=
  match b.desk.store with
  | .memory slots =>
    { b with
      desk := { b.desk with store := .memory b.initial }
      old := b.old <|> some (.memory slots) }
  | .file .. => b

/-- Changes the disk beneath the store. -/
def onDisk (b : Bench) (work : Disk → List String → Except DiskFault (α × Disk)) :
    Except Fault α × Bench :=
  match b.desk.store with
  | .memory _ => (.error .unfit, b)
  | .file disk place path =>
    match work disk place with
    | .ok (a, disk) => (.ok a, { b with desk := { b.desk with store := .file disk place path } })
    | .error fault => (.error (.disk fault), b)

/-- Writes a file from outside; a new one may be read by anybody. -/
def writeFile (disk : Disk) (place : List String) (bytes : ByteArray) : Except DiskFault Disk := do
  let disk ← disk.act (.openEmpty place Disk.fileMode)
  disk.act (.write place bytes)

/-- The text of a file, if it is there. -/
def textOf (disk : Disk) (place : List String) : Except DiskFault Json := do
  if ← disk.has place then
    let bytes ← disk.read place
    pure (.str ((String.fromUTF8? bytes).getD ""))
  else pure .null

/-- Permissions in base eight. -/
def octal (mode : Nat) : String := String.ofList (Nat.toDigits 8 mode)

/-- The result as a value. -/
def asValue (f : α → Value) (r : Except Fault α × Bench) : Except Fault Value × Bench :=
  (r.1.map f, r.2)

/-- The result of work that gives nothing. -/
def asNothing : Except Fault Unit × Bench → Except Fault Value × Bench := asValue fun _ => .nothing

/-- Runs an operation. -/
def run (b : Bench) : BenchOperation → Except Fault Value × Bench
  | .get key => asValue (fun v => .data (v.getD .null)) (b.onStore (Desk.access (·.get key)))
  | .set key value => asNothing (b.onStore (Desk.access (·.set key value)))
  | .remove key => asNothing (b.onStore (Desk.access (·.remove key)))
  | .clear => asNothing (b.onStore (Desk.access Store.clear))
  | .getValue key => asValue .data (b.onStore (Desk.access (·.getValue KnownNames.all key)))
  | .setValue key value => asNothing (b.onStore (Desk.access (·.setValue key value)))
  | .setUnwritable _ reason => asNothing (b.onStore (Desk.access (·.setUnwritable reason)))
  | .getToken => asValue (fun v => .data (v.getD .null)) (b.onStore Desk.token)
  | .setToken token => asNothing (b.onStore (Desk.setToken Json.usualRoom token))
  | .removeToken => asNothing (b.onStore Desk.removeToken)
  | .hasToken => asValue .flag (b.onStore Desk.hasToken)
  | .reopen => (.ok .nothing, b.reopened)
  | .describe => (.ok (.text b.desk.store.description), b)
  | .overwrite bytes =>
    asNothing (b.onDisk fun disk place => (writeFile disk place bytes).map ((), ·))
  | .readBack => asValue .data (b.onDisk fun disk place => (textOf disk place).map (·, disk))
  | .mode path =>
    asValue (fun n => .text (octal n)) (b.onDisk fun disk _ => (disk.node path).map (·.mode, disk))
  | .setMode path mode =>
    asNothing (b.onDisk fun disk _ => (disk.act (.setMode path mode)).map ((), ·))
  | .listing =>
    asValue (fun names => .data (.arr (names.map .str)))
      (b.onDisk fun disk _ => .ok (disk.listing, disk))
  | .beginSession token => asNothing (b.onSession (Desk.signIn Json.usualRoom token))
  | .endSession => asNothing (b.onSession Desk.signOut)
  | .setUser data =>
    match (User.check data).orInvalid .user with
    | .ok user => asNothing (b.onSession (Desk.setUser user))
    | .error fault => (.error fault, b)
  | .clearUser => asNothing (b.onSession Desk.clearUser)
  | .session => (.ok (.session b.desk.session), b)

/-- A bench with a store. The session, if one is wanted, is seeded from the store. -/
def begin (store : Store) (slot : String) (withSession : Bool) (initial : Record Json) :
    Except Fault Bench := do
  let desk : Desk := ⟨store, slot, ⟨none, none⟩, []⟩
  if withSession then
    let (result, desk) := Desk.seed.run.run desk
    result
    pure ⟨desk, none, initial⟩
  else pure ⟨desk, none, initial⟩

/-- The bench with an empty journal. -/
def withoutJournal (b : Bench) : Bench := { b with desk := { b.desk with journal := [] } }

end Bench

end Gatehouse
