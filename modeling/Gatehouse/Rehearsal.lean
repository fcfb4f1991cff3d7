import Gatehouse.Pool

/-! Rehearsals: operations over a service that answers by a script. The script has replies for each
    request; a reply may be held back behind a gate, and then the operation waits until the gate is
    opened. Everything else comes at once. -/

namespace Gatehouse

/-- A reply, and the gate that holds it back. -/
structure Cue where
  gate : Option String
  reply : Reply

/-- The replies that are still to come, by the requests that they answer. -/
abbrev Script := Record (List Cue)

namespace Script

/-- What a request is called in a script: its method, and its address without that of the
    service. -/
def keyOf (settings : Settings) (request : Request) : String :=
  request.method ++ " " ++
    String.ofList (request.url.toList.drop settings.baseUrl.toList.length)

/-- The name of the replies to requests that have no replies of their own. -/
def anyRequest : String := "*"

/-- The reply where the script has none. -/
def success : Cue :=
  ⟨none, .received 200 "\x7b\"code\":200,\"data\":null,\"message\":\"success\"\x7d".toUTF8
    Json.usualRoom⟩

/-- The next reply under a name, and the script after it. The last one stays. -/
def next (s : Script) (name : String) : Cue × Script :=
  match Record.get? s name with
  | some (cue :: more :: rest) => (cue, Record.put s name (more :: rest))
  | some [cue] => (cue, s)
  | _ => (success, s)

/-- The reply to a request, and the script after it. -/
def take (s : Script) (settings : Settings) (request : Request) : Cue × Script :=
  let key := keyOf settings request
  s.next (if Record.has s key then key else anyRequest)

end Script

/-- An operation that waits behind a gate. -/
structure Held where
  gate : String
  index : Nat
  reply : Reply

/-- A rehearsal as far as it has come. -/
structure Rehearsal where
  setup : Setup
  pool : Pool
  script : Script
  /-- The gates that have been opened. -/
  gates : List String
  /-- The operations behind closed gates, in the order in which they began to wait. -/
  queue : List Held
  /-- The names of operations. -/
  names : Record Nat

namespace Rehearsal

/-- Goes on with an operation until it is over or waits behind a closed gate. -/
def drive (r : Rehearsal) (index : Nat) : Progress State (Except Fault Value) → Rehearsal
  | .ended s result =>
    { r with pool := ⟨s, r.pool.stages.set index (.over result)⟩ }
  | .waits s request resume =>
    let taken := r.script.take r.setup.settings request
    match taken.1.gate.filter fun gate => !r.gates.contains gate with
    | none => drive { r with script := taken.2 } index (resume taken.1.reply s)
    | some gate =>
      { r with
        pool := ⟨s, r.pool.stages.set index (.waiting request resume)⟩
        script := taken.2
        queue := r.queue ++ [⟨gate, index, taken.1.reply⟩] }

/-- Takes up something that may have a name, as over without a result. -/
def enlist (r : Rehearsal) (name : Option String) : Rehearsal :=
  let pool := { r.pool with stages := r.pool.stages ++ [.over (.ok .nothing)] }
  let names := match name with
    | some name => Record.put r.names name r.pool.stages.length
    | none => r.names
  { r with pool := pool, names := names }

/-- Starts an operation, which may have a name. -/
def start (r : Rehearsal) (name : Option String) (op : Operation) : Rehearsal :=
  drive (r.enlist name) r.pool.stages.length (op.run r.setup r.pool.state)

/-- Lets the held reply of an operation come in. -/
def letIn (r : Rehearsal) (held : Held) : Rehearsal :=
  match r.pool.stages[held.index]? with
  | some (.waiting _ resume) => drive r held.index (resume held.reply r.pool.state)
  | _ => r

/-- Opens a gate for good, which may have a name like an operation. Those who waited behind the gate
    go on, one after another. -/
def openGate (r : Rehearsal) (name : Option String) (gate : String) : Rehearsal :=
  let here := r.queue.filter (·.gate = gate)
  let others := r.queue.filter (·.gate ≠ gate)
  here.foldl letIn { r.enlist name with gates := gate :: r.gates, queue := others }

/-- The result of the operation that was started last. -/
def lastResult? (r : Rehearsal) : Option (Except Fault Value) :=
  r.pool.result? (r.pool.stages.length - 1)

/-- The result of the operation with a name. -/
def resultOf? (r : Rehearsal) (name : String) : Option (Except Fault Value) :=
  (Record.get? r.names name).bind r.pool.result?

/-- The state with an empty journal. -/
def withoutJournal (r : Rehearsal) : Rehearsal :=
  { r with pool := { r.pool with state := { r.pool.state with journal := [] } } }

/-- The stored token, or the fault of a store that cannot be read. -/
def storedToken (s : State) : Except Fault (Option Json) := (s.store.token s.slot).result

end Rehearsal

/-- Where the slots of a house are kept. -/
inductive Storage where
  | memory (slots : Record Json)
  /-- A document at the top of a disk of its own. -/
  | document (content : Option ByteArray)
  /-- The document that the settings name, on a disk on which there is nothing yet. -/
  | fromSettings

namespace Rehearsal

/-- How messages name the top of a disk of its own. -/
def diskTop : String := "<tmp>"

/-- The name of the document on a disk of its own. -/
def documentName : String := "storage.json"

/-- The store that a house begins with. -/
def storeOf (settings : Settings) : Storage → Except Fault Store
  | .memory slots => .ok (.memory slots)
  | .document content =>
    let disk := (content.map fun bytes => ([documentName], Node.file bytes Disk.fileMode)).toList
    .ok (.file disk [documentName] (diskTop ++ "/" ++ documentName))
  | .fromSettings =>
    match settings.storagePath.expanded? Settings.homes with
    | some path => .ok (.file [] path.parts path.text)
    | none => .error .unknownHome

/-- A rehearsal that is about to begin. The session is seeded from the store. -/
def begin (setup : Setup) (storage : Storage) (isBorrowed : Bool) (script : Script)
    (rows : List LogRow) : Except Fault Rehearsal := do
  let store ← storeOf setup.settings storage
  let desk : Desk := ⟨store, Store.tokenSlot, ⟨none, none⟩, Journal.addRows [] rows⟩
  let (result, desk) := Desk.seed.run.run desk
  result
  let connections := if isBorrowed then Connections.borrowed else Connections.none
  pure ⟨setup, ⟨⟨desk, connections, Navigation.start⟩, []⟩, script, [], [], []⟩

end Rehearsal

end Gatehouse
