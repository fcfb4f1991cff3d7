import Gatehouse.Account
import Gatehouse.Envelope
import Gatehouse.Route
import Gatehouse.Settings

/-! Records. A slot may hold a record of one of the kinds that this program works with. It is made
    as a whole or taken from a state; its fields cannot be put into it one by one. -/

namespace Gatehouse.Marked

/-- The kinds of records. -/
inductive Shape where
  | settings
  | route
  | policy
  | user
  | pinStatus
  | envelope
  /-- Decisions on visits. -/
  | decision
  /-- Outcomes of calls. -/
  | answer
  deriving DecidableEq, Repr

namespace Shape

/-- The names of the fields of a record, in their order. -/
def fieldNames : Shape → List String
  | settings =>
    ["base_url", "timeout", "storage_path", "login_path", "register_path", "landing_path",
      "enrollment_path", "max_redirects"]
  | route => ["path", "name", "meta", "redirect"]
  | policy => ["requires_auth", "requires_role", "skip_security_pin_check"]
  | user => User.fieldNames
  | pinStatus => ["has_security_pin"]
  | envelope => Envelope.fieldNames
  | decision => ["allowed", "redirect", "reason"]
  | answer => ["data", "error"]

/-- Whether a record keeps fields with other names. -/
def keepsOthers : Shape → Bool
  | user | envelope => true
  | _ => false

/-- Whether records are taken from their states. -/
def hasState : Shape → Bool
  | decision | answer => false
  | _ => true

/-- Whether nothing inside of a record can change. -/
def isFixed : Shape → Bool
  | settings | pinStatus | envelope => false
  | _ => true

/-- The fields that a record has before it is given any. -/
def initial : Shape → Record Json
  | decision => [("redirect", .null), ("reason", .str "")]
  | answer => [("data", .null), ("error", .null)]
  | _ => []

/-- The fields of a record that is made of nothing, where that is possible. -/
def default? : Shape → Option (Record Json)
  | settings =>
    let s := Settings.default
    some (settings.fieldNames.zip [.str s.baseUrl, .float s.timeout, .str s.storagePath.text,
      .str s.loginPath, .str s.registerPath, .str s.landingPath, .str s.enrollmentPath,
      .int s.maxRedirects])
  | policy =>
    let p := Policy.none
    some (policy.fieldNames.zip [.bool p.requiresAuth, .null, .bool p.skipsPinCheck])
  | answer => some answer.initial
  | _ => none

/-- What comes of putting a field into a record. Names that begin with an underscore are not those
    of fields, and most of them are taken without being checked. -/
def setField (s : Shape) (name : String) : Except Fault Unit :=
  match s with
  | decision | answer => .error .sealed
  | route | policy | user => User.assign name
  | s =>
    if name.startsWith "_" then User.assign name
    else if s.keepsOthers || s.fieldNames.contains name then .error .unchangeable
    else .error (.rejected name)

/-- The value of a record with some fields and some others; none if a field is missing. The outcome
    of a call says whether there is no error, and any other error cannot be written. -/
def write? (s : Shape) (fields others : Record Json) : Option Json := do
  let known ← s.fieldNames.mapM fun name => (fields.get? name).map fun v => (name, v)
  match s, known with
  | answer, [data, ("error", .null)] =>
    some (.obj [("ok", .bool true), data, ("error", .null)])
  | answer, _ => none
  | s, known => some (.obj (known ++ if s.keepsOthers then [("extra", .obj others)] else []))

end Shape

end Gatehouse.Marked
