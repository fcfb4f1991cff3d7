import Gatehouse.Fault
import Gatehouse.Field
import Gatehouse.Json.Display

/-! Accounts: the roles a view may ask for and the read-only snapshot of the current user. The
    service may send more than is known here; fields with other names are kept as they came. -/

namespace Gatehouse

/-- The roles that the service itself knows. -/
inductive BuiltinRole where
  | admin
  | user
  deriving DecidableEq, Repr

/-- The name of a built-in role. -/
def BuiltinRole.name : BuiltinRole → String
  | admin => "admin"
  | user => "user"

/-- The built-in roles in their order. -/
def BuiltinRole.all : List BuiltinRole := [admin, user]

/-- The built-in role with a name. -/
def BuiltinRole.ofName? (name : String) : Option BuiltinRole := all.find? fun r => r.name = name

/-- A role: one of the built-in ones, or a role that is only known by its name. -/
inductive Role where
  | builtin (r : BuiltinRole)
  | named (name : String)
  deriving DecidableEq, Repr

namespace Role

/-- The name of a role. Roles are compared by their names. -/
def name : Role → String
  | builtin r => r.name
  | named name => name

/-- A role as log rows write it. -/
def label : Role → String
  | builtin .admin => "Role.ADMIN"
  | builtin .user => "Role.USER"
  | named name => name

/-- A role that came as data is known by its name alone. -/
def check : Json → Checked Role
  | .str s => .good (.named s)
  | _ => .bad [⟨[.builtinRole], .notBuiltinRole⟩, ⟨[.roleText], .notText⟩]

end Role

/-- A snapshot of a user. -/
structure User where
  role : Role
  id : Option Int
  uuid : Option String
  username : Option String
  status : Option Int
  lastLoginAt : Option Moment
  createdAt : Option Moment
  updatedAt : Option Moment
  extra : Record Json

namespace User

/-- The names of the fields of a user that are known here. -/
def fieldNames : List String :=
  ["role", "id", "uuid", "username", "status", "last_login_at", "created_at", "updated_at"]

/-- Reads a user: a role is required, the other known fields may be left out or null. -/
def check (data : Json) : Checked User :=
  data.fields.andThen fun r =>
    User.mk <$> r.required "role" Role.check
      <*> r.optional "id" none (Field.nullable Field.whole)
      <*> r.optional "uuid" none (Field.nullable Field.text)
      <*> r.optional "username" none (Field.nullable Field.text)
      <*> r.optional "status" none (Field.nullable Field.whole)
      <*> r.optional "last_login_at" none (Field.nullable Field.moment)
      <*> r.optional "created_at" none (Field.nullable Field.moment)
      <*> r.optional "updated_at" none (Field.nullable Field.moment)
      <*> pure (r.without fieldNames)

/-- Whether a user has a role. -/
def hasRole (u : User) (role : Role) : Bool := u.role.name == role.name

/-- The names of the parts that make a snapshot what it is; they take no plain value. -/
def innerNames : List String := ["__class__", "__dict__"]

/-- The names of the parts that a snapshot has from outside; they cannot be replaced. -/
def outerNames : List String :=
  ["__weakref__", "__fields_set__", "__class_vars__", "__private_attributes__", "__signature__"]

/-- A snapshot is read-only: an assignment to a field is a mistake. Names with a leading underscore
    are no fields, and nothing is watched there but a few of them. -/
def assign (name : String) : Except Fault Unit :=
  if innerNames.contains name then .error .unfit
  else if outerNames.contains name then .error .unchangeable
  else if name.startsWith "_" then .ok ()
  else ((Checked.fail .fixed).within (.field name)).orInvalid .user

/-- An optional value in quoted form. -/
def quotedOption {α : Type} (quote : α → String) : Option α → String
  | some a => quote a
  | none => Json.null.quoted

/-- The description of a user: the known fields in their order, then the others. -/
def description (u : User) : String :=
  let whole := quotedOption fun n : Int => toString n
  let text := quotedOption Text.quoted
  let moment := quotedOption Moment.text
  let known := [("role", Text.quoted u.role.name), ("id", whole u.id), ("uuid", text u.uuid),
    ("username", text u.username), ("status", whole u.status),
    ("last_login_at", moment u.lastLoginAt), ("created_at", moment u.createdAt),
    ("updated_at", moment u.updatedAt)]
  let shown := known ++ u.extra.map fun e => (e.1, e.2.quoted)
  "UserInfo(" ++ ", ".intercalate (shown.map fun e => e.1 ++ "=" ++ e.2) ++ ")"

end User

/-- Whether the user has set a security PIN. -/
structure PinStatus where
  isSet : Bool
  deriving DecidableEq, Repr

/-- Reads the status of the security PIN. -/
def PinStatus.check (data : Json) : Checked PinStatus :=
  data.fields.andThen fun r => PinStatus.mk <$> r.required "has_security_pin" Field.flag

end Gatehouse
