import Gatehouse.Account
import Gatehouse.Fault

/-! Routes and the table that holds them. A route is declared once under a path and carries the
    policy for those who want to enter it. A path is looked up in its normal form: without query,
    fragment and trailing slashes. Declared paths are taken as they are. -/

namespace Gatehouse

/-- What a route asks of those who enter it. -/
structure Policy where
  requiresAuth : Bool
  requiresRole : Option Role
  skipsPinCheck : Bool
  deriving DecidableEq, Repr

namespace Policy

/-- The policy of a route that is open to all. -/
def none : Policy := ⟨false, .none, false⟩

/-- Reads a policy; everything may be left out. -/
def check (data : Json) : Checked Policy :=
  data.fields.andThen fun r =>
    Policy.mk <$> r.optional "requires_auth" none.requiresAuth Field.flag
      <*> r.optional "requires_role" none.requiresRole (Field.nullable Role.check)
      <*> r.optional "skip_security_pin_check" none.skipsPinCheck Field.flag

/-- The role that is asked for. A role without a name asks for nothing. -/
def role? (p : Policy) : Option Role := p.requiresRole.filter (·.name ≠ "")

/-- Whether those who enter are asked for their security PIN. -/
def checksPin (p : Policy) : Bool := p.requiresAuth && !p.skipsPinCheck

end Policy

/-- A declared view. -/
structure Route where
  path : String
  name : Option String
  policy : Policy
  redirect : Option String
  deriving DecidableEq, Repr

namespace Route

/-- Reads a route: only the path is required. -/
def check (data : Json) : Checked Route :=
  data.fields.andThen fun r =>
    Route.mk <$> r.required "path" Field.text
      <*> r.optional "name" none (Field.nullable Field.text)
      <*> r.optional "meta" Policy.none Policy.check
      <*> r.optional "redirect" none (Field.nullable Field.text)

/-- Where the route always leads on to. An empty target is none. -/
def redirect? (r : Route) : Option String := r.redirect.filter (· ≠ "")

end Route

/-- The declared routes in their order, no two under the same path. -/
structure Table where
  routes : List Route
  deriving DecidableEq, Repr

namespace Table

/-- The normal form of a path. A path that is all query or fragment is the root, and the root keeps
    its slash; a longer path of nothing but slashes has nothing left. -/
def normal (path : String) : String :=
  match path.toList.takeWhile fun c => c ≠ '?' && c ≠ '#' with
  | [] => "/"
  | [c] => String.ofList [c]
  | cs => String.ofList (cs.reverse.dropWhile (· = '/')).reverse

/-- The route that is declared under a path, exactly as it is written. -/
def get? (t : Table) (path : String) : Option Route := t.routes.find? (·.path = path)

/-- The table with one more route, if its path is still free. -/
def add (t : Table) (r : Route) : Except Fault Table :=
  if (t.get? r.path).isSome then .error (.duplicateRoute r.path) else .ok ⟨t.routes ++ [r]⟩

/-- The table of a list of routes. -/
def ofList (routes : List Route) : Except Fault Table := routes.foldlM add ⟨[]⟩

/-- The table of routes that came as data; each is read when it is added. -/
def ofData (items : List Json) : Except Fault Table :=
  items.foldlM
    (fun t item => do
      let r ← (Route.check item).orInvalid .route
      t.add r)
    ⟨[]⟩

/-- Whether a route is declared for a path. -/
def contains (t : Table) (path : String) : Bool := (t.get? (normal path)).isSome

/-- The route that is declared for a path. -/
def resolve (t : Table) (path : String) : Except NavigationFault Route :=
  match t.get? (normal path) with
  | some r => .ok r
  | none => .error (.unknownRoute path)

/-- A route that is open to all. -/
def openRoute (path name : String) : Route := ⟨path, some name, .none, none⟩

/-- A route for those who have signed in. -/
def closedRoute (path name : String) : Route :=
  ⟨path, some name, { Policy.none with requiresAuth := true }, none⟩

/-- The routes of the application. -/
def default : Table :=
  ⟨[openRoute "/login" "Login", openRoute "/register" "Register",
    openRoute "/forgot-password" "ForgotPassword", openRoute "/reset-password" "ResetPassword",
    ⟨"/setup-security-pin", some "SetupSecurityPin", ⟨true, none, true⟩, none⟩,
    openRoute "/reset-security-pin" "ResetSecurityPin", ⟨"/", none, .none, some "/vault"⟩,
    closedRoute "/vault" "Vault", closedRoute "/user" "User",
    ⟨"/system/config", some "SystemConfig", ⟨true, some (.builtin .admin), false⟩, none⟩]⟩

end Table

end Gatehouse
