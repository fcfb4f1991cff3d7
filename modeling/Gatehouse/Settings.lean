import Gatehouse.Decimal.Written
import Gatehouse.Fault
import Gatehouse.Field
import Gatehouse.Log
import Gatehouse.Path

/-! The settings of the client. They come as named values or from the environment, and every value
    is checked: the service must be reached over HTTP, the special routes must be absolute, and a
    visitor who has signed in must not land on a route for those who have not. -/

namespace Gatehouse

/-- The settings of the client. -/
structure Settings where
  /-- The address of the service, without slashes at its end. -/
  baseUrl : String
  /-- The most seconds that a call may take. -/
  timeout : Float
  storagePath : Path
  loginPath : String
  registerPath : String
  landingPath : String
  enrollmentPath : String
  /-- The most redirects that one navigation may follow. -/
  maxRedirects : Nat

namespace Settings

/-- The home directories of the machine. -/
def homes : Path.Homes :=
  [("", ⟨"/", ["home", "tester"]⟩), ("root", ⟨"/", ["root"]⟩)]

/-- The path of the store where none is given. -/
def defaultStoragePath : Path := ⟨"/", ["home", "tester", ".vaulthub", "storage.json"]⟩

/-- The settings where nothing is given. -/
def default : Settings :=
  ⟨"http://localhost:8080/api", 10.0, defaultStoragePath, "/login", "/register", "/vault",
    "/setup-security-pin", 10⟩

/-- A text without its trailing slashes. -/
def withoutTrailingSlashes (s : String) : String :=
  String.ofList (s.toList.reverse.dropWhile (· = '/')).reverse

/-- The address of the service: an HTTP address, of which the trailing slashes are dropped. -/
def checkBaseUrl (v : Json) : Checked String :=
  (Field.text v).andThen fun s =>
    if s.startsWith "http://" || s.startsWith "https://" then .good (withoutTrailingSlashes s)
    else .fail (.refused ("base_url must be an http(s) URL, got " ++ Text.quoted s))

/-- The path of a special route: it begins with a slash. -/
def checkRoutePath (v : Json) : Checked String :=
  (Field.text v).andThen fun s =>
    if s.startsWith "/" then .good s
    else .fail (.refused ("route path must start with '/', got " ++ Text.quoted s))

/-- A number of seconds: more than zero. -/
def checkTimeout (v : Json) : Checked Float :=
  (Field.number v).andThen fun x => if x > 0.0 then .good x else .fail .notAbove

/-- The path of the store, in normal form. -/
def checkStoragePath : Json → Checked Path
  | .str s => .good (Path.ofText s)
  | _ => .fail .notPath

/-- The least and the greatest bound on redirects. -/
def redirectBounds : Nat × Nat := (1, 100)

/-- A bound on redirects. -/
def checkMaxRedirects (v : Json) : Checked Nat :=
  (Field.whole v).andThen fun n =>
    if n < redirectBounds.1 then .fail .below
    else if redirectBounds.2 < n then .fail .above
    else .good n.toNat

/-- The landing route is neither the login nor the registration route. -/
def checkLanding (s : Settings) : Checked Settings :=
  if s.landingPath = s.loginPath || s.landingPath = s.registerPath then
    .fail (.refused
      ("landing_path " ++ s.landingPath ++ " cannot be the login or registration route"))
  else .good s

/-- Reads settings from named values. What is left out has its default, and other names are
    ignored. -/
def check (r : Record Json) : Checked Settings :=
  let parts : Checked Settings :=
    Settings.mk <$> r.optional "base_url" default.baseUrl checkBaseUrl
      <*> r.optional "timeout" default.timeout checkTimeout
      <*> r.optional "storage_path" default.storagePath checkStoragePath
      <*> r.optional "login_path" default.loginPath checkRoutePath
      <*> r.optional "register_path" default.registerPath checkRoutePath
      <*> r.optional "landing_path" default.landingPath checkRoutePath
      <*> r.optional "enrollment_path" default.enrollmentPath checkRoutePath
      <*> r.optional "max_redirects" default.maxRedirects checkMaxRedirects
  parts.andThen checkLanding

/-- The settings with the given named values. -/
def ofRecord (r : Record Json) : Except Fault Settings := (check r).orInvalid .settings

/-- The variables of an environment. -/
abbrev Environment := Record String

/-- A variable that is set; one that is empty counts as not set. -/
def valueOf? (env : Environment) (name : String) : Option String :=
  (env.get? name).bind fun text => if text = "" then none else some text

/-- The named values that an environment gives. -/
def valuesOf (env : Environment) : Except Fault (Record Json) := do
  let baseUrl := (valueOf? env "VAULTHUB_API_BASE_URL").map fun s => ("base_url", Json.str s)
  let timeout ← match valueOf? env "VAULTHUB_TIMEOUT" with
    | none => pure none
    | some s => match Decimal.writtenNumber? s with
      | some x => pure (some ("timeout", Json.float x))
      | none => throw (.notNumber s)
  let path ← match valueOf? env "VAULTHUB_STORAGE_PATH" with
    | none => pure none
    | some s => match (Path.ofText s).expanded? homes with
      | some p => pure (some ("storage_path", Json.str p.text))
      | none => throw .unknownHome
  pure (baseUrl.toList ++ timeout.toList ++ path.toList)

/-- The log row of settings that came from an environment. -/
def row (s : Settings) : LogRow :=
  ⟨.settings, .debug, "Loaded client config: base_url=" ++ s.baseUrl ++ " timeout=" ++
    shownNumber.render s.timeout ++ " storage=" ++ s.storagePath.text⟩

/-- The settings that an environment gives. -/
def ofEnvironment (env : Environment) : Except Fault Settings := do
  let values ← valuesOf env
  ofRecord values

end Settings

end Gatehouse
