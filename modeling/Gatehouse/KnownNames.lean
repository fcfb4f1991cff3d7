import Gatehouse.About
import Gatehouse.Endpoint
import Gatehouse.Marked.Names
import Gatehouse.Store

/-! The names that a slot may speak of: those of this program, and a few that every program has. A
    slot may have been written by another one, so the names are those that all of them agree on. -/

namespace Gatehouse.KnownNames

open Marked

/-- The names inside of a module, and the module itself. -/
def inside (moduleName : String) (entries : Record Draft) : Names :=
  (moduleName, .formless) :: (moduleName ++ ".__name__", .text moduleName) ::
    entries.map fun e => (moduleName ++ "." ++ e.1, e.2)

/-- A name that stands for a text. -/
def text (name s : String) : String × Draft := (name, .text s)

/-- A name that stands for a whole number. -/
def whole (name : String) (n : Int) : String × Draft := (name, .whole n)

/-- A name that stands for a binary number. -/
def number (name : String) (x : Float) : String × Draft := (name, .plain (.float x))

/-- A name that stands for a flag. -/
def flag (name : String) (b : Bool) : String × Draft := (name, .plain (.bool b))

/-- A name that stands for a maker. -/
def maker (name : String) (m : Maker) : String × Draft := (name, .maker m)

/-- The kinds of values that are always there. -/
def builtins : Names :=
  inside "builtins"
    [flag "True" true, flag "False" false, flag "__debug__" true, maker "list" .list,
      maker "tuple" .fixedList, maker "dict" .object, maker "set" .set,
      maker "frozenset" .fixedSet, maker "str" .text, maker "int" .whole, maker "float" .number,
      maker "bool" .flag, maker "bytes" .bytes, maker "object" .bare, maker "NoneType" .null,
      maker "len" .size]

/-- The letters of ASCII, small and large. -/
def letters : String × String := ("abcdefghijklmnopqrstuvwxyz", "ABCDEFGHIJKLMNOPQRSTUVWXYZ")

/-- The digits of ASCII. -/
def digits : String := "0123456789"

/-- The other characters of ASCII that are seen. -/
def punctuation : String := "!\"#$%&'()*+,-./:;<=>?@[\\]^_\x60\x7b|\x7d~"

/-- The blanks of ASCII. -/
def blanks : String := " \t\n\r\x0b\x0c"

/-- Classes of characters. -/
def characters : Names :=
  let (small, large) := letters
  inside "string"
    [text "ascii_lowercase" small, text "ascii_uppercase" large,
      text "ascii_letters" (small ++ large), text "digits" digits,
      text "hexdigits" (digits ++ "abcdefABCDEF"), text "octdigits" "01234567",
      text "punctuation" punctuation, text "whitespace" blanks,
      text "printable" (digits ++ small ++ large ++ punctuation ++ blanks)]

/-- Numbers of mathematics. -/
def mathematics : Names :=
  inside "math"
    [number "pi" 3.141592653589793, number "e" 2.718281828459045, number "tau" 6.283185307179586,
      number "inf" (1.0 / 0.0), number "nan" (0.0 / 0.0)]

/-- What is said about the paths of the machine. -/
def pathWords : Record Draft :=
  [text "sep" "/", text "curdir" ".", text "pardir" "..", text "extsep" ".", text "pathsep" ":",
    text "defpath" "/bin:/usr/bin", text "devnull" "/dev/null"]

/-- What is said about the machine. -/
def machine : Names :=
  inside "sys"
      [whole "maxsize" 0x7fffffffffffffff, whole "maxunicode" 0x10ffff, text "byteorder" "little",
        text "platform" "linux"] ++
    inside "os" (text "name" "posix" :: text "linesep" "\n" :: pathWords) ++
    inside "posixpath" pathWords ++ pathWords.map (fun e => ("os.path." ++ e.1, e.2)) ++
    inside "pathlib"
      [maker "Path" .path, maker "PosixPath" .path, maker "PurePath" .path,
        maker "PurePosixPath" .path]

/-- The levels of log rows, the range of years, and moments. -/
def ranges : Names :=
  inside "logging"
      [whole "NOTSET" 0, whole "DEBUG" 10, whole "INFO" 20, whole "WARNING" 30, whole "WARN" 30,
        whole "ERROR" 40, whole "CRITICAL" 50, whole "FATAL" 50] ++
    inside "datetime" [whole "MINYEAR" 1, whole "MAXYEAR" 9999, maker "datetime" .moment]

/-- The name of this program. -/
def package : String := "vaulthub_client"

/-- The built-in roles, each under its name and with its own names. -/
def roles : Record Draft :=
  maker "Role" .role ::
    [("ADMIN", BuiltinRole.admin), ("USER", .user)].flatMap fun (name, r) =>
      [text ("Role." ++ name) r.name, text ("Role." ++ name ++ ".value") r.name,
        text ("Role." ++ name ++ ".name") name]

/-- The kinds of records, by their names. -/
def shapes : List (String × Shape) :=
  [("ClientConfig", .settings), ("CallResult", .answer), ("Decision", .decision),
    ("ResponseEnvelope", .envelope), ("SecurityPinStatus", .pinStatus), ("UserInfo", .user),
    ("Route", .route), ("RouteMeta", .policy)]

/-- The names of some kinds of records. -/
def records (names : List String) : Record Draft :=
  names.filterMap fun name => (shapes.lookup name).map fun s => maker name (.record s)

/-- The name of a fact about this program. -/
def factName (name : String) : String := "__" ++ name ++ "__"

/-- The settings where nothing is given. -/
def settings : Record Draft :=
  let s := Settings.default
  [text "TOKEN_KEY" Store.tokenSlot, text "DEFAULT_BASE_URL" s.baseUrl,
    number "DEFAULT_TIMEOUT" s.timeout, ("DEFAULT_STORAGE_PATH", .path s.storagePath),
    text "LOGIN_PATH" s.loginPath, text "REGISTER_PATH" s.registerPath,
    text "LANDING_PATH" s.landingPath, text "ENROLLMENT_PATH" s.enrollmentPath]

/-- The messages of calls. -/
def callMessages : Record Draft :=
  [text "MSG_SESSION_EXPIRED" Service.sessionExpired, text "MSG_UNAUTHORIZED" Service.unauthorized,
    text "MSG_FORBIDDEN" Service.forbidden, text "MSG_NOT_FOUND" Service.notFound,
    text "MSG_SERVER_ERROR" Service.serverError, text "MSG_TIMEOUT" Service.timedOut,
    text "MSG_NETWORK" Service.networkError, text "MSG_REQUEST_FAILED" Service.requestFailed,
    text "MSG_INVALID_RESPONSE" Service.invalidResponse]

/-- The messages of the gate. -/
def gateMessages : Record Draft :=
  [text "MSG_USER_LOOKUP_FAILED" Gate.lookupFailed, text "MSG_NO_PERMISSION" Gate.noPermission]

/-- The checks of forms. -/
def checks : Record Draft :=
  [maker "is_email" (.check .email), maker "is_phone" (.check .phone),
    maker "is_strong_password" (.check .strongPassword), maker "is_username" (.check .username),
    maker "is_url" (.check .url), maker "is_ip" (.check .ip)]

/-- The path that tells about the current user. -/
def userPath : String × Draft := text "CURRENT_USER_PATH" Gate.userPath

/-- The path that tells about the security PIN. -/
def pinPath : String × Draft := text "SECURITY_PIN_STATUS_PATH" Gate.pinPath

/-- The codes of envelopes. -/
def codes : Record Draft :=
  [whole "SUCCESS_CODE" Envelope.successCode, whole "UNAUTHORIZED_CODE" Envelope.rejectionCode]

/-- The facts about this program. -/
def facts : Record Draft := About.facts.map fun e => text (factName e.1) e.2

/-- The modules of this program with what they declare and what they use of each other. -/
def modules : List (String × Record Draft) :=
  [("conf", settings ++ records ["ClientConfig"]),
    ("client", callMessages ++ records ["CallResult", "ClientConfig", "ResponseEnvelope"]),
    ("guard", userPath :: pinPath :: gateMessages ++ roles ++
      records ["ClientConfig", "Decision", "Route", "SecurityPinStatus", "UserInfo"]),
    ("models", codes ++ roles ++ records ["ResponseEnvelope", "SecurityPinStatus", "UserInfo"]),
    ("routes", roles ++ records ["Route", "RouteMeta"]),
    ("storage", [text "TOKEN_KEY" Store.tokenSlot]), ("validators", checks), ("version", facts),
    ("session", records ["UserInfo"]), ("router", records ["Route"]),
    ("context", records ["ClientConfig", "UserInfo"]), ("exceptions", []), ("notify", []),
    ("api", []),
    ("api.auth", userPath :: text "LOGIN_PATH" (Endpoint.fill Endpoint.login.path []) ::
      records ["UserInfo"]),
    ("api.keys", pinPath :: records ["SecurityPinStatus"])]

/-- The names of this program. -/
def own : Names :=
  let top := facts.filter (·.1 = factName "version") ++ roles ++ records (shapes.map Prod.fst)
  inside package top ++ modules.flatMap fun m => inside (package ++ "." ++ m.1) m.2

/-- All known names. -/
def all : Names := builtins ++ characters ++ mathematics ++ machine ++ ranges ++ own

end Gatehouse.KnownNames
