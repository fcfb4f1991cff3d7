import Gatehouse.House

/-! The endpoints of the service. An endpoint is a method, a path with places for arguments, and
    what its other arguments become. Arguments in a path are written as they are, without
    escapes. -/

namespace Gatehouse

/-- A piece of the path of an endpoint. -/
inductive Piece where
  | text (s : String)
  | argument
  deriving DecidableEq, Repr

/-- What the arguments become that do not go into the path. -/
inductive Sends where
  | nothing
  /-- One argument is the payload. -/
  | payload
  /-- The arguments are fields of the payload. -/
  | payloadFields (names : List String)
  /-- One argument, which may be left out, holds the parameters. -/
  | params
  /-- One argument is a parameter with a name of its own; it may be left out if it is optional. -/
  | param (name : String) (isOptional : Bool)
  deriving DecidableEq, Repr

/-- The payload and the parameters that arguments become, if their number is right. -/
def Sends.parts? : Sends → List Json → Option (Json × Json)
  | .nothing, [] => some (.null, .null)
  | .payload, [v] => some (v, .null)
  | .payloadFields names, args =>
    if args.length = names.length then some (.obj (names.zip args), .null) else none
  | .params, [] => some (.null, .null)
  | .params, [v] => some (.null, v)
  | .param name _, [v] => some (.null, .obj [(name, v)])
  | .param name true, [] => some (.null, .obj [(name, .null)])
  | _, _ => none

/-- How the data of the answer is read. -/
inductive Gives where
  | data
  | user
  | pinStatus
  deriving DecidableEq, Repr

/-- An endpoint, with the names of its area and of itself there. -/
structure Endpoint where
  area : String
  name : String
  method : String
  path : List Piece
  sends : Sends
  gives : Gives
  deriving DecidableEq, Repr

namespace Endpoint

/-- How many arguments go into the path. -/
def pathArguments (e : Endpoint) : Nat := e.path.count .argument

/-- The path with arguments put into their places. -/
def fill : List Piece → List Json → String
  | [], _ => ""
  | .text s :: pieces, args => s ++ fill pieces args
  | .argument :: pieces, arg :: args => arg.display ++ fill pieces args
  | .argument :: pieces, [] => fill pieces []

/-- The call that an endpoint makes of its arguments, if their number is right. -/
def call? (e : Endpoint) (args : List Json) : Option Call :=
  let inPath := args.take e.pathArguments
  if inPath.length = e.pathArguments then
    (e.sends.parts? (args.drop e.pathArguments)).map fun (payload, params) =>
      ⟨e.method, fill e.path inPath, payload, params⟩
  else none

/-- An endpoint with a path without arguments. -/
def plain (area name method path : String) (sends : Sends) : Endpoint :=
  ⟨area, name, method, [.text path], sends, .data⟩

/-- Signing in. -/
def login : Endpoint :=
  plain "auth" "login" "POST" "/v1/auth/login" (.payloadFields ["username", "password"])

/-- Signing out. -/
def logout : Endpoint := plain "auth" "logout" "POST" "/v1/auth/logout" .nothing

/-- Accounts, sessions and forgotten passwords. -/
def auth : List Endpoint :=
  [login, logout,
    plain "auth" "register" "POST" "/v1/auth/register" .payload,
    ⟨"auth", "get_current_user", "GET", [.text Gate.userPath], .nothing, .user⟩,
    plain "auth" "refresh_token" "POST" "/v1/auth/refresh" .nothing,
    plain "auth" "request_password_reset" "POST" "/v1/auth/request-password-reset" .payload,
    plain "auth" "verify_reset_token" "GET" "/v1/auth/verify-reset-token" (.param "token" false),
    plain "auth" "reset_password_with_token" "POST" "/v1/auth/reset-password-with-token" .payload]

/-- Keys and the security PIN. -/
def keys : List Endpoint :=
  [plain "keys" "create_encryption_key" "POST" "/v1/keys/create" .payload,
    ⟨"keys", "get_security_pin_status", "GET", [.text Gate.pinPath], .nothing, .pinStatus⟩,
    plain "keys" "reset_security_pin" "POST" "/v1/auth/reset-password" .payload,
    plain "keys" "verify_recovery_key" "POST" "/v1/keys/verify-recovery" .payload,
    plain "keys" "rotate_key" "POST" "/v1/keys/rotate" .payload,
    plain "keys" "get_rotation_status" "GET" "/v1/keys/rotation-status" .nothing]

/-- Secrets. -/
def secrets : List Endpoint :=
  [plain "secrets" "list_secrets" "GET" "/v1/secrets" .params,
    plain "secrets" "create_secret" "POST" "/v1/secrets" .payload,
    ⟨"secrets", "decrypt_secret", "POST", [.text "/v1/secrets/", .argument, .text "/decrypt"],
      .payload, .data⟩,
    ⟨"secrets", "delete_secret", "DELETE", [.text "/v1/secrets/", .argument], .nothing, .data⟩]

/-- Users, for those who administer them. -/
def users : List Endpoint :=
  [plain "users" "list_users" "GET" "/v1/users" .params,
    ⟨"users", "get_user", "GET", [.text "/v1/users/", .argument], .nothing, .data⟩,
    plain "users" "create_user" "POST" "/v1/users" .payload,
    ⟨"users", "update_user", "PUT", [.text "/v1/users/", .argument], .payload, .data⟩,
    ⟨"users", "delete_user", "DELETE", [.text "/v1/users/", .argument], .nothing, .data⟩,
    plain "users" "change_password" "POST" "/v1/users/change-password" .payload]

/-- The configuration of the system. -/
def configs : List Endpoint :=
  [plain "configs" "list_configs" "GET" "/v1/configs" .nothing,
    ⟨"configs", "get_config", "GET", [.text "/v1/configs/", .argument], .nothing, .data⟩,
    ⟨"configs", "update_config", "PUT", [.text "/v1/configs/", .argument], .payload, .data⟩,
    plain "configs" "batch_update_configs" "PUT" "/v1/configs/batch" .payload,
    plain "configs" "reload_configs" "POST" "/v1/configs/reload" .nothing]

/-- Profiles. -/
def profile : List Endpoint :=
  [plain "profile" "get_profile" "GET" "/v1/profile" .nothing,
    plain "profile" "create_profile" "POST" "/v1/profile" .payload,
    plain "profile" "update_profile" "PUT" "/v1/profile" .payload,
    plain "profile" "patch_profile" "PATCH" "/v1/profile" .payload,
    plain "profile" "delete_profile" "DELETE" "/v1/profile" .nothing,
    plain "profile" "list_profiles" "GET" "/v1/admin/profiles" .params,
    ⟨"profile", "get_user_profile", "GET", [.text "/v1/admin/users/", .argument, .text "/profile"],
      .nothing, .data⟩,
    ⟨"profile", "update_user_profile", "PUT",
      [.text "/v1/admin/users/", .argument, .text "/profile"], .payload, .data⟩]

/-- The audit log. -/
def audit : List Endpoint :=
  [plain "audit" "query_audit_logs" "GET" "/v1/audit/logs" .params,
    plain "audit" "export_statistics" "GET" "/v1/audit/logs/export" .params,
    plain "audit" "export_operation_statistics" "GET" "/v1/audit/operations/export" .params]

/-- Statistics of use. -/
def statistics : List Endpoint :=
  [plain "statistics" "get_current_statistics" "GET" "/v1/statistics/current"
      (.param "user_uuid" true),
    plain "statistics" "get_user_statistics" "GET" "/v1/statistics/user" .params]

/-- The verification of mail addresses. -/
def email : List Endpoint :=
  [plain "email" "send_verification_code" "POST" "/v1/email/send-code" .payload,
    plain "email" "verify_code" "POST" "/v1/email/verify-code" .payload]

/-- All endpoints. -/
def all : List Endpoint :=
  auth ++ keys ++ secrets ++ users ++ configs ++ profile ++ audit ++ statistics ++ email

/-- The endpoint with a name in an area. -/
def find? (area name : String) : Option Endpoint :=
  all.find? fun e => e.area = area && e.name = name

/-- Makes the call of an endpoint and gives its data. -/
def send (setup : Setup) (e : Endpoint) (args : List Json) : Job Json :=
  match e.call? args with
  | some c => setup.send c
  | none => Flow.stop .unfit

end Endpoint

end Gatehouse
