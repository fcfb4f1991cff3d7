import Gatehouse.Envelope
import Gatehouse.Json.Reader
import Gatehouse.Json.Writer
import Gatehouse.State
import Gatehouse.Text.Upper

/-! Calls to the service. Every call sends at most one request, and a reply that can be read out has
    exactly one classified answer; it is never tried again. A call whose credential was rejected
    ends the session before it answers, and leads the visitor on to the login route. Tokens and
    payloads are never logged. -/

namespace Gatehouse.Service

/-- The notice of a session that the service has ended. -/
def sessionExpired : String := "Session expired, please log in again"

/-- The message of a rejected credential, where the service gives none. -/
def unauthorized : String := "Unauthorized"

/-- The message of a missing permission. -/
def forbidden : String := "You do not have permission to access this resource"

/-- The message of a missing resource. -/
def notFound : String := "The requested resource does not exist"

/-- The message of a failing service. -/
def serverError : String := "Server error, please try again later"

/-- The message of a timeout. -/
def timedOut : String := "Request timed out, please try again later"

/-- The message of a failing connection. -/
def networkError : String := "Network error, please check your connection"

/-- The message of a failure that has no other. -/
def requestFailed : String := "Request failed"

/-- The message of a reply that is no envelope. -/
def invalidResponse : String := "Invalid response from server"

/-- A value as a text, or the fault that it cannot be shown. -/
def shown (room : Nat) (v : Json) : Except Fault String := (v.shown room).mapError .unshown

/-- The text of a parameter. There is none if it is null, and the two flags are written in small
    letters. -/
def shownParam (room : Nat) : Json → Except Fault (Option String)
  | .null => .ok none
  | .bool b => .ok (some (if b then "true" else "false"))
  | v => (shown room v).map some

/-- Parameters as texts, without those that are null. -/
def shownParams (room : Nat) : Record Json → Except Fault (Record String)
  | [] => .ok []
  | (name, v) :: params => do
    let text ← shownParam room v
    let texts ← shownParams room params
    pure ((text.map fun text => (name, text)).toList ++ texts)

/-- What a body holds as its message, whatever else it holds. -/
def messageIn? (body : ByteArray) : Option Json :=
  match Json.Dialect.document.readBytes? body with
  | some (.obj fields) => (Record.get? fields "message").bind Json.present?
  | _ => none

/-- The text of the message in the body of a reply, if there is one. -/
def bodyMessage (body : ByteArray) (room : Nat) : Except Fault (Option String) :=
  match messageIn? body with
  | some v => (shown room v).map some
  | none => .ok none

/-- A message, or another one where it is empty. -/
def orElse (message other : String) : String := if message = "" then other else message

/-- The failure of a reply whose status reports no success. -/
def failureOf (status : Int) (message : String) : Answer :=
  if status = 401 then .failure ⟨.authentication, orElse message unauthorized, some status, none⟩
  else if status = 403 then .failure ⟨.permission, forbidden, some status, none⟩
  else if status = 404 then .failure ⟨.notFound, notFound, some status, none⟩
  else if 500 ≤ status then .failure ⟨.server, serverError, some status, none⟩
  else .failure ⟨.application, orElse message requestFailed, some status, none⟩

/-- The answer to a reply whose status reports no success. Its message is shown first, also where
    the answer does without it. -/
def classifyStatus (status : Int) (body : ByteArray) (room : Nat) : Except Fault Answer :=
  (bodyMessage body room).map fun message => failureOf status (message.getD "")

/-- The envelope in the body of a reply. -/
def envelope? (body : ByteArray) : Option Envelope :=
  (Json.Dialect.document.readBytes? body).bind fun data => (Envelope.check data).toOption

/-- The answer to a reply whose status reports a success: the envelope decides. -/
def classifyEnvelope (status : Int) (body : ByteArray) : Answer :=
  match envelope? body with
  | none => .failure ⟨.application, invalidResponse, some status, none⟩
  | some e =>
    if e.isSuccess then .data e.data
    else if e.isRejection then
      .failure ⟨.authentication, orElse e.message unauthorized, some status, some e.code⟩
    else .failure ⟨.application, orElse e.message requestFailed, some status, some e.code⟩

/-- Whether a status reports a success. -/
def isSuccess (status : Int) : Bool := 200 ≤ status && status < 300

/-- The answer to a reply. -/
def classify (status : Int) (body : ByteArray) (room : Nat) : Except Fault Answer :=
  if isSuccess status then .ok (classifyEnvelope status body) else classifyStatus status body room

/-- The address of a path of the service. -/
def url (settings : Settings) (path : String) : String :=
  settings.baseUrl ++ "/" ++ String.ofList (path.toList.dropWhile (· = '/'))

/-- The text of a payload, if there is one. -/
def bodyOf (payload : Json) : Except Fault (Option String) :=
  match payload with
  | .null => .ok none
  | v => match Json.document? v with
    | some text => .ok (some text)
    | none => .error .unfit

/-- The texts of the parameters, if there are any. -/
def paramsOf (room : Nat) (params : Json) : Except Fault (Option (Record String)) :=
  match params.present? with
  | none => .ok none
  | some (.obj fields) => (shownParams room fields).map some
  | some _ => .error .notRecord

variable (setup : Setup)

/-- The request of a call, with the credential that is stored at this moment. -/
def requestOf (c : Call) : Job Request := do
  if (← Flow.read (·.connections.held)).isNone then Flow.stop .notOpen
  let credential ← Job.desk Desk.token
  let body ← Flow.ofExcept (bodyOf c.payload)
  let params ← Flow.ofExcept (paramsOf setup.room c.params)
  pure ⟨c.method, url setup.settings c.path, credential, body, params, setup.settings.timeout⟩

/-- Sends a request and waits for the reply. -/
def exchange (request : Request) : Job Reply := do
  if ← Flow.read (·.connections.isOpen) then
    Job.record (.requested request)
    Flow.ask request
  else Flow.stop .connectionClosed

/-- Ends the session, tells the user, and leads on to the login route. -/
def expire (toLogin : Job Unit) : Job Unit := do
  Job.desk Desk.signOut
  setup.announce sessionExpired
  toLogin

/-- How log rows name a call. -/
def title (c : Call) : String := c.method ++ " " ++ c.path

/-- What is done about an answer before the caller gets it. -/
def conclude (toLogin : Job Unit) (c : Call) (answer : Answer) : Job Answer := do
  match answer.failure? with
  | none => pure ()
  | some f =>
    if f.kind = .authentication then
      expire setup toLogin
      Job.log .client .warning (title c ++ " rejected the credential")
    else
      Job.log .client .warning (title c ++ " failed: " ++ f.kind.name ++ " (status=" ++
        shownOption f.status ++ " code=" ++ shownOption f.code ++ ")")
  pure answer

/-- The answer to whatever became of a request. -/
def answerTo (c : Call) : Reply → Job Answer
  | .received status body room => Flow.ofExcept (classify status body room)
  | .timedOut => pure (.failure ⟨.timeout, timedOut, none, none⟩)
  | .disturbed text => do
    Job.log .client .debug (title c ++ " transport error: " ++ text)
    pure (.failure ⟨.network, networkError, none, none⟩)
  | .broke f => Flow.stop (.foreign f)

/-- Announces a failure if `notify` says so, except that of a rejected credential: the end of the
    session has been announced already. -/
def tell (notify : Bool) (answer : Answer) : Job Unit :=
  match answer.failure? with
  | some f => if notify && f.kind ≠ .authentication then setup.announce f.message else pure ()
  | none => pure ()

/-- What a call does when its reply has come in. -/
def finish (toLogin : Job Unit) (c : Call) (notify : Bool) (reply : Reply) : Job Answer := do
  let answer ← answerTo c reply
  let answer ← conclude setup toLogin c answer
  tell setup notify answer
  pure answer

/-- Makes a call and gives its classified answer. -/
def call (toLogin : Job Unit) (c : Call) (notify : Bool) : Job Answer := do
  let c := { c with method := Text.upper c.method }
  let request ← requestOf setup c
  let reply ← exchange request
  finish setup toLogin c notify reply

end Gatehouse.Service
