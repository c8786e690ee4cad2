import Greenhouse.Control.Failure
import Greenhouse.Message.Goal
import Greenhouse.Message.Settings
import Greenhouse.Message.Status
import Greenhouse.Text.Boundary
import Greenhouse.Text.Utf8

/-!
# Requests to the backend

A `Request` is what is asked of the backend, and a `Reply` is what comes back.  The body of an
accepted reply has to be of the shape expected.  A reply that is not accepted is still read
when its body names a failure, so that the backend's own reason is seen; otherwise it counts
as an error status, with the beginning of its body.
-/

namespace Greenhouse

/-- What is asked of the backend. -/
inductive Request where
  /-- To drive an actuator, or to give it back. -/
  | actuator (request : ActuatorRequest)
  /-- For all settings. -/
  | loadSettings
  /-- To save a section of settings. -/
  | saveSettings (request : SettingsRequest)
  /-- To take up a goal. -/
  | submitGoal (request : GoalRequest)
  /-- For its status. -/
  | status
deriving DecidableEq

namespace Request

/-- The path of the request. -/
def path : Request → String
  | .actuator _ => "/api/actuator"
  | .loadSettings | .saveSettings _ => "/api/settings"
  | .submitGoal _ => "/api/goal"
  | .status => "/api/status"

/-- The body of the request; a request without one only reads. -/
def body? : Request → Option Json
  | .actuator request => some request.toJson
  | .saveSettings request => some request.toJson
  | .submitGoal request => some request.toJson
  | .loadSettings | .status => none

/-- The method of the request. -/
def method (r : Request) : String := if r.body?.isSome then "POST" else "GET"

end Request

/-- What comes back for a request. -/
inductive Reply where
  /-- Nothing that could be read. -/
  | failed (cause : RequestError)
  | answered (code : Nat) (body : List UInt8)
deriving DecidableEq

namespace Reply

/-- Whether a code says that the request was accepted. -/
def isAccepted (code : Nat) : Bool := 200 ≤ code && code < 300

/-- Whether a body is an object with an error or a status in it. -/
def namesFailure (body : List UInt8) : Bool :=
  match Json.readValue.runBytes body with
  | .ok (.obj members) =>
    ["error", "status"].any fun name => (Table.find? name members).any fun v => !v.isNull
  | _ => false

/-- The number of bytes of a body that is shown in an error. -/
def shownBytes : Nat := 512

/-- The beginning of a body, as it is shown in an error. -/
def excerpt (body : List UInt8) : String :=
  Text.truncate shownBytes (String.ofList (Utf8.decodeLossy body))

/-- The reply that an answer from an address amounts to.  A code has three digits; one below
200 only announces another answer, but for the one that exchanges the protocol.  Some codes
leave no room for a body. -/
def ofHttp (url : String) (code : Nat) (body : List UInt8) : Reply :=
  if code = 101 ∨ code = 204 ∨ code = 304 then .answered code []
  else if 200 ≤ code ∧ code < 1000 then .answered code body
  else .failed (.unreachable url)

/-- Reads the body of a reply. -/
def read {α : Type} (reader : Json.Reader α) : Reply → Except RequestError α
  | .failed cause => .error cause
  | .answered code body =>
    if isAccepted code then (reader.runBytes body).mapError fun e => .decode e.message
    else if namesFailure body then
      match reader.runBytes body with
      | .ok a => .ok a
      | .error _ => .error (.status code (excerpt body))
    else .error (.status code (excerpt body))

end Reply

/-- What a reply to a request says, as a document. -/
def Request.document (r : Request) (reply : Reply) : Except RequestError Json :=
  match r with
  | .actuator _ => (reply.read ActuatorResponse.shape.reader).map ActuatorResponse.toJson
  | .loadSettings => (reply.read SettingsSnapshot.reader).map SettingsSnapshot.toJson
  | .saveSettings _ => (reply.read SettingsResponse.shape.reader).map SettingsResponse.toJson
  | .submitGoal _ => (reply.read GoalResponse.shape.reader).map GoalResponse.toJson
  | .status => (reply.read StatusResponse.shape.reader).map StatusResponse.toJson

end Greenhouse
