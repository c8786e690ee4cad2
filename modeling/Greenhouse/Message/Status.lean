import Greenhouse.Message.Actuation

/-!
# The backend's status

What the backend says about itself when asked.
-/

namespace Greenhouse

/-- How the backend is, roughly. -/
inductive BackendStatus where
  | online
  | degraded
  | offline
deriving DecidableEq

/-- The name of a status on the wire. -/
def BackendStatus.name : BackendStatus → String
  | .online => "online"
  | .degraded => "degraded"
  | .offline => "offline"

/-- All statuses by name. -/
def BackendStatus.known : List (String × BackendStatus) :=
  [BackendStatus.online, .degraded, .offline].map fun s => (s.name, s)

/-- The answer to a question for the status. -/
structure StatusResponse where
  status : BackendStatus
  /-- How long the backend has been running, in its own form. -/
  uptime : Option Json
deriving DecidableEq

namespace StatusResponse

/-- The answer as a document. -/
def toJson (r : StatusResponse) : Json :=
  .obj (("status", .str r.status.name) :: optionalMember "uptime" r.uptime id)

/-- The shape of an answer. -/
def shape : Json.Shape StatusResponse where
  name := "StatusResponse"
  fields :=
    [.of "status" true (Json.readName BackendStatus.known) fun status r => { r with status },
      .of "uptime" false (Json.readOption Json.readValue) fun uptime r => { r with uptime }]
  blank := ⟨.online, none⟩

end StatusResponse

end Greenhouse
