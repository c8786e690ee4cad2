import Greenhouse.Control.Failure
import Greenhouse.Control.Liveness

/-!
# Events

What the bridge tells its listeners.
-/

namespace Greenhouse

/-- The state of the streaming channel. -/
inductive ConnectionState where
  | connecting
  | opened
  | closed
deriving DecidableEq

/-- The name of a state of the channel. -/
def ConnectionState.name : ConnectionState → String
  | .connecting => "CONNECTING"
  | .opened => "OPEN"
  | .closed => "CLOSED"

/-- Something that happened. -/
inductive Event where
  /-- The streaming channel has a new state. -/
  | connection (state : ConnectionState)
  /-- The backend's liveness has a new state. -/
  | liveness (record : LivenessRecord Nat)
  /-- A frame arrived and has been routed. -/
  | telemetry (frame : Frame)
  /-- An actuator is held by the operator from now on. -/
  | overrideEngaged (name : String) (value : ActuatorValue)
  /-- An actuator follows the backend again. -/
  | overrideReleased (name : String)
  /-- A section of settings was saved, with this checksum. -/
  | settingsSaved (name bcc : String)
  /-- A section of settings was not saved. -/
  | settingsFailed (name reason : String)
  /-- The backend refused a command. -/
  | commandRejected (rejection : Rejection)
deriving DecidableEq

end Greenhouse
