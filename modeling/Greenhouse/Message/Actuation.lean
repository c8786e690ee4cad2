import Greenhouse.Message.ActuatorValue

/-!
# Actuator requests and responses

The bodies with which an actuator is forced to a value or given back to the backend.
-/

namespace Greenhouse

/-- The status of an accepted request. -/
def successStatus : String := "success"

/-- What is wrong with a status that does not say success. -/
def statusReason (status : String) : String := "backend answered status '" ++ status ++ "'"

/-- What is asked of an actuator. -/
inductive ActuatorAction where
  /-- To take a value and keep it. -/
  | set
  /-- To take the opposite of its value and keep it. -/
  | toggle
  /-- To follow the backend again. -/
  | clearOverride
  /-- To have all actuators follow the backend again. -/
  | clearAll
deriving DecidableEq

/-- The name of an action on the wire. -/
def ActuatorAction.name : ActuatorAction → String
  | .set => "set"
  | .toggle => "toggle"
  | .clearOverride => "clear_override"
  | .clearAll => "clear_all"

/-- All actions by name. -/
def ActuatorAction.known : List (String × ActuatorAction) :=
  [ActuatorAction.set, .toggle, .clearOverride, .clearAll].map fun a => (a.name, a)

/-- A request about an actuator. -/
structure ActuatorRequest where
  /-- The actuator; none when all are meant. -/
  name : Option String
  /-- The value wanted, or the value expected after a toggle. -/
  value : Option ActuatorValue
  action : ActuatorAction
deriving DecidableEq

/-- A member with a value, if there is one. -/
def optionalMember {α : Type} (name : String) (value : Option α) (toJson : α → Json) :
    List (String × Json) :=
  value.toList.map fun a => (name, toJson a)

namespace ActuatorRequest

/-- Forces an actuator to a value. -/
def set (name : String) (value : ActuatorValue) : ActuatorRequest := ⟨some name, some value, .set⟩

/-- Toggles an actuator and says which value is expected. -/
def toggle (name : String) (expected : ActuatorValue) : ActuatorRequest :=
  ⟨some name, some expected, .toggle⟩

/-- Gives an actuator back. -/
def clearOverride (name : String) : ActuatorRequest := ⟨some name, none, .clearOverride⟩

/-- Gives all actuators back. -/
def clearAll : ActuatorRequest := ⟨none, none, .clearAll⟩

/-- The request as a document. -/
def toJson (r : ActuatorRequest) : Json :=
  .obj (optionalMember "name" r.name .str ++ optionalMember "value" r.value ActuatorValue.toJson
    ++ [("action", .str r.action.name)])

/-- The shape of a request. -/
def shape : Json.Shape ActuatorRequest where
  name := "ActuatorRequest"
  fields :=
    [.of "name" false (Json.readOption (Json.readText "a string")) fun name r => { r with name },
      .of "value" false (Json.readOption ActuatorValue.reader) fun value r => { r with value },
      .of "action" true (Json.readName ActuatorAction.known) fun action r => { r with action }]
  blank := ⟨none, none, .set⟩

end ActuatorRequest

/-- The answer to a request about an actuator. -/
structure ActuatorResponse where
  status : String
  /-- The value that the actuator has taken. -/
  value : Option ActuatorValue
  overrideActive : Bool
  /-- Why the request was refused. -/
  error : Option String
deriving DecidableEq

namespace ActuatorResponse

/-- Whether the request was accepted. -/
def isSuccess (r : ActuatorResponse) : Bool := r.status == successStatus && r.error.isNone

/-- Why the request was refused, for people. -/
def rejectionReason (r : ActuatorResponse) : String := r.error.getD (statusReason r.status)

/-- The answer as a document. -/
def toJson (r : ActuatorResponse) : Json :=
  .obj ([("status", .str r.status)] ++ optionalMember "value" r.value ActuatorValue.toJson
    ++ [("override_active", .bool r.overrideActive)] ++ optionalMember "error" r.error .str)

/-- The shape of an answer. -/
def shape : Json.Shape ActuatorResponse where
  name := "ActuatorResponse"
  fields :=
    [.of "status" false (Json.readText "a string") fun status r => { r with status },
      .of "value" false (Json.readOption ActuatorValue.reader) fun value r => { r with value },
      .of "override_active" false Json.readBool fun overrideActive r => { r with overrideActive },
      .of "error" false (Json.readOption (Json.readText "a string")) fun error r =>
        { r with error }]
  blank := ⟨"", none, false, none⟩

end ActuatorResponse

end Greenhouse
