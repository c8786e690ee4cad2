import Greenhouse.Json.Printer
import Greenhouse.Json.Record

/-!
# Actuator values

An actuator is switched on or off, or set to a level.  On the wire the first is a boolean
and the second a number.
-/

namespace Greenhouse

/-- The value reported for an actuator, or forced on it. -/
inductive ActuatorValue where
  /-- A switch, such as a pump or a light. -/
  | switch (on : Bool)
  /-- A level, such as that of a doser. -/
  | level (amount : Double)
deriving DecidableEq

namespace ActuatorValue

/-- The actuator value that a document is, if it is one. -/
def ofJson? : Json → Option ActuatorValue
  | .bool on => some (.switch on)
  | .int n => some (.level (.ofInt n))
  | .float d => some (.level d)
  | _ => none

/-- The value as a document. -/
def toJson : ActuatorValue → Json
  | .switch on => .bool on
  | .level amount => .float amount

/-- Whether the actuator is powered. -/
def isOn : ActuatorValue → Bool
  | .switch on => on
  | .level amount => !amount.isZero

/-- The value for people. -/
def display : ActuatorValue → String
  | .switch true => "on"
  | .switch false => "off"
  | .level amount => amount.display

/-- Reads an actuator value. -/
def reader : Json.Reader ActuatorValue :=
  fun lim cs => do
    let (v, rest) ← Json.readValue lim cs
    match ofJson? v with
    | some a => return (a, rest)
    | none => Json.reject (.noVariant "ActuatorValue")

end ActuatorValue

end Greenhouse
