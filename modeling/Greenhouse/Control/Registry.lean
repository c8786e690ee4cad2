import Greenhouse.Data.Table
import Greenhouse.Message.ActuatorValue

/-!
# The actuator registry

Who drives each actuator, and what is shown for it.  While the operator holds an actuator,
readings never replace the value shown; they are kept and shown again once the actuator is
released.  The times of changes are of any type `τ`.
-/

namespace Greenhouse

/-- What is known about one actuator. -/
structure Actuator (τ : Type) where
  /-- Whether the operator holds the actuator. -/
  held : Bool
  /-- The value shown. -/
  value : ActuatorValue
  /-- The last reading, also while the operator holds the actuator. -/
  telemetry : Option ActuatorValue
  /-- When the value or the hold was last changed. -/
  updated : τ
  /-- When the last reading arrived. -/
  seen : Option τ
deriving DecidableEq

/-- The name of who drives an actuator. -/
def Actuator.modeName {τ : Type} (a : Actuator τ) : String := if a.held then "OVERRIDE" else "AUTO"

/-- What became of a reading. -/
inductive TelemetryOutcome where
  /-- It is shown. -/
  | applied
  /-- It is kept, since the operator holds the actuator. -/
  | shadowed
deriving DecidableEq

/-- What became of a hold. -/
inductive HoldOutcome where
  /-- The actuator was not held before. -/
  | engaged
  /-- The actuator was held before; only its value is new. -/
  | updated
deriving DecidableEq

/-- The name of what became of a hold. -/
def HoldOutcome.name : HoldOutcome → String
  | .engaged => "Engaged"
  | .updated => "Updated"

/-- All actuators by name. -/
abbrev Registry (τ : Type) := Table (Actuator τ)

namespace Registry

variable {τ : Type}

/-- A reading for an actuator arrived. -/
def applyTelemetry (r : Registry τ) (name : String) (value : ActuatorValue) (now : τ) :
    Registry τ × TelemetryOutcome :=
  match Table.find? name r with
  | none => (Table.put name ⟨false, value, some value, now, some now⟩ r, .applied)
  | some a =>
    if a.held then
      (Table.put name { a with telemetry := some value, seen := some now } r, .shadowed)
    else
      (Table.put name ⟨false, value, some value, now, some now⟩ r, .applied)

/-- The operator forces a value on an actuator and holds it. -/
def setOverride (r : Registry τ) (name : String) (value : ActuatorValue) (now : τ) :
    Registry τ × HoldOutcome :=
  match Table.find? name r with
  | none => (Table.put name ⟨true, value, none, now, none⟩ r, .engaged)
  | some a =>
    (Table.put name { a with held := true, value, updated := now } r,
      if a.held then .updated else .engaged)

/-- The value that a toggle would force; an unknown actuator counts as off. -/
def toggledValue (r : Registry τ) (name : String) : ActuatorValue :=
  match Table.find? name r with
  | none => .switch true
  | some a => .switch (!a.value.isOn)

/-- The operator forces the opposite value on an actuator and holds it. -/
def toggle (r : Registry τ) (name : String) (now : τ) :
    Registry τ × ActuatorValue × HoldOutcome :=
  let a := (Table.find? name r).getD ⟨false, .switch false, none, now, none⟩
  let value := ActuatorValue.switch (!a.value.isOn)
  (Table.put name { a with held := true, value, updated := now } r, value,
    if a.held then .updated else .engaged)

/-- An actuator given back: its last reading is shown, if there is one. -/
def release (a : Actuator τ) (now : τ) : Actuator τ :=
  { a with held := false, value := a.telemetry.getD a.value, updated := now }

/-- The operator gives an actuator back; whether it was held. -/
def clearOverride (r : Registry τ) (name : String) (now : τ) : Registry τ × Bool :=
  match Table.find? name r with
  | none => (r, false)
  | some a => if a.held then (Table.put name (release a now) r, true) else (r, false)

/-- The actuators that the operator holds, in ascending order. -/
def overridden (r : Registry τ) : List String :=
  (r.filter fun (_, a) => a.held).map Prod.fst

/-- The operator gives all actuators back; those that were held. -/
def clearAll (r : Registry τ) (now : τ) : Registry τ × List String :=
  (Table.mapValues (fun a => if a.held then release a now else a) r, r.overridden)

/-- The value shown for an actuator. -/
def value? (r : Registry τ) (name : String) : Option ActuatorValue :=
  (Table.find? name r).map Actuator.value

/-- Readings arrive one after another. -/
def applyReadings (r : Registry τ) (readings : List (String × ActuatorValue)) (now : τ) :
    Registry τ :=
  readings.foldl (fun r (name, value) => (r.applyTelemetry name value now).1) r

end Registry

end Greenhouse
