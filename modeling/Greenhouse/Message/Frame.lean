import Greenhouse.Message.ActuatorValue
import Greenhouse.Time.Instant

/-!
# Frames

A `Frame` is what the backend pushes over the streaming channel.  Only its type and its
event decide whether it can be used: at least one of the two has to be there.  A frame is
routed by its `FrameClass`; a heartbeat says how the backend is, a telemetry frame carries
the readings of actuators, all others are passed on as they are.
-/

namespace Greenhouse

/-- How the backend says it is. -/
inductive Health where
  /-- Its control loop is running. -/
  | alive
  /-- It can be reached, but its control loop makes no progress. -/
  | stalled
deriving DecidableEq

/-- The name of a health on the wire. -/
def Health.name : Health → String
  | .alive => "alive"
  | .stalled => "stalled"

/-- What a heartbeat says. -/
structure Heartbeat where
  health : Health
  /-- Seconds since the backend was started. -/
  uptime : Option Double
deriving DecidableEq

/-- How a frame is routed. -/
inductive FrameClass where
  | heartbeat (beat : Heartbeat)
  | telemetry
  | workflow
  | other
deriving DecidableEq

/-- A frame pushed by the backend. -/
structure Frame where
  /-- The family of the frame. -/
  kind : Option String
  /-- The name of the event; empty when there is none. -/
  event : String
  data : Json
  /-- The time at which the backend sent the frame, as it wrote it. -/
  timestamp : Option String
  agent : Option String
deriving DecidableEq

/-- Why a text is no frame. -/
inductive FrameError where
  /-- It is no JSON, or its type or event is no text. -/
  | json (error : Json.DecodeError)
  | notAnObject
  | missingEvent
deriving DecidableEq

/-- The text of the reason. -/
def FrameError.message : FrameError → String
  | .json e => "invalid json frame: " ++ e.message
  | .notAnObject => "frame is not a json object"
  | .missingEvent => "frame names no event or type"

namespace Frame

/-- The event of heartbeats. -/
def heartbeatEvent : String := "SYSTEM_HEARTBEAT"

/-- The type of the frames that carry the state of the greenhouse. -/
def greenhouseKind : String := "GREENHOUSE_TELEMETRY"

/-- The events of telemetry frames. -/
def telemetryEvents : List String := [greenhouseKind, "ACTUATOR_TELEMETRY", "TELEMETRY"]

/-! ### Reading -/

/-- A member that is a text, null or missing; anything else is a mismatch. -/
def optionalText (name : String) (members : List (String × Json)) :
    Except Json.DecodeError (Option String) :=
  let wrong (found : Json.Found) := .error (.mismatch (.wrongType found "a string"))
  match Table.find? name members with
  | none | some .null => .ok none
  | some (.str s) => .ok (some s)
  | some (.bool b) => wrong (.bool b)
  | some (.int n) => wrong (.int n)
  | some (.float d) => wrong (.float d)
  | some (.arr _) => wrong .sequence
  | some (.obj _) => wrong .map

/-- The frame that the members of an object make.  The event is looked at before the
type. -/
def ofMembers (members : List (String × Json)) : Except FrameError Frame := do
  let event ← (optionalText "event" members).mapError .json
  let kind ← (optionalText "type" members).mapError .json
  let event := event.getD ""
  if event.isEmpty && kind.isNone then .error .missingEvent
  else
    .ok
      { kind
        event
        data := (Table.find? "data" members).getD .null
        timestamp := (Table.find? "timestamp" members).bind Json.string?
        agent := (Table.find? "agent_id" members).bind Json.string? }

/-- Reads a frame. -/
def parse (text : String) : Except FrameError Frame :=
  match Json.parse text with
  | .error e => .error (.json e)
  | .ok (.obj members) => ofMembers members
  | .ok _ => .error .notAnObject

/-! ### Writing -/

/-- A member with a text, if there is one. -/
def textMember (name : String) (value : Option String) : List (String × Json) :=
  value.toList.map fun s => (name, .str s)

/-- The frame as a document. -/
def toJson (f : Frame) : Json :=
  .obj (textMember "type" f.kind ++ [("event", .str f.event), ("data", f.data)]
    ++ textMember "timestamp" f.timestamp ++ textMember "agent_id" f.agent)

/-- The frame as text. -/
def toWire (f : Frame) : String := f.toJson.render

/-! ### Building -/

/-- A frame for an event, stamped with a time. -/
def ofEvent (stamp : String) (event : String) (data : Json) : Frame :=
  { kind := none, event, data, timestamp := some stamp, agent := none }

/-- The heartbeat of a backend. -/
def heartbeat (stamp : String) (health : Health) (uptime : Double) : Frame :=
  ofEvent stamp heartbeatEvent
    (.obj [("status", .str health.name), ("uptime", .float uptime)])

/-- The telemetry frame for the actuators of a greenhouse. -/
def greenhouse (stamp : String) (actuators : Json) : Frame :=
  { ofEvent stamp greenhouseKind (.obj [("actuators", actuators)]) with
    kind := some greenhouseKind }

/-! ### Using -/

/-- The name of a frame: its event, or its type when it has no event. -/
def name (f : Frame) : String := if f.event.isEmpty then f.kind.getD "" else f.event

/-- The moment at which the backend sent the frame, if that can be read. -/
def observedAt (f : Frame) : Option Instant := do
  let text ← f.timestamp
  (Instant.ofRfc3339? text).or (Instant.ofLocal? text)

/-- What a frame says as a heartbeat. -/
def beat (f : Frame) : Heartbeat :=
  let stalled :=
    match (f.data.get? "status").bind Json.string? with
    | some status => Text.sameIgnoringCase status "stalled"
    | none => false
  { health := if stalled then .stalled else .alive
    uptime := (f.data.get? "uptime").bind Json.number? }

/-- How the frame is routed. -/
def classify (f : Frame) : FrameClass :=
  if Text.sameIgnoringCase f.event heartbeatEvent || Text.sameIgnoringCase f.event "heartbeat" then
    .heartbeat f.beat
  else if f.kind == some greenhouseKind || telemetryEvents.contains f.event then .telemetry
  else if "AGENT_".toList.isPrefixOf f.event.toList || f.event == "WORKFLOW_UPDATE" then
    .workflow
  else .other

/-- The readings of actuators in a frame: the switches and levels under `actuators`, or, in
a flat frame, the switches only, since its numbers may be those of sensors. -/
def readings (f : Frame) : List (String × ActuatorValue) :=
  match f.data.members? with
  | none => []
  | some members =>
    match (Table.find? "actuators" members).bind Json.members? with
    | some actuators =>
      actuators.filterMap fun (name, v) => (ActuatorValue.ofJson? v).map fun a => (name, a)
    | none => members.filterMap fun (name, v) => v.bool?.map fun on => (name, .switch on)

end Frame

end Greenhouse
