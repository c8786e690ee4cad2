import Greenhouse.Message.Checksum
import Greenhouse.Message.Command
import Greenhouse.Message.Frame
import Greenhouse.Message.Goal
import Greenhouse.Message.Status
import Greenhouse.Rehearsal.Message
import Greenhouse.Text.Split
import Greenhouse.Url.Basic

/-!
# The stand-in backend

A `StandIn` takes the place of the backend in a rehearsal.  It keeps what it is asked for, holds
actuators, stores settings, takes up any goal that is not blank, and sends frames to its
clients.  Actuators can be locked, and settings and goals can be made to fail.

`StandIn.answer` is its side of a request, `StandIn.hear` its side of a connection.
-/

namespace Greenhouse.Rehearsal

/-- An actuator of the stand-in. -/
structure Slot where
  value : ActuatorValue
  /-- Whether an operator holds the actuator. -/
  held : Bool
deriving DecidableEq

/-- The stand-in backend. -/
structure StandIn where
  slots : Table Slot
  /-- The actuators about which it refuses every request. -/
  locked : List String
  settings : SettingsSnapshot
  failsSettings : Bool
  failsGoals : Bool
  /-- What it has been asked about actuators. -/
  actuatorRequests : List ActuatorRequest
  /-- What it has been asked to save. -/
  settingsRequests : List SettingsRequest
  /-- The commands that have come over connections. -/
  commands : List Command
  /-- The clients that are connected, in the order in which they came. -/
  clients : List Nat
  /-- The number of clients so far. -/
  accepted : Nat
deriving DecidableEq

/-- What somebody asks over HTTP. -/
structure HttpCall where
  method : String
  /-- The path, and the query behind it. -/
  target : String
  /-- The body, if there is one and it is said to be JSON. -/
  body : Option String
deriving DecidableEq

/-- A call at a place behind the address of the stand-in. -/
def HttpCall.ofPlace (method place : String) (body : Option String) : HttpCall :=
  match Url.parse ("http://backend" ++ place) with
  | .ok url => ⟨method, url.path ++ Url.marked "?" url.query, body⟩
  | .error _ => ⟨method, place, body⟩

/-- What is answered: a code, and a document if there is one. -/
structure HttpAnswer where
  code : Nat
  document : Option Json
deriving DecidableEq

namespace StandIn

/-- A stand-in that nobody has asked for anything. -/
def fresh : StandIn := ⟨[], [], [], false, false, [], [], [], [], 0⟩

/-! ### Actuators -/

/-- The answer to a request that is refused. -/
def refusal (message : String) : ActuatorResponse := ⟨"error", none, false, some message⟩

/-- The answer to a request about an actuator that is now so. -/
def report (slot : Slot) : ActuatorResponse := ⟨successStatus, some slot.value, slot.held, none⟩

/-- A slot takes the place of that of its name. -/
def putSlot (s : StandIn) (name : String) (slot : Slot) : StandIn :=
  { s with slots := Table.put name slot s.slots }

/-- An actuator is changed as asked.  One that is not known is off and not held at first, and
it is known from then on. -/
def change (s : StandIn) (name : String) (action : ActuatorAction)
    (value : Option ActuatorValue) : StandIn × Nat × ActuatorResponse :=
  let slot := (Table.find? name s.slots).getD ⟨.switch false, false⟩
  let done (slot : Slot) : StandIn × Nat × ActuatorResponse :=
    (s.putSlot name slot, 200, report slot)
  match action, value with
  | .set, some value => done ⟨value, true⟩
  | .set, none => (s.putSlot name slot, 400, refusal "value required")
  | .toggle, _ => done ⟨.switch (!slot.value.isOn), true⟩
  | .clearOverride, _ => done { slot with held := false }
  | .clearAll, _ => done slot

/-- A request about an actuator. -/
def actuate (s : StandIn) (r : ActuatorRequest) : StandIn × Nat × ActuatorResponse :=
  let s := { s with actuatorRequests := s.actuatorRequests ++ [r] }
  match r.name.filter s.locked.contains with
  | some name => (s, 409, refusal ("actuator " ++ name ++ " is held by an interlock"))
  | none =>
    match r.action, r.name with
    | .clearAll, _ =>
      ({ s with slots := Table.mapValues (fun slot => { slot with held := false }) s.slots }, 200,
        ⟨successStatus, none, false, none⟩)
    | _, none => (s, 400, refusal "actuator name required")
    | action, some name => s.change name action r.value

/-! ### Settings, goals and status -/

/-- Fields are stored over those of a section. -/
def merge (sections : SettingsSnapshot) (r : SettingsRequest) : SettingsSnapshot :=
  let old := ((sections.find? fun (name, _) => name == r.name).map Prod.snd).getD []
  Json.putEntry r.name (r.fields.foldl (fun fields (k, v) => Json.putEntry k v fields) old)
    sections

/-- A request to save a section. -/
def save (s : StandIn) (r : SettingsRequest) : StandIn × Nat × SettingsResponse :=
  let s := { s with settingsRequests := s.settingsRequests ++ [r] }
  if s.failsSettings then (s, 500, ⟨"error", none, some "settings store unavailable"⟩)
  else
    ({ s with settings := merge s.settings r }, 200,
      ⟨successStatus, some r.fields.checksum, none⟩)

/-- The answer to a goal. -/
def plan (s : StandIn) (r : GoalRequest) : HttpAnswer :=
  let goal := Text.trimmed r.goal
  if s.failsGoals then ⟨500, some (.obj [("detail", .str "Internal Server Error")])⟩
  else if goal.isEmpty then
    ⟨400, some (GoalResponse.toJson ⟨none, none, some "No goal provided"⟩)⟩
  else
    ⟨200, some (GoalResponse.toJson
      ⟨some successStatus, some (.obj [("plan", .str ("accepted: " ++ goal))]), none⟩)⟩

/-- How long the stand-in has been running, in seconds, at a time in milliseconds. -/
def uptime (now : Nat) : Double := (Double.ofRatio? false now 1000).getD .zero

/-- The status of the stand-in. -/
def status (now : Nat) : StatusResponse := ⟨.online, some (.float (uptime now))⟩

/-! ### Requests -/

/-- Reads the body of a call from its start, and does not care how it goes on; otherwise the
code of the answer. -/
def body {α : Type} (reader : Json.Reader α) (call : HttpCall) : Except Nat α :=
  match call.body with
  | none => .error 415
  | some text =>
    match reader .ofText text.toList with
    | .ok (a, _) => .ok a
    | .error e => .error (if e.category = .shape then 422 else 400)

/-- Answers a call with a body that can be read. -/
def withBody {α : Type} (s : StandIn) (reader : Json.Reader α) (call : HttpCall)
    (f : α → StandIn × HttpAnswer) : StandIn × HttpAnswer :=
  match body reader call with
  | .ok a => f a
  | .error code => (s, ⟨code, none⟩)

/-- The path of a call. -/
def path (call : HttpCall) : String :=
  String.ofList ((Text.splitAt '?' call.target.toList).headD [])

/-- The methods that are known for a path. -/
def methods (path : String) : List String :=
  if path = "/api/settings" then ["GET", "POST"]
  else if path = "/api/actuator" ∨ path = "/api/goal" then ["POST"]
  else if path = "/api/status" ∨ path = "/ws" then ["GET"]
  else []

/-- Answers a call.  A connection cannot be had by a plain call. -/
def answer (s : StandIn) (now : Nat) (call : HttpCall) : StandIn × HttpAnswer :=
  let known := methods (path call)
  if known.isEmpty then (s, ⟨404, none⟩)
  else if !known.contains call.method then (s, ⟨405, none⟩)
  else if path call = "/api/actuator" then
    s.withBody ActuatorRequest.shape.reader call fun r =>
      let (s, code, response) := s.actuate r
      (s, ⟨code, some response.toJson⟩)
  else if path call = "/api/goal" then
    s.withBody GoalRequest.shape.reader call fun r => (s, s.plan r)
  else if path call = "/api/status" then (s, ⟨200, some (status now).toJson⟩)
  else if path call = "/ws" then (s, ⟨400, none⟩)
  else if call.method = "GET" then (s, ⟨200, some s.settings.toJson⟩)
  else
    s.withBody SettingsRequest.shape.reader call fun r =>
      let (s, code, response) := s.save r
      (s, ⟨code, some response.toJson⟩)

/-! ### Connections -/

/-- A client connects. -/
def join (s : StandIn) (client : Nat) : StandIn :=
  { s with clients := s.clients ++ [client], accepted := s.accepted + 1 }

/-- A client is gone. -/
def leave (s : StandIn) (client : Nat) : StandIn :=
  { s with clients := s.clients.filter fun c => c != client }

/-- The time that a frame is stamped with. -/
def stamp (now : Nat) : String := (Instant.ofMillis now).toRfc3339

/-- A text from a client: commands are kept, and one of them is answered. -/
def hearText (s : StandIn) (now : Nat) (text : String) : StandIn × List Message :=
  match Command.parse text with
  | .error _ => (s, [])
  | .ok command =>
    ({ s with commands := s.commands ++ [command] },
      if command.verb = Command.ping.verb then
        [.text (Frame.ofEvent (stamp now) "PONG" (.obj [])).toWire]
      else [])

/-- A message from a client, and what the client hears in return. -/
def hear (s : StandIn) (now client : Nat) (m : Message) : StandIn × List Message :=
  if !s.clients.contains client then (s, [])
  else if !m.keeps then (s.leave client, [.gone])
  else
    match m with
    | .text text => s.hearText now text
    | .ping payload => (s, [.pong payload])
    | _ => (s, [])

/-- A text is sent to all clients. -/
def push (s : StandIn) (text : String) : List (Nat × Message) :=
  s.clients.map fun client => (client, .text text)

/-- All clients are sent away. -/
def kick (s : StandIn) : StandIn × List (Nat × Message) :=
  ({ s with clients := [] }, s.clients.flatMap fun client => [(client, .close), (client, .gone)])

/-- The heartbeat of the stand-in. -/
def heartbeat (now : Nat) (health : Health) (uptime : Double) : String :=
  (Frame.heartbeat (stamp now) health uptime).toWire

/-- The readings of the stand-in's actuators. -/
def greenhouse (now : Nat) (actuators : Json) : String :=
  (Frame.greenhouse (stamp now) actuators).toWire

end StandIn

end Greenhouse.Rehearsal
