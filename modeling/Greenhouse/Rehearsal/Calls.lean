import Greenhouse.Rehearsal.Clock

/-!
# Calls in a rehearsal

What an operator can have the bridge do, each call until its end.
-/

namespace Greenhouse.Rehearsal.Stage

/-- The bridge is started. -/
def start (s : Stage) : Stage :=
  let (bridge, effects) := s.bridge.start s.now
  { s with bridge }.absorbAll effects

/-- An order is given. -/
def order (s : Stage) (o : Order) : Stage × Except CommandError Outcome :=
  let (s, reply) := s.replyTo o.request
  let (bridge, effects, outcome) := s.bridge.finish s.now o reply
  ({ s with bridge }.perform effects, outcome)

/-- An actuator is to be held at the opposite of its value. -/
def toggle (s : Stage) (name : String) : Stage × Except CommandError Outcome :=
  s.order (s.bridge.toggling name)

/-- The backend is asked for its status. -/
def status (s : Stage) : Stage × Except RequestError StatusResponse :=
  let (s, reply) := s.replyTo .status
  (s, reply.read StatusResponse.shape.reader)

/-- The backend is asked for all settings. -/
def loadSettings (s : Stage) : Stage × Except RequestError SettingsSnapshot :=
  let (s, reply) := s.replyTo .loadSettings
  (s, reply.read SettingsSnapshot.reader)

/-- A field is edited. -/
def edit (s : Stage) (name field : String) (value : Json) : Stage :=
  { s with bridge := s.bridge.edit s.now name field value }

/-- A section is closed: the checksum, unless there was nothing to save. -/
def close (s : Stage) (name : String) : Stage × Except SaveError (Option String) :=
  match s.bridge.flush name with
  | (bridge, none) => ({ s with bridge }, .ok none)
  | (bridge, some save) =>
    let (s, reply) := { s with bridge }.replyTo (.saveSettings save.request)
    let (s, outcome) := s.finishSave save reply
    (s, outcome.map some)

/-- A section is closed, and nobody waits for the reply. -/
def closeLater (s : Stage) (name : String) : Stage :=
  match s.bridge.flush name with
  | (bridge, none) => { s with bridge }
  | (bridge, some save) => { s with bridge }.launch save

/-- Sections are closed one after another. -/
def closeEach (s : Stage) : List String → Stage × List (String × Except SaveError (Option String))
  | [] => (s, [])
  | name :: rest =>
    let (s, outcome) := s.close name
    let (s, more) := s.closeEach rest
    (s, (name, outcome) :: more)

/-- All sections with unsaved edits are closed. -/
def closeAll (s : Stage) : Stage × List (String × Except SaveError (Option String)) :=
  s.closeEach s.bridge.autosave.pendingNames

/-- The bridge is stopped: the drafts are saved, the channel is closed, and the router and the
watchdog end. -/
def stop (s : Stage) : Stage :=
  let s := (s.closeAll.1.drive .stop).pump
  let (bridge, effects) := s.bridge.endRouting s.now
  { s with bridge }.perform effects

/-- A text is sent over the channel. -/
def send (s : Stage) (text : String) : Stage × Except ChannelError Unit :=
  let ticket := s.bridge.channel.fresh
  let s := (s.drive (.send text)).pump
  (s, s.answerFor ticket)

/-- A command is sent: its number. -/
def submit (s : Stage) (command : Command) : Stage × Except ChannelError Nat :=
  let (bridge, submission, effects) := s.bridge.submit command
  let s := ({ s with bridge }.absorbAll effects).pump
  (s, submission.outcome (s.answerFor submission.ticket))

/-- A reading comes in by itself. -/
def observe (s : Stage) (name : String) (value : ActuatorValue) : Stage × TelemetryOutcome :=
  let (registry, outcome) := s.bridge.registry.applyTelemetry name value s.now
  ({ s with bridge := { s.bridge with registry } }, outcome)

/-! ### The other end -/

/-- Whoever dials from now on finds this; one who is dialing already does not notice. -/
def setDoor (s : Stage) (door : Door) : Stage :=
  if s.bridge.channel.supervisors.any fun v => v.phase == .dialing then s else { s with door }

/-- The other end says something, if the channel is open. -/
def say (s : Stage) (messages : List Message) : Stage :=
  match s.bridge.channel.isOpen, s.bridge.channel.outlet with
  | true, some id => { s with mail := s.mail ++ messages.map fun m => (id, m) }
  | _, _ => s

/-- The stand-in sends a text to its clients: how many it reaches. -/
def push (s : Stage) (text : String) : Stage × Nat :=
  let mail := s.standIn.push text
  ({ s with mail := s.mail ++ mail }, mail.length)

/-- The stand-in sends its clients away. -/
def kick (s : Stage) : Stage :=
  let (standIn, mail) := s.standIn.kick
  { s with standIn, mail := s.mail ++ mail }

end Greenhouse.Rehearsal.Stage
