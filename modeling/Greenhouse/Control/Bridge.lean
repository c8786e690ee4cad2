import Greenhouse.Config.Basic
import Greenhouse.Control.Autosave
import Greenhouse.Control.Dispatcher
import Greenhouse.Control.Registry
import Greenhouse.Control.Request
import Greenhouse.Control.Watchdog

/-!
# The bridge

A `Bridge` is the console's single connection to the backend.  It holds the streaming channel,
the watchdog, the registry and the drafts.  While it is running, a router takes what the
channel reports, in order: heartbeats go to the watchdog, readings to the registry, and
everything is published afterwards.

An `Order` is what the operator wants of the backend.  The bridge changes only when the
backend has accepted it; a refusal is published, and a request that has failed is not.
-/

namespace Greenhouse

/-- The parts of the bridge. -/
structure Bridge where
  registry : Registry Nat
  autosave : Autosave
  watchdog : Watchdog
  channel : Channel
  dispatcher : Dispatcher
  /-- While the bridge is running: what the router has not taken from the channel. -/
  inbox : Option (List Signal)
deriving DecidableEq

/-- What the operator wants of the backend. -/
inductive Order where
  /-- An actuator is to be held at a value. -/
  | set (name : String) (value : ActuatorValue)
  /-- An actuator is to be held at the opposite of its value, which should be the value here. -/
  | toggle (name : String) (expected : ActuatorValue)
  /-- An actuator is to be given back. -/
  | release (name : String)
  /-- All actuators are to be given back. -/
  | releaseAll
  /-- A goal is to be taken up. -/
  | goal (text : String)
deriving DecidableEq

/-- What an order that was accepted has come to. -/
inductive Outcome where
  /-- The actuator is held at this value. -/
  | held (name : String) (value : ActuatorValue) (outcome : HoldOutcome)
  /-- The actuator was given back, if it was held at all. -/
  | released (name : String) (was : Bool)
  /-- These actuators were given back. -/
  | releasedAll (names : List String)
  /-- The goal was taken up, with what the planner says. -/
  | planned (result : Option Json)
deriving DecidableEq

namespace Order

/-- The request for an order. -/
def request : Order → Request
  | .set name value => .actuator (.set name value)
  | .toggle name expected => .actuator (.toggle name expected)
  | .release name => .actuator (.clearOverride name)
  | .releaseAll => .actuator .clearAll
  | .goal text => .submitGoal ⟨text⟩

/-- The refusal of an order. -/
def rejection (o : Order) (reason : String) : Rejection :=
  match o with
  | .set name _ => ⟨ActuatorAction.set.name, some name, reason⟩
  | .toggle name _ => ⟨ActuatorAction.toggle.name, some name, reason⟩
  | .release name => ⟨ActuatorAction.clearOverride.name, some name, reason⟩
  | .releaseAll => ⟨ActuatorAction.clearAll.name, none, reason⟩
  | .goal text => ⟨"goal", some text, reason⟩

end Order

/-- What the backend says to an order: that it accepts it, with the value that the actuator
has taken or the word of the planner, or why it does not. -/
inductive Verdict where
  | accepted (value : Option ActuatorValue) (result : Option Json)
  | refused (reason : String)
deriving DecidableEq

/-- The verdict in an answer about an actuator. -/
def ActuatorResponse.verdict (r : ActuatorResponse) : Verdict :=
  if r.isSuccess then .accepted r.value none else .refused r.rejectionReason

/-- The verdict in an answer about a goal. -/
def GoalResponse.verdict (r : GoalResponse) : Verdict :=
  match r.rejection with
  | some reason => .refused reason
  | none => .accepted none r.result

/-- Reads the reply to an order. -/
def Order.verdict (o : Order) (reply : Reply) : Except RequestError Verdict :=
  match o with
  | .goal _ => (reply.read GoalResponse.shape.reader).map GoalResponse.verdict
  | _ => (reply.read ActuatorResponse.shape.reader).map ActuatorResponse.verdict

namespace Bridge

/-- A bridge that has not been started, with the settings of a configuration that can be
used. -/
def ofConfig (c : Config) : Except ConfigError Bridge := do
  c.validate
  let _ ← c.backend.websocketUrl
  pure ⟨[], .ofDebounce c.debounce, .ofWindow c.window, .ofDelay c.backend.reconnectDelay, .empty,
    none⟩

/-! ### Orders -/

/-- The order to toggle an actuator, with the value that is expected now. -/
def toggling (b : Bridge) (name : String) : Order := .toggle name (b.registry.toggledValue name)

/-- The operator holds an actuator at a value.  This is published unless the actuator was held
before. -/
def hold (b : Bridge) (now : Nat) (name : String) (value : ActuatorValue) :
    Bridge × List Effect × Outcome :=
  let (registry, outcome) := b.registry.setOverride name value now
  ({ b with registry },
    if outcome = .engaged then [.publish (.overrideEngaged name value)] else [],
    .held name value outcome)

/-- An order has been accepted. -/
def accept (b : Bridge) (now : Nat) (o : Order) (value : Option ActuatorValue)
    (result : Option Json) : Bridge × List Effect × Outcome :=
  match o with
  | .set name wanted => b.hold now name (value.getD wanted)
  | .toggle name expected => b.hold now name (value.getD expected)
  | .release name =>
    let (registry, was) := b.registry.clearOverride name now
    ({ b with registry }, if was then [.publish (.overrideReleased name)] else [],
      .released name was)
  | .releaseAll =>
    let (registry, names) := b.registry.clearAll now
    ({ b with registry }, names.map fun name => .publish (.overrideReleased name),
      .releasedAll names)
  | .goal _ => (b, [], .planned result)

/-- The reply to an order has arrived. -/
def finish (b : Bridge) (now : Nat) (o : Order) (reply : Reply) :
    Bridge × List Effect × Except CommandError Outcome :=
  match o.verdict reply with
  | .error cause => (b, [], .error (.request cause))
  | .ok (.refused reason) =>
    (b, [.publish (.commandRejected (o.rejection reason))], .error (.rejected (o.rejection reason)))
  | .ok (.accepted value result) =>
    let (b, effects, outcome) := b.accept now o value result
    (b, effects, .ok outcome)

/-! ### Settings -/

/-- The operator edits a field of a section. -/
def edit (b : Bridge) (now : Nat) (name field : String) (value : Json) : Bridge :=
  { b with autosave := b.autosave.edit now name field value }

/-- A section is to be saved now: the save that is sent, unless there is nothing to send. -/
def flush (b : Bridge) (name : String) : Bridge × Option Save :=
  let (autosave, save) := b.autosave.flush name
  ({ b with autosave }, save)

/-- A timer has run down: the save that is sent, unless the draft has changed since. -/
def fire (b : Bridge) (timer : SaveTimer) : Bridge × Option Save :=
  let (autosave, save) := b.autosave.fire timer
  ({ b with autosave }, save)

/-- The reply to a save has arrived. -/
def saved (b : Bridge) (s : Save) (reply : Reply) :
    Bridge × List Effect × Except SaveError String :=
  let outcome := s.outcome (reply.read SettingsResponse.shape.reader)
  let (autosave, effects) := b.autosave.answer s outcome
  ({ b with autosave }, effects, outcome)

/-! ### The channel -/

/-- The router will hear of the effects of the channel. -/
def hear (b : Bridge) (effects : List ChannelEffect) : Bridge :=
  { b with inbox := b.inbox.map fun inbox => inbox ++ effects.filterMap ChannelEffect.signal? }

/-- Something happens to the channel. -/
def drive (b : Bridge) (now : Nat) (input : ChannelInput) : Bridge × List ChannelEffect :=
  let (channel, effects) := b.channel.step now input
  ({ b with channel }.hear effects, effects)

/-- A command is to be sent. -/
def submit (b : Bridge) (command : Command) : Bridge × Submission × List ChannelEffect :=
  let (dispatcher, channel, submission, effects) := b.dispatcher.submit b.channel command
  ({ b with dispatcher, channel }.hear effects, submission, effects)

/-- The channel answers for a text. -/
def answered (b : Bridge) (ticket : Nat) (result : Except ChannelError Unit) :
    Bridge × List Effect :=
  let (dispatcher, effects) := b.dispatcher.answer ticket result
  ({ b with dispatcher }, effects)

/-! ### Routing -/

/-- What the router does with a signal. -/
def route (b : Bridge) (now : Nat) : Signal → Bridge × List Effect
  | .state state => (b, [.publish (.connection state)])
  | .inbound frame =>
    match frame.classify with
    | .heartbeat beat =>
      let (watchdog, effects) := b.watchdog.step now (.beat beat)
      ({ b with watchdog }, .publish (.telemetry frame) :: effects)
    | .telemetry =>
      ({ b with registry := b.registry.applyReadings frame.readings now },
        [.publish (.telemetry frame)])
    | .workflow | .other => (b, [.publish (.telemetry frame)])

/-- What the router does with signals in a row. -/
def routeAll (b : Bridge) (now : Nat) : List Signal → Bridge × List Effect
  | [] => (b, [])
  | signal :: rest =>
    let (b, effects) := b.route now signal
    let (b, more) := b.routeAll now rest
    (b, effects ++ more)

/-- The router takes everything that the channel has reported. -/
def catchUp (b : Bridge) (now : Nat) : Bridge × List Effect :=
  { b with inbox := b.inbox.map fun _ => [] }.routeAll now (b.inbox.getD [])

/-- The bridge is to run: the watchdog is started, and the channel is to be opened.  A bridge
that is running stays as it is. -/
def start (b : Bridge) (now : Nat) : Bridge × List ChannelEffect :=
  if b.inbox.isSome then (b, [])
  else
    { b with watchdog := (b.watchdog.step now .start).1, inbox := some [] }.drive now .connect

/-- The router ends once it has taken everything, and then the watchdog. -/
def endRouting (b : Bridge) (now : Nat) : Bridge × List Effect :=
  let (b, effects) := b.catchUp now
  ({ b with watchdog := (b.watchdog.step now .stop).1, inbox := none }, effects)

end Bridge

end Greenhouse
