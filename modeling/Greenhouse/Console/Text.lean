import Greenhouse.Control.Event
import Greenhouse.Message.Status

/-!
# What the console prints

The lines for events and for the backend's status, and the help.
-/

namespace Greenhouse.Console

/-- The help. -/
def help : String :=
  "commands:
  set <name> <on|off|number>      force an actuator
  toggle <name>                   invert an actuator
  clear <name>                    release one override
  clear-all                       release every override
  goal <text...>                  hand a goal to the planner
  edit <section> <field> <value>  edit a setting (saved after a quiet period)
  close <section>                 save a section now
  send <command> [json]           raw streaming command
  ping                            probe the streaming channel
  status                          backend health
  show                            actuator table and liveness
  settings                        persisted settings
  metrics                         bridge counters
  help                            this text
  quit                            flush drafts and exit"

/-- The name of a channel state. -/
def connectionName : ConnectionState → String
  | .connecting => "Connecting"
  | .opened => "Open"
  | .closed => "Closed"

/-- The name of a liveness state. -/
def livenessName : LivenessState → String
  | .connecting => "Connecting"
  | .connected => "Connected"
  | .stalled => "Stalled"
  | .disconnected => "Disconnected"

/-- The name of a backend status. -/
def statusName : BackendStatus → String
  | .online => "Online"
  | .degraded => "Degraded"
  | .offline => "Offline"

/-- The line for an event; a heartbeat has none. -/
def eventLine : Event → Option String
  | .connection state => some ("[link] " ++ connectionName state)
  | .liveness record =>
    let uptime :=
      match record.uptime with
      | some uptime => " (uptime " ++ uptime.rounded ++ "s)"
      | none => ""
    some ("[backend] " ++ livenessName record.state ++ uptime)
  | .telemetry frame =>
    match frame.classify with
    | .heartbeat _ => none
    | _ => some ("[event] " ++ frame.name)
  | .overrideEngaged name value => some ("[override] " ++ name ++ " held at " ++ value.display)
  | .overrideReleased name => some ("[override] " ++ name ++ " released")
  | .settingsSaved name bcc => some ("[settings] " ++ name ++ " saved (bcc " ++ bcc ++ ")")
  | .settingsFailed name reason => some ("[settings] " ++ name ++ " NOT saved: " ++ reason)
  | .commandRejected rejection => some ("[rejected] " ++ rejection.message)

/-- The line for the backend's status. -/
def statusLine (r : StatusResponse) : String :=
  let uptime :=
    match r.uptime with
    | some uptime => ", uptime " ++ uptime.render
    | none => ""
  "backend " ++ statusName r.status ++ uptime

end Greenhouse.Console
