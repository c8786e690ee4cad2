/-!
# Counters

What the bridge counts, and the text in which the counts are published: for each counter,
in the order of their names, what it counts, its kind and its value.
-/

namespace Greenhouse

/-- Something that is counted. -/
inductive Counter where
  | commandsDropped
  | commandsSent
  | framesMalformed
  | framesReceived
  | livenessTimeouts
  | reconnectAttempts
  | settingsFailed
  | settingsFlushed
deriving DecidableEq

namespace Counter

/-- All counters in the order of their names. -/
def all : List Counter :=
  [commandsDropped, commandsSent, framesMalformed, framesReceived, livenessTimeouts,
    reconnectAttempts, settingsFailed, settingsFlushed]

/-- The name of a counter. -/
def name : Counter → String
  | commandsDropped => "canopy_commands_dropped_total"
  | commandsSent => "canopy_commands_sent_total"
  | framesMalformed => "canopy_frames_malformed_total"
  | framesReceived => "canopy_frames_received_total"
  | livenessTimeouts => "canopy_liveness_timeouts_total"
  | reconnectAttempts => "canopy_reconnect_attempts_total"
  | settingsFailed => "canopy_settings_failed_total"
  | settingsFlushed => "canopy_settings_flushed_total"

/-- What a counter counts. -/
def help : Counter → String
  | commandsDropped => "Operator commands dropped because the channel was not open"
  | commandsSent => "Operator commands written to the streaming channel"
  | framesMalformed => "Inbound frames dropped because they could not be decoded"
  | framesReceived => "Envelopes decoded from the streaming channel"
  | livenessTimeouts => "Heartbeat windows that elapsed without a heartbeat"
  | reconnectAttempts => "Scheduled reconnection attempts after channel loss"
  | settingsFailed => "Settings flushes that failed or were not confirmed"
  | settingsFlushed => "Settings sections persisted with a verified checksum"

end Counter

/-- The counts. -/
structure Counters where
  commandsDropped : Nat
  commandsSent : Nat
  framesMalformed : Nat
  framesReceived : Nat
  livenessTimeouts : Nat
  reconnectAttempts : Nat
  settingsFailed : Nat
  settingsFlushed : Nat
deriving DecidableEq

namespace Counters

/-- Nothing has been counted. -/
def zero : Counters := ⟨0, 0, 0, 0, 0, 0, 0, 0⟩

/-- The count of a counter. -/
def get (c : Counters) : Counter → Nat
  | .commandsDropped => c.commandsDropped
  | .commandsSent => c.commandsSent
  | .framesMalformed => c.framesMalformed
  | .framesReceived => c.framesReceived
  | .livenessTimeouts => c.livenessTimeouts
  | .reconnectAttempts => c.reconnectAttempts
  | .settingsFailed => c.settingsFailed
  | .settingsFlushed => c.settingsFlushed

/-- So many more are counted. -/
def add (c : Counters) (n : Nat) : Counter → Counters
  | .commandsDropped => { c with commandsDropped := c.commandsDropped + n }
  | .commandsSent => { c with commandsSent := c.commandsSent + n }
  | .framesMalformed => { c with framesMalformed := c.framesMalformed + n }
  | .framesReceived => { c with framesReceived := c.framesReceived + n }
  | .livenessTimeouts => { c with livenessTimeouts := c.livenessTimeouts + n }
  | .reconnectAttempts => { c with reconnectAttempts := c.reconnectAttempts + n }
  | .settingsFailed => { c with settingsFailed := c.settingsFailed + n }
  | .settingsFlushed => { c with settingsFlushed := c.settingsFlushed + n }

/-- One more is counted. -/
def bump (c : Counters) (k : Counter) : Counters := c.add 1 k

/-- The counts by name. -/
def toTable (c : Counters) : List (String × Nat) := Counter.all.map fun k => (k.name, c.get k)

/-- The text in which one count is published. -/
def line (c : Counters) (k : Counter) : String :=
  "# HELP " ++ k.name ++ " " ++ k.help ++ "\n# TYPE " ++ k.name ++ " counter\n"
    ++ k.name ++ " " ++ toString (c.get k) ++ "\n"

/-- The text in which the counts are published. -/
def report (c : Counters) : String := String.join (Counter.all.map c.line)

/-- The counters are published together, and only once. -/
def register (registered : Option Counters) : Except String Counters :=
  if registered.isSome then .error "Duplicate metrics collector registration attempted"
  else .ok zero

end Counters

end Greenhouse
