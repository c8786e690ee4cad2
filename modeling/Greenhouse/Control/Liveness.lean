import Greenhouse.Message.Frame

/-!
# Liveness

What is known about the backend from its heartbeats.  A heartbeat makes the backend
connected or stalled, by its own word; silence for a whole window makes it disconnected.
Each operation says whether the state has changed.  The times of heartbeats are of any type
`τ`.
-/

namespace Greenhouse

/-- How the backend is, as far as can be told from its heartbeats. -/
inductive LivenessState where
  /-- No heartbeat so far. -/
  | connecting
  | connected
  /-- There are heartbeats, and they say that the backend makes no progress. -/
  | stalled
  /-- No heartbeat for too long. -/
  | disconnected
deriving DecidableEq

/-- The name of a state. -/
def LivenessState.name : LivenessState → String
  | .connecting => "CONNECTING"
  | .connected => "CONNECTED"
  | .stalled => "STALLED"
  | .disconnected => "DISCONNECTED"

/-- What is known about the backend. -/
structure LivenessRecord (τ : Type) where
  state : LivenessState
  /-- When the last heartbeat arrived. -/
  lastSeen : Option τ
  /-- The uptime that the last heartbeat gave. -/
  uptime : Option Double
deriving DecidableEq

namespace LivenessRecord

variable {τ : Type}

/-- What is known before any heartbeat. -/
def initial : LivenessRecord τ := ⟨.connecting, none, none⟩

/-- The record as a document, with the texts for times given. -/
def toJson (r : LivenessRecord τ) (timeText : τ → String) : Json :=
  .obj
    [("state", .str r.state.name),
      ("last_seen", (r.lastSeen.map fun t => Json.str (timeText t)).getD .null),
      ("uptime", (r.uptime.map Json.float).getD .null)]

/-- The state that a health amounts to. -/
def stateOf : Health → LivenessState
  | .alive => .connected
  | .stalled => .stalled

/-- A heartbeat arrived: the new record, and whether its state has changed. -/
def observe (r : LivenessRecord τ) (beat : Heartbeat) (now : τ) : LivenessRecord τ × Bool :=
  let state := stateOf beat.health
  (⟨state, some now, beat.uptime⟩, r.state != state)

/-- The window passed without a heartbeat: the new record, and whether its state has
changed. -/
def expire (r : LivenessRecord τ) : LivenessRecord τ × Bool :=
  ({ r with state := .disconnected }, r.state != .disconnected)

end LivenessRecord

end Greenhouse
