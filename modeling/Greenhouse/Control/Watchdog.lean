import Greenhouse.Control.Effect

/-!
# The watchdog

The watchdog judges the backend by its heartbeats.  Once started, it waits for a window of
time; each heartbeat begins the window anew.  When a window passes in silence, the backend
counts as disconnected, and no window is open until the next heartbeat.  Times are in
milliseconds.
-/

namespace Greenhouse

/-- The watchdog. -/
structure Watchdog where
  /-- How long a silence may last. -/
  window : Nat
  record : LivenessRecord Nat
  /-- How often the record has been written. -/
  writes : Nat
  /-- Whether the watchdog is running, and when the open window ends. -/
  running : Option (Option Nat)
deriving DecidableEq

/-- Something that happens to the watchdog. -/
inductive WatchdogInput where
  | start
  | stop
  | beat (beat : Heartbeat)
  /-- Time has passed. -/
  | tick
deriving DecidableEq

namespace Watchdog

/-- A watchdog that has not been started. -/
def ofWindow (window : Nat) : Watchdog := ⟨window, .initial, 0, none⟩

/-- The effects of a new record: an event, when the state has changed, after the counts
given. -/
def announce (changed : Bool) (record : LivenessRecord Nat) (counts : List Counter) :
    List Effect :=
  if changed then counts.map .count ++ [.publish (.liveness record)] else []

/-- The record is written. -/
def write (w : Watchdog) (record : LivenessRecord Nat) : Watchdog :=
  { w with record, writes := w.writes + 1 }

/-- The window ends, if it is open and its end has come. -/
def expire (w : Watchdog) (now : Nat) : Watchdog × List Effect :=
  match w.running with
  | some (some deadline) =>
    if deadline ≤ now then
      let w := { w with running := some none }
      let (record, changed) := w.record.expire
      (if changed then w.write record else w, announce changed record [.livenessTimeouts])
    else (w, [])
  | _ => (w, [])

/-- What the watchdog does. -/
def step (w : Watchdog) (now : Nat) : WatchdogInput → Watchdog × List Effect
  | .start =>
    if w.running.isSome then (w, [])
    else ({ w.write .initial with running := some (some (now + w.window)) }, [])
  | .stop => ({ w with running := none }, [])
  | .beat beat =>
    if w.running.isSome then
      let (record, changed) := w.record.observe beat now
      ({ w.write record with running := some (some (now + w.window)) }, announce changed record [])
    else (w, [])
  | .tick => w.expire now

/-- The watchdog after a run of inputs at given times, and all effects. -/
def run (w : Watchdog) : List (Nat × WatchdogInput) → Watchdog × List Effect
  | [] => (w, [])
  | (now, input) :: rest =>
    let (w, effects) := w.step now input
    let (w, more) := w.run rest
    (w, effects ++ more)

/-- What the watchdog does on an input, and then on what is due at once. -/
def settle (w : Watchdog) (now : Nat) (input : WatchdogInput) : Watchdog × List Effect :=
  w.run [(now, input), (now, .tick)]

end Watchdog

end Greenhouse
