import Greenhouse.Console.Text
import Greenhouse.Control.Bridge

/-!
# The overview

What the console shows of the bridge at a glance: the channel, the backend's liveness, the
actuators with the values shown and who drives them, and the sections with unsaved edits.
-/

namespace Greenhouse.Console

/-- A text with blanks behind it up to a width. -/
def padRight (width : Nat) (s : String) : String :=
  s ++ String.ofList (List.replicate (width - s.length) ' ')

/-- A text with blanks in front of it up to a width. -/
def padLeft (width : Nat) (s : String) : String :=
  String.ofList (List.replicate (width - s.length) ' ') ++ s

/-- The part of the overview for an actuator. -/
def actuatorLine (name : String) (a : Actuator Nat) : String :=
  "\n  " ++ padRight 20 name ++ " " ++ padLeft 8 a.value.display ++ "  "
    ++ (if a.held then "MANUAL" else "auto")

/-- The overview. -/
def overview (b : Bridge) : String :=
  let record := b.watchdog.record
  let seen :=
    match record.lastSeen with
    | some moment => "  last heartbeat: " ++ (Instant.ofMillis moment).clockText
    | none => ""
  let names := b.autosave.pendingNames
  "link: " ++ connectionName b.channel.state ++ "  backend: " ++ livenessName record.state ++ seen
    ++ String.join (b.registry.map fun (name, a) => actuatorLine name a)
    ++ (if names.isEmpty then ""
        else "\n  unsaved settings: " ++ String.intercalate ", " names)

end Greenhouse.Console
