import Greenhouse.Control.Counters
import Greenhouse.Control.Event

/-!
# Effects

What a part of the bridge does beyond changing its own state: it publishes events and counts.
-/

namespace Greenhouse

/-- Something that a step does to the outside. -/
inductive Effect where
  /-- An event is published. -/
  | publish (event : Event)
  /-- Something is counted. -/
  | count (counter : Counter)
deriving DecidableEq

namespace Effect

/-- The event that is published. -/
def event? : Effect → Option Event
  | .publish e => some e
  | .count _ => none

/-- The counts after effects. -/
def tally (c : Counters) (effects : List Effect) : Counters :=
  effects.foldl (fun c e => match e with
    | .count k => c.bump k
    | .publish _ => c) c

end Effect

end Greenhouse
