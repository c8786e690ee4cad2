import Greenhouse.Control.Bridge
import Greenhouse.Control.EventBus
import Greenhouse.Rehearsal.StandIn

/-!
# The stage of a rehearsal

A `Stage` is a bridge together with its surroundings: a clock that is set by hand, the one
who answers requests, the one at the other end of the channel, a listener to the events, and
notes of what has been said.  Everything here happens at one moment: `Stage.pump` lets the
channel and the other end go on until both have nothing left to do.
-/

namespace Greenhouse.Rehearsal

/-- A reply that has been laid out in advance, and how long it takes. -/
structure Scripted where
  delay : Nat
  reply : Reply
deriving DecidableEq

/-- Who answers requests. -/
inductive Desk where
  /-- The next of these replies is given to every request. -/
  | script (replies : List Scripted)
  | standIn
  /-- Nobody is to be found at this address. -/
  | nobody (base : Url)
deriving DecidableEq

/-- What the one who dials finds. -/
inductive Door where
  | standIn
  /-- Somebody who only listens. -/
  | opened
  /-- Nobody, or somebody who does not want to talk. -/
  | shut
  /-- Somebody who does not answer. -/
  | silent
deriving DecidableEq

/-- A save whose reply is on its way. -/
structure Flight where
  due : Nat
  save : Save
  reply : Reply
deriving DecidableEq

/-- A bridge and its surroundings. -/
structure Stage where
  /-- The time in milliseconds. -/
  now : Nat
  bridge : Bridge
  counters : Counters
  bus : EventBus Event
  /-- The number of the listener. -/
  listener : Nat
  desk : Desk
  door : Door
  standIn : StandIn
  /-- What supervisors will hear from the other end. -/
  mail : List (Nat × Message)
  flights : List Flight
  /-- The requests that have been noted. -/
  calls : List Request
  /-- What the channel has reported. -/
  signals : List Signal
  /-- What the other end has heard, unless it is the stand-in. -/
  heard : List Message
  /-- The answers for texts. -/
  answers : List (Nat × Except ChannelError Unit)

namespace Stage

/-- The surroundings of a bridge, with an event bus of a capacity. -/
def ofBridge (bridge : Bridge) (capacity : Nat) (desk : Desk) (door : Door) : Stage :=
  let (bus, listener) := (EventBus.ofCapacity capacity).subscribe
  { now := 0, bridge, counters := .zero, bus, listener, desk, door, standIn := .fresh, mail := [],
    flights := [], calls := [], signals := [], heard := [], answers := [] }

/-! ### Effects -/

/-- The bridge publishes and counts. -/
def perform (s : Stage) (effects : List Effect) : Stage :=
  effects.foldl (fun s effect => match effect with
    | .publish event => { s with bus := s.bus.publish event }
    | .count counter => { s with counters := s.counters.bump counter }) s

/-- The other end hears a message of a supervisor. -/
def tell (s : Stage) (id : Nat) (m : Message) : Stage :=
  if s.door = .standIn then
    let (standIn, replies) := s.standIn.hear s.now id m
    { s with standIn, mail := s.mail ++ replies.map fun reply => (id, reply) }
  else { s with heard := s.heard ++ [m] }

/-- An effect of the channel. -/
def absorb (s : Stage) : ChannelEffect → Stage
  | .signal signal => { s with signals := s.signals ++ [signal] }
  | .count counter => { s with counters := s.counters.bump counter }
  | .wrote id frame => s.tell id (.text frame.text)
  | .answer ticket result =>
    let (bridge, effects) := s.bridge.answered ticket result
    { s with bridge, answers := s.answers ++ [(ticket, result)] }.perform effects
  | .dial _ | .stopped => s

/-- Effects of the channel in a row. -/
def absorbAll (s : Stage) (effects : List ChannelEffect) : Stage := effects.foldl absorb s

/-- Something happens to the channel, and the other end notices. -/
def drive (s : Stage) (input : ChannelInput) : Stage :=
  let (bridge, effects) := s.bridge.drive s.now input
  let s := { s with bridge }.absorbAll effects
  match input with
  | .dialed id true => if s.door = .standIn then { s with standIn := s.standIn.join id } else s
  | .closed id => s.tell id .close
  | _ => s

/-! ### The channel and its other end -/

/-- What the one who dials learns, if anything. -/
def Door.verdict? : Door → Option Bool
  | .standIn | .opened => some true
  | .shut => some false
  | .silent => none

/-- What a supervisor does by itself, if anything. -/
def next? (s : Stage) (supervisor : Supervisor) : Option ChannelInput :=
  let id := supervisor.id
  let channel := s.bridge.channel
  match supervisor.phase with
  | .created => some (.start id)
  | .dialing =>
    if channel.isNews id then some (.noticed id)
    else (Door.verdict? s.door).map fun accepted => .dialed id accepted
  | .opened queue =>
    if channel.isNews id then some (.noticed id)
    else if queue.isEmpty then none
    else some (.take id)
  | .writing _ _ => some (.written id true)
  | .closing _ => some (.closed id)
  | .waiting due called =>
    if channel.isNews id then some (.noticed id)
    else if called || channel.permit then some (.called id)
    else if due ≤ s.now then some (.elapsed id)
    else none
  | .ended => if channel.stopping.contains id then some (.finish id) else none

/-- Whether a supervisor has an open connection. -/
def isConnected (s : Stage) (id : Nat) : Bool :=
  match s.bridge.channel.phase id with
  | .opened _ => true
  | _ => false

/-- A supervisor hears a message from the other end, and answers a question by itself. -/
def deliver (s : Stage) (id : Nat) (m : Message) : Stage :=
  if !m.keeps then s.drive (.lost id)
  else
    match m with
    | .text text => s.drive (.received id text)
    | .ping payload =>
      let s := if s.isConnected id then s.tell id (.pong payload) else s
      s.drive (.ignored id)
    | _ => s.drive (.ignored id)

/-- The steps that are certainly enough for the channel and its other end to come to rest,
unless they never do. -/
def effort (s : Stage) : Nat :=
  let texts (supervisor : Supervisor) : Nat :=
    match supervisor.phase with
    | .opened queue | .closing queue | .writing _ queue => queue.length + 1
    | _ => 0
  s.bridge.channel.supervisors.foldr (fun v rest => 8 + 4 * texts v + rest)
    (4 * s.mail.length + 8)

/-- The channel and its other end go on for a number of steps: what has been said is heard
first, and then a supervisor does something by itself. -/
def pumpFor : Nat → Stage → Stage
  | 0, s => s
  | fuel + 1, s =>
    match s.mail with
    | (id, m) :: mail => pumpFor fuel ({ s with mail }.deliver id m)
    | [] =>
      match s.bridge.channel.supervisors.findSome? s.next? with
      | some input => pumpFor fuel (s.drive input)
      | none => s

/-- The channel and its other end go on until they have nothing left to do. -/
def pump (s : Stage) : Stage := pumpFor s.effort s

/-- The router takes everything that the channel has reported. -/
def route (s : Stage) : Stage :=
  let (bridge, effects) := s.bridge.catchUp s.now
  { s with bridge }.perform effects

/-! ### Notes -/

/-- The events since the listener last looked. -/
def takeEvents (s : Stage) : Stage × List Event :=
  let (bus, events) := s.bus.drain s.listener
  ({ s with bus }, events)

/-- What has become of a text. -/
def answerFor (s : Stage) (ticket : Nat) : Except ChannelError Unit :=
  ((s.answers.find? fun (t, _) => t == ticket).map Prod.snd).getD (.error .closed)

/-- The notes are thrown away. -/
def clearNotes (s : Stage) : Stage :=
  { s with calls := [], signals := [], heard := [], answers := [] }

end Stage

end Greenhouse.Rehearsal
