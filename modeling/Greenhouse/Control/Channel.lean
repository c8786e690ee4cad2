import Greenhouse.Control.Counters
import Greenhouse.Control.Event
import Greenhouse.Time.Wait

/-!
# The streaming channel

One channel leads to the backend, and it is opened again whenever it is lost.  A supervisor
dials, passes frames on in both directions while the channel is open, and waits before it
dials again.  `connect` starts a supervisor, or wakes one that is waiting; `stop` raises a
flag, and is over when the supervisor that it has taken away has ended.

Calls and supervisors may overlap in any order, so every moment at which one of them may be
interrupted by another is a step of its own: a `Channel` is what they share, and `Channel.step`
is what a single input does to it.  An input that is not possible in a state does nothing.
Times are in milliseconds.
-/

namespace Greenhouse

/-- What listeners of the channel hear. -/
inductive Signal where
  /-- The channel has a new state. -/
  | state (state : ConnectionState)
  /-- A frame arrived. -/
  | inbound (frame : Frame)
deriving DecidableEq

/-- A text on its way to the backend, and the number under which its sender waits. -/
structure Outgoing where
  ticket : Nat
  text : String
deriving DecidableEq

/-- What a supervisor is doing. -/
inductive Phase where
  /-- It has not run yet. -/
  | created
  | dialing
  /-- The channel is open; the texts are those not yet written. -/
  | opened (queue : List Outgoing)
  /-- A text is being written. -/
  | writing (frame : Outgoing) (queue : List Outgoing)
  /-- The end of the channel is being announced to the backend. -/
  | closing (queue : List Outgoing)
  /-- It waits until a moment, or until it is called. -/
  | waiting (due : Nat) (called : Bool)
  | ended
deriving DecidableEq

/-- One supervisor. -/
structure Supervisor where
  id : Nat
  /-- How often the flag had been set when the supervisor last looked. -/
  seen : Nat
  phase : Phase
deriving DecidableEq

/-- What calls and supervisors share. -/
structure Channel where
  /-- How long to wait before dialing again. -/
  delay : Nat
  state : ConnectionState
  /-- The supervisor that takes texts to be sent. -/
  outlet : Option Nat
  /-- The flag that asks supervisors to end. -/
  halted : Bool
  /-- How often the flag has been set, to whatever value. -/
  version : Nat
  /-- Whether a call to dial has been made that no supervisor has heard. -/
  permit : Bool
  /-- The supervisor that the next `connect` or `stop` deals with. -/
  current : Option Nat
  supervisors : List Supervisor
  /-- The supervisors for whose end a `stop` is waiting. -/
  stopping : List Nat
  /-- The number of the next supervisor or text. -/
  fresh : Nat
deriving DecidableEq

/-- What a step does to the outside. -/
inductive ChannelEffect where
  | signal (signal : Signal)
  | count (counter : Counter)
  /-- A supervisor begins to dial. -/
  | dial (id : Nat)
  /-- A text has been written by a supervisor. -/
  | wrote (id : Nat) (frame : Outgoing)
  /-- The sender of a text learns what became of it. -/
  | answer (ticket : Nat) (result : Except ChannelError Unit)
  /-- A call of `stop` is over. -/
  | stopped

/-- What a listener of the channel hears of an effect. -/
def ChannelEffect.signal? : ChannelEffect → Option Signal
  | .signal s => some s
  | _ => none

/-- Something that happens to the channel. -/
inductive ChannelInput where
  | connect
  | stop
  /-- A `stop` that has been waiting for a supervisor goes on. -/
  | finish (id : Nat)
  | send (text : String)
  /-- A supervisor runs for the first time. -/
  | start (id : Nat)
  /-- An attempt to dial is over. -/
  | dialed (id : Nat) (accepted : Bool)
  /-- A supervisor notices that the flag has been set. -/
  | noticed (id : Nat)
  /-- A supervisor takes the next text to be written. -/
  | take (id : Nat)
  /-- The text taken has been written, or could not be. -/
  | written (id : Nat) (done : Bool)
  /-- A text arrived. -/
  | received (id : Nat) (text : String)
  /-- Something else arrived that is no text and does not end the channel. -/
  | ignored (id : Nat)
  /-- The backend has closed the channel, or it broke. -/
  | lost (id : Nat)
  /-- The end of the channel has been announced. -/
  | closed (id : Nat)
  /-- A supervisor has been called while it was waiting. -/
  | called (id : Nat)
  /-- A supervisor has waited long enough. -/
  | elapsed (id : Nat)
deriving DecidableEq

namespace Channel

/-- A channel that nobody has asked to be opened. -/
def ofDelay (delay : Nat) : Channel :=
  ⟨delay, .closed, none, false, 0, false, none, [], [], 0⟩

/-- A supervisor by its number. -/
def supervisor? (c : Channel) (id : Nat) : Option Supervisor :=
  c.supervisors.find? fun s => s.id == id

/-- What a supervisor is doing; one that is not there has ended. -/
def phase (c : Channel) (id : Nat) : Phase := ((c.supervisor? id).map Supervisor.phase).getD .ended

/-- A supervisor is changed. -/
def update (c : Channel) (id : Nat) (f : Supervisor → Supervisor) : Channel :=
  { c with supervisors := c.supervisors.map fun s => if s.id = id then f s else s }

/-- A supervisor goes over to another phase. -/
def enter (c : Channel) (id : Nat) (phase : Phase) : Channel :=
  c.update id fun s => { s with phase }

/-- The channel takes a state; listeners hear of it when it is a new one. -/
def setState (c : Channel) (state : ConnectionState) : Channel × List ChannelEffect :=
  ({ c with state }, if c.state = state then [] else [.signal (.state state)])

/-- The flag is set. -/
def setHalted (c : Channel) (halted : Bool) : Channel :=
  { c with halted, version := c.version + 1 }

/-- The texts that have not been written are given up. -/
def discard (queue : List Outgoing) : List ChannelEffect :=
  queue.map fun f => .answer f.ticket (.error .closed)

/-! ### Calls -/

/-- Somebody wants a waiting supervisor to dial. -/
def callOut (c : Channel) : Channel :=
  let sleeping (s : Supervisor) : Option Nat :=
    match s.phase with
    | .waiting _ false => some s.id
    | _ => none
  match c.permit, c.supervisors.findSome? sleeping with
  | false, some id =>
    c.update id fun s => match s.phase with
      | .waiting due _ => { s with phase := .waiting due true }
      | _ => s
  | _, _ => { c with permit := true }

/-- A new supervisor. -/
def spawn (c : Channel) : Channel :=
  let c := c.setHalted false
  { c with
    current := some c.fresh
    supervisors := c.supervisors ++ [⟨c.fresh, 0, .created⟩]
    fresh := c.fresh + 1 }

/-- The channel is to be opened. -/
def connect (c : Channel) : Channel :=
  match c.current with
  | some id =>
    if c.phase id = .ended then c.spawn
    else if c.state = .closed then c.callOut
    else c
  | none => c.spawn

/-- A call of `stop` ends: nothing can be sent any more. -/
def endStop (c : Channel) : Channel × List ChannelEffect :=
  let (c, effects) := { c with outlet := none }.setState .closed
  (c, effects ++ [.stopped])

/-- The channel is to be closed. -/
def stop (c : Channel) : Channel × List ChannelEffect :=
  let c := c.setHalted true
  match c.current with
  | none => c.endStop
  | some id =>
    let c := { c with current := none }
    if c.phase id = .ended then c.endStop else ({ c with stopping := c.stopping ++ [id] }, [])

/-- A text is to be sent: the number under which its sender waits. -/
def send (c : Channel) (text : String) : Channel × Nat × List ChannelEffect :=
  let frame : Outgoing := ⟨c.fresh, text⟩
  let c := { c with fresh := c.fresh + 1 }
  let queued (id : Nat) (phase : Phase) : Channel × Nat × List ChannelEffect :=
    (c.enter id phase, frame.ticket, [])
  let refused : Channel × Nat × List ChannelEffect :=
    (c, frame.ticket, [.answer frame.ticket (.error .notOpen)])
  match c.outlet with
  | none => refused
  | some id =>
    match c.phase id with
    | .opened queue => queued id (.opened (queue ++ [frame]))
    | .writing current queue => queued id (.writing current (queue ++ [frame]))
    | .closing queue => queued id (.closing (queue ++ [frame]))
    | _ => refused

/-- Whether texts can be sent. -/
def isOpen (c : Channel) : Bool := c.state == .opened && c.outlet.isSome

/-! ### Supervisors -/

/-- A supervisor dials, unless the flag asks it to end. -/
def dial (c : Channel) (id : Nat) : Channel × List ChannelEffect :=
  if c.halted then (c.enter id .ended, [])
  else
    let (c, effects) := (c.enter id .dialing).setState .connecting
    (c, effects ++ [.dial id])

/-- A supervisor waits before it dials again. -/
def rest (c : Channel) (now id : Nat) : Channel × List ChannelEffect :=
  (c.enter id (.waiting (now + waitLength c.delay) false), [.count .reconnectAttempts])

/-- The channel is open. -/
def openUp (c : Channel) (id : Nat) : Channel × List ChannelEffect :=
  ({ c.enter id (.opened []) with outlet := some id }).setState .opened

/-- The channel has been lost. -/
def lose (c : Channel) (now id : Nat) (queue : List Outgoing) : Channel × List ChannelEffect :=
  let (c, effects) := { c with outlet := none }.setState .closed
  let (c, more) := c.rest now id
  (c, discard queue ++ effects ++ more)

/-- Whether the flag has been set since a supervisor last looked. -/
def isNews (c : Channel) (id : Nat) : Bool :=
  (c.supervisor? id).any fun s => s.seen != c.version

/-- A supervisor that has been called, but does not answer, passes the call on. -/
def passOn (c : Channel) (called : Bool) : Channel := if called then c.callOut else c

/-- What an input does. -/
def step (c : Channel) (now : Nat) : ChannelInput → Channel × List ChannelEffect
  | .connect => (c.connect, [])
  | .stop => c.stop
  | .finish id =>
    if c.stopping.contains id ∧ c.phase id = .ended then
      { c with stopping := c.stopping.erase id }.endStop
    else (c, [])
  | .send text => let (c, _, effects) := c.send text; (c, effects)
  | .start id =>
    match c.phase id with
    | .created => (c.update id fun s => { s with seen := c.version }).dial id
    | _ => (c, [])
  | .dialed id accepted =>
    match c.phase id with
    | .dialing =>
      if accepted then c.openUp id
      else
        let (c, effects) := c.setState .closed
        let (c, more) := c.rest now id
        (c, effects ++ more)
    | _ => (c, [])
  | .noticed id =>
    if c.isNews id then
      match c.phase id with
      | .dialing => (c.enter id .ended, [])
      | .opened queue =>
        (c.update id fun s => { s with seen := c.version, phase := .closing queue }, [])
      | .waiting _ called => ((c.enter id .ended).passOn called, [])
      | _ => (c, [])
    else (c, [])
  | .take id =>
    match c.phase id with
    | .opened (frame :: queue) => (c.enter id (.writing frame queue), [])
    | _ => (c, [])
  | .written id done =>
    match c.phase id with
    | .writing frame queue =>
      if done then (c.enter id (.opened queue), [.wrote id frame, .answer frame.ticket (.ok ())])
      else c.lose now id (frame :: queue)
    | _ => (c, [])
  | .received id text =>
    match c.phase id with
    | .opened _ =>
      match Frame.parse text with
      | .ok frame => (c, [.count .framesReceived, .signal (.inbound frame)])
      | .error _ => (c, [.count .framesMalformed])
    | _ => (c, [])
  | .ignored _ => (c, [])
  | .lost id =>
    match c.phase id with
    | .opened queue => c.lose now id queue
    | _ => (c, [])
  | .closed id =>
    match c.phase id with
    | .closing queue =>
      let (c, effects) := { c.enter id .ended with outlet := none }.setState .closed
      (c, discard queue ++ effects)
    | _ => (c, [])
  | .called id =>
    match c.phase id with
    | .waiting _ true => c.dial id
    | .waiting _ false => if c.permit then { c with permit := false }.dial id else (c, [])
    | _ => (c, [])
  | .elapsed id =>
    match c.phase id with
    | .waiting due called =>
      if due ≤ now then (c.passOn called).dial id else (c, [])
    | _ => (c, [])

/-- The channel after a run of inputs at given times, and all effects. -/
def run (c : Channel) : List (Nat × ChannelInput) → Channel × List ChannelEffect
  | [] => (c, [])
  | (now, input) :: inputs =>
    let (c, effects) := c.step now input
    let (c, more) := c.run inputs
    (c, effects ++ more)

end Channel

end Greenhouse
