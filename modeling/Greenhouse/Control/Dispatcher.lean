import Greenhouse.Control.Channel
import Greenhouse.Control.Effect
import Greenhouse.Message.Command

/-!
# The dispatcher

The operator's commands go over the streaming channel in the order in which they are given.
Each has a number, whether or not it is sent: the first is 1.  A command that the channel
does not write is dropped; it is never sent again.
-/

namespace Greenhouse

/-- A command that has been handed to the channel. -/
structure Submission where
  /-- The number under which the channel answers. -/
  ticket : Nat
  /-- The number of the command. -/
  sequence : Nat
deriving DecidableEq

/-- The commands so far. -/
structure Dispatcher where
  /-- How many commands have been given. -/
  count : Nat
  /-- The commands for which the channel has not answered, in the order of their numbers. -/
  waiting : List Submission
deriving DecidableEq

namespace Dispatcher

/-- No command has been given. -/
def empty : Dispatcher := ⟨0, []⟩

/-- A command is given to the channel. -/
def submit (d : Dispatcher) (c : Channel) (command : Command) :
    Dispatcher × Channel × Submission × List ChannelEffect :=
  let (c, ticket, effects) := c.send command.toWire
  let submission : Submission := ⟨ticket, d.count + 1⟩
  (⟨d.count + 1, d.waiting ++ [submission]⟩, c, submission, effects)

/-- What is counted when the channel answers for a command. -/
def effectOf : Except ChannelError Unit → Effect
  | .ok _ => .count .commandsSent
  | .error _ => .count .commandsDropped

/-- The channel answers for a text.  Texts that are not commands are none of the dispatcher's
business. -/
def answer (d : Dispatcher) (ticket : Nat) (result : Except ChannelError Unit) :
    Dispatcher × List Effect :=
  if d.waiting.any fun s => s.ticket == ticket then
    ({ d with waiting := d.waiting.filter fun s => s.ticket != ticket }, [effectOf result])
  else (d, [])

end Dispatcher

/-- What the one who gave a command learns: its number, if it has been written. -/
def Submission.outcome (s : Submission) (result : Except ChannelError Unit) :
    Except ChannelError Nat :=
  result.map fun _ => s.sequence

end Greenhouse
