import Greenhouse.Console.Operator
import Greenhouse.Console.Overview
import Greenhouse.Json.Pretty
import Greenhouse.Rehearsal.Calls

/-!
# The session

In a session the operator types lines, and the console executes each as a command and prints
what comes of it.  The session ends when the operator quits or interrupts it (ctrl-c), or the
keyboard ends, and the bridge is stopped then, which saves the drafts; it also ends when the keyboard
fails, and then the bridge is left as it is.
-/

namespace Greenhouse.Console

open Rehearsal

/-- What the keyboard gives. -/
inductive Typed where
  | line (text : String)
  /-- Nothing more will be typed: the keyboard has ended, or ctrl-c has been pressed.  Both are
  looked at only between commands, and the console does the same in either case. -/
  | ended
  /-- What was typed cannot be read. -/
  | unreadable
deriving DecidableEq

/-- How a session goes on. -/
inductive Course where
  | goesOn
  /-- It is over, and the bridge has been stopped. -/
  | over
  /-- It has been given up. -/
  | failed
deriving DecidableEq

/-- What is printed for an order that was accepted. -/
def outcomeText : Outcome → String
  | .held name value _ => name ++ " forced to " ++ value.display
  | .released name true => name ++ " back under automatic control"
  | .released name false => name ++ " was not overridden"
  | .releasedAll names => "released " ++ toString names.length ++ " override(s)"
  | .planned (some result) => "goal accepted: " ++ result.render
  | .planned none => "goal accepted"

/-- What is printed for an order. -/
def orderText (r : Stage × Except CommandError Outcome) : Stage × Except String String :=
  (r.1, (r.2.map outcomeText).mapError CommandError.message)

/-- A command is sent over the channel, and its number is printed. -/
def sendCommand (s : Stage) (command : Command) : Stage × Except String String :=
  let (s, result) := s.submit command
  (s, (result.map fun n => command.verb ++ " sent (#" ++ toString n ++ ")").mapError
    ChannelError.message)

/-- A command of the operator is executed: what is printed, or what has gone wrong. -/
def execute (s : Stage) : OperatorCommand → Stage × Except String String
  | .set name value => orderText (s.order (.set name value))
  | .toggle name => orderText (s.toggle name)
  | .clear name => orderText (s.order (.release name))
  | .clearAll => orderText (s.order .releaseAll)
  | .goal text => orderText (s.order (.goal text))
  | .edit name field value =>
    (s.edit name field value, .ok (name ++ "." ++ field ++ " edited; saving shortly"))
  | .close name =>
    let (s, outcome) := s.close name
    let text : Option String → String
      | some bcc => name ++ " saved (bcc " ++ bcc ++ ")"
      | none => name ++ " has no unsaved edits"
    (s, (outcome.map text).mapError SaveError.message)
  | .send verb payload => sendCommand s ⟨verb, payload⟩
  | .ping => sendCommand s .ping
  | .status =>
    let (s, result) := s.status
    (s, (result.map statusLine).mapError RequestError.message)
  | .show => (s, .ok (overview s.bridge))
  | .settings =>
    let (s, result) := s.loadSettings
    (s, (result.map fun sections => sections.toJson.pretty).mapError RequestError.message)
  | .metrics => (s, .ok s.counters.report)
  | .help => (s, .ok help)
  | .quit => (s, .ok "")

/-- The text for what has come of a command. -/
def resultText : Except String String → String
  | .ok text => text
  | .error message => "error: " ++ message

/-- What the console does with what is typed, what it prints, and how the session goes on. -/
def react (s : Stage) : Typed → Stage × List String × Course
  | .ended => (s.stop, [], .over)
  | .unreadable => (s, [], .failed)
  | .line text =>
    match OperatorCommand.parse text with
    | .error e => (s, [e.message], .goesOn)
    | .ok none => (s, [], .goesOn)
    | .ok (some .quit) => (s.stop, [], .over)
    | .ok (some command) =>
      let (s, result) := execute s command
      (s, [resultText result], .goesOn)

/-- What the console prints first. -/
def greeting : String := "canopy console ready; type `help` for commands"

/-- The lines for the events since the console last looked. -/
def eventLines (s : Stage) : Stage × List String :=
  let (s, events) := s.takeEvents
  (s, events.filterMap eventLine)

/-- A session until it is over, and what is printed in it; when nothing more is typed, the
keyboard has ended. -/
def run (s : Stage) : List Typed → Stage × List String × Course
  | [] => react s .ended
  | typed :: rest =>
    match react s typed with
    | (s, printed, .goesOn) =>
      let (s, lines) := eventLines s.settle
      let (s, more, course) := run s rest
      (s, printed ++ lines ++ more, course)
    | (s, printed, course) => (s, printed, course)

/-- The lines of what has been typed; a line may end with a carriage return as well. -/
def typedLines (text : String) : List Typed :=
  let lines := text.splitOn "\n"
  let lines := if lines.getLast? = some "" then lines.dropLast else lines
  lines.map fun line =>
    .line (if line.toList.getLast? = some '\r' then String.ofList line.toList.dropLast else line)

end Greenhouse.Console
