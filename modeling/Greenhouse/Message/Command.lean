import Greenhouse.Json.Printer
import Greenhouse.Json.Record

/-!
# Commands

A `Command` is what an operator sends over the streaming channel: a verb and its arguments.
-/

namespace Greenhouse

/-- A command sent over the streaming channel. -/
structure Command where
  verb : String
  payload : Json
deriving DecidableEq

namespace Command

/-- The command that asks the backend for an answer. -/
def ping : Command := ⟨"PING", .obj []⟩

/-- The command as a document. -/
def toJson (c : Command) : Json := .obj [("command", .str c.verb), ("payload", c.payload)]

/-- The command as text. -/
def toWire (c : Command) : String := c.toJson.render

/-- The shape of a command. -/
def shape : Json.Shape Command where
  name := "OutboundCommand"
  fields :=
    [.of "command" true (Json.readText "a string") fun verb c => { c with verb },
      .of "payload" false Json.readValue fun payload c => { c with payload }]
  blank := ⟨"", .null⟩

/-- Reads a command. -/
def parse (text : String) : Except Json.DecodeError Command := shape.reader.run text

end Command

end Greenhouse
