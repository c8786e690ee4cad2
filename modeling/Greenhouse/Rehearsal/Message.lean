import Greenhouse.Text.Blank

/-!
# Messages on a connection

What one end of a streaming connection hears from the other.
-/

namespace Greenhouse.Rehearsal

/-- A message on a streaming connection. -/
inductive Message where
  | text (text : String)
  | binary
  /-- A question whether the other end is there. -/
  | ping (payload : String)
  /-- The answer to it. -/
  | pong (payload : String)
  /-- The connection is closed. -/
  | close
  /-- The connection has ended without a word. -/
  | gone
deriving DecidableEq

/-- The number of bytes that a question or an answer may carry. -/
def payloadBytes : Nat := 125

/-- Whether a message keeps to the rules of the connection; the one who hears a message that
does not gives the connection up. -/
def Message.isSound : Message → Bool
  | .ping payload | .pong payload => Text.byteCount payload.toList ≤ payloadBytes
  | _ => true

/-- Whether the connection goes on after a message. -/
def Message.keeps (m : Message) : Bool :=
  match m with
  | .close | .gone => false
  | _ => m.isSound

end Greenhouse.Rehearsal
