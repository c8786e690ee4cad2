import Greenhouse.Json.Fault
import Greenhouse.Message.Actuation

/-!
# Failures

What can go wrong between the console and the backend: on the streaming channel, in a
request and its answer, in saving settings, and in a command that the backend refuses.
-/

namespace Greenhouse

/-- Why a frame was not written to the streaming channel. -/
inductive ChannelError where
  /-- The channel is not open; the frame was not queued. -/
  | notOpen
  /-- The channel went away before the frame was written. -/
  | closed
deriving DecidableEq

/-- The text of the reason. -/
def ChannelError.message : ChannelError → String
  | .notOpen => "streaming channel is not open"
  | .closed => "streaming channel closed before the frame was written"

/-- Why a request has no answer. -/
inductive RequestError where
  /-- The backend could not be reached at this address, or did not answer. -/
  | unreachable (url : String)
  /-- The request cannot be put into words for this address. -/
  | unsendable (url : String)
  /-- The backend answered with an error status; the body may be cut. -/
  | status (code : Nat) (body : String)
  /-- The answer is not of the shape expected. -/
  | decode (reason : String)
  /-- The address of the backend cannot be used. -/
  | invalidUrl (reason : String)
deriving DecidableEq

/-- The text of the reason. -/
def RequestError.message : RequestError → String
  | .unreachable url => "backend request failed: error sending request for url (" ++ url ++ ")"
  | .unsendable url => "backend request failed: builder error for url (" ++ url ++ ")"
  | .status code body => "backend answered " ++ toString code ++ ": " ++ body
  | .decode reason => "unexpected backend response: " ++ reason
  | .invalidUrl reason => "invalid backend url: " ++ reason

/-- Why a section of settings was not saved. -/
inductive SaveError where
  | request (name : String) (cause : RequestError)
  /-- The backend did not confirm the save with a checksum. -/
  | unverified (name : String) (reason : String)
deriving DecidableEq

/-- The text of the reason. -/
def SaveError.message : SaveError → String
  | .request name cause => "settings save for '" ++ name ++ "' failed: " ++ cause.message
  | .unverified name reason => "settings save for '" ++ name ++ "' not confirmed: " ++ reason

/-- A command that the backend refused. -/
structure Rejection where
  command : String
  target : Option String
  reason : String
deriving DecidableEq

/-- The rejection as a document. -/
def Rejection.toJson (r : Rejection) : Json :=
  .obj
    [("command", .str r.command), ("target", (r.target.map Json.str).getD .null),
      ("reason", .str r.reason)]

/-- The text of a rejection. -/
def Rejection.message (r : Rejection) : String :=
  match r.target with
  | some target => r.command ++ " " ++ target ++ " rejected: " ++ r.reason
  | none => r.command ++ " rejected: " ++ r.reason

/-- Why a command failed. -/
inductive CommandError where
  | channel (cause : ChannelError)
  | request (cause : RequestError)
  | rejected (rejection : Rejection)
deriving DecidableEq

/-- The text of the reason. -/
def CommandError.message : CommandError → String
  | .channel cause => cause.message
  | .request cause => cause.message
  | .rejected rejection => rejection.message

end Greenhouse
