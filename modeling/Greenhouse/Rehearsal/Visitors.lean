import Greenhouse.Rehearsal.StandIn

/-!
# Visitors of the stand-in

Clients of a stand-in that are driven by hand.  Each has its own mail, and finds the end of the
connection behind everything that was sent to it before.
-/

namespace Greenhouse.Rehearsal

/-- A stand-in and the mail of its clients; the clients are numbered in the order in which they
came. -/
structure Visitors where
  now : Nat
  standIn : StandIn
  mail : List (List Message)
deriving DecidableEq

namespace Visitors

/-- No client has come. -/
def none : Visitors := ⟨0, .fresh, []⟩

/-- A message reaches a client. -/
def put (v : Visitors) (client : Nat) (m : Message) : Visitors :=
  { v with mail := v.mail.modify client fun mail => mail ++ [m] }

/-- Messages reach clients. -/
def putAll (v : Visitors) (messages : List (Nat × Message)) : Visitors :=
  messages.foldl (fun v (client, m) => v.put client m) v

/-- A client comes. -/
def join (v : Visitors) : Visitors :=
  { v with standIn := v.standIn.join v.mail.length, mail := v.mail ++ [[]] }

/-- A client says something; whether it can. -/
def say (v : Visitors) (client : Nat) (m : Message) : Visitors × Bool :=
  let (standIn, replies) := v.standIn.hear v.now client m
  ({ v with standIn }.putAll (replies.map fun reply => (client, reply)),
    v.standIn.clients.contains client)

/-- A client takes the next message; the end is found again and again. -/
def read (v : Visitors) (client : Nat) : Visitors × Option Message :=
  match v.mail[client]? with
  | some (.gone :: _) => (v, some .gone)
  | some (m :: rest) => ({ v with mail := v.mail.set client rest }, some m)
  | _ => (v, .none)

/-- The stand-in sends a text to its clients: how many it reaches. -/
def push (v : Visitors) (text : String) : Visitors × Nat :=
  (v.putAll (v.standIn.push text), v.standIn.clients.length)

/-- The stand-in sends its clients away. -/
def kick (v : Visitors) : Visitors :=
  let (standIn, messages) := v.standIn.kick
  { v with standIn }.putAll messages

end Visitors

end Greenhouse.Rehearsal
