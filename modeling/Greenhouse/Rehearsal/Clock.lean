import Greenhouse.Rehearsal.Stage

/-!
# The clock of a rehearsal

Time passes on a `Stage` only when somebody waits.  What falls due in the meantime happens at
its time, in the order of the times, and for one time in the order in which it was begun.  The
one who waits goes on before anything else that falls due at the same moment; `Stage.settle`
lets the rest happen.
-/

namespace Greenhouse.Rehearsal

/-- Something that will happen by itself. -/
inductive Happening where
  /-- A timer runs down. -/
  | timer (timer : SaveTimer)
  /-- The reply to a save arrives. -/
  | reply (flight : Flight)
  /-- The window of the watchdog ends. -/
  | window
deriving DecidableEq

namespace Stage

/-- A request is noted and answered: how long that takes, and the reply. -/
def ask (s : Stage) (r : Request) : Stage × Nat × Reply :=
  let s := { s with calls := s.calls ++ [r] }
  match s.desk with
  | .script [] => (s, 0, .failed (.decode "no scripted reply"))
  | .script (next :: rest) =>
    ({ s with desk := .script rest }, waitLength next.delay, next.reply)
  | .nobody base =>
    let url := (base.join r.path).withoutCredentials
    let text := url.toText
    (s, 0, .failed (if url.isRequestable then .unreachable text else .unsendable text))
  | .standIn =>
    let (standIn, answer) := s.standIn.answer s.now ⟨r.method, r.path, r.body?.map Json.render⟩
    let bytes := (answer.document.map fun document => Utf8.encode document.chars).getD []
    ({ s with standIn }, 0, .answered answer.code bytes)

/-- The reply to a save has arrived. -/
def finishSave (s : Stage) (save : Save) (reply : Reply) : Stage × Except SaveError String :=
  let (bridge, effects, outcome) := s.bridge.saved save reply
  ({ s with bridge }.perform effects, outcome)

/-- A save is sent, and nobody waits for the reply. -/
def launch (s : Stage) (save : Save) : Stage :=
  let (s, delay, reply) := s.ask (.saveSettings save.request)
  if delay = 0 then (s.finishSave save reply).1
  else { s with flights := s.flights ++ [⟨s.now + delay, save, reply⟩] }

/-- What will happen by itself: when, and what was begun first. -/
def agenda (s : Stage) : List (Nat × Nat × Happening) :=
  let autosave := s.bridge.autosave
  let window :=
    match s.bridge.watchdog.running with
    | some (some deadline) => [(deadline, autosave.fresh, Happening.window)]
    | _ => []
  autosave.timers.map (fun t => (t.due, t.id, .timer t))
    ++ s.flights.map (fun f => (f.due, f.save.id, .reply f)) ++ window

/-- What will happen first. -/
def first? : List (Nat × Nat × Happening) → Option (Nat × Nat × Happening)
  | [] => none
  | (due, id, h) :: rest =>
    match first? rest with
    | none => some (due, id, h)
    | some (due', id', h') =>
      if due' < due ∨ due' = due ∧ id' < id then some (due', id', h') else some (due, id, h)

/-- Something happens. -/
def happen (s : Stage) : Happening → Stage
  | .timer timer =>
    let (bridge, save) := s.bridge.fire timer
    let s := { s with bridge }
    match save with
    | some save => s.launch save
    | none => s
  | .reply flight =>
    ({ s with flights := s.flights.filter fun f => f.save.id != flight.save.id }.finishSave
      flight.save flight.reply).1
  | .window =>
    let (watchdog, effects) := s.bridge.watchdog.step s.now .tick
    { s with bridge := { s.bridge with watchdog } }.perform effects

/-- What falls due before a moment happens, up to a number of happenings. -/
def passFor : Nat → Nat → Stage → Stage
  | 0, _, s => s
  | fuel + 1, moment, s =>
    match first? s.agenda with
    | some (due, _, h) =>
      if due < moment then passFor fuel moment ({ s with now := max s.now due }.happen h) else s
    | none => s

/-- What falls due before a moment happens.  A timer may be followed by a reply, and nothing
else by anything. -/
def pass (s : Stage) (moment : Nat) : Stage :=
  passFor (2 * s.bridge.autosave.timers.length + s.flights.length + 1) moment s

/-- Somebody waits. -/
def wait (s : Stage) (duration : Nat) : Stage :=
  let moment := s.now + duration
  { s.pass moment with now := moment }

/-- Everything that is due happens. -/
def settle (s : Stage) : Stage := (s.pass (s.now + 1)).pump.route

/-- Somebody waits for the reply to a request. -/
def replyTo (s : Stage) (r : Request) : Stage × Reply :=
  let (s, delay, reply) := s.ask r
  (s.wait delay, reply)

end Stage

end Greenhouse.Rehearsal
