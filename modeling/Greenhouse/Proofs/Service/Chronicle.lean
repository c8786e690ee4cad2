import Mathlib.Data.List.Induction
import Greenhouse.Proofs.Registry.History
import Greenhouse.Proofs.Service.Run

/-!
# The chronicle of a bridge at work

What the registry and the watchdog come to does not depend on the whole of a run.  A chronicle
keeps what matters to them: the signals that the router has acted on, the operator's orders and
their replies, and when the watchdog went on.  An `Account` is drawn up from a chronicle alone.  It
says what has been done to the registry, and what the watchdog has been given.

Of the signals, only heartbeats and telemetry matter.  `Account.of_relevant` says that the
others may be struck from a chronicle without any change to the account.
-/

namespace Greenhouse

/-! ### Signals -/

namespace Frame

/-- Whether a frame is a heartbeat, in whatever case its event is written. -/
def isHeartbeat (f : Frame) : Bool :=
  ["system_heartbeat", "heartbeat"].any fun event =>
    f.event.toList.map Text.lowerAscii == event.toList

/-- Whether a frame carries readings.  A heartbeat does not, whatever its type is. -/
def isTelemetry (f : Frame) : Bool :=
  !f.isHeartbeat && (f.kind == some "GREENHOUSE_TELEMETRY"
    || ["GREENHOUSE_TELEMETRY", "ACTUATOR_TELEMETRY", "TELEMETRY"].contains f.event)

theorem isHeartbeat_eq (f : Frame) :
  f.isHeartbeat
    = (Text.sameIgnoringCase f.event heartbeatEvent || Text.sameIgnoringCase f.event "heartbeat")
  := by
  have hsystem : "SYSTEM_HEARTBEAT".toList.map Text.lowerAscii = "system_heartbeat".toList := by
    decide
  have hplain : "heartbeat".toList.map Text.lowerAscii = "heartbeat".toList := by decide
  simp only [isHeartbeat, List.any_cons, List.any_nil, Bool.or_false, Text.sameIgnoringCase,
    heartbeatEvent, hsystem, hplain]

/-- A frame is a heartbeat, or else it carries readings, or else it is passed on as it is. -/
theorem classify_cases (f : Frame) :
  (f.isHeartbeat = true ∧ f.isTelemetry = false ∧ f.classify = .heartbeat f.beat)
    ∨ (f.isHeartbeat = false ∧ f.isTelemetry = true ∧ f.classify = .telemetry)
    ∨ (f.isHeartbeat = false ∧ f.isTelemetry = false
      ∧ (f.classify = .workflow ∨ f.classify = .other))
  := by
  unfold classify
  rw [← isHeartbeat_eq]
  cases hbeat : f.isHeartbeat with
  | true =>
      left
      simp [isTelemetry, hbeat]
  | false =>
      right
      have htelemetry : f.isTelemetry
          = (f.kind == some greenhouseKind || telemetryEvents.contains f.event) := by
        rw [isTelemetry, hbeat, Bool.not_false, Bool.true_and]
        rfl
      rw [← htelemetry]
      cases hreadings : f.isTelemetry with
      | true =>
          left
          simp
      | false =>
          right
          simp only [Bool.false_eq_true, if_false, true_and]
          split
          · left; rfl
          · right; rfl

/-- A heartbeat of the type of telemetry is a heartbeat. -/
example :
  classify ⟨some "GREENHOUSE_TELEMETRY", "Heartbeat", .null, none, none⟩ = .heartbeat ⟨.alive, none⟩
  := by
  decide

end Frame

namespace Signal

/-- What a signal says as a heartbeat, if it is one. -/
def beat? : Signal → Option Heartbeat
  | .state _ => none
  | .inbound frame => if frame.isHeartbeat then some frame.beat else none

/-- The readings that a signal carries. -/
def readings : Signal → List (String × ActuatorValue)
  | .state _ => []
  | .inbound frame => if frame.isTelemetry then frame.readings else []

/-- Whether a signal is anything to the registry or to the watchdog. -/
def matters : Signal → Bool
  | .state _ => false
  | .inbound frame => frame.isHeartbeat || frame.isTelemetry

theorem beat?_of_not_matters {signal : Signal} (h : signal.matters = false) :
  signal.beat? = none
  := by
  cases signal with
  | state state => rfl
  | inbound frame => simp_all [matters, beat?]

theorem readings_of_not_matters {signal : Signal} (h : signal.matters = false) :
  signal.readings = []
  := by
  cases signal with
  | state state => rfl
  | inbound frame => simp_all [matters, readings]

end Signal

/-! ### Chronicles -/

/-- Something that matters to the registry or to the watchdog. -/
inductive Entry where
  /-- The bridge is to run. -/
  | start
  /-- The router has ended, and the watchdog with it. -/
  | halt
  /-- The router has acted on a signal. -/
  | acted (signal : Signal)
  /-- The watchdog takes the next heartbeat. -/
  | beat
  /-- Time has passed for the watchdog. -/
  | tick
  | order (w : Wish)
  | reply (order : Nat) (reply : Reply)

namespace Entry

/-- The signal that the router has acted on. -/
def signal? : Entry → Option Signal
  | .acted signal => some signal
  | .start | .halt | .beat | .tick | .order _ | .reply _ _ => none

/-- Only signals may be of no matter. -/
def matters : Entry → Bool
  | .acted signal => signal.matters
  | .start | .halt | .beat | .tick | .order _ | .reply _ _ => true

end Entry

/-- Entries with their times. -/
abbrev Chronicle := List (Nat × Entry)

namespace Chronicle

/-- The signals that the router has acted on, with the times. -/
def acted (c : Chronicle) : List (Nat × Signal) :=
  c.filterMap fun (now, e) => e.signal?.map fun signal => (now, signal)

/-- The chronicle without the signals that do not matter. -/
def relevant (c : Chronicle) : Chronicle := c.filter fun (_, e) => e.matters

theorem acted_append_singleton (c : Chronicle) (now : Nat) (e : Entry) :
  acted (c ++ [(now, e)]) = c.acted ++ (e.signal?.map fun signal => (now, signal)).toList
  := by
  rw [acted, acted, List.filterMap_append]
  cases hsignal : e.signal? <;> simp [hsignal]

theorem relevant_append_singleton (c : Chronicle) (now : Nat) (e : Entry) :
  relevant (c ++ [(now, e)]) = c.relevant ++ if e.matters then [(now, e)] else []
  := by
  rw [relevant, relevant, List.filter_append]
  cases hmatters : e.matters <;> simp [hmatters]

end Chronicle

namespace Service

/-- What an input comes to in the chronicle. -/
def noted? (s : Service) : ServiceInput → Option Entry
  | .start => some .start
  | .halt => if s.isDrained then some .halt else none
  | .take => s.next?.map fun (signal, _) => .acted signal
  | .beat => some .beat
  | .tick => some .tick
  | .order w => some (.order w)
  | .reply order reply => some (.reply order reply)
  | .channel _ | .submit _ | .pass | .settings _ => none

/-- The chronicle of a run. -/
def chronicle (s : Service) : List (Nat × ServiceInput) → Chronicle
  | [] => []
  | (now, x) :: rest =>
    ((s.noted? x).map fun e => (now, e)).toList ++ (s.step now x).1.chronicle rest

theorem chronicle_append_singleton (s : Service) (inputs : List (Nat × ServiceInput)) (now : Nat)
    (x : ServiceInput) :
  s.chronicle (inputs ++ [(now, x)])
    = s.chronicle inputs ++ (((s.run inputs).1.noted? x).map fun e => (now, e)).toList
  := by
  induction inputs generalizing s with
  | nil => simp [chronicle, run]
  | cons input rest ih =>
      obtain ⟨then_, y⟩ := input
      simp only [List.cons_append, chronicle, run_cons, ih, List.append_assoc]

end Service

/-! ### Accounts -/

/-- The order for a wish, by what the registry shows. -/
def Wish.orderAt (r : Registry Nat) : Wish → Order
  | .set name value => .set name value
  | .toggle name => .toggle name (r.toggledValue name)
  | .release name => .release name
  | .releaseAll => .releaseAll
  | .goal text => .goal text

theorem Wish.order_eq (b : Bridge) (w : Wish) :
  w.order b = w.orderAt b.registry
  := by
  cases w <;> rfl

/-- What an order does to the registry when its reply has arrived. -/
def Order.change? (o : Order) (reply : Reply) : Option RegistryInput :=
  match o.verdict reply with
  | .error _ | .ok (.refused _) => none
  | .ok (.accepted value _) =>
    match o with
    | .set name wanted | .toggle name wanted => some (.force name (value.getD wanted))
    | .release name => some (.clear name)
    | .releaseAll => some .clearAll
    | .goal _ => none

/-- The heartbeat that the watchdog is given. -/
def WatchdogInput.beat? : WatchdogInput → Option Heartbeat
  | .beat b => some b
  | .start | .stop | .tick => none

/-- The reading that is applied to the registry. -/
def RegistryInput.telemetry? : RegistryInput → Option (String × ActuatorValue)
  | .telemetry name value => some (name, value)
  | .force _ _ | .toggle _ | .clear _ | .clearAll => none

/-- Orders do not bring readings. -/
theorem Order.telemetry?_of_change? {o : Order} {reply : Reply} {x : RegistryInput}
    (h : o.change? reply = some x) :
  x.telemetry? = none
  := by
  unfold change? at h
  split at h
  · nomatch h
  · nomatch h
  · cases o with
    | goal text => nomatch h
    | set | toggle | release | releaseAll =>
        obtain rfl := Option.some.inj h
        rfl

/-- What has been done to the registry and to the watchdog. -/
structure Account where
  /-- What has been done to the registry. -/
  changes : RegistryHistory Nat
  /-- What the watchdog has been given, the first input first. -/
  given : List (Nat × WatchdogInput)
  /-- The heartbeats that the watchdog has not taken. -/
  beats : List Heartbeat
  /-- The orders that have not been answered, with their numbers. -/
  orders : List (Nat × Order)
  /-- The number of the next order. -/
  fresh : Nat

namespace Account

/-- Nothing has been done. -/
def empty : Account := ⟨[], [], [], [], 0⟩

/-- The account of one more entry.  The heartbeats that are still waiting when the router has ended
come too late for the watchdog. -/
def step (a : Account) (now : Nat) : Entry → Account
  | .start => { a with given := a.given ++ [(now, .start)] }
  | .halt =>
    { a with
      given := a.given ++ (now, .stop) :: a.beats.map fun beat => (now, .beat beat)
      beats := [] }
  | .acted signal =>
    { a with
      changes :=
        (signal.readings.map fun (name, value) => (now, .telemetry name value)).reverse ++ a.changes
      beats := a.beats ++ signal.beat?.toList }
  | .beat =>
    match a.beats with
    | beat :: rest => { a with given := a.given ++ [(now, .beat beat)], beats := rest }
    | [] => a
  | .tick => { a with given := a.given ++ [(now, .tick)] }
  | .order w =>
    { a with
      orders := a.orders ++ [(a.fresh, w.orderAt a.changes.registry)]
      fresh := a.fresh + 1 }
  | .reply order reply =>
    match a.orders.find? fun o => o.1 = order with
    | some (_, o) =>
      { a with
        changes := ((o.change? reply).map fun x => (now, x)).toList ++ a.changes
        orders := a.orders.filter fun o => o.1 ≠ order }
    | none => a

/-- The account of a chronicle. -/
def of (c : Chronicle) : Account := c.foldl (fun a (now, e) => a.step now e) empty

/-- The heartbeats that the watchdog has been given, in order. -/
def heartbeats (a : Account) : List Heartbeat := a.given.filterMap fun (_, x) => x.beat?

/-- The readings that have been applied to the registry, in order and with their times. -/
def readings (a : Account) : List (Nat × String × ActuatorValue) :=
  a.changes.reverse.filterMap fun (now, x) => x.telemetry?.map fun reading => (now, reading)

theorem of_append_singleton (c : Chronicle) (now : Nat) (e : Entry) :
  of (c ++ [(now, e)]) = (of c).step now e
  := by
  simp [of]

/-- What does not matter makes no difference. -/
theorem step_of_not_matters (a : Account) (now : Nat) {e : Entry} (h : e.matters = false) :
  a.step now e = a
  := by
  cases e with
  | acted signal =>
      simp [step, Signal.beat?_of_not_matters h, Signal.readings_of_not_matters h]
  | start | halt | beat | tick | order | reply => nomatch h

/-- The signals that do not matter may be struck from a chronicle. -/
theorem of_relevant (c : Chronicle) :
  of c.relevant = of c
  := by
  induction c using List.reverseRecOn with
  | nil => rfl
  | append_singleton c entry ih =>
      obtain ⟨now, e⟩ := entry
      rw [Chronicle.relevant_append_singleton, of_append_singleton]
      cases he : e.matters with
      | true => rw [if_pos rfl, of_append_singleton, ih]
      | false => rw [if_neg nofun, List.append_nil, ih, step_of_not_matters _ now he]

theorem filterMap_beat?_map (beats : List Heartbeat) (now : Nat) :
  (beats.map fun beat => (now, WatchdogInput.beat beat)).filterMap (fun (_, x) => x.beat?) = beats
  := by
  rw [List.filterMap_map]
  apply List.filterMap_some

theorem filterMap_telemetry?_map (found : List (String × ActuatorValue)) (now : Nat) :
  (found.map fun (name, value) => (now, RegistryInput.telemetry name value)).filterMap
      (fun (now, x) => x.telemetry?.map fun reading => (now, reading))
    = found.map fun reading => (now, reading)
  := by
  rw [List.filterMap_map, ← List.filterMap_eq_map]
  rfl

/-- An entry hands on the heartbeat that the router has acted on, and no other. -/
theorem heartbeats_step (a : Account) (now : Nat) (e : Entry) :
  (a.step now e).heartbeats ++ (a.step now e).beats
    = a.heartbeats ++ a.beats ++ (e.signal?.bind Signal.beat?).toList
  := by
  cases e with
  | acted signal => simp [step, heartbeats, Entry.signal?]
  | halt =>
      simp only [step, heartbeats, List.filterMap_append, List.append_nil]
      rw [List.filterMap_cons_none rfl, filterMap_beat?_map]
      exact (List.append_nil _).symm
  | beat =>
      simp only [step]
      cases hbeats : a.beats with
      | nil => simp [hbeats, Entry.signal?]
      | cons beat rest => simp [heartbeats, Entry.signal?, WatchdogInput.beat?]
  | reply order reply =>
      simp only [step]
      cases a.orders.find? fun o => o.1 = order with
      | none => simp [Entry.signal?]
      | some found => simp [heartbeats, Entry.signal?]
  | start | tick => simp [step, heartbeats, Entry.signal?, WatchdogInput.beat?]
  | order w => simp [step, heartbeats, Entry.signal?]

/-- An entry applies the readings of the signal that the router has acted on, and no others. -/
theorem readings_step (a : Account) (now : Nat) (e : Entry) :
  (a.step now e).readings
    = a.readings ++ ((e.signal?.map Signal.readings).getD []).map fun reading => (now, reading)
  := by
  cases e with
  | acted signal =>
      simp only [step, readings, List.reverse_append, List.reverse_reverse, List.filterMap_append,
        filterMap_telemetry?_map]
      rfl
  | beat =>
      simp only [step]
      cases hbeats : a.beats <;> simp [readings, Entry.signal?]
  | reply order reply =>
      simp only [step]
      cases a.orders.find? fun o => o.1 = order with
      | none => simp [Entry.signal?]
      | some found =>
          obtain ⟨n, o⟩ := found
          cases hchange : o.change? reply with
          | none => simp [readings, Entry.signal?, hchange]
          | some x =>
              have hx := Order.telemetry?_of_change? hchange
              simp [readings, Entry.signal?, hchange, hx]
  | start | halt | tick | order => simp [step, readings, Entry.signal?]

/-- The watchdog is given, or is yet to take, the heartbeats that the router has acted on. -/
theorem heartbeats_of (c : Chronicle) :
  (of c).heartbeats ++ (of c).beats = c.acted.filterMap fun (_, signal) => signal.beat?
  := by
  induction c using List.reverseRecOn with
  | nil => rfl
  | append_singleton c entry ih =>
      obtain ⟨now, e⟩ := entry
      rw [of_append_singleton, heartbeats_step, ih, Chronicle.acted_append_singleton,
        List.filterMap_append]
      cases e.signal? with
      | none => simp
      | some signal => cases hbeat : signal.beat? <;> simp [hbeat]

/-- The registry is given the readings of the signals that the router has acted on. -/
theorem readings_of (c : Chronicle) :
  (of c).readings
    = c.acted.flatMap fun (now, signal) => signal.readings.map fun reading => (now, reading)
  := by
  induction c using List.reverseRecOn with
  | nil => rfl
  | append_singleton c entry ih =>
      obtain ⟨now, e⟩ := entry
      rw [of_append_singleton, readings_step, ih, Chronicle.acted_append_singleton,
        List.flatMap_append]
      cases e.signal? <;> simp

end Account

end Greenhouse
