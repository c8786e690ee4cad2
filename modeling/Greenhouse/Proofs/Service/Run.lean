import Greenhouse.Proofs.Autosave.Step
import Greenhouse.Proofs.Order.Exchange
import Greenhouse.Proofs.Outcome

/-!
# A bridge at work

The parts of a bridge work beside each other.  A `Service` is a bridge together with what is on
its way between them: the orders that the backend has not answered, the signal that the router has
acted on and not yet published, and the heartbeats that the watchdog has been given and not yet
taken.  A `ServiceInput` is one of the parts going on, so that a run may have them in any order.

When the parts go on one after the other without delay, this is the bridge as it is driven
otherwise: by `run_routing` the router has then caught up, and by `run_routing_halt` it has ended
its routing.
-/

namespace Greenhouse

namespace Bridge

/-- A bridge that has not been started. -/
def unstarted (debounce window delay : Nat) : Bridge :=
  ⟨[], .ofDebounce debounce, .ofWindow window, .ofDelay delay, .empty, none⟩

/-- Every configuration that can be used gives such a bridge. -/
theorem eq_unstarted_of_ofConfig {c : Config} {b : Bridge} (h : ofConfig c = .ok b) :
  b = unstarted c.debounce c.window c.backend.reconnectDelay
  := by
  obtain ⟨_, _, h⟩ := bind_eq_ok.mp h
  obtain ⟨_, _, h⟩ := bind_eq_ok.mp h
  apply (Except.ok.inj h).symm

/-- An effect of the channel is counted, or the dispatcher hears of it. -/
def absorb (b : Bridge) : ChannelEffect → Bridge × List Effect
  | .count counter => (b, [.count counter])
  | .answer ticket result => b.answered ticket result
  | .signal _ | .dial _ | .wrote _ _ | .stopped => (b, [])

/-- Effects of the channel in a row. -/
def absorbAll (b : Bridge) : List ChannelEffect → Bridge × List Effect
  | [] => (b, [])
  | effect :: rest =>
    let (b, effects) := b.absorb effect
    let (b, more) := b.absorbAll rest
    (b, effects ++ more)

theorem absorbAll_cons (b : Bridge) (effect : ChannelEffect) (rest : List ChannelEffect) :
  b.absorbAll (effect :: rest)
    = (((b.absorb effect).1.absorbAll rest).1,
        (b.absorb effect).2 ++ ((b.absorb effect).1.absorbAll rest).2)
  := rfl

theorem absorb_fst (b : Bridge) (effect : ChannelEffect) :
  (b.absorb effect).1 = { b with dispatcher := (b.absorb effect).1.dispatcher }
  := by
  cases effect <;> rfl

/-- Only the dispatcher changes. -/
theorem absorbAll_fst (b : Bridge) (effects : List ChannelEffect) :
  (b.absorbAll effects).1 = { b with dispatcher := (b.absorbAll effects).1.dispatcher }
  := by
  induction effects generalizing b with
  | nil => rfl
  | cons effect rest ih =>
      rw [absorbAll_cons, ih, absorb_fst]

theorem absorb_events (b : Bridge) (effect : ChannelEffect) :
  (b.absorb effect).2.filterMap Effect.event? = []
  := by
  cases effect with
  | answer ticket result =>
      simp only [absorb, answered, Dispatcher.answer]
      split
      · cases result <;> rfl
      · rfl
  | count | signal | dial | wrote | stopped => rfl

/-- Nothing is published. -/
theorem absorbAll_events (b : Bridge) (effects : List ChannelEffect) :
  (b.absorbAll effects).2.filterMap Effect.event? = []
  := by
  induction effects generalizing b with
  | nil => rfl
  | cons effect rest ih =>
      rw [absorbAll_cons, List.filterMap_append, absorb_events, ih]
      rfl

/-- The router does not look at what is waiting behind the signal it has taken. -/
theorem route_with_inbox (b : Bridge) (now : Nat) (signal : Signal) (inbox : Option (List Signal)) :
  { b with inbox }.route now signal
    = ({ (b.route now signal).1 with inbox }, (b.route now signal).2)
  := by
  cases signal with
  | state state => rfl
  | inbound frame =>
      simp only [route]
      cases frame.classify <;> rfl

theorem routeAll_with_inbox (b : Bridge) (now : Nat) (signals : List Signal)
    (inbox : Option (List Signal)) :
  { b with inbox }.routeAll now signals
    = ({ (b.routeAll now signals).1 with inbox }, (b.routeAll now signals).2)
  := by
  induction signals generalizing b with
  | nil => rfl
  | cons signal rest ih => simp only [routeAll, route_with_inbox, ih]

/-- The reply to an order changes nothing but the registry. -/
theorem finish_fst (b : Bridge) (now : Nat) (o : Order) (reply : Reply) :
  (b.finish now o reply).1 = { b with registry := (b.finish now o reply).1.registry }
  := by
  unfold finish
  split
  · rfl
  · rfl
  · apply b.accept_registry

end Bridge

/-- A bridge at work. -/
structure Service where
  bridge : Bridge
  /-- The orders that have not been answered, with their numbers. -/
  orders : List (Nat × Order)
  /-- The number of the next order. -/
  fresh : Nat
  /-- The signal that the router has acted on and not published. -/
  inHand : Option Signal
  /-- The heartbeats that the watchdog has been given and not taken. -/
  beats : List Heartbeat

/-- A part of the bridge goes on. -/
inductive ServiceInput where
  /-- The bridge is to run. -/
  | start
  /-- A call of `stop` ends, once the router has nothing left to do. -/
  | halt
  /-- Something happens to the channel. -/
  | channel (x : ChannelInput)
  /-- The operator gives a command. -/
  | submit (command : Command)
  /-- The router takes the next signal and acts on it. -/
  | take
  /-- The router publishes the signal that it has acted on. -/
  | pass
  /-- The watchdog takes the next heartbeat. -/
  | beat
  /-- Time has passed for the watchdog. -/
  | tick
  /-- The operator gives an order. -/
  | order (w : Wish)
  /-- The reply to the order with this number arrives. -/
  | reply (order : Nat) (reply : Reply)
  /-- Something happens to the settings that are being edited. -/
  | settings (x : AutosaveInput)

/-- Whether an input goes to the channel. -/
def ServiceInput.drivesChannel : ServiceInput → Bool
  | .channel _ | .submit _ => true
  | .start | .halt | .take | .pass | .beat | .tick | .order _ | .reply _ _ | .settings _ => false

namespace Service

/-- A bridge before anybody has done anything. -/
def ofBridge (b : Bridge) : Service := ⟨b, [], 0, none, []⟩

/-- What the channel does on an input. -/
def channelEffects (s : Service) (now : Nat) : ServiceInput → List ChannelEffect
  | .start => (s.bridge.start now).2
  | .channel x => (s.bridge.drive now x).2
  | .submit command => (s.bridge.submit command).2.2
  | _ => []

/-- The signal that the router would take. -/
def next? (s : Service) : Option (Signal × List Signal) :=
  match s.inHand, s.bridge.inbox with
  | none, some (signal :: rest) => some (signal, rest)
  | _, _ => none

/-- Whether the router is there and has nothing left to do. -/
def isDrained (s : Service) : Bool := s.inHand.isNone && s.bridge.inbox == some []

/-- A heartbeat is given to the watchdog, which only takes it while it is running. -/
def feed (s : Service) (beat : Heartbeat) : Service :=
  if s.bridge.watchdog.running.isSome then { s with beats := s.beats ++ [beat] } else s

/-- What the router does with a signal before it publishes it. -/
def act (s : Service) (now : Nat) : Signal → Service
  | .state _ => s
  | .inbound frame =>
    match frame.classify with
    | .heartbeat beat => s.feed beat
    | .telemetry =>
      { s with
        bridge := { s.bridge with registry := s.bridge.registry.applyReadings frame.readings now } }
    | .workflow | .other => s

/-- The watchdog is given something. -/
def watch (s : Service) (now : Nat) (x : WatchdogInput) : Service × List Effect :=
  let (watchdog, effects) := s.bridge.watchdog.step now x
  ({ s with bridge := { s.bridge with watchdog } }, effects)

/-- The event that passes a signal on. -/
def eventOf : Signal → Event
  | .state state => .connection state
  | .inbound frame => .telemetry frame

/-- What an input does. -/
def step (s : Service) (now : Nat) : ServiceInput → Service × List Effect
  | .start =>
    let (bridge, effects) := (s.bridge.start now).1.absorbAll (s.bridge.start now).2
    ({ s with bridge }, effects)
  | .halt =>
    if s.isDrained then
      let (s, effects) := s.watch now .stop
      ({ s with bridge := { s.bridge with inbox := none }, beats := [] }, effects)
    else (s, [])
  | .channel x =>
    let (bridge, effects) := (s.bridge.drive now x).1.absorbAll (s.bridge.drive now x).2
    ({ s with bridge }, effects)
  | .submit command =>
    let (bridge, effects) := (s.bridge.submit command).1.absorbAll (s.bridge.submit command).2.2
    ({ s with bridge }, effects)
  | .take =>
    match s.next? with
    | some (signal, rest) =>
      let s := s.act now signal
      ({ s with bridge := { s.bridge with inbox := some rest }, inHand := some signal }, [])
    | none => (s, [])
  | .pass =>
    match s.inHand with
    | some signal => ({ s with inHand := none }, [.publish (eventOf signal)])
    | none => (s, [])
  | .beat =>
    match s.beats with
    | beat :: rest => { s with beats := rest }.watch now (.beat beat)
    | [] => (s, [])
  | .tick => s.watch now .tick
  | .order w =>
    ({ s with orders := s.orders ++ [(s.fresh, w.order s.bridge)], fresh := s.fresh + 1 }, [])
  | .reply order reply =>
    match s.orders.find? fun o => o.1 = order with
    | some (_, o) =>
      let (bridge, effects, _) := s.bridge.finish now o reply
      ({ s with bridge, orders := s.orders.filter fun o => o.1 ≠ order }, effects)
    | none => (s, [])
  | .settings x =>
    let (autosave, _, effects) := s.bridge.autosave.step x
    ({ s with bridge := { s.bridge with autosave } }, effects)

/-- The service after a run of inputs at given times, and all effects. -/
def run (s : Service) : List (Nat × ServiceInput) → Service × List Effect
  | [] => (s, [])
  | (now, x) :: rest =>
    let (s, effects) := s.step now x
    let (s, more) := s.run rest
    (s, effects ++ more)

/-! ### What the parts leave as it is -/

section
variable (s : Service) (now : Nat)

/-- An input to the channel leaves everything but the channel, the dispatcher and the inbox. -/
theorem step_of_drivesChannel {x : ServiceInput} (hx : x.drivesChannel = true) :
  (s.step now x).1
    = { s with
        bridge := { s.bridge with
          channel := (s.step now x).1.bridge.channel
          dispatcher := (s.step now x).1.bridge.dispatcher
          inbox := (s.step now x).1.bridge.inbox } }
  := by
  cases x with
  | channel | submit =>
      simp only [step]
      rw [Bridge.absorbAll_fst]
      rfl
  | start | halt | take | pass | beat | tick | order | reply | settings => nomatch hx

/-- A bridge that is running stays as it is, and one that is not begins to listen to the channel. -/
theorem step_start :
  s.step now .start
    = if s.bridge.inbox.isSome then (s, [])
      else
        ({ s with
          bridge := { s.bridge with
            watchdog := (s.bridge.watchdog.step now .start).1
            channel := s.bridge.channel.connect
            inbox := some [] } }, [])
  := by
  cases hinbox : s.bridge.inbox with
  | some inbox => simp [step, Bridge.start, hinbox, Bridge.absorbAll]
  | none => simp [step, Bridge.start, hinbox, Bridge.drive, Bridge.hear, Channel.step,
      Bridge.absorbAll]

end

/-! ### Who publishes what -/

end Service

/-- The parts of a bridge that publish events. -/
inductive Publisher where
  | router
  | watchdog
  /-- Whoever deals with the replies to orders. -/
  | orders
  | settings

/-- The part of the bridge that an event comes from. -/
def Event.publisher : Event → Publisher
  | .connection _ | .telemetry _ => .router
  | .liveness _ => .watchdog
  | .overrideEngaged _ _ | .overrideReleased _ | .commandRejected _ => .orders
  | .settingsSaved _ _ | .settingsFailed _ _ => .settings

/-- The part of the bridge that may publish something when it goes on. -/
def ServiceInput.publisher? : ServiceInput → Option Publisher
  | .pass => some .router
  | .beat | .tick => some .watchdog
  | .reply _ _ => some .orders
  | .settings _ => some .settings
  | .start | .halt | .channel _ | .submit _ | .take | .order _ => none

theorem Watchdog.publisher_of_mem_step (w : Watchdog) (now : Nat) (x : WatchdogInput) {e : Event}
    (h : .publish e ∈ (w.step now x).2) :
  e.publisher = .watchdog
  := by
  have hannounce {changed : Bool} {record : LivenessRecord Nat} {counts : List Counter}
      (h : .publish e ∈ announce changed record counts) : e = .liveness record := by
    cases changed with
    | false => cases h
    | true => simpa [announce] using h
  cases x with
  | start =>
      simp only [step] at h
      split at h <;> cases h
  | stop => cases h
  | beat beat =>
      simp only [step] at h
      split at h
      · rw [hannounce h]
        rfl
      · cases h
  | tick =>
      simp only [step, expire] at h
      split at h
      · split at h
        · rw [hannounce h]
          rfl
        · cases h
      · cases h

theorem Autosave.publisher_of_mem_step {a : Autosave} {x : AutosaveInput} {e : Event}
    (h : .publish e ∈ (a.step x).2.2) :
  e.publisher = .settings
  := by
  cases x with
  | edit now name field value => nomatch h
  | flush name => nomatch h
  | fire timer =>
      simp only [step] at h
      split at h <;> nomatch h
  | answer save reply =>
      simp only [step] at h
      split at h
      · nomatch h
      · next s _ =>
          simp only [answer] at h
          cases houtcome : s.outcome reply with
          | error cause =>
              obtain rfl : e = .settingsFailed s.name cause.message := by
                simpa [houtcome, announce] using h
              rfl
          | ok bcc =>
              obtain rfl : e = .settingsSaved s.name bcc := by simpa [houtcome, announce] using h
              rfl

theorem Bridge.publisher_of_mem_finish {b : Bridge} {now : Nat} {o : Order} {reply : Reply}
    {e : Event} (h : .publish e ∈ (b.finish now o reply).2.1) :
  e.publisher = .orders
  := by
  unfold finish at h
  split at h
  · cases h
  · obtain rfl := Effect.publish.inj (List.mem_singleton.mp h)
    rfl
  · cases o with
    | set name value | toggle name value =>
        simp only [accept, hold] at h
        split at h
        · obtain rfl := Effect.publish.inj (List.mem_singleton.mp h)
          rfl
        · cases h
    | release name =>
        simp only [accept] at h
        split at h
        · obtain rfl := Effect.publish.inj (List.mem_singleton.mp h)
          rfl
        · cases h
    | releaseAll =>
        obtain ⟨name, _, heq⟩ := List.mem_map.mp h
        obtain rfl := Effect.publish.inj heq
        rfl
    | goal text => cases h

namespace Service

/-- Every event comes from the part of the bridge that went on. -/
theorem publisher_of_mem_step {s : Service} {now : Nat} {x : ServiceInput} {e : Event}
    (h : .publish e ∈ (s.step now x).2) :
  x.publisher? = some e.publisher
  := by
  have habsorb {b : Bridge} {effects : List ChannelEffect} :
      .publish e ∉ (b.absorbAll effects).2 := by
    intro hmem
    have hnone := List.filterMap_eq_nil_iff.mp (b.absorbAll_events effects) _ hmem
    cases hnone
  cases x with
  | start | channel | submit => apply absurd h habsorb
  | halt =>
      simp only [step] at h
      split at h <;> cases h
  | take =>
      simp only [step] at h
      split at h <;> cases h
  | pass =>
      simp only [step] at h
      split at h
      · next signal _ =>
          obtain rfl := Effect.publish.inj (List.mem_singleton.mp h)
          cases signal <;> rfl
      · cases h
  | beat =>
      simp only [step] at h
      split at h
      · next beat _ _ =>
          rw [s.bridge.watchdog.publisher_of_mem_step now (.beat beat) h]
          rfl
      · cases h
  | tick =>
      rw [s.bridge.watchdog.publisher_of_mem_step now .tick h]
      rfl
  | order w => cases h
  | reply order reply =>
      simp only [step] at h
      split at h
      · rw [Bridge.publisher_of_mem_finish h]
        rfl
      · cases h
  | settings x =>
      rw [Autosave.publisher_of_mem_step h]
      rfl

/-- What is only said in the events of one part is not said when another part goes on. -/
theorem filterMap_event?_eq_nil {α : Type} {f : Event → Option α} {p : Publisher}
    (hf : ∀ e, e.publisher ≠ p → f e = none) {s : Service} {now : Nat} {x : ServiceInput}
    (hx : x.publisher? ≠ some p) :
  ((s.step now x).2.filterMap Effect.event?).filterMap f = []
  := by
  apply List.filterMap_eq_nil_iff.mpr
  intro e he
  obtain ⟨effect, heffect, heq⟩ := List.mem_filterMap.mp he
  apply hf
  intro hp
  apply hx
  cases effect with
  | publish event =>
      obtain rfl := Option.some.inj heq
      rw [publisher_of_mem_step heffect, hp]
  | count counter => nomatch heq

/-! ### Runs -/

/-- The router and the watchdog go on without delay, for as many signals as there are. -/
def routing (now : Nat) (signals : List Signal) : List (Nat × ServiceInput) :=
  signals.flatMap fun _ => [(now, .take), (now, .pass), (now, .beat)]

section
variable (s : Service) (now : Nat)

theorem run_cons (x : ServiceInput) (rest : List (Nat × ServiceInput)) :
  s.run ((now, x) :: rest)
    = (((s.step now x).1.run rest).1, (s.step now x).2 ++ ((s.step now x).1.run rest).2)
  := rfl

theorem run_append (first second : List (Nat × ServiceInput)) :
  s.run (first ++ second)
    = (((s.run first).1.run second).1, (s.run first).2 ++ ((s.run first).1.run second).2)
  := by
  induction first generalizing s with
  | nil => rfl
  | cons input rest ih =>
      obtain ⟨now, x⟩ := input
      rw [List.cons_append, run_cons, run_cons, ih, List.append_assoc]

theorem run_append_singleton (inputs : List (Nat × ServiceInput)) (x : ServiceInput) :
  s.run (inputs ++ [(now, x)])
    = (((s.run inputs).1.step now x).1, (s.run inputs).2 ++ ((s.run inputs).1.step now x).2)
  := by
  rw [run_append, run_cons, run, List.append_nil]

end

/-! ### One part after the other -/

section
variable {s : Service} (now : Nat) (hhand : s.inHand = none) (hbeats : s.beats = [])
include hhand hbeats

/-- A signal that is taken and published, and then taken by the watchdog if it is a heartbeat, has
been routed. -/
theorem run_take_pass_beat {signal : Signal} {rest : List Signal}
    (hinbox : s.bridge.inbox = some (signal :: rest)) :
  s.run [(now, .take), (now, .pass), (now, .beat)]
    = ({ s with bridge := { (s.bridge.route now signal).1 with inbox := some rest } },
        (s.bridge.route now signal).2)
  := by
  obtain ⟨b, orders, fresh, inHand, beats⟩ := s
  obtain rfl := hhand
  obtain rfl := hbeats
  have hnext : next? ⟨b, orders, fresh, none, []⟩ = some (signal, rest) := by
    simp only [next?]
    rw [hinbox]
  simp only [run, step, hnext]
  cases signal with
  | state state => rfl
  | inbound frame =>
      simp only [act, Bridge.route]
      cases frame.classify with
      | heartbeat beat =>
          by_cases hrunning : b.watchdog.running.isSome = true
          · simp [feed, hrunning, watch, eventOf]
          · simp [feed, hrunning, eventOf, Watchdog.step]
      | telemetry => rfl
      | workflow => rfl
      | other => rfl

/-- The router has caught up when it has gone on for as many signals as were waiting. -/
theorem run_routing {inbox : List Signal} (hinbox : s.bridge.inbox = some inbox) :
  s.run (routing now inbox)
    = ({ s with bridge := (s.bridge.catchUp now).1 }, (s.bridge.catchUp now).2)
  := by
  rw [Bridge.catchUp, hinbox]
  induction inbox generalizing s with
  | nil =>
      simp only [routing, List.flatMap_nil, run, Option.map_some, Option.getD_some,
        Bridge.routeAll]
      rw [← hinbox]
  | cons signal rest ih =>
      have hfirst := run_take_pass_beat now hhand hbeats hinbox
      rw [routing, List.flatMap_cons, run_append, hfirst]
      have hrest := ih (s := { s with
        bridge := { (s.bridge.route now signal).1 with inbox := some rest } }) hhand hbeats rfl
      rw [routing] at hrest
      rw [hrest]
      simp only [Option.map_some, Option.getD_some, Bridge.routeAll, Bridge.route_with_inbox]

/-- A bridge at work that is stopped after that has ended its routing. -/
theorem run_routing_halt {inbox : List Signal} (hinbox : s.bridge.inbox = some inbox) :
  s.run (routing now inbox ++ [(now, .halt)])
    = ({ s with bridge := (s.bridge.endRouting now).1 }, (s.bridge.endRouting now).2)
  := by
  have hdrained : isDrained { s with bridge := (s.bridge.catchUp now).1 } = true := by
    simp only [isDrained, hhand, Bridge.catchUp, Bridge.routeAll_with_inbox, hinbox]
    rfl
  rw [run_append_singleton, run_routing now hhand hbeats hinbox]
  simp only [step, hdrained, if_true, watch, Bridge.endRouting, Watchdog.step, List.append_nil]
  rw [← hbeats]

end

end Service

end Greenhouse
