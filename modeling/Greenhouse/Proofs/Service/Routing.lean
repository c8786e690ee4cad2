import Greenhouse.Proofs.Service.Flow
import Greenhouse.Proofs.Watchdog.Listener

/-!
# The router keeps its traffic apart

The router hands heartbeats to the watchdog and readings to the registry, and passes everything on
to the listeners.  `Service.Routes` says what is required of a run: every signal is passed on once,
in order and not before it has had its effect; and the registry and the watchdog are as the account
of the run says, in which there are the readings of telemetry frames, the heartbeats, and no other
part of the traffic.

The main statement is that every run is like that.  So two runs that only differ in signals that do
not matter have the same registry, and the same is known and said of the backend.
-/

namespace Greenhouse

/-! ### What an account comes to -/

/-- Readings in a row are as many readings in the history, the last one first. -/
theorem RegistryHistory.registry_readings (h : RegistryHistory Nat)
    (readings : List (String × ActuatorValue)) (now : Nat) :
  registry ((readings.map fun (name, value) => (now, .telemetry name value)).reverse ++ h)
    = h.registry.applyReadings readings now
  := by
  induction readings generalizing h with
  | nil => rfl
  | cons reading rest ih =>
      obtain ⟨name, value⟩ := reading
      rw [List.map_cons, List.reverse_cons, List.append_assoc]
      apply ih ((now, .telemetry name value) :: h)

/-- The reply to an order does to the registry what the account says. -/
theorem RegistryHistory.registry_finish (h : RegistryHistory Nat) {b : Bridge}
    (hb : b.registry = h.registry) (now : Nat) (o : Order) (reply : Reply) :
  registry (((o.change? reply).map fun x => (now, x)).toList ++ h)
    = (b.finish now o reply).1.registry
  := by
  unfold Order.change? Bridge.finish
  cases o.verdict reply with
  | error cause => exact hb.symm
  | ok verdict =>
      cases verdict with
      | refused reason => exact hb.symm
      | accepted value result =>
          cases o with
          | goal text => exact hb.symm
          | set | toggle | release | releaseAll =>
              simp only [Option.map_some, Option.toList_some, List.singleton_append, registry, ← hb]
              rfl

namespace Watchdog

/-- Only `stop` ends a watchdog. -/
theorem running_step (w : Watchdog) (now : Nat) (x : WatchdogInput) (hx : x ≠ .stop)
    (h : w.running.isSome = true) :
  (w.step now x).1.running.isSome = true
  := by
  cases x with
  | start => simp [step, h]
  | stop => apply absurd rfl hx
  | beat beat => simp [step, h]
  | tick =>
      simp only [step, expire]
      split
      · split
        · split <;> rfl
        · apply h
      · apply h

/-- Heartbeats are lost on a watchdog that has been stopped. -/
theorem run_beats_of_stopped {w : Watchdog} (h : w.running = none) (now : Nat)
    (beats : List Heartbeat) :
  w.run (beats.map fun beat => (now, .beat beat)) = (w, [])
  := by
  induction beats with
  | nil => rfl
  | cons beat rest ih => simp [run_cons, step, h, ih]

end Watchdog

namespace Service

/-- Nothing is said of the backend unless the watchdog goes on. -/
theorem records_step_eq_nil (s : Service) (now : Nat) (x : ServiceInput)
    (hx : x.publisher? ≠ some .watchdog) :
  Watchdog.records (s.step now x).2 = []
  := by
  have hrecords (effects : List Effect) :
      Watchdog.records effects
        = (effects.filterMap Effect.event?).filterMap fun e => (Effect.publish e).record? := by
    rw [List.filterMap_filterMap]
    apply List.filterMap_congr
    intro e _
    cases e <;> rfl
  rw [hrecords]
  apply filterMap_event?_eq_nil _ hx
  intro e he
  cases e with
  | liveness record => apply absurd rfl he
  | connection | telemetry | overrideEngaged | overrideReleased | settingsSaved | settingsFailed
  | commandRejected => rfl

/-- While the watchdog is there, the router hands it the heartbeat that a signal is, and hands the
registry the readings that the signal carries. -/
theorem act_eq {s : Service} (h : s.bridge.watchdog.running.isSome = true) (now : Nat)
    (signal : Signal) :
  s.act now signal
    = { s with
        bridge := { s.bridge with
          registry := s.bridge.registry.applyReadings signal.readings now }
        beats := s.beats ++ signal.beat?.toList }
  := by
  cases signal with
  | state state => simp [act, Signal.readings, Signal.beat?, Registry.applyReadings]
  | inbound frame =>
      simp only [act, Signal.readings, Signal.beat?]
      obtain ⟨hbeat, hreadings, hclass⟩ | ⟨hbeat, hreadings, hclass⟩
        | ⟨hbeat, hreadings, hclass | hclass⟩ := frame.classify_cases
      · simp [hbeat, hreadings, hclass, feed, h, Registry.applyReadings]
      · simp [hbeat, hreadings, hclass]
      · simp [hbeat, hreadings, hclass, Registry.applyReadings]
      · simp [hbeat, hreadings, hclass, Registry.applyReadings]

end Service

/-! ### The account is kept -/

namespace Account

/-- The registry and the watchdog are as the account says, and so is what has been published about
the backend; and the watchdog is there as long as the router is. -/
structure Fits (window : Nat) (a : Account) (s : Service) (effects : List Effect) : Prop where
  registry : s.bridge.registry = a.changes.registry
  watchdog : s.bridge.watchdog = ((Watchdog.ofWindow window).run a.given).1
  records : Watchdog.records effects
    = Watchdog.records ((Watchdog.ofWindow window).run a.given).2
  beats : s.beats = a.beats
  orders : s.orders = a.orders
  fresh : s.fresh = a.fresh
  watched : s.bridge.inbox.isSome = true → s.bridge.watchdog.running.isSome = true

section
variable {window : Nat} {a : Account} {s : Service} {effects : List Effect}

/-- What the watchdog is given goes into the account. -/
theorem Fits.watch (h : Fits window a s effects) (now : Nat) (x : WatchdogInput) :
  (s.bridge.watchdog.step now x).1 = ((Watchdog.ofWindow window).run (a.given ++ [(now, x)])).1
    ∧ Watchdog.records (effects ++ (s.bridge.watchdog.step now x).2)
      = Watchdog.records ((Watchdog.ofWindow window).run (a.given ++ [(now, x)])).2
  := by
  rw [Watchdog.run_append_singleton, Watchdog.records_append, Watchdog.records_append, h.watchdog,
    h.records]
  constructor <;> rfl

/-- The account stays as it is when the part that goes on has nothing to do with it. -/
theorem Fits.of_eq {s' : Service} {more : List Effect} (h : Fits window a s effects)
    (hregistry : s'.bridge.registry = s.bridge.registry)
    (hwatchdog : s'.bridge.watchdog = s.bridge.watchdog)
    (hbeats : s'.beats = s.beats) (horders : s'.orders = s.orders) (hfresh : s'.fresh = s.fresh)
    (hinbox : s'.bridge.inbox.isSome = s.bridge.inbox.isSome) (hmore : Watchdog.records more = []) :
  Fits window a s' (effects ++ more)
  := by
  constructor
  · rw [hregistry, h.registry]
  · rw [hwatchdog, h.watchdog]
  · rw [Watchdog.records_append, hmore, List.append_nil, h.records]
  · rw [hbeats, h.beats]
  · rw [horders, h.orders]
  · rw [hfresh, h.fresh]
  · rw [hinbox, hwatchdog]
    apply h.watched

/-- A bridge that is started starts the watchdog, which is running already if the bridge is. -/
theorem Fits.start (h : Fits window a s effects) (now : Nat) :
  Fits window (a.step now .start) (s.step now .start).1 (effects ++ (s.step now .start).2)
  := by
  obtain ⟨hwatchdog, hrecords⟩ := h.watch now .start
  have hquiet : (s.bridge.watchdog.step now .start).2 = [] := by
    simp only [Watchdog.step]
    split <;> rfl
  rw [hquiet] at hrecords
  rw [Service.step_start]
  cases hinbox : s.bridge.inbox with
  | some inbox =>
      have hsame : (s.bridge.watchdog.step now .start).1 = s.bridge.watchdog := by
        simp [Watchdog.step, h.watched (by rw [hinbox]; rfl)]
      rw [hsame] at hwatchdog
      exact ⟨h.registry, hwatchdog, hrecords, h.beats, h.orders, h.fresh, h.watched⟩
  | none =>
      have hrunning : (s.bridge.watchdog.step now .start).1.running.isSome = true := by
        simp only [Watchdog.step]
        split
        · next hrunning => apply hrunning
        · rfl
      exact ⟨h.registry, hwatchdog, hrecords, h.beats, h.orders, h.fresh, fun _ => hrunning⟩

/-- A router that ends stops the watchdog, and what the watchdog has not taken comes too late. -/
theorem Fits.halt (h : Fits window a s effects) (now : Nat) (hdrained : s.isDrained = true) :
  Fits window (a.step now .halt) (s.step now .halt).1 (effects ++ (s.step now .halt).2)
  := by
  obtain ⟨hwatchdog, hrecords⟩ := h.watch now .stop
  have hgiven : (Watchdog.ofWindow window).run
        (a.given ++ (now, .stop) :: a.beats.map fun beat => (now, .beat beat))
      = (Watchdog.ofWindow window).run (a.given ++ [(now, .stop)]) := by
    rw [← List.singleton_append, ← List.append_assoc, Watchdog.run_append,
      Watchdog.run_beats_of_stopped]
    · simp
    · rw [← hwatchdog]
      rfl
  simp only [Service.step, hdrained, if_true, Service.watch, Account.step]
  constructor
  · apply h.registry
  · rw [hgiven, ← hwatchdog]
  · rw [hgiven, ← hrecords]
  · rfl
  · apply h.orders
  · apply h.fresh
  · rintro ⟨⟩

/-- A signal that is taken has its effect. -/
theorem Fits.take (h : Fits window a s effects) (now : Nat) {signal : Signal} {rest : List Signal}
    (hnext : s.next? = some (signal, rest)) :
  Fits window (a.step now (.acted signal)) (s.step now .take).1 (effects ++ (s.step now .take).2)
  := by
  obtain ⟨_, hinbox⟩ := s.next?_eq_some.mp hnext
  have hrunning := h.watched (by rw [hinbox]; rfl)
  simp only [Service.step, hnext, Service.act_eq hrunning, Account.step]
  constructor
  · simp only
    rw [RegistryHistory.registry_readings, h.registry]
  · apply h.watchdog
  · rw [List.append_nil, h.records]
  · rw [← h.beats]
  · apply h.orders
  · apply h.fresh
  · intro _
    apply hrunning

/-- The watchdog takes the first heartbeat that it has not taken, if there is one. -/
theorem Fits.beat (h : Fits window a s effects) (now : Nat) :
  Fits window (a.step now .beat) (s.step now .beat).1 (effects ++ (s.step now .beat).2)
  := by
  cases hbeats : s.beats with
  | nil =>
      have hnone : a.beats = [] := h.beats.symm.trans hbeats
      simp only [Service.step, hbeats, Account.step, hnone]
      apply h.of_eq <;> rfl
  | cons beat rest =>
      have hsome : a.beats = beat :: rest := h.beats.symm.trans hbeats
      obtain ⟨hwatchdog, hrecords⟩ := h.watch now (.beat beat)
      simp only [Service.step, hbeats, Account.step, hsome]
      constructor
      · apply h.registry
      · apply hwatchdog
      · apply hrecords
      · rfl
      · apply h.orders
      · apply h.fresh
      · intro hinbox
        apply s.bridge.watchdog.running_step now (.beat beat) (by rintro ⟨⟩) (h.watched hinbox)

/-- A reply that is expected does to the registry what its order asks for. -/
theorem Fits.reply (h : Fits window a s effects) (now order : Nat) (reply : Reply) :
  Fits window (a.step now (.reply order reply)) (s.step now (.reply order reply)).1
    (effects ++ (s.step now (.reply order reply)).2)
  := by
  have hmore := s.records_step_eq_nil now (.reply order reply) nofun
  simp only [Service.step, Account.step, ← h.orders] at hmore ⊢
  cases hfind : s.orders.find? fun o => o.1 = order with
  | none => apply h.of_eq <;> rfl
  | some found =>
      obtain ⟨n, o⟩ := found
      rw [hfind] at hmore
      constructor
      · apply (RegistryHistory.registry_finish _ h.registry now o reply).symm
      · simp only
        rw [Bridge.finish_fst, h.watchdog]
      · rw [Watchdog.records_append, hmore, List.append_nil, h.records]
      · apply h.beats
      · rfl
      · apply h.fresh
      · simp only
        rw [Bridge.finish_fst]
        apply h.watched

/-- The account is kept, whatever goes on. -/
theorem Fits.step (h : Fits window a s effects) (now : Nat) (x : ServiceInput) :
  Fits window ((s.noted? x).elim a (a.step now)) (s.step now x).1 (effects ++ (s.step now x).2)
  := by
  have hdriven (hx : x.drivesChannel = true) := s.step_of_drivesChannel now hx
  cases x with
  | start => apply h.start
  | halt =>
      cases hdrained : s.isDrained with
      | true =>
          simp only [Service.noted?, hdrained, if_true]
          apply h.halt now hdrained
      | false =>
          simp only [Service.step, Service.noted?, hdrained, Bool.false_eq_true, if_false]
          apply h.of_eq <;> rfl
  | channel | submit =>
      apply h.of_eq
      · rw [hdriven rfl]
      · rw [hdriven rfl]
      · rw [hdriven rfl]
      · rw [hdriven rfl]
      · rw [hdriven rfl]
      · rw [s.inbox_step_of_drivesChannel now rfl, Option.isSome_map]
      · apply s.records_step_eq_nil now _ (by rintro ⟨⟩)
  | take =>
      cases hnext : s.next? with
      | none =>
          simp only [Service.step, Service.noted?, hnext]
          apply h.of_eq <;> rfl
      | some next =>
          simp only [Service.noted?, hnext]
          apply h.take now hnext
  | pass =>
      have hmore := s.records_step_eq_nil now .pass (by rintro ⟨⟩)
      apply h.of_eq _ _ _ _ _ _ hmore
      all_goals simp only [Service.step]
      all_goals split <;> rfl
  | beat => apply h.beat
  | tick =>
      obtain ⟨hwatchdog, hrecords⟩ := h.watch now .tick
      constructor
      · apply h.registry
      · apply hwatchdog
      · apply hrecords
      · apply h.beats
      · apply h.orders
      · apply h.fresh
      · intro hinbox
        apply s.bridge.watchdog.running_step now .tick (by rintro ⟨⟩) (h.watched hinbox)
  | order w =>
      simp only [Service.step, Service.noted?, Option.elim_some, Account.step, List.append_nil]
      constructor
      · apply h.registry
      · apply h.watchdog
      · apply h.records
      · apply h.beats
      · rw [w.order_eq, h.orders, h.fresh, h.registry]
      · rw [h.fresh]
      · apply h.watched
  | reply order reply => apply h.reply
  | settings y =>
      have hmore := s.records_step_eq_nil now (.settings y) (by rintro ⟨⟩)
      apply h.of_eq _ _ _ _ _ _ hmore
      all_goals rfl

end

/-- The account is kept in every run. -/
theorem fits_run {window : Nat} {s : Service} (h : Fits window empty s [])
    (inputs : List (Nat × ServiceInput)) :
  Fits window (of (s.chronicle inputs)) (s.run inputs).1 (s.run inputs).2
  := by
  induction inputs using List.reverseRecOn with
  | nil => apply h
  | append_singleton inputs input ih =>
      obtain ⟨now, x⟩ := input
      have hstep := ih.step now x
      rw [Service.run_append_singleton, Service.chronicle_append_singleton]
      cases hentry : (s.run inputs).1.noted? x with
      | none =>
          rw [hentry] at hstep
          simpa using hstep
      | some e =>
          rw [hentry] at hstep
          rw [Option.map_some, Option.toList_some, of_append_singleton]
          apply hstep

end Account

namespace Service

/-! ### Every run -/

/-- What is required of the router in a run of a bridge that began unstarted, with a watchdog of a
given window. -/
structure Routes (window : Nat) (s : Service) (inputs : List (Nat × ServiceInput)) : Prop where
  /-- Every signal reported is acted on once and in order, or it is still waiting. -/
  acted : s.reported inputs
    = (s.chronicle inputs).acted.map Prod.snd ++ (s.run inputs).1.bridge.inbox.getD []
  /-- Every signal acted on is published once and in order, and no signal before that; at most the
  last one is still in hand. -/
  passed : (s.chronicle inputs).acted.map Prod.snd
    = passed (s.run inputs).2 ++ (s.run inputs).1.inHand.toList
  /-- When the router has ended, everything has been published. -/
  ended : (s.run inputs).1.bridge.inbox = none → Service.passed (s.run inputs).2 = s.reported inputs
  /-- The router can be brought to its end, and everything that was reported is published then. -/
  ends : ∀ now,
    let ending := inputs ++ (s.run inputs).1.ending now
    (s.run ending).1.bridge.inbox = none ∧ Service.passed (s.run ending).2 = s.reported inputs
  /-- The watchdog is as the account says, and so is what has been published about the backend. -/
  watchdog : let a := Account.of (s.chronicle inputs)
    (s.run inputs).1.bridge.watchdog = ((Watchdog.ofWindow window).run a.given).1
      ∧ Watchdog.records (s.run inputs).2
        = Watchdog.records ((Watchdog.ofWindow window).run a.given).2
  /-- The watchdog is given the heartbeats that the router has acted on, in order and as they are
  decoded, and no others; the last ones may be waiting. -/
  heartbeats : let a := Account.of (s.chronicle inputs)
    a.heartbeats ++ (s.run inputs).1.beats
      = (s.chronicle inputs).acted.filterMap fun (_, signal) => signal.beat?
  /-- The registry is as the account says. -/
  registry : (s.run inputs).1.bridge.registry = (Account.of (s.chronicle inputs)).changes.registry
  /-- The readings in the account are those that the router has acted on, in order and at the same
  times. -/
  readings : (Account.of (s.chronicle inputs)).readings
    = (s.chronicle inputs).acted.flatMap fun (now, signal) =>
        signal.readings.map fun reading => (now, reading)
  /-- A text that is no frame leaves everything as it is, and nothing is published. -/
  malformed : ∀ now id text e, Frame.parse text = .error e →
    let done := (s.run inputs).1.step now (.channel (.received id text))
    done.1 = (s.run inputs).1 ∧ done.2.filterMap Effect.event? = []
  /-- Another run that differs only in signals that do not matter comes to the same. -/
  same : ∀ inputs', (s.chronicle inputs').relevant = (s.chronicle inputs).relevant →
    (s.run inputs').1.bridge.registry = (s.run inputs).1.bridge.registry
      ∧ (s.run inputs').1.bridge.watchdog = (s.run inputs).1.bridge.watchdog
      ∧ Watchdog.records (s.run inputs').2 = Watchdog.records (s.run inputs).2

/-- A text that is no frame leaves everything as it is. -/
theorem step_malformed (s : Service) (now id : Nat) {text : String} {e : FrameError}
    (h : Frame.parse text = .error e) :
  (s.step now (.channel (.received id text))).1 = s
    ∧ (s.step now (.channel (.received id text))).2.filterMap Effect.event? = []
  := by
  have hchannel : (s.bridge.channel.step now (.received id text)).1 = s.bridge.channel
      ∧ ((s.bridge.channel.step now (.received id text)).2 = []
        ∨ (s.bridge.channel.step now (.received id text)).2 = [.count .framesMalformed]) := by
    simp only [Channel.step]
    split
    · rw [h]
      exact ⟨rfl, .inr rfl⟩
    · exact ⟨rfl, .inl rfl⟩
  obtain ⟨b, orders, fresh, inHand, beats⟩ := s
  obtain ⟨registry, autosave, watchdog, channel, dispatcher, inbox⟩ := b
  have hunheard : [ChannelEffect.count .framesMalformed].filterMap ChannelEffect.signal? = [] := rfl
  obtain ⟨hsame, heffects | heffects⟩ := hchannel
  · simp only at hsame heffects
    simp [step, Bridge.drive, hsame, heffects, Bridge.hear, Bridge.absorbAll]
  · simp only at hsame heffects
    simp [step, Bridge.drive, hsame, heffects, Bridge.hear, hunheard, Bridge.absorbAll,
      Bridge.absorb, Effect.event?]

/-- In every run of a bridge, with whatever orders, replies and other things between the signals,
the router routes as is required of it. -/
theorem routes (debounce window delay : Nat) (inputs : List (Nat × ServiceInput)) :
  Routes window (ofBridge (Bridge.unstarted debounce window delay)) inputs
  := by
  let s := ofBridge (Bridge.unstarted debounce window delay)
  have hflows : Flows s [] [] [] := ⟨rfl, rfl, fun _ => rfl⟩
  have hfits : Account.Fits window .empty s [] := ⟨rfl, rfl, rfl, rfl, rfl, rfl, nofun⟩
  have hended (inputs : List (Nat × ServiceInput)) (h : (s.run inputs).1.bridge.inbox = none) :
      passed (s.run inputs).2 = s.reported inputs := by
    have hflow := flows_run hflows inputs
    rw [hflow.reported, hflow.acted, h, hflow.ended h]
    simp
  have hflow := flows_run hflows inputs
  have hfit := Account.fits_run hfits inputs
  constructor
  · apply hflow.reported
  · apply hflow.acted
  · apply hended
  · intro now
    have hend : (s.run (inputs ++ (s.run inputs).1.ending now)).1.bridge.inbox = none := by
      rw [run_append]
      apply inbox_run_ending
    use hend
    have hpassed := hended _ hend
    rw [reported_append, reported_ending, List.append_nil] at hpassed
    apply hpassed
  · exact ⟨hfit.watchdog, hfit.records⟩
  · rw [hfit.beats]
    apply Account.heartbeats_of
  · apply hfit.registry
  · apply Account.readings_of
  · intro now id text e h
    apply step_malformed _ now id h
  · intro inputs' hsame
    have hfit' := Account.fits_run hfits inputs'
    have haccount : Account.of (s.chronicle inputs') = Account.of (s.chronicle inputs) := by
      rw [← Account.of_relevant, hsame, Account.of_relevant]
    rw [haccount] at hfit'
    exact ⟨hfit'.registry.trans hfit.registry.symm, hfit'.watchdog.trans hfit.watchdog.symm,
      hfit'.records.trans hfit.records.symm⟩

/-- A run in which the channel is opened only differs from one in which it is not in a signal that
does not matter. -/
example :
  let s := ofBridge (Bridge.unstarted 1000 5000 2000)
  let inputs := [(0, .start), (1, .channel (.start 0)), (2, .take), (3, .pass), (4, .tick)]
  (s.chronicle inputs).acted = [(2, .state .connecting)]
    ∧ (s.chronicle inputs).relevant = (s.chronicle [(0, .start), (4, .tick)]).relevant
  := by
  constructor <;> rfl

end Service

end Greenhouse
