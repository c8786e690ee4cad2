import Greenhouse.Proofs.Service.Chronicle

/-!
# The flow of signals

Between the channel that reports a signal and the listeners that hear of it, a signal waits for the
router, is acted on, and is in the router's hand until it is published.  `Flows` says that no signal
is lost or doubled on this way and that none overtakes another; it is kept by everything that can go
on in a bridge.

A router ends only when it has nothing left to do.  It can always be brought to its end, by
`inbox_run_ending`, and everything has been published then.
-/

namespace Greenhouse

/-- The signal that an event passes on. -/
def Event.signal? : Event → Option Signal
  | .connection state => some (.state state)
  | .telemetry frame => some (.inbound frame)
  | .liveness _ | .overrideEngaged _ _ | .overrideReleased _ | .settingsSaved _ _
  | .settingsFailed _ _ | .commandRejected _ => none

/-- Whether the router has nothing to do with an input. -/
def ServiceInput.sparesRouter : ServiceInput → Bool
  | .beat | .tick | .order _ | .reply _ _ | .settings _ => true
  | .start | .halt | .channel _ | .submit _ | .take | .pass => false

namespace Service

/-- The signals that effects pass on, in order. -/
def passed (effects : List Effect) : List Signal :=
  (effects.filterMap Effect.event?).filterMap Event.signal?

/-- The signals that the channel reports on an input; nobody hears them unless the bridge is
running. -/
def reports (s : Service) (now : Nat) (x : ServiceInput) : List Signal :=
  if s.bridge.inbox.isSome then (s.channelEffects now x).filterMap ChannelEffect.signal? else []

/-- The signals that the channel reports in a run. -/
def reported (s : Service) : List (Nat × ServiceInput) → List Signal
  | [] => []
  | (now, x) :: rest => s.reports now x ++ (s.step now x).1.reported rest

/-! ### What the parts leave as it is -/

section
variable (s : Service) (now : Nat)

/-- What the channel reports goes to the end of the inbox, if there is one. -/
theorem inbox_step_of_drivesChannel {x : ServiceInput} (hx : x.drivesChannel = true) :
  (s.step now x).1.bridge.inbox = s.bridge.inbox.map fun inbox => inbox ++ s.reports now x
  := by
  cases x with
  | channel | submit =>
      simp only [step]
      rw [Bridge.absorbAll_fst]
      unfold reports
      cases hinbox : s.bridge.inbox <;>
        simp [Bridge.drive, Bridge.submit, Bridge.hear, hinbox, channelEffects]
  | start | halt | take | pass | beat | tick | order | reply | settings => cases hx

theorem reports_start :
  s.reports now .start = []
  := by
  unfold reports
  split
  · next hinbox => simp [channelEffects, Bridge.start, hinbox]
  · rfl

theorem reports_of_none (x : ServiceInput) (h : s.bridge.inbox = none) :
  s.reports now x = []
  := by
  rw [reports, h]
  rfl

variable {now} in
theorem reports_of_silent {x : ServiceInput} (h : s.channelEffects now x = []) :
  s.reports now x = []
  := by
  rw [reports, h]
  split <;> rfl

theorem step_of_sparesRouter {x : ServiceInput} (h : x.sparesRouter = true) :
  (s.step now x).1.bridge.inbox = s.bridge.inbox ∧ (s.step now x).1.inHand = s.inHand
  := by
  cases x with
  | beat =>
      simp only [step]
      split <;> constructor <;> rfl
  | tick | order | settings => constructor <;> rfl
  | reply order reply =>
      simp only [step]
      split
      · constructor
        · simp only
          rw [Bridge.finish_fst]
        · rfl
      · constructor <;> rfl
  | start | halt | channel | submit | take | pass => cases h

theorem isDrained_iff :
  s.isDrained = true ↔ s.inHand = none ∧ s.bridge.inbox = some []
  := by
  simp [isDrained]

theorem next?_eq_some {signal : Signal} {rest : List Signal} :
  s.next? = some (signal, rest) ↔ s.inHand = none ∧ s.bridge.inbox = some (signal :: rest)
  := by
  unfold next?
  split
  · next hhand hinbox => simp [hhand, hinbox]
  · next hnot =>
      constructor
      · nofun
      · rintro ⟨hhand, hinbox⟩
        apply absurd hinbox
        apply hnot _ _ hhand

end

/-! ### The flow of signals -/

/-- Every signal that was reported has been acted on or is still waiting, and every signal that was
acted on has been published or is in hand.  A router that has ended has nothing in hand. -/
structure Flows (s : Service) (reported acted passed : List Signal) : Prop where
  reported : reported = acted ++ s.bridge.inbox.getD []
  acted : acted = passed ++ s.inHand.toList
  ended : s.bridge.inbox = none → s.inHand = none

theorem passed_step_eq_nil {s : Service} {now : Nat} {x : ServiceInput}
    (hx : x.publisher? ≠ some .router) :
  passed (s.step now x).2 = []
  := by
  apply filterMap_event?_eq_nil _ hx
  intro e he
  cases e with
  | connection | telemetry => apply absurd rfl he
  | liveness | overrideEngaged | overrideReleased | settingsSaved | settingsFailed
  | commandRejected => rfl

/-- The signals keep flowing when more of them are reported. -/
theorem Flows.report {s s' : Service} {reported acted passed more : List Signal}
    (h : Flows s reported acted passed)
    (hinbox : s'.bridge.inbox = s.bridge.inbox.map fun inbox => inbox ++ more)
    (hmore : s.bridge.inbox = none → more = []) (hhand : s'.inHand = s.inHand) :
  Flows s' (reported ++ more) acted passed
  := by
  have hreported := h.reported
  constructor
  · cases hbefore : s.bridge.inbox with
    | none =>
        rw [hbefore] at hinbox hreported
        rw [hmore hbefore, List.append_nil, hinbox]
        apply hreported
    | some inbox =>
        rw [hbefore] at hinbox hreported
        rw [hinbox, hreported]
        apply List.append_assoc
  · rw [hhand, h.acted]
  · rw [hinbox, hhand]
    intro hnone
    apply h.ended (Option.map_eq_none_iff.mp hnone)

/-- The signals keep flowing, whatever goes on. -/
theorem Flows.step {s : Service} {reported acted passed : List Signal}
    (h : Flows s reported acted passed) (now : Nat) (x : ServiceInput) :
  Flows (s.step now x).1 (reported ++ s.reports now x)
    (acted ++ ((s.noted? x).bind Entry.signal?).toList) (passed ++ Service.passed (s.step now x).2)
  := by
  have hreported := h.reported
  have hacted := h.acted
  have hspared (hx : x.sparesRouter = true) := s.step_of_sparesRouter now hx
  have hdriven (hx : x.drivesChannel = true) :=
    And.intro (s.step_of_drivesChannel now hx) (s.inbox_step_of_drivesChannel now hx)
  cases x with
  | start =>
      rw [passed_step_eq_nil (by rintro ⟨⟩), reports_start, step_start]
      simp only [noted?, Entry.signal?, Option.bind_some, Option.toList_none, List.append_nil]
      cases hinbox : s.bridge.inbox with
      | some inbox => apply h
      | none =>
          rw [hinbox] at hreported
          constructor
          · apply hreported
          · apply hacted
          · rintro ⟨⟩
  | halt =>
      rw [passed_step_eq_nil (by rintro ⟨⟩), reports_of_silent _ rfl]
      cases hdrained : s.isDrained with
      | true =>
          obtain ⟨hhand, hinbox⟩ := s.isDrained_iff.mp hdrained
          rw [hinbox] at hreported
          simp only [Service.step, noted?, hdrained, if_true, Entry.signal?, Option.bind_some,
            Option.toList_none, List.append_nil]
          constructor
          · apply hreported
          · apply hacted
          · intro _
            apply hhand
      | false =>
          simp only [Service.step, noted?, hdrained, Bool.false_eq_true, if_false, Option.bind_none,
            Option.toList_none, List.append_nil]
          apply h
  | channel | submit =>
      rw [passed_step_eq_nil (by rintro ⟨⟩)]
      simp only [noted?, Option.bind_none, Option.toList_none, List.append_nil]
      apply h.report (hdriven rfl).2 (s.reports_of_none now _)
      rw [(hdriven rfl).1]
  | take =>
      rw [passed_step_eq_nil (by rintro ⟨⟩), reports_of_silent _ rfl]
      cases hnext : s.next? with
      | none =>
          simp only [Service.step, noted?, hnext, Option.map_none, Option.bind_none,
            Option.toList_none, List.append_nil]
          apply h
      | some next =>
          obtain ⟨signal, rest⟩ := next
          obtain ⟨hhand, hinbox⟩ := s.next?_eq_some.mp hnext
          rw [hinbox] at hreported
          rw [hhand] at hacted
          simp only [Service.step, noted?, hnext, Option.map_some, Option.bind_some, Entry.signal?,
            Option.toList_some, List.append_nil]
          constructor
          · simp [hreported]
          · simp [hacted]
          · rintro ⟨⟩
  | pass =>
      rw [reports_of_silent _ rfl]
      simp only [noted?, Option.bind_none, Option.toList_none, List.append_nil]
      cases hhand : s.inHand with
      | none =>
          simp only [Service.step, hhand, Service.passed, List.filterMap_nil, List.append_nil]
          apply h
      | some signal =>
          have hsignal : (eventOf signal).signal? = some signal := by cases signal <;> rfl
          rw [hhand] at hacted
          simp only [Service.step, hhand, Service.passed, List.filterMap_cons, List.filterMap_nil,
            Effect.event?, hsignal]
          constructor
          · apply hreported
          · simp [hacted]
          · intro _
            rfl
  | beat | tick | order | reply | settings =>
      obtain ⟨hinbox, hhand⟩ := hspared rfl
      rw [passed_step_eq_nil (by rintro ⟨⟩), reports_of_silent _ rfl]
      simp only [noted?, Entry.signal?, Option.bind_some, Option.bind_none, Option.toList_none,
        List.append_nil]
      constructor
      · rw [hinbox, hreported]
      · rw [hhand, hacted]
      · rw [hinbox, hhand]
        apply h.ended

/-! ### Whole runs -/

section
variable (s : Service)

theorem passed_append (first second : List Effect) :
  passed (first ++ second) = passed first ++ passed second
  := by
  simp [passed]

theorem reported_append (first second : List (Nat × ServiceInput)) :
  s.reported (first ++ second) = s.reported first ++ (s.run first).1.reported second
  := by
  induction first generalizing s with
  | nil => rfl
  | cons input rest ih =>
      obtain ⟨now, x⟩ := input
      simp only [List.cons_append, reported, run_cons, ih, List.append_assoc]

theorem reported_append_singleton (inputs : List (Nat × ServiceInput)) (now : Nat)
    (x : ServiceInput) :
  s.reported (inputs ++ [(now, x)]) = s.reported inputs ++ (s.run inputs).1.reports now x
  := by
  rw [reported_append, reported, reported, List.append_nil]

variable {s}

/-- The signals keep flowing in every run. -/
theorem flows_run (h : Flows s [] [] []) (inputs : List (Nat × ServiceInput)) :
  Flows (s.run inputs).1 (s.reported inputs) ((s.chronicle inputs).acted.map Prod.snd)
    (passed (s.run inputs).2)
  := by
  induction inputs using List.reverseRecOn with
  | nil => apply h
  | append_singleton inputs input ih =>
      obtain ⟨now, x⟩ := input
      have hacted : (s.chronicle (inputs ++ [(now, x)])).acted.map Prod.snd
          = (s.chronicle inputs).acted.map Prod.snd
            ++ (((s.run inputs).1.noted? x).bind Entry.signal?).toList := by
        rw [chronicle_append_singleton]
        cases (s.run inputs).1.noted? x with
        | none => simp
        | some e =>
            rw [Option.map_some, Option.toList_some, Chronicle.acted_append_singleton]
            cases hsignal : e.signal? <;> simp [hsignal]
      rw [run_append_singleton, reported_append_singleton, hacted, passed_append]
      apply ih.step

end

/-! ### The end of the router -/

/-- The router publishes what is in its hand, goes on until nothing is waiting, and ends. -/
def ending (s : Service) (now : Nat) : List (Nat × ServiceInput) :=
  (now, .pass) :: routing now (s.bridge.inbox.getD []) ++ [(now, .halt)]

/-- The channel is left alone meanwhile. -/
theorem reported_ending (s s' : Service) (now : Nat) :
  s'.reported (s.ending now) = []
  := by
  have hsilent (inputs : List (Nat × ServiceInput))
      (h : ∀ input ∈ inputs, ∀ s : Service, s.channelEffects input.1 input.2 = []) (s : Service) :
      s.reported inputs = [] := by
    induction inputs generalizing s with
    | nil => rfl
    | cons input rest ih =>
        rw [reported, reports_of_silent s (h input List.mem_cons_self s), List.nil_append]
        apply ih
        intro other hother
        apply h other (List.mem_cons_of_mem input hother)
  apply hsilent
  intro input hinput s
  simp only [ending, routing, List.cons_append, List.mem_cons, List.mem_append,
    List.mem_flatMap, List.not_mem_nil, or_false] at hinput
  obtain rfl | ⟨_, _, rfl | rfl | rfl⟩ | rfl := hinput <;> rfl

/-- A router that goes on with nothing in its hand takes everything that is waiting. -/
theorem drained_run_routing {s : Service} (now : Nat) {inbox : List Signal}
    (hhand : s.inHand = none) (hinbox : s.bridge.inbox = some inbox) :
  (s.run (routing now inbox)).1.isDrained = true
  := by
  induction inbox generalizing s with
  | nil => apply s.isDrained_iff.mpr ⟨hhand, hinbox⟩
  | cons signal rest ih =>
      have hnext : s.next? = some (signal, rest) := s.next?_eq_some.mpr ⟨hhand, hinbox⟩
      rw [routing, List.flatMap_cons, run_append]
      simp only [run]
      have hspared : ServiceInput.beat.sparesRouter = true := rfl
      have hbeat := ((s.step now .take).1.step now .pass).1.step_of_sparesRouter now hspared
      apply ih
      · rw [hbeat.2]
        simp [step, hnext]
      · rw [hbeat.1]
        simp [step, hnext]

/-- The router can be brought to its end. -/
theorem inbox_run_ending {s : Service} (now : Nat) :
  (s.run (s.ending now)).1.bridge.inbox = none
  := by
  have hpass : (s.step now .pass).1.inHand = none
      ∧ (s.step now .pass).1.bridge.inbox = s.bridge.inbox := by
    simp only [step]
    cases hhand : s.inHand <;> simp [hhand]
  rw [ending, run_append_singleton, run_cons]
  cases hinbox : s.bridge.inbox with
  | none =>
      have hleft : (s.step now .pass).1.isDrained = false := by
        simp [isDrained, hpass.2, hinbox]
      simp only [Option.getD_none, routing, List.flatMap_nil, run]
      rw [step, hleft]
      simp only [Bool.false_eq_true, if_false]
      rw [hpass.2, hinbox]
  | some inbox =>
      have hdrained := drained_run_routing now hpass.1 (hpass.2.trans hinbox)
      rw [Option.getD_some, step, hdrained]
      rfl

end Service

end Greenhouse
