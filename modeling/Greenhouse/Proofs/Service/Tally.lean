import Greenhouse.Proofs.Channel.Count
import Greenhouse.Proofs.Service.Parts

/-!
# What is counted at work

Three of the counters count events: settings that have been saved, settings that have not, and
silences of the backend.  Whoever publishes such an event counts it as well (`Effect.Tells`).  The
channel counts texts and losses, and the dispatcher counts commands.  So what a run adds to a
counter that is not one of the dispatcher's goes with the events that are published, or with what
the channel does (`Service.count_run`), and for each counter one of the two is nothing.
-/

namespace Greenhouse

/-- What is counted by an effect. -/
def Effect.counter? : Effect → Option Counter
  | .publish _ => none
  | .count k => some k

/-- What is counted by effects. -/
def Effect.counters (effects : List Effect) : List Counter := effects.filterMap Effect.counter?

/-- What is counted when an event is published. -/
def Event.counter? : Event → Option Counter
  | .settingsSaved _ _ => some .settingsFlushed
  | .settingsFailed _ _ => some .settingsFailed
  | .liveness record => if record.state = .disconnected then some .livenessTimeouts else none
  | .connection _ | .telemetry _ | .overrideEngaged _ _ | .overrideReleased _
  | .commandRejected _ => none

/-- Whether a counter counts events. -/
def Counter.isTold : Counter → Bool
  | .settingsFlushed | .settingsFailed | .livenessTimeouts => true
  | .commandsDropped | .commandsSent | .framesMalformed | .framesReceived
  | .reconnectAttempts => false

/-! ### Counts -/

theorem Counters.get_bump (c : Counters) (k other : Counter) :
  (c.bump k).get other = c.get other + if k = other then 1 else 0
  := by
  cases k <;> cases other <;> rfl

namespace Effect

theorem counters_append (effects more : List Effect) :
  counters (effects ++ more) = counters effects ++ counters more
  := List.filterMap_append

/-- The counts after effects are those before, and one more for each time that something is
counted. -/
theorem get_tally (c : Counters) (effects : List Effect) (k : Counter) :
  (tally c effects).get k = c.get k + (counters effects).count k
  := by
  induction effects generalizing c with
  | nil => rfl
  | cons effect effects ih =>
      cases effect with
      | publish e => apply ih
      | count other =>
          have hcounters : counters (.count other :: effects) = other :: counters effects := rfl
          rw [hcounters, List.count_cons]
          apply (ih (c.bump other)).trans
          rw [c.get_bump]
          simp only [beq_iff_eq]
          omega

end Effect

/-! ### What is counted with an event -/

theorem Event.isTold_of_counter? {e : Event} {k : Counter} (h : e.counter? = some k) :
  k.isTold = true
  := by
  cases e with
  | settingsSaved | settingsFailed =>
      obtain rfl := Option.some.inj h
      rfl
  | liveness record =>
      simp only [counter?] at h
      split at h
      · obtain rfl := Option.some.inj h
        rfl
      · nomatch h
  | connection | telemetry | overrideEngaged | overrideReleased | commandRejected => nomatch h

/-- What is counted by effects is what goes with the events that they publish. -/
def Effect.Tells (effects : List Effect) : Prop :=
  counters effects = (effects.filterMap Effect.event?).filterMap Event.counter?

theorem Watchdog.tells_step (w : Watchdog) (now : Nat) (x : WatchdogInput) :
  Effect.Tells (w.step now x).2
  := by
  cases x with
  | start =>
      simp only [step]
      split <;> rfl
  | stop => rfl
  | beat beat =>
      simp only [step]
      split
      · simp only [announce]
        split
        · cases hhealth : beat.health <;>
            simp [Effect.Tells, Effect.counters, Effect.counter?, Effect.event?, Event.counter?,
              LivenessRecord.observe, LivenessRecord.stateOf, hhealth]
        · rfl
      · rfl
  | tick =>
      simp only [step, expire]
      split
      · split
        · simp only [announce]
          split <;> rfl
        · rfl
      · rfl

theorem Autosave.tells_step (a : Autosave) (x : AutosaveInput) :
  Effect.Tells (a.step x).2.2
  := by
  cases x with
  | edit | flush => rfl
  | fire timer =>
      simp only [step]
      split <;> rfl
  | answer save reply =>
      simp only [step]
      split
      · rfl
      · next s _ =>
          simp only [answer]
          cases s.outcome reply <;> rfl

/-- An order that is answered is not counted, and nor are the events that tell of it. -/
theorem Bridge.tells_finish (b : Bridge) (now : Nat) (o : Order) (reply : Reply) :
  Effect.Tells (b.finish now o reply).2.1
  := by
  unfold finish
  split
  · rfl
  · rfl
  · cases o with
    | set name value | toggle name value =>
        simp only [accept, hold]
        split <;> rfl
    | release name =>
        simp only [accept]
        split <;> rfl
    | releaseAll =>
        simp only [accept]
        generalize (b.registry.clearAll now).2 = names
        induction names with
        | nil => rfl
        | cons name names ih => apply ih
    | goal text => rfl

namespace Service

variable (s : Service) (now : Nat) {x : ServiceInput}

/-- Unless something happens to the channel, what is counted goes with the events. -/
theorem tells_step (hx : x.drivesChannel = false) :
  Effect.Tells (s.step now x).2
  := by
  cases x with
  | channel | submit => nomatch hx
  | start =>
      rw [step_start]
      split <;> rfl
  | halt =>
      simp only [step]
      split <;> rfl
  | take =>
      simp only [step]
      split <;> rfl
  | pass =>
      simp only [step]
      split
      · next signal _ => cases signal <;> rfl
      · rfl
  | beat =>
      simp only [step]
      split
      · apply s.bridge.watchdog.tells_step now (.beat _)
      · rfl
  | tick => apply s.bridge.watchdog.tells_step now .tick
  | order => rfl
  | reply order reply =>
      simp only [step]
      split
      · apply Bridge.tells_finish
      · rfl
  | settings x => apply Autosave.tells_step

theorem channelEffects_eq_nil (hx : x.drivesChannel = false) :
  s.channelEffects now x = []
  := by
  cases x with
  | channel | submit => nomatch hx
  | start =>
      rw [channelEffects, Bridge.start]
      split <;> rfl
  | halt | take | pass | beat | tick | order | reply | settings => rfl

end Service

/-! ### Runs -/

namespace Bridge

open ChannelEffect

/-- What is counted beside commands, the channel has counted. -/
theorem count_absorbAll (b : Bridge) (effects : List ChannelEffect) {k : Counter}
    (hsent : k ≠ .commandsSent) (hdropped : k ≠ .commandsDropped) :
  (Effect.counters (b.absorbAll effects).2).count k = (counters effects).count k
  := by
  induction effects generalizing b with
  | nil => rfl
  | cons effect effects ih =>
      rw [absorbAll_cons, Effect.counters_append, List.count_append, ih]
      have happend : counters (effect :: effects) = counters [effect] ++ counters effects := by
        rw [← Channel.counters_append]
        rfl
      rw [happend, List.count_append]
      congr 1
      cases effect with
      | answer ticket result =>
          simp only [absorb, answered, Dispatcher.answer]
          split
          · cases result with
            | ok => apply List.count_cons_of_ne hsent.symm
            | error => apply List.count_cons_of_ne hdropped.symm
          · rfl
      | count other => rfl
      | signal | dial | wrote | stopped => rfl

end Bridge

namespace Service

/-- What there is to be gathered from the inputs of a run, each in the state that it finds. -/
def gather {α : Type} (f : Service → Nat → ServiceInput → List α) (s : Service) :
    List (Nat × ServiceInput) → List α
  | [] => []
  | (now, x) :: rest => f s now x ++ (s.step now x).1.gather f rest

theorem gather_append_singleton {α : Type} (f : Service → Nat → ServiceInput → List α) (s : Service)
    (inputs : List (Nat × ServiceInput)) (now : Nat) (x : ServiceInput) :
  s.gather f (inputs ++ [(now, x)]) = s.gather f inputs ++ f (s.run inputs).1 now x
  := by
  induction inputs generalizing s with
  | nil => simp [gather, run]
  | cons input inputs ih =>
      obtain ⟨now', x'⟩ := input
      simp only [List.cons_append, gather, ih, run_cons, List.append_assoc]

/-- What happens to the channel in a run. -/
def channelInputs (s : Service) : List (Nat × ServiceInput) → List (Nat × ChannelInput) :=
  s.gather fun s now x => (s.channelInput? x).toList.map fun y => (now, y)

/-- The command that is given by an input. -/
def submission? (s : Service) : ServiceInput → Option Submission
  | .submit command => some (s.bridge.submit command).2.1
  | _ => none

/-- What becomes of the channel in a run, and what it does. -/
def channelRun (s : Service) (inputs : List (Nat × ServiceInput)) :
    Channel × List ChannelEffect :=
  s.bridge.channel.run (s.channelInputs inputs)

theorem channelRun_append_singleton (s : Service) (inputs : List (Nat × ServiceInput)) (now : Nat)
    (x : ServiceInput) :
  s.channelRun (inputs ++ [(now, x)])
    = match (s.run inputs).1.channelInput? x with
      | some y =>
          (((s.channelRun inputs).1.step now y).1,
            (s.channelRun inputs).2 ++ ((s.channelRun inputs).1.step now y).2)
      | none => s.channelRun inputs
  := by
  rw [channelRun, channelInputs, gather_append_singleton, Channel.run_append, ← channelInputs,
    ← channelRun]
  cases (s.run inputs).1.channelInput? x <;> simp [Channel.run]

/-- The channel of a bridge goes on by itself. -/
theorem channel_run (s : Service) (inputs : List (Nat × ServiceInput)) :
  (s.run inputs).1.bridge.channel = (s.channelRun inputs).1
  := by
  induction inputs using List.reverseRecOn with
  | nil => rfl
  | append_singleton inputs input ih =>
      obtain ⟨now, x⟩ := input
      rw [run_append_singleton, channelRun_append_singleton]
      simp only [channel_step]
      rw [ih]
      cases (s.run inputs).1.channelInput? x <;> rfl

theorem channelRun_snd_append_singleton (s : Service) (inputs : List (Nat × ServiceInput))
    (now : Nat) (x : ServiceInput) :
  (s.channelRun (inputs ++ [(now, x)])).2
    = (s.channelRun inputs).2 ++ (s.run inputs).1.channelEffects now x
  := by
  rw [channelRun_append_singleton, channelEffects_eq, channel_run]
  cases (s.run inputs).1.channelInput? x with
  | some y => rfl
  | none => rw [List.append_nil]

section
variable (s : Service) (now : Nat) {x : ServiceInput} {k : Counter}

/-- The dispatcher hears of what the channel does, after it has taken the command, if there is
one. -/
theorem step_eq_absorbAll (hx : x.drivesChannel = true) :
  ∃ b : Bridge, b.dispatcher.waiting = s.bridge.dispatcher.waiting ++ (s.submission? x).toList
    ∧ s.step now x
      = ({ s with bridge := (b.absorbAll (s.channelEffects now x)).1 },
          (b.absorbAll (s.channelEffects now x)).2)
  := by
  cases x with
  | channel x =>
      use (s.bridge.drive now x).1
      constructor
      · apply (List.append_nil _).symm
      · rfl
  | submit command =>
      use (s.bridge.submit command).1
      constructor <;> rfl
  | start | halt | take | pass | beat | tick | order | reply | settings => nomatch hx

/-- What is counted is what goes with the events, and what the channel counts. -/
theorem count_step (hsent : k ≠ .commandsSent) (hdropped : k ≠ .commandsDropped) :
  (Effect.counters (s.step now x).2).count k
    = ((s.step now x).2.filterMap Effect.event?).countP (fun e => e.counter? = some k)
      + (ChannelEffect.counters (s.channelEffects now x)).count k
  := by
  cases hx : x.drivesChannel with
  | false =>
      have htells := s.tells_step now hx
      rw [Effect.Tells] at htells
      rw [s.channelEffects_eq_nil now hx, htells, List.count_eq_countP, List.countP_filterMap]
      apply List.countP_congr
      intro e _
      cases e.counter? <;> simp
  | true =>
      obtain ⟨b, _, hstep⟩ := s.step_eq_absorbAll now hx
      rw [hstep, b.absorbAll_events, b.count_absorbAll _ hsent hdropped]
      apply (Nat.zero_add _).symm

/-- Other counters than those of commands are left alone by what is not a command. -/
theorem count_step_of_not_drivesChannel (hx : x.drivesChannel = false) (hk : k.isTold = false) :
  (Effect.counters (s.step now x).2).count k = 0
  := by
  have htells := s.tells_step now hx
  rw [htells]
  apply List.count_eq_zero.mpr
  intro hmem
  obtain ⟨e, _, he⟩ := List.mem_filterMap.mp hmem
  rw [Event.isTold_of_counter? he] at hk
  nomatch hk

end

/-- What is counted in a run is what goes with its events, and what the channel counts. -/
theorem count_run (s : Service) (inputs : List (Nat × ServiceInput)) {k : Counter}
    (hsent : k ≠ .commandsSent) (hdropped : k ≠ .commandsDropped) :
  (Effect.counters (s.run inputs).2).count k
    = ((s.run inputs).2.filterMap Effect.event?).countP (fun e => e.counter? = some k)
      + (ChannelEffect.counters (s.channelRun inputs).2).count k
  := by
  induction inputs using List.reverseRecOn with
  | nil => rfl
  | append_singleton inputs input ih =>
      obtain ⟨now, x⟩ := input
      rw [run_append_singleton, channelRun_snd_append_singleton]
      simp only [Effect.counters_append, Channel.counters_append, List.filterMap_append,
        List.count_append, List.countP_append]
      rw [ih, (s.run inputs).1.count_step now hsent hdropped]
      omega

/-- The counters after a run in which they have counted from nothing. -/
def counts (s : Service) (inputs : List (Nat × ServiceInput)) : Counters :=
  Effect.tally .zero (s.run inputs).2

/-- The events that are published in a run. -/
def events (s : Service) (inputs : List (Nat × ServiceInput)) : List Event :=
  (s.run inputs).2.filterMap Effect.event?

section
variable {s : Service} {inputs : List (Nat × ServiceInput)} {k : Counter}

theorem get_counts (s : Service) (inputs : List (Nat × ServiceInput)) (k : Counter) :
  (s.counts inputs).get k = (Effect.counters (s.run inputs).2).count k
  := by
  rw [counts, Effect.get_tally]
  have hzero : Counters.zero.get k = 0 := by cases k <;> rfl
  rw [hzero, Nat.zero_add]

/-- What is counted with events is not counted otherwise. -/
theorem get_counts_of_isTold (hk : k.isTold = true) {p : Event → Bool}
    (hp : ∀ e, p e = true ↔ e.counter? = some k) :
  (s.counts inputs).get k = (s.events inputs).countP p
  := by
  have hchannel : (ChannelEffect.counters (s.channelRun inputs).2).count k = 0 := by
    apply List.count_eq_zero.mpr
    intro hmem
    obtain rfl | rfl | rfl := Channel.mem_counters_run hmem <;> nomatch hk
  rw [get_counts, s.count_run, hchannel, Nat.add_zero, events]
  · apply List.countP_congr
    intro e _
    rw [hp e, decide_eq_true_iff]
  · rintro rfl
    nomatch hk
  · rintro rfl
    nomatch hk

/-- Texts and losses of the channel are counted by the channel alone. -/
theorem get_counts_of_not_isTold (hk : k.isTold = false) (hsent : k ≠ .commandsSent)
    (hdropped : k ≠ .commandsDropped) :
  (s.counts inputs).get k = (ChannelEffect.counters (s.channelRun inputs).2).count k
  := by
  have hevents : ((s.run inputs).2.filterMap Effect.event?).countP
      (fun e => e.counter? = some k) = 0 := by
    apply List.countP_eq_zero.mpr
    intro e _
    rw [decide_eq_true_iff]
    intro he
    rw [Event.isTold_of_counter? he] at hk
    nomatch hk
  rw [get_counts, s.count_run inputs hsent hdropped, hevents, Nat.zero_add]

end

end Service

end Greenhouse
