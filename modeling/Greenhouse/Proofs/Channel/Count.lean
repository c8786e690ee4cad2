import Greenhouse.Proofs.Channel.Lifecycle

/-!
# What the channel counts

The channel counts the texts that it takes from the backend, those that are frames and those that
are not, and the times that it has been lost or could not be opened.  Whoever listens can count the
frames as well, and hears that the channel is closed each time it is lost, unless it counts as
closed already: then it is lost unheard (`Channel.unheard`).  This does not happen as long as nobody
calls `connect` or `stop` while a `stop` waits.
-/

namespace Greenhouse

/-- What is counted by an effect. -/
def ChannelEffect.counter? : ChannelEffect → Option Counter
  | .count counter => some counter
  | .signal _ | .dial _ | .wrote _ _ | .answer _ _ | .stopped => none

/-- What is counted by effects. -/
def ChannelEffect.counters (effects : List ChannelEffect) : List Counter :=
  effects.filterMap ChannelEffect.counter?

/-- Whether an input belongs to a `stop`: the call, its end, or a supervisor that closes the channel
because of it. -/
def ChannelInput.stops : ChannelInput → Bool
  | .stop | .finish _ | .closed _ => true
  | _ => false

namespace Channel

open ChannelEffect

/-- What listeners hear of a channel that is closed, although nobody has stopped it, on an input. -/
def closure (c : Channel) (now : Nat) (x : ChannelInput) : List Signal :=
  if x.stops then [] else (signals (c.step now x).2).filter fun s => s = .state .closed

/-- What listeners hear of a channel that is closed, although nobody has stopped it. -/
def closures (c : Channel) : List (Nat × ChannelInput) → List Signal
  | [] => []
  | (now, x) :: inputs => c.closure now x ++ (c.step now x).1.closures inputs

/-- The supervisors that lose the channel, or fail to open it, when it is closed already. -/
def unheard (c : Channel) : List (Nat × ChannelInput) → List Nat
  | [] => []
  | (now, x) :: inputs =>
    ((c.loser? x).filter fun _ => c.state = .closed).toList ++ (c.step now x).1.unheard inputs

variable {c b : Channel} {now id : Nat} {x : ChannelInput} {effects : List ChannelEffect}

/-! ### Single inputs -/

theorem counters_append (effects more : List ChannelEffect) :
  counters (effects ++ more) = counters effects ++ counters more
  := List.filterMap_append

@[simp]
theorem counters_heard (c : Channel) (state : ConnectionState) :
  counters (c.heard state) = []
  := by
  rw [heard, setState]
  split <;> rfl

@[simp]
theorem counters_discard (queue : List Outgoing) :
  counters (discard queue) = []
  := by
  simp [discard, counters, ChannelEffect.counter?]

@[simp]
theorem counters_dial (c : Channel) (id : Nat) :
  counters (c.dial id).2 = []
  := by
  obtain ⟨_, heq⟩ | ⟨_, heq⟩ := c.dial_cases id
  · rw [heq]
    rfl
  · rw [heq, counters_append, counters_heard]
    rfl

/-- A channel that is lost, or could not be opened, is counted, and is closed then. -/
theorem step_of_loser (now : Nat) (h : c.loser? x = some id) :
  counters (c.step now x).2 = [.reconnectAttempts]
    ∧ signals (c.step now x).2 = signals (c.heard .closed)
  := by
  obtain ⟨rfl, hphase⟩ | ⟨queue, hloses⟩ := loser?_eq_some_iff.mp h
  · have hstep : (c.step now (.dialed id false)).2
        = c.heard .closed ++ [.count .reconnectAttempts] := by
      simp only [step, hphase]
      rfl
    rw [hstep, counters_append, counters_heard, signals_append]
    exact ⟨rfl, List.append_nil _⟩
  · have hstep : (c.step now x).2
        = discard queue ++ c.heard .closed ++ [.count .reconnectAttempts] := by
      cases hloses with
      | lost phase | broken phase =>
          simp only [step, phase]
          rfl
    rw [hstep, counters_append, counters_append, counters_discard, counters_heard, signals_append,
      signals_append, signals_discard]
    exact ⟨rfl, List.append_nil _⟩

/-- A text that is taken from the backend is counted as a frame, or as malformed. -/
theorem step_of_arrival {text : String} (now : Nat) (h : c.arrival? x = some text) :
  counters (c.step now x).2
    = [if (Frame.parse text).toOption.isSome then .framesReceived else .framesMalformed]
  := by
  cases x with
  | received id other =>
      cases hphase : c.phase id with
      | opened queue =>
          simp only [arrival?, hphase] at h
          obtain rfl := Option.some.inj h
          simp only [step, hphase]
          cases hparse : Frame.parse other <;> rfl
      | created | dialing | writing | closing | waiting | ended => simp [arrival?, hphase] at h
  | _ => cases h

/-- Nothing else is counted. -/
theorem counters_of_none (now : Nat) (hloser : c.loser? x = none) (harrival : c.arrival? x = none) :
  counters (c.step now x).2 = []
  := by
  have hmove := c.move_step now x
  generalize (c.step now x).1 = b, (c.step now x).2 = effects at hmove ⊢
  cases hmove with
  | start | answer | rouse | elapse => apply counters_dial
  | halt | finish =>
      rw [counters_append, counters_heard]
      rfl
  | closed => rw [counters_append, counters_heard, counters_discard, List.append_nil]
  | opened => apply counters_heard
  | failed phase =>
      rw [loser?, if_pos phase] at hloser
      cases hloser
  | lose loses =>
      rw [loser?_eq_some_iff.mpr (.inr ⟨_, loses⟩)] at hloser
      cases hloser
  | receive phase | malformed phase =>
      simp only [arrival?, phase] at harrival
      cases harrival
  | _ => rfl

/-- Unless it is lost or stopped, the channel is not closed. -/
theorem closure_of_none (now : Nat) (hloser : c.loser? x = none) :
  c.closure now x = []
  := by
  rw [closure]
  split
  · rfl
  · next hstops =>
      have hmove := c.move_step now x
      generalize (c.step now x).1 = b, (c.step now x).2 = effects at hmove ⊢
      have hdial (d : Channel) (id : Nat) :
          (signals (d.dial id).2).filter (fun s => s = .state .closed) = [] := by
        obtain ⟨_, heq⟩ | ⟨_, heq⟩ := d.dial_cases id
        · rw [heq]
          rfl
        · rw [heq, signals_append, signals_heard]
          split <;> rfl
      cases hmove with
      | start | answer | rouse | elapse => apply hdial
      | halt | finish | closed => apply absurd rfl hstops
      | opened =>
          rw [signals_heard]
          split <;> rfl
      | failed phase =>
          rw [loser?, if_pos phase] at hloser
          cases hloser
      | lose loses =>
          rw [loser?_eq_some_iff.mpr (.inr ⟨_, loses⟩)] at hloser
          cases hloser
      | _ => rfl

/-- When the channel is lost or could not be opened, listeners hear that it is closed, unless it
has been closed before. -/
theorem closure_of_loser (now : Nat) (h : c.loser? x = some id) :
  c.closure now x = signals (c.heard .closed)
  := by
  have hstops : x.stops = false := by
    cases x with
    | stop | finish | closed => nomatch h
    | _ => rfl
  rw [closure, hstops, (step_of_loser now h).2, signals_heard]
  by_cases hstate : c.state = .closed <;> simp [hstate]

theorem arrival?_of_loser (h : c.loser? x = some id) :
  c.arrival? x = none
  := by
  cases x with
  | received => nomatch h
  | _ => rfl

/-- What an input adds to the counts: a frame for each that listeners hear of, and one of either
kind for each text that arrives; and an attempt to open the channel again for each time that
listeners hear of its end, or nobody does. -/
theorem count_step (c : Channel) (now : Nat) (x : ChannelInput) :
  (counters (c.step now x).2).count .framesReceived
      = ((signals (c.step now x).2).filterMap Signal.frame?).length
    ∧ (counters (c.step now x).2).count .framesReceived
        + (counters (c.step now x).2).count .framesMalformed = (c.arrival? x).toList.length
    ∧ (counters (c.step now x).2).count .reconnectAttempts
      = (c.closure now x).length + ((c.loser? x).filter fun _ => c.state = .closed).toList.length
  := by
  rw [filterMap_frame?_step]
  cases hloser : c.loser? x with
  | some id =>
      rw [arrival?_of_loser hloser, (step_of_loser now hloser).1, closure_of_loser now hloser,
        signals_heard]
      by_cases hstate : c.state = .closed <;> simp [hstate, Option.filter]
  | none =>
      rw [closure_of_none now hloser]
      cases harrival : c.arrival? x with
      | some text =>
          rw [step_of_arrival now harrival]
          cases hparse : (Frame.parse text).toOption <;> simp [hparse]
      | none =>
          rw [counters_of_none now hloser harrival]
          simp

/-- The channel does not count anything but texts and attempts to open it again. -/
theorem mem_counters_step {k : Counter} (h : k ∈ counters (c.step now x).2) :
  k = .framesReceived ∨ k = .framesMalformed ∨ k = .reconnectAttempts
  := by
  cases hloser : c.loser? x with
  | some id =>
      rw [(step_of_loser now hloser).1] at h
      simp [List.mem_singleton.mp h]
  | none =>
      cases harrival : c.arrival? x with
      | some text =>
          rw [step_of_arrival now harrival] at h
          rw [List.mem_singleton.mp h]
          split <;> simp
      | none =>
          rw [counters_of_none now hloser harrival] at h
          nomatch h

/-! ### Whole runs -/

/-- The counts of a run. -/
theorem count_run (c : Channel) (inputs : List (Nat × ChannelInput)) :
  (counters (c.run inputs).2).count .framesReceived
      = ((signals (c.run inputs).2).filterMap Signal.frame?).length
    ∧ (counters (c.run inputs).2).count .framesReceived
        + (counters (c.run inputs).2).count .framesMalformed = (c.arrivals inputs).length
    ∧ (counters (c.run inputs).2).count .reconnectAttempts
      = (c.closures inputs).length + (c.unheard inputs).length
  := by
  induction inputs generalizing c with
  | nil => exact ⟨rfl, rfl, rfl⟩
  | cons input inputs ih =>
      obtain ⟨now, x⟩ := input
      obtain ⟨hframes, htexts, hlosses⟩ := ih (c.step now x).1
      obtain ⟨hframe, htext, hloss⟩ := c.count_step now x
      simp only [run, arrivals, closures, unheard, counters_append, signals_append,
        List.count_append, List.filterMap_append, List.length_append]
      omega

theorem mem_counters_run {k : Counter} {inputs : List (Nat × ChannelInput)}
    (h : k ∈ counters (c.run inputs).2) :
  k = .framesReceived ∨ k = .framesMalformed ∨ k = .reconnectAttempts
  := by
  induction inputs generalizing c with
  | nil => nomatch h
  | cons input inputs ih =>
      rw [run, counters_append] at h
      obtain h | h := List.mem_append.mp h
      · apply mem_counters_step h
      · apply ih h

/-- As long as neither `connect` nor another `stop` is called while a `stop` is waiting, the channel is
never lost unheard. -/
theorem unheard_of_awaits (h : c.Tidy) (hsound : c.Sound) {inputs : List (Nat × ChannelInput)}
    (hawaits : c.Awaits inputs) :
  c.unheard inputs = []
  := by
  induction inputs generalizing c with
  | nil => rfl
  | cons input inputs ih =>
      obtain ⟨now, x⟩ := input
      have hmove := c.move_step now x
      have hopen : (c.loser? x).filter (fun _ => c.state = .closed) = none := by
        apply Option.filter_eq_none_iff.mpr
        intro id hid
        rw [decide_eq_true_iff]
        intro hclosed
        obtain ⟨hlive, _⟩ := phase_of_loser now hid
        have hfits := h.fits id (hsound.mem_charges hlive)
        obtain ⟨rfl, hphase⟩ | ⟨queue, hloses⟩ := loser?_eq_some_iff.mp hid
        · rw [hphase] at hfits
          cases hfits with
          | dialing state =>
              rw [hclosed] at state
              nomatch state
        · rw [hfits.opened_of_loses hloses] at hclosed
          nomatch hclosed
      rw [unheard, hopen, ih (h.move hsound hmove hawaits.1).1 (hsound.move hmove) hawaits.2]
      rfl

end Channel

end Greenhouse
