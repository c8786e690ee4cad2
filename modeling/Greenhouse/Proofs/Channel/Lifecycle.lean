import Greenhouse.Proofs.Channel.Rounds

/-!
# The life of a channel

A `stop` that finds a supervisor waits for its end, and a second `stop`, which finds none, does not.
When that one is over the channel is closed, but the supervisor still goes on behind it.  It may
then open its session, or hand on a frame: such an input strays.  The main statement is about all
runs in which `connect` is not called while a `stop` is waiting: listeners hear rounds exactly as
long as no input strays, and none does unless `stop` calls overlap.
-/

namespace Greenhouse

open scoped Computability

/-- The frame that listeners are given. -/
def Signal.frame? : Signal → Option Frame
  | .state _ => none
  | .inbound frame => some frame

namespace Channel

variable {c b : Channel} {now : Nat} {x : ChannelInput} {effects : List ChannelEffect}

/-! ### Frames -/

/-- The text that a supervisor takes from the backend by an input. -/
def arrival? (c : Channel) : ChannelInput → Option String
  | .received id text =>
    match c.phase id with
    | .opened _ => some text
    | _ => none
  | _ => none

/-- The texts that arrive in a run. -/
def arrivals (c : Channel) : List (Nat × ChannelInput) → List String
  | [] => []
  | (now, x) :: inputs => (c.arrival? x).toList ++ (c.step now x).1.arrivals inputs

theorem filterMap_frame?_heard (c : Channel) (state : ConnectionState) :
  (ChannelEffect.signals (c.heard state)).filterMap Signal.frame? = []
  := by
  rw [signals_heard]
  split <;> rfl

theorem filterMap_frame?_dial (c : Channel) (id : Nat) :
  (ChannelEffect.signals (c.dial id).2).filterMap Signal.frame? = []
  := by
  obtain ⟨_, heq⟩ | ⟨_, heq⟩ := c.dial_cases id
  · rw [heq]
    rfl
  · rw [heq, signals_append, List.filterMap_append, filterMap_frame?_heard]
    rfl

/-- Listeners are given frames that have arrived, and no others. -/
theorem Move.filterMap_frame? (h : c.Move now x b effects) (hx : ∀ id text, x ≠ .received id text) :
  (ChannelEffect.signals effects).filterMap Signal.frame? = []
  := by
  cases h with
  | start | answer | rouse | elapse => apply filterMap_frame?_dial
  | halt | finish | failed =>
      rw [signals_append, List.filterMap_append, filterMap_frame?_heard]
      rfl
  | opened => apply filterMap_frame?_heard
  | closed => rw [signals_append, signals_discard, List.nil_append, filterMap_frame?_heard]
  | lose =>
      rw [signals_append, signals_append, signals_discard, List.nil_append, List.filterMap_append,
        filterMap_frame?_heard]
      rfl
  | receive => exact absurd rfl (hx _ _)
  | malformed => exact absurd rfl (hx _ _)
  | _ => rfl

/-- A text that arrives is heard of if it is a frame, and does nothing else. -/
theorem step_received (c : Channel) (now id : Nat) (text : String) :
  (c.step now (.received id text)).1 = c
    ∧ ChannelEffect.signals (c.step now (.received id text)).2
      = ((c.arrival? (.received id text)).toList.filterMap fun text =>
        (Frame.parse text).toOption).map .inbound
  := by
  cases hphase : c.phase id with
  | opened queue =>
      cases hparse : Frame.parse text with
      | ok | error =>
          constructor
          · simp only [step, hphase, hparse]
          · simp only [step, arrival?, hphase, hparse]
            simp [hparse, Except.toOption]
            rfl
  | created | dialing | writing | closing | waiting | ended =>
      constructor
      · simp only [step, hphase]
      · simp only [step, arrival?, hphase]
        rfl

theorem filterMap_frame?_step (c : Channel) (now : Nat) (x : ChannelInput) :
  (ChannelEffect.signals (c.step now x).2).filterMap Signal.frame?
    = (c.arrival? x).toList.filterMap fun text => (Frame.parse text).toOption
  := by
  cases x with
  | received id text =>
      rw [(c.step_received now id text).2, List.filterMap_map]
      apply List.filterMap_some
  | _ => exact (c.move_step now _).filterMap_frame? (by simp)

/-- Of the texts that arrive in a run, listeners are given those that are frames, in order. -/
theorem filterMap_frame?_run (c : Channel) (inputs : List (Nat × ChannelInput)) :
  (ChannelEffect.signals (c.run inputs).2).filterMap Signal.frame?
    = (c.arrivals inputs).filterMap fun text => (Frame.parse text).toOption
  := by
  induction inputs generalizing c with
  | nil => rfl
  | cons input inputs ih =>
      simp only [run, arrivals]
      rw [signals_append, List.filterMap_append, List.filterMap_append, filterMap_frame?_step, ih]

/-! ### All along a run -/

/-- Each input of a run is admitted by the channel that it comes to. -/
def Along (admits : Channel → ChannelInput → Prop) (c : Channel) :
    List (Nat × ChannelInput) → Prop
  | [] => True
  | (now, x) :: inputs => admits c x ∧ (c.step now x).1.Along admits inputs

instance decidableAlong (admits : Channel → ChannelInput → Prop)
    [∀ c x, Decidable (admits c x)] (c : Channel) (inputs : List (Nat × ChannelInput)) :
    Decidable (c.Along admits inputs) :=
  match inputs with
  | [] => isTrue trivial
  | (now, x) :: inputs =>
    have := decidableAlong admits (c.step now x).1 inputs
    inferInstanceAs (Decidable (_ ∧ _))

theorem along_append {admits : Channel → ChannelInput → Prop}
    {earlier later : List (Nat × ChannelInput)} :
  c.Along admits (earlier ++ later)
    ↔ c.Along admits earlier ∧ (c.run earlier).1.Along admits later
  := by
  induction earlier generalizing c with
  | nil => simp [Along, run]
  | cons input earlier ih => simp only [List.cons_append, Along, run, ih, and_assoc]

theorem run_append (c : Channel) (earlier later : List (Nat × ChannelInput)) :
  c.run (earlier ++ later)
    = (((c.run earlier).1.run later).1, (c.run earlier).2 ++ ((c.run earlier).1.run later).2)
  := by
  induction earlier generalizing c with
  | nil => rfl
  | cons input earlier ih => simp only [List.cons_append, run, ih, List.append_assoc]

/-- `connect` is not called while a `stop` is waiting. -/
def Defers (c : Channel) (x : ChannelInput) : Prop := x = .connect → c.stopping = []

instance (c : Channel) (x : ChannelInput) : Decidable (c.Defers x) :=
  inferInstanceAs (Decidable (_ → _))

/-- While a `stop` is waiting, there is no `connect`, and no other `stop`. -/
def Awaits (c : Channel) : List (Nat × ChannelInput) → Prop
  | [] => True
  | (now, x) :: inputs =>
    (x = .connect ∨ x = .stop → c.stopping = []) ∧ (c.step now x).1.Awaits inputs

instance decidableAwaits (c : Channel) (inputs : List (Nat × ChannelInput)) :
    Decidable (c.Awaits inputs) :=
  match inputs with
  | [] => isTrue trivial
  | (now, x) :: inputs =>
    have := decidableAwaits (c.step now x).1 inputs
    inferInstanceAs (Decidable (_ ∧ _))

/-- A session is opened, or a frame arrives, and the channel is closed. -/
inductive Strays (c : Channel) : ChannelInput → Prop
  | opens {id : Nat} (state : c.state = .closed) (phase : c.phase id = .dialing) :
    Strays c (.dialed id true)
  | hears {id : Nat} {queue : List Outgoing} {text : String} {frame : Frame}
    (state : c.state = .closed) (phase : c.phase id = .opened queue)
    (parse : Frame.parse text = .ok frame) : Strays c (.received id text)

/-- No input of a run strays. -/
def Straight (c : Channel) (inputs : List (Nat × ChannelInput)) : Prop :=
  c.Along (fun c x => ¬ c.Strays x) inputs

/-- What is heard of an input that strays may not come when the channel is closed. -/
theorem Strays.out_of_turn (h : c.Strays x) (now : Nat) :
  c.state = .closed
    ∧ ∃ s, ChannelEffect.signals (c.step now x).2 = [s] ∧ Signal.follow .closed s = none
  := by
  cases h with
  | @opens id state phase =>
      use state, .state .opened
      have hstep : c.step now (.dialed id true) = c.openUp id := by
        simp only [step, phase, if_true]
      rw [hstep]
      refine ⟨?_, rfl⟩
      apply (signals_heard _ _).trans
      apply if_neg
      rw [show Channel.state { c.enter id (.opened []) with outlet := some id } = .closed from state]
      simp
  | @hears id queue text frame state phase parse =>
      use state, .inbound frame
      simp only [step, phase, parse]
      exact ⟨rfl, rfl⟩

/-! ### The channel after a `stop` -/

/-- The flag is set, the channel is closed, and nothing takes texts. -/
structure Shut (c : Channel) : Prop where
  halted : c.halted = true
  state : c.state = .closed
  outlet : c.outlet = none

theorem Shut.heard_closed (h : c.Shut) :
  c.heard .closed = []
  := if_pos h.state

theorem Shut.calls (h : c.Shut) (hcalls : c.Calls b) :
  b.Shut
  := by
  rw [hcalls.shared]
  exact ⟨h.halted, h.state, h.outlet⟩

theorem Shut.dial (h : c.Shut) (id : Nat) :
  (c.dial id).1.Shut ∧ ChannelEffect.signals (c.dial id).2 = []
  := by
  obtain ⟨_, heq⟩ | ⟨hhalted, _⟩ := c.dial_cases id
  · rw [heq]
    exact ⟨⟨h.halted, h.state, h.outlet⟩, rfl⟩
  · rw [h.halted] at hhalted
    nomatch hhalted

/-- Until the next `connect` the channel remains shut, and nothing is heard, unless an input
strays. -/
theorem Shut.move (h : c.Shut) (hmove : c.Move now x b effects) (hx : x ≠ .connect)
    (hstrays : ¬ c.Strays x) :
  b.Shut ∧ ChannelEffect.signals effects = []
  := by
  cases hmove with
  | idle | malformed => exact ⟨h, rfl⟩
  | spawn | summon => contradiction
  | halt =>
      rw [h.heard_closed]
      exact ⟨⟨rfl, rfl, rfl⟩, rfl⟩
  | finish =>
      rw [h.heard_closed]
      exact ⟨⟨h.halted, rfl, rfl⟩, rfl⟩
  | seize => exact ⟨⟨rfl, h.state, h.outlet⟩, rfl⟩
  | refuse | enqueue | giveUp | close | take | written =>
      exact ⟨⟨h.halted, h.state, h.outlet⟩, rfl⟩
  | start | rouse =>
      refine Shut.dial ?_ _
      exact ⟨h.halted, h.state, h.outlet⟩
  | answer => apply h.dial
  | elapse => apply (h.calls (c.calls_passOn _)).dial
  | opened phase => exact absurd (.opens h.state phase) hstrays
  | failed =>
      rw [h.heard_closed]
      exact ⟨⟨h.halted, rfl, h.outlet⟩, rfl⟩
  | lose =>
      use ⟨h.halted, rfl, rfl⟩
      rw [h.heard_closed, List.append_nil, signals_append, signals_discard]
      rfl
  | closed =>
      use ⟨h.halted, rfl, rfl⟩
      rw [h.heard_closed, List.append_nil, signals_discard]
  | leave =>
      refine ⟨Shut.calls ?_ (calls_passOn _ _), rfl⟩
      exact ⟨h.halted, h.state, h.outlet⟩
  | receive phase parse => exact absurd (.hears h.state phase parse) hstrays

theorem Shut.run (h : c.Shut) {inputs : List (Nat × ChannelInput)}
    (hinputs : ∀ input ∈ inputs, input.2 ≠ .connect) :
  (ChannelEffect.signals (c.run inputs).2 = [] ↔ c.Straight inputs)
    ∧ (c.Straight inputs → (c.run inputs).1.Shut)
  := by
  induction inputs generalizing c with
  | nil => exact ⟨⟨fun _ => trivial, fun _ => rfl⟩, fun _ => h⟩
  | cons input inputs ih =>
      obtain ⟨hinput, hinputs⟩ := List.forall_mem_cons.mp hinputs
      simp only [Channel.run, signals_append, List.append_eq_nil_iff]
      by_cases hstrays : c.Strays input.2
      · obtain ⟨_, s, hsignals, _⟩ := hstrays.out_of_turn input.1
        rw [hsignals]
        constructor
        · constructor
          · nofun
          · exact fun hstraight => absurd hstrays hstraight.1
        · exact fun hstraight => absurd hstrays hstraight.1
      · obtain ⟨hshut, hsignals⟩ := h.move (c.move_step input.1 input.2) hinput hstrays
        obtain ⟨hsilent, hafter⟩ := ih hshut hinputs
        rw [hsignals, hsilent]
        constructor
        · exact ⟨fun hlater => ⟨hstrays, hlater.2⟩, fun hstraight => ⟨rfl, hstraight.2⟩⟩
        · exact fun hstraight => hafter hstraight.2

/-- While the flag is set, nobody dials, and until the next `connect` it is. -/
theorem dialer?_run_of_halted (h : c.halted = true) {inputs : List (Nat × ChannelInput)}
    (hinputs : ∀ input ∈ inputs, input.2 ≠ .connect) :
  ∀ e ∈ (c.run inputs).2, e.dialer? = none
  := by
  induction inputs generalizing c with
  | nil => nofun
  | cons input inputs ih =>
      obtain ⟨hinput, hinputs⟩ := List.forall_mem_cons.mp hinputs
      have hhalted : (c.step input.1 input.2).1.halted = true := by
        obtain hkeeps | ⟨hconnect, _⟩ | ⟨_, _, heq⟩ | ⟨_, _, _, _, heq⟩ | ⟨_, _, _, _, heq⟩ :=
          (c.move_step input.1 input.2).keeps_or
        · rw [hkeeps.halted, h]
        · contradiction
        · rw [heq]
          rfl
        · rw [heq]
          rfl
        · rw [heq]
          apply h
      have hdialers : c.dialers input.1 input.2 = [] := by
        apply List.eq_nil_iff_forall_not_mem.mpr
        intro id hid
        rw [(mem_dialers_iff.mp hid).1] at h
        nomatch h
      intro e he
      obtain he | he := List.mem_append.mp he
      · apply List.filterMap_eq_nil_iff.mp hdialers e he
      · apply ih hhalted hinputs e he

theorem stopped_not_mem_heard (c : Channel) (state : ConnectionState) :
  .stopped ∉ c.heard state
  := by
  rw [heard, setState]
  split <;> simp

theorem stopped_not_mem_dial (c : Channel) (id : Nat) :
  .stopped ∉ (c.dial id).2
  := by
  obtain ⟨_, heq⟩ | ⟨_, heq⟩ := c.dial_cases id
  · simp [heq]
  · simp [heq, stopped_not_mem_heard]

/-- Nobody is in charge until the next `connect`: no state is heard of, and nobody dials. -/
theorem Tidy.rest (h : c.Tidy) (hsound : c.Sound) (hcharges : c.charges = []) (now : Nat)
    (hx : x ≠ .connect) :
  (c.step now x).1.charges = [] ∧ ChannelEffect.signals (c.step now x).2 = []
    ∧ c.dialers now x = []
  := by
  have hmove := c.move_step now x
  have hended (id : Nat) : c.phase id = .ended := by
    by_contra hlive
    have hid := hsound.mem_charges hlive
    rw [hcharges] at hid
    nomatch hid
  have hstopping : c.stopping = [] := (List.append_eq_nil_iff.mp hcharges).2
  obtain ⟨htidy, hturn⟩ := h.move hsound hmove fun _ => hstopping
  have hrest : (c.step now x).1.charges = [] := by
    obtain hkeeps | ⟨rfl, _⟩ | ⟨_, _, heq⟩ | ⟨id, _, _, hlive, _⟩ | ⟨id, _, hid, _⟩ :=
      hmove.keeps_or
    · rw [charges, hkeeps.current, hkeeps.stopping]
      apply hcharges
    · contradiction
    · rw [heq]
      apply hstopping
    · apply absurd (hended id) hlive
    · rw [hstopping] at hid
      nomatch hid
  use hrest
  constructor
  · rw [(h.vacant hcharges).1, (htidy.vacant hrest).1] at hturn
    generalize ChannelEffect.signals (c.step now x).2 = heard at hturn
    cases hturn
    rfl
  · apply List.eq_nil_iff_forall_not_mem.mpr
    intro id hid
    apply (mem_dialers_iff.mp hid).2.ne_ended (hended id)

/-! ### Supervisors that a `stop` waits for -/

/-- A `stop` is over while another one waits for a supervisor: the channel is closed, and the
supervisor goes on. -/
structure Severed (c : Channel) (id : Nat) : Prop where
  current : c.current = none
  stopping : c.stopping = [id]
  state : c.state = .closed
  outlet : c.outlet = none

/-- The state of the channel goes with the supervisor in charge, or it is closed and the supervisor
goes on behind it.  While a `stop` is waiting, the flag is set. -/
structure Attended (c : Channel) : Prop where
  sound : c.Sound
  halted : c.stopping ≠ [] → c.halted = true
  tidy : c.Tidy ∨ ∃ id, c.Severed id

theorem attended_ofDelay (delay : Nat) :
  (ofDelay delay).Attended
  := ⟨sound_ofDelay delay, fun hstopping => absurd rfl hstopping, .inl (tidy_ofDelay delay)⟩

theorem Tidy.not_strays (h : c.Tidy) (hsound : c.Sound) :
  ¬ c.Strays x
  := by
  intro hstrays
  cases hstrays with
  | opens state phase =>
      obtain ⟨_, _, hfits⟩ := h.fits_of_live hsound phase nofun
      cases hfits with
      | dialing connecting =>
          rw [state] at connecting
          nomatch connecting
  | hears state phase =>
      obtain ⟨_, _, hfits⟩ := h.fits_of_live hsound phase nofun
      cases hfits with
      | opened opened =>
          rw [state] at opened
          nomatch opened

/-- A `stop` while another one is waiting finds nobody, and closes the channel. -/
theorem Tidy.stop (h : c.Tidy) (hstopping : c.stopping ≠ []) (now : Nat) :
  (∃ id, (c.step now .stop).1.Severed id)
    ∧ Signal.Turn c.state (ChannelEffect.signals (c.step now .stop).2) (c.step now .stop).1.state
  := by
  obtain ⟨id, hid⟩ := List.exists_mem_of_ne_nil _ hstopping
  obtain ⟨hcurrent, herase⟩ := h.charges_of_finish hid
  have heq : c.stopping = [id] := by
    have hcharges := h.charges_eq (List.mem_append_right _ hid)
    rwa [charges, hcurrent] at hcharges
  have hvacant : c.Vacant := by simp [Vacant, hcurrent]
  rw [step_stop_of_vacant hvacant]
  constructor
  · use id
    exact ⟨rfl, heq, rfl, rfl⟩
  · rw [signals_append, signals_heard]
    cases hstate : c.state with
    | closed => exact .stay _
    | connecting => exact .failed
    | opened => exact .lost

theorem Tidy.step (h : c.Tidy) (hsound : c.Sound) (now : Nat) (hx : c.Defers x) :
  ((c.step now x).1.Tidy ∨ ∃ id, (c.step now x).1.Severed id)
    ∧ Signal.Turn c.state (ChannelEffect.signals (c.step now x).2) (c.step now x).1.state
  := by
  by_cases hstop : x = .stop ∧ c.stopping ≠ []
  · obtain ⟨rfl, hstopping⟩ := hstop
    obtain ⟨hsevered, hturn⟩ := h.stop hstopping now
    use .inr hsevered
  · obtain ⟨htidy, hturn⟩ := h.move hsound (c.move_step now x) fun hcall => by
      obtain hconnect | heq := hcall
      · apply hx hconnect
      · by_contra hstopping
        apply hstop ⟨heq, hstopping⟩
    use .inl htidy

theorem Severed.shut {id : Nat} (h : c.Severed id) (hhalted : c.halted = true) :
  c.Shut
  := ⟨hhalted, h.state, h.outlet⟩

/-- By an input that strays, the supervisor has the channel again, or goes on as it was. -/
theorem Severed.step_of_strays {id : Nat} (h : c.Severed id) (hsound : c.Sound) (now : Nat)
    (hstrays : c.Strays x) :
  (c.step now x).1.Tidy ∨ ∃ id, (c.step now x).1.Severed id
  := by
  cases hstrays with
  | @opens other state phase =>
      left
      have hlive : c.phase other ≠ .ended := by
        rw [phase]
        nofun
      have hcharges : c.charges = [other] := by
        have hother := hsound.mem_charges hlive
        rw [charges, h.current, h.stopping] at hother ⊢
        rw [List.mem_singleton.mp hother]
        rfl
      have hstep : c.step now (.dialed other true) = c.openUp other := by
        simp only [Channel.step, phase, if_true]
      have hopen : (c.openUp other).1.charges = [other] := hcharges
      have hphase : (c.openUp other).1.phase other = .opened [] :=
        (c.phase_enter hlive _ other).trans (if_pos rfl)
      rw [hstep]
      constructor
      · rw [hopen]
        apply Nat.le_refl
      · rw [hopen]
        exact fun hnone => absurd hnone (List.cons_ne_nil _ _)
      · rw [hopen]
        intro id hid
        rw [List.mem_singleton.mp hid, hphase]
        exact .opened rfl rfl
  | @hears other queue text frame state phase parse =>
      right
      use id
      rw [(c.step_received now other text).1]
      apply h

/-- Unless an input strays, the supervisor goes on, or the `stop` that waits for it is over. -/
theorem Severed.step_of_not_strays {id : Nat} (h : c.Severed id) (hhalted : c.halted = true)
    (now : Nat) (hx : c.Defers x) (hstrays : ¬ c.Strays x) :
  ((c.step now x).1.Tidy ∨ ∃ id, (c.step now x).1.Severed id)
    ∧ Signal.Turn c.state (ChannelEffect.signals (c.step now x).2) (c.step now x).1.state
  := by
  have hmove := c.move_step now x
  have hconnect : x ≠ .connect := by
    intro heq
    have hstopping := h.stopping.symm.trans (hx heq)
    nomatch hstopping
  obtain ⟨hshut, hsignals⟩ := (h.shut hhalted).move hmove hconnect hstrays
  constructor
  · obtain hkeeps | ⟨heq, _⟩ | ⟨_, _, heq⟩ | ⟨_, _, hcurrent, _⟩ | ⟨other, _, hmem, _, heq⟩ :=
      hmove.keeps_or
    · right
      use id, hkeeps.current.trans h.current, hkeeps.stopping.trans h.stopping, hshut.state
      apply hshut.outlet
    · contradiction
    · right
      rw [heq]
      use id
      exact ⟨rfl, h.stopping, rfl, rfl⟩
    · rw [h.current] at hcurrent
      nomatch hcurrent
    · left
      apply tidy_of_charges_eq_nil _ hshut.state hshut.outlet
      rw [h.stopping, List.mem_singleton] at hmem
      rw [heq, charges]
      simp [h.current, h.stopping, hmem]
  · rw [hsignals, h.state, hshut.state]
    exact .stay _

theorem Attended.step (h : c.Attended) (now : Nat) (hx : c.Defers x) :
  (c.step now x).1.Attended
    ∧ (¬ c.Strays x → Signal.Turn c.state (ChannelEffect.signals (c.step now x).2)
      (c.step now x).1.state)
  := by
  have hmove := c.move_step now x
  have hhalted : (c.step now x).1.stopping ≠ [] → (c.step now x).1.halted = true := by
    intro hstopping
    obtain hkeeps | ⟨hconnect, _, heq⟩ | ⟨_, _, heq⟩ | ⟨_, _, _, _, heq⟩ | ⟨_, _, hmem, _, heq⟩ :=
      hmove.keeps_or
    · rw [hkeeps.stopping] at hstopping
      rw [hkeeps.halted, h.halted hstopping]
    · rw [heq] at hstopping
      apply absurd (hx hconnect) hstopping
    · rw [heq]
      rfl
    · rw [heq]
      rfl
    · rw [heq]
      apply h.halted (List.ne_nil_of_mem hmem)
  have hsound := h.sound.move hmove
  obtain htidy | ⟨id, hsevered⟩ := h.tidy
  · obtain ⟨hafter, hturn⟩ := htidy.step h.sound now hx
    exact ⟨⟨hsound, hhalted, hafter⟩, fun _ => hturn⟩
  · by_cases hstrays : c.Strays x
    · use ⟨hsound, hhalted, hsevered.step_of_strays h.sound now hstrays⟩
      exact fun hstraight => absurd hstrays hstraight
    · have hset : c.halted = true := by
        apply h.halted
        rw [hsevered.stopping]
        nofun
      obtain ⟨hafter, hturn⟩ := hsevered.step_of_not_strays hset now hx hstrays
      exact ⟨⟨hsound, hhalted, hafter⟩, fun _ => hturn⟩

/-- What is heard in a run can be walked along exactly when no input strays, and then it leads to the
state of the channel. -/
theorem Attended.run (h : c.Attended) {inputs : List (Nat × ChannelInput)}
    (hdefers : c.Along Defers inputs) :
  (c.run inputs).1.Attended
    ∧ (c.Straight inputs → (ChannelEffect.signals (c.run inputs).2).foldlM Signal.follow c.state
      = some (c.run inputs).1.state)
    ∧ (¬ c.Straight inputs →
      (ChannelEffect.signals (c.run inputs).2).foldlM Signal.follow c.state = none)
  := by
  induction inputs generalizing c with
  | nil => exact ⟨h, fun _ => rfl, fun hstraight => absurd trivial hstraight⟩
  | cons input inputs ih =>
      obtain ⟨hattended, hturn⟩ := h.step input.1 hdefers.1
      obtain ⟨hafter, hwalk, hrefused⟩ := ih hattended hdefers.2
      use hafter
      simp only [Channel.run, signals_append, List.foldlM_append]
      by_cases hstrays : c.Strays input.2
      · obtain ⟨hstate, s, hsignals, hfollow⟩ := hstrays.out_of_turn input.1
        constructor
        · exact fun hstraight => absurd hstrays hstraight.1
        · intro _
          simp [hsignals, hstate, hfollow]
      · rw [(hturn hstrays).walk]
        use fun hstraight => hwalk hstraight.2
        exact fun hstraight => hrefused fun hlater => hstraight ⟨hstrays, hlater⟩

theorem Tidy.straight (h : c.Tidy) (hsound : c.Sound) {inputs : List (Nat × ChannelInput)}
    (hawaits : c.Awaits inputs) :
  c.Straight inputs
  := by
  induction inputs generalizing c with
  | nil => trivial
  | cons input inputs ih =>
      have hmove := c.move_step input.1 input.2
      use h.not_strays hsound
      apply ih (h.move hsound hmove hawaits.1).1 (hsound.move hmove) hawaits.2

/-- When a `stop` is over, the channel is shut. -/
theorem Attended.shut_of_stopped (h : c.Attended) (hmove : c.Move now x b effects)
    (hstopped : .stopped ∈ effects) :
  b.Shut
  := by
  cases hmove with
  | halt => exact ⟨rfl, rfl, rfl⟩
  | finish stopping => exact ⟨h.halted (List.ne_nil_of_mem stopping), rfl, rfl⟩
  | start | answer | rouse | elapse => exact absurd hstopped (stopped_not_mem_dial _ _)
  | opened => exact absurd hstopped (stopped_not_mem_heard _ _)
  | failed | lose | closed => simp [stopped_not_mem_heard, discard] at hstopped
  | _ => simp at hstopped

/-! ### What takes texts -/

/-- A text that is sent is taken by a supervisor, to be written. -/
def Accepts (c : Channel) (now : Nat) (text : String) : Prop :=
  ∃ id phase, (c.phase id).push ⟨c.fresh, text⟩ = some phase
    ∧ c.step now (.send text) = ({ c.enter id phase with fresh := c.fresh + 1 }, [])

/-- The sender of a text learns that the channel is not open. -/
def Refuses (c : Channel) (now : Nat) (text : String) : Prop :=
  c.step now (.send text)
    = ({ c with fresh := c.fresh + 1 }, [.answer c.fresh (.error .notOpen)])

/-- The channel is open for texts, or it is not. -/
theorem Tidy.opened_or (h : c.Tidy) :
  (c.state ≠ .opened ∧ c.outlet = none)
    ∨ c.state = .opened ∧ ∃ id, c.outlet = some id
      ∧ ∀ frame, ∃ phase, (c.phase id).push frame = some phase
  := by
  cases hcharges : c.charges with
  | nil =>
      obtain ⟨hstate, houtlet⟩ := h.vacant hcharges
      left
      rw [hstate]
      use nofun
  | cons id others =>
      have hfits := h.fits id (by simp [hcharges])
      generalize hphase : c.phase id = phase at hfits
      cases hfits with
      | opened state outlet | writing state outlet | closing state outlet =>
          right
          use state, id, outlet
          intro frame
          rw [hphase]
          exact ⟨_, rfl⟩
      | created state outlet | waiting state outlet | dialing state outlet
        | ended state outlet | gone state outlet =>
          left
          rw [state]
          use nofun

theorem Attended.opened_or (h : c.Attended) :
  (c.state ≠ .opened ∧ c.outlet = none)
    ∨ c.state = .opened ∧ ∃ id, c.outlet = some id
      ∧ ∀ frame, ∃ phase, (c.phase id).push frame = some phase
  := by
  obtain htidy | ⟨_, hsevered⟩ := h.tidy
  · apply htidy.opened_or
  · left
    rw [hsevered.state]
    use nofun, hsevered.outlet

theorem Attended.opened_iff (h : c.Attended) :
  c.state = .opened ↔ c.outlet.isSome
  := by
  obtain ⟨hstate, houtlet⟩ | ⟨hstate, id, houtlet, _⟩ := h.opened_or
  · simp [hstate, houtlet]
  · simp [hstate, houtlet]

theorem refuses_of_outlet_eq_none (h : c.outlet = none) (now : Nat) (text : String) :
  c.Refuses now text
  := by
  apply step_send_of_refused
  rw [h]
  nofun

theorem Attended.accepts_or_refuses (h : c.Attended) (now : Nat) (text : String) :
  (c.state = .opened → c.Accepts now text) ∧ (c.state ≠ .opened → c.Refuses now text)
  := by
  obtain ⟨hne, houtlet⟩ | ⟨hstate, id, houtlet, hpush⟩ := h.opened_or
  · use fun heq => absurd heq hne
    exact fun _ => refuses_of_outlet_eq_none houtlet now text
  · constructor
    · intro _
      obtain ⟨phase, hphase⟩ := hpush ⟨c.fresh, text⟩
      use id, phase, hphase
      apply step_send_of_push houtlet hphase
    · exact fun hne => absurd hstate hne

/-! ### The life of a channel -/

/-- The channel after a run. -/
def reached (delay : Nat) (inputs : List (Nat × ChannelInput)) : Channel :=
  ((ofDelay delay).run inputs).1

/-- What listeners hear in a run. -/
def told (delay : Nat) (inputs : List (Nat × ChannelInput)) : List Signal :=
  ChannelEffect.signals ((ofDelay delay).run inputs).2

/-- What there is to say of a run. -/
structure Lifecycle (delay : Nat) (inputs : List (Nat × ChannelInput)) : Prop where
  /-- Listeners hear the beginning of a number of rounds exactly when no input strays. -/
  word : (∃ rest, told delay inputs ++ rest ∈ Signal.round∗) ↔ (ofDelay delay).Straight inputs
  /-- They are given a frame for every text that arrives and is one, in order. -/
  frames : (told delay inputs).filterMap Signal.frame?
    = ((ofDelay delay).arrivals inputs).filterMap fun text => (Frame.parse text).toOption
  /-- What arrives does not end the channel. -/
  arrival : ∀ now id,
    (∀ text, ((reached delay inputs).step now (.received id text)).1 = reached delay inputs)
      ∧ (reached delay inputs).step now (.ignored id) = (reached delay inputs, [])
  /-- The state is `opened` exactly when something takes texts. -/
  opened : (reached delay inputs).state = .opened ↔ (reached delay inputs).outlet.isSome
  /-- Texts are accepted then, and refused otherwise. -/
  texts : ∀ now text,
    ((reached delay inputs).state = .opened → (reached delay inputs).Accepts now text)
      ∧ ((reached delay inputs).state ≠ .opened → (reached delay inputs).Refuses now text)
  /-- Once a `stop` is over, and until the next `connect`, nobody dials, and nothing is heard as long
  as no input strays: the channel is closed, and all texts are refused.  If no input has strayed
  before, the last round is complete. -/
  stopped : ∀ earlier now x later, earlier ++ (now, x) :: later = inputs →
    .stopped ∈ ((reached delay earlier).step now x).2 → (∀ input ∈ later, input.2 ≠ .connect) →
    let after := ((reached delay earlier).step now x).1
    (∀ e ∈ (after.run later).2, e.dialer? = none)
      ∧ (ChannelEffect.signals (after.run later).2 = [] ↔ after.Straight later)
      ∧ (after.Straight later → (reached delay inputs).state = .closed
        ∧ ∀ now text, (reached delay inputs).Refuses now text)
      ∧ ((ofDelay delay).Straight inputs → told delay inputs ∈ Signal.round∗)
  /-- No input strays in a run in which neither `connect` nor another `stop` is called while a `stop`
  is waiting. -/
  awaited : (ofDelay delay).Awaits inputs → (ofDelay delay).Straight inputs

/-- The life of a channel, in every run in which `connect` is not called while a `stop` is waiting. -/
theorem lifecycle_of_defers (delay : Nat) (inputs : List (Nat × ChannelInput))
    (h : (ofDelay delay).Along Defers inputs) :
  Lifecycle delay inputs
  := by
  obtain ⟨hattended, hwalk, hrefused⟩ := (attended_ofDelay delay).run h
  constructor
  · rw [Signal.exists_append_mem_rounds_iff]
    by_cases hstraight : (ofDelay delay).Straight inputs
    · exact iff_of_true (Option.isSome_of_mem (hwalk hstraight)) hstraight
    · exact iff_of_false (Option.not_isSome_iff_eq_none.mpr (hrefused hstraight)) hstraight
  · apply filterMap_frame?_run
  · intro now id
    use fun text => (step_received _ now id text).1
    rfl
  · apply hattended.opened_iff
  · apply hattended.accepts_or_refuses
  · intro earlier now x later heq hstopped hlater after
    subst heq
    obtain ⟨hearlier, _, _⟩ := along_append.mp h
    have hbefore : (reached delay earlier).Attended := ((attended_ofDelay delay).run hearlier).1
    have hshut : after.Shut := hbefore.shut_of_stopped (move_step _ now x) hstopped
    obtain ⟨hsilent, hremains⟩ := hshut.run hlater
    have hrun : reached delay (earlier ++ (now, x) :: later) = (after.run later).1 := by
      rw [reached, run_append]
      rfl
    use dialer?_run_of_halted hshut.halted hlater, hsilent
    constructor
    · intro hstraight
      have hend := hremains hstraight
      rw [hrun]
      use hend.state
      apply refuses_of_outlet_eq_none hend.outlet
    · intro hstraight
      have hend := hremains (along_append.mp hstraight).2.2
      have hword : told delay (earlier ++ (now, x) :: later)
          ∈ Signal.course (reached delay (earlier ++ (now, x) :: later)).state :=
        Signal.mem_course_of_walk_closed (hwalk hstraight)
      rwa [hrun, hend.state] at hword
  · apply (tidy_ofDelay delay).straight (sound_ofDelay delay)

/-- A session in which a frame arrives, and a text that is none, and which is stopped. -/
def stoppedSession : List (Nat × ChannelInput) :=
  [(0, .connect), (0, .start 0), (1, .dialed 0 true), (2, .received 0 "?"),
    (3, .received 0 "\x7b\"event\":\"A\"\x7d"), (4, .stop), (4, .noticed 0), (5, .closed 0),
    (5, .finish 0)]

/-- The `stop` is awaited, the frame is heard of, and its round is complete. -/
theorem lifecycle_of_stoppedSession :
  (ofDelay 1000).Along Defers stoppedSession
    ∧ told 1000 stoppedSession = [.state .connecting, .state .opened,
      .inbound ⟨none, "A", .null, none, none⟩, .state .closed]
    ∧ told 1000 stoppedSession ∈ Signal.round∗
  := by
  have hdefers : (ofDelay 1000).Along Defers stoppedSession := by decide +kernel
  have hawaits : (ofDelay 1000).Awaits stoppedSession := by decide +kernel
  have hlife := lifecycle_of_defers 1000 stoppedSession hdefers
  have hstopped : .stopped ∈ ((reached 1000 (stoppedSession.take 8)).step 5 (.finish 0)).2 := by
    have hphase : (reached 1000 (stoppedSession.take 8)).phase 0 = .ended := by decide +kernel
    have hstopping : (reached 1000 (stoppedSession.take 8)).stopping = [0] := by decide +kernel
    simp [step, hphase, hstopping, endStop]
  use hdefers
  constructor
  · decide +kernel
  · apply (hlife.stopped (stoppedSession.take 8) 5 (.finish 0) [] rfl hstopped
      (List.forall_mem_nil _)).2.2.2
    apply hlife.awaited hawaits

/-- A session in which `stop` is called twice, and a frame arrives before the supervisor notices. -/
def stoppedAgain : List (Nat × ChannelInput) :=
  [(0, .connect), (0, .start 0), (1, .dialed 0 true), (2, .stop), (2, .stop),
    (3, .received 0 "\x7b\"event\":\"A\"\x7d")]

/-- The second `stop` is over at once, and yet the frame is heard of after it, which no round
admits. -/
theorem not_rounds_stoppedAgain :
  (ofDelay 1000).Along Defers stoppedAgain
    ∧ .stopped ∈ ((reached 1000 (stoppedAgain.take 4)).step 2 .stop).2
    ∧ told 1000 stoppedAgain = [.state .connecting, .state .opened, .state .closed,
      .inbound ⟨none, "A", .null, none, none⟩]
    ∧ ∀ rest, told 1000 stoppedAgain ++ rest ∉ Signal.round∗
  := by
  have htold : told 1000 stoppedAgain = [.state .connecting, .state .opened, .state .closed,
      .inbound ⟨none, "A", .null, none, none⟩] := by decide +kernel
  have hcurrent : (reached 1000 (stoppedAgain.take 4)).current = none := by decide +kernel
  have hvacant : (reached 1000 (stoppedAgain.take 4)).Vacant := by simp [Vacant, hcurrent]
  constructor
  · decide +kernel
  · rw [step_stop_of_vacant hvacant]
    use List.mem_append_right _ (List.mem_singleton.mpr rfl), htold
    apply not_exists.mp
    rw [htold, Signal.exists_append_mem_rounds_iff]
    nofun

end Channel

end Greenhouse
