import Greenhouse.Proofs.Channel.Lifecycle
import Greenhouse.Proofs.Service.Shutdown

/-!
# The end of a call of `stop`

During a call of `stop` that nobody disturbs, the supervisor that it has stopped is the only one
that is left, and none is left when the call goes on to the router (`Channel.Obeys`); the watchdog
stops with the router (`Service.Parked`).  So a call that has not returned has something to wait
for, and what it waits for can come to pass: the call can be brought to its end
(`Shutdown.InOrder.canEnd`).
-/

namespace Greenhouse

/-! ### The channel -/

namespace Channel

/-- The channel is as a call of `stop` has left it. -/
def Obeys (c : Channel) : StopPhase → Prop
  | .closing _ | .saving _ _ => c.stopping = []
  | .joining id => c.halted = true ∧ c.current = none ∧ c.stopping = [id]
  | .routing | .returned => c.Tidy ∧ c.charges = []

variable {c : Channel} {p : StopPhase}

theorem Obeys.step (h : c.Obeys p) (hsound : c.Sound) (now : Nat) {y : ChannelInput}
    (hconnect : y ≠ .connect) (hstop : y ≠ .stop) (hfinish : ∀ id, y ≠ .finish id) :
  (c.step now y).1.Obeys p
  := by
  have hmove := c.move_step now y
  obtain hkeeps | ⟨rfl, _⟩ | ⟨rfl, _⟩ | ⟨_, rfl, _⟩ | ⟨id, rfl, _⟩ := hmove.keeps_or
  · cases p with
    | closing | saving => exact hkeeps.stopping.trans h
    | joining id =>
        exact ⟨hkeeps.halted.trans h.1, hkeeps.current.trans h.2.1, hkeeps.stopping.trans h.2.2⟩
    | routing | returned =>
        have hstopping : c.stopping = [] := (List.append_eq_nil_iff.mp h.2).2
        use (h.1.move hsound hmove fun _ => hstopping).1
        rw [charges, hkeeps.current, hkeeps.stopping]
        apply h.2
  · contradiction
  · contradiction
  · contradiction
  · apply absurd rfl (hfinish id)

/-- Nothing is left of the channel, and it is closed. -/
theorem obeys_of_charges_eq_nil (hcharges : c.charges = []) (hstate : c.state = .closed)
    (houtlet : c.outlet = none) :
  c.Obeys .routing
  := by
  exact ⟨tidy_of_charges_eq_nil hcharges hstate houtlet, hcharges⟩

theorem Obeys.stop (h : c.Obeys (.closing [])) (now : Nat) :
  (c.step now .stop).1.Obeys (.ofAwaited c.awaited?)
  := by
  obtain hvacant | ⟨id, hcurrent, hlive⟩ := c.vacant_or_live
  · have hnone : c.awaited? = none := by
      apply Option.filter_eq_none_iff.mpr
      intro id hid
      simp [hvacant id hid]
    rw [step_stop_of_vacant hvacant, hnone]
    apply obeys_of_charges_eq_nil _ rfl rfl
    apply h
  · have hsome : c.awaited? = some id := by
      rw [awaited?, hcurrent]
      apply Option.filter_some_pos
      simpa using hlive
    rw [step_stop_of_live hcurrent hlive, hsome]
    use rfl, rfl
    apply congrArg (· ++ [id]) h

theorem Obeys.join {id : Nat} (h : c.Obeys (.joining id)) (hended : c.phase id = .ended)
    (now : Nat) :
  (c.step now (.finish id)).1.Obeys .routing
  := by
  obtain ⟨_, hcurrent, hstopping⟩ := h
  have hstep : (c.step now (.finish id)).1
      = { c with stopping := [], outlet := none, state := .closed } := by
    simp [Channel.step, hstopping, hended, endStop, setState]
  rw [hstep]
  apply obeys_of_charges_eq_nil _ rfl rfl
  rw [charges, hcurrent]
  rfl

end Channel

/-! ### The router and the watchdog -/

/-- What does not run does not run down, and takes no heartbeat. -/
theorem Watchdog.step_of_not_running {w : Watchdog} (h : w.running = none) (now : Nat)
    {x : WatchdogInput} (hx : x ≠ .start) :
  w.step now x = (w, [])
  := by
  cases x with
  | start => contradiction
  | stop =>
      rw [step, ← h]
  | beat beat => simp [step, h]
  | tick => simp [step, expire, h]

namespace Service

/-- A bridge whose router has ended has nothing to publish, and its watchdog does not run. -/
def Parked (s : Service) : Prop :=
  s.bridge.inbox = none → s.inHand = none ∧ s.bridge.watchdog.running = none

variable {s : Service}

/-- A router that has ended does not begin again by itself. -/
theorem inbox_step_of_none (h : s.bridge.inbox = none) (now : Nat) {x : ServiceInput}
    (hx : x ≠ .start) :
  (s.step now x).1.bridge.inbox = none
  := by
  cases x with
  | start => contradiction
  | halt =>
      have hdrained : s.isDrained = false := by simp [isDrained, h]
      simp [step, hdrained, h]
  | channel | submit =>
      rw [s.inbox_step_of_drivesChannel now rfl, h]
      rfl
  | take => simp [step, next?, h]
  | pass =>
      simp only [step]
      split <;> apply h
  | beat | tick | order | reply | settings => rw [(s.step_of_sparesRouter now rfl).1, h]

/-- The watchdog of a bridge whose router has ended is left alone. -/
theorem Parked.step_of_none (h : s.Parked) (hinbox : s.bridge.inbox = none) (now : Nat)
    {x : ServiceInput} (hx : x ≠ .start) :
  (s.step now x).1.inHand = none ∧ (s.step now x).1.bridge.watchdog = s.bridge.watchdog
  := by
  obtain ⟨hhand, hrunning⟩ := h hinbox
  cases x with
  | start => contradiction
  | halt =>
      have hdrained : s.isDrained = false := by simp [isDrained, hinbox]
      simp [step, hdrained, hhand]
  | channel | submit =>
      rw [s.step_of_drivesChannel now rfl]
      exact ⟨hhand, rfl⟩
  | take => simp [step, next?, hinbox, hhand]
  | pass => simp [step, hhand]
  | beat =>
      simp only [step]
      split
      · simp [watch, Watchdog.step_of_not_running hrunning, hhand]
      · exact ⟨hhand, rfl⟩
  | tick => simp [step, watch, Watchdog.step_of_not_running hrunning, hhand]
  | order | settings => exact ⟨hhand, rfl⟩
  | reply order reply =>
      rw [(s.step_of_sparesRouter now rfl).2]
      use hhand
      simp only [step]
      split
      · simp only
        rw [Bridge.finish_fst]
      · rfl

/-- A router ends when the bridge is stopped, once it has nothing left to do. -/
theorem eq_halt_of_inbox_eq_none {inbox : List Signal} (hinbox : s.bridge.inbox = some inbox)
    {now : Nat} {x : ServiceInput} (hafter : (s.step now x).1.bridge.inbox = none) :
  x = .halt ∧ s.isDrained = true
  := by
  cases x with
  | start =>
      rw [step_start, hinbox] at hafter
      simp [hinbox] at hafter
  | halt =>
      use rfl
      by_contra hdrained
      simp [step, hdrained, hinbox] at hafter
  | channel | submit =>
      rw [s.inbox_step_of_drivesChannel now rfl, hinbox] at hafter
      cases hafter
  | take =>
      simp only [step] at hafter
      split at hafter
      · cases hafter
      · rw [hinbox] at hafter
        cases hafter
  | pass =>
      simp only [step] at hafter
      split at hafter
      · rw [hinbox] at hafter
        cases hafter
      · rw [hinbox] at hafter
        cases hafter
  | beat | tick | order | reply | settings =>
      rw [(s.step_of_sparesRouter now rfl).1, hinbox] at hafter
      cases hafter

theorem act_orders (s : Service) (now : Nat) (signal : Signal) :
  (s.act now signal).orders = s.orders
  := by
  cases signal with
  | state state => rfl
  | inbound frame =>
      simp only [act, feed]
      split
      · split <;> rfl
      · rfl
      · rfl
      · rfl

/-- An order that has not been answered has been given. -/
theorem mem_orders_of_step {now : Nat} {x : ServiceInput} (hx : ∀ w, x ≠ .order w)
    {o : Nat × Order} (ho : o ∈ (s.step now x).1.orders) :
  o ∈ s.orders
  := by
  cases x with
  | order w => apply absurd rfl (hx w)
  | start =>
      rw [step_start] at ho
      split at ho <;> apply ho
  | halt =>
      simp only [step] at ho
      split at ho <;> apply ho
  | channel | submit =>
      rw [s.step_of_drivesChannel now rfl] at ho
      apply ho
  | take =>
      simp only [step] at ho
      split at ho
      · rwa [act_orders] at ho
      · apply ho
  | pass =>
      simp only [step] at ho
      split at ho <;> apply ho
  | beat =>
      simp only [step] at ho
      split at ho <;> apply ho
  | reply order reply =>
      simp only [step] at ho
      split at ho
      · apply (List.mem_filter.mp ho).1
      · apply ho
  | tick | settings => apply ho

/-- Whatever goes on, a router that has ended leaves nothing running. -/
theorem Parked.step (h : s.Parked) (now : Nat) (x : ServiceInput) :
  (s.step now x).1.Parked
  := by
  intro hafter
  cases hinbox : s.bridge.inbox with
  | none =>
      have hx : x ≠ .start := by
        rintro rfl
        rw [step_start, hinbox] at hafter
        nomatch hafter
      obtain ⟨hhand, hwatchdog⟩ := h.step_of_none hinbox now hx
      use hhand
      rw [hwatchdog]
      apply (h hinbox).2
  | some inbox =>
      obtain ⟨rfl, hdrained⟩ := eq_halt_of_inbox_eq_none hinbox hafter
      obtain ⟨hhand, _⟩ := s.isDrained_iff.mp hdrained
      rw [Service.step, hdrained]
      use hhand
      rfl

theorem parked_run (h : s.Parked) (inputs : List (Nat × ServiceInput)) :
  (s.run inputs).1.Parked
  := by
  induction inputs using List.reverseRecOn with
  | nil => apply h
  | append_singleton inputs input ih =>
      rw [run_append_singleton]
      apply ih.step

end Service

namespace Shutdown

variable {s : Service} {d e : Shutdown} {now : Nat} {x : ServiceInput}

/-- A call of `stop` goes on as it should. -/
structure InOrder (s : Service) (d : Shutdown) : Prop where
  saves : Saves s d
  sound : d.service.bridge.channel.Sound
  obeys : d.service.bridge.channel.Obeys d.phase
  parked : d.service.Parked
  ended : d.phase = .returned → d.service.bridge.inbox = none

theorem InOrder.other (h : InOrder s d) (hx : x.meddles = false) :
  InOrder s (d.step now (.other x))
  := by
  constructor
  · apply h.saves.other hx
  · simp only [step, goOn, Service.channel_step]
    split
    · apply h.sound.move (Channel.move_step _ _ _)
    · apply h.sound
  · simp only [step, goOn, Service.channel_step]
    split
    · next y hy =>
        cases x with
        | channel x =>
            obtain rfl := Option.some.inj hy
            apply h.obeys.step h.sound
            · rintro rfl
              cases hx
            · rintro rfl
              cases hx
            · rintro id rfl
              cases hx
        | submit command =>
            obtain rfl := Option.some.inj hy
            apply h.obeys.step h.sound now
            · rintro ⟨⟩
            · rintro ⟨⟩
            · rintro _ ⟨⟩
        | start => cases hx
        | halt | take | pass | beat | tick | order | reply | settings => cases hy
    · apply h.obeys
  · apply h.parked.step
  · intro hreturned
    apply Service.inbox_step_of_none (h.ended hreturned)
    rintro rfl
    cases hx

theorem InOrder.proceed (h : InOrder s d) (hwired : s.bridge.autosave.Wired)
    (hproceeds : d.Proceeds now e) :
  InOrder s e
  := by
  have hsaves := h.saves.proceed hwired hproceeds
  have hobeys := h.obeys
  have hchannel (y : ChannelInput) : (d.service.step now (.channel y)).1.bridge.channel
      = (d.service.bridge.channel.step now y).1 := d.service.channel_step now (.channel y)
  have hsound (y : ChannelInput) : (d.service.step now (.channel y)).1.bridge.channel.Sound := by
    rw [hchannel]
    apply h.sound.move (Channel.move_step _ _ _)
  cases hproceeds with
  | waits => apply h
  | @close name rest phase =>
      rw [phase] at hobeys
      use hsaves, h.sound
      · cases d.service.sends (.settings (.flush name)) <;> apply hobeys
      · apply h.parked.step
      · cases d.service.sends (.settings (.flush name)) <;> rintro ⟨⟩
  | answered phase answered =>
      rw [phase] at hobeys
      exact ⟨hsaves, h.sound, hobeys, h.parked, by rintro ⟨⟩⟩
  | stop phase =>
      rw [phase] at hobeys
      use hsaves, hsound .stop
      · simp only [goOn, hchannel]
        apply hobeys.stop
      · apply h.parked.step
      · cases d.service.bridge.channel.awaited? <;> rintro ⟨⟩
  | @join id phase ended =>
      rw [phase] at hobeys
      use hsaves, hsound (.finish id)
      · simp only [goOn, hchannel]
        apply hobeys.join ended
      · apply h.parked.step
      · rintro ⟨⟩
  | halt phase drained =>
      rw [phase] at hobeys
      use hsaves
      · simp only [goOn, d.service.channel_step]
        apply h.sound
      · simp only [goOn, d.service.channel_step]
        apply hobeys
      · apply h.parked.step
      · intro _
        simp [goOn, Service.step, drained]
  | leave phase inbox =>
      rw [phase] at hobeys
      use hsaves, h.sound, hobeys
      · intro hinbox
        use (h.parked hinbox).1
        rfl
      · intro _
        apply inbox

theorem InOrder.step (h : InOrder s d) (hwired : s.bridge.autosave.Wired) {x : ShutdownInput}
    (hx : ∀ y, x = .other y → y.meddles = false) :
  InOrder s (d.step now x)
  := by
  cases x with
  | proceed => apply h.proceed hwired (d.proceeds now)
  | other y => apply h.other (hx y rfl)

/-- A call of `stop` goes on as it should when nobody disturbs it. -/
theorem inOrder_run (htidy : s.bridge.autosave.Tidy) (hsaves : s.bridge.autosave.saves = [])
    (hsound : s.bridge.channel.Sound) (hstopping : s.bridge.channel.stopping = [])
    (hparked : s.Parked) {inputs : List (Nat × ShutdownInput)} (hinputs : Undisturbed inputs) :
  InOrder s ((ofService s).run inputs)
  := by
  induction inputs using List.reverseRecOn with
  | nil => exact ⟨saves_ofService htidy hsaves, hsound, hstopping, hparked, nofun⟩
  | append_singleton inputs input ih =>
      rw [run_append_singleton]
      apply (ih _).step htidy.toWired
      · apply hinputs input (List.mem_append_right _ (List.mem_singleton_self input))
      · intro other hother
        apply hinputs other (List.mem_append_left _ hother)

end Shutdown

/-! ### The end of the call -/

/-- A save that has been answered is not under way. -/
theorem Autosave.id_ne_of_answered {a : Autosave} {save : Nat}
    (reply : Except RequestError SettingsResponse) {v : Save}
    (hv : v ∈ (a.step (.answer save reply)).1.saves) :
  v.id ≠ save
  := by
  cases hfind : a.saves.find? fun v => v.id = save with
  | none =>
      simp only [step, hfind] at hv
      simpa using List.find?_eq_none.mp hfind v hv
  | some other =>
      have hid : other.id = save := by simpa using List.find?_some hfind
      rw [a.step_answer_of_find? hfind, saves_answer] at hv
      rw [← hid]
      simpa using (List.mem_filter.mp hv).2

namespace Channel

variable {c : Channel} {now id : Nat} {x : ChannelInput}

/-- A supervisor that comes to dial when the flag is set ends. -/
theorem Comes.phase_of_halted (h : c.Comes now id x) (hhalted : c.halted = true) :
  (c.step now x).1.phase id = .ended
  := by
  obtain ⟨d, hstep, heq, hlive⟩ := h.step_eq
  rw [hstep, dial, heq, if_pos hhalted]
  apply (d.phase_enter hlive .ended id).trans
  apply if_pos rfl

/-- A supervisor that loses the channel when the flag is set ends when it has waited. -/
theorem exists_ended_of_loser (hx : c.loser? x = some id)
    (hmeddles : (ServiceInput.channel x).meddles = false) (hhalted : c.halted = true) (now : Nat) :
  ∃ inputs : List (Nat × ChannelInput),
    (∀ input ∈ inputs, (ServiceInput.channel input.2).meddles = false)
      ∧ (c.run inputs).1.phase id = .ended
  := by
  have hkept : (c.step now x).1.halted = true := by
    obtain hkeeps | ⟨rfl, _⟩ | ⟨rfl, _⟩ | ⟨_, rfl, _⟩ | ⟨_, rfl, _⟩ := (c.move_step now x).keeps_or
    · rw [hkeeps.halted, hhalted]
    · nomatch hx
    · nomatch hx
    · nomatch hx
    · nomatch hx
  use [(now, x), (now + waitLength c.delay, .elapsed id)]
  constructor
  · simp only [List.forall_mem_cons]
    exact ⟨hmeddles, rfl, nofun⟩
  · apply Comes.phase_of_halted (.elapsed (phase_of_loser now hx).2 (Nat.le_refl _)) hkept

/-- When the flag is set, every supervisor can be brought to its end. -/
theorem exists_ended (hhalted : c.halted = true) (now id : Nat) :
  ∃ inputs : List (Nat × ChannelInput),
    (∀ input ∈ inputs, (ServiceInput.channel input.2).meddles = false)
      ∧ (c.run inputs).1.phase id = .ended
  := by
  have hone (now : Nat) (x : ChannelInput) (hx : (ServiceInput.channel x).meddles = false)
      (h : (c.step now x).1.phase id = .ended) : ∃ inputs : List (Nat × ChannelInput),
        (∀ input ∈ inputs, (ServiceInput.channel input.2).meddles = false)
          ∧ (c.run inputs).1.phase id = .ended := by
    use [(now, x)]
    constructor
    · simpa using hx
    · apply h
  cases hphase : c.phase id with
  | created => apply hone now (.start id) rfl (Comes.phase_of_halted (.start hphase) hhalted)
  | dialing =>
      apply exists_ended_of_loser (x := .dialed id false) _ rfl hhalted now
      rw [loser?, if_pos hphase]
  | opened queue =>
      apply exists_ended_of_loser (x := .lost id) _ rfl hhalted now
      simp only [loser?, hphase]
  | writing frame queue =>
      apply exists_ended_of_loser (x := .written id false) _ rfl hhalted now
      simp only [loser?, hphase]
  | closing queue =>
      apply hone now (.closed id) rfl
      have hlive : c.phase id ≠ .ended := by
        rw [hphase]
        rintro ⟨⟩
      simp only [step, hphase]
      apply (c.phase_enter hlive .ended id).trans
      apply if_pos rfl
  | waiting due called =>
      apply hone due (.elapsed id) rfl
      apply Comes.phase_of_halted (.elapsed hphase (Nat.le_refl due)) hhalted
  | ended =>
      use []
      constructor
      · rintro _ ⟨⟩
      · apply hphase

end Channel

namespace Service

theorem run_channel (s : Service) (inputs : List (Nat × ChannelInput)) :
  (s.run (inputs.map fun input => (input.1, .channel input.2))).1.bridge.channel
    = (s.bridge.channel.run inputs).1
  := by
  induction inputs generalizing s with
  | nil => rfl
  | cons input rest ih =>
      rw [List.map_cons, run_cons, ih, channel_step]
      rfl

end Service

namespace Shutdown

variable {s : Service} {d : Shutdown} {now : Nat}

/-- The call can be brought to its end. -/
def CanEnd (d : Shutdown) : Prop :=
  ∃ inputs, Undisturbed inputs ∧ (d.run inputs).phase = .returned

/-- These parts of the bridge go on. -/
def beside (inputs : List (Nat × ServiceInput)) : List (Nat × ShutdownInput) :=
  inputs.map fun input => (input.1, .other input.2)

theorem run_beside (d : Shutdown) (inputs : List (Nat × ServiceInput)) :
  (d.run (beside inputs)).service = (d.service.run inputs).1
    ∧ (d.run (beside inputs)).phase = d.phase
  := by
  induction inputs generalizing d with
  | nil => exact ⟨rfl, rfl⟩
  | cons input rest ih =>
      obtain ⟨hservice, hphase⟩ := ih (d.step input.1 (.other input.2))
      exact ⟨hservice, hphase⟩

theorem undisturbed_beside {inputs : List (Nat × ServiceInput)}
    (h : ∀ input ∈ inputs, input.2.meddles = false) :
  Undisturbed (beside inputs)
  := by
  intro input hinput x hx
  obtain ⟨other, hother, rfl⟩ := List.mem_map.mp hinput
  obtain rfl := ShutdownInput.other.inj hx
  apply h other hother

theorem undisturbed_append {inputs more : List (Nat × ShutdownInput)} (h : Undisturbed inputs)
    (hmore : Undisturbed more) :
  Undisturbed (inputs ++ more)
  := by
  intro input hinput
  obtain hinput | hinput := List.mem_append.mp hinput
  · apply h input hinput
  · apply hmore input hinput

theorem undisturbed_proceed (now : Nat) :
  Undisturbed [(now, .proceed)]
  := by
  intro input hinput x hx
  rw [List.mem_singleton.mp hinput] at hx
  nomatch hx

theorem CanEnd.of_run {inputs : List (Nat × ShutdownInput)} (hinputs : Undisturbed inputs)
    (h : (d.run inputs).CanEnd) :
  d.CanEnd
  := by
  obtain ⟨more, hmore, hreturned⟩ := h
  use inputs ++ more, undisturbed_append hinputs hmore
  rw [run_append]
  apply hreturned

theorem CanEnd.of_proceed (now : Nat) (h : (d.proceed now).CanEnd) :
  d.CanEnd
  := by
  apply CanEnd.of_run (undisturbed_proceed now) h

theorem phase_proceed_of_drained (hphase : d.phase = .routing)
    (hdrained : d.service.isDrained = true) :
  (d.proceed now).phase = .returned
  := by
  obtain ⟨_, hinbox⟩ := d.service.isDrained_iff.mp hdrained
  simp only [proceed, hphase, hinbox, hdrained, if_true]

/-- A router that goes on disturbs nobody. -/
theorem meddles_of_routing {input : Nat × ServiceInput} {inbox : List Signal}
    (h : input ∈ Service.routing now inbox) :
  input.2.meddles = false
  := by
  simp only [Service.routing, List.mem_flatMap, List.mem_cons, List.not_mem_nil, or_false] at h
  obtain ⟨_, _, rfl | rfl | rfl⟩ := h <;> rfl

/-- The router publishes what is in its hand, takes everything that is waiting, and ends. -/
theorem canEnd_of_routing (hphase : d.phase = .routing) (now : Nat) :
  d.CanEnd
  := by
  cases hinbox : d.service.bridge.inbox with
  | none =>
      apply CanEnd.of_proceed now
      use [], nofun
      simp only [run, List.foldl_nil, proceed, hphase, hinbox]
  | some inbox =>
      have hpass : (d.service.step now .pass).1.inHand = none
          ∧ (d.service.step now .pass).1.bridge.inbox = some inbox := by
        simp only [Service.step]
        cases hhand : d.service.inHand <;> simp [hhand, hinbox]
      obtain ⟨hservice, hsame⟩ := d.run_beside ((now, .pass) :: Service.routing now inbox)
      rw [Service.run_cons] at hservice
      have hdrained := Service.drained_run_routing now hpass.1 hpass.2
      rw [hphase] at hsame
      have hmeddles (input : Nat × ServiceInput)
          (hinput : input ∈ (now, .pass) :: Service.routing now inbox) :
          input.2.meddles = false := by
        obtain rfl | hinput := List.mem_cons.mp hinput
        · rfl
        · apply meddles_of_routing hinput
      apply CanEnd.of_run (undisturbed_beside hmeddles)
      apply CanEnd.of_proceed now
      use [], nofun
      apply phase_proceed_of_drained hsame
      rw [hservice]
      apply hdrained

/-- The supervisor that has been stopped ends. -/
theorem canEnd_of_joining (h : InOrder s d) {id : Nat} (hphase : d.phase = .joining id)
    (now : Nat) :
  d.CanEnd
  := by
  have hobeys := h.obeys
  rw [hphase] at hobeys
  obtain ⟨inputs, hinputs, hended⟩ := Channel.exists_ended hobeys.1 now id
  have hmeddles (input : Nat × ServiceInput)
      (hinput : input ∈ inputs.map fun input => (input.1, .channel input.2)) :
      input.2.meddles = false := by
    obtain ⟨other, hother, rfl⟩ := List.mem_map.mp hinput
    apply hinputs other hother
  obtain ⟨hservice, hsame⟩ := d.run_beside (inputs.map fun input => (input.1, .channel input.2))
  rw [hphase] at hsame
  apply CanEnd.of_run (undisturbed_beside hmeddles)
  apply CanEnd.of_proceed now
  apply canEnd_of_routing _ now
  simp only [proceed, hsame, hservice, Service.run_channel, hended, if_true]

/-- The save that is awaited is answered. -/
theorem canEnd_of_saving {save : Nat} {rest : List String} (h : InOrder s d)
    (hwired : s.bridge.autosave.Wired) (hphase : d.phase = .saving save rest) (now : Nat)
    (hclosing : ∀ e, InOrder s e → e.phase = .closing rest → e.CanEnd) :
  d.CanEnd
  := by
  let x : ServiceInput := .settings (.answer save (.error (.unreachable "")))
  have hanswered : (d.step now (.other x)).service.bridge.autosave.saves.any (fun v => v.id = save)
      = false := by
    apply List.any_eq_false.mpr
    intro v hv
    rw [decide_eq_true_iff]
    apply Autosave.id_ne_of_answered (.error (.unreachable "")) hv
  have horder : InOrder s (d.step now (.other x)) := h.other rfl
  have hsame : (d.step now (.other x)).phase = .saving save rest := hphase
  have hinputs : Undisturbed (beside [(now, x)]) := by
    apply undisturbed_beside
    simp [x, ServiceInput.meddles]
  apply CanEnd.of_run hinputs
  apply CanEnd.of_proceed now
  apply hclosing _ (horder.proceed hwired (proceeds _ now))
  rw [proceed]
  simp only [hsame, hanswered]
  rfl

/-- The sections are saved one after the other. -/
theorem canEnd_of_closing (h : InOrder s d) (hwired : s.bridge.autosave.Wired) {rest : List String}
    (hphase : d.phase = .closing rest) (now : Nat) :
  d.CanEnd
  := by
  have horder := h.proceed hwired (d.proceeds now)
  apply CanEnd.of_proceed now
  induction rest generalizing d with
  | nil =>
      have hnext : (d.proceed now).phase = .ofAwaited d.service.bridge.channel.awaited? := by
        simp only [proceed, hphase]
      cases hawaited : d.service.bridge.channel.awaited? with
      | none =>
          rw [hawaited] at hnext
          apply canEnd_of_routing hnext now
      | some id =>
          rw [hawaited] at hnext
          apply canEnd_of_joining horder hnext now
  | cons name rest ih =>
      have hclosing (e : Shutdown) (he : InOrder s e) (hphase : e.phase = .closing rest) :
          e.CanEnd :=
        CanEnd.of_proceed now (ih he hphase (he.proceed hwired (e.proceeds now)))
      have hnext : (d.proceed now).phase
          = .ofSent (d.service.sends (.settings (.flush name))) rest := by
        simp only [proceed, hphase]
      cases hsent : d.service.sends (.settings (.flush name)) with
      | none =>
          rw [hsent] at hnext
          apply hclosing _ horder hnext
      | some v =>
          rw [hsent] at hnext
          apply canEnd_of_saving horder hwired hnext now hclosing

/-- Whatever has gone on, the call can be brought to its end. -/
theorem InOrder.canEnd (h : InOrder s d) (hwired : s.bridge.autosave.Wired) (now : Nat) :
  d.CanEnd
  := by
  cases hphase : d.phase with
  | closing rest => apply canEnd_of_closing h hwired hphase now
  | saving save rest =>
      apply canEnd_of_saving h hwired hphase now
      intro e he hclosing
      apply canEnd_of_closing he hwired hclosing now
  | joining id => apply canEnd_of_joining h hphase now
  | routing => apply canEnd_of_routing hphase now
  | returned =>
      use []
      exact ⟨nofun, hphase⟩

end Shutdown

end Greenhouse
