import Greenhouse.Proofs.Channel.Dial

/-!
# The supervisor in charge

A supervisor brings the channel from one state to the next without looking at the state.  As long
as neither `connect` nor another `stop` is called while a `stop` is waiting, there is one supervisor
at most that is in charge, the state of the channel and what takes texts are those that go with its
phase, and so each input is one of the turns that listeners expect.
-/

namespace Greenhouse

/-- What listeners hear of effects. -/
def ChannelEffect.signals (effects : List ChannelEffect) : List Signal :=
  effects.filterMap ChannelEffect.signal?

/-- What is heard of one input, and the states before it and after it. -/
inductive Signal.Turn : ConnectionState → List Signal → ConnectionState → Prop
  | stay (state : ConnectionState) : Turn state [] state
  | dial : Turn .closed [.state .connecting] .connecting
  | opened : Turn .connecting [.state .opened] .opened
  | hear (frame : Frame) : Turn .opened [.inbound frame] .opened
  | failed : Turn .connecting [.state .closed] .closed
  | lost : Turn .opened [.state .closed] .closed

namespace Channel

/-! ### The supervisor in charge -/

/-- The supervisors that a call deals with, or waits for. -/
def charges (c : Channel) : List Nat := c.current.toList ++ c.stopping

/-- The state of the channel, and what takes texts, are those that go with a phase. -/
inductive Fits (c : Channel) (id : Nat) : Phase → Prop
  | created (state : c.state = .closed) (outlet : c.outlet = none) : Fits c id .created
  | waiting {due : Nat} {called : Bool} (state : c.state = .closed) (outlet : c.outlet = none) :
    Fits c id (.waiting due called)
  | dialing (state : c.state = .connecting) (outlet : c.outlet = none) : Fits c id .dialing
  | opened {queue : List Outgoing} (state : c.state = .opened) (outlet : c.outlet = some id) :
    Fits c id (.opened queue)
  | writing {frame : Outgoing} {queue : List Outgoing} (state : c.state = .opened)
    (outlet : c.outlet = some id) : Fits c id (.writing frame queue)
  | closing {queue : List Outgoing} (state : c.state = .opened) (outlet : c.outlet = some id) :
    Fits c id (.closing queue)
  | ended (state : c.state = .closed) (outlet : c.outlet = none) : Fits c id .ended
  /-- It has given up dialing, and the `stop` that waits for it has not gone on. -/
  | gone (state : c.state = .connecting) (outlet : c.outlet = none) (stopping : id ∈ c.stopping) :
    Fits c id .ended

/-- One supervisor at most is in charge, and the state of the channel is what its phase says. -/
structure Tidy (c : Channel) : Prop where
  alone : c.charges.length ≤ 1
  vacant : c.charges = [] → c.state = .closed ∧ c.outlet = none
  fits : ∀ id ∈ c.charges, c.Fits id (c.phase id)

variable {c b : Channel} {now id : Nat} {x : ChannelInput} {effects : List ChannelEffect}

theorem tidy_ofDelay (delay : Nat) :
  (ofDelay delay).Tidy
  := by
  constructor
  · apply Nat.zero_le
  · intro _
    use rfl
    rfl
  · nofun

theorem Sound.mem_charges (h : c.Sound) (hlive : c.phase id ≠ .ended) :
  id ∈ c.charges
  := by
  rw [charges, List.mem_append, Option.mem_toList]
  apply h.live id hlive

/-- A supervisor that is in charge, and nobody else. -/
theorem Tidy.charges_eq (h : c.Tidy) (hid : id ∈ c.charges) :
  c.charges = [id]
  := by
  obtain ⟨other, heq⟩ : ∃ other, c.charges = [other] := by
    apply List.length_eq_one_iff.mp
    apply Nat.le_antisymm h.alone (List.length_pos_of_mem hid)
  rw [heq] at hid ⊢
  rw [List.mem_singleton.mp hid]

/-- The supervisor in charge goes on. -/
theorem Tidy.of_fits (h : c.Tidy) (hid : id ∈ c.charges) (hcharges : b.charges = c.charges)
    (hfits : b.Fits id (b.phase id)) :
  b.Tidy
  := by
  have heq := hcharges.trans (h.charges_eq hid)
  constructor
  · rw [heq]
    apply Nat.le_refl
  · rw [heq]
    nofun
  · intro other hother
    rw [heq, List.mem_singleton] at hother
    rwa [hother]

/-- Nobody is in charge any more. -/
theorem tidy_of_charges_eq_nil (h : b.charges = []) (hstate : b.state = .closed)
    (houtlet : b.outlet = none) :
  b.Tidy
  := by
  constructor
  · rw [h]
    apply Nat.zero_le
  · intro _
    use hstate
  · rw [h]
    nofun

theorem Fits.of_eq {phase : Phase} (h : c.Fits id phase) (hstate : b.state = c.state)
    (houtlet : b.outlet = c.outlet) (hstopping : id ∈ c.stopping → id ∈ b.stopping) :
  b.Fits id phase
  := by
  cases h with
  | created state outlet => exact .created (hstate.trans state) (houtlet.trans outlet)
  | waiting state outlet => exact .waiting (hstate.trans state) (houtlet.trans outlet)
  | dialing state outlet => exact .dialing (hstate.trans state) (houtlet.trans outlet)
  | opened state outlet => exact .opened (hstate.trans state) (houtlet.trans outlet)
  | writing state outlet => exact .writing (hstate.trans state) (houtlet.trans outlet)
  | closing state outlet => exact .closing (hstate.trans state) (houtlet.trans outlet)
  | ended state outlet => exact .ended (hstate.trans state) (houtlet.trans outlet)
  | gone state outlet stopping =>
      exact .gone (hstate.trans state) (houtlet.trans outlet) (hstopping stopping)

theorem Fits.push {frame : Outgoing} {phase after : Phase} (h : c.Fits id phase)
    (hpush : phase.push frame = some after) :
  c.Fits id after
  := by
  cases h with
  | opened state outlet =>
      obtain rfl := Option.some.inj hpush
      exact .opened state outlet
  | writing state outlet =>
      obtain rfl := Option.some.inj hpush
      exact .writing state outlet
  | closing state outlet =>
      obtain rfl := Option.some.inj hpush
      exact .closing state outlet
  | created | waiting | dialing | ended | gone => nomatch hpush

/-- A supervisor that has not ended is in charge, and its phase fits. -/
theorem Tidy.fits_of_live (h : c.Tidy) (hsound : c.Sound) {phase : Phase}
    (hphase : c.phase id = phase) (hlive : phase ≠ .ended) :
  id ∈ c.charges ∧ c.phase id ≠ .ended ∧ c.Fits id phase
  := by
  subst hphase
  have hid := hsound.mem_charges hlive
  use hid, hlive, h.fits id hid

/-- When there is no supervisor to deal with, and none to wait for, the channel is closed. -/
theorem Tidy.closed_of_vacant (h : c.Tidy) (hvacant : c.Vacant) (hstopping : c.stopping = []) :
  c.state = .closed ∧ c.outlet = none
  := by
  cases hcurrent : c.current with
  | none =>
      apply h.vacant
      rw [charges, hcurrent, hstopping]
      rfl
  | some id =>
      have hfits := h.fits id (by simp [charges, hcurrent])
      rw [hvacant id hcurrent] at hfits
      cases hfits with
      | ended state outlet => exact ⟨state, outlet⟩
      | gone _ _ stopping =>
          rw [hstopping] at stopping
          nomatch stopping

/-- The supervisor in charge goes over to a phase that fits. -/
theorem Tidy.enter (h : c.Tidy) (hid : id ∈ c.charges) {d : Channel}
    (hcharges : d.charges = c.charges) (hlive : d.phase id ≠ .ended) {phase : Phase}
    {state : ConnectionState} {outlet : Option Nat} {fresh : Nat}
    (hfits : Fits { d.enter id phase with state, outlet, fresh } id phase) :
  Tidy { d.enter id phase with state, outlet, fresh }
  := by
  refine h.of_fits hid hcharges ?_
  rwa [show Channel.phase { d.enter id phase with state, outlet, fresh } id = phase from
    (d.phase_enter hlive phase id).trans (if_pos rfl)]

/-- Calls change nothing that matters here. -/
theorem Tidy.calls (h : c.Tidy) (hcalls : c.Calls b) :
  b.Tidy
  := by
  have hcharges : b.charges = c.charges := by
    rw [hcalls.shared]
    rfl
  constructor
  · rw [hcharges]
    apply h.alone
  · rw [hcharges, hcalls.shared]
    apply h.vacant
  · intro id hid
    rw [hcharges] at hid
    have hfits : b.Fits id (c.phase id) := by
      apply (h.fits id hid).of_eq
      · rw [hcalls.shared]
      · rw [hcalls.shared]
      · rw [hcalls.shared]
        exact fun hstopping => hstopping
    obtain heq | ⟨due, hbefore, hafter⟩ := hcalls.phase id
    · rwa [heq]
    · rw [hbefore] at hfits
      rw [hafter]
      cases hfits with
      | waiting state outlet => exact .waiting state outlet

/-! ### Turns -/

theorem signals_append (effects more : List ChannelEffect) :
  ChannelEffect.signals (effects ++ more)
    = ChannelEffect.signals effects ++ ChannelEffect.signals more
  := List.filterMap_append

theorem signals_heard (c : Channel) (state : ConnectionState) :
  ChannelEffect.signals (c.heard state) = if c.state = state then [] else [.state state]
  := by
  rw [heard, setState]
  split <;> rfl

theorem signals_discard (queue : List Outgoing) :
  ChannelEffect.signals (discard queue) = []
  := by
  rw [ChannelEffect.signals, discard, List.filterMap_map, List.filterMap_eq_nil_iff]
  intro _ _
  rfl

/-- A supervisor comes to dial when the channel is closed. -/
theorem Tidy.dial (h : c.Tidy) (hid : id ∈ c.charges) {d : Channel}
    (hcharges : d.charges = c.charges) (hlive : d.phase id ≠ .ended)
    (hstate : d.state = .closed) (houtlet : d.outlet = none) :
  (d.dial id).1.Tidy
    ∧ Signal.Turn d.state (ChannelEffect.signals (d.dial id).2) (d.dial id).1.state
  := by
  obtain ⟨_, heq⟩ | ⟨_, heq⟩ := d.dial_cases id
  · rw [heq]
    use h.enter hid hcharges hlive (.ended hstate houtlet)
    exact .stay _
  · rw [heq]
    use h.enter hid hcharges hlive (.dialing rfl houtlet)
    rw [signals_append, signals_heard, hstate, if_neg nofun]
    exact .dial

/-- Nobody ends unless the flag has been set, and then a `stop` is waiting. -/
theorem Sound.mem_stopping_of_isNews (h : c.Sound) (hnews : c.isNews id)
    (hphase : c.phase id = .dialing) :
  id ∈ c.stopping
  := by
  have hlive : c.phase id ≠ .ended := by
    rw [hphase]
    nofun
  apply (h.live id hlive).resolve_left
  intro hcurrent
  obtain hcreated | hended | hcalm := h.calm id hcurrent
  · rw [hphase] at hcreated
    nomatch hcreated
  · contradiction
  · rw [hnews] at hcalm
    nomatch hcalm

/-- A supervisor loses the channel when it is open. -/
theorem Fits.opened_of_loses {queue : List Outgoing} (h : c.Fits id (c.phase id))
    (hloses : c.Loses id queue x) :
  c.state = .opened
  := by
  cases hloses with
  | lost phase =>
      rw [phase] at h
      cases h with
      | opened state => exact state
  | broken phase =>
      rw [phase] at h
      cases h with
      | writing state => exact state

/-- A new supervisor is the one in charge. -/
theorem Tidy.spawn (h : c.Tidy) (hsound : c.Sound) (hvacant : c.Vacant)
    (hstopping : c.stopping = []) :
  c.spawn.Tidy
  := by
  obtain ⟨hstate, houtlet⟩ := h.closed_of_vacant hvacant hstopping
  have hcharges : c.spawn.charges = [c.fresh] := congrArg (c.fresh :: ·) hstopping
  constructor
  · rw [hcharges]
    apply Nat.le_refl
  · rw [hcharges]
    nofun
  · intro id hid
    rw [hcharges, List.mem_singleton] at hid
    rw [c.phase_spawn hsound.ids, if_pos hid]
    exact .created hstate houtlet

/-- When the `stop` that waits for a supervisor is over, nobody is in charge. -/
theorem Tidy.charges_of_finish (h : c.Tidy) (hstopping : id ∈ c.stopping) :
  c.current = none ∧ c.stopping.erase id = []
  := by
  have heq := h.charges_eq (List.mem_append_right _ hstopping)
  cases hcurrent : c.current with
  | none =>
      rw [charges, hcurrent] at heq
      use rfl
      rw [show c.stopping = [id] from heq]
      simp
  | some other =>
      rw [charges, hcurrent] at heq
      have hnil : c.stopping = [] := (List.cons.inj heq).2
      rw [hnil] at hstopping
      nomatch hstopping

theorem Tidy.move (h : c.Tidy) (hsound : c.Sound) (hmove : c.Move now x b effects)
    (hawaited : x = .connect ∨ x = .stop → c.stopping = []) :
  b.Tidy ∧ Signal.Turn c.state (ChannelEffect.signals effects) b.state
  := by
  cases hmove with
  | idle => exact ⟨h, .stay _⟩
  | spawn vacant =>
      use h.spawn hsound vacant (hawaited (.inl rfl))
      exact .stay _
  | summon =>
      have hcalls := c.calls_callOut
      use h.calls hcalls
      rw [hcalls.shared]
      exact .stay _
  | halt vacant =>
      have hstopping := hawaited (.inr rfl)
      obtain ⟨hstate, _⟩ := h.closed_of_vacant vacant hstopping
      use tidy_of_charges_eq_nil hstopping rfl rfl
      rw [signals_append, signals_heard, if_pos hstate, hstate]
      exact .stay _
  | @seize id current live =>
      have hstopping := hawaited (.inr rfl)
      obtain ⟨hid, _, hfits⟩ := h.fits_of_live hsound rfl live
      refine ⟨h.of_fits hid ?_ (hfits.of_eq rfl rfl ?_), .stay _⟩
      · simp [charges, current, hstopping]
      · rw [hstopping]
        nofun
  | @finish id stopping phase =>
      obtain ⟨hcurrent, herase⟩ := h.charges_of_finish stopping
      have hfits := h.fits id (List.mem_append_right _ stopping)
      rw [phase] at hfits
      constructor
      · apply tidy_of_charges_eq_nil _ rfl rfl
        simp [charges, hcurrent, herase]
      · rw [signals_append, signals_heard]
        cases hfits with
        | ended state _ =>
            rw [if_pos state, state]
            exact .stay _
        | gone state _ _ =>
            rw [state, if_neg nofun]
            exact .failed
  | refuse =>
      refine ⟨⟨h.alone, h.vacant, fun id hid => ?_⟩, .stay _⟩
      exact (h.fits id hid).of_eq rfl rfl fun hstopping => hstopping
  | enqueue _ push =>
      obtain ⟨hid, hlive, hfits⟩ := h.fits_of_live hsound rfl (Phase.of_push push).1
      refine ⟨h.enter hid rfl hlive ?_, .stay _⟩
      exact (hfits.push push).of_eq rfl rfl fun hstopping => hstopping
  | @start id phase =>
      obtain ⟨hid, hlive, hfits⟩ := h.fits_of_live hsound phase nofun
      cases hfits with
      | created state outlet =>
          apply h.dial hid (d := c.update id fun s => { s with seen := c.version }) rfl _ state
            outlet
          rwa [c.phase_look]
  | answer phase =>
      obtain ⟨hid, hlive, hfits⟩ := h.fits_of_live hsound phase nofun
      cases hfits with
      | waiting state outlet =>
          apply h.dial hid rfl hlive state outlet
  | rouse phase =>
      obtain ⟨hid, hlive, hfits⟩ := h.fits_of_live hsound phase nofun
      cases hfits with
      | waiting state outlet =>
          apply h.dial hid (d := { c with permit := false }) rfl hlive state outlet
  | @elapse id _ called phase =>
      obtain ⟨hid, hlive, hfits⟩ := h.fits_of_live hsound phase nofun
      have hcalls := c.calls_passOn called
      cases hfits with
      | waiting state outlet =>
          have hstate : (c.passOn called).state = c.state := by rw [hcalls.shared]
          rw [← hstate]
          apply h.dial hid
          · rw [hcalls.shared]
            rfl
          · exact hcalls.ne_ended hlive
          · rw [hstate, state]
          · rwa [hcalls.shared]
  | opened phase =>
      obtain ⟨hid, hlive, hfits⟩ := h.fits_of_live hsound phase nofun
      cases hfits with
      | dialing state _ =>
          constructor
          · apply h.enter hid rfl hlive (.opened rfl rfl)
          · rw [signals_heard, state, if_neg nofun]
            exact .opened
  | failed phase =>
      obtain ⟨hid, hlive, hfits⟩ := h.fits_of_live hsound phase nofun
      cases hfits with
      | dialing state outlet =>
          constructor
          · apply h.enter hid rfl hlive (.waiting rfl outlet)
          · rw [signals_append, signals_heard, state, if_neg nofun]
            exact .failed
  | lose loses =>
      obtain ⟨hid, hlive, hfits⟩ := h.fits_of_live hsound rfl loses.ne_ended
      constructor
      · apply h.enter hid rfl hlive (.waiting rfl rfl)
      · rw [signals_append, signals_append, signals_discard, signals_heard,
          hfits.opened_of_loses loses, if_neg nofun]
        exact .lost
  | giveUp phase news =>
      obtain ⟨hid, hlive, hfits⟩ := h.fits_of_live hsound phase nofun
      cases hfits with
      | dialing state outlet =>
          refine ⟨h.enter hid rfl hlive (.gone state outlet ?_), .stay _⟩
          apply hsound.mem_stopping_of_isNews news phase
  | @leave id _ called phase =>
      obtain ⟨hid, hlive, hfits⟩ := h.fits_of_live hsound phase nofun
      have hcalls := (c.enter id .ended).calls_passOn called
      cases hfits with
      | waiting state outlet =>
          constructor
          · apply Tidy.calls _ hcalls
            apply h.enter hid rfl hlive (.ended state outlet)
          · rw [hcalls.shared]
            exact .stay _
  | @close id queue phase =>
      obtain ⟨hid, hlive, hfits⟩ := h.fits_of_live hsound phase nofun
      cases hfits with
      | opened state outlet =>
          refine ⟨h.of_fits hid rfl ?_, .stay _⟩
          rw [c.phase_update id (f := fun s => { s with seen := c.version, phase := .closing queue })
            (fun _ => rfl) (fun _ => rfl) hlive, if_pos rfl]
          exact .closing state outlet
  | closed phase =>
      obtain ⟨hid, hlive, hfits⟩ := h.fits_of_live hsound phase nofun
      cases hfits with
      | closing state _ =>
          constructor
          · apply h.enter hid rfl hlive (.ended rfl rfl)
          · rw [signals_append, signals_discard, signals_heard, state, if_neg nofun]
            exact .lost
  | take phase =>
      obtain ⟨hid, hlive, hfits⟩ := h.fits_of_live hsound phase nofun
      cases hfits with
      | opened state outlet =>
          use h.enter hid rfl hlive (.writing state outlet)
          exact .stay _
  | written phase =>
      obtain ⟨hid, hlive, hfits⟩ := h.fits_of_live hsound phase nofun
      cases hfits with
      | writing state outlet =>
          use h.enter hid rfl hlive (.opened state outlet)
          exact .stay _
  | receive phase =>
      obtain ⟨_, _, hfits⟩ := h.fits_of_live hsound phase nofun
      cases hfits with
      | opened state _ =>
          use h
          rw [state]
          exact .hear _
  | malformed => exact ⟨h, .stay _⟩

end Channel

end Greenhouse
